import RaspberryPiService.Common.Occurrence
import RaspberryPiService.CoreManager.DBusReceiver
import RaspberryPiService.CoreManager.TemperatureView

/-!
# The displayed temperature

The hardware manager reads the sensor's file, whose second line ends with the temperature
in thousandths of a degree, and sends the value in degrees as a text. The core manager
reads the text, adds one half and drops the fraction.

This file follows a value through the three components. Floating-point values are exact,
and a conversion to `int` that is not defined is a parameter.
-/

namespace RaspberryPiService

open NumberText

namespace GPIO

/--
`std::getline`: the line, and what the stream still has, unless it has come to its end; a
stream at its end leaves the line as it is.
-/
def getline (line : List Char) : Option (List Char) → List Char × Option (List Char)
  | none => (line, none)
  | some text =>
      (text.takeWhile (· ≠ '\n'),
        match text.dropWhile (· ≠ '\n') with
        | [] => none
        | _ :: rest => some rest)

/--
The result and the temperature after it; a file may be missing. `find` and `substr` take
what follows the first occurrence.
-/
def readTemperatureSensor (sensorFile : Option String) (temperature : ℚ) : Bool × ℚ :=
  match sensorFile with
  | none => (false, temperature)
  | some content =>
      let (line, stream) := getline [] (some content.toList)
      match Occurrence.afterFirst ['Y', 'E', 'S'] line with
      | none => (false, temperature)
      | some _ =>
          let (line, _) := getline line stream
          match Occurrence.afterFirst ['t', '='] line with
          | none => (false, temperature)
          | some number =>
              match stoi (String.ofList number) with
              | .ok tempMC => (true, tempMC.toInt / 1000)
              | .error _ => (false, temperature)

/--
The first line says that the checksum is right, and in the second one a number follows the
first `t=`.
-/
def Shows (content : String) (tempMC : Int32) : Prop :=
  ∃ first before number rest,
    content.toList = first ++ '\n' :: (before ++ ['t', '='] ++ number ++ rest) ∧
    '\n' ∉ first ∧ ['Y', 'E', 'S'] <:+: first ∧
    '\n' ∉ before ++ ['t', '='] ++ number ∧ Stops (· ≠ '\n') rest ∧
    ¬['t', '='] <:+: before ++ ['t'] ∧ readInteger number = some tempMC.toInt

section Reading

variable {text before rest line : List Char}

theorem isNotNewline_of_not_mem (unbroken : '\n' ∉ text) :
    ∀ character ∈ text, decide (character ≠ '\n') = true := by
  intro character present
  apply decide_eq_true
  rintro rfl
  exact unbroken present

theorem getline_of_newline (unbroken : '\n' ∉ text) :
    getline line (some (text ++ '\n' :: rest)) = (text, some rest) := by
  have stops : Stops (· ≠ '\n') ('\n' :: rest) := by
    rintro _ ⟨⟩
    rfl
  simp only [getline, takeWhile_append_of_stops (isNotNewline_of_not_mem unbroken) stops,
    dropWhile_append_of_stops (isNotNewline_of_not_mem unbroken) stops]

theorem getline_of_stops (unbroken : '\n' ∉ text) (stops : Stops (· ≠ '\n') rest) :
    (getline line (some (text ++ rest))).1 = text :=
  takeWhile_append_of_stops (isNotNewline_of_not_mem unbroken) stops

theorem readTemperatureSensor_of_shows {content : String} {tempMC : Int32}
    (isShown : Shows content tempMC) (temperature : ℚ) :
    readTemperatureSensor (some content) temperature = (true, (tempMC.toInt : ℚ) / 1000) := by
  rcases isShown with ⟨first, before, number, rest, text, unbroken, checked, secondUnbroken, stops,
    isFirst, read⟩
  obtain ⟨afterChecked, checksum⟩ :=
    Option.isSome_iff_exists.mp (Occurrence.afterFirst_isSome_iff.mpr checked)
  have found : Occurrence.afterFirst ['t', '='] (before ++ ['t', '='] ++ number) = some number := by
    rw [List.append_assoc]
    apply Occurrence.afterFirst_append
    rw [List.dropLast_append_cons]
    exact isFirst
  have converted : stoi (String.ofList number) = .ok tempMC := by
    rw [stoi_eq_ok_iff, String.toList_ofList]
    exact read
  simp only [readTemperatureSensor, text, getline_of_newline unbroken, checksum,
    getline_of_stops secondUnbroken stops, found, converted]

/-- A file of the usual form: the second line ends with a decimal number. -/
theorem shows_of_decimal {first : List Char} (unbroken : '\n' ∉ first)
    (checked : ['Y', 'E', 'S'] <:+: first) (beforeUnbroken : '\n' ∉ before)
    (isFirst : ¬['t', '='] <:+: before ++ ['t']) (tempMC : Int32) :
    Shows (String.ofList (first ++ '\n' ::
      (before ++ ['t', '='] ++ (toString tempMC.toInt).toList ++ '\n' :: rest))) tempMC := by
  refine ⟨first, before, (toString tempMC.toInt).toList, '\n' :: rest, String.toList_ofList,
    unbroken, checked, ?_, ?_, isFirst, ?_⟩
  · rw [List.mem_append, List.mem_append]
    rintro ((inBefore | inMark) | inNumber)
    · exact beforeUnbroken inBefore
    · exact absurd inMark (by decide)
    · rcases isDigit_or_minus_of_mem_toString _ _ inNumber with digit | minus
      · exact absurd digit (by decide)
      · exact absurd minus (by decide)
  · rintro _ ⟨⟩
    rfl
  · have stops : Stops Char.isDigit [] := by
      rintro _ ⟨⟩
    simpa using readInteger_toString tempMC.toInt stops

end Reading

end GPIO

/-- A round of `MonitorWorker::threadFunction`, whose message is sent if it can be made. -/
def MonitorWorker.report (memory : Memory) (objectpath interface signal : String)
    (sensorFile : Option String) (temperature : ℚ) : Except String DBusMessage :=
  let (ret, temperature) := GPIO.readTemperatureSensor sensorFile temperature
  let info := DBusDataInfo.init.set .temperatureValue (floatToString temperature)
  ISenderFactory.makeMsgNotiInternal memory objectpath interface signal .updateTemperatureNoti ret
    info

namespace HardwareHandler

/-- `static_cast<int>(temperatureValue + 0.5f)`. -/
def nextTemperature (undefinedCast : FloatValue → Int32) : FloatValue → Int
  | .finite temperatureValue =>
      let whole := truncate (temperatureValue + 1 / 2)
      if Int32.minValue.toInt ≤ whole ∧ whole ≤ Int32.maxValue.toInt then whole
      else (undefinedCast (.finite (temperatureValue + 1 / 2))).toInt
  | temperatureValue => (undefinedCast temperatureValue).toInt

def updateTemperatureNOTI (undefinedCast : FloatValue → Int32) (view : TemperatureView)
    (payload : NotiPayload) : TemperatureView :=
  match payload with
  | .notiTemperature isSuccess temperatureValue =>
      view.updateTemperatureNoti (nextTemperature undefinedCast)
        (if isSuccess then some temperatureValue else none)
  | _ => view

/-- The view after MainWorker has taken the events of a message. -/
def processEvents (undefinedCast : FloatValue → Int32) (view : TemperatureView) :
    List NotiEvent → TemperatureView
  | [] => view
  | event :: events =>
      match event.eventTypeId with
      | .updateTemperatureNoti =>
          processEvents undefinedCast (updateTemperatureNOTI undefinedCast view event.payload)
            events
      -- No other event concerns the temperature.
      | _ => processEvents undefinedCast view events

variable {undefinedCast : FloatValue → Int32}

theorem toInt_range (tempMC : Int32) :
    -2147483648 ≤ tempMC.toInt ∧ tempMC.toInt ≤ 2147483647 :=
  ⟨tempMC.minValue_le_toInt, tempMC.toInt_le⟩

/-- Truncated division is the floor of a number, or minus the floor of its opposite. -/
theorem tdiv_thousand (number : Int) :
    0 ≤ number ∧ number.tdiv 1000 = number / 1000 ∨
      number ≤ 0 ∧ number.tdiv 1000 = -(-number / 1000) := by
  rcases Int.le_total 0 number with nonneg | nonpos
  · left
    exact ⟨nonneg, Int.tdiv_eq_ediv_of_nonneg nonneg⟩
  · right
    rw [← Int.tdiv_eq_ediv_of_nonneg (Int.neg_nonneg_of_nonpos nonpos), Int.neg_tdiv, neg_neg]
    exact ⟨nonpos, rfl⟩

/-- Half a degree more is truncated, towards zero. -/
theorem nextTemperature_thousandths (tempMC : Int32) :
    nextTemperature undefinedCast (.finite ((tempMC.toInt : ℚ) / 1000)) =
      (tempMC.toInt + 500).tdiv 1000 := by
  have whole : truncate ((tempMC.toInt : ℚ) / 1000 + 1 / 2) = (tempMC.toInt + 500).tdiv 1000 := by
    have sum : (tempMC.toInt : ℚ) / 1000 + 1 / 2 =
        ((tempMC.toInt + 500 : Int) : ℚ) / (1000 : Nat) := by
      push_cast
      ring
    rw [sum, truncate_intCast_div]
    rfl
  have range := toInt_range tempMC
  have least : Int32.minValue.toInt = -2147483648 := by decide
  have greatest : Int32.maxValue.toInt = 2147483647 := by decide
  simp only [nextTemperature, whole]
  apply if_pos
  rw [least, greatest]
  rcases tdiv_thousand (tempMC.toInt + 500) with ⟨nonneg, quotient⟩ | ⟨nonpos, quotient⟩
  · omega
  · omega

/-- The truncated sum is a nearest integer, except below minus one half. -/
theorem tdiv_nearest_iff (tempMC : Int) :
    |1000 * (tempMC + 500).tdiv 1000 - tempMC| ≤ 500 ↔ -500 ≤ tempMC ∨ 1000 ∣ tempMC + 500 := by
  rw [abs_le]
  rcases tdiv_thousand (tempMC + 500) with ⟨nonneg, quotient⟩ | ⟨nonpos, quotient⟩
  · omega
  · omega

theorem currentTemperature_updateTemperatureNOTI (view : TemperatureView) (value : FloatValue) :
    (updateTemperatureNOTI undefinedCast view (.notiTemperature true value)).currentTemperature =
      nextTemperature undefinedCast value := by
  simp only [updateTemperatureNOTI, if_true, TemperatureView.updateTemperatureNoti]
  split
  · rfl
  · next same => exact not_not.mp same

end HardwareHandler

theorem nulFree_floatToString (value : ℚ) : NulFree (floatToString value) := by
  intro present
  rcases isPrintable_of_mem_floatToString _ present with digit | point | minus
  · exact absurd digit (by decide)
  · exact absurd point (by decide)
  · exact absurd minus (by decide)

theorem stof_thousandths (tempMC : Int32) :
    stof (floatToString ((tempMC.toInt : ℚ) / 1000)) =
      .ok (.finite ((tempMC.toInt : ℚ) / 1000)) := by
  have millionths : (tempMC.toInt : ℚ) / 1000 = ((1000 * tempMC.toInt : Int) : ℚ) / 1000000 := by
    push_cast
    ring
  have range := HardwareHandler.toInt_range tempMC
  rw [millionths]
  apply stof_floatToString
  omega

section Message

variable {content : String} {tempMC : Int32} {memory : Memory}
  {objectpath interface signal : String} {temperature : ℚ} {msg : DBusMessage}

theorem dispatchMessage_report (isShown : GPIO.Shows content tempMC)
    (sent : MonitorWorker.report memory objectpath interface signal (some content) temperature =
      .ok msg) :
    DBusReceiver.dispatchMessage msg = .ok [⟨.updateTemperatureNoti,
      .notiTemperature true (.finite ((tempMC.toInt : ℚ) / 1000))⟩] := by
  simp only [MonitorWorker.report, GPIO.readTemperatureSensor_of_shows isShown] at sent
  have nulFree := DBusDataInfo.isNulFree_init.set .temperatureValue
    (nulFree_floatToString ((tempMC.toInt : ℚ) / 1000))
  have dispatched := DBusReceiverBase.dispatchMessage_sent nulFree sent
  simp only [DBusReceiver.dispatchMessage, dispatched, DBusReceiver.handleMessageNoti,
    DBusDataInfo.get_set, stof_thousandths]
  rfl

theorem currentTemperature_report (isShown : GPIO.Shows content tempMC)
    (sent : MonitorWorker.report memory objectpath interface signal (some content) temperature =
      .ok msg)
    (undefinedCast : FloatValue → Int32) (view : TemperatureView) :
    ∃ events, DBusReceiver.dispatchMessage msg = .ok events ∧
      (HardwareHandler.processEvents undefinedCast view events).currentTemperature =
        (tempMC.toInt + 500).tdiv 1000 := by
  refine ⟨_, dispatchMessage_report isShown sent, ?_⟩
  rw [HardwareHandler.processEvents, HardwareHandler.processEvents,
    HardwareHandler.currentTemperature_updateTemperatureNOTI,
    HardwareHandler.nextTemperature_thousandths]

/--
The message of a reading stores a nearest degree exactly if the temperature is not below
minus half a degree, or is halfway between two degrees.
-/
theorem displayed_nearest_iff (isShown : GPIO.Shows content tempMC)
    (sent : MonitorWorker.report memory objectpath interface signal (some content) temperature =
      .ok msg)
    (undefinedCast : FloatValue → Int32) (view : TemperatureView) :
    ∃ events, DBusReceiver.dispatchMessage msg = .ok events ∧
      (|1000 * (HardwareHandler.processEvents undefinedCast view events).currentTemperature -
          tempMC.toInt| ≤ 500 ↔
        -500 ≤ tempMC.toInt ∨ 1000 ∣ tempMC.toInt + 500) := by
  obtain ⟨events, dispatched, stored⟩ :=
    currentTemperature_report isShown sent undefinedCast view
  refine ⟨events, dispatched, ?_⟩
  rw [stored]
  exact HardwareHandler.tdiv_nearest_iff tempMC.toInt

end Message

section Frost

/-- Two degrees below zero. -/
def frost : String :=
  "e0 ff 4b 46 7f ff 0c 10 57 : crc=57 YES\ne0 ff 4b 46 7f ff 0c 10 57 t=-2000\n"

/-- A little more than twenty and a half degrees. -/
def room : String :=
  "e0 ff 4b 46 7f ff 0c 10 57 : crc=57 YES\ne0 ff 4b 46 7f ff 0c 10 57 t=20562\n"

theorem shows_of_text {content : String} {tempMC : Int32}
    (text : content =
      String.ofList ("e0 ff 4b 46 7f ff 0c 10 57 : crc=57 YES".toList ++ '\n' ::
        ("e0 ff 4b 46 7f ff 0c 10 57 ".toList ++ ['t', '='] ++
          (toString tempMC.toInt).toList ++ '\n' :: []))) :
    GPIO.Shows content tempMC := by
  rw [text]
  apply GPIO.shows_of_decimal
  · decide +kernel
  · decide +kernel
  · decide +kernel
  · decide +kernel

theorem frost_shows : GPIO.Shows frost (-2000) :=
  shows_of_text (by decide +kernel)

theorem room_shows : GPIO.Shows room 20562 :=
  shows_of_text (by decide +kernel)

theorem exists_report (sensorFile : Option String) (temperature : ℚ) :
    ∃ msg, MonitorWorker.report (fun _ => true) "" "" "" sensorFile temperature = .ok msg :=
  ⟨_, ISenderFactory.makeMsgNotiInternal_eq_ok_iff.mpr ⟨fun _ _ => rfl, rfl⟩⟩

/-- It is displayed as one degree below zero. -/
theorem not_displayed_nearest_frost :
    GPIO.Shows frost (-2000) ∧
      ∃ msg events, MonitorWorker.report (fun _ => true) "" "" "" (some frost) 0 = .ok msg ∧
        DBusReceiver.dispatchMessage msg = .ok events ∧
        ¬|1000 * (HardwareHandler.processEvents (fun _ => 0) {} events).currentTemperature -
          (-2000 : Int32).toInt| ≤ 500 := by
  obtain ⟨msg, sent⟩ := exists_report (some frost) 0
  obtain ⟨events, dispatched, stored⟩ :=
    currentTemperature_report frost_shows sent (fun _ => 0) {}
  refine ⟨frost_shows, msg, events, sent, dispatched, ?_⟩
  rw [stored]
  decide

theorem displayed_nearest_room :
    GPIO.Shows room 20562 ∧
      ∃ msg events, MonitorWorker.report (fun _ => true) "" "" "" (some room) 0 = .ok msg ∧
        DBusReceiver.dispatchMessage msg = .ok events ∧
        |1000 * (HardwareHandler.processEvents (fun _ => 0) {} events).currentTemperature -
          (20562 : Int32).toInt| ≤ 500 := by
  obtain ⟨msg, sent⟩ := exists_report (some room) 0
  obtain ⟨events, dispatched, nearest⟩ := displayed_nearest_iff room_shows sent (fun _ => 0) {}
  exact ⟨room_shows, msg, events, sent, dispatched, nearest.mpr (Or.inl (by decide))⟩

end Frost

end RaspberryPiService
