import RaspberryPiService.Common.DBusMessage

/-!
# The codec of commands and notifications

All services exchange the same two kinds of signals: a command alone, and a command with a
success flag and the texts of a `DBusDataInfo`, an array with one place for each
`DBusDataType`. The sender appends every place of the array, and the receiver writes what
it reads into a fresh `DBusDataInfo`, as many texts as there are and have a place. The two
sides meet only on the bus, and may have been built with different numbers of places.
-/

universe u

namespace Vector

variable {Value : Type u} {size : Nat}

/-- The values written into the array from a place on; those beyond its end are dropped. -/
def overwrite (array : Vector Value size) (start : Nat) (values : List Value) :
    Vector Value size :=
  Vector.ofFn fun index =>
    if start ≤ index then values[index - start]?.getD array[index] else array[index]

theorem getElem_overwrite (array : Vector Value size) (start : Nat) (values : List Value)
    {index : Nat} (inside : index < size) :
    (array.overwrite start values)[index] =
      if start ≤ index then values[index - start]?.getD array[index] else array[index] := by
  simp [overwrite]

theorem overwrite_nil (array : Vector Value size) (start : Nat) :
    array.overwrite start [] = array := by
  apply Vector.ext
  intro index inside
  simp [getElem_overwrite]

theorem overwrite_cons (array : Vector Value size) {start : Nat} (inside : start < size)
    (value : Value) (values : List Value) :
    array.overwrite start (value :: values) =
      (array.set start value inside).overwrite (start + 1) values := by
  apply Vector.ext
  intro index indexInside
  rw [getElem_overwrite, getElem_overwrite, Vector.getElem_set]
  rcases Nat.lt_trichotomy index start with before | rfl | after
  · simp [show ¬start ≤ index by omega, show ¬start + 1 ≤ index by omega,
      show start ≠ index by omega]
  · simp [show ¬index + 1 ≤ index by omega]
  · have isLater : index - start = index - (start + 1) + 1 := by omega
    simp [isLater, show start ≤ index by omega, show start + 1 ≤ index by omega,
      show start ≠ index by omega]

theorem overwrite_of_le (array : Vector Value size) {start : Nat} (beyond : size ≤ start)
    (values : List Value) : array.overwrite start values = array := by
  apply Vector.ext
  intro index inside
  rw [getElem_overwrite, if_neg (by omega)]

theorem overwrite_toList (array other : Vector Value size) :
    array.overwrite 0 other.toList = other := by
  apply Vector.ext
  intro index inside
  simp [getElem_overwrite, inside]

end Vector

namespace RaspberryPiService

inductive DBusCommand where
  | none
  | initializeBluetooth
  | startScanBTDevice
  | stopScanBTDevice
  | bluetoothPowerOn
  | bluetoothPowerOff
  | pairBTDevice
  | unpairBTDevice
  | connectBTDevice
  | disconnectBTDevice
  | rejectRequestConfirmation
  | acceptRequestConfirmation
  | dialCall
  | hangupCall
  | answerCall
  | updateTemperatureNoti
  | startScanBTDeviceNoti
  | stopScanBTDeviceNoti
  | scanningBTDeviceFoundNoti
  | scanningBTDeviceDeleteNoti
  | bluetoothPowerOnNoti
  | bluetoothPowerOffNoti
  | btDevicePropertyChangeNoti
  | pairBTDeviceNoti
  | unpairBTDeviceNoti
  | connectBTDeviceNoti
  | disconnectBTDeviceNoti
  | btDeviceRequestConfirmationNoti
  | incomingCallNoti
  | outgoingCallNoti
  | callStateChangedNoti
  | callEndedNoti
  | dialCallNoti
  | answerCallNoti
  | hangupCallNoti
  | pbapSessionEndNoti
  | pbapPhonebookPullStartNoti
  | pbapPhonebookPullNoti
  | pbapPhonebookPullEndNoti
  | callHistoryPullStartNoti
  | callHistoryPullNoti
  | callHistoryPullEndNoti
  | startRecord
  | stopRecord
  | cancelRecord
  | startRecordNoti
  | stopRecordNoti
  | cancelRecordNoti
  | filterWavFileNoti
  | max
deriving DecidableEq

namespace DBusCommand

/-- The enumerators, each at the place of its number. -/
def all : List DBusCommand :=
  [.none, .initializeBluetooth, .startScanBTDevice, .stopScanBTDevice, .bluetoothPowerOn,
    .bluetoothPowerOff, .pairBTDevice, .unpairBTDevice, .connectBTDevice, .disconnectBTDevice,
    .rejectRequestConfirmation, .acceptRequestConfirmation, .dialCall, .hangupCall, .answerCall,
    .updateTemperatureNoti, .startScanBTDeviceNoti, .stopScanBTDeviceNoti,
    .scanningBTDeviceFoundNoti, .scanningBTDeviceDeleteNoti, .bluetoothPowerOnNoti,
    .bluetoothPowerOffNoti, .btDevicePropertyChangeNoti, .pairBTDeviceNoti, .unpairBTDeviceNoti,
    .connectBTDeviceNoti, .disconnectBTDeviceNoti, .btDeviceRequestConfirmationNoti,
    .incomingCallNoti, .outgoingCallNoti, .callStateChangedNoti, .callEndedNoti, .dialCallNoti,
    .answerCallNoti, .hangupCallNoti, .pbapSessionEndNoti, .pbapPhonebookPullStartNoti,
    .pbapPhonebookPullNoti, .pbapPhonebookPullEndNoti, .callHistoryPullStartNoti,
    .callHistoryPullNoti, .callHistoryPullEndNoti, .startRecord, .stopRecord, .cancelRecord,
    .startRecordNoti, .stopRecordNoti, .cancelRecordNoti, .filterWavFileNoti, .max]

/-- The number of an enumerator. -/
def toInt32 (cmd : DBusCommand) : Int32 :=
  Int32.ofNat (all.idxOf cmd)

/-- The enumerator that a `switch` on the number finds. -/
def ofInt32? (number : Int32) : Option DBusCommand :=
  all.find? fun cmd => cmd.toInt32 = number

theorem ofInt32?_toInt32 (cmd : DBusCommand) : ofInt32? cmd.toInt32 = some cmd := by
  cases cmd <;> decide +kernel

end DBusCommand

inductive DBusDataType where
  | message
  | temperatureValue
  | btDeviceName
  | btDeviceAddress
  | btDeviceRssi
  | btDevicePaired
  | btDeviceConnected
  | btDeviceTrusted
  | btDeviceIcon
  | btAdapterPowered
  | btAdapterDiscovering
  | btAdapterDiscoverable
  | btPairingPasskey
  | contactName
  | contactNumber
  | callNumber
  | callName
  | callState
  | callHistoryName
  | callHistoryNumber
  | callHistoryType
  | callHistoryDatetime
  | wavFilePath
  | wavFileDurationSec
deriving DecidableEq

/-- `DBUS_DATA_MAX`. -/
def dbusDataMax : Nat := 24

theorem DBusDataType.ctorIdx_lt (type : DBusDataType) : type.ctorIdx < dbusDataMax := by
  cases type <;> decide

theorem DBusDataType.ctorIdx_inj {type other : DBusDataType}
    (same : type.ctorIdx = other.ctorIdx) : type = other := by
  rw [← DBusDataType.ofNat_ctorIdx type, same, DBusDataType.ofNat_ctorIdx]

structure DBusDataInfo where
  data : Vector String dbusDataMax
deriving DecidableEq

namespace DBusDataInfo

/-- `data[type]`. -/
def get (info : DBusDataInfo) (type : DBusDataType) : String :=
  have inside := type.ctorIdx_lt
  info.data[type.ctorIdx]

/-- `data[type] = text`. -/
def set (info : DBusDataInfo) (type : DBusDataType) (text : String) : DBusDataInfo where
  data := info.data.set type.ctorIdx text type.ctorIdx_lt

/-- The assignments of the constructor. -/
def assignments : List (DBusDataType × String) :=
  [(.message, ""), (.temperatureValue, "0.0"), (.btDeviceName, ""), (.btDeviceAddress, ""),
    (.btDeviceIcon, ""), (.btDeviceRssi, "0"), (.btDevicePaired, ""), (.btDeviceConnected, ""),
    (.btDeviceTrusted, ""), (.btAdapterPowered, ""), (.btAdapterDiscovering, ""),
    (.btAdapterDiscoverable, ""), (.btPairingPasskey, ""), (.contactName, ""),
    (.contactNumber, ""), (.callNumber, ""), (.callName, ""), (.callState, ""),
    (.callHistoryName, ""), (.callHistoryNumber, ""), (.callHistoryType, ""),
    (.callHistoryDatetime, ""), (.wavFilePath, ""), (.wavFileDurationSec, "0")]

/-- The constructor. -/
def init : DBusDataInfo :=
  assignments.foldl (fun info assignment => info.set assignment.1 assignment.2)
    { data := Vector.replicate dbusDataMax "" }

/-- All fields can be sent as they are. -/
def IsNulFree (info : DBusDataInfo) : Prop :=
  ∀ text ∈ info.data.toList, NulFree text

instance (info : DBusDataInfo) : Decidable info.IsNulFree :=
  inferInstanceAs (Decidable (∀ text ∈ _, _))

theorem isNulFree_init : init.IsNulFree := by
  decide +kernel

theorem IsNulFree.set {info : DBusDataInfo} (nulFree : info.IsNulFree) (type : DBusDataType)
    {text : String} (textFree : NulFree text) : (info.set type text).IsNulFree := by
  intro field present
  rw [DBusDataInfo.set, Vector.mem_toList_iff] at present
  rcases @Vector.mem_or_eq_of_mem_set _ _ _ _ _ _ type.ctorIdx_lt present with present | rfl
  · exact nulFree field (Vector.mem_toList_iff.mpr present)
  · exact textFree

@[simp] theorem get_set (info : DBusDataInfo) (type : DBusDataType) (text : String) :
    (info.set type text).get type = text := by
  simp [get, set]

theorem get_set_of_ne (info : DBusDataInfo) {type other : DBusDataType} (text : String)
    (differs : other ≠ type) : (info.set type text).get other = info.get other := by
  have places : type.ctorIdx ≠ other.ctorIdx :=
    fun same => differs (DBusDataType.ctorIdx_inj same.symm)
  simp [get, set, places]

/-- An array of texts is known by its fields. -/
theorem eq_of_get {info other : DBusDataInfo} (same : ∀ type, info.get type = other.get type) :
    info = other := by
  have covered : ∀ place < dbusDataMax, (DBusDataType.ofNat place).ctorIdx = place := by decide
  have data : info.data = other.data := by
    apply Vector.ext
    intro place inside
    simpa only [get, covered place inside] using same (DBusDataType.ofNat place)
  rcases info with ⟨_⟩
  rcases other with ⟨_⟩
  exact congrArg DBusDataInfo.mk data

end DBusDataInfo

/-- Which calls of libdbus find memory, by their place among the calls for one message. -/
abbrev Memory : Type := Nat → Bool

namespace ISenderFactory

/-- A call of libdbus that can only fail for want of memory; what is logged then. -/
def attempt (granted : Bool) (log : String) : Except String Unit :=
  if granted then .ok () else .error log

def makeMsgInternal (memory : Memory) (objectpath interface signal : String)
    (cmd : DBusCommand) : Except String DBusMessage := do
  attempt (memory 0) "ISenderFactory makeMsgInternal Error: Message Null"
  let msg : DBusMessage := { path := objectpath, interface, member := signal }
  attempt (memory 1) "ISenderFactory makeMsgInternal Error: Out of Memory when appending args"
  return msg.append ⟨.int32, cmd.toInt32⟩

/-- The loop over the fields, whose calls of libdbus are counted from `call` on. -/
def appendStrings (memory : Memory) (call : Nat) : List String → Except String (List DBusString)
  | [] => .ok []
  | text :: texts => do
      attempt (memory call)
        "ISenderFactory makeMsgNotiInternal Error: Out of Memory when appending string to array"
      let strings ← appendStrings memory (call + 1) texts
      return .cStr text :: strings

def makeMsgNotiInternal (memory : Memory) (objectpath interface signal : String)
    (cmd : DBusCommand) (isSuccess : Bool) (msgInfo : DBusDataInfo) :
    Except String DBusMessage := do
  attempt (memory 0) "ISenderFactory makeMsgNotiInternal Error: Message Null"
  let msg : DBusMessage := { path := objectpath, interface, member := signal }
  attempt (memory 1) "ISenderFactory makeMsgNotiInternal Error: Out of Memory when appending cmd"
  let msg := msg.append ⟨.int32, cmd.toInt32⟩
  attempt (memory 2)
    "ISenderFactory makeMsgNotiInternal Error: Out of Memory when appending success"
  let msg := msg.append ⟨.boolean, isSuccess⟩
  attempt (memory 3)
    "ISenderFactory makeMsgNotiInternal Error: Out of Memory when opening array container"
  let strings ← appendStrings memory 4 msgInfo.data.toList
  attempt (memory (4 + dbusDataMax))
    "ISenderFactory makeMsgNotiInternal Error: Out of Memory when closing array container"
  return msg.append ⟨.array .string, strings⟩

variable {memory : Memory} {objectpath interface signal : String} {cmd : DBusCommand}
  {isSuccess : Bool} {msgInfo : DBusDataInfo}

theorem attempt_bind_eq_ok_iff {Result : Type} {granted : Bool} {log : String}
    {next : Unit → Except String Result} {result : Result} :
    (attempt granted log >>= next) = .ok result ↔ granted ∧ next () = .ok result := by
  cases granted <;> simp [attempt, bind, Except.bind]

theorem makeMsgInternal_eq_ok_iff {msg : DBusMessage} :
    makeMsgInternal memory objectpath interface signal cmd = .ok msg ↔
      (memory 0 ∧ memory 1) ∧
        msg = { path := objectpath, interface, member := signal
                args := [⟨.int32, cmd.toInt32⟩] } := by
  simp only [makeMsgInternal, attempt_bind_eq_ok_iff, DBusMessage.append, pure, Except.pure,
    Except.ok.injEq, List.nil_append, and_assoc, @eq_comm _ msg]

theorem appendStrings_bind_eq_ok_iff {Result : Type} {call : Nat} {texts : List String}
    {next : List DBusString → Except String Result} {result : Result} :
    (appendStrings memory call texts >>= next) = .ok result ↔
      (∀ index < texts.length, memory (call + index)) ∧
        next (texts.map .cStr) = .ok result := by
  induction texts generalizing call next with
  | nil => simp [appendStrings, bind, Except.bind]
  | cons text texts ih =>
      have afterFirst : (∀ index < (text :: texts).length, memory (call + index)) ↔
          memory call ∧ ∀ index < texts.length, memory (call + 1 + index) := by
        simp only [List.length_cons, Nat.forall_lt_succ_left, Nat.add_zero, Nat.add_assoc,
          Nat.add_comm 1]
      rw [afterFirst, and_assoc, appendStrings, bind_assoc, attempt_bind_eq_ok_iff, bind_assoc, ih]
      rfl

/-- The calls of `makeMsgNotiInternal`, with those of its loop taken together. -/
theorem granted_iff :
    (∀ call < 5 + dbusDataMax, memory call) ↔
      memory 0 ∧ memory 1 ∧ memory 2 ∧ memory 3 ∧
        (∀ index < dbusDataMax, memory (4 + index)) ∧ memory (4 + dbusDataMax) := by
  constructor
  · intro granted
    exact ⟨granted 0 (by omega), granted 1 (by omega), granted 2 (by omega),
      granted 3 (by omega), fun index inside => granted _ (by omega), granted _ (by omega)⟩
  · rintro ⟨first, second, third, fourth, strings, last⟩ call inside
    have place : call = 0 ∨ call = 1 ∨ call = 2 ∨ call = 3 ∨
        (∃ index < dbusDataMax, call = 4 + index) ∨ call = 4 + dbusDataMax := by
      by_cases isString : 4 ≤ call ∧ call < 4 + dbusDataMax
      · have isLater : call = 4 + (call - 4) := by omega
        exact Or.inr (Or.inr (Or.inr (Or.inr (Or.inl ⟨call - 4, by omega, isLater⟩))))
      · omega
    rcases place with rfl | rfl | rfl | rfl | ⟨index, isString, rfl⟩ | rfl
    · exact first
    · exact second
    · exact third
    · exact fourth
    · exact strings index isString
    · exact last

theorem makeMsgNotiInternal_eq_ok_iff {msg : DBusMessage} :
    makeMsgNotiInternal memory objectpath interface signal cmd isSuccess msgInfo = .ok msg ↔
      (∀ call < 5 + dbusDataMax, memory call) ∧
        msg = { path := objectpath, interface, member := signal
                args := [⟨.int32, cmd.toInt32⟩, ⟨.boolean, isSuccess⟩,
                  ⟨.array .string, msgInfo.data.toList.map .cStr⟩] } := by
  simp only [makeMsgNotiInternal, attempt_bind_eq_ok_iff, appendStrings_bind_eq_ok_iff,
    granted_iff, Vector.length_toList, DBusMessage.append, pure, Except.pure, Except.ok.injEq,
    List.nil_append, List.cons_append, and_assoc, @eq_comm _ msg]

end ISenderFactory

/-- The call of the receiver's handler; a number that names no command takes `default` there. -/
inductive Dispatch where
  | handleMessage (cmd : Option DBusCommand)
  | handleMessageNoti (cmd : Option DBusCommand) (isSuccess : Bool) (msgInfo : DBusDataInfo)
deriving DecidableEq

/-- Why no handler is called. -/
inductive DispatchFailure where
  | logged (text : String)
  | outsideData (index : Nat)
deriving DecidableEq

namespace DBusReceiverBase

/-- `dataInfo.data[index] = text`, for any index. -/
def assign (dataInfo : DBusDataInfo) (index : Nat) (text : String) :
    Except DispatchFailure DBusDataInfo :=
  if inside : index < dbusDataMax then
    .ok { data := dataInfo.data.set index text inside }
  else .error (.outsideData index)

/-- The loop over the array. -/
def readStrings : List DBusArg → Nat → DBusDataInfo → Except DispatchFailure DBusDataInfo
  | ⟨.string, value⟩ :: arrayIter, i, dataInfo =>
      if i < dbusDataMax then do
        let dataInfo ← assign dataInfo i value.text
        readStrings arrayIter (i + 1) dataInfo
      else .ok dataInfo
  | _, _, dataInfo => .ok dataInfo

def dispatchMessage (msg : DBusMessage) : Except DispatchFailure Dispatch :=
  if msg.signature = "i" then
    match msg.args with
    | ⟨.int32, receivedCmd⟩ :: _ => .ok (.handleMessage (DBusCommand.ofInt32? receivedCmd))
    | _ => .error (.logged "Failed to parse command message")
  else if msg.signature = "ibas" then
    match msg.args with
    | [] => .error (.logged "Failed to init message iterator for notification.")
    | ⟨.int32, receivedCmd⟩ :: iter =>
        match iter with
        | ⟨.boolean, isSuccess⟩ :: iter =>
            match iter with
            | ⟨.array element, values⟩ :: _ => do
                let dataInfo ← readStrings (values.map fun value => ⟨element, value⟩) 0 .init
                return .handleMessageNoti (DBusCommand.ofInt32? receivedCmd) isSuccess dataInfo
            | _ => .error (.logged "Notification message has wrong type for data array.")
        | _ => .error (.logged "Notification message has wrong type for success flag.")
    | _ => .error (.logged "Notification message has wrong type for command.")
  else
    .error (.logged ("Received D-Bus message with unknown signature: " ++ msg.signature))

variable {msg : DBusMessage} {cmd : Int32} {isSuccess : Bool} {strings : List DBusString}

/-- The guard of the loop keeps every assignment inside of the array. -/
theorem readStrings_eq (strings : List DBusString) (start : Nat) (dataInfo : DBusDataInfo) :
    readStrings (strings.map fun value => ⟨.string, value⟩) start dataInfo =
      .ok { data := dataInfo.data.overwrite start (strings.map DBusString.text) } := by
  induction strings generalizing start dataInfo with
  | nil => simp [readStrings, Vector.overwrite_nil]
  | cons value strings ih =>
      by_cases inside : start < dbusDataMax
      · simp only [List.map_cons, readStrings, if_pos inside, assign, dif_pos inside,
          Vector.overwrite_cons _ inside, bind, Except.bind]
        exact ih (start + 1) _
      · simp only [List.map_cons, readStrings, if_neg inside,
          Vector.overwrite_of_le _ (Nat.le_of_not_lt inside)]

theorem exists_args_of_signature (found : msg.signature = "ibas") :
    ∃ cmd isSuccess strings,
      msg.args = [⟨.int32, cmd⟩, ⟨.boolean, isSuccess⟩, ⟨.array .string, strings⟩] := by
  have codes : DBusMessage.codes msg.args = ['i', 'b', 'a', 's'] := by
    simpa using DBusMessage.signature_eq_iff.mp found
  rcases DBusMessage.args_of_codes .int32 rfl codes with ⟨cmd, afterCmd, args, cmdRead⟩
  rcases DBusMessage.args_of_codes .boolean rfl cmdRead with ⟨isSuccess, afterFlag, rfl, flagRead⟩
  rcases DBusMessage.args_of_codes (.array .string) rfl flagRead with ⟨strings, rest, rfl, allRead⟩
  rw [DBusMessage.args_of_codes_nil allRead] at args
  exact ⟨cmd, isSuccess, strings, args⟩

theorem dispatchMessage_command (args : msg.args = [⟨.int32, cmd⟩]) :
    dispatchMessage msg = .ok (.handleMessage (DBusCommand.ofInt32? cmd)) := by
  have signature : msg.signature = "i" := DBusMessage.signature_eq_iff.mpr (by rw [args]; rfl)
  simp only [dispatchMessage, signature, args, if_true]

theorem dispatchMessage_notification
    (args : msg.args = [⟨.int32, cmd⟩, ⟨.boolean, isSuccess⟩, ⟨.array .string, strings⟩]) :
    dispatchMessage msg = .ok (.handleMessageNoti (DBusCommand.ofInt32? cmd) isSuccess
      { data := DBusDataInfo.init.data.overwrite 0 (strings.map DBusString.text) }) := by
  have signature : msg.signature = "ibas" :=
    DBusMessage.signature_eq_iff.mpr (by rw [args]; rfl)
  have differs : ¬"ibas" = "i" := by decide +kernel
  simp only [dispatchMessage, signature, args, if_true, if_neg differs]
  rw [readStrings_eq]
  rfl

/-- What is sent arrives, if the fields can be sent as they are. -/
theorem dispatchMessage_sent {memory : Memory} {objectpath interface signal : String}
    {cmd : DBusCommand} {msgInfo : DBusDataInfo} (nulFree : msgInfo.IsNulFree)
    (sent : ISenderFactory.makeMsgNotiInternal memory objectpath interface signal cmd isSuccess
      msgInfo = .ok msg) :
    dispatchMessage msg = .ok (.handleMessageNoti (some cmd) isSuccess msgInfo) := by
  obtain ⟨-, rfl⟩ := ISenderFactory.makeMsgNotiInternal_eq_ok_iff.mp sent
  have texts : (msgInfo.data.toList.map DBusString.cStr).map DBusString.text =
      msgInfo.data.toList := by
    rw [List.map_map]
    exact (List.map_congr_left fun text present =>
      DBusString.text_cStr (nulFree text present)).trans (List.map_id _)
  rw [dispatchMessage_notification rfl, DBusCommand.ofInt32?_toInt32, texts,
    Vector.overwrite_toList]

/--
A notification arrives as it was sent, and a message with any number of texts fills as many
fields as it can; the others keep what the constructor gave them.
-/
theorem notification_codec :
    (∀ (memory : Memory) (objectpath interface signal : String) (cmd : DBusCommand)
      (isSuccess : Bool) (msgInfo : DBusDataInfo), msgInfo.IsNulFree →
        ((∀ call, memory call) → ∃ msg, ISenderFactory.makeMsgNotiInternal memory objectpath
          interface signal cmd isSuccess msgInfo = .ok msg) ∧
        ∀ msg, ISenderFactory.makeMsgNotiInternal memory objectpath interface signal cmd
            isSuccess msgInfo = .ok msg →
          dispatchMessage msg = .ok (.handleMessageNoti (some cmd) isSuccess msgInfo)) ∧
    ∀ msg : DBusMessage, msg.signature = "ibas" → ∃ cmd isSuccess strings dataInfo,
      msg.args = [⟨.int32, cmd⟩, ⟨.boolean, isSuccess⟩, ⟨.array .string, strings⟩] ∧
      dispatchMessage msg =
        .ok (.handleMessageNoti (DBusCommand.ofInt32? cmd) isSuccess dataInfo) ∧
      ∀ (field : Nat) (inside : field < dbusDataMax), dataInfo.data[field] =
        if sent : field < strings.length then strings[field].text
        else DBusDataInfo.init.data[field] := by
  refine ⟨?_, ?_⟩
  · intro memory objectpath interface signal cmd isSuccess msgInfo nulFree
    refine ⟨fun granted => ?_, fun msg sent => dispatchMessage_sent nulFree sent⟩
    exact ⟨_, ISenderFactory.makeMsgNotiInternal_eq_ok_iff.mpr
      ⟨fun call _ => granted call, rfl⟩⟩
  · intro msg found
    rcases exists_args_of_signature found with ⟨cmd, isSuccess, strings, args⟩
    refine ⟨cmd, isSuccess, strings, _, args, dispatchMessage_notification args, ?_⟩
    intro field inside
    simp only [Vector.getElem_overwrite, Nat.zero_le, if_true, Nat.sub_zero, List.getElem?_map]
    by_cases sent : field < strings.length
    · rw [dif_pos sent, List.getElem?_eq_getElem sent]
      rfl
    · rw [dif_neg sent, List.getElem?_eq_none (Nat.le_of_not_lt sent)]
      rfl

/-- A message of a sender that knows only the first field. -/
def oneText : DBusMessage where
  path := "/com/example/hardwaremanager"
  interface := "com.example.hardwaremanager.interface"
  member := "HardwareSignal"
  args := [⟨.int32, DBusCommand.dialCall.toInt32⟩, ⟨.boolean, true⟩,
    ⟨.array .string, [.cStr "calling"]⟩]

theorem notification_codec_oneText :
    (∃ msg, ISenderFactory.makeMsgNotiInternal (fun _ => true) oneText.path oneText.interface
        oneText.member .dialCall true (DBusDataInfo.init.set .callNumber "0123") = .ok msg ∧
      dispatchMessage msg = .ok (.handleMessageNoti (some .dialCall) true
        (DBusDataInfo.init.set .callNumber "0123"))) ∧
    ∃ cmd isSuccess strings dataInfo,
      oneText.args = [⟨.int32, cmd⟩, ⟨.boolean, isSuccess⟩, ⟨.array .string, strings⟩] ∧
      dispatchMessage oneText =
        .ok (.handleMessageNoti (DBusCommand.ofInt32? cmd) isSuccess dataInfo) ∧
      ∀ (field : Nat) (inside : field < dbusDataMax), dataInfo.data[field] =
        if sent : field < strings.length then strings[field].text
        else DBusDataInfo.init.data[field] := by
  have nulFree : (DBusDataInfo.init.set .callNumber "0123").IsNulFree :=
    DBusDataInfo.isNulFree_init.set _ (by decide +kernel)
  have sends := notification_codec.1 (fun _ => true) oneText.path oneText.interface
    oneText.member .dialCall true _ nulFree
  rcases sends.1 (fun _ => rfl) with ⟨msg, sent⟩
  have signature : oneText.signature = "ibas" := by decide +kernel
  exact ⟨⟨msg, sent, sends.2 msg sent⟩, notification_codec.2 oneText signature⟩

end DBusReceiverBase

end RaspberryPiService
