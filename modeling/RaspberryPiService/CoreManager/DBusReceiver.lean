import RaspberryPiService.Common.Exceptions
import RaspberryPiService.Common.NotificationCodec
import RaspberryPiService.Common.NumberText

/-!
# Notifications on arrival in the core manager

The receiver of the core turns every notification into events for MainWorker, whose
payloads hold the fields of the message. Most of them are texts. The temperature, the
signal strength of a device and the duration of a recording are numbers, and a text that
is none makes the conversion throw. Nothing between `handleMessageNoti` and the thread
function catches that, so the process ends.

Any process that may send the signal can choose the command, the flag and the texts.
-/

namespace RaspberryPiService

open NumberText Throws

/-- The events that notifications become. -/
inductive NotiEventTypeID where
  | updateTemperatureNoti
  | startScanBTDeviceNoti
  | stopScanBTDeviceNoti
  | scanningBTDeviceFoundNoti
  | scanningBTDeviceDeleteNoti
  | bluetoothPowerOnNoti
  | bluetoothPowerOffNoti
  | btDevicePropertyChangeNoti
  | pairBTDeviceNoti
  | unpairBTDeviceNoti
  | connectBTDeviceNoti
  | disconnectBTDeviceNoti
  | btDeviceRequestConfirmationNoti
  | pbapSessionEndNoti
  | pbapPhonebookPullStartNoti
  | pbapPhonebookPullNoti
  | pbapPhonebookPullEndNoti
  | callHistoryPullStartNoti
  | callHistoryPullNoti
  | callHistoryPullEndNoti
  | incomingCallNoti
  | outgoingCallNoti
  | callStateChangedNoti
  | callEndedNoti
  | dialCallNoti
  | answerCallNoti
  | hangupCallNoti
  | startRecordNoti
  | stopRecordNoti
  | cancelRecordNoti
  | filterWavFileNoti
  | insertWavFile
deriving DecidableEq

/-- The classes of their payloads. -/
inductive NotiPayload where
  | noti (isSuccess : Bool) (msgInfo : String)
  | notiTemperature (isSuccess : Bool) (temperatureValue : FloatValue)
  | notiBTDeviceAddress (isSuccess : Bool) (msgInfo address : String)
  | contact (name number : String)
  | callHistory (name number type dateTime : String)
  | call (name number state : String)
  | bluetoothDevice (name address : String) (rssi : Int32) (isPaired isConnected : Bool)
      (icon : String)
  | bluetoothDeviceAddress (address : String)
  | bluetoothDevicePasskey (address passkey : String)
  | wav (filePath : String) (durationSec : Int32)
deriving DecidableEq

structure NotiEvent where
  eventTypeId : NotiEventTypeID
  payload : NotiPayload
deriving DecidableEq

/-- What ends the thread of the receiver, and the process with it. -/
inductive ReceiverFailure where
  | thrown (error : ConversionError)
  | outsideData (index : Nat)
deriving DecidableEq

namespace DBusReceiver

/-- No command is meant for the core. -/
def handleMessage (_cmd : Option DBusCommand) : List NotiEvent := []

/-- The cases that pass on the message. -/
def notiEvent (eventTypeId : NotiEventTypeID) (isSuccess : Bool) (dataInfo : DBusDataInfo) :
    NotiEvent where
  eventTypeId := eventTypeId
  payload := .noti isSuccess (dataInfo.get .message)

/-- The cases that tell the outcome of a connection. -/
def addressEvent (eventTypeId : NotiEventTypeID) (isSuccess : Bool) (dataInfo : DBusDataInfo) :
    NotiEvent where
  eventTypeId := eventTypeId
  payload := .notiBTDeviceAddress isSuccess (dataInfo.get .message) (dataInfo.get .btDeviceAddress)

/-- The cases about a call, which drop a failure. -/
def callEvents (eventTypeId : NotiEventTypeID) (isSuccess : Bool) (dataInfo : DBusDataInfo) :
    List NotiEvent :=
  if isSuccess then
    [⟨eventTypeId, .call (dataInfo.get .callName) (dataInfo.get .callNumber)
      (dataInfo.get .callState)⟩]
  else []

/-- The cases about a device, which drop a failure before they convert anything. -/
def deviceEvents (eventTypeId : NotiEventTypeID) (isSuccess : Bool) (dataInfo : DBusDataInfo) :
    Except ConversionError (List NotiEvent) :=
  if isSuccess then do
    let rssi ← stoi (dataInfo.get .btDeviceRssi)
    return [⟨eventTypeId, .bluetoothDevice (dataInfo.get .btDeviceName)
      (dataInfo.get .btDeviceAddress) rssi (dataInfo.get .btDevicePaired = "true")
      (dataInfo.get .btDeviceConnected = "true") (dataInfo.get .btDeviceIcon)⟩]
  else .ok []

/-- The events pushed, or the exception; nothing has been pushed when an exception comes. -/
def handleMessageNoti (cmd : Option DBusCommand) (isSuccess : Bool) (dataInfo : DBusDataInfo) :
    Except ConversionError (List NotiEvent) :=
  match cmd with
  | some .updateTemperatureNoti => do
      let temperatureValue ← stof (dataInfo.get .temperatureValue)
      return [⟨.updateTemperatureNoti, .notiTemperature isSuccess temperatureValue⟩]
  | some .startScanBTDeviceNoti => .ok [notiEvent .startScanBTDeviceNoti isSuccess dataInfo]
  | some .stopScanBTDeviceNoti => .ok [notiEvent .stopScanBTDeviceNoti isSuccess dataInfo]
  | some .scanningBTDeviceFoundNoti =>
      deviceEvents .scanningBTDeviceFoundNoti isSuccess dataInfo
  | some .scanningBTDeviceDeleteNoti =>
      .ok (if isSuccess then
        [⟨.scanningBTDeviceDeleteNoti, .bluetoothDeviceAddress (dataInfo.get .btDeviceAddress)⟩]
      else [])
  | some .bluetoothPowerOnNoti => .ok [notiEvent .bluetoothPowerOnNoti isSuccess dataInfo]
  | some .bluetoothPowerOffNoti => .ok [notiEvent .bluetoothPowerOffNoti isSuccess dataInfo]
  | some .btDevicePropertyChangeNoti =>
      deviceEvents .btDevicePropertyChangeNoti isSuccess dataInfo
  | some .pairBTDeviceNoti => .ok [notiEvent .pairBTDeviceNoti isSuccess dataInfo]
  | some .unpairBTDeviceNoti => .ok [notiEvent .unpairBTDeviceNoti isSuccess dataInfo]
  | some .connectBTDeviceNoti => .ok [addressEvent .connectBTDeviceNoti isSuccess dataInfo]
  | some .disconnectBTDeviceNoti =>
      .ok [addressEvent .disconnectBTDeviceNoti isSuccess dataInfo]
  | some .btDeviceRequestConfirmationNoti =>
      .ok (if isSuccess then
        [⟨.btDeviceRequestConfirmationNoti, .bluetoothDevicePasskey
          (dataInfo.get .btDeviceAddress) (dataInfo.get .btPairingPasskey)⟩]
      else [])
  | some .pbapSessionEndNoti => .ok [notiEvent .pbapSessionEndNoti isSuccess dataInfo]
  | some .pbapPhonebookPullStartNoti =>
      .ok [notiEvent .pbapPhonebookPullStartNoti isSuccess dataInfo]
  | some .pbapPhonebookPullEndNoti =>
      .ok [notiEvent .pbapPhonebookPullEndNoti isSuccess dataInfo]
  | some .callHistoryPullStartNoti =>
      .ok [notiEvent .callHistoryPullStartNoti isSuccess dataInfo]
  | some .callHistoryPullEndNoti => .ok [notiEvent .callHistoryPullEndNoti isSuccess dataInfo]
  | some .pbapPhonebookPullNoti =>
      .ok (if isSuccess then
        [⟨.pbapPhonebookPullNoti,
          .contact (dataInfo.get .contactName) (dataInfo.get .contactNumber)⟩]
      else [])
  | some .callHistoryPullNoti =>
      .ok (if isSuccess then
        [⟨.callHistoryPullNoti, .callHistory (dataInfo.get .callHistoryName)
          (dataInfo.get .callHistoryNumber) (dataInfo.get .callHistoryType)
          (dataInfo.get .callHistoryDatetime)⟩]
      else [])
  | some .incomingCallNoti => .ok (callEvents .incomingCallNoti isSuccess dataInfo)
  | some .outgoingCallNoti => .ok (callEvents .outgoingCallNoti isSuccess dataInfo)
  | some .callStateChangedNoti => .ok (callEvents .callStateChangedNoti isSuccess dataInfo)
  | some .callEndedNoti => .ok (callEvents .callEndedNoti isSuccess dataInfo)
  | some .dialCallNoti => .ok [notiEvent .dialCallNoti isSuccess dataInfo]
  | some .answerCallNoti => .ok [notiEvent .answerCallNoti isSuccess dataInfo]
  | some .hangupCallNoti => .ok [notiEvent .hangupCallNoti isSuccess dataInfo]
  | some .startRecordNoti => .ok [notiEvent .startRecordNoti isSuccess dataInfo]
  | some .stopRecordNoti => .ok [notiEvent .stopRecordNoti isSuccess dataInfo]
  | some .cancelRecordNoti => .ok [notiEvent .cancelRecordNoti isSuccess dataInfo]
  | some .filterWavFileNoti =>
      let event := notiEvent .filterWavFileNoti isSuccess dataInfo
      if isSuccess then do
        let durationSec ← stoi (dataInfo.get .wavFileDurationSec)
        return [⟨.insertWavFile, .wav (dataInfo.get .wavFilePath) durationSec⟩, event]
      else .ok [event]
  -- `default`, which only logs.
  | _ => .ok []

/-- `DBusReceiverBase::dispatchMessage` with the handlers of the core. -/
def dispatchMessage (msg : DBusMessage) : Except ReceiverFailure (List NotiEvent) :=
  match DBusReceiverBase.dispatchMessage msg with
  | .ok (.handleMessage cmd) => .ok (handleMessage cmd)
  | .ok (.handleMessageNoti cmd isSuccess dataInfo) =>
      match handleMessageNoti cmd isSuccess dataInfo with
      | .ok events => .ok events
      | .error error => .error (.thrown error)
  | .error (.logged _) => .ok []
  | .error (.outsideData index) => .error (.outsideData index)

end DBusReceiver

/-- The payload holds the flag and the fields of a message, numbers as they are read there. -/
def NotiPayload.Carries (isSuccess : Bool) (field : DBusDataType → String) : NotiPayload → Prop
  | .noti flag msgInfo => flag = isSuccess ∧ msgInfo = field .message
  | .notiTemperature flag temperatureValue =>
      flag = isSuccess ∧ stof (field .temperatureValue) = .ok temperatureValue
  | .notiBTDeviceAddress flag msgInfo address =>
      flag = isSuccess ∧ msgInfo = field .message ∧ address = field .btDeviceAddress
  | .contact name number => name = field .contactName ∧ number = field .contactNumber
  | .callHistory name number type dateTime =>
      name = field .callHistoryName ∧ number = field .callHistoryNumber ∧
        type = field .callHistoryType ∧ dateTime = field .callHistoryDatetime
  | .call name number state =>
      name = field .callName ∧ number = field .callNumber ∧ state = field .callState
  | .bluetoothDevice name address rssi isPaired isConnected icon =>
      name = field .btDeviceName ∧ address = field .btDeviceAddress ∧
        stoi (field .btDeviceRssi) = .ok rssi ∧ (isPaired ↔ field .btDevicePaired = "true") ∧
        (isConnected ↔ field .btDeviceConnected = "true") ∧ icon = field .btDeviceIcon
  | .bluetoothDeviceAddress address => address = field .btDeviceAddress
  | .bluetoothDevicePasskey address passkey =>
      address = field .btDeviceAddress ∧ passkey = field .btPairingPasskey
  | .wav filePath durationSec =>
      filePath = field .wavFilePath ∧ stoi (field .wavFileDurationSec) = .ok durationSec

namespace DBusReceiver

/-- The arguments of a notification. -/
def IsNoti (msg : DBusMessage) (cmd : Int32) (isSuccess : Bool) (strings : List DBusString) :
    Prop :=
  msg.args = [⟨.int32, cmd⟩, ⟨.boolean, isSuccess⟩, ⟨.array .string, strings⟩]

/-- A field of a notification, which has its default when the array of texts is too short. -/
def fieldOf (strings : List DBusString) (type : DBusDataType) : String :=
  match strings[type.ctorIdx]? with
  | some string => string.text
  | none => DBusDataInfo.init.get type

/-- The receiver returns, and pushes nothing but what the message says. -/
def Handles (msg : DBusMessage) : Prop :=
  ∃ events, dispatchMessage msg = .ok events ∧
    ∀ event ∈ events, ∃ cmd isSuccess strings, IsNoti msg cmd isSuccess strings ∧
      event.payload.Carries isSuccess (fieldOf strings)

/-- The field that the case of a command converts with `stoi`, unless it drops a failure. -/
def integerField? : Option DBusCommand → Option DBusDataType
  | some .scanningBTDeviceFoundNoti | some .btDevicePropertyChangeNoti => some .btDeviceRssi
  | some .filterWavFileNoti => some .wavFileDurationSec
  | _ => none

/-- The texts that the case of the command converts are numbers of the required type. -/
def Convertible (cmd : Option DBusCommand) (isSuccess : Bool) (field : DBusDataType → String) :
    Prop :=
  (cmd = some .updateTemperatureNoti → ∃ value, stof (field .temperatureValue) = .ok value) ∧
    (isSuccess → ∀ type ∈ integerField? cmd, ∃ value, stoi (field type) = .ok value)

variable {cmd : Option DBusCommand} {isSuccess : Bool} {dataInfo : DBusDataInfo}
  {eventTypeId : NotiEventTypeID} {events : List NotiEvent}

theorem deviceEvents_eq_ok_iff :
    deviceEvents eventTypeId isSuccess dataInfo = .ok events ↔
      if isSuccess then
        ∃ rssi, stoi (dataInfo.get .btDeviceRssi) = .ok rssi ∧
          [⟨eventTypeId, .bluetoothDevice (dataInfo.get .btDeviceName)
            (dataInfo.get .btDeviceAddress) rssi (dataInfo.get .btDevicePaired = "true")
            (dataInfo.get .btDeviceConnected = "true") (dataInfo.get .btDeviceIcon)⟩] = events
      else [] = events := by
  cases isSuccess <;> simp [deviceEvents, bind_eq_ok_iff, pure, Except.pure]

/-- What is pushed carries the fields. -/
theorem carries_of_handleMessageNoti
    (pushed : handleMessageNoti cmd isSuccess dataInfo = .ok events) :
    ∀ event ∈ events, event.payload.Carries isSuccess dataInfo.get := by
  have device : ∀ eventTypeId, deviceEvents eventTypeId isSuccess dataInfo = .ok events →
      ∀ event ∈ events, event.payload.Carries isSuccess dataInfo.get := by
    intro eventTypeId pushed
    rw [deviceEvents_eq_ok_iff] at pushed
    split at pushed
    · rcases pushed with ⟨rssi, read, rfl⟩
      simp [NotiPayload.Carries, read]
    · subst pushed
      simp
  have call : ∀ eventTypeId, ∀ event ∈ callEvents eventTypeId isSuccess dataInfo,
      event.payload.Carries isSuccess dataInfo.get := by
    intro eventTypeId event present
    cases isSuccess <;> simp_all [callEvents, NotiPayload.Carries]
  revert pushed
  fun_cases handleMessageNoti cmd isSuccess dataInfo with
  | case1 =>
      intro pushed
      rcases bind_eq_ok_iff.mp pushed with ⟨temperatureValue, read, ⟨⟩⟩
      simp [NotiPayload.Carries, read]
  | case4 | case8 => exact device _
  | case21 | case22 | case23 | case24 =>
      rintro ⟨⟩
      exact call _
  | case31 event succeeded =>
      intro pushed
      rcases bind_eq_ok_iff.mp pushed with ⟨durationSec, read, ⟨⟩⟩
      simp [event, NotiPayload.Carries, notiEvent, read]
  | case32 event failed =>
      rintro ⟨⟩
      simp [event, NotiPayload.Carries, notiEvent]
  | case33 =>
      rintro ⟨⟩
      simp
  -- The other cases convert nothing.
  | _ =>
      rintro ⟨⟩
      simp_all [notiEvent, addressEvent, NotiPayload.Carries]

/-- The handler returns exactly if what it converts are numbers. -/
theorem handleMessageNoti_returns_iff :
    (∃ events, handleMessageNoti cmd isSuccess dataInfo = .ok events) ↔
      Convertible cmd isSuccess dataInfo.get := by
  rcases cmd with - | cmd
  · simp [handleMessageNoti, Convertible, integerField?]
  · cases cmd
    case updateTemperatureNoti =>
      simp [handleMessageNoti, Convertible, integerField?, bind_eq_ok_iff, pure, Except.pure]
    case scanningBTDeviceFoundNoti =>
      cases isSuccess <;>
        simp [handleMessageNoti, Convertible, integerField?, deviceEvents_eq_ok_iff]
    case btDevicePropertyChangeNoti =>
      cases isSuccess <;>
        simp [handleMessageNoti, Convertible, integerField?, deviceEvents_eq_ok_iff]
    case filterWavFileNoti =>
      cases isSuccess <;>
        simp [handleMessageNoti, Convertible, integerField?, bind_eq_ok_iff, pure, Except.pure]
    all_goals simp [handleMessageNoti, Convertible, integerField?]

section Messages

variable {msg : DBusMessage} {number : Int32} {strings : List DBusString}

/-- The fields of the `DBusDataInfo` that a notification is read into. -/
theorem get_overwrite (strings : List DBusString) (type : DBusDataType) :
    ({ data := DBusDataInfo.init.data.overwrite 0 (strings.map DBusString.text) }
      : DBusDataInfo).get type = fieldOf strings type := by
  have inside := type.ctorIdx_lt
  rw [DBusDataInfo.get, Vector.getElem_overwrite, if_pos (Nat.zero_le _), Nat.sub_zero,
    List.getElem?_map, fieldOf]
  cases strings[type.ctorIdx]? <;> rfl

theorem IsNoti.signature (isNoti : IsNoti msg number isSuccess strings) :
    msg.signature = "ibas" :=
  DBusMessage.signature_eq_iff.mpr (by rw [isNoti]; rfl)

/-- A message has one command, one flag and one array. -/
theorem IsNoti.unique {otherNumber : Int32} {otherFlag : Bool} {otherStrings : List DBusString}
    (isNoti : IsNoti msg number isSuccess strings)
    (other : IsNoti msg otherNumber otherFlag otherStrings) :
    otherNumber = number ∧ otherFlag = isSuccess ∧ otherStrings = strings := by
  have same := isNoti.symm.trans other
  simp only [List.cons.injEq, DBusArg.mk.injEq, heq_eq_eq, true_and, and_true] at same
  exact ⟨same.1.symm, same.2.1.symm, same.2.2.symm⟩

theorem dispatchMessage_of_isNoti (isNoti : IsNoti msg number isSuccess strings) :
    dispatchMessage msg = .ok events ↔
      handleMessageNoti (DBusCommand.ofInt32? number) isSuccess
        { data := DBusDataInfo.init.data.overwrite 0 (strings.map DBusString.text) } =
          .ok events := by
  simp only [dispatchMessage, DBusReceiverBase.dispatchMessage_notification isNoti]
  split <;> simp_all

theorem handles_of_command {cmd : Int32} (args : msg.args = [⟨.int32, cmd⟩]) : Handles msg := by
  refine ⟨[], ?_, by simp⟩
  simp only [dispatchMessage, DBusReceiverBase.dispatchMessage_command args, handleMessage]

theorem handles_iff_convertible (isNoti : IsNoti msg number isSuccess strings) :
    Handles msg ↔
      Convertible (DBusCommand.ofInt32? number) isSuccess (fieldOf strings) := by
  have fields := funext (get_overwrite strings)
  rw [← fields, ← handleMessageNoti_returns_iff]
  constructor
  · rintro ⟨events, returned, -⟩
    exact ⟨events, (dispatchMessage_of_isNoti isNoti).mp returned⟩
  · rintro ⟨events, returned⟩
    refine ⟨events, (dispatchMessage_of_isNoti isNoti).mpr returned, ?_⟩
    intro event present
    refine ⟨number, isSuccess, strings, isNoti, ?_⟩
    rw [← fields]
    exact carries_of_handleMessageNoti returned event present

/--
The receiver survives a message, and pushes what it says, exactly if the message is a command
or the texts that its case converts are numbers: the temperature in any temperature
notification, the signal strength in a successful one about a device, and the duration in
a successful one about a filtered recording.
-/
theorem survives_iff (msg : DBusMessage)
    (known : msg.signature = "i" ∨ msg.signature = "ibas") :
    Handles msg ↔ ∀ number isSuccess strings, IsNoti msg number isSuccess strings →
      Convertible (DBusCommand.ofInt32? number) isSuccess (fieldOf strings) := by
  rcases known with command | noti
  · have codes : DBusMessage.codes msg.args = ['i'] := by
      simpa using DBusMessage.signature_eq_iff.mp command
    rcases DBusMessage.args_of_codes .int32 rfl codes with ⟨cmd, rest, args, noRest⟩
    rw [DBusMessage.args_of_codes_nil noRest] at args
    refine iff_of_true (handles_of_command args) ?_
    intro number isSuccess strings isNoti
    exact absurd (command.symm.trans isNoti.signature) (by decide +kernel)
  · rcases DBusReceiverBase.exists_args_of_signature noti with ⟨number, isSuccess, strings, args⟩
    rw [handles_iff_convertible args]
    constructor
    · intro convertible otherNumber otherFlag otherStrings other
      obtain ⟨rfl, rfl, rfl⟩ := IsNoti.unique args other
      exact convertible
    · intro convertible
      exact convertible number isSuccess strings args

/-- A temperature that is no number. -/
def unreadableTemperature : DBusMessage where
  path := "/com/example/hardwaremanager"
  interface := "com.example.hardwaremanager.interface"
  member := "HardwareSignal"
  args := [⟨.int32, DBusCommand.updateTemperatureNoti.toInt32⟩, ⟨.boolean, true⟩,
    ⟨.array .string, [.cStr "", .cStr "N/A"]⟩]

theorem not_handles_unreadableTemperature :
    unreadableTemperature.signature = "ibas" ∧ ¬Handles unreadableTemperature := by
  refine ⟨by decide +kernel, ?_⟩
  rintro ⟨events, returned, -⟩
  have thrown : dispatchMessage unreadableTemperature =
      .error (.thrown .invalidArgument) := by decide +kernel
  rw [thrown] at returned
  cases returned

/-- A temperature as the sensor's file gives it. -/
def twentyDegrees : DBusMessage :=
  { unreadableTemperature with
    args := [⟨.int32, DBusCommand.updateTemperatureNoti.toInt32⟩, ⟨.boolean, true⟩,
      ⟨.array .string, [.cStr "", .cStr "20.000000"]⟩] }

theorem handles_twentyDegrees :
    twentyDegrees.signature = "ibas" ∧ Handles twentyDegrees ∧
      dispatchMessage twentyDegrees =
        .ok [⟨.updateTemperatureNoti, .notiTemperature true (.finite 20)⟩] := by
  have known : twentyDegrees.signature = "ibas" := by decide +kernel
  have isNoti : IsNoti twentyDegrees DBusCommand.updateTemperatureNoti.toInt32 true
      [.cStr "", .cStr "20.000000"] := rfl
  refine ⟨known, (survives_iff twentyDegrees (Or.inr known)).mpr ?_, by decide +kernel⟩
  intro number isSuccess strings other
  obtain ⟨rfl, rfl, rfl⟩ := isNoti.unique other
  constructor
  · intro _
    exact ⟨.finite 20, by decide +kernel⟩
  · rintro - type ⟨⟩

end Messages

end DBusReceiver

end RaspberryPiService
