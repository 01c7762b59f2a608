import RaspberryPiService.CoreManager.ShownMessages
import RaspberryPiService.NotificationSenders

/-!
# From a notification to the clients

A notification passes four places on its way to the clients: the factory of the manager
that sends it, the receiver of the core, MainWorker with one of its handlers, and the
server that makes a JSON document of it. The table `DBusCommand.shown` says for every
notification what a client finds in the document, and in which field of the notification
it comes from.

The temperature is left out here, since the core shows it only when it changes. A filtered
recording is shown twice, and about its insertion the table of recordings decides.
-/

namespace RaspberryPiService

open NumberText

/-- What a client finds under a key, by the field of the notification. -/
inductive FieldSource where
  | text (type : DBusDataType)
  | integer (type : DBusDataType)
  | isTrue (type : DBusDataType)

def FieldSource.Shows (dataInfo : DBusDataInfo) (value : Json) : FieldSource → Prop
  | text type => value = .string (dataInfo.get type)
  | integer type => ∃ number, stoi (dataInfo.get type) = .ok number ∧ value = .number number
  | isTrue type => value = .boolean (dataInfo.get type = "true")

/-- How the clients are shown a notification. -/
structure ShownNoti where
  component : String
  command : String
  -- the text of the core, where it does not show that of the notification
  text : Option String := none
  fields : List (String × FieldSource) := []
  failures : Bool := true

namespace ShownNoti

/-- The message shows the notification, and of its fields those of the table alone. -/
structure Tells (shown : ShownNoti) (isSuccess : Bool) (dataInfo : DBusDataInfo)
    (message : StatusMessage) : Prop where
  status : message.status = if isSuccess then "success" else "fail"
  component : message.component = shown.component
  command : message.command = shown.command
  text : message.msg = shown.text.getD (dataInfo.get .message)
  fields : ∀ field ∈ shown.fields, ∃ value, message.data.member? field.1 = some value ∧
    field.2.Shows dataInfo value
  others : ∀ key, key ∉ shown.fields.map Prod.fst → message.data.member? key = none

/-- A text of the manager, about a success or a failure. -/
def reply (component command : String) : ShownNoti where
  component := component
  command := command

/-- The outcome of a connection, with the address of the device. -/
def connection (command : String) : ShownNoti where
  component := "Settings"
  command := command
  fields := [("device_address", .text .btDeviceAddress)]

/-- A step of a synchronization, of which failures are only logged. -/
def progress (command : String) : ShownNoti where
  component := "Call"
  command := command
  failures := false

/-- Something that happened, with a text of the core; there are no failures. -/
def news (component command text : String) (fields : List (String × FieldSource)) :
    ShownNoti where
  component := component
  command := command
  text := some text
  fields := fields
  failures := false

def deviceFields : List (String × FieldSource) :=
  [("device_name", .text .btDeviceName), ("device_address", .text .btDeviceAddress),
    ("rssi", .integer .btDeviceRssi), ("is_paired", .isTrue .btDevicePaired),
    ("is_connected", .isTrue .btDeviceConnected), ("icon", .text .btDeviceIcon)]

def callFields : List (String × FieldSource) :=
  [("call_name", .text .callName), ("call_number", .text .callNumber),
    ("call_state", .text .callState)]

end ShownNoti

def DBusCommand.shown : DBusCommand → Option ShownNoti
  | startScanBTDeviceNoti => some (.reply "Settings" "start_scan_btdevice_noti")
  | stopScanBTDeviceNoti => some (.reply "Settings" "stop_scan_btdevice_noti")
  | bluetoothPowerOnNoti => some (.reply "Settings" "bluetooth_power_on_noti")
  | bluetoothPowerOffNoti => some (.reply "Settings" "bluetooth_power_off_noti")
  | pairBTDeviceNoti => some (.reply "Settings" "pair_btdevice_noti")
  | unpairBTDeviceNoti => some (.reply "Settings" "unpair_btdevice_noti")
  | connectBTDeviceNoti => some (.connection "connect_btdevice_noti")
  | disconnectBTDeviceNoti => some (.connection "disconnect_btdevice_noti")
  | scanningBTDeviceFoundNoti =>
      some (.news "Settings" "scanning_btdevice_found_noti" "Scanning Bluetooth device found."
        ShownNoti.deviceFields)
  | btDevicePropertyChangeNoti =>
      some (.news "Settings" "btdevice_property_change_noti" "Bluetooth device property changed."
        ShownNoti.deviceFields)
  | scanningBTDeviceDeleteNoti =>
      some (.news "Settings" "scanning_btdevice_delete_noti" "Scanning Bluetooth device deleted."
        [("device_address", .text .btDeviceAddress)])
  | btDeviceRequestConfirmationNoti =>
      some (.news "Settings" "btdevice_request_confirmation_noti"
        "Bluetooth device requests confirmation."
        [("device_address", .text .btDeviceAddress), ("passkey", .text .btPairingPasskey)])
  | pbapSessionEndNoti => some (.reply "Call" "pbap_session_end_noti")
  | pbapPhonebookPullStartNoti => some (.progress "pbap_phonebook_pull_start_noti")
  | pbapPhonebookPullEndNoti => some (.progress "pbap_phonebook_pull_end_noti")
  | callHistoryPullStartNoti => some (.progress "call_history_pull_start_noti")
  | callHistoryPullEndNoti => some (.progress "call_history_pull_end_noti")
  | pbapPhonebookPullNoti =>
      some (.news "Call" "pbap_phonebook_pull_noti" "PBAP contact received."
        [("contact_name", .text .contactName), ("contact_number", .text .contactNumber)])
  | callHistoryPullNoti =>
      some (.news "Call" "call_history_pull_noti" "Call history entry received."
        [("call_history_name", .text .callHistoryName),
          ("call_history_number", .text .callHistoryNumber),
          ("call_history_type", .text .callHistoryType),
          ("call_history_datetime", .text .callHistoryDatetime)])
  | incomingCallNoti =>
      some (.news "Call" "incoming_call_noti" "Incoming call notification received."
        ShownNoti.callFields)
  | outgoingCallNoti =>
      some (.news "Call" "outgoing_call_noti" "Outgoing call notification received."
        ShownNoti.callFields)
  | callStateChangedNoti =>
      some (.news "Call" "call_state_changed_noti" "Call state change notification received."
        ShownNoti.callFields)
  | callEndedNoti =>
      some (.news "Call" "call_ended_noti" "Call ended notification received."
        ShownNoti.callFields)
  | dialCallNoti => some (.reply "Call" "dial_call_noti")
  | answerCallNoti => some (.reply "Call" "answer_call_noti")
  | hangupCallNoti => some (.reply "Call" "hangup_call_noti")
  | startRecordNoti => some (.reply "Record" "start_record_noti")
  | stopRecordNoti => some (.reply "Record" "stop_record_noti")
  | cancelRecordNoti => some (.reply "Record" "cancel_record_noti")
  | filterWavFileNoti => some (.reply "Record" "filter_wav_file_noti")
  | _ => .none

/-- The loop of the core's receiver over the messages from the bus. -/
def CoreReceiver.receive (msg : DBusMessage) : Except ReceiverFailure (List NotiEvent) :=
  if msg.isSignal "com.example.coremanager.interface" "CoreSignal" then
    DBusReceiver.dispatchMessage msg
  else .ok []

/-- The documents about the events of a notification, other than about an insertion. -/
def NotiEvent.documents (surroundings : CoreSurroundings) (core : Core)
    (events : List NotiEvent) : List Json :=
  (events.filter fun event => event.eventTypeId ≠ .insertWavFile).flatMap fun event =>
    shownDocuments (CoreMainWorker.processNoti surroundings core event).2

namespace CoreReceiver

variable {notifier : Notifier} {memory : Memory} {cmd : DBusCommand} {isSuccess : Bool}
  {dataInfo : DBusDataInfo} {msg : DBusMessage}

/-- A notification that was sent reaches the handler as it was sent. -/
theorem receive_of_sent (sent : msg ∈ notifier.sendMessageNoti memory cmd isSuccess dataInfo)
    (nulFree : dataInfo.IsNulFree) :
    receive msg = (match DBusReceiver.handleMessageNoti (some cmd) isSuccess dataInfo with
      | .ok events => .ok events
      | .error error => .error (.thrown error)) := by
  have made := (Notifier.made_of_sent sent).2
  have arrives := DBusReceiverBase.dispatchMessage_sent nulFree made
  have forCore : msg.isSignal "com.example.coremanager.interface" "CoreSignal" := by
    obtain ⟨-, rfl⟩ := ISenderFactory.makeMsgNotiInternal_eq_ok_iff.mp made
    simp [DBusMessage.isSignal, SignalAddress.coreManager]
  cases handled : DBusReceiver.handleMessageNoti (some cmd) isSuccess dataInfo <;>
    simp [receive, forCore, DBusReceiver.dispatchMessage, arrives, handled]

end CoreReceiver

namespace ShownNoti

variable {isSuccess : Bool} {dataInfo : DBusDataInfo} {surroundings : CoreSurroundings}
  {core : Core}

/-- What becomes of a notification: its documents, if there should be any. -/
def Shown (shown : ShownNoti) (isSuccess : Bool) (dataInfo : DBusDataInfo)
    (documents : List Json) : Prop :=
  if isSuccess ∨ shown.failures then
    ∃ message : StatusMessage, documents = [message.document] ∧
      shown.Tells isSuccess dataInfo message
  else documents = []

theorem documents_singleton {eventTypeId : NotiEventTypeID} (payload : NotiPayload)
    (other : eventTypeId ≠ .insertWavFile) :
    NotiEvent.documents surroundings core [⟨eventTypeId, payload⟩] =
      shownDocuments
        (CoreMainWorker.processNoti surroundings core ⟨eventTypeId, payload⟩).2 := by
  simp [NotiEvent.documents, other]

theorem shown_nil {shown : ShownNoti} (silent : shown.failures = false) :
    shown.Shown false dataInfo [] := by
  simp [Shown, silent]

theorem shown_document {shown : ShownNoti} {message : StatusMessage}
    (tells : shown.Tells isSuccess dataInfo message) (either : isSuccess ∨ shown.failures) :
    shown.Shown isSuccess dataInfo [message.document] := by
  rw [Shown, if_pos either]
  exact ⟨message, rfl, tells⟩

/-- A document whose data is an object with the fields of the table. -/
theorem shown_assigned {shown : ShownNoti} {message : StatusMessage}
    {assignments : List (String × Json)} (isData : message.data = .assigned assignments)
    (keys : assignments.map Prod.fst = shown.fields.map Prod.fst)
    (status : message.status = if isSuccess then "success" else "fail")
    (component : message.component = shown.component) (command : message.command = shown.command)
    (text : message.msg = shown.text.getD (dataInfo.get .message))
    (fields : ∀ field ∈ shown.fields, ∃ value, assignments.reverse.lookup field.1 = some value ∧
      field.2.Shows dataInfo value)
    (either : isSuccess ∨ shown.failures) : shown.Shown isSuccess dataInfo [message.document] := by
  refine shown_document ⟨status, component, command, text, ?_, ?_⟩ either
  · simpa only [isData, Json.member?_assigned] using fields
  · intro key absent
    rw [isData]
    exact Json.member?_assigned_eq_none (keys ▸ absent)

/-- A document with the text of the notification and no fields. -/
theorem shown_reply (component command : String) :
    (reply component command).Shown isSuccess dataInfo
      (shownDocuments
        (CoreState.showNoti isSuccess (dataInfo.get .message) component command .null)) :=
  shown_document ⟨rfl, rfl, rfl, rfl, by simp [reply], fun _ _ => rfl⟩ (Or.inr rfl)

theorem shown_connection (command : String) :
    (connection command).Shown isSuccess dataInfo
      (shownDocuments (CoreState.showNoti isSuccess (dataInfo.get .message) "Settings" command
        (.assigned [("device_address", .string (dataInfo.get .btDeviceAddress))]))) := by
  apply shown_assigned rfl rfl rfl rfl rfl rfl _ (Or.inr rfl)
  simp [connection, FieldSource.Shows]

theorem shown_progress (state : CoreState) (command : String) :
    (progress command).Shown isSuccess dataInfo
      (shownDocuments
        (state.passOnSuccess (.noti isSuccess (dataInfo.get .message)) command).2) := by
  cases isSuccess with
  | false => exact shown_nil rfl
  | true =>
      exact shown_document ⟨rfl, rfl, rfl, rfl, by simp [progress], fun _ _ => rfl⟩ (Or.inl rfl)

theorem shown_call (command text : String) :
    (news "Call" command text callFields).Shown true dataInfo
      (shownDocuments (CoreState.showSuccess text "Call" command
        (.assigned [("call_name", .string (dataInfo.get .callName)),
          ("call_number", .string (dataInfo.get .callNumber)),
          ("call_state", .string (dataInfo.get .callState))]))) := by
  apply shown_assigned rfl rfl rfl rfl rfl rfl _ (Or.inl rfl)
  simp [news, callFields, FieldSource.Shows, List.lookup_cons]

theorem shown_device {command text : String} {rssi : Int32}
    (read : stoi (dataInfo.get .btDeviceRssi) = .ok rssi) :
    (news "Settings" command text deviceFields).Shown true dataInfo
      (shownDocuments (CoreState.showSuccess text "Settings" command
        (.assigned [("device_name", .string (dataInfo.get .btDeviceName)),
          ("device_address", .string (dataInfo.get .btDeviceAddress)), ("rssi", .number rssi),
          ("is_paired", .boolean (dataInfo.get .btDevicePaired = "true")),
          ("is_connected", .boolean (dataInfo.get .btDeviceConnected = "true")),
          ("icon", .string (dataInfo.get .btDeviceIcon))]))) := by
  apply shown_assigned rfl rfl rfl rfl rfl rfl _ (Or.inl rfl)
  simp [news, deviceFields, FieldSource.Shows, List.lookup_cons, read]

open DBusReceiver

/-- The cases about a device. -/
theorem shown_of_deviceEvents {eventTypeId : NotiEventTypeID} {command text : String}
    {events : List NotiEvent} (other : eventTypeId ≠ .insertWavFile)
    (handled : deviceEvents eventTypeId isSuccess dataInfo = .ok events)
    (shows : ∀ payload, (CoreMainWorker.processNoti surroundings core ⟨eventTypeId, payload⟩).2 =
      (core.state.showDevice payload text command).2) :
    (news "Settings" command text deviceFields).Shown isSuccess dataInfo
      (NotiEvent.documents surroundings core events) := by
  rw [deviceEvents_eq_ok_iff] at handled
  cases isSuccess with
  | false =>
      cases handled
      exact shown_nil rfl
  | true =>
      rcases handled with ⟨rssi, read, rfl⟩
      rw [documents_singleton _ other, shows]
      exact shown_device read

/-- The cases about a call. -/
theorem shown_of_callEvents {eventTypeId : NotiEventTypeID} {command text : String}
    (other : eventTypeId ≠ .insertWavFile) {callState : String → CallState}
    (shows : ∀ payload, (CoreMainWorker.processNoti surroundings core ⟨eventTypeId, payload⟩).2 =
      (core.state.showCall payload callState text command).2) :
    (news "Call" command text callFields).Shown isSuccess dataInfo
      (NotiEvent.documents surroundings core (callEvents eventTypeId isSuccess dataInfo)) := by
  cases isSuccess with
  | false => exact shown_nil rfl
  | true =>
      simp only [callEvents, if_true]
      rw [documents_singleton _ other, shows]
      exact shown_call _ _

theorem shown_of_handled {cmd : DBusCommand} {shown : ShownNoti} {events : List NotiEvent}
    (isShown : cmd.shown = some shown)
    (handled : handleMessageNoti (some cmd) isSuccess dataInfo = .ok events) :
    shown.Shown isSuccess dataInfo (NotiEvent.documents surroundings core events) := by
  cases cmd with
  | startScanBTDeviceNoti | stopScanBTDeviceNoti | bluetoothPowerOnNoti | bluetoothPowerOffNoti
  | pairBTDeviceNoti | unpairBTDeviceNoti | pbapSessionEndNoti | dialCallNoti | answerCallNoti
  | hangupCallNoti | startRecordNoti | stopRecordNoti | cancelRecordNoti =>
      cases isShown
      cases handled
      rw [notiEvent, documents_singleton _ (by decide)]
      exact shown_reply _ _
  | connectBTDeviceNoti | disconnectBTDeviceNoti =>
      cases isShown
      cases handled
      rw [addressEvent, documents_singleton _ (by decide)]
      exact shown_connection _
  | pbapPhonebookPullStartNoti | pbapPhonebookPullEndNoti | callHistoryPullStartNoti
  | callHistoryPullEndNoti =>
      cases isShown
      cases handled
      rw [notiEvent, documents_singleton _ (by decide)]
      exact shown_progress _ _
  | scanningBTDeviceFoundNoti | btDevicePropertyChangeNoti =>
      cases isShown
      exact shown_of_deviceEvents (by decide) handled fun _ => rfl
  | incomingCallNoti | outgoingCallNoti | callStateChangedNoti | callEndedNoti =>
      cases isShown
      cases handled
      exact shown_of_callEvents (by decide) fun _ => rfl
  | scanningBTDeviceDeleteNoti | btDeviceRequestConfirmationNoti | pbapPhonebookPullNoti
  | callHistoryPullNoti =>
      cases isShown
      cases handled
      cases isSuccess with
      | false => exact shown_nil rfl
      | true =>
          rw [if_pos rfl, documents_singleton _ (by decide)]
          apply shown_assigned rfl rfl rfl rfl rfl rfl _ (Or.inl rfl)
          simp [news, FieldSource.Shows, List.lookup_cons]
  | filterWavFileNoti =>
      cases isShown
      have shownLast : (reply "Record" "filter_wav_file_noti").Shown isSuccess dataInfo
          (NotiEvent.documents surroundings core
            [notiEvent .filterWavFileNoti isSuccess dataInfo]) := by
        rw [notiEvent, documents_singleton _ (by decide)]
        exact shown_reply _ _
      cases isSuccess with
      | false =>
          cases handled
          exact shownLast
      | true =>
          rcases Throws.bind_eq_ok_iff.mp handled with ⟨durationSec, read, ⟨⟩⟩
          exact shownLast
  | _ => cases isShown

end ShownNoti

namespace CoreReceiver

variable {notifier : Notifier} {memory : Memory} {cmd : DBusCommand} {isSuccess : Bool}
  {dataInfo : DBusDataInfo} {msg : DBusMessage}

/-- Every notification that a manager can send has its place in the table. -/
theorem exists_shown_of_mem (known : cmd ∈ notifier.commands)
    (other : cmd ≠ .updateTemperatureNoti) : ∃ shown, cmd.shown = some shown := by
  cases notifier <;> cases cmd <;> first
    | exact ⟨_, rfl⟩
    | exact absurd rfl other
    | exact absurd known (by decide)

/--
Whatever a manager sends without NULs and with numbers where the core reads numbers is
shown to the clients as the table says, in whatever state the core is when it comes to it.
-/
theorem shown_of_sent (sent : msg ∈ notifier.sendMessageNoti memory cmd isSuccess dataInfo)
    (other : cmd ≠ .updateTemperatureNoti) (nulFree : dataInfo.IsNulFree)
    (convertible : DBusReceiver.Convertible (some cmd) isSuccess dataInfo.get) :
    ∃ shown events, cmd.shown = some shown ∧ receive msg = .ok events ∧
      ∀ surroundings core,
        shown.Shown isSuccess dataInfo (NotiEvent.documents surroundings core events) := by
  rcases exists_shown_of_mem (Notifier.made_of_sent sent).1 other with ⟨shown, isShown⟩
  rcases DBusReceiver.handleMessageNoti_returns_iff.mpr convertible with ⟨events, handled⟩
  refine ⟨shown, events, isShown, ?_, fun _ _ => ShownNoti.shown_of_handled isShown handled⟩
  rw [receive_of_sent sent nulFree, handled]

/-- A device in reach. -/
def foundDevice : DBusDataInfo :=
  ((DBusDataInfo.init.set .btDeviceName "phone").set .btDeviceAddress "00:11:22:33:44:55").set
    .btDeviceRssi "-57"

theorem shown_of_sent_foundDevice : ∃ msg events,
    msg ∈ Notifier.hardwareManager.sendMessageNoti (fun _ => true) .scanningBTDeviceFoundNoti true
        foundDevice ∧
      receive msg = .ok events ∧ ∀ surroundings core, ∃ message : StatusMessage,
        NotiEvent.documents surroundings core events = [message.document] ∧
        message.status = "success" ∧ message.command = "scanning_btdevice_found_noti" ∧
        message.data.member? "device_name" = some (.string "phone") ∧
        message.data.member? "rssi" = some (.number (-57)) := by
  have nulFree : foundDevice.IsNulFree := by
    refine ((DBusDataInfo.isNulFree_init.set _ ?_).set _ ?_).set _ ?_ <;> decide +kernel
  have read : stoi (foundDevice.get .btDeviceRssi) = .ok (-57) := by decide +kernel
  have convertible : DBusReceiver.Convertible (some .scanningBTDeviceFoundNoti) true
      foundDevice.get := by
    refine ⟨by simp, fun _ type isType => ?_⟩
    cases isType
    exact ⟨-57, read⟩
  have sent : _ ∈ Notifier.hardwareManager.sendMessageNoti (fun _ => true)
      .scanningBTDeviceFoundNoti true foundDevice := List.mem_singleton_self _
  obtain ⟨shown, events, isShown, received, shows⟩ :=
    shown_of_sent sent (by decide) nulFree convertible
  cases isShown
  refine ⟨_, events, sent, received, fun surroundings core => ?_⟩
  rcases shows surroundings core with ⟨message, documents, tells⟩
  refine ⟨message, documents, tells.status, tells.command, ?_, ?_⟩
  · rcases tells.fields ("device_name", .text .btDeviceName)
      (by simp [ShownNoti.news, ShownNoti.deviceFields]) with ⟨_, told, rfl⟩
    exact told
  · rcases tells.fields ("rssi", .integer .btDeviceRssi)
      (by simp [ShownNoti.news, ShownNoti.deviceFields]) with ⟨_, told, number, same, rfl⟩
    cases read.symm.trans same
    exact told

end CoreReceiver

end RaspberryPiService
