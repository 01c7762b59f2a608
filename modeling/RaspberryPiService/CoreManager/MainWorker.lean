import RaspberryPiService.CoreManager.RecordTable
import RaspberryPiService.DisplayedTemperature

/-!
# MainWorker of the core manager

MainWorker takes the events of all three sources, the clients, the other managers and the
timers, from one queue and leaves each of them to its handler. A handler casts the payload
to the class that it expects, and only logs an error if it is another one. What it does
besides is to change the `StateView` or the table of recordings, to send D-Bus messages, to
show something to the clients, and to start or stop the timer of a request for
confirmation.
-/

namespace RaspberryPiService

/-- What a handler has others do, in its order. -/
inductive CoreEffect where
  | send (msg : DBusMessage)
  | broadcast (document : Json)
  | startTimer (address : String)
  | stopTimer (address : String)

namespace CoreState

variable (state : CoreState) (payload : NotiPayload)

/-- A success or a failure is shown with its own text. -/
def showNoti (isSuccess : Bool) (msgInfo component msgData : String) (data : Json) :
    List CoreEffect :=
  [.broadcast (WebSocketServer.updateStateAndBroadcast (if isSuccess then "success" else "fail")
    msgInfo component msgData data)]

def showSuccess (msgInfo component msgData : String) (data : Json) : List CoreEffect :=
  [.broadcast (WebSocketServer.updateStateAndBroadcast "success" msgInfo component msgData data)]

def startScanBTDeviceNOTI : CoreState × List CoreEffect :=
  match payload with
  | .noti isSuccess msgInfo =>
      ({ state with scanningBTDeviceState := if isSuccess then .on else .off },
        showNoti isSuccess msgInfo "Settings" "start_scan_btdevice_noti" .null)
  | _ => (state, [])

def stopScanBTDeviceNOTI : CoreState × List CoreEffect :=
  match payload with
  | .noti isSuccess msgInfo =>
      ({ state with scanningBTDeviceState := if isSuccess then .off else .on },
        showNoti isSuccess msgInfo "Settings" "stop_scan_btdevice_noti" .null)
  | _ => (state, [])

/-- A failure is shown as 0 degrees, and a value that is no news is not shown. -/
def updateTemperatureNOTI (undefinedCast : FloatValue → Int32) :
    CoreState × List CoreEffect :=
  match payload with
  | .notiTemperature isSuccess temperatureValue =>
      if isSuccess then
        let nextTemperature : Int32 :=
          .ofInt (HardwareHandler.nextTemperature undefinedCast temperatureValue)
        if state.currentTemperature ≠ nextTemperature then
          ({ state with currentTemperature := nextTemperature },
            showSuccess "Temperature updated successfully from Hardware Manager Service."
              "Header" "update_temperature_noti"
              (.assigned [("temperature", .number nextTemperature)]))
        else (state, [])
      else
        (state, [.broadcast (WebSocketServer.updateStateAndBroadcast "fail"
          ("Failed to update temperature from Hardware Manager Service." ++
            " Check sensor connection.")
          "Header" "update_temperature_noti" (.assigned [("temperature", .number 0)]))])
  | _ => (state, [])

/-- The fields of a device, for the two commands that show one. -/
def showDevice (msgInfo msgData : String) : CoreState × List CoreEffect :=
  match payload with
  | .bluetoothDevice name address rssi isPaired isConnected icon =>
      (state, showSuccess msgInfo "Settings" msgData
        (.assigned [("device_name", .string name), ("device_address", .string address),
          ("rssi", .number rssi), ("is_paired", .boolean isPaired),
          ("is_connected", .boolean isConnected), ("icon", .string icon)]))
  | _ => (state, [])

def scanningBTDeviceFoundNOTI : CoreState × List CoreEffect :=
  state.showDevice payload "Scanning Bluetooth device found." "scanning_btdevice_found_noti"

def scanningBTDeviceDeleteNOTI : CoreState × List CoreEffect :=
  match payload with
  | .bluetoothDeviceAddress address =>
      (state, showSuccess "Scanning Bluetooth device deleted." "Settings"
        "scanning_btdevice_delete_noti" (.assigned [("device_address", .string address)]))
  | _ => (state, [])

def bluetoothPowerOnNOTI : CoreState × List CoreEffect :=
  match payload with
  | .noti isSuccess msgInfo =>
      ({ state with bluetoothPowerState := if isSuccess then .on else .off },
        showNoti isSuccess msgInfo "Settings" "bluetooth_power_on_noti" .null)
  | _ => (state, [])

def bluetoothPowerOffNOTI : CoreState × List CoreEffect :=
  match payload with
  | .noti isSuccess msgInfo =>
      ({ state with bluetoothPowerState := if isSuccess then .off else .on },
        showNoti isSuccess msgInfo "Settings" "bluetooth_power_off_noti" .null)
  | _ => (state, [])

/-- The handlers that only show the text, whether it tells a success or a failure. -/
def passOn (component msgData : String) : CoreState × List CoreEffect :=
  match payload with
  | .noti isSuccess msgInfo => (state, showNoti isSuccess msgInfo component msgData .null)
  | _ => (state, [])

def pairBTDeviceNOTI : CoreState × List CoreEffect :=
  state.passOn payload "Settings" "pair_btdevice_noti"

def unpairBTDeviceNOTI : CoreState × List CoreEffect :=
  state.passOn payload "Settings" "unpair_btdevice_noti"

/-- The handlers that show the address as well. -/
def passOnAddress (msgData : String) : CoreState × List CoreEffect :=
  match payload with
  | .notiBTDeviceAddress isSuccess msgInfo address =>
      (state, showNoti isSuccess msgInfo "Settings" msgData
        (.assigned [("device_address", .string address)]))
  | _ => (state, [])

def connectBTDeviceNOTI : CoreState × List CoreEffect :=
  state.passOnAddress payload "connect_btdevice_noti"

def disconnectBTDeviceNOTI : CoreState × List CoreEffect :=
  state.passOnAddress payload "disconnect_btdevice_noti"

def btDevicePropertyChangeNOTI : CoreState × List CoreEffect :=
  state.showDevice payload "Bluetooth device property changed." "btdevice_property_change_noti"

def btDeviceRequestConfirmationNOTI : CoreState × List CoreEffect :=
  match payload with
  | .bluetoothDevicePasskey address passkey =>
      (state, showSuccess "Bluetooth device requests confirmation." "Settings"
        "btdevice_request_confirmation_noti"
        (.assigned [("device_address", .string address), ("passkey", .string passkey)]) ++
        [.startTimer address])
  | _ => (state, [])

def pbapSessionEndNOTI : CoreState × List CoreEffect :=
  state.passOn payload "Call" "pbap_session_end_noti"

/-- The handlers that only log a failure. -/
def passOnSuccess (msgData : String) : CoreState × List CoreEffect :=
  match payload with
  | .noti isSuccess msgInfo =>
      if isSuccess then (state, showSuccess msgInfo "Call" msgData .null) else (state, [])
  | _ => (state, [])

def pbapPhonebookPullStartNOTI : CoreState × List CoreEffect :=
  state.passOnSuccess payload "pbap_phonebook_pull_start_noti"

def pbapPhonebookPullNOTI : CoreState × List CoreEffect :=
  match payload with
  | .contact name number =>
      (state, showSuccess "PBAP contact received." "Call" "pbap_phonebook_pull_noti"
        (.assigned [("contact_name", .string name), ("contact_number", .string number)]))
  | _ => (state, [])

def pbapPhonebookPullEndNOTI : CoreState × List CoreEffect :=
  state.passOnSuccess payload "pbap_phonebook_pull_end_noti"

def callHistoryPullStartNOTI : CoreState × List CoreEffect :=
  state.passOnSuccess payload "call_history_pull_start_noti"

def callHistoryPullNOTI : CoreState × List CoreEffect :=
  match payload with
  | .callHistory name number type dateTime =>
      (state, showSuccess "Call history entry received." "Call" "call_history_pull_noti"
        (.assigned [("call_history_name", .string name), ("call_history_number", .string number),
          ("call_history_type", .string type), ("call_history_datetime", .string dateTime)]))
  | _ => (state, [])

def callHistoryPullEndNOTI : CoreState × List CoreEffect :=
  state.passOnSuccess payload "call_history_pull_end_noti"

/-- The fields of a call, with the state that `CALL_STATE` gets of its `state`. -/
def showCall (callState : String → CallState) (msgInfo msgData : String) :
    CoreState × List CoreEffect :=
  match payload with
  | .call name number callStateText =>
      ({ state with callState := callState callStateText },
        showSuccess msgInfo "Call" msgData
          (.assigned [("call_name", .string name), ("call_number", .string number),
            ("call_state", .string callStateText)]))
  | _ => (state, [])

def incomingCallNOTI : CoreState × List CoreEffect :=
  state.showCall payload (fun _ => .incoming) "Incoming call notification received."
    "incoming_call_noti"

def outgoingCallNOTI : CoreState × List CoreEffect :=
  state.showCall payload (fun _ => .outcoming) "Outgoing call notification received."
    "outgoing_call_noti"

def callStateChangedNOTI : CoreState × List CoreEffect :=
  state.showCall payload CallHandler.changedState "Call state change notification received."
    "call_state_changed_noti"

def callEndedNOTI : CoreState × List CoreEffect :=
  state.showCall payload (fun _ => .idle) "Call ended notification received." "call_ended_noti"

/-- The replies to the commands about calls, which leave `CALL_STATE` idle. -/
def showReply (msgData : String) : CoreState × List CoreEffect :=
  match payload with
  | .noti isSuccess msgInfo =>
      ({ state with callState := .idle }, showNoti isSuccess msgInfo "Call" msgData .null)
  | _ => (state, [])

def dialCallNOTI : CoreState × List CoreEffect :=
  state.showReply payload "dial_call_noti"

def hangupCallNOTI : CoreState × List CoreEffect :=
  state.showReply payload "hangup_call_noti"

def answerCallNOTI : CoreState × List CoreEffect :=
  state.showReply payload "answer_call_noti"

def startRecordNOTI : CoreState × List CoreEffect :=
  match payload with
  | .noti isSuccess msgInfo =>
      ({ state with recordState := if isSuccess then .recording else .stopped },
        showNoti isSuccess msgInfo "Record" "start_record_noti" .null)
  | _ => (state, [])

def stopRecordNOTI : CoreState × List CoreEffect :=
  match payload with
  | .noti isSuccess msgInfo =>
      ({ state with recordState := .stopped },
        showNoti isSuccess msgInfo "Record" "stop_record_noti" .null)
  | _ => (state, [])

def cancelRecordNOTI : CoreState × List CoreEffect :=
  match payload with
  | .noti isSuccess msgInfo =>
      ({ state with recordState := .stopped },
        showNoti isSuccess msgInfo "Record" "cancel_record_noti" .null)
  | _ => (state, [])

def filterWavFileNOTI : CoreState × List CoreEffect :=
  state.passOn payload "Record" "filter_wav_file_noti"

end CoreState

/-- What the handlers of MainWorker change. -/
structure Core where
  state : CoreState := {}
  database : SQLiteDatabase := {}

/-- The events of the core's queue. -/
inductive CoreManagerEvent where
  | startup
  | command (event : CoreEvent)
  | noti (event : NotiEvent)
  | confirmationTimeout (payload : Option Payload)

/-- What the handler of an event meets. -/
structure CoreSurroundings where
  memory : Memory := fun _ => true
  undefinedCast : FloatValue → Int32 := fun _ => 0
  run : StatementRun := {}

namespace CoreMainWorker

variable (surroundings : CoreSurroundings) (core : Core)

def onState (handled : CoreState × List CoreEffect) : Core × List CoreEffect :=
  ({ core with state := handled.1 }, handled.2)

def onDatabase (handled : SQLiteDatabase × List Json) : Core × List CoreEffect :=
  ({ core with database := handled.1 }, handled.2.map .broadcast)

/-- `removeTimerOnTimerIdMap`, for an answer to a request for confirmation. -/
def answeredTimer (event : CoreEvent) : List CoreEffect :=
  match event.eventTypeId, event.payload with
  | .acceptRequestConfirmation, some (.bluetoothDeviceAddress address)
  | .rejectRequestConfirmation, some (.bluetoothDeviceAddress address) => [.stopTimer address]
  | _, _ => []

/-- The cases for what a client asks for. -/
def processCommand (event : CoreEvent) : Core × List CoreEffect :=
  match event.eventTypeId with
  | .removeRecord =>
      onDatabase core (SQLiteDBHandler.removeRecordRow core.database surroundings.run event.payload)
  | .getAllRecord =>
      onDatabase core (SQLiteDBHandler.getAllAudioRecords core.database surroundings.run)
  | _ =>
      let (view, sent) := core.state.toStateView.processEvent surroundings.memory event
      ({ core with state := { core.state with toStateView := view } },
        sent.map .send ++ answeredTimer event)

/-- The cases for what the other managers tell. -/
def processNoti (event : NotiEvent) : Core × List CoreEffect :=
  let state := core.state
  let payload := event.payload
  match event.eventTypeId with
  | .updateTemperatureNoti =>
      onState core (state.updateTemperatureNOTI payload surroundings.undefinedCast)
  | .startScanBTDeviceNoti => onState core (state.startScanBTDeviceNOTI payload)
  | .stopScanBTDeviceNoti => onState core (state.stopScanBTDeviceNOTI payload)
  | .scanningBTDeviceFoundNoti => onState core (state.scanningBTDeviceFoundNOTI payload)
  | .scanningBTDeviceDeleteNoti => onState core (state.scanningBTDeviceDeleteNOTI payload)
  | .bluetoothPowerOnNoti => onState core (state.bluetoothPowerOnNOTI payload)
  | .bluetoothPowerOffNoti => onState core (state.bluetoothPowerOffNOTI payload)
  | .btDevicePropertyChangeNoti => onState core (state.btDevicePropertyChangeNOTI payload)
  | .pairBTDeviceNoti => onState core (state.pairBTDeviceNOTI payload)
  | .unpairBTDeviceNoti => onState core (state.unpairBTDeviceNOTI payload)
  | .connectBTDeviceNoti => onState core (state.connectBTDeviceNOTI payload)
  | .disconnectBTDeviceNoti => onState core (state.disconnectBTDeviceNOTI payload)
  | .btDeviceRequestConfirmationNoti =>
      onState core (state.btDeviceRequestConfirmationNOTI payload)
  | .pbapSessionEndNoti => onState core (state.pbapSessionEndNOTI payload)
  | .pbapPhonebookPullStartNoti => onState core (state.pbapPhonebookPullStartNOTI payload)
  | .pbapPhonebookPullNoti => onState core (state.pbapPhonebookPullNOTI payload)
  | .pbapPhonebookPullEndNoti => onState core (state.pbapPhonebookPullEndNOTI payload)
  | .callHistoryPullStartNoti => onState core (state.callHistoryPullStartNOTI payload)
  | .callHistoryPullNoti => onState core (state.callHistoryPullNOTI payload)
  | .callHistoryPullEndNoti => onState core (state.callHistoryPullEndNOTI payload)
  | .incomingCallNoti => onState core (state.incomingCallNOTI payload)
  | .outgoingCallNoti => onState core (state.outgoingCallNOTI payload)
  | .callStateChangedNoti => onState core (state.callStateChangedNOTI payload)
  | .callEndedNoti => onState core (state.callEndedNOTI payload)
  | .dialCallNoti => onState core (state.dialCallNOTI payload)
  | .answerCallNoti => onState core (state.answerCallNOTI payload)
  | .hangupCallNoti => onState core (state.hangupCallNOTI payload)
  | .startRecordNoti => onState core (state.startRecordNOTI payload)
  | .stopRecordNoti => onState core (state.stopRecordNOTI payload)
  | .cancelRecordNoti => onState core (state.cancelRecordNOTI payload)
  | .filterWavFileNoti => onState core (state.filterWavFileNOTI payload)
  | .insertWavFile =>
      onDatabase core (SQLiteDBHandler.insertAudioRecord core.database surroundings.run payload)

/-- `handleBTDeviceRequestConfirmationTimeout`. -/
def processTimeout (payload : Option Payload) : Core × List CoreEffect :=
  match payload with
  | some (.bluetoothDeviceAddress address) =>
      (core, (DBusSender.sendMessageNoti surroundings.memory .rejectRequestConfirmation true
        (DBusDataInfo.init.set .btDeviceAddress address)).map .send)
  | _ => (core, [])

def processEvent : CoreManagerEvent → Core × List CoreEffect
  | .startup => (core, [])
  | .command event => processCommand surroundings core event
  | .noti event => processNoti surroundings core event
  | .confirmationTimeout payload => processTimeout surroundings core payload

end CoreMainWorker

/-- The document that an effect shows to the clients. -/
def CoreEffect.document? : CoreEffect → Option Json
  | .broadcast document => some document
  | .send _ | .startTimer _ | .stopTimer _ => none

/-- What the clients are shown. -/
def shownDocuments (effects : List CoreEffect) : List Json :=
  effects.filterMap CoreEffect.document?

end RaspberryPiService
