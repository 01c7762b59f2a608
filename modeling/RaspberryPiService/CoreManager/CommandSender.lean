import RaspberryPiService.Common.NotificationCodec
import RaspberryPiService.CoreManager.AdapterHandler
import RaspberryPiService.CoreManager.CallHandler
import RaspberryPiService.CoreManager.RecordHandler
import RaspberryPiService.CoreManager.WebSocket

/-!
# Commands on their way to the other managers

MainWorker takes a client's event from the queue and leaves it to the handler of its
command. The handler looks at the payload and, for most commands, at the `StateView`; when
both allow it, one D-Bus message goes out. The message factory decides by the command alone
to which manager.
-/

namespace RaspberryPiService

structure StateView where
  recordState : RecordState := .stopped
  scanningBTDeviceState : SwitchState := .off
  bluetoothPowerState : SwitchState := .off
  callState : CallState := .idle
deriving DecidableEq

/-- The constants by which a signal finds its manager. -/
structure SignalAddress where
  objectPath : String
  interfaceName : String
  signalName : String

def SignalAddress.hardwareManager : SignalAddress where
  objectPath := "/com/example/hardwaremanager"
  interfaceName := "com.example.hardwaremanager.interface"
  signalName := "HardwareSignal"

def SignalAddress.recordManager : SignalAddress where
  objectPath := "/com/example/recordmanager"
  interfaceName := "com.example.recordmanager.interface"
  signalName := "RecordSignal"

namespace CMSenderFactory

variable (memory : Memory) (cmd : DBusCommand) (isSuccess : Bool) (msgInfo : DBusDataInfo)

def makeMsgFor (address : SignalAddress) : Except String DBusMessage :=
  ISenderFactory.makeMsgInternal memory address.objectPath address.interfaceName
    address.signalName cmd

def makeMsgNotiFor (address : SignalAddress) : Except String DBusMessage :=
  ISenderFactory.makeMsgNotiInternal memory address.objectPath address.interfaceName
    address.signalName cmd isSuccess msgInfo

def makeMsgInitializeBluetooth : Except String DBusMessage :=
  makeMsgFor memory cmd .hardwareManager

def makeMsgStartScanBTDevice : Except String DBusMessage :=
  makeMsgFor memory cmd .hardwareManager

def makeMsgStopScanBTDevice : Except String DBusMessage :=
  makeMsgFor memory cmd .hardwareManager

def makeMsgBluetoothPowerOn : Except String DBusMessage :=
  makeMsgFor memory cmd .hardwareManager

def makeMsgBluetoothPowerOff : Except String DBusMessage :=
  makeMsgFor memory cmd .hardwareManager

def makeMsgHangupCall : Except String DBusMessage :=
  makeMsgFor memory cmd .hardwareManager

def makeMsgAnswerCall : Except String DBusMessage :=
  makeMsgFor memory cmd .hardwareManager

def makeMsgNotiPairBTDevice : Except String DBusMessage :=
  makeMsgNotiFor memory cmd isSuccess msgInfo .hardwareManager

def makeMsgNotiUnpairBTDevice : Except String DBusMessage :=
  makeMsgNotiFor memory cmd isSuccess msgInfo .hardwareManager

def makeMsgNotiConnectBTDevice : Except String DBusMessage :=
  makeMsgNotiFor memory cmd isSuccess msgInfo .hardwareManager

def makeMsgNotiDisconnectBTDevice : Except String DBusMessage :=
  makeMsgNotiFor memory cmd isSuccess msgInfo .hardwareManager

def makeMsgNotiRejectBTDeviceRequestConfirmation : Except String DBusMessage :=
  makeMsgNotiFor memory cmd isSuccess msgInfo .hardwareManager

def makeMsgNotiAcceptBTDeviceRequestConfirmation : Except String DBusMessage :=
  makeMsgNotiFor memory cmd isSuccess msgInfo .hardwareManager

def makeMsgNotiDialCall : Except String DBusMessage :=
  makeMsgNotiFor memory cmd isSuccess msgInfo .hardwareManager

def makeMsgStartRecord : Except String DBusMessage :=
  makeMsgFor memory cmd .recordManager

def makeMsgStopRecord : Except String DBusMessage :=
  makeMsgFor memory cmd .recordManager

def makeMsgCancelRecord : Except String DBusMessage :=
  makeMsgFor memory cmd .recordManager

def makeMsg : Except String DBusMessage :=
  match cmd with
  | .initializeBluetooth => makeMsgInitializeBluetooth memory cmd
  | .startScanBTDevice => makeMsgStartScanBTDevice memory cmd
  | .stopScanBTDevice => makeMsgStopScanBTDevice memory cmd
  | .bluetoothPowerOn => makeMsgBluetoothPowerOn memory cmd
  | .bluetoothPowerOff => makeMsgBluetoothPowerOff memory cmd
  | .hangupCall => makeMsgHangupCall memory cmd
  | .answerCall => makeMsgAnswerCall memory cmd
  | .startRecord => makeMsgStartRecord memory cmd
  | .stopRecord => makeMsgStopRecord memory cmd
  | .cancelRecord => makeMsgCancelRecord memory cmd
  | _ => .error "CMSenderFactory makeMsg Error: Unknown DBusCommand"

def makeMsgNoti : Except String DBusMessage :=
  match cmd with
  | .pairBTDevice => makeMsgNotiPairBTDevice memory cmd isSuccess msgInfo
  | .unpairBTDevice => makeMsgNotiUnpairBTDevice memory cmd isSuccess msgInfo
  | .connectBTDevice => makeMsgNotiConnectBTDevice memory cmd isSuccess msgInfo
  | .disconnectBTDevice => makeMsgNotiDisconnectBTDevice memory cmd isSuccess msgInfo
  | .rejectRequestConfirmation =>
      makeMsgNotiRejectBTDeviceRequestConfirmation memory cmd isSuccess msgInfo
  | .acceptRequestConfirmation =>
      makeMsgNotiAcceptBTDeviceRequestConfirmation memory cmd isSuccess msgInfo
  | .dialCall => makeMsgNotiDialCall memory cmd isSuccess msgInfo
  | _ => .error "CMSenderFactory makeMsgNoti Error: Unknown DBusCommand"

end CMSenderFactory

namespace DBusSender

variable (memory : Memory) (cmd : DBusCommand)

/--
The messages that reach the bus. The sender is connected, and `isMsgValid` holds of every
signal that was built; `dbus_connection_send` is the call of libdbus after the last one
that built it.
-/
def sendMessageInternal (call : Nat) (msg : DBusMessage) : List DBusMessage :=
  if memory call then [msg] else []

def sendMessage : List DBusMessage :=
  match CMSenderFactory.makeMsg memory cmd with
  | .ok msg => sendMessageInternal memory 2 msg
  | .error _ => []

def sendMessageNoti (isSuccess : Bool) (dataInfo : DBusDataInfo) : List DBusMessage :=
  match CMSenderFactory.makeMsgNoti memory cmd isSuccess dataInfo with
  | .ok msg => sendMessageInternal memory (5 + dbusDataMax) msg
  | .error _ => []

end DBusSender

namespace StateView

variable (memory : Memory) (view : StateView)

def startScanBTDevice : StateView × List DBusMessage :=
  match view.scanningBTDeviceState with
  | .off =>
      ({ view with scanningBTDeviceState := .processing },
        DBusSender.sendMessage memory .startScanBTDevice)
  | .on | .processing => (view, [])

def stopScanBTDevice : StateView × List DBusMessage :=
  match view.scanningBTDeviceState with
  | .on =>
      ({ view with scanningBTDeviceState := .processing },
        DBusSender.sendMessage memory .stopScanBTDevice)
  | .off | .processing => (view, [])

def bluetoothPowerOn : StateView × List DBusMessage :=
  match view.bluetoothPowerState with
  | .off =>
      ({ view with bluetoothPowerState := .processing },
        DBusSender.sendMessage memory .bluetoothPowerOn)
  | .on | .processing => (view, [])

def bluetoothPowerOff : StateView × List DBusMessage :=
  match view.bluetoothPowerState with
  | .on =>
      ({ view with bluetoothPowerState := .processing },
        DBusSender.sendMessage memory .bluetoothPowerOff)
  | .off | .processing => (view, [])

/-- The handlers of the commands about one device, which do not look at the view. -/
def sendDeviceAddress (cmd : DBusCommand) (payload : Option Payload) :
    StateView × List DBusMessage :=
  match payload with
  | some (.bluetoothDeviceAddress deviceAddress) =>
      (view, DBusSender.sendMessageNoti memory cmd true
        (DBusDataInfo.init.set .btDeviceAddress deviceAddress))
  | _ => (view, [])

def pairBTDevice (payload : Option Payload) : StateView × List DBusMessage :=
  view.sendDeviceAddress memory .pairBTDevice payload

def unpairBTDevice (payload : Option Payload) : StateView × List DBusMessage :=
  view.sendDeviceAddress memory .unpairBTDevice payload

def connectBTDevice (payload : Option Payload) : StateView × List DBusMessage :=
  view.sendDeviceAddress memory .connectBTDevice payload

def disconnectBTDevice (payload : Option Payload) : StateView × List DBusMessage :=
  view.sendDeviceAddress memory .disconnectBTDevice payload

/-- The timer of the request is stopped afterwards, which sends nothing. -/
def rejectBTDeviceRequestConfirmation (payload : Option Payload) :
    StateView × List DBusMessage :=
  view.sendDeviceAddress memory .rejectRequestConfirmation payload

def acceptBTDeviceRequestConfirmation (payload : Option Payload) :
    StateView × List DBusMessage :=
  view.sendDeviceAddress memory .acceptRequestConfirmation payload

def dialCall (payload : Option Payload) : StateView × List DBusMessage :=
  match view.callState with
  | .idle =>
      match payload with
      | some (.call _ phoneNumber _) =>
          ({ view with callState := .processing },
            DBusSender.sendMessageNoti memory .dialCall true
              (DBusDataInfo.init.set .callNumber phoneNumber))
      | _ => (view, [])
  | .processing | .incoming | .outcoming | .calling => (view, [])

def hangupCall : StateView × List DBusMessage :=
  match view.callState with
  | .outcoming | .incoming | .calling =>
      ({ view with callState := .processing }, DBusSender.sendMessage memory .hangupCall)
  | .processing | .idle => (view, [])

def answerCall : StateView × List DBusMessage :=
  match view.callState with
  | .incoming =>
      ({ view with callState := .processing }, DBusSender.sendMessage memory .answerCall)
  | .processing | .calling | .idle | .outcoming => (view, [])

def startRecord : StateView × List DBusMessage :=
  match view.recordState with
  | .stopped =>
      ({ view with recordState := .processing }, DBusSender.sendMessage memory .startRecord)
  | .recording | .processing => (view, [])

def stopRecord : StateView × List DBusMessage :=
  match view.recordState with
  | .recording =>
      ({ view with recordState := .processing }, DBusSender.sendMessage memory .stopRecord)
  | .stopped | .processing => (view, [])

def cancelRecord : StateView × List DBusMessage :=
  match view.recordState with
  | .recording =>
      ({ view with recordState := .processing }, DBusSender.sendMessage memory .cancelRecord)
  | .stopped | .processing => (view, [])

/-- `MainWorker::processEvent`, with the messages that go out. -/
def processEvent (event : CoreEvent) : StateView × List DBusMessage :=
  match event.eventTypeId with
  | .startScanBTDevice => view.startScanBTDevice memory
  | .stopScanBTDevice => view.stopScanBTDevice memory
  | .bluetoothPowerOn => view.bluetoothPowerOn memory
  | .bluetoothPowerOff => view.bluetoothPowerOff memory
  | .pairBTDevice => view.pairBTDevice memory event.payload
  | .unpairBTDevice => view.unpairBTDevice memory event.payload
  | .connectBTDevice => view.connectBTDevice memory event.payload
  | .disconnectBTDevice => view.disconnectBTDevice memory event.payload
  | .acceptRequestConfirmation => view.acceptBTDeviceRequestConfirmation memory event.payload
  | .rejectRequestConfirmation => view.rejectBTDeviceRequestConfirmation memory event.payload
  | .dialCall => view.dialCall memory event.payload
  | .hangupCall => view.hangupCall memory
  | .answerCall => view.answerCall memory
  | .startRecord => view.startRecord memory
  | .stopRecord => view.stopRecord memory
  | .cancelRecord => view.cancelRecord memory
  -- Left to `SQLiteDBHandler`.
  | .removeRecord | .getAllRecord => (view, [])

/-- The command would change something, as far as the core knows. -/
def Accepts : ClientCommand → Prop
  | .startScanBTDevice => view.scanningBTDeviceState = .off
  | .stopScanBTDevice => view.scanningBTDeviceState = .on
  | .bluetoothPowerOn => view.bluetoothPowerState = .off
  | .bluetoothPowerOff => view.bluetoothPowerState = .on
  | .dialCall _ => view.callState = .idle
  | .hangupCall => view.callState ≠ .idle ∧ view.callState ≠ .processing
  | .answerCall => view.callState = .incoming
  | .startRecord => view.recordState = .stopped
  | .stopRecord | .cancelRecord => view.recordState = .recording
  | _ => True

end StateView

namespace ClientCommand

/-- The texts of the command can be sent as they are. -/
def IsNulFree : ClientCommand → Prop
  | .pairBTDevice text | .unpairBTDevice text | .connectBTDevice text | .disconnectBTDevice text
  | .acceptRequestConfirmation text | .rejectRequestConfirmation text | .dialCall text =>
      NulFree text
  | _ => True

/-- A signal that carries a command alone. -/
def signal (address : SignalAddress) (cmd : DBusCommand) : DBusMessage where
  path := address.objectPath
  interface := address.interfaceName
  member := address.signalName
  args := [⟨.int32, cmd.toInt32⟩]

/-- A signal that carries a command and the fields of a `DBusDataInfo`. -/
def signalNoti (address : SignalAddress) (cmd : DBusCommand) (msgInfo : DBusDataInfo) :
    DBusMessage where
  path := address.objectPath
  interface := address.interfaceName
  member := address.signalName
  args := [⟨.int32, cmd.toInt32⟩, ⟨.boolean, true⟩,
    ⟨.array .string, msgInfo.data.toList.map .cStr⟩]

/-- The message to a manager that a command becomes. -/
def dbusMessage : ClientCommand → Option DBusMessage
  | .startScanBTDevice => some (signal .hardwareManager .startScanBTDevice)
  | .stopScanBTDevice => some (signal .hardwareManager .stopScanBTDevice)
  | .bluetoothPowerOn => some (signal .hardwareManager .bluetoothPowerOn)
  | .bluetoothPowerOff => some (signal .hardwareManager .bluetoothPowerOff)
  | .pairBTDevice address => some (signalNoti .hardwareManager .pairBTDevice
      (DBusDataInfo.init.set .btDeviceAddress address))
  | .unpairBTDevice address => some (signalNoti .hardwareManager .unpairBTDevice
      (DBusDataInfo.init.set .btDeviceAddress address))
  | .connectBTDevice address => some (signalNoti .hardwareManager .connectBTDevice
      (DBusDataInfo.init.set .btDeviceAddress address))
  | .disconnectBTDevice address => some (signalNoti .hardwareManager .disconnectBTDevice
      (DBusDataInfo.init.set .btDeviceAddress address))
  | .acceptRequestConfirmation address =>
      some (signalNoti .hardwareManager .acceptRequestConfirmation
        (DBusDataInfo.init.set .btDeviceAddress address))
  | .rejectRequestConfirmation address =>
      some (signalNoti .hardwareManager .rejectRequestConfirmation
        (DBusDataInfo.init.set .btDeviceAddress address))
  | .dialCall number => some (signalNoti .hardwareManager .dialCall
      (DBusDataInfo.init.set .callNumber number))
  | .hangupCall => some (signal .hardwareManager .hangupCall)
  | .answerCall => some (signal .hardwareManager .answerCall)
  | .startRecord => some (signal .recordManager .startRecord)
  | .stopRecord => some (signal .recordManager .stopRecord)
  | .cancelRecord => some (signal .recordManager .cancelRecord)
  | .removeRecord _ | .getAllRecord => none

end ClientCommand

namespace DBusSender

variable {memory : Memory} {cmd : DBusCommand} {address : SignalAddress}

theorem sendMessage_eq (granted : ∀ call, memory call)
    (made : CMSenderFactory.makeMsg memory cmd = CMSenderFactory.makeMsgFor memory cmd address) :
    sendMessage memory cmd = [ClientCommand.signal address cmd] := by
  have built : CMSenderFactory.makeMsgFor memory cmd address =
      .ok (ClientCommand.signal address cmd) :=
    ISenderFactory.makeMsgInternal_eq_ok_iff.mpr ⟨⟨granted 0, granted 1⟩, rfl⟩
  simp only [sendMessage, made, built, sendMessageInternal, granted, if_true]

theorem sendMessageNoti_eq {dataInfo : DBusDataInfo} (granted : ∀ call, memory call)
    (made : CMSenderFactory.makeMsgNoti memory cmd true dataInfo =
      CMSenderFactory.makeMsgNotiFor memory cmd true dataInfo address) :
    sendMessageNoti memory cmd true dataInfo =
      [ClientCommand.signalNoti address cmd dataInfo] := by
  have built : CMSenderFactory.makeMsgNotiFor memory cmd true dataInfo address =
      .ok (ClientCommand.signalNoti address cmd dataInfo) :=
    ISenderFactory.makeMsgNotiInternal_eq_ok_iff.mpr ⟨fun call _ => granted call, rfl⟩
  simp only [sendMessageNoti, made, built, sendMessageInternal, granted, if_true]

end DBusSender

namespace StateView

variable {memory : Memory} {view : StateView} {command : ClientCommand}

/-- The factory knows every command that a handler sends. -/
theorem processEvent_of_accepts (granted : ∀ call, memory call) (accepted : view.Accepts command) :
    (view.processEvent memory command.event).2 = command.dbusMessage.toList := by
  cases command with
  | startScanBTDevice | stopScanBTDevice | bluetoothPowerOn | bluetoothPowerOff | answerCall
  | startRecord | stopRecord | cancelRecord =>
      simp only [Accepts] at accepted
      simp only [processEvent, ClientCommand.event, startScanBTDevice, stopScanBTDevice,
        bluetoothPowerOn, bluetoothPowerOff, answerCall, startRecord, stopRecord, cancelRecord,
        accepted]
      exact DBusSender.sendMessage_eq granted rfl
  | pairBTDevice | unpairBTDevice | connectBTDevice | disconnectBTDevice
  | acceptRequestConfirmation | rejectRequestConfirmation =>
      exact DBusSender.sendMessageNoti_eq granted rfl
  | dialCall number =>
      simp only [Accepts] at accepted
      simp only [processEvent, ClientCommand.event, dialCall, accepted]
      exact DBusSender.sendMessageNoti_eq granted rfl
  | hangupCall =>
      have sent : (view.hangupCall memory).2 = DBusSender.sendMessage memory .hangupCall := by
        unfold hangupCall
        cases callState : view.callState with
        | idle => exact absurd callState accepted.1
        | processing => exact absurd callState accepted.2
        | incoming | outcoming | calling => rfl
      exact sent.trans (DBusSender.sendMessage_eq granted rfl)
  | removeRecord | getAllRecord => rfl

/-- A command that is not accepted goes nowhere and leaves the view as it is. -/
theorem processEvent_of_not_accepts (refused : ¬view.Accepts command) :
    view.processEvent memory command.event = (view, []) := by
  cases command with
  | startScanBTDevice | stopScanBTDevice =>
      simp only [Accepts] at refused
      simp only [processEvent, ClientCommand.event, startScanBTDevice, stopScanBTDevice]
      cases scanning : view.scanningBTDeviceState <;> simp_all
  | bluetoothPowerOn | bluetoothPowerOff =>
      simp only [Accepts] at refused
      simp only [processEvent, ClientCommand.event, bluetoothPowerOn, bluetoothPowerOff]
      cases power : view.bluetoothPowerState <;> simp_all
  | dialCall | hangupCall | answerCall =>
      simp only [Accepts] at refused
      simp only [processEvent, ClientCommand.event, dialCall, hangupCall, answerCall]
      cases call : view.callState <;> simp_all
  | startRecord | stopRecord | cancelRecord =>
      simp only [Accepts] at refused
      simp only [processEvent, ClientCommand.event, startRecord, stopRecord, cancelRecord]
      cases record : view.recordState <;> simp_all
  | _ => exact absurd trivial refused

end StateView

end RaspberryPiService
