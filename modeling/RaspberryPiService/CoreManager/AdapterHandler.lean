import RaspberryPiService.HardwareManager.BluezAdapter

/-!
# Power and scanning in the core manager

`BLUETOOTH_POWER_STATE` and `SCANNING_BTDEVICE_STATE` mirror the adapter. A client's
command is forwarded when the mirror says that it would change something, and the mirror
is `PROCESSING` from then on; a notification overwrites it, a failed one with the opposite
of what the command asked for.
-/

namespace RaspberryPiService

/--
`BluetoothPowerState` and `ScanningBTDeviceState`, of which the latter calls its first
two values `IDLE` and `SCANNING`.
-/
inductive SwitchState where
  | off
  | on
  | processing
deriving DecidableEq

def SwitchState.of (value : Bool) : SwitchState :=
  if value then .on else .off

/-- The messages that the core sends about the adapter. -/
inductive AdapterMessage where
  | command (command : AdapterCommand)
  | initializeBluetooth
deriving DecidableEq

/-- The events of the core's queue that concern the adapter, with their payload. -/
inductive AdapterEvent where
  | command (command : AdapterCommand)
  | noti (noti : AdapterNoti)
deriving DecidableEq

/-- The arguments of `updateStateAndBroadcast`. -/
structure AdapterBroadcast where
  status : String
  message : String
  screen : String := "Settings"
  command : String
deriving DecidableEq

structure AdapterHandler where
  stateView : AdapterProperty → SwitchState := fun _ => .off
  eventQueue : List AdapterEvent := []
  broadcasts : List AdapterBroadcast := []
  sent : List AdapterMessage := []

namespace AdapterHandler

/-- `BLUETOOTH_POWER_STATE`. -/
def bluetoothPowerState (handler : AdapterHandler) : SwitchState :=
  handler.stateView .powered

/-- `SCANNING_BTDEVICE_STATE`. -/
def scanningBTDeviceState (handler : AdapterHandler) : SwitchState :=
  handler.stateView .discovering

/-- Forwards a command if the mirror says the opposite of what it asks for. -/
def request (handler : AdapterHandler) (command : AdapterCommand) : AdapterHandler :=
  if handler.stateView command.property = .of (!command.target) then
    { handler with
      stateView := Function.update handler.stateView command.property .processing
      sent := handler.sent ++ [.command command] }
  else handler

def startScanBTDevice (handler : AdapterHandler) : AdapterHandler :=
  handler.request .startScanBTDevice

def stopScanBTDevice (handler : AdapterHandler) : AdapterHandler :=
  handler.request .stopScanBTDevice

def bluetoothPowerOn (handler : AdapterHandler) : AdapterHandler :=
  handler.request .bluetoothPowerOn

def bluetoothPowerOff (handler : AdapterHandler) : AdapterHandler :=
  handler.request .bluetoothPowerOff

/-- Overwrites the mirror and shows the notification to the clients. -/
def notify (handler : AdapterHandler) (noti : AdapterNoti) (command : String) : AdapterHandler :=
  { handler with
    stateView := Function.update handler.stateView noti.command.property (.of noti.told)
    broadcasts := handler.broadcasts ++
      [{ status := if noti.isSuccess then "success" else "fail"
         message := noti.message
         command }] }

def startScanBTDeviceNOTI (handler : AdapterHandler) (isSuccess : Bool) (message : String) :
    AdapterHandler :=
  handler.notify { command := .startScanBTDevice, isSuccess, message } "start_scan_btdevice_noti"

def stopScanBTDeviceNOTI (handler : AdapterHandler) (isSuccess : Bool) (message : String) :
    AdapterHandler :=
  handler.notify { command := .stopScanBTDevice, isSuccess, message } "stop_scan_btdevice_noti"

def bluetoothPowerOnNOTI (handler : AdapterHandler) (isSuccess : Bool) (message : String) :
    AdapterHandler :=
  handler.notify { command := .bluetoothPowerOn, isSuccess, message } "bluetooth_power_on_noti"

def bluetoothPowerOffNOTI (handler : AdapterHandler) (isSuccess : Bool) (message : String) :
    AdapterHandler :=
  handler.notify { command := .bluetoothPowerOff, isSuccess, message } "bluetooth_power_off_noti"

/-- `MainWorker::processEvent` on the head of the queue. -/
def processEvent (handler : AdapterHandler) : Option AdapterHandler :=
  match handler.eventQueue with
  | [] => none
  | event :: eventQueue =>
      let handler := { handler with eventQueue }
      match event with
      | .command .startScanBTDevice => some handler.startScanBTDevice
      | .command .stopScanBTDevice => some handler.stopScanBTDevice
      | .command .bluetoothPowerOn => some handler.bluetoothPowerOn
      | .command .bluetoothPowerOff => some handler.bluetoothPowerOff
      | .noti ⟨.startScanBTDevice, isSuccess, message⟩ =>
          some (handler.startScanBTDeviceNOTI isSuccess message)
      | .noti ⟨.stopScanBTDevice, isSuccess, message⟩ =>
          some (handler.stopScanBTDeviceNOTI isSuccess message)
      | .noti ⟨.bluetoothPowerOn, isSuccess, message⟩ =>
          some (handler.bluetoothPowerOnNOTI isSuccess message)
      | .noti ⟨.bluetoothPowerOff, isSuccess, message⟩ =>
          some (handler.bluetoothPowerOffNOTI isSuccess message)

/-- `DBusReceiver::handleMessageNoti`. -/
def handleMessageNoti (handler : AdapterHandler) (noti : AdapterNoti) : AdapterHandler :=
  { handler with eventQueue := handler.eventQueue ++ [.noti noti] }

/-- `WebSocketServer::join` has the adapter reported again. -/
def join (handler : AdapterHandler) : AdapterHandler :=
  { handler with sent := handler.sent ++ [.initializeBluetooth] }

variable {handler next : AdapterHandler}

/-- What MainWorker does with an event about the adapter. -/
theorem processEvent_cases (processed : handler.processEvent = some next) :
    ∃ eventQueue,
      (∃ command, handler.eventQueue = .command command :: eventQueue ∧
        next = { handler with eventQueue }.request command) ∨
      ∃ noti name, handler.eventQueue = .noti noti :: eventQueue ∧
        next = { handler with eventQueue }.notify noti name := by
  unfold processEvent at processed
  cases found : handler.eventQueue with
  | nil => simp [found] at processed
  | cons event eventQueue =>
      refine ⟨eventQueue, ?_⟩
      simp only [found] at processed
      cases event with
      | command command =>
          left
          refine ⟨command, rfl, ?_⟩
          cases command <;> exact (Option.some.inj processed).symm
      | noti noti =>
          right
          rcases noti with ⟨command, isSuccess, message⟩
          cases command <;>
            exact ⟨_, _, rfl, (Option.some.inj processed).symm⟩

end AdapterHandler

end RaspberryPiService
