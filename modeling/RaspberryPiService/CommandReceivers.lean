import RaspberryPiService.Common.Event
import RaspberryPiService.Common.NotificationCodec

/-!
# Commands on arrival

The hardware manager and the record manager wait for signals of their own interface. A
receiver turns the command of a signal into an event of its manager, and the manager's
MainWorker turns the event into a call of the component behind it.
-/

namespace RaspberryPiService

/-- The operations of `BluezDBus`, `BluetoothAgent`, `OfonoDBus` and `RecordWorker`. -/
inductive Operation where
  | initializeAdapter
  | startDiscovery
  | stopDiscovery
  | powerOnAdapter
  | powerOffAdapter
  | pairDevice (address : String)
  | unpairDevice (address : String)
  | connectDevice (address : String)
  | disconnectDevice (address : String)
  | confirmRequest (address : String) (confirmed : Bool)
  | dialCall (number : String)
  | hangupCall
  | answerCall
  | startRecording
  | stopRecording
  | cancelRecording
deriving DecidableEq

/-- The loop over the messages from the bus: other signals are dropped, failures logged. -/
def DBusReceiverBase.receive (interfaceName signalName : String) (msg : DBusMessage) :
    Option Dispatch :=
  if msg.isSignal interfaceName signalName then (dispatchMessage msg).toOption else none

inductive HardwareEventTypeID where
  | none
  | initializeBluetooth
  | startScanBTDevice
  | stopScanBTDevice
  | bluetoothPowerOn
  | bluetoothPowerOff
  | pairBTDevice
  | unpairBTDevice
  | connectBTDevice
  | disconnectBTDevice
  | rejectRequestConfirmation
  | acceptRequestConfirmation
  | dialCall
  | hangupCall
  | answerCall
  | max
deriving DecidableEq

namespace HardwareReceiver

/-- `CONFIG_INSTANCE()->getInterfaceName()` of the hardware manager. -/
def interfaceName : String := "com.example.hardwaremanager.interface"

def signalName : String := "HardwareSignal"

/-- The event for a command alone; other commands are logged. -/
def handleMessage : Option DBusCommand → Option (Event HardwareEventTypeID)
  | some .initializeBluetooth => some { eventTypeId := .initializeBluetooth }
  | some .startScanBTDevice => some { eventTypeId := .startScanBTDevice }
  | some .stopScanBTDevice => some { eventTypeId := .stopScanBTDevice }
  | some .bluetoothPowerOn => some { eventTypeId := .bluetoothPowerOn }
  | some .bluetoothPowerOff => some { eventTypeId := .bluetoothPowerOff }
  | some .hangupCall => some { eventTypeId := .hangupCall }
  | some .answerCall => some { eventTypeId := .answerCall }
  | _ => none

/-- The payload of the commands about one device. -/
def addressPayload (msgInfo : DBusDataInfo) : Payload :=
  .bluetoothDeviceAddress (msgInfo.get .btDeviceAddress)

/-- The event for a command with data; the flag is only logged. -/
def handleMessageNoti (cmd : Option DBusCommand) (_isSuccess : Bool) (msgInfo : DBusDataInfo) :
    Option (Event HardwareEventTypeID) :=
  match cmd with
  | some .pairBTDevice =>
      some { eventTypeId := .pairBTDevice, payload := some (addressPayload msgInfo) }
  | some .unpairBTDevice =>
      some { eventTypeId := .unpairBTDevice, payload := some (addressPayload msgInfo) }
  | some .connectBTDevice =>
      some { eventTypeId := .connectBTDevice, payload := some (addressPayload msgInfo) }
  | some .disconnectBTDevice =>
      some { eventTypeId := .disconnectBTDevice, payload := some (addressPayload msgInfo) }
  | some .rejectRequestConfirmation =>
      some { eventTypeId := .rejectRequestConfirmation
             payload := some (addressPayload msgInfo) }
  | some .acceptRequestConfirmation =>
      some { eventTypeId := .acceptRequestConfirmation
             payload := some (addressPayload msgInfo) }
  | some .dialCall =>
      some { eventTypeId := .dialCall, payload := some (.call "" (msgInfo.get .callNumber) "") }
  | _ => none

def handle : Dispatch → Option (Event HardwareEventTypeID)
  | .handleMessage cmd => handleMessage cmd
  | .handleMessageNoti cmd isSuccess msgInfo => handleMessageNoti cmd isSuccess msgInfo

/-- The hardware manager's queue after a message from the bus. -/
def receive (msg : DBusMessage) (eventQueue : EventQueue HardwareEventTypeID) :
    EventQueue HardwareEventTypeID :=
  eventQueue.pushEvent ((DBusReceiverBase.receive interfaceName signalName msg).bind handle)

end HardwareReceiver

/-- Which of the pointers that the hardware manager's MainWorker checks are set. -/
structure HardwareMainWorker where
  bluezDBus : Bool
  ofonoDBus : Bool

namespace HardwareMainWorker

/-- The worker that `main` makes. -/
def make : HardwareMainWorker where
  bluezDBus := true
  ofonoDBus := true

variable (worker : HardwareMainWorker)

def callBluez (operation : Operation) : Option Operation :=
  if worker.bluezDBus then some operation else none

def callOfono (operation : Operation) : Option Operation :=
  if worker.ofonoDBus then some operation else none

/-- A call with the address of a device, if the payload has one. -/
def callForDevice (operation : String → Operation) (payload : Option Payload) :
    Option Operation :=
  match payload with
  | some (.bluetoothDeviceAddress address) => worker.callBluez (operation address)
  | _ => none

def processInitializeBluetoothEvent : Option Operation :=
  worker.callBluez .initializeAdapter

def processStartScanBTDeviceEvent : Option Operation :=
  worker.callBluez .startDiscovery

def processStopScanBTDeviceEvent : Option Operation :=
  worker.callBluez .stopDiscovery

def processBluetoothPowerOnEvent : Option Operation :=
  worker.callBluez .powerOnAdapter

def processBluetoothPowerOffEvent : Option Operation :=
  worker.callBluez .powerOffAdapter

def processHangupCallEvent : Option Operation :=
  worker.callOfono .hangupCall

def processAnswerCallEvent : Option Operation :=
  worker.callOfono .answerCall

def processPairBTDeviceEvent (payload : Option Payload) : Option Operation :=
  worker.callForDevice .pairDevice payload

def processUnpairBTDeviceEvent (payload : Option Payload) : Option Operation :=
  worker.callForDevice .unpairDevice payload

def processConnectBTDeviceEvent (payload : Option Payload) : Option Operation :=
  worker.callForDevice .connectDevice payload

def processDisconnectBTDeviceEvent (payload : Option Payload) : Option Operation :=
  worker.callForDevice .disconnectDevice payload

/-- The call goes to the agent, but the pointer that is checked is `bluezDBus_`. -/
def processRejectRequestConfirmationEvent (payload : Option Payload) : Option Operation :=
  worker.callForDevice (fun address => .confirmRequest address false) payload

/-- As for a rejection. -/
def processAcceptRequestConfirmationEvent (payload : Option Payload) : Option Operation :=
  worker.callForDevice (fun address => .confirmRequest address true) payload

def processDialCallEvent (payload : Option Payload) : Option Operation :=
  match payload with
  | some (.call _ number _) => worker.callOfono (.dialCall number)
  | _ => none

def processEvent (event : Event HardwareEventTypeID) : Option Operation :=
  match event.eventTypeId with
  | .initializeBluetooth => worker.processInitializeBluetoothEvent
  | .startScanBTDevice => worker.processStartScanBTDeviceEvent
  | .stopScanBTDevice => worker.processStopScanBTDeviceEvent
  | .bluetoothPowerOn => worker.processBluetoothPowerOnEvent
  | .bluetoothPowerOff => worker.processBluetoothPowerOffEvent
  | .pairBTDevice => worker.processPairBTDeviceEvent event.payload
  | .unpairBTDevice => worker.processUnpairBTDeviceEvent event.payload
  | .connectBTDevice => worker.processConnectBTDeviceEvent event.payload
  | .disconnectBTDevice => worker.processDisconnectBTDeviceEvent event.payload
  | .rejectRequestConfirmation => worker.processRejectRequestConfirmationEvent event.payload
  | .acceptRequestConfirmation => worker.processAcceptRequestConfirmationEvent event.payload
  | .dialCall => worker.processDialCallEvent event.payload
  | .hangupCall => worker.processHangupCallEvent
  | .answerCall => worker.processAnswerCallEvent
  | .none | .max => none

/-- The calls for the events of the queue, in their order. -/
def run (eventQueue : EventQueue HardwareEventTypeID) : List Operation :=
  eventQueue.filterMap worker.processEvent

end HardwareMainWorker

/-- The events of the record manager's queue that commands cause. -/
inductive RecordEventTypeID where
  | startRecord
  | stopRecord
  | cancelRecord
deriving DecidableEq

namespace RecordReceiver

/-- `CONFIG_INSTANCE()->getInterfaceName()` of the record manager. -/
def interfaceName : String := "com.example.recordmanager.interface"

def signalName : String := "RecordSignal"

def handleMessage : Option DBusCommand → Option (Event RecordEventTypeID)
  | some .startRecord => some { eventTypeId := .startRecord }
  | some .stopRecord => some { eventTypeId := .stopRecord }
  | some .cancelRecord => some { eventTypeId := .cancelRecord }
  | _ => none

/-- Commands with data are ignored. -/
def handleMessageNoti (_cmd : Option DBusCommand) (_isSuccess : Bool) (_msgInfo : DBusDataInfo) :
    Option (Event RecordEventTypeID) :=
  none

def handle : Dispatch → Option (Event RecordEventTypeID)
  | .handleMessage cmd => handleMessage cmd
  | .handleMessageNoti cmd isSuccess msgInfo => handleMessageNoti cmd isSuccess msgInfo

/-- The record manager's queue after a message from the bus. -/
def receive (msg : DBusMessage) (eventQueue : EventQueue RecordEventTypeID) :
    EventQueue RecordEventTypeID :=
  eventQueue.pushEvent ((DBusReceiverBase.receive interfaceName signalName msg).bind handle)

end RecordReceiver

namespace RecordMainWorker

def processStartRecordEvent : Operation := .startRecording

def processStopRecordEvent : Operation := .stopRecording

def processCancelRecordEvent : Operation := .cancelRecording

def processEvent (event : Event RecordEventTypeID) : Operation :=
  match event.eventTypeId with
  | .startRecord => processStartRecordEvent
  | .stopRecord => processStopRecordEvent
  | .cancelRecord => processCancelRecordEvent

/-- The calls for the events of the queue, in their order. -/
def run (eventQueue : EventQueue RecordEventTypeID) : List Operation :=
  eventQueue.map processEvent

end RecordMainWorker

end RaspberryPiService
