import RaspberryPiService.CommandReceivers
import RaspberryPiService.HardwareManager.InitializeAdapter

/-!
# The worker of the hardware manager

MainWorker takes the events from the queue and executes them on BlueZ, oFono and the
agent. Nothing catches an exception between an operation and the thread function, so what
an operation throws ends the process.
-/

namespace RaspberryPiService

open Throws

namespace BluezDBus

variable (bluezDBus : BluezDBus) (answers : BusAnswers)

/-- A failed command about a device; a success is left to the signals of BlueZ. -/
def deviceFailure (cmd : DBusCommand) (method error address : String) :
    MethodOutcome → List HardwareNoti
  | .notCreated =>
      [{ cmd, isSuccess := false
         info := (DBusDataInfo.init.set .btDeviceAddress address).set .message
          ("Failed to create D-Bus message for " ++ method) }]
  | .error message =>
      [{ cmd, isSuccess := false
         info := (DBusDataInfo.init.set .btDeviceAddress address).set .message
          (error ++ message) }]
  | .success => []

def deviceOutcome (address : String) : MethodOutcome :=
  answers.deviceOutcome (deviceAddressToObjectPath bluezDBus.adapterPath address)

def pairDevice (address : String) : List HardwareNoti :=
  deviceFailure .pairBTDeviceNoti "Pair" "Error pairing with device: " address
    (bluezDBus.deviceOutcome answers address)

/-- Whatever goes wrong, there are no properties. -/
def getAllDeviceProperties (objectPath : String) : DBusDataInfo :=
  match answers.getAll objectPath with
  | .reply properties => parseDeviceProperties properties
  | .notCreated | .error _ | .noReply | .noArguments => .init

/-- A device that is trusted is untrusted before it is removed. -/
def untrustSets (objectPath : String) : List PropertySet :=
  let info := getAllDeviceProperties answers objectPath
  if info.get .btDeviceAddress = "" then []
  else if info.get .btDeviceTrusted = "true" then
    [{ objectPath, property := "Trusted", value := false }]
  else []

def unpairDevice (address : String) : List PropertySet × List HardwareNoti :=
  (untrustSets answers (deviceAddressToObjectPath bluezDBus.adapterPath address),
    deviceFailure .unpairBTDeviceNoti "RemoveDevice" "Error unpairing device: " address
      (bluezDBus.deviceOutcome answers address))

def connectDevice (address : String) : List HardwareNoti :=
  deviceFailure .connectBTDeviceNoti "Connect" "Error connecting to device: " address
    (bluezDBus.deviceOutcome answers address)

def disconnectDevice (address : String) : List HardwareNoti :=
  deviceFailure .disconnectBTDeviceNoti "Disconnect" "Error disconnecting from device: " address
    (bluezDBus.deviceOutcome answers address)

/-- What is sent about a pairing is what the agreement on pairings has. -/
theorem pairDevice_eq (address : String) :
    (bluezDBus.pairDevice answers address).map (fun noti =>
        ({ isSuccess := noti.isSuccess
           address := noti.info.get .btDeviceAddress
           message := noti.info.get .message } : PairNoti)) =
      match bluezDBus.deviceOutcome answers address with
      | .notCreated => [pairNotCreated address]
      | .error message => (pairReturned address (some message)).toList
      | .success => (pairReturned address none).toList := by
  unfold pairDevice
  cases bluezDBus.deviceOutcome answers address <;>
    simp [deviceFailure, pairNotCreated, pairReturned, DBusDataInfo.get_set_of_ne]

@[simp] theorem deviceFailure_eq_nil_iff (cmd : DBusCommand) (method error address : String)
    (outcome : MethodOutcome) :
    deviceFailure cmd method error address outcome = [] ↔ outcome = .success := by
  cases outcome <;> simp [deviceFailure]

end BluezDBus

/-- The components behind the worker. -/
structure HardwareManager (Request : Type) where
  bluezDBus : BluezDBus := {}
  ofonoDBus : OfonoDBus := {}
  agent : BluetoothAgent Request := {}

/-- What an event makes the manager do, other than change its state. -/
structure HardwareEffects (Request : Type) where
  sent : List HardwareNoti := []
  sets : List PropertySet := []
  replies : List (Request × ReplyType) := []

namespace HardwareManager

variable {Request : Type}

def report (manager : HardwareManager Request) (answers : BusAnswers) (sets : List PropertySet)
    (notis : List HardwareNoti) :
    Except String (HardwareManager Request × HardwareEffects Request) := do
  let sent ← HardwareSender.notify answers.sender [] notis
  return (manager, { sent, sets })

def perform (manager : HardwareManager Request) (answers : BusAnswers) :
    Operation → Except String (HardwareManager Request × HardwareEffects Request)
  | .initializeAdapter => do
      let search ← manager.bluezDBus.initializeAdapter answers
      return ({ manager with bluezDBus := search.bluezDBus },
        { sent := search.sent, sets := search.sets })
  | .startDiscovery =>
      manager.report answers []
        ((BluezDBus.startDiscovery answers.outcome).map AdapterNoti.toHardwareNoti).toList
  | .stopDiscovery =>
      manager.report answers []
        ((BluezDBus.stopDiscovery answers.outcome).map AdapterNoti.toHardwareNoti).toList
  | .powerOnAdapter =>
      manager.report answers []
        ((BluezDBus.setPower true answers.outcome).map AdapterNoti.toHardwareNoti).toList
  | .powerOffAdapter =>
      manager.report answers []
        ((BluezDBus.setPower false answers.outcome).map AdapterNoti.toHardwareNoti).toList
  | .pairDevice address =>
      manager.report answers [] (manager.bluezDBus.pairDevice answers address)
  | .unpairDevice address =>
      let unpaired := manager.bluezDBus.unpairDevice answers address
      manager.report answers unpaired.1 unpaired.2
  | .connectDevice address =>
      manager.report answers [] (manager.bluezDBus.connectDevice answers address)
  | .disconnectDevice address =>
      manager.report answers [] (manager.bluezDBus.disconnectDevice answers address)
  | .confirmRequest address confirmed =>
      let confirmation := manager.agent.confirmRequest address confirmed
      return ({ manager with agent := confirmation.1 }, { replies := confirmation.2.toList })
  | .dialCall _ =>
      manager.report answers []
        ((manager.ofonoDBus.dialCall answers.outcome).map CallNoti.toHardwareNoti)
  | .hangupCall =>
      manager.report answers []
        ((manager.ofonoDBus.hangupCall answers.outcome).map CallNoti.toHardwareNoti)
  | .answerCall =>
      manager.report answers []
        ((manager.ofonoDBus.answerCall answers.calls answers.outcome).map
          CallNoti.toHardwareNoti)
  -- The operations of the record manager.
  | .startRecording | .stopRecording | .cancelRecording => return (manager, {})

/-- A null pointer is not an event. -/
def processEvent (manager : HardwareManager Request) (worker : HardwareMainWorker)
    (answers : BusAnswers) (event : Option (Event HardwareEventTypeID)) :
    Except String (HardwareManager Request × HardwareEffects Request) :=
  match event.bind worker.processEvent with
  | some operation => manager.perform answers operation
  | none => return (manager, {})

/-- A round of the thread function that takes something from the queue. -/
structure Round (Request : Type) where
  /-- What the other threads have made of the components since the round before. -/
  others : HardwareManager Request → HardwareManager Request
  event : Option (Event HardwareEventTypeID)
  answers : BusAnswers

def takeRound (worker : HardwareMainWorker) (manager : HardwareManager Request)
    (round : Round Request) : Except String (HardwareManager Request) := do
  let processed ← (round.others manager).processEvent worker round.answers round.event
  return processed.1

/-- `threadFunction`, for the rounds until it is told to stop. -/
def threadFunction (worker : HardwareMainWorker) (manager : HardwareManager Request)
    (rounds : List (Round Request)) : Except String (HardwareManager Request) :=
  rounds.foldlM (takeRound worker) manager

end HardwareManager

namespace HardwareMainWorker

variable {worker : HardwareMainWorker} {operation : Operation} {payload : Option Payload}

@[simp] theorem callBluez_eq_some_iff {called : Operation} :
    worker.callBluez called = some operation ↔ worker.bluezDBus = true ∧ called = operation := by
  simp [callBluez]

@[simp] theorem callOfono_eq_some_iff {called : Operation} :
    worker.callOfono called = some operation ↔ worker.ofonoDBus = true ∧ called = operation := by
  simp [callOfono]

@[simp] theorem callForDevice_eq_some_iff {called : String → Operation} :
    worker.callForDevice called payload = some operation ↔
      worker.bluezDBus = true ∧
        ∃ address, payload = some (.bluetoothDeviceAddress address) ∧
          called address = operation := by
  unfold callForDevice
  split
  · next address => simp
  · next other => simp_all

@[simp] theorem processDialCallEvent_eq_some_iff :
    worker.processDialCallEvent payload = some operation ↔
      worker.ofonoDBus = true ∧
        ∃ name number state, payload = some (.call name number state) ∧
          .dialCall number = operation := by
  unfold processDialCallEvent
  split
  · next name number state => simp
  · next other => simp_all

/-- The handlers of the events side by side. -/
theorem processEvent_eq (worker : HardwareMainWorker) (event : Event HardwareEventTypeID) :
    worker.processEvent event =
      match event.eventTypeId with
      | .initializeBluetooth => worker.callBluez .initializeAdapter
      | .startScanBTDevice => worker.callBluez .startDiscovery
      | .stopScanBTDevice => worker.callBluez .stopDiscovery
      | .bluetoothPowerOn => worker.callBluez .powerOnAdapter
      | .bluetoothPowerOff => worker.callBluez .powerOffAdapter
      | .pairBTDevice => worker.callForDevice .pairDevice event.payload
      | .unpairBTDevice => worker.callForDevice .unpairDevice event.payload
      | .connectBTDevice => worker.callForDevice .connectDevice event.payload
      | .disconnectBTDevice => worker.callForDevice .disconnectDevice event.payload
      | .rejectRequestConfirmation =>
          worker.callForDevice (fun address => .confirmRequest address false) event.payload
      | .acceptRequestConfirmation =>
          worker.callForDevice (fun address => .confirmRequest address true) event.payload
      | .dialCall => worker.processDialCallEvent event.payload
      | .hangupCall => worker.callOfono .hangupCall
      | .answerCall => worker.callOfono .answerCall
      | .none | .max => none := by
  rcases event with ⟨eventTypeId, payload⟩
  cases eventTypeId <;> rfl

theorem processEvent_eq_initializeAdapter_iff (event : Event HardwareEventTypeID) :
    worker.processEvent event = some .initializeAdapter ↔
      event.eventTypeId = .initializeBluetooth ∧ worker.bluezDBus = true := by
  rw [processEvent_eq]
  cases event.eventTypeId <;> simp

end HardwareMainWorker

namespace HardwareManager

variable {Request : Type} (manager : HardwareManager Request) (worker : HardwareMainWorker)
  (answers : BusAnswers)

def Notifies : Operation → Prop
  | .initializeAdapter => answers.Announces
  | .startDiscovery | .stopDiscovery => answers.outcome ≠ .success
  | .powerOnAdapter | .powerOffAdapter => ∃ message, answers.outcome = .error message
  | .pairDevice address | .unpairDevice address | .connectDevice address
  | .disconnectDevice address => manager.bluezDBus.deviceOutcome answers address ≠ .success
  | .dialCall _ | .answerCall => True
  | .hangupCall => manager.ofonoDBus.modemPath ≠ ""
  | .confirmRequest _ _ | .startRecording | .stopRecording | .cancelRecording => False

/-- The event makes the worker send a notification. -/
def Speaks (event : Event HardwareEventTypeID) : Prop :=
  match event.eventTypeId with
  | .initializeBluetooth => worker.bluezDBus = true ∧ answers.Announces
  | .startScanBTDevice | .stopScanBTDevice =>
      worker.bluezDBus = true ∧ answers.outcome ≠ .success
  | .bluetoothPowerOn | .bluetoothPowerOff =>
      worker.bluezDBus = true ∧ ∃ message, answers.outcome = .error message
  | .pairBTDevice | .unpairBTDevice | .connectBTDevice | .disconnectBTDevice =>
      worker.bluezDBus = true ∧
        ∃ address, event.payload = some (.bluetoothDeviceAddress address) ∧
          manager.bluezDBus.deviceOutcome answers address ≠ .success
  | .dialCall =>
      worker.ofonoDBus = true ∧
        ∃ name number state, event.payload = some (.call name number state)
  | .answerCall => worker.ofonoDBus = true
  | .hangupCall => worker.ofonoDBus = true ∧ manager.ofonoDBus.modemPath ≠ ""
  | .rejectRequestConfirmation | .acceptRequestConfirmation | .none | .max => False

/--
Bluetooth is not to be initialized, or that succeeds; and the sender is connected if
there is something to send.
-/
def Survives : Option (Event HardwareEventTypeID) → Prop
  | none => True
  | some event =>
      (event.eventTypeId = .initializeBluetooth → worker.bluezDBus = true →
          manager.bluezDBus.Initializes answers) ∧
        (manager.Speaks worker answers event → answers.sender = .connected)

section Operations

variable {manager answers}

theorem returns_report_iff (sets : List PropertySet) (notis : List HardwareNoti) :
    Returns (manager.report answers sets notis) ↔
      (notis ≠ [] → answers.sender = .connected) := by
  rw [report, returns_bind_iff_first fun _ => returns_pure _, HardwareSender.returns_notify_iff]

theorem dialCall_ne_nil (ofonoDBus : OfonoDBus) (outcome : MethodOutcome) :
    ofonoDBus.dialCall outcome ≠ [] := by
  unfold OfonoDBus.dialCall
  split
  · simp
  · cases outcome <;> simp

theorem answerCall_ne_nil (ofonoDBus : OfonoDBus) (calls : Nat → OfonoCalls)
    (outcome : MethodOutcome) : ofonoDBus.answerCall calls outcome ≠ [] := by
  unfold OfonoDBus.answerCall
  split
  · simp
  · split
    · simp
    · cases outcome <;> simp

theorem hangupCall_ne_nil_iff (ofonoDBus : OfonoDBus) (outcome : MethodOutcome) :
    ofonoDBus.hangupCall outcome ≠ [] ↔ ofonoDBus.modemPath ≠ "" := by
  unfold OfonoDBus.hangupCall
  split
  · next noModem => simp [noModem]
  · next modem => cases outcome <;> simp [modem]

/-- Only the initialization throws on its own account. -/
theorem returns_perform_iff (operation : Operation) :
    Returns (manager.perform answers operation) ↔
      (operation = .initializeAdapter → manager.bluezDBus.Initializes answers) ∧
        (manager.Notifies answers operation → answers.sender = .connected) := by
  cases operation with
  | initializeAdapter =>
      rw [perform, returns_bind_iff_first fun _ => returns_pure _,
        BluezDBus.returns_initializeAdapter_iff]
      simp [Notifies]
  | startDiscovery | stopDiscovery =>
      rw [perform, returns_report_iff]
      cases outcome : answers.outcome <;>
        simp [Notifies, outcome, BluezDBus.startDiscovery, BluezDBus.stopDiscovery]
  | powerOnAdapter | powerOffAdapter =>
      rw [perform, returns_report_iff]
      cases outcome : answers.outcome <;> simp [Notifies, outcome, BluezDBus.setPower]
  | pairDevice address | unpairDevice address | connectDevice address | disconnectDevice address =>
      rw [perform, returns_report_iff]
      simp [Notifies, BluezDBus.pairDevice, BluezDBus.unpairDevice, BluezDBus.connectDevice,
        BluezDBus.disconnectDevice]
  | dialCall number =>
      rw [perform, returns_report_iff]
      simp [Notifies, dialCall_ne_nil]
  | hangupCall =>
      rw [perform, returns_report_iff]
      simp [Notifies, hangupCall_ne_nil_iff]
  | answerCall =>
      rw [perform, returns_report_iff]
      simp [Notifies, answerCall_ne_nil]
  | confirmRequest | startRecording | stopRecording | cancelRecording =>
      simp [perform, Notifies]

end Operations

section Events

variable {manager worker answers}

theorem speaks_iff (event : Event HardwareEventTypeID) :
    manager.Speaks worker answers event ↔
      ∃ operation, worker.processEvent event = some operation ∧
        manager.Notifies answers operation := by
  rw [HardwareMainWorker.processEvent_eq, Speaks]
  cases event.eventTypeId <;> simp [Notifies, and_assoc]

theorem returns_processEvent_iff (manager : HardwareManager Request)
    (worker : HardwareMainWorker) (answers : BusAnswers)
    (event : Option (Event HardwareEventTypeID)) :
    Returns (manager.processEvent worker answers event) ↔
      manager.Survives worker answers event := by
  cases event with
  | none => simp [processEvent, Survives]
  | some event =>
      rw [Survives, speaks_iff, ← and_imp,
        ← HardwareMainWorker.processEvent_eq_initializeAdapter_iff, processEvent,
        Option.bind_some]
      cases worker.processEvent event with
      | none => simp
      | some operation => simp [returns_perform_iff]

/--
An event is survived under a condition on the event, the components and the answers of the
bus; and the thread goes on as long as each event that it gets to is survived.
-/
theorem returns_iff_survives (worker : HardwareMainWorker) :
    (∀ (manager : HardwareManager Request) (answers : BusAnswers)
        (event : Option (Event HardwareEventTypeID)),
      Returns (manager.processEvent worker answers event) ↔
        manager.Survives worker answers event) ∧
    ∀ (manager : HardwareManager Request) (rounds : List (Round Request)),
      Returns (threadFunction worker manager rounds) ↔
        ∀ before round after, rounds = before ++ round :: after →
          ∀ reached, threadFunction worker manager before = .ok reached →
            (round.others reached).Survives worker round.answers round.event := by
  constructor
  · intro manager answers event
    exact returns_processEvent_iff manager worker answers event
  · intro manager rounds
    have taken : ∀ (reached : HardwareManager Request) (round : Round Request),
        Returns (takeRound worker reached round) ↔
          (round.others reached).Survives worker round.answers round.event := by
      intro reached round
      rw [takeRound, returns_bind_iff_first fun _ => returns_pure _, returns_processEvent_iff]
    simp only [threadFunction, returns_foldlM_iff, taken]

def initialized : HardwareManager Request where
  bluezDBus := { adapterPath := "/org/bluez/hci0", isInitialized := true }

/-- The answers of a bus that BlueZ has left in the meantime. -/
def bluezLeft : BusAnswers where
  sender := .connected
  getManagedObjects := .error "The name org.bluez was not provided by any .service files"
  addMatch _ := none
  outcome := .error "The name org.bluez was not provided by any .service files"
  deviceOutcome _ := .error "The name org.bluez was not provided by any .service files"
  getAll _ := .error "The name org.bluez was not provided by any .service files"
  calls _ := ∅

theorem not_returns_bluezLeft :
    ¬ Returns ((initialized : HardwareManager Unit).processEvent .make bluezLeft
        (some { eventTypeId := .initializeBluetooth })) ∧
      threadFunction .make (initialized : HardwareManager Unit)
          [{ others := id, event := some { eventTypeId := .initializeBluetooth }
             answers := bluezLeft }] =
        .error ("Error calling GetManagedObjects: " ++
          "The name org.bluez was not provided by any .service files") := by
  constructor
  · exact not_returns_error _
  · rfl

end Events

end HardwareManager

end RaspberryPiService
