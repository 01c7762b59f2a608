import RaspberryPiService.HardwareManager.DeviceSignals

/-!
# The devices that clients list

BlueZ has devices that come, change and go. The hardware manager tells the core about them,
and the core tells its clients, so every client can keep a list of the devices: a
notification has it add a device, replace what it knows about one, or drop one.

A client that joins has missed what was told before. The core has Bluetooth initialized for
it, and the devices that BlueZ has are told once more, to all clients. The constructor of
`BluezDBus` does the same, and there is a gap after it: the rules for the signals of BlueZ
are added only then, and the receiver for the commands of the core is made even later.

The worker and MainWorker exclude each other by the mutex of `BluezDBus`, and messages from
one sender arrive in their order. BlueZ answers `GetManagedObjects` and `GetAll` by what it
has at that time. A search that throws ends the process, and the run with it.
-/

namespace RaspberryPiService

open KeyUpdate

/-- The properties of a device at an address, which is one of them. -/
def BluezDevice (address : String) : Type :=
  { properties : BluezProperties // IsDeviceAddress address ∧
    (BluezDBus.parseDeviceProperties properties).get .btDeviceAddress = address }

abbrev BluezDevices : Type := AList BluezDevice

/-- The devices in the reply to `GetManagedObjects`. -/
def BusAnswers.described? (answers : BusAnswers) : Option (List BluezProperties) :=
  match answers.getManagedObjects with
  | .reply (some objects) => some (deviceProperties (objects.flatMap BluezObject.readable))
  | _ => none

namespace BluezDevices

variable (adapterPath : String) (devices : BluezDevices)

/-- What a client should know of each device. -/
def listed (address : String) : Option DBusDataInfo :=
  (devices.lookup address).map fun device => deviceInfo device.1

/-- The reply to `GetAll` for an object path. -/
def getAll (objectPath : String) : BluezReply BluezProperties :=
  match devices.entries.find? fun device =>
      BluezDBus.deviceAddressToObjectPath adapterPath device.1 = objectPath with
  | some device => .reply device.2.1
  | none => .error "No such object"

/-- If `GetManagedObjects` is answered with objects, the devices among them are these. -/
def DescribedBy (answers : BusAnswers) : Prop :=
  ∀ described ∈ answers.described?,
    described.Perm (devices.entries.map fun device => device.2.1)

instance (answers : BusAnswers) : Decidable (devices.DescribedBy answers) :=
  inferInstanceAs (Decidable (∀ described ∈ answers.described?, _))

end BluezDevices

namespace BluezSignal

/-- The signal is about the device interface of some object. -/
def isAboutDevice : BluezSignal → Bool
  | interfacesAdded _ interfaces => deviceProperties interfaces ≠ []
  | interfacesRemoved _ interfaces => BluezDBus.bluezDeviceInterface ∈ interfaces
  | propertiesChanged _ interfaceName _ => interfaceName = BluezDBus.bluezDeviceInterface

end BluezSignal

namespace BluezDBus

/-- The first part of `initializeAdapter`, which reports what there is. -/
def findAdapter (bluezDBus : BluezDBus) (answers : BusAnswers) : Except String AdapterSearch := do
  let objects ← getManagedObjects answers
  let search ← bluezDBus.parseManagedObjectsReply answers.sender objects
  if search.adapterFound then return search
  else throw "BlueZ adapter (org.bluez.Adapter1) not found."

theorem initializeAdapter_eq (bluezDBus : BluezDBus) (answers : BusAnswers) :
    bluezDBus.initializeAdapter answers = (do
      let search ← bluezDBus.findAdapter answers
      let bluezDBus ← search.bluezDBus.subscribe answers.addMatch
      return { search with bluezDBus }) := by
  unfold initializeAdapter findAdapter
  cases getManagedObjects answers with
  | error => rfl
  | ok objects =>
      simp only [Throws.ok_bind]
      cases bluezDBus.parseManagedObjectsReply answers.sender objects with
      | error => rfl
      | ok search =>
          simp only [Throws.ok_bind]
          cases found : search.adapterFound with
          | false => rfl
          | true =>
              simp only [if_true, pure_bind, found]

end BluezDBus

/-- How far the hardware manager has come with its start. -/
inductive HardwareStart where
  | notStarted
  -- the constructor of `BluezDBus` has told the devices, but has not added its rules
  | reported
  -- there is no receiver for the commands of the core yet
  | subscribed
  | receiving
deriving DecidableEq

/-- The devices of BlueZ, what is on its way to the core, and what clients have been told. -/
structure DeviceProtocol where
  devices : BluezDevices
  bluezDBus : BluezDBus := {}
  start : HardwareStart := .notStarted
  signals : List BluezSignal := []
  -- `INITIALIZE_BLUETOOTH` for clients that have joined
  requests : Nat := 0
  notis : List HardwareNoti := []
  clients : List (Nat × List HardwareNoti) := []

namespace DeviceProtocol

inductive Action where
  | appear (address : String) (device : BluezDevice address) (interfaces : List BluezInterface)
  | change (address : String) (device : BluezDevice address) (changed : BluezProperties)
  | disappear (address : String) (interfaces : List String)
  -- a signal about something else
  | signal (signal : BluezSignal)
  | start (answers : BusAnswers)
  | subscribe (answers : BusAnswers)
  | receive
  | handle (answers : BusAnswers)
  | initializeBluetooth (answers : BusAnswers)
  -- another handler or thread sends a notification
  | notify (noti : HardwareNoti)
  | deliver
  | join (client : Nat)
  | leave (client : Nat)

/-- The bus delivers a signal to those who have a rule for it. -/
def announce (state : DeviceProtocol) (signal : BluezSignal) : DeviceProtocol :=
  match state.start with
  | .notStarted | .reported => state
  | .subscribed | .receiving => { state with signals := state.signals ++ [signal] }

/-- The path of a device under its adapter. -/
abbrev objectPath (adapterPath address : String) : String :=
  BluezDBus.deviceAddressToObjectPath adapterPath address

def step (adapterPath : String) (state : DeviceProtocol) : Action → Option DeviceProtocol
  | .appear address device interfaces =>
      if address ∉ state.devices ∧ deviceProperties interfaces = [device.1] then
        some ({ state with devices := state.devices.insert address device }.announce
          (.interfacesAdded (objectPath adapterPath address) interfaces))
      else none
  | .change address device changed =>
      if address ∈ state.devices then
        some ({ state with devices := state.devices.insert address device }.announce
          (.propertiesChanged (objectPath adapterPath address) BluezDBus.bluezDeviceInterface
            changed))
      else none
  | .disappear address interfaces =>
      if address ∈ state.devices ∧
          interfaces.filter (· = BluezDBus.bluezDeviceInterface) =
            [BluezDBus.bluezDeviceInterface] then
        some ({ state with devices := state.devices.erase address }.announce
          (.interfacesRemoved (objectPath adapterPath address) interfaces))
      else none
  | .signal signal => if signal.isAboutDevice then none else some (state.announce signal)
  | .start answers =>
      if state.start = .notStarted ∧ state.devices.DescribedBy answers then
        match state.bluezDBus.findAdapter answers with
        | .ok search =>
            some { state with
              bluezDBus := search.bluezDBus
              start := .reported
              notis := state.notis ++ search.sent }
        | .error _ => none
      else none
  | .subscribe answers =>
      if state.start = .reported then
        match state.bluezDBus.subscribe answers.addMatch with
        | .ok bluezDBus => some { state with bluezDBus, start := .subscribed }
        | .error _ => none
      else none
  | .receive =>
      if state.start = .subscribed then some { state with start := .receiving } else none
  | .handle answers =>
      match state.start, state.signals with
      | .receiving, signal :: signals =>
          some { state with
            signals
            notis := state.notis ++ (BluetoothWorker.dispatchBluez state.bluezDBus
              { answers with getAll := state.devices.getAll adapterPath } signal).2 }
      | _, _ => none
  | .initializeBluetooth answers =>
      if state.start = .receiving ∧ 0 < state.requests ∧ state.devices.DescribedBy answers then
        match state.bluezDBus.initializeAdapter answers with
        | .ok search =>
            some { state with
              bluezDBus := search.bluezDBus
              requests := state.requests - 1
              notis := state.notis ++ search.sent }
        | .error _ => none
      else none
  | .notify noti =>
      if state.start ≠ .notStarted ∧ noti.deviceUpdate? = none then
        some { state with notis := state.notis ++ [noti] }
      else none
  | .deliver =>
      match state.notis with
      | [] => none
      | noti :: notis =>
          some { state with
            notis
            clients := state.clients.map fun client => (client.1, client.2 ++ [noti]) }
  | .join client =>
      if client ∈ state.clients.map Prod.fst then none
      else
        some { state with
          clients := state.clients ++ [(client, [])]
          requests := if state.start = .receiving then state.requests + 1 else state.requests }
  | .leave client =>
      some { state with clients := state.clients.filter fun other => other.1 ≠ client }

def protocol (adapterPath : String) (devices : BluezDevices) : System DeviceProtocol Action where
  init := { devices }
  step := step adapterPath

end DeviceProtocol

section Devices

variable {adapterPath address : String} {devices : BluezDevices}

namespace BluezDevice

theorem isAddress (device : BluezDevice address) : IsDeviceAddress address := device.2.1

theorem announced?_eq (device : BluezDevice address) :
    BluezProperties.announced? device.1 = some ⟨address, some (deviceInfo device.1)⟩ := by
  have isAddress := device.2.2
  simp only [BluezProperties.announced?, isAddress, if_neg device.2.1.1]

end BluezDevice

namespace BluezDevices

theorem mem_entries_iff {device : BluezDevice address} :
    (⟨address, device⟩ : Sigma BluezDevice) ∈ devices.entries ↔
      devices.lookup address = some device :=
  (AList.mem_lookup_iff).symm

/-- Different devices have different paths. -/
theorem objectPath_inj {other : String} (isAddress : IsDeviceAddress address)
    (otherIsAddress : IsDeviceAddress other)
    (same : BluezDBus.deviceAddressToObjectPath adapterPath address =
      BluezDBus.deviceAddressToObjectPath adapterPath other) : address = other := by
  have decoded := congrArg BluetoothAgent.deviceAddress same
  rwa [BluezDBus.deviceAddress_deviceAddressToObjectPath isAddress,
    BluezDBus.deviceAddress_deviceAddressToObjectPath otherIsAddress] at decoded

/-- The update that the reply to `GetAll` leads to, if there is a device at the path. -/
def replied (adapterPath : String) (devices : BluezDevices) (objectPath : String) :
    List DeviceUpdate :=
  match devices.getAll adapterPath objectPath with
  | .reply properties => (BluezProperties.announced? properties).toList
  | _ => []

/-- About a key it says what BlueZ has there. -/
theorem filter_replied (objectPath key : String) :
    (devices.replied adapterPath objectPath).filter (·.key = key) =
      if BluezDBus.deviceAddressToObjectPath adapterPath key = objectPath then
        ((devices.lookup key).map fun device => ⟨key, some (deviceInfo device.1)⟩).toList
      else [] := by
  cases found : devices.entries.find? fun device =>
      BluezDBus.deviceAddressToObjectPath adapterPath device.1 = objectPath with
  | none =>
      simp only [replied, getAll, found, List.filter_nil]
      split
      · next isPath =>
          cases present : devices.lookup key with
          | none => rfl
          | some device =>
              have absent := List.find?_eq_none.mp found _ (mem_entries_iff.mpr present)
              simp [isPath] at absent
      · rfl
  | some entry =>
      rcases entry with ⟨address, device⟩
      have isPath : BluezDBus.deviceAddressToObjectPath adapterPath address = objectPath := by
        simpa using List.find?_some found
      have present := mem_entries_iff.mp (List.mem_of_find?_eq_some found)
      simp only [replied, getAll, found, device.announced?_eq, Option.toList_some]
      by_cases same : address = key
      · subst same
        simp [isPath, present]
      · rw [List.filter_cons_of_neg (by simpa using same), List.filter_nil]
        split
        · next alsoPath =>
            cases other : devices.lookup key with
            | none => rfl
            | some otherDevice =>
                exact absurd (objectPath_inj device.isAddress otherDevice.isAddress
                  (isPath.trans alsoPath.symm)) same
        · rfl

end BluezDevices

namespace BluezSignal

/-- What the worker tells when it handles the signal while BlueZ has the devices. -/
def updates (adapterPath : String) (devices : BluezDevices) : BluezSignal → List DeviceUpdate
  | interfacesAdded _ interfaces =>
      (deviceProperties interfaces).filterMap BluezProperties.announced?
  | interfacesRemoved objectPath interfaces =>
      (interfaces.filter (· = BluezDBus.bluezDeviceInterface)).flatMap fun _ =>
        ((BluetoothWorker.removedAddress objectPath).map fun address => ⟨address, none⟩).toList
  | propertiesChanged objectPath interfaceName _ =>
      if interfaceName = BluezDBus.bluezDeviceInterface then
        devices.replied adapterPath objectPath
      else []

theorem updates_dispatchBluez (bluezDBus : BluezDBus) (answers : BusAnswers)
    (signal : BluezSignal) :
    (BluetoothWorker.dispatchBluez bluezDBus
        { answers with getAll := devices.getAll adapterPath } signal).2.filterMap
          HardwareNoti.deviceUpdate? = signal.updates adapterPath devices := by
  cases signal with
  | interfacesAdded objectPath interfaces =>
      exact BluetoothWorker.updates_handleInterfacesAdded interfaces
  | interfacesRemoved objectPath interfaces =>
      exact BluetoothWorker.updates_handleInterfacesRemoved objectPath interfaces
  | propertiesChanged objectPath interfaceName changed =>
      exact BluetoothWorker.updates_handlePropertiesChanged _ _ _ _ _

/-- Whatever changes elsewhere, a signal says the same of a device. -/
theorem filter_updates {other : BluezDevices} {key : String}
    (same : other.lookup key = devices.lookup key) (signal : BluezSignal) :
    (signal.updates adapterPath other).filter (·.key = key) =
      (signal.updates adapterPath devices).filter (·.key = key) := by
  cases signal with
  | interfacesAdded objectPath interfaces => rfl
  | interfacesRemoved objectPath interfaces => rfl
  | propertiesChanged objectPath interfaceName changed =>
      simp only [updates]
      split
      · rw [BluezDevices.filter_replied, BluezDevices.filter_replied, same]
      · rfl

theorem last_updates {other : BluezDevices} {key : String}
    (same : other.lookup key = devices.lookup key) (signals : List BluezSignal) :
    last (signals.flatMap (updates adapterPath other)) key =
      last (signals.flatMap (updates adapterPath devices)) key := by
  simp only [last, List.filter_flatMap, filter_updates same]

theorem updates_of_not_isAboutDevice {signal : BluezSignal}
    (elsewhere : ¬ signal.isAboutDevice = true) : signal.updates adapterPath devices = [] := by
  cases signal with
  | interfacesAdded objectPath interfaces =>
      have nothing : deviceProperties interfaces = [] := by
        simpa [isAboutDevice] using elsewhere
      simp [updates, nothing]
  | interfacesRemoved objectPath interfaces =>
      have absent : BluezDBus.bluezDeviceInterface ∉ interfaces := by
        simpa [isAboutDevice] using elsewhere
      have nothing : interfaces.filter (· = BluezDBus.bluezDeviceInterface) = [] := by
        rw [List.filter_eq_nil_iff]
        intro interface member
        have differs : interface ≠ BluezDBus.bluezDeviceInterface :=
          fun same => absent (same ▸ member)
        simpa using differs
      rw [updates, nothing]
      rfl
  | propertiesChanged objectPath interfaceName changed =>
      have other : interfaceName ≠ BluezDBus.bluezDeviceInterface := by
        simpa [isAboutDevice] using elsewhere
      exact if_neg other

end BluezSignal

end Devices

namespace DeviceProtocol

/-- What a client makes of the notifications that it is told. -/
def deviceList (told : List HardwareNoti) : String → Option DBusDataInfo :=
  applyAll (told.filterMap HardwareNoti.deviceUpdate?) fun _ => none

/-- What the notifications on the way to the core will tell. -/
def sent (state : DeviceProtocol) : List DeviceUpdate :=
  state.notis.filterMap HardwareNoti.deviceUpdate?

/-- What will be told when the worker has handled its signals. -/
def queued (adapterPath : String) (state : DeviceProtocol) : List DeviceUpdate :=
  state.signals.flatMap (BluezSignal.updates adapterPath state.devices)

/--
No device comes, changes or goes between the report of the constructor and its rules, and
no client joins before the receiver exists, once the devices have been reported.
-/
def Calm (state : DeviceProtocol) : Action → Prop
  | .appear .. | .change .. | .disappear .. => state.start ≠ .reported
  | .join _ => state.start ≠ .reported ∧ state.start ≠ .subscribed
  | _ => True

instance (state : DeviceProtocol) : ∀ action, Decidable (Calm state action)
  | .appear .. | .change .. | .disappear .. => inferInstanceAs (Decidable (_ ≠ _))
  | .join _ => inferInstanceAs (Decidable (_ ∧ _))
  | .signal _ | .start _ | .subscribe _ | .receive | .handle _ | .initializeBluetooth _
  | .notify _ | .deliver | .leave _ => inferInstanceAs (Decidable True)

/-- Nothing is on its way and nothing is asked for. -/
def Settled (state : DeviceProtocol) : Prop :=
  state.start = .receiving ∧ state.signals = [] ∧ state.notis = [] ∧ state.requests = 0

/-- What is on its way makes the list of every client right, unless a report is asked for. -/
structure ListsDevices (adapterPath : String) (state : DeviceProtocol) : Prop where
  idle : state.start = .notStarted →
    state.signals = [] ∧ state.notis = [] ∧ ∀ client ∈ state.clients, client.2 = []
  truthful : Truthful state.devices.listed (state.queued adapterPath)
  -- the same list as that of a client that joins now
  new : Sound state.devices.listed
    (applyAll (state.sent ++ state.queued adapterPath) fun _ => none)
  sound : ∀ client ∈ state.clients, Sound state.devices.listed
    (applyAll (state.sent ++ state.queued adapterPath) (deviceList client.2))
  right : state.start ≠ .notStarted → state.requests = 0 → ∀ client ∈ state.clients,
    applyAll (state.sent ++ state.queued adapterPath) (deviceList client.2) =
      state.devices.listed

section Steps

variable {adapterPath address : String} {state : DeviceProtocol}

/-- Before the start nothing is known to anybody. -/
theorem listsDevices_of_idle (notStarted : state.start = .notStarted)
    (idle : state.signals = [] ∧ state.notis = [] ∧ ∀ client ∈ state.clients, client.2 = []) :
    ListsDevices adapterPath state where
  idle _ := idle
  truthful := by
    rw [queued, idle.1]
    exact truthful_nil
  new := by
    rw [sent, queued, idle.1, idle.2.1]
    exact fun _ _ => rfl
  sound client member := by
    rw [sent, queued, idle.1, idle.2.1, idle.2.2 client member]
    exact fun _ _ => rfl
  right started := absurd notStarted started

/-- A signal says how a device has changed, and everything else is as before. -/
structure Tells (adapterPath : String) (devices next : BluezDevices) (signal : BluezSignal)
    (address : String) : Prop where
  told : last (signal.updates adapterPath next) address = some (next.listed address)
  lookup : ∀ other, other ≠ address → next.lookup other = devices.lookup other
  silent : ∀ other, other ≠ address → last (signal.updates adapterPath next) other = none

variable {next : BluezDevices} {signal : BluezSignal}

theorem Tells.announced (tells : Tells adapterPath state.devices next signal address) :
    Announced state.devices.listed next.listed (state.queued adapterPath)
      ({ state with devices := next, signals := state.signals ++ [signal] }.queued adapterPath)
      address where
  told := by
    rw [queued, List.flatMap_append, List.flatMap_singleton, last_append, tells.told,
      Option.some_or]
  state other differs := by
    rw [BluezDevices.listed, tells.lookup other differs]
    rfl
  updates other differs := by
    rw [queued, List.flatMap_append, List.flatMap_singleton, last_append,
      tells.silent other differs, Option.none_or,
      BluezSignal.last_updates (tells.lookup other differs)]
    rfl

theorem ListsDevices.announce (lists : ListsDevices adapterPath state)
    (calm : state.start ≠ .reported)
    (tells : Tells adapterPath state.devices next signal address) :
    ListsDevices adapterPath ({ state with devices := next }.announce signal) := by
  have announced := tells.announced
  have listening (started : state.start ≠ .notStarted) : ListsDevices adapterPath
      { state with devices := next, signals := state.signals ++ [signal] } :=
    { idle := fun notStarted => absurd notStarted started
      truthful := announced.truthful lists.truthful
      new := announced.sound lists.new
      sound := fun client member => announced.sound (lists.sound client member)
      right := fun started answered client member =>
        announced.applyAll (lists.right started answered client member) }
  rw [DeviceProtocol.announce]
  cases start : state.start with
  | notStarted => exact listsDevices_of_idle rfl (lists.idle start)
  | reported => exact absurd start calm
  | subscribed | receiving =>
      have started := listening (by simp [start])
      rwa [start] at started

/-- What is on its way stays the same, wherever it is. -/
theorem ListsDevices.forward {bluezDBus : BluezDBus} {start : HardwareStart}
    {signals : List BluezSignal} {notis : List HardwareNoti}
    (lists : ListsDevices adapterPath state) (wasStarted : state.start ≠ .notStarted)
    (started : start ≠ .notStarted)
    (truthful : Truthful state.devices.listed
      (signals.flatMap (BluezSignal.updates adapterPath state.devices)))
    (pending : notis.filterMap HardwareNoti.deviceUpdate? ++
        signals.flatMap (BluezSignal.updates adapterPath state.devices) =
      state.sent ++ state.queued adapterPath) :
    ListsDevices adapterPath { state with bluezDBus, start, signals, notis } where
  idle notStarted := absurd notStarted started
  truthful := truthful
  new := by
    rw [sent, queued, pending]
    exact lists.new
  sound client member := by
    rw [sent, queued, pending]
    exact lists.sound client member
  right _ answered client member := by
    rw [sent, queued, pending]
    exact lists.right wasStarted answered client member

/-- Nobody knows more or less after a signal that is about no device. -/
theorem ListsDevices.announce_other (lists : ListsDevices adapterPath state)
    (elsewhere : ¬ signal.isAboutDevice = true) :
    ListsDevices adapterPath (state.announce signal) := by
  have same : (state.signals ++ [signal]).flatMap
      (BluezSignal.updates adapterPath state.devices) = state.queued adapterPath := by
    rw [List.flatMap_append, List.flatMap_singleton,
      BluezSignal.updates_of_not_isAboutDevice elsewhere, List.append_nil]
    rfl
  have listening (started : state.start ≠ .notStarted) :
      ListsDevices adapterPath { state with signals := state.signals ++ [signal] } :=
    lists.forward started started (same ▸ lists.truthful) (by rw [same]; rfl)
  rw [DeviceProtocol.announce]
  split
  · exact lists
  · exact lists
  · next start => exact listening (by simp [start])
  · next start => exact listening (by simp [start])

theorem tells_appear {device : BluezDevice address} {interfaces : List BluezInterface}
    {devices : BluezDevices} (described : deviceProperties interfaces = [device.1]) :
    Tells adapterPath devices (devices.insert address device)
      (.interfacesAdded (objectPath adapterPath address) interfaces) address := by
  have updates : (BluezSignal.interfacesAdded (objectPath adapterPath address) interfaces).updates
      adapterPath (devices.insert address device) = [⟨address, some (deviceInfo device.1)⟩] := by
    rw [BluezSignal.updates, described, List.filterMap_cons, device.announced?_eq]
    rfl
  refine ⟨?_, fun other differs => AList.lookup_insert_ne differs, fun other differs => ?_⟩
  · rw [updates, last_singleton, if_pos rfl, BluezDevices.listed, AList.lookup_insert]
    rfl
  · rw [updates, last_singleton, if_neg (Ne.symm differs)]

theorem tells_change {device : BluezDevice address} {changed : BluezProperties}
    {devices : BluezDevices} :
    Tells adapterPath devices (devices.insert address device)
      (.propertiesChanged (objectPath adapterPath address) BluezDBus.bluezDeviceInterface
        changed) address := by
  have updates : (BluezSignal.propertiesChanged (objectPath adapterPath address)
      BluezDBus.bluezDeviceInterface changed).updates adapterPath
        (devices.insert address device) =
      BluezDevices.replied adapterPath (devices.insert address device)
        (objectPath adapterPath address) := by
    rw [BluezSignal.updates, if_pos rfl]
  refine ⟨?_, fun other differs => AList.lookup_insert_ne differs, fun other differs => ?_⟩
  · rw [updates, last, BluezDevices.filter_replied, if_pos rfl, BluezDevices.listed,
      AList.lookup_insert]
    rfl
  · rw [updates, last, BluezDevices.filter_replied, AList.lookup_insert_ne differs]
    split
    · next isPath =>
        cases present : devices.lookup other with
        | none => rfl
        | some otherDevice =>
            exact absurd (BluezDevices.objectPath_inj otherDevice.isAddress device.isAddress
              isPath) differs
    · rfl

theorem tells_disappear {interfaces : List String} {devices : BluezDevices}
    (plain : ¬ "dev_".toList <:+: adapterPath.toList) (isAddress : IsDeviceAddress address)
    (described : interfaces.filter (· = BluezDBus.bluezDeviceInterface) =
      [BluezDBus.bluezDeviceInterface]) :
    Tells adapterPath devices (devices.erase address)
      (.interfacesRemoved (objectPath adapterPath address) interfaces) address := by
  have updates : (BluezSignal.interfacesRemoved (objectPath adapterPath address)
      interfaces).updates adapterPath (devices.erase address) = [⟨address, none⟩] := by
    rw [BluezSignal.updates, described, List.flatMap_singleton,
      BluezDBus.removedAddress_deviceAddressToObjectPath plain isAddress]
    rfl
  refine ⟨?_, fun other differs => AList.lookup_erase_ne differs, fun other differs => ?_⟩
  · rw [updates, last_singleton, if_pos rfl, BluezDevices.listed, AList.lookup_erase]
    rfl
  · rw [updates, last_singleton, if_neg (Ne.symm differs)]

theorem described_of_findAdapter {bluezDBus : BluezDBus} {answers : BusAnswers}
    {search : AdapterSearch} (returned : bluezDBus.findAdapter answers = .ok search) :
    ∃ described ∈ answers.described?,
      search.sent.filterMap HardwareNoti.deviceUpdate? =
        described.map BluezDBus.presentDevice := by
  rcases Throws.bind_eq_ok_iff.mp returned with ⟨objects, asked, rest⟩
  rcases Throws.bind_eq_ok_iff.mp rest with ⟨found, parsed, last⟩
  cases objects with
  | none =>
      cases parsed
      cases last
  | some objects =>
      have replied : answers.getManagedObjects = .reply (some objects) := by
        unfold BluezDBus.getManagedObjects at asked
        split at asked <;> cases asked
        assumption
      refine ⟨deviceProperties (objects.flatMap BluezObject.readable), ?_, ?_⟩
      · rw [BusAnswers.described?, replied]
        rfl
      · rw [← BluezDBus.updates_notis, ← BluezDBus.sent_parseManagedObjectsReply parsed]
        split at last <;> cases last
        rfl

/-- What the search for an adapter sends is a report of the devices. -/
theorem report_findAdapter {bluezDBus : BluezDBus} {answers : BusAnswers}
    {devices : BluezDevices} {search : AdapterSearch}
    (returned : bluezDBus.findAdapter answers = .ok search)
    (described : devices.DescribedBy answers) :
    Report devices.listed (search.sent.filterMap HardwareNoti.deviceUpdate?) := by
  rcases described_of_findAdapter returned with ⟨properties, isDescribed, tells⟩
  have same := described properties isDescribed
  rw [tells]
  constructor
  · apply truthful_of_forall
    intro update member
    rcases List.mem_map.mp member with ⟨found, isProperties, rfl⟩
    rcases List.mem_map.mp (same.mem_iff.mp isProperties) with ⟨⟨address, device⟩, entry, rfl⟩
    rw [BluezDBus.presentDevice, device.2.2, BluezDevices.listed,
      BluezDevices.mem_entries_iff.mp entry]
    rfl
  · intro key present
    cases found : devices.lookup key with
    | none => simp [BluezDevices.listed, found] at present
    | some device =>
        have entry := BluezDevices.mem_entries_iff.mpr found
        have isProperties := same.mem_iff.mpr (List.mem_map_of_mem entry)
        have told := last_ne_none (List.mem_map_of_mem (f := BluezDBus.presentDevice) isProperties)
        rwa [BluezDBus.presentDevice, device.2.2] at told

/-- A report makes all lists right. -/
theorem ListsDevices.reported {bluezDBus : BluezDBus} {start : HardwareStart} {requests : Nat}
    {notis : List HardwareNoti} (lists : ListsDevices adapterPath state)
    (started : start ≠ .notStarted)
    (report : Report state.devices.listed (notis.filterMap HardwareNoti.deviceUpdate?)) :
    ListsDevices adapterPath
      { state with bluezDBus, start, requests, notis := state.notis ++ notis } where
  idle notStarted := absurd notStarted started
  truthful := lists.truthful
  new := by
    rw [sent, List.filterMap_append]
    exact report.sound lists.truthful lists.new
  sound client member := by
    rw [sent, List.filterMap_append]
    exact report.sound lists.truthful (lists.sound client member)
  right _ _ client member := by
    rw [sent, List.filterMap_append]
    exact report.applyAll lists.truthful (lists.sound client member)

theorem ListsDevices.handle {bluezDBus : BluezDBus} {answers : BusAnswers}
    {signals : List BluezSignal} (lists : ListsDevices adapterPath state)
    (started : state.start ≠ .notStarted) (first : state.signals = signal :: signals) :
    ListsDevices adapterPath
      { state with
        signals
        notis := state.notis ++ (BluetoothWorker.dispatchBluez bluezDBus
          { answers with getAll := state.devices.getAll adapterPath } signal).2 } := by
  have queue : state.queued adapterPath = signal.updates adapterPath state.devices ++
      signals.flatMap (BluezSignal.updates adapterPath state.devices) := by
    rw [queued, first, List.flatMap_cons]
  have truthful := lists.truthful
  rw [queue] at truthful
  apply lists.forward started started truthful.right
  rw [queue, List.filterMap_append, BluezSignal.updates_dispatchBluez, List.append_assoc]
  rfl

theorem ListsDevices.notify {noti : HardwareNoti} (lists : ListsDevices adapterPath state)
    (started : state.start ≠ .notStarted) (silent : noti.deviceUpdate? = none) :
    ListsDevices adapterPath { state with notis := state.notis ++ [noti] } := by
  apply lists.forward started started lists.truthful
  rw [List.filterMap_append, List.filterMap_cons, silent, List.filterMap_nil, List.append_nil]
  rfl

/-- What a client has been told moves from the way into its list. -/
theorem ListsDevices.deliver {noti : HardwareNoti} {notis : List HardwareNoti}
    (lists : ListsDevices adapterPath state) (first : state.notis = noti :: notis) :
    ListsDevices adapterPath
      { state with
        notis
        clients := state.clients.map fun client => (client.1, client.2 ++ [noti]) } := by
  have front : state.sent ++ state.queued adapterPath =
      [noti].filterMap HardwareNoti.deviceUpdate? ++
        (notis.filterMap HardwareNoti.deviceUpdate? ++ state.queued adapterPath) := by
    rw [sent, first, ← List.singleton_append, List.filterMap_append, List.append_assoc]
  have moved (told : List HardwareNoti) :
      applyAll (notis.filterMap HardwareNoti.deviceUpdate? ++ state.queued adapterPath)
          (deviceList (told ++ [noti])) =
        applyAll (state.sent ++ state.queued adapterPath) (deviceList told) := by
    have list : deviceList (told ++ [noti]) =
        applyAll ([noti].filterMap HardwareNoti.deviceUpdate?) (deviceList told) := by
      rw [deviceList, List.filterMap_append, applyAll_append]
      rfl
    rw [list, front, ← applyAll_append]
  have new := lists.new
  rw [front] at new
  exact
    { idle := fun notStarted => absurd (first.symm.trans (lists.idle notStarted).2.1) (by simp)
      truthful := lists.truthful
      new := new.right
      sound := by
        intro client member
        rcases List.mem_map.mp member with ⟨before, present, rfl⟩
        exact moved before.2 ▸ lists.sound before present
      right := by
        intro started answered client member
        rcases List.mem_map.mp member with ⟨before, present, rfl⟩
        exact (moved before.2).trans (lists.right started answered before present) }

theorem ListsDevices.join {client : Nat} (lists : ListsDevices adapterPath state)
    (calm : state.start ≠ .reported ∧ state.start ≠ .subscribed) :
    ListsDevices adapterPath
      { state with
        clients := state.clients ++ [(client, [])]
        requests := if state.start = .receiving then state.requests + 1 else state.requests } where
  idle notStarted := by
    refine ⟨(lists.idle notStarted).1, (lists.idle notStarted).2.1, fun other member => ?_⟩
    rcases List.mem_append.mp member with before | joined
    · exact (lists.idle notStarted).2.2 other before
    · rw [List.mem_singleton.mp joined]
  truthful := lists.truthful
  new := lists.new
  sound other member := by
    rcases List.mem_append.mp member with before | joined
    · exact lists.sound other before
    · rw [List.mem_singleton.mp joined]
      exact lists.new
  right started answered := by
    have receiving : state.start = .receiving := by
      cases start : state.start with
      | notStarted => exact absurd start started
      | reported => exact absurd start calm.1
      | subscribed => exact absurd start calm.2
      | receiving => rfl
    simp [receiving] at answered

theorem ListsDevices.leave {client : Nat} (lists : ListsDevices adapterPath state) :
    ListsDevices adapterPath
      { state with clients := state.clients.filter fun other => other.1 ≠ client } where
  idle notStarted := ⟨(lists.idle notStarted).1, (lists.idle notStarted).2.1, fun other member =>
    (lists.idle notStarted).2.2 other (List.mem_filter.mp member).1⟩
  truthful := lists.truthful
  new := lists.new
  sound other member := lists.sound other (List.mem_filter.mp member).1
  right started answered other member :=
    lists.right started answered other (List.mem_filter.mp member).1

theorem listsDevices_step (plain : ¬ "dev_".toList <:+: adapterPath.toList)
    {next : DeviceProtocol} {action : Action} (lists : ListsDevices adapterPath state)
    (calm : Calm state action) (stepped : step adapterPath state action = some next) :
    ListsDevices adapterPath next := by
  cases action with
  | appear address device interfaces =>
      rcases Option.ite_none_right_eq_some.mp stepped with ⟨⟨-, described⟩, ⟨⟩⟩
      exact lists.announce calm (tells_appear described)
  | change address device changed =>
      rcases Option.ite_none_right_eq_some.mp stepped with ⟨-, ⟨⟩⟩
      exact lists.announce calm tells_change
  | disappear address interfaces =>
      rcases Option.ite_none_right_eq_some.mp stepped with ⟨⟨present, described⟩, ⟨⟩⟩
      rcases Option.isSome_iff_exists.mp (AList.lookup_isSome.mpr present) with ⟨device, -⟩
      exact lists.announce calm (tells_disappear plain device.isAddress described)
  | signal signal =>
      rcases Option.ite_none_left_eq_some.mp stepped with ⟨elsewhere, ⟨⟩⟩
      exact lists.announce_other elsewhere
  | start answers =>
      rcases Option.ite_none_right_eq_some.mp stepped with ⟨⟨-, described⟩, stepped⟩
      split at stepped
      · next search found =>
          cases stepped
          exact lists.reported (by decide) (report_findAdapter found described)
      · cases stepped
  | subscribe answers =>
      rcases Option.ite_none_right_eq_some.mp stepped with ⟨reported, stepped⟩
      split at stepped <;> cases stepped
      exact lists.forward (by simp [reported]) (by decide) lists.truthful rfl
  | receive =>
      rcases Option.ite_none_right_eq_some.mp stepped with ⟨subscribed, ⟨⟩⟩
      exact lists.forward (by simp [subscribed]) (by decide) lists.truthful rfl
  | handle answers =>
      simp only [step] at stepped
      split at stepped
      · next receiving first =>
          cases stepped
          exact lists.handle (by simp [receiving]) first
      · cases stepped
  | initializeBluetooth answers =>
      rcases Option.ite_none_right_eq_some.mp stepped with ⟨⟨receiving, -, described⟩, stepped⟩
      split at stepped
      · next search initialized =>
          cases stepped
          rw [BluezDBus.initializeAdapter_eq] at initialized
          rcases Throws.bind_eq_ok_iff.mp initialized with ⟨found, searched, rest⟩
          rcases Throws.bind_eq_ok_iff.mp rest with ⟨bluezDBus, -, ⟨⟩⟩
          have report := report_findAdapter searched described
          exact lists.reported (by simp [receiving]) report
      · cases stepped
  | notify noti =>
      rcases Option.ite_none_right_eq_some.mp stepped with ⟨⟨started, silent⟩, ⟨⟩⟩
      exact lists.notify started silent
  | deliver =>
      simp only [step] at stepped
      split at stepped
      · cases stepped
      · next first =>
          cases stepped
          exact lists.deliver first
  | join client =>
      rcases Option.ite_none_left_eq_some.mp stepped with ⟨-, ⟨⟩⟩
      exact lists.join calm
  | leave client =>
      cases stepped
      exact lists.leave

/--
Once everything has been delivered, every client lists the devices that BlueZ has, with
the properties that they have, unless the start was disturbed.
-/
theorem deviceList_of_settled (plain : ¬ "dev_".toList <:+: adapterPath.toList)
    {devices : BluezDevices} {schedule : List Action} {final : DeviceProtocol}
    (ran : (protocol adapterPath devices).run schedule = some final)
    (calm : (protocol adapterPath devices).Along Calm schedule) (settled : Settled final) :
    ∀ client ∈ final.clients, deviceList client.2 = final.devices.listed := by
  have initial : ListsDevices adapterPath (protocol adapterPath devices).init :=
    listsDevices_of_idle rfl ⟨rfl, rfl, fun client member => by cases member⟩
  have lists := System.invariant_of_along (ListsDevices adapterPath) initial
    (fun state action next lists calm stepped => listsDevices_step plain lists calm stepped)
    ran calm
  rcases settled with ⟨receiving, handled, delivered, answered⟩
  intro client member
  have right := lists.right (by simp [receiving]) answered client member
  rwa [sent, queued, handled, delivered] at right

end Steps

section Example

def headset (connected : Bool) : BluezDevice "AA:BB" :=
  ⟨[("Address", .string "AA:BB"), ("Connected", .boolean connected)],
    ⟨by simp, by simp [Char.isHexDigit]⟩, by
    simp [BluezDBus.parseDeviceProperties, BluezDBus.readDeviceProperty,
      DBusDataInfo.get_set_of_ne]⟩

def speaker : BluezDevice "CC:DD" :=
  ⟨[("Address", .string "CC:DD"), ("Name", .string "Speaker")],
    ⟨by simp, by simp [Char.isHexDigit]⟩, by
    simp [BluezDBus.parseDeviceProperties, BluezDBus.readDeviceProperty,
      DBusDataInfo.get_set_of_ne]⟩

def deviceInterface (properties : BluezProperties) : BluezInterface where
  name := some BluezDBus.bluezDeviceInterface
  properties

/-- BlueZ has one adapter and the devices of the list. -/
def busAnswers (devices : List BluezProperties) : BusAnswers where
  sender := .connected
  getManagedObjects := .reply (some
    [⟨some "/org/bluez/hci0", some [⟨some BluezDBus.bluezAdapterInterface, []⟩]⟩,
      ⟨some "/org/bluez/hci0/dev", some (devices.map deviceInterface)⟩])
  addMatch _ := none
  outcome := .success
  deviceOutcome _ := .success
  getAll _ := .noReply
  calls _ := ∅

/-- A headset connects and a speaker comes and goes, while two clients join. -/
def twoClients : List Action :=
  [.join 1, .start (busAnswers [(headset false).1]), .subscribe (busAnswers []), .receive,
    .change "AA:BB" (headset true) [], .appear "CC:DD" speaker [deviceInterface speaker.1],
    .join 2, .handle (busAnswers []), .deliver, .deliver,
    .initializeBluetooth (busAnswers [speaker.1, (headset true).1]),
    .disappear "CC:DD" [BluezDBus.bluezDeviceInterface], .handle (busAnswers []),
    .deliver, .deliver, .deliver, .handle (busAnswers []), .deliver]

def withHeadset : System DeviceProtocol Action :=
  protocol "/org/bluez/hci0" ((∅ : BluezDevices).insert "AA:BB" (headset false))

theorem deviceList_of_settled_twoClients :
    ∃ final, withHeadset.run twoClients = some final ∧ final.clients.length = 2 ∧
      ∀ client ∈ final.clients, deviceList client.2 = final.devices.listed := by
  have ends : (withHeadset.run twoClients).any fun final =>
      final.start = .receiving ∧ final.signals.length = 0 ∧ final.notis.length = 0 ∧
        final.requests = 0 ∧ final.clients.length = 2 := by decide +kernel
  rcases (Option.any_eq_true _ _).mp ends with ⟨final, ran, isSettled⟩
  rcases of_decide_eq_true isSettled with ⟨receiving, handled, delivered, answered, two⟩
  refine ⟨final, ran, two, deviceList_of_settled (by decide +kernel) ran (by decide +kernel) ?_⟩
  exact ⟨receiving, List.eq_nil_of_length_eq_zero handled,
    List.eq_nil_of_length_eq_zero delivered, answered⟩

/-- A speaker that comes before the rules are added is missed. -/
example : (withHeadset.run [.join 1, .start (busAnswers [(headset false).1]),
      .appear "CC:DD" speaker [deviceInterface speaker.1], .subscribe (busAnswers []), .receive,
      .deliver]).any (fun final =>
        final.devices.lookup "CC:DD" ≠ none ∧
          final.clients.all fun client => deviceList client.2 "CC:DD" = none) = true := by
  decide +kernel

end Example

end DeviceProtocol

end RaspberryPiService
