import RaspberryPiService.HardwareManager.MainWorker
import RaspberryPiService.Transition.Convergence

/-!
# The signals of BlueZ

`BluetoothWorker` tells the core about every device that BlueZ adds, changes or removes.
A signal about a change only makes the worker ask for all properties of the device, and
the reply may be newer than the signal. When the core wants Bluetooth to be initialized, the
devices that BlueZ has are told as well.

Whatever a notification says besides, it says that a device has certain properties now, or
that there is no such device.
-/

namespace RaspberryPiService

/-- The signals of BlueZ that the worker handles, with the arguments it reads. -/
inductive BluezSignal where
  | interfacesAdded (objectPath : String) (interfaces : List BluezInterface)
  | interfacesRemoved (objectPath : String) (interfaces : List String)
  | propertiesChanged (objectPath interfaceName : String) (changed : BluezProperties)

/-- The properties of a device that go to the core. -/
abbrev DeviceUpdate : Type := KeyUpdate String DBusDataInfo

/-- What a notification says about a device; the message is left out. -/
def HardwareNoti.deviceUpdate? (noti : HardwareNoti) : Option DeviceUpdate :=
  match noti.cmd with
  | .scanningBTDeviceFoundNoti | .btDevicePropertyChangeNoti =>
      some ⟨noti.info.get .btDeviceAddress, some (noti.info.set .message "")⟩
  | .scanningBTDeviceDeleteNoti => some ⟨noti.info.get .btDeviceAddress, none⟩
  | _ => none

/-- The properties of a device, as they are told. -/
def deviceInfo (properties : BluezProperties) : DBusDataInfo :=
  (BluezDBus.parseDeviceProperties properties).set .message ""

namespace BluezDBus

variable (bluezDBus : BluezDBus) (answers : BusAnswers)

def isAdapterFound : Bool := bluezDBus.adapterPath ≠ ""

def getAllAdapterProperties (objectPath : String) : DBusDataInfo :=
  match answers.getAll objectPath with
  | .reply properties => parseAdapterProperties properties
  | .notCreated | .error _ | .noReply | .noArguments => .init

def setDiscoverable (on : Bool) : PropertySet where
  objectPath := bluezDBus.adapterPath
  property := "Discoverable"
  value := on

def trustDevice (address : String) : PropertySet where
  objectPath := deviceAddressToObjectPath bluezDBus.adapterPath address
  property := "Trusted"
  value := true

end BluezDBus

namespace BluetoothWorker

open BluezDBus

def handleInterfacesAdded (interfaces : List BluezInterface) : List HardwareNoti :=
  interfaces.flatMap fun interface =>
    if interface.name = some bluezDeviceInterface then
      let properties := parseDeviceProperties interface.properties
      if properties.get .btDeviceAddress = "" then []
      else
        [{ cmd := .scanningBTDeviceFoundNoti
           isSuccess := true
           info := properties.set .message "New Bluetooth device found." }]
    else []

variable (bluezDBus : BluezDBus) (answers : BusAnswers)

/-- The power of the adapter has changed; the text stays in the properties. -/
def handlePowerChanged (objectPath : String) (properties : DBusDataInfo) :
    DBusDataInfo × List PropertySet × List HardwareNoti :=
  if properties.get .btAdapterPowered = "" then (properties, [], [])
  else
    let isPowered : Bool := properties.get .btAdapterPowered = "true"
    let properties :=
      properties.set .message ("Adapter power state changed to " ++ onOff isPowered)
    if isPowered then
      let discoverable := (getAllAdapterProperties answers objectPath).get .btAdapterDiscoverable
      (properties, if discoverable ≠ "" ∧ discoverable ≠ "true" then
        [bluezDBus.setDiscoverable true] else [],
        [⟨.bluetoothPowerOnNoti, true, properties⟩])
    else (properties, [], [⟨.bluetoothPowerOffNoti, true, properties⟩])

def handleDiscoveringChanged (properties : DBusDataInfo) : List HardwareNoti :=
  if properties.get .btAdapterDiscovering = "" then []
  else
    let isDiscovering : Bool := properties.get .btAdapterDiscovering = "true"
    [{ cmd := if isDiscovering then .startScanBTDeviceNoti else .stopScanBTDeviceNoti
       isSuccess := true
       info := properties.set .message
        ("Adapter discovery state changed to " ++ onOff isDiscovering) }]

def handleDevicePropertiesChanged (objectPath : String) : List PropertySet × List HardwareNoti :=
  let properties := getAllDeviceProperties answers objectPath
  if properties.get .btDeviceAddress = "" then ([], [])
  else
    (if properties.get .btDevicePaired = "true" ∧ properties.get .btDeviceConnected = "true" ∧
        properties.get .btDeviceTrusted ≠ "true" then
      [bluezDBus.trustDevice (properties.get .btDeviceAddress)] else [],
      [{ cmd := .btDevicePropertyChangeNoti
         isSuccess := true
         info := properties.set .message "Bluetooth device properties updated." }])

/-- `handlePropertiesChanged` on a signal of BlueZ. -/
def handlePropertiesChanged (objectPath interfaceName : String) (changed : BluezProperties) :
    List PropertySet × List HardwareNoti :=
  if interfaceName = bluezAdapterInterface ∧ bluezDBus.isAdapterFound ∧
      objectPath = bluezDBus.adapterPath then
    let (properties, sets, news) :=
      handlePowerChanged bluezDBus answers objectPath (parseAdapterProperties changed)
    (sets, news ++ handleDiscoveringChanged properties)
  else if interfaceName = bluezDeviceInterface then
    handleDevicePropertiesChanged bluezDBus answers objectPath
  else ([], [])

/-- `BluetoothWorker::dispatchMessage` on a signal of BlueZ. -/
def dispatchBluez : BluezSignal → List PropertySet × List HardwareNoti
  | .interfacesAdded _ interfaces => ([], handleInterfacesAdded interfaces)
  | .interfacesRemoved objectPath interfaces =>
      ([], handleInterfacesRemoved objectPath interfaces)
  | .propertiesChanged objectPath interfaceName changed =>
      handlePropertiesChanged bluezDBus answers objectPath interfaceName changed

end BluetoothWorker

/-- What the properties say about a device whose address they have. -/
def BluezProperties.announced? (properties : BluezProperties) : Option DeviceUpdate :=
  let address := (BluezDBus.parseDeviceProperties properties).get .btDeviceAddress
  if address = "" then none else some ⟨address, some (deviceInfo properties)⟩

/-- The properties of the devices among the interfaces. -/
def deviceProperties (interfaces : List BluezInterface) : List BluezProperties :=
  (interfaces.filter fun interface =>
    interface.name = some BluezDBus.bluezDeviceInterface).map BluezInterface.properties

section Updates

variable {properties : BluezProperties}

/-- The message of a notification about a device does not matter. -/
theorem deviceUpdate?_message (cmd : DBusCommand) (isSuccess : Bool) (message : String)
    (isFound : cmd = .scanningBTDeviceFoundNoti ∨ cmd = .btDevicePropertyChangeNoti) :
    (HardwareNoti.mk cmd isSuccess
        ((BluezDBus.parseDeviceProperties properties).set .message message)).deviceUpdate? =
      some ⟨(BluezDBus.parseDeviceProperties properties).get .btDeviceAddress,
        some (deviceInfo properties)⟩ := by
  have same : ((BluezDBus.parseDeviceProperties properties).set .message message).set .message "" =
      deviceInfo properties := by
    simp only [deviceInfo, DBusDataInfo.set, Vector.set_set]
  rcases isFound with rfl | rfl <;>
    simp [HardwareNoti.deviceUpdate?, same, DBusDataInfo.get_set_of_ne]

namespace BluetoothWorker

open BluezDBus

theorem updates_handleInterfacesAdded (interfaces : List BluezInterface) :
    (handleInterfacesAdded interfaces).filterMap HardwareNoti.deviceUpdate? =
      (deviceProperties interfaces).filterMap BluezProperties.announced? := by
  induction interfaces with
  | nil => rfl
  | cons interface interfaces ih =>
      rw [handleInterfacesAdded, List.flatMap_cons, List.filterMap_append]
      rw [handleInterfacesAdded] at ih
      rw [ih]
      by_cases isDevice : interface.name = some bluezDeviceInterface
      · simp only [isDevice, if_true, deviceProperties, List.filter_cons_of_pos, decide_true,
          List.map_cons, List.filterMap_cons, BluezProperties.announced?]
        split
        · rfl
        · rw [List.filterMap_cons, deviceUpdate?_message _ _ _ (Or.inl rfl)]
          rfl
      · simp [isDevice, deviceProperties]

theorem updates_handleInterfacesRemoved (objectPath : String) (interfaces : List String) :
    (handleInterfacesRemoved objectPath interfaces).filterMap HardwareNoti.deviceUpdate? =
      (interfaces.filter (· = bluezDeviceInterface)).flatMap fun _ =>
        ((removedAddress objectPath).map fun address => ⟨address, none⟩).toList := by
  induction interfaces with
  | nil => rfl
  | cons interface interfaces ih =>
      rw [handleInterfacesRemoved, List.flatMap_cons, List.filterMap_append]
      rw [handleInterfacesRemoved] at ih
      rw [ih]
      by_cases isDevice : interface = bluezDeviceInterface
      · subst isDevice
        cases removedAddress objectPath <;>
          simp [HardwareNoti.deviceUpdate?, DBusDataInfo.get_set_of_ne]
      · simp [isDevice]

variable (bluezDBus : BluezDBus) (answers : BusAnswers)

theorem updates_handlePowerChanged (objectPath : String) (properties : DBusDataInfo) :
    (handlePowerChanged bluezDBus answers objectPath properties).2.2.filterMap
      HardwareNoti.deviceUpdate? = [] := by
  unfold handlePowerChanged
  split
  · rfl
  · dsimp only
    split <;> rfl

theorem updates_handleDiscoveringChanged (properties : DBusDataInfo) :
    (handleDiscoveringChanged properties).filterMap HardwareNoti.deviceUpdate? = [] := by
  unfold handleDiscoveringChanged
  split
  · rfl
  · cases decide (properties.get .btAdapterDiscovering = "true") <;> rfl

/-- A change of a device says what the reply of BlueZ says. -/
theorem updates_handleDevicePropertiesChanged (objectPath : String) :
    (handleDevicePropertiesChanged bluezDBus answers objectPath).2.filterMap
        HardwareNoti.deviceUpdate? =
      (match answers.getAll objectPath with
        | .reply properties => properties.announced?.toList
        | _ => []) := by
  have nothing : DBusDataInfo.init.get .btDeviceAddress = "" := by decide +kernel
  unfold handleDevicePropertiesChanged getAllDeviceProperties
  cases answers.getAll objectPath with
  | reply properties =>
      simp only [BluezProperties.announced?]
      split
      · rfl
      · rw [List.filterMap_cons, deviceUpdate?_message _ _ _ (Or.inr rfl)]
        rfl
  | notCreated | error | noReply | noArguments => simp [nothing]

theorem updates_handlePropertiesChanged (objectPath interfaceName : String)
    (changed : BluezProperties) :
    (handlePropertiesChanged bluezDBus answers objectPath interfaceName changed).2.filterMap
        HardwareNoti.deviceUpdate? =
      if interfaceName = bluezDeviceInterface then
        (match answers.getAll objectPath with
          | .reply properties => properties.announced?.toList
          | _ => [])
      else [] := by
  unfold handlePropertiesChanged
  split
  · next isAdapter =>
      rw [if_neg (by rw [isAdapter.1]; exact Ne.symm bluezDeviceInterface_ne)]
      simp only [List.filterMap_append, updates_handlePowerChanged,
        updates_handleDiscoveringChanged, List.append_nil]
  · split
    · exact updates_handleDevicePropertiesChanged bluezDBus answers objectPath
    · rfl

/-- One changed property of the adapter is told as in the protocol of the adapter. -/
theorem handlePropertiesChanged_adapter (property : AdapterProperty) (value : Bool)
    (found : bluezDBus.isAdapterFound = true) :
    (handlePropertiesChanged bluezDBus answers bluezDBus.adapterPath bluezAdapterInterface
        [(match property with | .powered => "Powered" | .discovering => "Discovering",
          .boolean value)]).2.map (fun noti => (noti.cmd, noti.isSuccess, noti.info.get .message)) =
      [((handleAdapterPropertyChanged property value).command.notiCommand,
        (handleAdapterPropertyChanged property value).isSuccess,
        (handleAdapterPropertyChanged property value).message)] := by
  have nothing : DBusDataInfo.init.get .btAdapterPowered = "" ∧
      DBusDataInfo.init.get .btAdapterDiscovering = "" := by decide +kernel
  cases property <;> cases value <;>
    simp [handlePropertiesChanged, found, parseAdapterProperties, readAdapterProperty,
      handlePowerChanged, handleDiscoveringChanged, trueOrFalse, DBusDataInfo.get_set_of_ne,
      nothing, handleAdapterPropertyChanged, AdapterCommand.asking, AdapterCommand.notiCommand,
      onOff]

end BluetoothWorker

/-- What is sent about an interface of an object that BlueZ has. -/
def BluezInterface.notis (interface : BluezInterface) : List HardwareNoti :=
  if interface.name = some BluezDBus.bluezAdapterInterface then
    BluezDBus.adapterNotis (BluezDBus.parseAdapterProperties interface.properties)
  else if interface.name = some BluezDBus.bluezDeviceInterface then
    [BluezDBus.deviceNoti interface.properties]
  else []

namespace BluezDBus

open Throws

/-- Rounds that add to a list one after the other. -/
theorem foldlM_appends {State Element Entry : Type} {round : State → Element → Except String State}
    (list : State → List Entry) {news : Element → List Entry}
    (appends : ∀ state element next, round state element = .ok next →
      list next = list state ++ news element)
    {elements : List Element} {state final : State}
    (returned : elements.foldlM round state = .ok final) :
    list final = list state ++ elements.flatMap news := by
  induction elements generalizing state with
  | nil =>
      cases returned
      simp
  | cons element elements ih =>
      rw [List.foldlM_cons] at returned
      rcases bind_eq_ok_iff.mp returned with ⟨next, first, rest⟩
      rw [ih rest, appends state element next first, List.flatMap_cons, List.append_assoc]

variable {sender : SenderConnection} {search found : AdapterSearch}

theorem notify_eq_ok {sent notis later : List HardwareNoti}
    (returned : HardwareSender.notify sender sent notis = .ok later) : later = sent ++ notis := by
  have appends : ∀ sent noti later, HardwareSender.sendMessageNoti sender sent noti = .ok later →
      later = sent ++ [noti] := by
    intro sent noti later returned
    rcases bind_eq_ok_iff.mp returned with ⟨-, -, ⟨⟩⟩
    rfl
  simpa using foldlM_appends id appends returned

theorem sent_parseInterface (path : String) (search : AdapterSearch) (interface : BluezInterface)
    (found : AdapterSearch) (returned : parseInterface sender path search interface = .ok found) :
    found.sent = search.sent ++ interface.notis := by
  unfold parseInterface at returned
  unfold BluezInterface.notis
  split at returned
  · next isAdapter =>
      rcases bind_eq_ok_iff.mp returned with ⟨sent, notified, ⟨⟩⟩
      rw [if_pos isAdapter]
      exact notify_eq_ok notified
  · next notAdapter =>
      rw [if_neg notAdapter]
      split at returned
      · next isDevice =>
          rcases bind_eq_ok_iff.mp returned with ⟨sent, notified, ⟨⟩⟩
          rw [if_pos isDevice]
          exact notify_eq_ok notified
      · next notDevice =>
          cases returned
          rw [if_neg notDevice, List.append_nil]

theorem sent_parseManagedObjectsReply {bluezDBus : BluezDBus} {objects : List BluezObject}
    (returned : bluezDBus.parseManagedObjectsReply sender (some objects) = .ok found) :
    found.sent = (objects.flatMap BluezObject.readable).flatMap BluezInterface.notis := by
  have appends : ∀ (search : AdapterSearch) (object : BluezObject) (found : AdapterSearch),
      parseObject sender search object = .ok found →
        found.sent = search.sent ++ object.readable.flatMap BluezInterface.notis := by
    intro search object found returned
    rw [parseObject_eq] at returned
    exact foldlM_appends AdapterSearch.sent (sent_parseInterface _) returned
  rw [List.flatMap_assoc]
  simpa using foldlM_appends AdapterSearch.sent appends returned

theorem updates_initialState (properties : DBusDataInfo) (field : DBusDataType) (what : String)
    {onNoti offNoti : DBusCommand}
    (adapter : ∀ info, (HardwareNoti.mk onNoti true info).deviceUpdate? = none ∧
      (HardwareNoti.mk offNoti true info).deviceUpdate? = none) :
    (initialState properties field what onNoti offNoti).filterMap HardwareNoti.deviceUpdate? =
      [] := by
  unfold initialState
  split
  · rfl
  · rw [List.filterMap_cons]
    split
    · rfl
    · next isUpdate =>
        split at isUpdate
        · rw [(adapter _).1] at isUpdate
          cases isUpdate
        · rw [(adapter _).2] at isUpdate
          cases isUpdate

theorem updates_adapterNotis (properties : DBusDataInfo) :
    (adapterNotis properties).filterMap HardwareNoti.deviceUpdate? = [] := by
  rw [adapterNotis, List.filterMap_append, updates_initialState _ _ _ fun _ => ⟨rfl, rfl⟩,
    updates_initialState _ _ _ fun _ => ⟨rfl, rfl⟩]
  rfl

/-- What a device that BlueZ has is told to be. -/
def presentDevice (properties : BluezProperties) : DeviceUpdate :=
  ⟨(parseDeviceProperties properties).get .btDeviceAddress, some (deviceInfo properties)⟩

theorem updates_notis (interfaces : List BluezInterface) :
    (interfaces.flatMap BluezInterface.notis).filterMap HardwareNoti.deviceUpdate? =
      (deviceProperties interfaces).map presentDevice := by
  induction interfaces with
  | nil => rfl
  | cons interface interfaces ih =>
      rw [List.flatMap_cons, List.filterMap_append, ih, BluezInterface.notis]
      split
      · next isAdapter =>
          have notDevice : interface.name ≠ some bluezDeviceInterface := by
            rw [isAdapter]
            exact fun same => bluezDeviceInterface_ne (Option.some.inj same).symm
          simp [updates_adapterNotis, deviceProperties, notDevice]
      · split
        · next isDevice =>
            rw [deviceNoti, List.filterMap_cons, deviceUpdate?_message _ _ _ (Or.inl rfl)]
            simp [deviceProperties, isDevice, presentDevice]
        · next notDevice => simp [deviceProperties, notDevice]

end BluezDBus

end Updates

end RaspberryPiService
