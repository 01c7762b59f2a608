import RaspberryPiService.Common.Exceptions
import RaspberryPiService.HardwareManager.CommandReplies
import RaspberryPiService.HardwareManager.DevicePaths
import RaspberryPiService.HardwareManager.DeviceProperties

/-!
# Looking for the adapter

`BluezDBus::initializeAdapter` asks BlueZ for its objects, reports the adapter and the
devices among them, and subscribes to the signals of BlueZ and oFono. It throws where it
cannot go on. The constructor calls it, and so does MainWorker when the core wants
Bluetooth to be initialized.

An exception is represented by its text.
-/

namespace RaspberryPiService

open Throws

/-- How a method call ends whose reply is read. -/
inductive BluezReply (Data : Type) where
  | notCreated
  | error (message : String)
  | noReply
  | noArguments
  | reply (data : Data)

/-- What the constructor of `DBusSenderBase` gets when it connects to the system bus. -/
inductive SenderConnection where
  | connected
  | error
  | null
deriving DecidableEq

namespace HardwareSender

/-- The one instance is made by the first call that needs it; a failure is thrown. -/
def getInstance : SenderConnection → Except String Unit
  | .connected => .ok ()
  | .error => .error "DBusSenderBase failed to connect to system bus"
  | .null => .error "DBusSenderBase connection is NULL"

/-- Whether the message has been sent is only logged. -/
def sendMessageNoti (sender : SenderConnection) (sent : List HardwareNoti)
    (noti : HardwareNoti) : Except String (List HardwareNoti) := do
  getInstance sender
  return sent ++ [noti]

def notify (sender : SenderConnection) (sent notis : List HardwareNoti) :
    Except String (List HardwareNoti) :=
  notis.foldlM (sendMessageNoti sender) sent

variable {sender : SenderConnection} {sent notis : List HardwareNoti}

theorem returns_sendMessageNoti_iff (sent : List HardwareNoti) (noti : HardwareNoti) :
    Returns (sendMessageNoti sender sent noti) ↔ sender = .connected := by
  cases sender <;> simp [sendMessageNoti, getInstance, bind, Except.bind]

theorem returns_notify_iff :
    Returns (notify sender sent notis) ↔ (notis ≠ [] → sender = .connected) := by
  rw [notify, returns_foldlM_iff_forall returns_sendMessageNoti_iff]
  constructor
  · intro connected nonempty
    rcases List.exists_mem_of_ne_nil notis nonempty with ⟨noti, member⟩
    exact connected noti member
  · intro connected noti member
    exact connected (List.ne_nil_of_mem member)

end HardwareSender

/-- An entry of the interfaces of an object; a name that is not a string is missing. -/
structure BluezInterface where
  name : Option String
  properties : BluezProperties

/-- An entry of the reply to `GetManagedObjects`; a part of another type is missing. -/
structure BluezObject where
  path : Option String
  interfaces : Option (List BluezInterface)

/-- A `Set` of a property whose outcome is only logged. -/
structure PropertySet where
  objectPath : String
  property : String
  value : Bool
deriving DecidableEq

structure BluezDBus where
  adapterPath : String := ""
  isInitialized : Bool := false
deriving DecidableEq

/-- How the bus and its services answer while an event is handled. -/
structure BusAnswers where
  sender : SenderConnection
  /-- The first argument of the reply may be something else than an array. -/
  getManagedObjects : BluezReply (Option (List BluezObject))
  /-- The error for a match rule. -/
  addMatch : String → Option String
  /-- The method call about the adapter, the modem or a call. -/
  outcome : MethodOutcome
  /-- The method call about the device at a path. -/
  deviceOutcome : String → MethodOutcome
  /-- `GetAll` of the device at a path. -/
  getAll : String → BluezReply BluezProperties
  /-- The calls of oFono, query by query. -/
  calls : Nat → OfonoCalls

/-- The state of the search for an adapter. -/
structure AdapterSearch where
  bluezDBus : BluezDBus
  adapterFound : Bool := false
  sent : List HardwareNoti := []
  sets : List PropertySet := []

namespace BluezDBus

def bluezServiceName : String := "org.bluez"

def bluezAdapterInterface : String := "org.bluez.Adapter1"

def bluezAgentInterface : String := "org.bluez.Agent1"

def hardwareMgrAgentObjectPath : String := "/com/example/hardwaremanager/agent"

def dbusObjectManagerInterface : String := "org.freedesktop.DBus.ObjectManager"

def dbusPropertiesInterface : String := "org.freedesktop.DBus.Properties"

def ofonoServiceName : String := "org.ofono"

def ofonoManagerInterface : String := "org.ofono.Manager"

def ofonoModemInterface : String := "org.ofono.Modem"

def ofonoVoiceCallManagerInterface : String := "org.ofono.VoiceCallManager"

def ofonoVoiceCallInterface : String := "org.ofono.VoiceCall"

/-- One round of the loop of `parseAdapterProperties`. -/
def readAdapterProperty (info : DBusDataInfo) : String × BluezVariant → DBusDataInfo
  | ("Powered", .boolean value) => info.set .btAdapterPowered (trueOrFalse value)
  | ("Discovering", .boolean value) => info.set .btAdapterDiscovering (trueOrFalse value)
  | ("Discoverable", .boolean value) => info.set .btAdapterDiscoverable (trueOrFalse value)
  | _ => info

def parseAdapterProperties (properties : BluezProperties) : DBusDataInfo :=
  properties.foldl readAdapterProperty .init

/-- The notification about the initial state of one property, unless it is unknown. -/
def initialState (properties : DBusDataInfo) (field : DBusDataType) (what : String)
    (onNoti offNoti : DBusCommand) : List HardwareNoti :=
  if properties.get field = "" then []
  else
    [{ cmd := if properties.get field = "true" then onNoti else offNoti
       isSuccess := true
       info := (DBusDataInfo.init.set field (properties.get field)).set .message
        ("Initial adapter " ++ what ++ " state is " ++ onOff (properties.get field = "true")) }]

def adapterNotis (properties : DBusDataInfo) : List HardwareNoti :=
  initialState properties .btAdapterPowered "power" .bluetoothPowerOnNoti .bluetoothPowerOffNoti ++
    initialState properties .btAdapterDiscovering "discovery" .startScanBTDeviceNoti
      .stopScanBTDeviceNoti

/-- An adapter that is powered on and known not to be discoverable is made so. -/
def discoverableSets (path : String) (properties : DBusDataInfo) : List PropertySet :=
  if properties.get .btAdapterDiscoverable ≠ "" ∧ properties.get .btAdapterPowered = "true" ∧
      properties.get .btAdapterDiscoverable ≠ "true" then
    [{ objectPath := path, property := "Discoverable", value := true }]
  else []

def deviceNoti (properties : BluezProperties) : HardwareNoti where
  cmd := .scanningBTDeviceFoundNoti
  isSuccess := true
  info := (parseDeviceProperties properties).set .message
    "Found existing Bluetooth device in managed objects."

/-- One round of the loop over the interfaces of an object. -/
def parseInterface (sender : SenderConnection) (path : String) (search : AdapterSearch)
    (interface : BluezInterface) : Except String AdapterSearch :=
  if interface.name = some bluezAdapterInterface then do
    let properties := parseAdapterProperties interface.properties
    let sent ← HardwareSender.notify sender search.sent (adapterNotis properties)
    return { bluezDBus := { search.bluezDBus with adapterPath := path }
             adapterFound := true
             sent
             sets := search.sets ++ discoverableSets path properties }
  else if interface.name = some bluezDeviceInterface then do
    let sent ← HardwareSender.notify sender search.sent [deviceNoti interface.properties]
    return { search with sent }
  else return search

/-- One round of the loop over the objects. -/
def parseObject (sender : SenderConnection) (search : AdapterSearch) (object : BluezObject) :
    Except String AdapterSearch :=
  match object.path, object.interfaces with
  | some path, some interfaces => interfaces.foldlM (parseInterface sender path) search
  | _, _ => return search

/-- `parseManagedObjects` as a whole, from the first argument of the reply. -/
def parseManagedObjectsReply (bluezDBus : BluezDBus) (sender : SenderConnection) :
    Option (List BluezObject) → Except String AdapterSearch
  | none => return { bluezDBus }
  | some objects => objects.foldlM (parseObject sender) { bluezDBus }

def signalRule (interface member sender : String) : String :=
  "type='signal',interface='" ++ interface ++ "',member='" ++ member ++ "',sender='" ++ sender ++
    "'"

def matchRules : List String :=
  [signalRule dbusObjectManagerInterface "InterfacesAdded" bluezServiceName,
    signalRule dbusObjectManagerInterface "InterfacesRemoved" bluezServiceName,
    signalRule dbusPropertiesInterface "PropertiesChanged" bluezServiceName,
    "type='method_call',interface='" ++ bluezAgentInterface ++ "',path='" ++
      hardwareMgrAgentObjectPath ++ "'",
    signalRule ofonoManagerInterface "ModemAdded" ofonoServiceName,
    signalRule ofonoManagerInterface "ModemRemoved" ofonoServiceName,
    signalRule ofonoModemInterface "PropertyChanged" ofonoServiceName,
    signalRule ofonoVoiceCallManagerInterface "CallAdded" ofonoServiceName,
    signalRule ofonoVoiceCallManagerInterface "CallRemoved" ofonoServiceName,
    signalRule ofonoVoiceCallInterface "PropertyChanged" ofonoServiceName,
    signalRule dbusPropertiesInterface "PropertiesChanged" ofonoServiceName]

def addMatchRule (addMatch : String → Option String) (rule : String) : Except String Unit :=
  match addMatch rule with
  | some _ => throw "Failed to add BlueZ D-Bus match rule"
  | none => return ()

def getManagedObjects (answers : BusAnswers) : Except String (Option (List BluezObject)) :=
  match answers.getManagedObjects with
  | .notCreated => throw "Failed to create D-Bus message for GetManagedObjects"
  | .error message => throw ("Error calling GetManagedObjects: " ++ message)
  | .noReply => throw "No reply received for GetManagedObjects"
  | .noArguments => throw "Reply for GetManagedObjects is not in the expected format."
  | .reply objects => return objects

/-- The rules are added only once; an exception of `addMatchRule` is thrown in another form. -/
def subscribe (bluezDBus : BluezDBus) (addMatch : String → Option String) :
    Except String BluezDBus := do
  if bluezDBus.isInitialized then return bluezDBus
  (forM matchRules (addMatchRule addMatch)).mapError
    fun what => "Failed to add D-Bus match rules: " ++ what
  return { bluezDBus with isInitialized := true }

def initializeAdapter (bluezDBus : BluezDBus) (answers : BusAnswers) :
    Except String AdapterSearch := do
  let objects ← getManagedObjects answers
  let search ← bluezDBus.parseManagedObjectsReply answers.sender objects
  if search.adapterFound then
    let bluezDBus ← search.bluezDBus.subscribe answers.addMatch
    return { search with bluezDBus }
  else throw "BlueZ adapter (org.bluez.Adapter1) not found."

end BluezDBus

def BluezInterface.IsAnnounced (interface : BluezInterface) : Prop :=
  interface.name = some BluezDBus.bluezDeviceInterface ∨
    interface.name = some BluezDBus.bluezAdapterInterface ∧
      ∃ value, ("Powered", .boolean value) ∈ interface.properties ∨
        ("Discovering", .boolean value) ∈ interface.properties

/-- The interfaces of an object whose entry is well-formed. -/
def BluezObject.readable (object : BluezObject) : List BluezInterface :=
  if object.path.isSome then object.interfaces.getD [] else []

/--
GetManagedObjects is answered with an adapter, and the bus accepts the match rules that are
still missing.
-/
structure BluezDBus.Initializes (bluezDBus : BluezDBus) (answers : BusAnswers) : Prop where
  adapter : ∃ objects, answers.getManagedObjects = .reply (some objects) ∧
    ∃ object ∈ objects, ∃ interface ∈ object.readable,
      interface.name = some bluezAdapterInterface
  rules : bluezDBus.isInitialized = true ∨ ∀ rule ∈ matchRules, answers.addMatch rule = none

def BusAnswers.Announces (answers : BusAnswers) : Prop :=
  ∃ objects, answers.getManagedObjects = .reply (some objects) ∧
    ∃ object ∈ objects, ∃ interface ∈ object.readable, interface.IsAnnounced

namespace BluezDBus

section Properties

variable {properties : BluezProperties} {key : String} {field : DBusDataType}

/-- The fields of the adapter and the keys they are read from. -/
def adapterFields : List (String × DBusDataType) :=
  [("Powered", .btAdapterPowered), ("Discovering", .btAdapterDiscovering),
    ("Discoverable", .btAdapterDiscoverable)]

theorem trueOrFalse_ne_empty (value : Bool) : trueOrFalse value ≠ "" := by
  cases value <;> decide

theorem get_readAdapterProperty_eq_empty_iff (known : (key, field) ∈ adapterFields)
    (info : DBusDataInfo) (entry : String × BluezVariant) :
    (readAdapterProperty info entry).get field = "" ↔
      info.get field = "" ∧ ∀ value, entry ≠ (key, .boolean value) := by
  simp only [adapterFields, List.mem_cons, List.not_mem_nil, or_false, Prod.mk.injEq] at known
  unfold readAdapterProperty
  rcases known with ⟨rfl, rfl⟩ | ⟨rfl, rfl⟩ | ⟨rfl, rfl⟩ <;> split <;>
    simp_all [DBusDataInfo.get_set_of_ne, trueOrFalse_ne_empty]

theorem get_foldl_readAdapterProperty_eq_empty_iff (known : (key, field) ∈ adapterFields)
    (info : DBusDataInfo) :
    (properties.foldl readAdapterProperty info).get field = "" ↔
      info.get field = "" ∧ ∀ value, (key, .boolean value) ∉ properties := by
  induction properties generalizing info with
  | nil => simp
  | cons entry properties ih =>
      rw [List.foldl_cons, ih, get_readAdapterProperty_eq_empty_iff known, and_assoc,
        ← forall_and]
      simp only [List.mem_cons, not_or, ne_comm (a := entry)]

/-- A field of the adapter is known if the dictionary has a boolean for it. -/
theorem get_parseAdapterProperties_ne_empty_iff (known : (key, field) ∈ adapterFields) :
    (parseAdapterProperties properties).get field ≠ "" ↔
      ∃ value, (key, .boolean value) ∈ properties := by
  have initially : ∀ entry ∈ adapterFields, DBusDataInfo.init.get entry.2 = "" := by
    decide +kernel
  rw [parseAdapterProperties, ne_eq, get_foldl_readAdapterProperty_eq_empty_iff known]
  simp only [initially _ known, true_and, not_forall, not_not]

theorem initialState_ne_nil_iff (known : (key, field) ∈ adapterFields) (what : String)
    (onNoti offNoti : DBusCommand) :
    initialState (parseAdapterProperties properties) field what onNoti offNoti ≠ [] ↔
      ∃ value, (key, .boolean value) ∈ properties := by
  rw [← get_parseAdapterProperties_ne_empty_iff known]
  unfold initialState
  split
  · next unknown => simp [unknown]
  · next isKnown => simp [isKnown]

theorem adapterNotis_ne_nil_iff :
    adapterNotis (parseAdapterProperties properties) ≠ [] ↔
      ∃ value, ("Powered", .boolean value) ∈ properties ∨
        ("Discovering", .boolean value) ∈ properties := by
  have powered : ("Powered", DBusDataType.btAdapterPowered) ∈ adapterFields := by
    simp [adapterFields]
  have discovering : ("Discovering", DBusDataType.btAdapterDiscovering) ∈ adapterFields := by
    simp [adapterFields]
  rw [adapterNotis, ne_eq, List.append_eq_nil_iff, not_and_or, exists_or]
  exact or_congr (initialState_ne_nil_iff powered _ _ _) (initialState_ne_nil_iff discovering _ _ _)

/-- An adapter with both properties is reported as in the protocol of the adapter. -/
theorem adapterNotis_eq (adapter : Adapter) (properties : DBusDataInfo)
    (powered : properties.get .btAdapterPowered = trueOrFalse (adapter .powered))
    (discovering : properties.get .btAdapterDiscovering = trueOrFalse (adapter .discovering)) :
    (adapterNotis properties).map (fun noti =>
        (noti.cmd, noti.isSuccess, noti.info.get .message)) =
      (parseManagedObjects adapter).map fun noti =>
        (noti.command.notiCommand, noti.isSuccess, noti.message) := by
  cases isPowered : adapter .powered <;> cases isDiscovering : adapter .discovering <;>
    simp [adapterNotis, initialState, parseManagedObjects, powered, discovering, isPowered,
      isDiscovering, trueOrFalse, AdapterCommand.asking, AdapterCommand.notiCommand, onOff]

end Properties

section Search

variable {sender : SenderConnection} {path : String} {search found : AdapterSearch}
  {interface : BluezInterface} {object : BluezObject} {objects : Option (List BluezObject)}
  {bluezDBus : BluezDBus} {answers : BusAnswers}

theorem bluezDeviceInterface_ne : bluezDeviceInterface ≠ bluezAdapterInterface := by
  decide

theorem returns_parseInterface_iff (path : String) (search : AdapterSearch)
    (interface : BluezInterface) :
    Returns (parseInterface sender path search interface) ↔
      (interface.IsAnnounced → sender = .connected) := by
  unfold parseInterface
  split
  · next isAdapter =>
      rw [returns_bind_iff_first fun _ => returns_pure _, HardwareSender.returns_notify_iff,
        adapterNotis_ne_nil_iff]
      simp [BluezInterface.IsAnnounced, isAdapter, Ne.symm bluezDeviceInterface_ne]
  · next notAdapter =>
      split
      · next isDevice =>
          rw [returns_bind_iff_first fun _ => returns_pure _, HardwareSender.returns_notify_iff]
          simp [BluezInterface.IsAnnounced, isDevice]
      · next notDevice => simp [BluezInterface.IsAnnounced, notAdapter, notDevice]

theorem parseObject_eq :
    parseObject sender search object =
      object.readable.foldlM (parseInterface sender (object.path.getD "")) search := by
  rcases object with ⟨path, interfaces⟩
  cases path <;> cases interfaces <;> rfl

theorem returns_parseObject_iff (search : AdapterSearch) (object : BluezObject) :
    Returns (parseObject sender search object) ↔
      ∀ interface ∈ object.readable, interface.IsAnnounced → sender = .connected := by
  rw [parseObject_eq, returns_foldlM_iff_forall (returns_parseInterface_iff _)]

/-- A round finds an adapter and keeps its path, or leaves what has been found. -/
theorem parseInterface_cases
    (returned : parseInterface sender path search interface = .ok found) :
    (interface.name = some bluezAdapterInterface ∧ found.adapterFound = true ∧
        found.bluezDBus = { search.bluezDBus with adapterPath := path }) ∨
      (interface.name ≠ some bluezAdapterInterface ∧ found.adapterFound = search.adapterFound ∧
        found.bluezDBus = search.bluezDBus) := by
  unfold parseInterface at returned
  split at returned
  · next isAdapter =>
      rcases bind_eq_ok_iff.mp returned with ⟨sent, -, ⟨⟩⟩
      exact Or.inl ⟨isAdapter, rfl, rfl⟩
  · next notAdapter =>
      split at returned
      · rcases bind_eq_ok_iff.mp returned with ⟨sent, -, ⟨⟩⟩
        exact Or.inr ⟨notAdapter, rfl, rfl⟩
      · cases returned
        exact Or.inr ⟨notAdapter, rfl, rfl⟩

theorem adapterFound_parseInterface
    (returned : parseInterface sender path search interface = .ok found) :
    found.adapterFound = true ↔
      search.adapterFound = true ∨ interface.name = some bluezAdapterInterface := by
  rcases parseInterface_cases returned with ⟨isAdapter, isFound, -⟩ | ⟨notAdapter, kept, -⟩
  · simp [isAdapter, isFound]
  · simp [notAdapter, kept]

theorem isInitialized_parseInterface
    (returned : parseInterface sender path search interface = .ok found) :
    found.bluezDBus.isInitialized = search.bluezDBus.isInitialized := by
  rcases parseInterface_cases returned with ⟨-, -, kept⟩ | ⟨-, -, kept⟩
  · rw [kept]
  · rw [kept]

theorem adapterFound_parseObject (returned : parseObject sender search object = .ok found) :
    found.adapterFound = true ↔
      search.adapterFound = true ∨
        ∃ interface ∈ object.readable, interface.name = some bluezAdapterInterface := by
  rw [parseObject_eq] at returned
  apply marked_foldlM_iff _ returned
  intro search interface found returned
  exact adapterFound_parseInterface returned

theorem isInitialized_parseObject (returned : parseObject sender search object = .ok found) :
    found.bluezDBus.isInitialized = true ↔
      search.bluezDBus.isInitialized = true ∨ ∃ interface ∈ object.readable, False := by
  rw [parseObject_eq] at returned
  apply marked_foldlM_iff _ returned
  intro search interface found returned
  rw [isInitialized_parseInterface returned, or_false]

theorem returns_parseManagedObjectsReply_iff :
    Returns (bluezDBus.parseManagedObjectsReply sender objects) ↔
      ∀ object ∈ objects.getD [], ∀ interface ∈ object.readable,
        interface.IsAnnounced → sender = .connected := by
  cases objects with
  | none => simp [parseManagedObjectsReply]
  | some objects => exact returns_foldlM_iff_forall returns_parseObject_iff

/-- The search finds an adapter if there is one, and leaves the subscription to others. -/
theorem found_parseManagedObjectsReply
    (returned : bluezDBus.parseManagedObjectsReply sender objects = .ok found) :
    (found.adapterFound = true ↔ ∃ object ∈ objects.getD [], ∃ interface ∈ object.readable,
      interface.name = some bluezAdapterInterface) ∧
    (found.bluezDBus.isInitialized = true ↔ bluezDBus.isInitialized = true) := by
  cases objects with
  | none =>
      cases returned
      simp
  | some objects =>
      constructor
      · simpa using marked_foldlM_iff
          (fun search object found returned => adapterFound_parseObject returned) returned
      · simpa using marked_foldlM_iff
          (fun search object found returned => isInitialized_parseObject returned) returned

theorem returns_addMatchRule_iff (addMatch : String → Option String) (rule : String) :
    Returns (addMatchRule addMatch rule) ↔ addMatch rule = none := by
  unfold addMatchRule
  split
  · next refused => simp [refused]
  · next accepted => simp [accepted]

theorem returns_subscribe_iff (bluezDBus : BluezDBus) (addMatch : String → Option String) :
    Returns (bluezDBus.subscribe addMatch) ↔
      bluezDBus.isInitialized = true ∨ ∀ rule ∈ matchRules, addMatch rule = none := by
  unfold subscribe
  cases initialized : bluezDBus.isInitialized with
  | true => simp
  | false =>
      simp only [Bool.false_eq_true, if_false, false_or]
      rw [returns_bind_iff_first fun _ => returns_pure _, returns_mapError_iff, returns_forM_iff]
      simp only [returns_addMatchRule_iff]

theorem returns_initializeAdapter_of_reply (replied : answers.getManagedObjects = .reply objects) :
    Returns (bluezDBus.initializeAdapter answers) ↔
      Returns (bluezDBus.parseManagedObjectsReply answers.sender objects) ∧
        (∃ object ∈ objects.getD [], ∃ interface ∈ object.readable,
          interface.name = some bluezAdapterInterface) ∧
        (bluezDBus.isInitialized = true ∨ ∀ rule ∈ matchRules, answers.addMatch rule = none) := by
  have asked : getManagedObjects answers = .ok objects := by
    rw [getManagedObjects, replied]
    rfl
  rw [initializeAdapter, asked, ok_bind]
  apply returns_bind_iff_and
  intro search returned
  rcases found_parseManagedObjectsReply returned with ⟨found, initialized⟩
  rw [← found, ← initialized, ← returns_subscribe_iff]
  cases search.adapterFound with
  | false => simp
  | true =>
      simp only [if_true, true_and]
      exact returns_bind_iff_first fun _ => returns_pure _

theorem not_returns_initializeAdapter
    (unanswered : ∀ objects, answers.getManagedObjects ≠ .reply objects) :
    ¬ Returns (bluezDBus.initializeAdapter answers) := by
  have thrown : ¬ Returns (getManagedObjects answers) := by
    unfold getManagedObjects
    split
    case h_5 objects replied => exact absurd replied (unanswered objects)
    all_goals exact not_returns_throw _
  intro returned
  rcases returns_bind_iff.mp returned with ⟨objects, asked, -⟩
  exact thrown ⟨objects, asked⟩

theorem returns_initializeAdapter_iff :
    Returns (bluezDBus.initializeAdapter answers) ↔
      bluezDBus.Initializes answers ∧ (answers.Announces → answers.sender = .connected) := by
  by_cases answered : ∃ objects, answers.getManagedObjects = .reply objects
  · rcases answered with ⟨objects, replied⟩
    rw [returns_initializeAdapter_of_reply replied, returns_parseManagedObjectsReply_iff]
    constructor
    · rintro ⟨connected, ⟨object, member, found⟩, rules⟩
      cases objects with
      | none => simp at member
      | some objects =>
          refine ⟨⟨⟨objects, replied, object, member, found⟩, rules⟩, ?_⟩
          rintro ⟨others, alsoReplied, object, member, interface, readable, announced⟩
          cases replied.symm.trans alsoReplied
          exact connected object member interface readable announced
    · rintro ⟨⟨⟨others, alsoReplied, found⟩, rules⟩, connected⟩
      cases replied.symm.trans alsoReplied
      refine ⟨?_, found, rules⟩
      intro object member interface readable announced
      exact connected ⟨others, replied, object, member, interface, readable, announced⟩
  · refine iff_of_false (not_returns_initializeAdapter (not_exists.mp answered)) ?_
    rintro ⟨⟨⟨objects, replied, -⟩, -⟩, -⟩
    exact answered ⟨some objects, replied⟩

end Search

end BluezDBus

end RaspberryPiService
