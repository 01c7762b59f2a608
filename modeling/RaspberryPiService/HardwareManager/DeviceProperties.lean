import Mathlib.Data.List.Nodup
import RaspberryPiService.Common.NotificationCodec

/-!
# The properties of a device

BlueZ describes a device by a dictionary, whose entries come in any order.
`parseDeviceProperties` goes through them and writes the fields of a `DBusDataInfo`. Each
entry writes a field of its own, except that `Name` and `Alias` share one: the alias is
taken only where the name is still empty.
-/

namespace RaspberryPiService

/-- The value of a property of BlueZ. -/
inductive BluezVariant where
  | string (value : String)
  | boolean (value : Bool)
  | int16 (value : Int16)
  | other
deriving DecidableEq

/-- A dictionary `a{sv}`. -/
abbrev BluezProperties : Type := List (String × BluezVariant)

namespace BluezDBus

def trueOrFalse (value : Bool) : String :=
  if value then "true" else "false"

/-- One round of the loop of `parseDeviceProperties`. -/
def readDeviceProperty (info : DBusDataInfo) : String × BluezVariant → DBusDataInfo
  | ("Address", .string value) => info.set .btDeviceAddress value
  | ("Name", .string value) => info.set .btDeviceName value
  | ("RSSI", .int16 value) => info.set .btDeviceRssi (toString value.toInt)
  | ("Paired", .boolean value) => info.set .btDevicePaired (trueOrFalse value)
  | ("Connected", .boolean value) => info.set .btDeviceConnected (trueOrFalse value)
  | ("Trusted", .boolean value) => info.set .btDeviceTrusted (trueOrFalse value)
  | ("Alias", .string value) =>
      if info.get .btDeviceName = "" then info.set .btDeviceName value else info
  | ("Icon", .string value) => info.set .btDeviceIcon value
  | _ => info

def parseDeviceProperties (properties : BluezProperties) : DBusDataInfo :=
  properties.foldl readDeviceProperty .init

end BluezDBus

/-- The field that an entry of a known key and the right type is for, and its text. -/
def deviceField? : String × BluezVariant → Option (DBusDataType × String)
  | ("Address", .string value) => some (.btDeviceAddress, value)
  | ("Name", .string value) => some (.btDeviceName, value)
  | ("RSSI", .int16 value) => some (.btDeviceRssi, toString value.toInt)
  | ("Paired", .boolean value) => some (.btDevicePaired, BluezDBus.trueOrFalse value)
  | ("Connected", .boolean value) => some (.btDeviceConnected, BluezDBus.trueOrFalse value)
  | ("Trusted", .boolean value) => some (.btDeviceTrusted, BluezDBus.trueOrFalse value)
  | ("Alias", .string value) => some (.btDeviceName, value)
  | ("Icon", .string value) => some (.btDeviceIcon, value)
  | _ => none

/--
The order of the entries does not matter: the name is the `Name`, or else the `Alias`, and
a field has its default unless an entry is for it.
-/
structure OrderIrrelevant (properties : BluezProperties) : Prop where
  same : ∀ other, other.Perm properties →
    BluezDBus.parseDeviceProperties other = BluezDBus.parseDeviceProperties properties
  name_first : ∀ name, ("Name", .string name) ∈ properties →
    (BluezDBus.parseDeviceProperties properties).get .btDeviceName = name
  alias_otherwise : (∀ name, ("Name", .string name) ∉ properties) →
    ∀ name, ("Alias", .string name) ∈ properties →
      (BluezDBus.parseDeviceProperties properties).get .btDeviceName = name
  default : ∀ type, (∀ entry ∈ properties, ∀ text, deviceField? entry ≠ some (type, text)) →
    (BluezDBus.parseDeviceProperties properties).get type = DBusDataInfo.init.get type

/-- The dictionary has an empty `Name` and an `Alias` that is not. -/
def NamedByEmptyText (properties : BluezProperties) : Prop :=
  ("Name", .string "") ∈ properties ∧ ∃ name ≠ "", ("Alias", .string name) ∈ properties

/-- What an entry makes of the text of a field. -/
def readDeviceText (type : DBusDataType) (text : String) (entry : String × BluezVariant) :
    String :=
  match deviceField? entry with
  | some (field, value) =>
      if field ≠ type then text
      else if entry.1 = "Alias" ∧ text ≠ "" then text
      else value
  | none => text

section Fields

variable {type : DBusDataType} {text : String} {entry other : String × BluezVariant}
  {properties : BluezProperties}

theorem get_readDeviceProperty (info : DBusDataInfo) (entry : String × BluezVariant)
    (type : DBusDataType) :
    (BluezDBus.readDeviceProperty info entry).get type =
      readDeviceText type (info.get type) entry := by
  have written : ∀ (field : DBusDataType) (value : String),
      (info.set field value).get type = if field ≠ type then info.get type else value := by
    intro field value
    by_cases same : field = type
    · simp [same]
    · rw [DBusDataInfo.get_set_of_ne info value (Ne.symm same), if_pos same]
  unfold BluezDBus.readDeviceProperty
  split
  case h_7 value =>
    by_cases empty : info.get .btDeviceName = ""
    · rw [if_pos empty, written]
      by_cases same : type = .btDeviceName
      · simp [readDeviceText, deviceField?, same, empty]
      · simp [readDeviceText, deviceField?, Ne.symm same]
    · rw [if_neg empty]
      by_cases same : type = .btDeviceName
      · simp [readDeviceText, deviceField?, same, empty]
      · simp [readDeviceText, deviceField?, Ne.symm same]
  all_goals simp_all [readDeviceText, deviceField?]

theorem get_foldl_readDeviceProperty (info : DBusDataInfo) (properties : BluezProperties)
    (type : DBusDataType) :
    (properties.foldl BluezDBus.readDeviceProperty info).get type =
      properties.foldl (readDeviceText type) (info.get type) := by
  induction properties generalizing info with
  | nil => rfl
  | cons entry properties ih =>
      rw [List.foldl_cons, List.foldl_cons, ih, get_readDeviceProperty]

theorem get_parseDeviceProperties (properties : BluezProperties) (type : DBusDataType) :
    (BluezDBus.parseDeviceProperties properties).get type =
      properties.foldl (readDeviceText type) (DBusDataInfo.init.get type) :=
  get_foldl_readDeviceProperty _ properties type

/-- Entries that keep a text keep it together. -/
theorem foldl_readDeviceText_of_kept
    (kept : ∀ entry ∈ properties, readDeviceText type text entry = text) :
    properties.foldl (readDeviceText type) text = text := by
  induction properties with
  | nil => rfl
  | cons entry properties ih =>
      rw [List.foldl_cons, kept entry List.mem_cons_self]
      apply ih
      intro other member
      exact kept other (List.mem_cons_of_mem entry member)

theorem readDeviceText_of_not_written
    (notWritten : ∀ value, deviceField? entry ≠ some (type, value)) :
    readDeviceText type text entry = text := by
  unfold readDeviceText
  split
  · next field value found =>
      apply if_pos
      rintro rfl
      exact notWritten value found
  · rfl

theorem readDeviceText_name (text name : String) :
    readDeviceText .btDeviceName text ("Name", .string name) = name := by
  simp [readDeviceText, deviceField?]

theorem readDeviceText_alias (text name : String) :
    readDeviceText .btDeviceName text ("Alias", .string name) =
      if text = "" then name else text := by
  by_cases empty : text = ""
  · simp [readDeviceText, deviceField?, empty]
  · simp [readDeviceText, deviceField?, empty]

/-- The key under which a field other than the name is found. -/
def devicePropertyKey : DBusDataType → String
  | .btDeviceAddress => "Address"
  | .btDeviceRssi => "RSSI"
  | .btDevicePaired => "Paired"
  | .btDeviceConnected => "Connected"
  | .btDeviceTrusted => "Trusted"
  | .btDeviceIcon => "Icon"
  | _ => ""

theorem key_of_deviceField? {value : String} (found : deviceField? entry = some (type, value)) :
    type ≠ .btDeviceName ∧ entry.1 = devicePropertyKey type ∨
      type = .btDeviceName ∧
        (entry = ("Name", .string value) ∨ entry = ("Alias", .string value)) := by
  unfold deviceField? at found
  split at found <;> cases found <;> simp [devicePropertyKey]

/-- The name and the alias commute where one of them decides alone. -/
theorem readDeviceText_name_alias {name aliasName : String} (named : name = "" → aliasName = "")
    (text : String) :
    readDeviceText .btDeviceName (readDeviceText .btDeviceName text ("Name", .string name))
        ("Alias", .string aliasName) =
      readDeviceText .btDeviceName
        (readDeviceText .btDeviceName text ("Alias", .string aliasName))
        ("Name", .string name) := by
  rw [readDeviceText_name, readDeviceText_name, readDeviceText_alias]
  split
  · next empty => rw [empty, named empty]
  · rfl

/-- Two entries commute, unless one of them is an empty name and the other an alias. -/
theorem readDeviceText_comm (distinct : entry.1 ≠ other.1)
    (entryNamed : ∀ name, entry = ("Name", .string "") → other = ("Alias", .string name) →
      name = "")
    (otherNamed : ∀ name, other = ("Name", .string "") → entry = ("Alias", .string name) →
      name = "") (type : DBusDataType) (text : String) :
    readDeviceText type (readDeviceText type text entry) other =
      readDeviceText type (readDeviceText type text other) entry := by
  by_cases writes : ∃ value, deviceField? entry = some (type, value)
  · by_cases otherWrites : ∃ value, deviceField? other = some (type, value)
    · rcases writes with ⟨value, writes⟩
      rcases otherWrites with ⟨otherValue, otherWrites⟩
      -- Both write the field only if it is the name.
      rcases key_of_deviceField? writes with ⟨notName, key⟩ | ⟨rfl, isName | isAlias⟩
      · rcases key_of_deviceField? otherWrites with ⟨-, otherKey⟩ | ⟨isName, -⟩
        · exact absurd (key.trans otherKey.symm) distinct
        · exact absurd isName notName
      · rcases key_of_deviceField? otherWrites with ⟨notName, -⟩ | ⟨-, otherIsName | otherIsAlias⟩
        · exact absurd rfl notName
        · exact absurd (by rw [isName, otherIsName]) distinct
        · subst isName otherIsAlias
          apply readDeviceText_name_alias
          rintro rfl
          exact entryNamed otherValue rfl rfl
      · rcases key_of_deviceField? otherWrites with ⟨notName, -⟩ | ⟨-, otherIsName | otherIsAlias⟩
        · exact absurd rfl notName
        · subst isAlias otherIsName
          symm
          apply readDeviceText_name_alias
          rintro rfl
          exact otherNamed value rfl rfl
        · exact absurd (by rw [isAlias, otherIsAlias]) distinct
    · have kept : ∀ text, readDeviceText type text other = text := by
        intro text
        apply readDeviceText_of_not_written
        intro value found
        exact otherWrites ⟨value, found⟩
      rw [kept, kept]
  · have kept : ∀ text, readDeviceText type text entry = text := by
      intro text
      apply readDeviceText_of_not_written
      intro value found
      exact writes ⟨value, found⟩
    rw [kept, kept]

end Fields

section Order

variable {properties other : BluezProperties}

/-- Without an empty name next to an alias, any order gives the same fields. -/
theorem parseDeviceProperties_perm (distinct : (properties.map Prod.fst).Nodup)
    (named : ¬ NamedByEmptyText properties) (perm : other.Perm properties) :
    BluezDBus.parseDeviceProperties other = BluezDBus.parseDeviceProperties properties := by
  have sameKey : ∀ first ∈ properties, ∀ second ∈ properties, first.1 = second.1 →
      first = second := by
    intro first member second otherMember
    exact List.inj_on_of_nodup_map distinct member otherMember
  have emptyAlias : ∀ name, ("Name", .string "") ∈ properties →
      ("Alias", .string name) ∈ properties → name = "" := by
    intro name isNamed isAlias
    by_contra nonempty
    exact named ⟨isNamed, name, nonempty, isAlias⟩
  apply DBusDataInfo.eq_of_get
  intro type
  rw [get_parseDeviceProperties, get_parseDeviceProperties]
  symm
  apply perm.symm.foldl_eq'
  intro first member second otherMember text
  by_cases same : first = second
  · rw [same]
  · apply readDeviceText_comm
    · intro keys
      exact same (sameKey first member second otherMember keys)
    · rintro name rfl rfl
      exact emptyAlias name member otherMember
    · rintro name rfl rfl
      exact emptyAlias name otherMember member

/-- With one entry in front, no other entry changes the field any more. -/
theorem get_parseDeviceProperties_of_first (distinct : (properties.map Prod.fst).Nodup)
    (named : ¬ NamedByEmptyText properties) {type : DBusDataType}
    {entry : String × BluezVariant} {text : String} (member : entry ∈ properties)
    (written : readDeviceText type (DBusDataInfo.init.get type) entry = text)
    (kept : ∀ other ∈ properties, other.1 ≠ entry.1 → readDeviceText type text other = text) :
    (BluezDBus.parseDeviceProperties properties).get type = text := by
  have front : properties.Perm (entry :: properties.erase entry) := List.perm_cons_erase member
  have keys : ((entry :: properties.erase entry).map Prod.fst).Nodup :=
    (front.map Prod.fst).nodup_iff.mp distinct
  rw [List.map_cons, List.nodup_cons] at keys
  rw [← parseDeviceProperties_perm distinct named front.symm, get_parseDeviceProperties,
    List.foldl_cons, written]
  apply foldl_readDeviceText_of_kept
  intro other later
  apply kept other (List.mem_of_mem_erase later)
  intro sameKey
  exact keys.1 (sameKey ▸ List.mem_map_of_mem later)

theorem orderIrrelevant_of_named (distinct : (properties.map Prod.fst).Nodup)
    (named : ¬ NamedByEmptyText properties) : OrderIrrelevant properties where
  same other perm := parseDeviceProperties_perm distinct named perm
  name_first name member := by
    apply get_parseDeviceProperties_of_first distinct named member
    · exact readDeviceText_name _ name
    · intro other otherMember differs
      by_cases writes : ∃ value, deviceField? other = some (.btDeviceName, value)
      · rcases writes with ⟨value, writes⟩
        rcases key_of_deviceField? writes with ⟨notName, -⟩ | ⟨-, rfl | rfl⟩
        · exact absurd rfl notName
        · exact absurd rfl differs
        · rw [readDeviceText_alias]
          split
          · next empty =>
              subst empty
              by_contra nonempty
              exact named ⟨member, value, nonempty, otherMember⟩
          · rfl
      · apply readDeviceText_of_not_written
        intro value found
        exact writes ⟨value, found⟩
  alias_otherwise unnamed name member := by
    have empty : DBusDataInfo.init.get .btDeviceName = "" := by decide +kernel
    apply get_parseDeviceProperties_of_first distinct named member
    · rw [empty, readDeviceText_alias, if_pos rfl]
    · intro other otherMember differs
      apply readDeviceText_of_not_written
      intro value found
      rcases key_of_deviceField? found with ⟨notName, -⟩ | ⟨-, rfl | rfl⟩
      · exact notName rfl
      · exact unnamed value otherMember
      · exact differs rfl
  default type absent := by
    rw [get_parseDeviceProperties]
    apply foldl_readDeviceText_of_kept
    intro entry member
    exact readDeviceText_of_not_written (absent entry member)

/-- With both an empty name and an alias, it is decided by the order which of them is kept. -/
theorem not_orderIrrelevant_of_named (distinct : (properties.map Prod.fst).Nodup)
    (named : NamedByEmptyText properties) : ¬ OrderIrrelevant properties := by
  rintro ⟨same, nameFirst, -, -⟩
  rcases named with ⟨member, name, nonempty, aliasMember⟩
  have aliasLater : ("Alias", .string name) ∈ properties.erase ("Name", .string "") :=
    (List.mem_erase_of_ne (by simp)).mpr aliasMember
  let rest := (properties.erase ("Name", .string "")).erase ("Alias", .string name)
  have front : properties.Perm (("Name", .string "") :: ("Alias", .string name) :: rest) :=
    (List.perm_cons_erase member).trans ((List.perm_cons_erase aliasLater).cons _)
  have keys := (front.map Prod.fst).nodup_iff.mp distinct
  simp only [List.map_cons, List.nodup_cons, List.mem_cons, not_or] at keys
  have kept : rest.foldl (readDeviceText .btDeviceName) name = name := by
    apply foldl_readDeviceText_of_kept
    intro entry later
    apply readDeviceText_of_not_written
    intro value found
    rcases key_of_deviceField? found with ⟨notName, -⟩ | ⟨-, rfl | rfl⟩
    · exact notName rfl
    · exact keys.1.2 (List.mem_map_of_mem later)
    · exact keys.2.1 (List.mem_map_of_mem later)
  have reordered := same _ front.symm
  have texts := congrArg (fun info => info.get .btDeviceName) reordered
  simp only [nameFirst "" member, get_parseDeviceProperties, List.foldl_cons, readDeviceText_name,
    readDeviceText_alias, if_true, kept] at texts
  exact nonempty texts

/-- The order matters exactly for a device with an empty name and an alias. -/
theorem orderIrrelevant_iff (distinct : (properties.map Prod.fst).Nodup) :
    OrderIrrelevant properties ↔ ¬ NamedByEmptyText properties := by
  constructor
  · intro irrelevant named
    exact not_orderIrrelevant_of_named distinct named irrelevant
  · exact orderIrrelevant_of_named distinct

/-- A phone whose name is empty, and which has been given an alias. -/
def namelessPhone : BluezProperties :=
  [("Name", .string ""), ("Alias", .string "Phone"), ("Paired", .boolean true)]

theorem not_orderIrrelevant_namelessPhone :
    (namelessPhone.map Prod.fst).Nodup ∧ ¬ OrderIrrelevant namelessPhone := by
  refine ⟨by decide, ?_⟩
  rintro ⟨-, nameFirst, -, -⟩
  exact absurd (nameFirst "" (by decide)) (by decide +kernel)

/-- A phone that has been given an alias besides its name. -/
def namedPhone : BluezProperties :=
  [("Name", .string "Nokia 3310"), ("Alias", .string "Phone"), ("Paired", .boolean true)]

theorem orderIrrelevant_namedPhone :
    (namedPhone.map Prod.fst).Nodup ∧ OrderIrrelevant namedPhone := by
  have distinct : (namedPhone.map Prod.fst).Nodup := by decide
  have named : ¬ NamedByEmptyText namedPhone := by
    rintro ⟨empty, -⟩
    exact absurd empty (by decide)
  exact ⟨distinct, (orderIrrelevant_iff distinct).mpr named⟩

end Order

end RaspberryPiService
