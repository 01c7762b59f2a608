import Mathlib.Data.List.TakeWhile

/-!
# D-Bus messages

A message carries arguments, each of them a value of a D-Bus type, and its signature lists
the codes of their types. The values are typed, so a message holds what its signature says:
the codes of two types never begin alike, and the arguments can be read off the signature.

A string on the bus holds no NUL. What a program appends is a C string, which ends at the
first one. Strings are Lean's, hence valid UTF-8, which libdbus insists on.
-/

/-- A text that reaches its end as a C string. -/
def NulFree (text : String) : Prop :=
  '\x00' ∉ text.toList

instance (text : String) : Decidable (NulFree text) :=
  inferInstanceAs (Decidable (¬_ ∈ _))

theorem NulFree.append {text message : String} (first : NulFree text) (second : NulFree message) :
    NulFree (text ++ message) := by
  rw [NulFree, String.toList_append, List.mem_append, not_or]
  exact ⟨first, second⟩

/-- The value of `DBUS_TYPE_STRING`. -/
structure DBusString where
  text : String
  nulFree : NulFree text
deriving DecidableEq

/-- What is left of a text after `c_str`. -/
def DBusString.cStr (text : String) : DBusString where
  text := String.ofList (text.toList.takeWhile (· ≠ '\x00'))
  nulFree := by
    intro present
    have differs := List.mem_takeWhile_imp (String.toList_ofList ▸ present)
    simp at differs

theorem DBusString.text_cStr {text : String} (nulFree : NulFree text) :
    (cStr text).text = text := by
  have kept : text.toList.takeWhile (· ≠ '\x00') = text.toList := by
    apply List.takeWhile_eq_self_iff.mpr
    intro character present
    have differs : character ≠ '\x00' := by
      rintro rfl
      exact nulFree present
    simpa using differs
  simp only [cStr, kept, String.ofList_toList]

inductive DBusType where
  | byte
  | boolean
  | int16
  | uint16
  | int32
  | uint32
  | int64
  | uint64
  | double
  | string
  | objectPath
  | signature
  | unixFd
  | variant
  | array (element : DBusType)
  | struct (fields : String)
  | dictEntry (entry : String)
deriving DecidableEq

namespace DBusType

def code : DBusType → List Char
  | .byte => ['y']
  | .boolean => ['b']
  | .int16 => ['n']
  | .uint16 => ['q']
  | .int32 => ['i']
  | .uint32 => ['u']
  | .int64 => ['x']
  | .uint64 => ['t']
  | .double => ['d']
  | .string => ['s']
  | .objectPath => ['o']
  | .signature => ['g']
  | .unixFd => ['h']
  | .variant => ['v']
  | .array element => 'a' :: element.code
  | .struct fields => '(' :: (fields.toList ++ [')'])
  | .dictEntry entry => '\x7b' :: (entry.toList ++ ['\x7d'])

/-- The values of the types that the services read; the others are never looked into. -/
abbrev Value : DBusType → Type
  | .boolean => Bool
  | .int32 => Int32
  | .string => DBusString
  | .array element => List element.Value
  | _ => Unit

/-- Neither a structure nor a dictionary, nor an array of them. -/
def isPlain : DBusType → Bool
  | .array element => element.isPlain
  | .struct _ | .dictEntry _ => false
  | _ => true

theorem code_ne_nil (type : DBusType) : type.code ≠ [] := by
  cases type <;> simp [code]

theorem eq_of_code_append {type other : DBusType} {rest later : List Char}
    (isPlain : type.isPlain) (same : type.code ++ rest = other.code ++ later) :
    other = type ∧ later = rest := by
  induction type generalizing other with
  | array element ih =>
      cases other <;> simp [code] at same
      obtain ⟨rfl, sameRest⟩ := ih isPlain same
      exact ⟨rfl, sameRest⟩
  | struct | dictEntry => simp [DBusType.isPlain] at isPlain
  | _ => cases other <;> simp_all [code]

end DBusType

structure DBusArg where
  type : DBusType
  value : type.Value

structure DBusMessage where
  path : String
  interface : String
  member : String
  args : List DBusArg := []

namespace DBusMessage

def codes (args : List DBusArg) : List Char :=
  args.flatMap (·.type.code)

/-- `dbus_message_get_signature`, which is empty for a message without arguments. -/
def signature (message : DBusMessage) : String :=
  String.ofList (codes message.args)

/-- `dbus_message_is_signal`. -/
def isSignal (message : DBusMessage) (interface member : String) : Bool :=
  message.interface = interface && message.member = member

def append (message : DBusMessage) (arg : DBusArg) : DBusMessage :=
  { message with args := message.args ++ [arg] }

theorem signature_eq_iff {message : DBusMessage} {text : String} :
    message.signature = text ↔ codes message.args = text.toList := by
  rw [signature, ← String.toList_inj, String.toList_ofList]

/-- The first argument is read off the signature, when its type has no fields of its own. -/
theorem args_of_codes {args : List DBusArg} {rest : List Char} (type : DBusType)
    (isPlain : type.isPlain) (found : codes args = type.code ++ rest) :
    ∃ value later, args = ⟨type, value⟩ :: later ∧ codes later = rest := by
  rcases args with - | ⟨⟨other, value⟩, later⟩
  · exact absurd found.symm (by simp [codes, type.code_ne_nil])
  · obtain ⟨rfl, sameRest⟩ := DBusType.eq_of_code_append isPlain found.symm
    exact ⟨value, later, rfl, sameRest⟩

theorem args_of_codes_nil {args : List DBusArg} (found : codes args = []) : args = [] := by
  rcases args with - | ⟨⟨type, value⟩, later⟩
  · rfl
  · exact absurd (List.append_eq_nil_iff.mp found).1 type.code_ne_nil

end DBusMessage
