import Mathlib.Data.List.AList

/-!
# The last write of a log

A log of writes to a map, of which some clear the map. What the map holds for a key is what
the last assignment to the key says, among those that no later write has cleared. A map to
which every write of the log has been applied as it came holds just that.
-/

universe u v

/-- A write to a map. -/
inductive MapWrite (Key : Type u) (Value : Type v) where
  | clear
  | assign (key : Key) (value : Value)
deriving DecidableEq

namespace MapWrite

variable {Key : Type u} {Value : Type v} [DecidableEq Key]

def isClear : MapWrite Key Value → Bool
  | clear => true
  | assign _ _ => false

/-- The value, if the write is an assignment to the key. -/
def assigned? (key : Key) : MapWrite Key Value → Option Value
  | clear => none
  | assign other value => if other = key then some value else none

/-- The value that the log assigns to the key last, since it cleared the map last. -/
def latest (log : List (MapWrite Key Value)) (key : Key) : Option Value :=
  (log.reverse.takeWhile fun write => !write.isClear).findSome? (assigned? key)

/-- The write, applied to a map. -/
def apply (map : AList fun _ : Key => Value) : MapWrite Key Value → AList fun _ : Key => Value
  | clear => ∅
  | assign key value => map.insert key value

/-- The map holds what the log says. -/
def Reflects (map : AList fun _ : Key => Value) (log : List (MapWrite Key Value)) : Prop :=
  ∀ key, map.lookup key = latest log key

variable {map : AList fun _ : Key => Value} {log : List (MapWrite Key Value)}

@[simp] theorem latest_concat_clear (key : Key) : latest (log ++ [clear]) key = none := by
  simp [latest, isClear]

@[simp] theorem latest_concat_assign (other : Key) (value : Value) (key : Key) :
    latest (log ++ [assign other value]) key =
      if other = key then some value else latest log key := by
  simp only [latest, List.reverse_append, List.reverse_singleton, List.singleton_append]
  rw [List.takeWhile_cons_of_pos rfl, List.findSome?_cons, assigned?]
  split
  · next same =>
      split at same
      · next found =>
          rw [if_pos found]
          exact same.symm
      · cases same
  · next other =>
      split at other
      · cases other
      · next differs => rw [if_neg differs]

theorem reflects_empty : Reflects (∅ : AList fun _ : Key => Value) [] :=
  fun _ => AList.lookup_empty _

theorem Reflects.apply (reflects : Reflects map log) (write : MapWrite Key Value) :
    Reflects (write.apply map) (log ++ [write]) := by
  intro key
  cases write with
  | clear => simp [MapWrite.apply]
  | assign other value =>
      rw [latest_concat_assign, MapWrite.apply]
      by_cases same : other = key
      · subst same
        simp
      · rw [if_neg same, AList.lookup_insert_ne (Ne.symm same)]
        exact reflects key

/-- A run of assignments, applied one after the other. -/
theorem Reflects.assignAll (reflects : Reflects map log) (entries : List (Key × Value)) :
    Reflects (entries.foldl (fun map entry => map.insert entry.1 entry.2) map)
      (log ++ entries.map fun entry => assign entry.1 entry.2) := by
  induction entries generalizing map log with
  | nil => simpa using reflects
  | cons entry entries ih =>
      have extended := ih (reflects.apply (assign entry.1 entry.2))
      rwa [List.append_assoc] at extended

end MapWrite
