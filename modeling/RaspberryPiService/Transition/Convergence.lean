import Mathlib.Data.List.Basic

/-!
# Views that converge

A state has a value for some keys. It changes, the changes are announced with delay, and a
view of the state is made from the announcements. An announcement may be older than the
state, or newer than the change that has caused it; the view converges as long as the last
one about each key tells the truth.

A view that begins late lacks what has been announced before, so at some time everything
has to be announced again. Until then such a view has too few keys, but it has no key that
the state does not have.
-/

universe u v

/-- What a key has now, or that it is gone. -/
structure KeyUpdate (Key : Type u) (Value : Type v) where
  key : Key
  value : Option Value
deriving DecidableEq

namespace KeyUpdate

variable {Key : Type u} {Value : Type v} [DecidableEq Key]

/-- What the last update of a key says, if there is one. -/
def last (updates : List (KeyUpdate Key Value)) (key : Key) : Option (Option Value) :=
  ((updates.filter fun update => update.key = key).getLast?).map value

/-- The view after the updates. -/
def applyAll (updates : List (KeyUpdate Key Value)) (view : Key → Option Value) :
    Key → Option Value :=
  fun key => (last updates key).getD (view key)

/-- The last update of each key tells the truth. -/
def Truthful (state : Key → Option Value) (updates : List (KeyUpdate Key Value)) : Prop :=
  ∀ key value, last updates key = some value → value = state key

/-- The view has no key that the state does not have. -/
def Sound (state view : Key → Option Value) : Prop :=
  ∀ key, state key = none → view key = none

variable {updates first second : List (KeyUpdate Key Value)}
  {view state next : Key → Option Value} {key : Key}

@[simp] theorem last_nil : last ([] : List (KeyUpdate Key Value)) key = none := rfl

@[simp] theorem last_append :
    last (first ++ second) key = (last second key).or (last first key) := by
  simp only [last, List.filter_append, List.getLast?_append, Option.map_or]

theorem last_singleton (update : KeyUpdate Key Value) :
    last [update] key = if update.key = key then some update.value else none := by
  by_cases same : update.key = key
  · simp [last, same]
  · simp [last, same]

/-- The last update of a key is one of the updates. -/
theorem exists_of_last {value : Option Value} (isLast : last updates key = some value) :
    ∃ update ∈ updates, update.key = key ∧ update.value = value := by
  rcases Option.map_eq_some_iff.mp isLast with ⟨update, found, isValue⟩
  have member := List.mem_of_getLast? found
  rw [List.mem_filter, decide_eq_true_eq] at member
  exact ⟨update, member.1, member.2, isValue⟩

theorem last_ne_none {update : KeyUpdate Key Value} (member : update ∈ updates) :
    last updates update.key ≠ none := by
  rw [last, ne_eq, Option.map_eq_none_iff, List.getLast?_eq_none_iff]
  intro empty
  have present : update ∈ updates.filter (fun other => other.key = update.key) := by
    simp [member]
  rw [empty] at present
  cases present

@[simp] theorem applyAll_nil : applyAll [] view = view := rfl

theorem applyAll_append :
    applyAll (first ++ second) view = applyAll second (applyAll first view) := by
  funext key
  simp only [applyAll, last_append]
  cases last second key <;> rfl

/-- What is truthful after a part of it, or without a part at its beginning, remains so. -/
theorem Truthful.right (truthful : Truthful state (first ++ second)) : Truthful state second := by
  intro key value isLast
  apply truthful key value
  rw [last_append, isLast, Option.some_or]

theorem Truthful.append (before : Truthful state first) (after : Truthful state second) :
    Truthful state (first ++ second) := by
  intro key value isLast
  rw [last_append] at isLast
  cases later : last second key with
  | none =>
      rw [later, Option.none_or] at isLast
      exact before key value isLast
  | some found =>
      rw [later, Option.some_or, Option.some.injEq] at isLast
      subst isLast
      exact after key found later

theorem truthful_of_forall (each : ∀ update ∈ updates, update.value = state update.key) :
    Truthful state updates := by
  intro key value isLast
  rcases exists_of_last isLast with ⟨update, member, rfl, rfl⟩
  exact each update member

theorem truthful_nil : Truthful state ([] : List (KeyUpdate Key Value)) := by
  intro key value isLast
  cases isLast

/-- A view without keys that misses some updates has no key too many. -/
theorem Sound.right
    (sound : Sound state (applyAll (first ++ second) fun _ => none)) :
    Sound state (applyAll second fun _ => none) := by
  intro key absent
  have nothing := sound key absent
  simp only [applyAll, last_append] at nothing ⊢
  cases later : last second key with
  | none => rfl
  | some value => simpa [later] using nothing

/-- A change of one key that is announced last. -/
structure Announced (state next : Key → Option Value)
    (before after : List (KeyUpdate Key Value)) (key : Key) : Prop where
  told : last after key = some (next key)
  state : ∀ other, other ≠ key → next other = state other
  updates : ∀ other, other ≠ key → last after other = last before other

variable {before after : List (KeyUpdate Key Value)}

theorem Announced.truthful (announced : Announced state next before after key)
    (truthful : Truthful state before) : Truthful next after := by
  intro other value isLast
  by_cases same : other = key
  · subst same
    rw [announced.told] at isLast
    exact (Option.some.inj isLast).symm
  · rw [announced.updates other same] at isLast
    rw [announced.state other same]
    exact truthful other value isLast

theorem Announced.last_append (announced : Announced state next before after key) :
    ∀ other, other ≠ key → last (first ++ after) other = last (first ++ before) other := by
  intro other differs
  rw [KeyUpdate.last_append, KeyUpdate.last_append, announced.updates other differs]

/-- An announced change carries a view along that was right, or that had no key too many. -/
theorem Announced.applyAll (announced : Announced state next before after key)
    (right : KeyUpdate.applyAll (first ++ before) view = state) :
    KeyUpdate.applyAll (first ++ after) view = next := by
  funext other
  by_cases same : other = key
  · subst same
    rw [KeyUpdate.applyAll, KeyUpdate.last_append, announced.told, Option.some_or,
      Option.getD_some]
  · rw [announced.state other same, ← right]
    simp only [KeyUpdate.applyAll, announced.last_append other same]

theorem Announced.sound (announced : Announced state next before after key)
    (sound : Sound state (KeyUpdate.applyAll (first ++ before) view)) :
    Sound next (KeyUpdate.applyAll (first ++ after) view) := by
  intro other absent
  by_cases same : other = key
  · subst same
    rw [KeyUpdate.applyAll, KeyUpdate.last_append, announced.told, Option.some_or,
      Option.getD_some, absent]
  · have before := sound other (by rw [← announced.state other same, absent])
    simpa only [KeyUpdate.applyAll, announced.last_append other same] using before

/-- Everything that there is, is announced. -/
structure Report (state : Key → Option Value) (report : List (KeyUpdate Key Value)) : Prop where
  truthful : Truthful state report
  complete : ∀ key, state key ≠ none → last report key ≠ none

variable {report : List (KeyUpdate Key Value)}

/-- A report makes every view right that had no key too many, whatever is still announced. -/
theorem Report.applyAll (isReport : Report state report) (truthful : Truthful state second)
    (sound : Sound state (KeyUpdate.applyAll (first ++ second) view)) :
    KeyUpdate.applyAll (first ++ report ++ second) view = state := by
  funext key
  simp only [KeyUpdate.applyAll, KeyUpdate.last_append]
  cases later : last second key with
  | some value => simpa using truthful key value later
  | none =>
      cases reported : last report key with
      | some value => simpa using isReport.truthful key value reported
      | none =>
          have absent : state key = none := by
            by_contra present
            exact isReport.complete key present reported
          have nothing := sound key absent
          rw [KeyUpdate.applyAll, KeyUpdate.last_append, later, Option.none_or] at nothing
          rw [absent, Option.none_or, Option.none_or]
          exact nothing

/-- A report keeps a right view right. -/
theorem Report.sound (isReport : Report state report) (truthful : Truthful state second)
    (sound : Sound state (KeyUpdate.applyAll (first ++ second) view)) :
    Sound state (KeyUpdate.applyAll (first ++ report ++ second) view) := by
  rw [isReport.applyAll truthful sound]
  exact fun key absent => absent

end KeyUpdate
