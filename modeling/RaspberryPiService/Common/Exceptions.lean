import Mathlib.Data.List.Basic

/-!
# Computations that throw

A computation that may throw is an `Except`. It returns unless it throws, and a sequence
returns if each of its computations does in the state in which it is reached. A loop is
decided round by round; where the state is irrelevant to what a round throws, it is decided
by the elements alone.
-/

namespace Throws

universe u v w

variable {Exception : Type u} {Value : Type v} {Result : Type v} {State : Type v}
  {Element : Type w}

/-- The computation ends normally. -/
def Returns (computation : Except Exception Value) : Prop :=
  ∃ value, computation = .ok value

@[simp] theorem returns_ok (value : Value) :
    Returns (.ok value : Except Exception Value) :=
  ⟨value, rfl⟩

@[simp] theorem returns_pure (value : Value) :
    Returns (pure value : Except Exception Value) :=
  ⟨value, rfl⟩

@[simp] theorem not_returns_error (exception : Exception) :
    ¬ Returns (.error exception : Except Exception Value) := by
  rintro ⟨value, returned⟩
  cases returned

@[simp] theorem not_returns_throw (exception : Exception) :
    ¬ Returns (throw exception : Except Exception Value) :=
  not_returns_error exception

@[simp] theorem ok_bind (value : Value) (next : Value → Except Exception Result) :
    (.ok value >>= next) = next value :=
  rfl

theorem bind_eq_ok_iff {computation : Except Exception Value}
    {next : Value → Except Exception Result} {result : Result} :
    (computation >>= next) = .ok result ↔
      ∃ value, computation = .ok value ∧ next value = .ok result := by
  cases computation <;> simp [bind, Except.bind]

/-- What comes next is reached with the value of what comes first. -/
theorem returns_bind_iff {computation : Except Exception Value}
    {next : Value → Except Exception Result} :
    Returns (computation >>= next) ↔ ∃ value, computation = .ok value ∧ Returns (next value) := by
  cases computation with
  | error exception => simp [bind, Except.bind]
  | ok value => simp [bind, Except.bind]

/-- Where it makes no difference which value came first. -/
theorem returns_bind_iff_and {computation : Except Exception Value}
    {next : Value → Except Exception Result} {Next : Prop}
    (same : ∀ value, computation = .ok value → (Returns (next value) ↔ Next)) :
    Returns (computation >>= next) ↔ Returns computation ∧ Next := by
  rw [returns_bind_iff]
  constructor
  · rintro ⟨value, returned, goesOn⟩
    exact ⟨⟨value, returned⟩, (same value returned).mp goesOn⟩
  · rintro ⟨⟨value, returned⟩, goesOn⟩
    exact ⟨value, returned, (same value returned).mpr goesOn⟩

theorem returns_bind_iff_first {computation : Except Exception Value}
    {next : Value → Except Exception Result} (total : ∀ value, Returns (next value)) :
    Returns (computation >>= next) ↔ Returns computation := by
  rw [returns_bind_iff_and fun value _ => iff_true_intro (total value), and_true]

/-- An exception that is caught and thrown again in another form has still been thrown. -/
@[simp] theorem returns_mapError_iff {Other : Type u} {computation : Except Exception Value}
    {change : Exception → Other} :
    Returns (computation.mapError change) ↔ Returns computation := by
  cases computation with
  | error exception => simp [Except.mapError]
  | ok value => simp [Except.mapError]

section Loops

variable {round : State → Element → Except Exception State} {elements : List Element}
  {state final : State}

/-- A loop returns if every round does that is reached. -/
theorem returns_foldlM_iff :
    Returns (elements.foldlM round state) ↔
      ∀ before element after, elements = before ++ element :: after →
        ∀ reached, before.foldlM round state = .ok reached → Returns (round reached element) := by
  constructor
  · rintro ⟨final, returned⟩ before element after rfl reached isReached
    rw [List.foldlM_append, isReached] at returned
    rcases bind_eq_ok_iff.mp returned with ⟨_, ⟨⟩, returned⟩
    rw [List.foldlM_cons] at returned
    rcases bind_eq_ok_iff.mp returned with ⟨next, returned, -⟩
    exact ⟨next, returned⟩
  · intro rounds
    induction elements generalizing state with
    | nil => exact returns_pure state
    | cons element elements ih =>
        rcases rounds [] element elements rfl state rfl with ⟨next, returned⟩
        rw [List.foldlM_cons, returned]
        apply ih
        intro before other after split reached isReached
        apply rounds (element :: before) other after (by rw [split, List.cons_append]) reached
        rw [List.foldlM_cons, returned]
        exact isReached

theorem returns_foldlM_iff_forall {Good : Element → Prop}
    (rounds : ∀ state element, Returns (round state element) ↔ Good element) :
    Returns (elements.foldlM round state) ↔ ∀ element ∈ elements, Good element := by
  induction elements generalizing state with
  | nil => simp
  | cons element elements ih =>
      rw [List.foldlM_cons, List.forall_mem_cons, ← rounds state element]
      exact returns_bind_iff_and fun value _ => ih

/-- A mark that some of the elements leave in the state, and that no round takes away. -/
theorem marked_foldlM_iff {Marked : State → Prop} {Marks : Element → Prop}
    (rounds : ∀ state element next, round state element = .ok next →
      (Marked next ↔ Marked state ∨ Marks element))
    (returned : elements.foldlM round state = .ok final) :
    Marked final ↔ Marked state ∨ ∃ element ∈ elements, Marks element := by
  induction elements generalizing state with
  | nil =>
      cases returned
      simp
  | cons element elements ih =>
      rw [List.foldlM_cons] at returned
      rcases bind_eq_ok_iff.mp returned with ⟨next, step, later⟩
      rw [ih later, rounds state element next step, List.exists_mem_cons_iff, or_assoc]

theorem returns_forM_iff {action : Element → Except Exception PUnit} :
    Returns (forM elements action) ↔ ∀ element ∈ elements, Returns (action element) := by
  induction elements with
  | nil => simp
  | cons element elements ih =>
      rw [List.forM_cons, List.forall_mem_cons]
      exact returns_bind_iff_and fun value _ => ih

end Loops

end Throws
