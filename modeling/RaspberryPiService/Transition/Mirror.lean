import Mathlib.Data.List.Basic

/-!
# A value mirrored through pending writes

One party keeps a mirror of what another one does. Every notification overwrites the
mirror, and notifications are delivered in the order in which they were sent. What
matters for agreement is the value the mirror will have once the pending ones have
arrived: an arrival does not change it, and the last write decides it.
-/

universe u

namespace Mirror

variable {Value : Type u}

/-- The value of the mirror once the pending writes have arrived. -/
def settled (value : Value) : List Value → Value
  | [] => value
  | write :: pending => settled write pending

@[simp] theorem settled_nil (value : Value) : settled value [] = value := rfl

@[simp] theorem settled_cons (value write : Value) (pending : List Value) :
    settled value (write :: pending) = settled write pending := rfl

theorem settled_append (value : Value) (pending later : List Value) :
    settled value (pending ++ later) = settled (settled value pending) later := by
  induction pending generalizing value with
  | nil => rfl
  | cons write pending ih => exact ih write

@[simp] theorem settled_concat (value : Value) (pending : List Value) (write : Value) :
    settled value (pending ++ [write]) = write := by
  rw [settled_append, settled_cons, settled_nil]

/-- Pending writes hide the present value of the mirror. -/
theorem settled_eq_of_ne_nil {pending : List Value} (isPending : pending ≠ [])
    (value other : Value) : settled value pending = settled other pending := by
  cases pending with
  | nil => exact absurd rfl isPending
  | cons write pending => rfl

end Mirror
