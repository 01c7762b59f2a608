import Mathlib.Order.Preorder.Finite

/-!
# Locks and deadlock

What threads hold and wait for at one moment. A set of threads is deadlocked when each of
them waits for a lock that another one of the set holds. If every thread waits only for
locks that come after all locks it holds, in some order, then no finite set of threads is
deadlocked: whoever waits for the last lock of all waits for a thread that would have to
wait for a later one.
-/

universe u v w

/-- The locks that threads hold, and the lock that each of them wants to take next. -/
structure Locking (Thread : Type u) (Lock : Type v) where
  holds : Thread → Lock → Prop
  wants : Thread → Option Lock

namespace Locking

variable {Thread : Type u} {Lock : Type v} {Rank : Type w} (locking : Locking Thread Lock)

/-- A thread waits for a lock that another one holds. -/
def WaitsFor (thread other : Thread) : Prop :=
  thread ≠ other ∧ ∃ lock, locking.wants thread = some lock ∧ locking.holds other lock

/-- Threads each of which waits for another one of them. -/
def Deadlocked (threads : Set Thread) : Prop :=
  threads.Nonempty ∧ ∀ thread ∈ threads, ∃ other ∈ threads, locking.WaitsFor thread other

/-- Every thread wants a lock that comes after all locks it holds. -/
def Ordered [LT Rank] (rank : Lock → Rank) : Prop :=
  ∀ thread lock held, locking.wants thread = some lock → locking.holds thread held →
    rank held < rank lock

variable {locking}

theorem not_deadlocked_of_ordered [Preorder Rank] {rank : Lock → Rank}
    (ordered : locking.Ordered rank) {threads : Set Thread} (finite : threads.Finite) :
    ¬ locking.Deadlocked threads := by
  rintro ⟨⟨first, isFirst⟩, waits⟩
  rcases waits first isFirst with ⟨-, -, -, lock, -, -⟩
  -- the rank of the lock that a thread of the set wants; they all want one
  let wanted := fun thread => ((locking.wants thread).map rank).getD (rank lock)
  rcases finite.exists_maximalFor wanted threads ⟨first, isFirst⟩ with ⟨last, isLast, greatest⟩
  rcases waits last isLast with ⟨other, isOther, -, lock, wants, holds⟩
  rcases waits other isOther with ⟨-, -, -, later, wantsLater, -⟩
  have rises : wanted last < wanted other := by
    simpa [wanted, wants, wantsLater] using ordered other later lock wantsLater holds
  exact absurd (greatest isOther rises.le) rises.not_ge

/-- A set of threads that wait for each other in turn. -/
theorem deadlocked_pair {thread other : Thread} (waits : locking.WaitsFor thread other)
    (waitsBack : locking.WaitsFor other thread) : locking.Deadlocked {thread, other} := by
  refine ⟨⟨thread, Or.inl rfl⟩, ?_⟩
  rintro waiting (rfl | rfl)
  · exact ⟨other, Or.inr rfl, waits⟩
  · exact ⟨thread, Or.inl rfl, waitsBack⟩

end Locking
