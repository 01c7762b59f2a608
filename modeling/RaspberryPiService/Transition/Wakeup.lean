import RaspberryPiService.Transition.Runs

/-!
# Mutexes and wake-ups

`Owned` says that whoever is in a section that a mutex guards is the owner of the mutex.
Threads take the mutex when it is free and give it back on their way out; either way no two
of them are in a section at once.

A thread that finds nothing to do blocks until it is notified. Once it has decided to block,
and before it is blocked, a notification does not reach it.

`Kept` says that nothing has been missed: a thread that has decided to block while there is
something to do is going to be notified. The steps that keep this are of four kinds, and a
notification is one of them unless it comes between the decision and the blocking.
-/

universe u v

namespace Mutex

variable {Party : Type u} {mutex mutexNext : Option Party} {holds holdsNext : Party → Bool}
  {party : Party}

/-- Whoever is in a section of the mutex owns it. -/
def Owned (mutex : Option Party) (holds : Party → Bool) : Prop :=
  ∀ party, holds party = true → mutex = some party

/-- What a step of a thread does with the mutex. -/
inductive Use (party : Party) (mutex mutexNext : Option Party) (inside insideNext : Bool) : Prop
  | keep (same : mutexNext = mutex) (stays : insideNext = true → inside = true)
  | acquire (free : mutex = none) (taken : mutexNext = some party)
  | release (held : inside = true) (left : insideNext = false) (free : mutexNext = none)

theorem Owned.use (owned : Owned mutex holds)
    (used : Use party mutex mutexNext (holds party) (holdsNext party))
    (others : ∀ other, other ≠ party → holdsNext other = holds other) :
    Owned mutexNext holdsNext := by
  intro other inside
  by_cases same : other = party
  · subst same
    cases used with
    | keep same stays => rw [same, owned other (stays inside)]
    | acquire free taken => exact taken
    | release held left free => simp [left] at inside
  · rw [others other same] at inside
    have owner := owned other inside
    cases used with
    | keep same stays => rw [same, owner]
    | acquire free taken => simp [free] at owner
    | release held left free =>
        have isOwner := owner.symm.trans (owned party held)
        exact absurd (Option.some.inj isOwner) same

theorem Owned.unique (owned : Owned mutex holds) (party other : Party)
    (held : holds party = true) (otherHeld : holds other = true) : party = other :=
  Option.some.inj ((owned party held).symm.trans (owned other otherHeld))

end Mutex

/-- Where a thread is on its way into a wait. -/
inductive WaitPhase where
  | awake
  | decided
  | blocked
deriving DecidableEq

/-- What a notification makes of a thread. -/
def WaitPhase.notified : WaitPhase → WaitPhase
  | .blocked => .awake
  | phase => phase

theorem WaitPhase.ne_awake_of_notified {phase : WaitPhase} (asleep : phase.notified ≠ .awake) :
    phase ≠ .awake := by
  rintro rfl
  exact asleep rfl

/-- A thread in a system, the reasons for it to be awake, and the notifications to come. -/
structure Waiter (State : Type u) where
  phase : State → WaitPhase
  due : State → Prop
  pending : State → Prop

namespace Waiter

variable {State : Type u} {Action : Type v} (waiter : Waiter State)

/-- The thread is blocked, although there is something to do, and is not going to be notified. -/
def Forgotten (state : State) : Prop :=
  waiter.phase state = .blocked ∧ waiter.due state ∧ ¬ waiter.pending state

/-- Whatever there is to do, a thread that is not awake is going to be notified. -/
def Kept (state : State) : Prop :=
  waiter.phase state ≠ .awake → waiter.due state → waiter.pending state

/-- The steps that miss nothing. -/
inductive Move (state next : State) : Prop
  | wakes (awake : waiter.phase next = .awake)
  | decides (idle : ¬ waiter.due next)
  | announces (coming : waiter.pending next)
  | keeps (phase : waiter.phase next ≠ .awake → waiter.phase state ≠ .awake)
      (due : waiter.due next → waiter.due state)
      (pending : waiter.pending state → waiter.pending next)

variable {waiter} {state next : State}

theorem kept_of_awake (awake : waiter.phase state = .awake) : waiter.Kept state :=
  fun asleep => absurd awake asleep

theorem Kept.not_forgotten (kept : waiter.Kept state) : ¬ waiter.Forgotten state := by
  rintro ⟨blocked, due, missed⟩
  exact missed (kept (by simp [blocked]) due)

/-- A notification reaches every thread that is not about to block. -/
theorem move_of_notified (reached : waiter.phase state ≠ .decided)
    (notified : waiter.phase next = (waiter.phase state).notified) : waiter.Move state next := by
  apply Move.wakes
  rw [notified]
  cases phase : waiter.phase state with
  | awake => rfl
  | decided => exact absurd phase reached
  | blocked => rfl

theorem Kept.move (kept : waiter.Kept state) (moved : waiter.Move state next) :
    waiter.Kept next := by
  intro asleep due
  cases moved with
  | wakes awake => exact absurd awake asleep
  | decides idle => exact absurd due idle
  | announces coming => exact coming
  | keeps phase dueBefore pending => exact pending (kept (phase asleep) (dueBefore due))

variable (waiter) in
/-- Runs of steps that miss nothing never leave the thread behind. -/
theorem visits_of_moves {system : System State Action} {good : State → Action → Prop}
    {property : State → Prop} (invariant : State → Prop) (initial : invariant system.init)
    (kept : waiter.Kept system.init)
    (moves : ∀ state action next, invariant state → good state action →
      system.step state action = some next → invariant next ∧ waiter.Move state next)
    (implies : ∀ state, invariant state → ¬ waiter.Forgotten state → property state)
    {schedule : List Action} (along : system.Along good schedule) :
    system.Visits property schedule := by
  have preserved : ∀ state action next, invariant state ∧ waiter.Kept state →
      good state action → system.step state action = some next →
        invariant next ∧ waiter.Kept next := by
    intro state action next holds allowed stepped
    rcases moves state action next holds.1 allowed stepped with ⟨holdsNext, moved⟩
    exact ⟨holdsNext, holds.2.move moved⟩
  apply System.visitsFrom_of_alongFrom preserved _ ⟨initial, kept⟩ along
  intro state holds
  exact implies state holds.1 holds.2.not_forgotten

end Waiter
