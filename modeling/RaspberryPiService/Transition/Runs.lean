import Mathlib.Data.List.Basic

/-!
# Transition systems and their runs

A system is an initial state and a partial step function on actions. A schedule
is a list of actions; it is a run when every action is enabled in turn.

Two properties of schedules are kept apart. `Along good` restricts the steps: each
step is taken in a state where `good` allows its action. `Visits P` restricts the
states: each state on the way satisfies `P`. An invariant that survives the good
steps turns the first into the second; when a bad step breaks `P` at once, or
leaves a mark that no later step removes, the restriction is also necessary.

`CanReach` asks what some schedule can still do; a trap that the allowed steps keep shows
that nothing outside of it can be reached.

Auxiliary histories are added by `withHistory`. They record what a run did and
never change which schedules are runs.
-/

universe u v w

/-- An initial state and a partial step function; `none` means that the action is not enabled. -/
structure System (State : Type u) (Action : Type v) where
  init : State
  step : State → Action → Option State

namespace System

variable {State : Type u} {Action : Type v} (system : System State Action)

/-- The state reached from `state` by the schedule, if every action is enabled in turn. -/
def runFrom : State → List Action → Option State
  | state, [] => some state
  | state, action :: schedule =>
      (system.step state action).bind fun next => runFrom next schedule

/-- The state reached from the initial state. -/
def run (schedule : List Action) : Option State :=
  system.runFrom system.init schedule

/-- Every step of the schedule is taken in a state where `good` allows its action. -/
def AlongFrom (good : State → Action → Prop) : State → List Action → Prop
  | _, [] => True
  | state, action :: schedule =>
      good state action ∧
        ∀ next, system.step state action = some next → AlongFrom good next schedule

/-- Every step of a schedule from the initial state is allowed by `good`. -/
def Along (good : State → Action → Prop) (schedule : List Action) : Prop :=
  system.AlongFrom good system.init schedule

/-- Every state on the way, the first and the last included, satisfies `property`. -/
def VisitsFrom (property : State → Prop) : State → List Action → Prop
  | state, [] => property state
  | state, action :: schedule =>
      property state ∧
        ∀ next, system.step state action = some next → VisitsFrom property next schedule

/-- Every state visited from the initial state satisfies `property`. -/
def Visits (property : State → Prop) (schedule : List Action) : Prop :=
  system.VisitsFrom property system.init schedule

variable {system}

@[simp] theorem runFrom_nil (state : State) : system.runFrom state [] = some state := rfl

theorem runFrom_cons (state : State) (action : Action) (schedule : List Action) :
    system.runFrom state (action :: schedule) =
      (system.step state action).bind fun next => system.runFrom next schedule := rfl

theorem runFrom_cons_eq_some {state final : State} {action : Action} {schedule : List Action} :
    system.runFrom state (action :: schedule) = some final ↔
      ∃ next, system.step state action = some next ∧
        system.runFrom next schedule = some final := by
  simp [runFrom_cons, Option.bind_eq_some_iff]

/-- Decidability of the step condition makes the condition on a whole schedule decidable. -/
instance decidableAlongFrom (good : State → Action → Prop)
    [∀ state action, Decidable (good state action)] :
    ∀ (state : State) (schedule : List Action),
      Decidable (system.AlongFrom good state schedule)
  | _, [] => isTrue trivial
  | state, action :: schedule =>
      match stepped : system.step state action with
      | none => decidable_of_iff (good state action) (by simp [AlongFrom, stepped])
      | some next =>
          have := decidableAlongFrom good next schedule
          decidable_of_iff (good state action ∧ system.AlongFrom good next schedule)
            (by simp [AlongFrom, stepped])

instance decidableAlong (good : State → Action → Prop)
    [∀ state action, Decidable (good state action)] (schedule : List Action) :
    Decidable (system.Along good schedule) :=
  decidableAlongFrom good system.init schedule

theorem along_of_forall {good : State → Action → Prop}
    (allowed : ∀ state action, good state action) (schedule : List Action) :
    system.Along good schedule := by
  suffices main : ∀ state, system.AlongFrom good state schedule from main system.init
  induction schedule with
  | nil => exact fun _ => trivial
  | cons action schedule ih => exact fun state => ⟨allowed state action, fun next _ => ih next⟩

theorem AlongFrom.imp {good better : State → Action → Prop}
    (implies : ∀ state action, better state action → good state action) {state : State}
    {schedule : List Action} (along : system.AlongFrom better state schedule) :
    system.AlongFrom good state schedule := by
  induction schedule generalizing state with
  | nil => trivial
  | cons action schedule ih =>
      exact ⟨implies _ _ along.1, fun next stepped => ih (along.2 next stepped)⟩

theorem Along.imp {good better : State → Action → Prop}
    (implies : ∀ state action, better state action → good state action)
    {schedule : List Action} (along : system.Along better schedule) :
    system.Along good schedule :=
  AlongFrom.imp implies along

/-- A step that is taken leads to one next state. -/
theorem AlongFrom.cons {good : State → Action → Prop} {state next : State} {action : Action}
    {schedule : List Action} (allowed : good state action)
    (stepped : system.step state action = some next)
    (along : system.AlongFrom good next schedule) :
    system.AlongFrom good state (action :: schedule) := by
  refine ⟨allowed, fun other otherStepped => ?_⟩
  obtain rfl : next = other := Option.some.inj (stepped.symm.trans otherStepped)
  exact along

theorem AlongFrom.and {first second : State → Action → Prop} {state : State}
    {schedule : List Action} (alongFirst : system.AlongFrom first state schedule)
    (alongSecond : system.AlongFrom second state schedule) :
    system.AlongFrom (fun state action => first state action ∧ second state action)
      state schedule := by
  induction schedule generalizing state with
  | nil => trivial
  | cons action schedule ih =>
      exact ⟨⟨alongFirst.1, alongSecond.1⟩,
        fun next stepped => ih (alongFirst.2 next stepped) (alongSecond.2 next stepped)⟩

section Invariants

variable {good : State → Action → Prop} {invariant property : State → Prop}

theorem invariant_of_alongFrom
    (preserved : ∀ state action next, invariant state → good state action →
      system.step state action = some next → invariant next)
    {state final : State} {schedule : List Action} (holds : invariant state)
    (ran : system.runFrom state schedule = some final)
    (along : system.AlongFrom good state schedule) : invariant final := by
  induction schedule generalizing state with
  | nil =>
      cases ran
      exact holds
  | cons action schedule ih =>
      rcases runFrom_cons_eq_some.mp ran with ⟨next, stepped, ran⟩
      exact ih (preserved state action next holds along.1 stepped) ran (along.2 next stepped)

/-- What holds initially and survives every good step holds at the end of every good run. -/
theorem invariant_of_along (invariant : State → Prop) (initial : invariant system.init)
    (preserved : ∀ state action next, invariant state → good state action →
      system.step state action = some next → invariant next)
    {final : State} {schedule : List Action} (ran : system.run schedule = some final)
    (along : system.Along good schedule) : invariant final :=
  invariant_of_alongFrom preserved initial ran along

/-- What holds in a state and survives every step holds wherever a run leads from there. -/
theorem invariant_of_runFrom (invariant : State → Prop)
    (preserved : ∀ state action next, invariant state →
      system.step state action = some next → invariant next)
    {state final : State} {schedule : List Action} (holds : invariant state)
    (ran : system.runFrom state schedule = some final) : invariant final := by
  have along : ∀ state, system.AlongFrom (fun _ _ => True) state schedule := by
    clear ran
    induction schedule with
    | nil => exact fun _ => trivial
    | cons action schedule ih => exact fun _ => ⟨trivial, fun next _ => ih next⟩
  exact invariant_of_alongFrom
    (fun state action next holds _ => preserved state action next holds) holds ran (along state)

/-- What holds initially and survives every step holds at the end of every run. -/
theorem invariant_of_run (invariant : State → Prop) (initial : invariant system.init)
    (preserved : ∀ state action next, invariant state →
      system.step state action = some next → invariant next)
    {final : State} {schedule : List Action} (ran : system.run schedule = some final) :
    invariant final :=
  invariant_of_runFrom invariant preserved initial ran

theorem visitsFrom_of_alongFrom
    (preserved : ∀ state action next, invariant state → good state action →
      system.step state action = some next → invariant next)
    (implies : ∀ state, invariant state → property state)
    {state : State} {schedule : List Action} (holds : invariant state)
    (along : system.AlongFrom good state schedule) :
    system.VisitsFrom property state schedule := by
  induction schedule generalizing state with
  | nil => exact implies state holds
  | cons action schedule ih =>
      exact ⟨implies state holds, fun next stepped =>
        ih (preserved state action next holds along.1 stepped) (along.2 next stepped)⟩

/-- The last state of a run is one of those that it visits. -/
theorem property_of_visits {schedule : List Action} {final : State}
    (visited : system.Visits property schedule) (ran : system.run schedule = some final) :
    property final := by
  suffices main : ∀ state, system.VisitsFrom property state schedule →
      system.runFrom state schedule = some final → property final from
    main system.init visited ran
  clear visited ran
  induction schedule with
  | nil =>
      intro state visited ran
      cases ran
      exact visited
  | cons action schedule ih =>
      intro state visited ran
      rcases runFrom_cons_eq_some.mp ran with ⟨next, stepped, ran⟩
      exact ih next (visited.2 next stepped) ran

/--
A run is good exactly when it visits only states with the property, provided the
good steps keep an invariant that implies the property and an enabled bad step
breaks the property at once.
-/
theorem along_iff_visits (invariant : State → Prop) (initial : invariant system.init)
    (preserved : ∀ state action next, invariant state → good state action →
      system.step state action = some next → invariant next)
    (implies : ∀ state, invariant state → property state)
    (exposed : ∀ state action next, invariant state → ¬ good state action →
      system.step state action = some next → ¬ property next)
    {schedule : List Action} {final : State} (ran : system.run schedule = some final) :
    system.Along good schedule ↔ system.Visits property schedule := by
  refine ⟨visitsFrom_of_alongFrom preserved implies initial, ?_⟩
  suffices main : ∀ state, invariant state → system.runFrom state schedule = some final →
      system.VisitsFrom property state schedule → system.AlongFrom good state schedule from
    main system.init initial ran
  clear ran
  induction schedule with
  | nil => exact fun _ _ _ _ => trivial
  | cons action schedule ih =>
      intro state holds ran visited
      rcases runFrom_cons_eq_some.mp ran with ⟨next, stepped, ran⟩
      have nextVisited := visited.2 next stepped
      have nextProperty : property next := by
        cases schedule with
        | nil => exact nextVisited
        | cons _ _ => exact nextVisited.1
      have allowed : good state action := by
        by_contra bad
        exact exposed state action next holds bad stepped nextProperty
      refine ⟨allowed, fun other otherStepped => ?_⟩
      obtain rfl : next = other := Option.some.inj (stepped.symm.trans otherStepped)
      exact ih next (preserved state action next holds allowed stepped) ran nextVisited

/--
A run is good exactly when it ends undamaged, provided good steps keep the invariant,
the first bad step leaves damage, and no later step repairs it.
-/
theorem along_iff_not_damaged (invariant damaged : State → Prop)
    (initial : invariant system.init)
    (preserved : ∀ state action next, invariant state → good state action →
      system.step state action = some next → invariant next)
    (undamaged : ∀ state, invariant state → ¬ damaged state)
    (damages : ∀ state action next, invariant state → ¬ good state action →
      system.step state action = some next → damaged next)
    (lasting : ∀ state action next, damaged state →
      system.step state action = some next → damaged next)
    {schedule : List Action} {final : State} (ran : system.run schedule = some final) :
    system.Along good schedule ↔ ¬ damaged final := by
  have stays : ∀ (rest : List Action) (state : State), damaged state →
      system.runFrom state rest = some final → damaged final := by
    intro rest
    induction rest with
    | nil =>
        intro state broken ran
        cases ran
        exact broken
    | cons action rest ih =>
        intro state broken ran
        rcases runFrom_cons_eq_some.mp ran with ⟨next, stepped, ran⟩
        exact ih next (lasting state action next broken stepped) ran
  refine ⟨fun along => ?_, ?_⟩
  · exact undamaged final (invariant_of_along invariant initial preserved ran along)
  suffices main : ∀ state, invariant state → system.runFrom state schedule = some final →
      ¬ damaged final → system.AlongFrom good state schedule from main system.init initial ran
  clear ran
  induction schedule with
  | nil => exact fun _ _ _ _ => trivial
  | cons action schedule ih =>
      intro state holds ran sound
      rcases runFrom_cons_eq_some.mp ran with ⟨next, stepped, ran⟩
      have allowed : good state action := by
        by_contra bad
        exact sound (stays schedule next (damages state action next holds bad stepped) ran)
      refine ⟨allowed, fun other otherStepped => ?_⟩
      obtain rfl : next = other := Option.some.inj (stepped.symm.trans otherStepped)
      exact ih next (preserved state action next holds allowed stepped) ran sound

end Invariants

section Traps

variable {allowed : Action → Prop} {property : State → Prop}

/-- Some schedule of allowed actions leads from the state to one with the property. -/
def CanReach (system : System State Action) (allowed : Action → Prop) (property : State → Prop)
    (state : State) : Prop :=
  ∃ schedule final, (∀ action ∈ schedule, allowed action) ∧
    system.runFrom state schedule = some final ∧ property final

theorem canReach_of_holds {state : State} (holds : property state) :
    system.CanReach allowed property state :=
  ⟨[], state, by simp, rfl, holds⟩

theorem canReach_of_step {state next : State} {action : Action} (isAllowed : allowed action)
    (stepped : system.step state action = some next)
    (reachable : system.CanReach allowed property next) :
    system.CanReach allowed property state := by
  rcases reachable with ⟨schedule, final, allAllowed, ran, holds⟩
  refine ⟨action :: schedule, final, ?_, runFrom_cons_eq_some.mpr ⟨next, stepped, ran⟩, holds⟩
  simpa [isAllowed] using allAllowed

/-- What the allowed steps cannot leave, they cannot leave for a state outside of it. -/
theorem not_canReach_of_trap (trap : State → Prop)
    (closed : ∀ state action next, trap state → allowed action →
      system.step state action = some next → trap next)
    (avoids : ∀ state, trap state → ¬ property state) {state : State} (inside : trap state) :
    ¬ system.CanReach allowed property state := by
  rintro ⟨schedule, final, allAllowed, ran, reached⟩
  refine avoids final ?_ reached
  clear reached
  induction schedule generalizing state with
  | nil =>
      cases ran
      exact inside
  | cons action schedule ih =>
      rcases runFrom_cons_eq_some.mp ran with ⟨next, stepped, ran⟩
      have first := allAllowed action List.mem_cons_self
      exact ih (closed state action next inside first stepped)
        (fun action member => allAllowed action (List.mem_cons_of_mem _ member)) ran

end Traps

section Histories

variable {History : Type w}

/-- The same system with a record of what happened, updated at every step. -/
def withHistory (system : System State Action) (first : History)
    (observe : State → Action → State → History → History) :
    System (State × History) Action where
  init := (system.init, first)
  step recorded action :=
    (system.step recorded.1 action).map fun next =>
      (next, observe recorded.1 action next recorded.2)

variable {first : History} {observe : State → Action → State → History → History}

theorem withHistory_step_eq_some {recorded next : State × History} {action : Action} :
    (system.withHistory first observe).step recorded action = some next ↔
      system.step recorded.1 action = some next.1 ∧
        next.2 = observe recorded.1 action next.1 recorded.2 := by
  rcases next with ⟨state, history⟩
  simp only [withHistory, Option.map_eq_some_iff, Prod.mk.injEq]
  constructor
  · rintro ⟨middle, stepped, rfl, rfl⟩
    exact ⟨stepped, rfl⟩
  · rintro ⟨stepped, rfl⟩
    exact ⟨state, stepped, rfl, rfl⟩

/-- Recording never disables a step: the runs with a history are the runs without it. -/
theorem exists_withHistory_run_iff {schedule : List Action} {final : State} :
    (∃ history, (system.withHistory first observe).run schedule = some (final, history)) ↔
      system.run schedule = some final := by
  suffices main : ∀ (state : State) (history : History),
      (∃ last, (system.withHistory first observe).runFrom (state, history) schedule =
        some (final, last)) ↔ system.runFrom state schedule = some final from
    main system.init first
  induction schedule with
  | nil => simp
  | cons action schedule ih =>
      intro state history
      simp only [runFrom_cons_eq_some, withHistory_step_eq_some]
      constructor
      · rintro ⟨last, ⟨next, nextHistory⟩, ⟨stepped, -⟩, ran⟩
        exact ⟨next, stepped, (ih next nextHistory).mp ⟨last, ran⟩⟩
      · rintro ⟨next, stepped, ran⟩
        rcases (ih next (observe state action next history)).mpr ran with ⟨last, ran⟩
        exact ⟨last, (next, observe state action next history), ⟨stepped, rfl⟩, ran⟩

end Histories

end System
