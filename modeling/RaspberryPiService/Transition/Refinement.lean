import RaspberryPiService.Transition.Runs

/-!
# Refinement

One system refines another when each of its steps can be followed by some steps of the
other, none included, so that a relation between their states is kept. The states that the
first one reaches are then related to states that the other one reaches, and what holds in
all of the latter can be used for the former.
-/

universe u v w x

namespace System

variable {State : Type u} {Action : Type v} {Other : Type w} {OtherAction : Type x}
  {system : System State Action} {other : System Other OtherAction}

theorem runFrom_append (state : State) (schedule later : List Action) :
    system.runFrom state (schedule ++ later) =
      (system.runFrom state schedule).bind fun next => system.runFrom next later := by
  induction schedule generalizing state with
  | nil => rfl
  | cons action schedule ih =>
      rw [List.cons_append, runFrom_cons, runFrom_cons, Option.bind_assoc]
      cases system.step state action with
      | none => rfl
      | some next => exact ih next

theorem runFrom_singleton (state : State) (action : Action) :
    system.runFrom state [action] = system.step state action := by
  rw [runFrom_cons]
  cases system.step state action <;> rfl

/-- Every step is followed by steps of the other system that keep the relation. -/
structure Refines (system : System State Action) (other : System Other OtherAction)
    (related : State → Other → Prop) : Prop where
  init : related system.init other.init
  step : ∀ state abstract action next, related state abstract →
    system.step state action = some next →
      ∃ schedule later, other.runFrom abstract schedule = some later ∧ related next later

variable {related : State → Other → Prop}

/-- What is reached is related to something that the other system reaches. -/
theorem Refines.exists_run (refines : system.Refines other related) {schedule : List Action}
    {final : State} (ran : system.run schedule = some final) :
    ∃ followed abstract, other.run followed = some abstract ∧ related final abstract := by
  refine invariant_of_run
    (fun state => ∃ followed abstract, other.run followed = some abstract ∧
      related state abstract) ⟨[], other.init, rfl, refines.init⟩ ?_ ran
  rintro state action next ⟨followed, abstract, ranOther, isRelated⟩ stepped
  rcases refines.step state abstract action next isRelated stepped with
    ⟨more, later, ranLater, stillRelated⟩
  refine ⟨followed ++ more, later, ?_, stillRelated⟩
  rw [run] at ranOther
  rw [run, runFrom_append, ranOther, Option.bind_some, ranLater]

/-- No step of the other system follows. -/
theorem exists_stutter {next : State} {abstract : Other} (isRelated : related next abstract) :
    ∃ schedule later, other.runFrom abstract schedule = some later ∧ related next later :=
  ⟨[], abstract, rfl, isRelated⟩

/-- One step of the other system follows. -/
theorem exists_follow {next : State} {abstract later : Other} {action : OtherAction}
    (stepped : other.step abstract action = some later) (isRelated : related next later) :
    ∃ schedule later, other.runFrom abstract schedule = some later ∧ related next later :=
  ⟨[action], later, by rw [runFrom_singleton, stepped], isRelated⟩

end System
