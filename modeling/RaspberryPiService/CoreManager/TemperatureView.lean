import RaspberryPiService.Transition.Runs

/-!
# The temperature that the clients see

MainWorker handles the temperature notifications of the hardware manager: a new value is
stored in `CURRENT_TEMPERATURE` and broadcast, an unchanged one is not broadcast, and a
failure is broadcast with the temperature 0, which is not stored. The I/O thread sends
`CURRENT_TEMPERATURE` to every client that joins.

`join`, `leave` and `updateStateAndBroadcast` hold `mutex_` from beginning to end and are
one step each; storing a new value and broadcasting it are two steps. What a client has
been sent so far is kept with its session. How a value is rounded is left open.
-/

namespace RaspberryPiService

/-- An `update_temperature_noti` message to a client. -/
structure TemperatureMessage where
  isSuccess : Bool
  temperature : Int
deriving DecidableEq

structure TemperatureView where
  currentTemperature : Int := 0
  -- the connected clients, with the messages that each has been sent, the last one first
  sessions : List (Nat × List TemperatureMessage) := []
  -- a stored temperature that is still to be broadcast
  broadcasting : Option Int := none
deriving DecidableEq

namespace TemperatureView

/-- A notification carries a value, or `none` for a failure. -/
inductive Action (Value : Type) where
  | join (session : Nat)
  | leave (session : Nat)
  | updateTemperatureNoti (notification : Option Value)
  | broadcast

section Steps

variable {Value : Type} (nextTemperature : Value → Int)

/-- `sendInitStateToClient`, as far as it concerns the temperature. -/
def join (view : TemperatureView) (session : Nat) : Option TemperatureView :=
  if session ∈ view.sessions.map Prod.fst then none
  else
    some { view with
      sessions := view.sessions ++ [(session, [⟨true, view.currentTemperature⟩])] }

def leave (view : TemperatureView) (session : Nat) : TemperatureView :=
  { view with sessions := view.sessions.filter fun client => client.1 ≠ session }

/-- `updateStateAndBroadcast`: every connected client is sent the message. -/
def updateStateAndBroadcast (view : TemperatureView) (message : TemperatureMessage) :
    TemperatureView :=
  { view with sessions := view.sessions.map fun client => (client.1, message :: client.2) }

/-- `updateTemperatureNOTI`, up to the broadcast of a new value. -/
def updateTemperatureNoti (view : TemperatureView) : Option Value → TemperatureView
  | none => view.updateStateAndBroadcast ⟨false, 0⟩
  | some value =>
      if view.currentTemperature ≠ nextTemperature value then
        { view with
          currentTemperature := nextTemperature value
          broadcasting := some (nextTemperature value) }
      else view

def step (view : TemperatureView) : Action Value → Option TemperatureView
  | .join session => view.join session
  | .leave session => some (view.leave session)
  | .updateTemperatureNoti notification =>
      match view.broadcasting with
      | none => some (view.updateTemperatureNoti nextTemperature notification)
      | some _ => none
  | .broadcast =>
      view.broadcasting.map fun temperature =>
        { view.updateStateAndBroadcast ⟨true, temperature⟩ with broadcasting := none }

/-- A reported temperature has been processed, and nothing has been reported since. -/
def processed (_ : TemperatureView) (action : Action Value) (next : TemperatureView)
    (before : Bool) : Bool :=
  match action with
  | .join _ | .leave _ => before
  | .updateTemperatureNoti none => false
  | .updateTemperatureNoti (some _) => next.broadcasting.isNone
  | .broadcast => true

/-- The server with its clients, and whether the last report has been a success and is processed. -/
def protocol : System (TemperatureView × Bool) (Action Value) :=
  System.withHistory { init := {}, step := step nextTemperature } false processed

/-- The last temperature that every connected client has been sent is the server's. -/
def Agrees (view : TemperatureView) : Prop :=
  ∀ client ∈ view.sessions,
    (client.2.head?.map fun message => message.temperature) = some view.currentTemperature

/-- The clients agree with the server whenever a reported temperature has been processed. -/
def AgreesOnceProcessed (recorded : TemperatureView × Bool) : Prop :=
  recorded.2 = true → recorded.1.Agrees

/--
A value that rounds to `CURRENT_TEMPERATURE`, and is not broadcast therefore, comes while no
connected client has been sent a failure last, unless `CURRENT_TEMPERATURE` is 0.
-/
def Unmisled (recorded : TemperatureView × Bool) : Action Value → Prop
  | .updateTemperatureNoti (some value) =>
      nextTemperature value = recorded.1.currentTemperature → recorded.1.currentTemperature ≠ 0 →
        ∀ client ∈ recorded.1.sessions, ∀ message ∈ client.2.head?, message.isSuccess = true
  | .updateTemperatureNoti none | .join _ | .leave _ | .broadcast => True

instance (recorded : TemperatureView × Bool) :
    (action : Action Value) → Decidable (Unmisled nextTemperature recorded action)
  | .updateTemperatureNoti (some _) => inferInstanceAs (Decidable (_ → _ → _))
  | .updateTemperatureNoti none | .join _ | .leave _ | .broadcast => isTrue trivial

end Steps

/-- What a client has been sent last, while a new temperature is or is not being broadcast. -/
def Sent (view : TemperatureView) (messages : List TemperatureMessage) : Prop :=
  ∃ message, messages.head? = some message ∧
    (message.isSuccess = false → message.temperature = 0) ∧
      (message.isSuccess = true → view.broadcasting = none →
        message.temperature = view.currentTemperature)

structure Consistent (recorded : TemperatureView × Bool) : Prop where
  sent : ∀ client ∈ recorded.1.sessions, recorded.1.Sent client.2
  stored : ∀ temperature, recorded.1.broadcasting = some temperature →
    temperature = recorded.1.currentTemperature
  settled : recorded.2 = true → recorded.1.Agrees

variable {Value : Type} {nextTemperature : Value → Int} {view next : TemperatureView}
  {done nextDone : Bool}

theorem agrees_updateStateAndBroadcast (view : TemperatureView) (isSuccess : Bool)
    {temperature : Int} (current : temperature = view.currentTemperature) :
    (view.updateStateAndBroadcast ⟨isSuccess, temperature⟩).Agrees := by
  intro client member
  rcases List.mem_map.mp member with ⟨before, -, rfl⟩
  simp [current, updateStateAndBroadcast]

theorem consistent_join {session : Nat} (consistent : Consistent (view, done))
    (joined : view.join session = some next) : Consistent (next, done) := by
  simp only [join, Option.ite_none_left_eq_some, Option.some.injEq] at joined
  rcases joined with ⟨-, rfl⟩
  refine ⟨?_, consistent.stored, ?_⟩
  · intro client member
    rcases List.mem_append.mp member with earlier | new
    · exact consistent.sent client earlier
    · rw [List.mem_singleton.mp new]
      exact ⟨_, rfl, by simp, fun _ _ => rfl⟩
  · intro isDone client member
    rcases List.mem_append.mp member with earlier | new
    · exact consistent.settled isDone client earlier
    · rw [List.mem_singleton.mp new]
      rfl

theorem consistent_leave (consistent : Consistent (view, done)) (session : Nat) :
    Consistent (view.leave session, done) where
  sent client member := consistent.sent client (List.mem_filter.mp member).1
  stored := consistent.stored
  settled isDone client member := consistent.settled isDone client (List.mem_filter.mp member).1

theorem consistent_failure (consistent : Consistent (view, done)) :
    Consistent (view.updateStateAndBroadcast ⟨false, 0⟩, false) where
  sent client member := by
    rcases List.mem_map.mp member with ⟨before, -, rfl⟩
    exact ⟨_, rfl, fun _ => rfl, by simp⟩
  stored := consistent.stored
  settled := by simp

theorem consistent_broadcast {temperature : Int} (consistent : Consistent (view, done))
    (stored : view.broadcasting = some temperature) :
    Consistent ({ view.updateStateAndBroadcast ⟨true, temperature⟩ with broadcasting := none },
      true) where
  sent client member := by
    rcases List.mem_map.mp member with ⟨before, -, rfl⟩
    exact ⟨_, rfl, by simp, fun _ _ => consistent.stored temperature stored⟩
  stored := by simp
  settled _ := agrees_updateStateAndBroadcast view true (consistent.stored temperature stored)

/-- Nobody is misled by an unchanged value exactly when nobody has been sent a failure last. -/
theorem agrees_iff (consistent : Consistent (view, done)) (idle : view.broadcasting = none) :
    view.Agrees ↔ (view.currentTemperature ≠ 0 →
      ∀ client ∈ view.sessions, ∀ message ∈ client.2.head?, message.isSuccess = true) := by
  constructor
  · intro agrees notZero client member message last
    have shown := agrees client member
    rcases consistent.sent client member with ⟨sent, head, failed, -⟩
    obtain rfl := Option.some.inj (head.symm.trans last)
    rw [head, Option.map_some, Option.some.injEq] at shown
    by_contra isFailure
    exact notZero (shown.symm.trans (failed (by simpa using isFailure)))
  · intro unmisled client member
    rcases consistent.sent client member with ⟨message, head, failed, succeeded⟩
    rw [head, Option.map_some, Option.some.injEq]
    cases isSuccess : message.isSuccess with
    | true => exact succeeded isSuccess idle
    | false =>
        by_contra differs
        have notZero : view.currentTemperature ≠ 0 :=
          fun zero => differs ((failed isSuccess).trans zero.symm)
        have success := unmisled notZero client member message head
        simp [isSuccess] at success

theorem consistent_store (consistent : Consistent (view, done)) {temperature : Int} :
    Consistent ({ view with
      currentTemperature := temperature
      broadcasting := some temperature }, false) where
  sent client member := by
    rcases consistent.sent client member with ⟨message, head, failed, -⟩
    exact ⟨message, head, failed, by simp⟩
  stored other broadcasting := by simpa [eq_comm] using broadcasting
  settled := by simp

/-- A success either stores a new value or, if it is unchanged, does nothing. -/
theorem consistent_success (consistent : Consistent (view, done)) {value : Value}
    (idle : view.broadcasting = none)
    (unmisled : Unmisled nextTemperature (view, done) (.updateTemperatureNoti (some value))) :
    Consistent (view.updateTemperatureNoti nextTemperature (some value),
      (view.updateTemperatureNoti nextTemperature (some value)).broadcasting.isNone) := by
  by_cases changed : view.currentTemperature ≠ nextTemperature value
  · simp only [updateTemperatureNoti, if_pos changed]
    exact consistent_store consistent
  · simp only [updateTemperatureNoti, if_neg changed]
    refine ⟨consistent.sent, consistent.stored, fun _ => ?_⟩
    apply (agrees_iff consistent idle).mpr
    exact unmisled (not_not.mp changed).symm

theorem consistent_step {recorded after : TemperatureView × Bool} {action : Action Value}
    (consistent : Consistent recorded) (unmisled : Unmisled nextTemperature recorded action)
    (stepped : (protocol nextTemperature).step recorded action = some after) :
    Consistent after := by
  rcases recorded with ⟨view, done⟩
  rcases after with ⟨next, nextDone⟩
  rcases System.withHistory_step_eq_some.mp stepped with ⟨taken, observed⟩
  simp only at taken observed
  subst observed
  cases action with
  | join session => exact consistent_join consistent taken
  | leave session =>
      cases taken
      exact consistent_leave consistent session
  | broadcast =>
      rcases Option.map_eq_some_iff.mp taken with ⟨temperature, stored, rfl⟩
      exact consistent_broadcast consistent stored
  | updateTemperatureNoti notification =>
      cases idle : view.broadcasting with
      | some temperature => simp [step, idle] at taken
      | none =>
          simp only [step, idle, Option.some.injEq] at taken
          subst taken
          cases notification with
          | none => exact consistent_failure consistent
          | some value => exact consistent_success consistent idle unmisled

/-- Where the condition fails, the value has been processed and somebody disagrees. -/
theorem not_agrees_of_misled {recorded after : TemperatureView × Bool} {action : Action Value}
    (consistent : Consistent recorded) (misled : ¬ Unmisled nextTemperature recorded action)
    (stepped : (protocol nextTemperature).step recorded action = some after) :
    ¬ AgreesOnceProcessed after := by
  rcases recorded with ⟨view, done⟩
  rcases after with ⟨next, nextDone⟩
  rcases System.withHistory_step_eq_some.mp stepped with ⟨taken, observed⟩
  simp only at taken observed
  subst observed
  cases action with
  | join session | leave session | broadcast => exact absurd trivial misled
  | updateTemperatureNoti notification =>
      cases notification with
      | none => exact absurd trivial misled
      | some value =>
          simp only [Unmisled, Classical.not_imp] at misled
          rcases misled with ⟨unchanged, notZero, somebody⟩
          cases idle : view.broadcasting with
          | some temperature => simp [step, idle] at taken
          | none =>
              simp only [step, idle, updateTemperatureNoti, unchanged, ne_eq, not_true_eq_false,
                if_false, Option.some.injEq] at taken
              subst taken
              intro agrees
              have agreement := agrees (by simp [processed, idle])
              exact somebody ((agrees_iff consistent idle).mp agreement notZero)

/--
Whenever a reported temperature has been processed, the last one sent to every connected client
is the server's, exactly when no unchanged value comes while a client has been sent a failure
last.
-/
theorem agrees_iff_unmisled (nextTemperature : Value → Int) {schedule : List (Action Value)}
    {final : TemperatureView × Bool} (ran : (protocol nextTemperature).run schedule = some final) :
    (protocol nextTemperature).Along (Unmisled nextTemperature) schedule ↔
      (protocol nextTemperature).Visits AgreesOnceProcessed schedule := by
  have initial : Consistent (protocol nextTemperature).init :=
    ⟨by simp [protocol, System.withHistory], by simp [protocol, System.withHistory],
      by simp [protocol, System.withHistory]⟩
  exact System.along_iff_visits Consistent initial
    (fun _ _ _ consistent unmisled stepped => consistent_step consistent unmisled stepped)
    (fun _ consistent => consistent.settled)
    (fun _ _ _ consistent misled stepped => not_agrees_of_misled consistent misled stepped) ran

/-- The values of these examples are tenths of a degree. -/
def roundTenths (tenths : Int) : Int := (tenths + 5).tdiv 10

/-- A client joins before and one after a temperature is reported, and a failure is followed by
a new value. -/
def failureThenChange : List (Action Int) :=
  [.join 0, .updateTemperatureNoti (some 214), .broadcast, .join 1, .updateTemperatureNoti none,
    .updateTemperatureNoti (some 226), .broadcast]

theorem agrees_failureThenChange :
    ((protocol roundTenths).run failureThenChange).isSome = true ∧
      (protocol roundTenths).Visits AgreesOnceProcessed failureThenChange := by
  have ran : ((protocol roundTenths).run failureThenChange).isSome = true := by decide
  rcases Option.isSome_iff_exists.mp ran with ⟨final, ended⟩
  exact ⟨ran, (agrees_iff_unmisled roundTenths ended).mp (by decide)⟩

/-- After the failure the temperature is reported unchanged. -/
def failureThenUnchanged : List (Action Int) :=
  [.join 0, .updateTemperatureNoti (some 214), .broadcast, .updateTemperatureNoti none,
    .updateTemperatureNoti (some 211)]

/-- The client is left with 0 degrees, while the server has 21. -/
theorem not_agrees_failureThenUnchanged :
    ¬ ∀ (schedule : List (Action Int)) (final : TemperatureView × Bool),
      (protocol roundTenths).run schedule = some final → AgreesOnceProcessed final := by
  intro agrees
  have ran : (protocol roundTenths).run failureThenUnchanged = some ({
      currentTemperature := 21
      sessions := [(0, [⟨false, 0⟩, ⟨true, 21⟩, ⟨true, 0⟩])] }, true) := by decide
  have agreement := agrees _ _ ran rfl (0, [⟨false, 0⟩, ⟨true, 21⟩, ⟨true, 0⟩]) (by simp)
  simp at agreement

end TemperatureView

end RaspberryPiService
