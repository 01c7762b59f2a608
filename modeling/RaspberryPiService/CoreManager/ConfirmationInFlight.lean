import RaspberryPiService.CoreManager.Confirmation

/-!
# What may still end as a rejection in the core manager

A rejection leaves the core manager as a message to the hardware manager. It starts as
a client's event or as the notification of a request, and in the second case passes
through the timer: the element being armed, the table, the list of expired elements and
the timeout event. `inFlight` lists all of these with their address and origin. A step
moves items along or drops them; only `pushEvent` brings in new ones.
-/

namespace RaspberryPiService

namespace HardwareHandler

variable {Origin : Type} {handler next : HardwareHandler Origin}

/-- The events that may lead to a rejection, with the address to be rejected. -/
def rejectingItem : ConfirmationEvent Origin → Option (String × Origin)
  | .acceptRequestConfirmation _ _ => none
  | .rejectRequestConfirmation address origin => some (address, origin)
  | .btDeviceRequestConfirmationNoti address _ origin => some (address, origin)
  | .btDeviceRequestConfirmationTimeout address origin => some (address, origin)

def rejectingElement (element : TimerElement (ConfirmationEvent Origin)) :
    Option (String × Origin) :=
  element.event.bind rejectingItem

def rejectingMessage (message : DecisionMessage Origin) : Option (String × Origin) :=
  match message.command with
  | .acceptRequestConfirmation => none
  | .rejectRequestConfirmation => some (message.address, message.origin)

def armingElements (handler : HardwareHandler Origin) :
    List (TimerElement (ConfirmationEvent Origin)) :=
  match handler.arming with
  | .made _ element => [element]
  | _ => []

/-- Everything in the core manager that may still end as a rejection. -/
def inFlight (handler : HardwareHandler Origin) : List (String × Origin) :=
  handler.eventQueue.filterMap rejectingItem ++
    (handler.armingElements ++ handler.timer.elements ++
      handler.timer.expiredTimerElementList).filterMap rejectingElement ++
    handler.sent.filterMap rejectingMessage

theorem mem_inFlight {item : String × Origin} :
    item ∈ handler.inFlight ↔
      (∃ event ∈ handler.eventQueue, rejectingItem event = some item) ∨
        (∃ element, (element ∈ handler.armingElements ∨ element ∈ handler.timer.elements ∨
          element ∈ handler.timer.expiredTimerElementList) ∧
            rejectingElement element = some item) ∨
        ∃ message ∈ handler.sent, rejectingMessage message = some item := by
  simp only [inFlight, List.mem_append, List.mem_filterMap, or_assoc]

/-- Everything in flight after the step was in flight before it, or belongs to `extra`. -/
def InFlightWithin (handler next : HardwareHandler Origin) (extra : List (String × Origin)) :
    Prop :=
  ∀ item ∈ next.inFlight, item ∈ handler.inFlight ∨ item ∈ extra

theorem inFlightWithin_of {extra : List (String × Origin)}
    (events : ∀ event ∈ next.eventQueue, ∀ item, rejectingItem event = some item →
      item ∈ handler.inFlight ∨ item ∈ extra)
    (elements : ∀ element, (element ∈ next.armingElements ∨ element ∈ next.timer.elements ∨
      element ∈ next.timer.expiredTimerElementList) →
        ∀ item, rejectingElement element = some item → item ∈ handler.inFlight ∨ item ∈ extra)
    (messages : ∀ message ∈ next.sent, ∀ item, rejectingMessage message = some item →
      item ∈ handler.inFlight ∨ item ∈ extra) :
    handler.InFlightWithin next extra := by
  intro item member
  rcases mem_inFlight.mp member with ⟨event, queued, rejects⟩ | ⟨element, held, rejects⟩ |
    ⟨message, sent, rejects⟩
  · exact events event queued item rejects
  · exact elements element held item rejects
  · exact messages message sent item rejects

theorem mem_inFlight_of_event {event : ConfirmationEvent Origin} {item : String × Origin}
    (queued : event ∈ handler.eventQueue) (rejects : rejectingItem event = some item) :
    item ∈ handler.inFlight :=
  mem_inFlight.mpr (Or.inl ⟨event, queued, rejects⟩)

theorem mem_inFlight_of_element {element : TimerElement (ConfirmationEvent Origin)}
    {item : String × Origin}
    (held : element ∈ handler.armingElements ∨ element ∈ handler.timer.elements ∨
      element ∈ handler.timer.expiredTimerElementList)
    (rejects : rejectingElement element = some item) : item ∈ handler.inFlight :=
  mem_inFlight.mpr (Or.inr (Or.inl ⟨element, held, rejects⟩))

theorem mem_inFlight_of_message {message : DecisionMessage Origin} {item : String × Origin}
    (sent : message ∈ handler.sent) (rejects : rejectingMessage message = some item) :
    item ∈ handler.inFlight :=
  mem_inFlight.mpr (Or.inr (Or.inr ⟨message, sent, rejects⟩))

/-- A decision adds one message, and its timers are among those that were running. -/
theorem afterDecision_spec (handler : HardwareHandler Origin) (command : DecisionCommand)
    (address : String) (origin : Origin) :
    let decided := handler.afterDecision command address origin
    decided.eventQueue = handler.eventQueue ∧
      decided.timer.expiredTimerElementList = handler.timer.expiredTimerElementList ∧
      (∀ element ∈ decided.timer.elements, element ∈ handler.timer.elements) ∧
      decided.sent = handler.sent ++ [{ command, isSuccess := true, address, origin }] := by
  cases command <;>
    · simp only [afterDecision, acceptBTDeviceRequestConfirmation,
        rejectBTDeviceRequestConfirmation, removeTimerOnTimerIdMap, sendMessageNoti]
      split
      · refine ⟨rfl, ?_, fun element => Timer.mem_elements_of_stopTimer, rfl⟩
        simp only [Timer.stopTimer]
        split <;> rfl
      · exact ⟨rfl, rfl, fun _ running => running, rfl⟩

theorem inFlightWithin_afterDecision (command : DecisionCommand) {address : String}
    {origin : Origin} {event : ConfirmationEvent Origin}
    {eventQueue : List (ConfirmationEvent Origin)}
    (queue : handler.eventQueue = event :: eventQueue)
    (rejects : command = .rejectRequestConfirmation →
      rejectingItem event = some (address, origin)) :
    handler.InFlightWithin
      ({ handler with eventQueue }.afterDecision command address origin) [] := by
  rcases afterDecision_spec { handler with eventQueue } command address origin with
    ⟨queueAfter, expiredAfter, elementsAfter, sentAfter⟩
  refine inFlightWithin_of ?_ ?_ ?_
  · intro event queued item rejects
    rw [queueAfter] at queued
    exact Or.inl (mem_inFlight_of_event (by simp [queue, queued]) rejects)
  · intro element held item rejects
    refine Or.inl (mem_inFlight_of_element ?_ rejects)
    simp only [armingElements, arming_afterDecision, expiredAfter] at held ⊢
    exact held.imp_right (Or.imp_left (elementsAfter element))
  · intro message sent item isRejected
    rw [sentAfter, List.mem_append, List.mem_singleton] at sent
    rcases sent with earlier | rfl
    · exact Or.inl (mem_inFlight_of_message earlier isRejected)
    · cases command with
      | acceptRequestConfirmation => simp [rejectingMessage] at isRejected
      | rejectRequestConfirmation =>
          simp only [rejectingMessage, Option.some.injEq] at isRejected
          subst isRejected
          exact Or.inl (mem_inFlight_of_event (by simp [queue]) (rejects rfl))

theorem inFlightWithin_timeout {address : String} {origin : Origin}
    {eventQueue : List (ConfirmationEvent Origin)}
    (queue : handler.eventQueue =
      .btDeviceRequestConfirmationTimeout address origin :: eventQueue) :
    handler.InFlightWithin
      ({ handler with eventQueue }.handleBTDeviceRequestConfirmationTimeout address origin) [] := by
  refine inFlightWithin_of ?_ ?_ ?_
  · intro event queued item rejects
    have queuedBefore : event ∈ handler.eventQueue := queue ▸ List.mem_cons_of_mem _ queued
    exact Or.inl (mem_inFlight_of_event queuedBefore rejects)
  · intro element held item rejects
    exact Or.inl (mem_inFlight_of_element held rejects)
  · intro message sent item rejects
    simp only [handleBTDeviceRequestConfirmationTimeout, sendMessageNoti, List.mem_append,
      List.mem_singleton] at sent
    rcases sent with earlier | rfl
    · exact Or.inl (mem_inFlight_of_message earlier rejects)
    · have isHead : .btDeviceRequestConfirmationTimeout address origin ∈ handler.eventQueue := by
        simp [queue]
      exact Or.inl (mem_inFlight_of_event isHead rejects)

/-- The notification turns into the timer made for it; without a timer it is dropped. -/
theorem inFlightWithin_noti {address passkey : String} {origin : Origin}
    {eventQueue : List (ConfirmationEvent Origin)}
    (queue : handler.eventQueue =
      .btDeviceRequestConfirmationNoti address passkey origin :: eventQueue)
    (stepped : { handler with eventQueue }.btDeviceRequestConfirmationNOTI address passkey origin =
      some next) :
    handler.InFlightWithin next [] := by
  simp only [btDeviceRequestConfirmationNOTI, Option.map_eq_some_iff] at stepped
  rcases stepped with ⟨⟨made, timer⟩, started, rfl⟩
  have counter := Timer.startTimer_counter started
  have running : timer.elements = handler.timer.elements := by
    rw [counter]
    rfl
  have expired : timer.expiredTimerElementList = handler.timer.expiredTimerElementList := by
    rw [counter]
  have isHead : .btDeviceRequestConfirmationNoti address passkey origin ∈ handler.eventQueue := by
    simp [queue]
  have queuedBefore : ∀ event ∈ eventQueue, event ∈ handler.eventQueue := by
    simp +contextual [queue]
  cases made with
  | none =>
      refine inFlightWithin_of ?_ ?_ ?_
      · intro event queued item rejects
        exact Or.inl (mem_inFlight_of_event (queuedBefore event queued) rejects)
      · intro element held item rejects
        simp only [running, expired] at held
        exact Or.inl (mem_inFlight_of_element held rejects)
      · intro message sent item rejects
        exact Or.inl (mem_inFlight_of_message sent rejects)
  | some made =>
      refine inFlightWithin_of ?_ ?_ ?_
      · intro event queued item rejects
        exact Or.inl (mem_inFlight_of_event (queuedBefore event queued) rejects)
      · intro element held item rejects
        simp only [armingElements, List.mem_singleton, running, expired] at held
        rcases held with rfl | held
        · have carried := (Timer.startTimer_made started).1
          simp only [rejectingElement, carried, Option.bind_some] at rejects
          exact Or.inl (mem_inFlight_of_event isHead rejects)
        · exact Or.inl (mem_inFlight_of_element (Or.inr held) rejects)
      · intro message sent item rejects
        exact Or.inl (mem_inFlight_of_message sent rejects)

theorem inFlightWithin_processEvent (stepped : handler.processEvent = some next) :
    handler.InFlightWithin next [] := by
  simp only [processEvent] at stepped
  split at stepped
  · next event eventQueue _ queue =>
      cases event with
      | acceptRequestConfirmation address origin =>
          simp only [Option.some.injEq] at stepped
          subst stepped
          exact inFlightWithin_afterDecision .acceptRequestConfirmation queue (by simp)
      | rejectRequestConfirmation address origin =>
          simp only [Option.some.injEq] at stepped
          subst stepped
          exact inFlightWithin_afterDecision .rejectRequestConfirmation queue (fun _ => rfl)
      | btDeviceRequestConfirmationNoti address passkey origin =>
          exact inFlightWithin_noti queue stepped
      | btDeviceRequestConfirmationTimeout address origin =>
          simp only [Option.some.injEq] at stepped
          subst stepped
          exact inFlightWithin_timeout queue
  · simp at stepped

/-- Only a new event adds to what is in flight in the core manager. -/
theorem inFlightWithin_step {action : Action Origin}
    (stepped : handler.step action = some next) :
    handler.InFlightWithin next
      (match action with
        | .pushEvent event => (rejectingItem event).toList
        | _ => []) := by
  cases action with
  | setEventQueue | tick _ =>
      simp only [step, Option.some.injEq] at stepped
      subst stepped
      exact fun item member => Or.inl member
  | pushEvent event =>
      simp only [step, Option.some.injEq] at stepped
      subst stepped
      refine inFlightWithin_of ?_ ?_ ?_
      · intro queuedEvent queued item rejects
        rcases List.mem_append.mp queued with earlier | pushed
        · exact Or.inl (mem_inFlight_of_event earlier rejects)
        · rw [List.mem_singleton] at pushed
          subst pushed
          simp [rejects]
      · intro element held item rejects
        exact Or.inl (mem_inFlight_of_element held rejects)
      · intro message sent item rejects
        exact Or.inl (mem_inFlight_of_message sent rejects)
  | processEvent => exact inFlightWithin_processEvent stepped
  | insertTimer =>
      simp only [step] at stepped
      split at stepped
      · next address made arming =>
          simp only [Option.some.injEq] at stepped
          subst stepped
          refine inFlightWithin_of ?_ ?_ ?_
          · intro event queued item rejects
            exact Or.inl (mem_inFlight_of_event queued rejects)
          · intro element held item rejects
            refine Or.inl (mem_inFlight_of_element ?_ rejects)
            have expired : (handler.timer.insertTimer made).expiredTimerElementList =
                handler.timer.expiredTimerElementList := by
              simp only [Timer.insertTimer]
              split <;> rfl
            rcases held with arms | running | elapsed
            · simp [armingElements] at arms
            · rcases Timer.mem_elements_of_insertTimer running with earlier | rfl
              · exact Or.inr (Or.inl earlier)
              · exact Or.inl (by simp [armingElements, arming])
            · exact Or.inr (Or.inr (expired ▸ elapsed))
          · intro message sent item rejects
            exact Or.inl (mem_inFlight_of_message sent rejects)
      · simp at stepped
  | storeTimerId =>
      simp only [step] at stepped
      split at stepped
      · next address timerId arming =>
          simp only [Option.some.injEq] at stepped
          subst stepped
          intro item member
          rw [mem_inFlight] at member
          refine Or.inl (mem_inFlight.mpr ?_)
          simpa [armingElements, arming] using member
      · simp at stepped
  | sweepExpired currentTime =>
      simp only [step, Option.ite_none_right_eq_some, Option.some.injEq] at stepped
      rcases stepped with ⟨-, rfl⟩
      refine inFlightWithin_of ?_ ?_ ?_
      · intro event queued item rejects
        exact Or.inl (mem_inFlight_of_event queued rejects)
      · intro element held item rejects
        refine Or.inl (mem_inFlight_of_element ?_ rejects)
        rcases held with arms | running | elapsed
        · exact Or.inl arms
        · exact Or.inr (Or.inl (Timer.mem_elements_of_sweepExpired running))
        · exact Or.inr (Timer.mem_expired_of_sweepExpired elapsed).symm
      · intro message sent item rejects
        exact Or.inl (mem_inFlight_of_message sent rejects)
  | pushExpired timerId =>
      simp only [step, Option.map_eq_some_iff] at stepped
      rcases stepped with ⟨⟨pushed, timer⟩, pushes, rfl⟩
      rcases Timer.pushExpired_spec pushes with ⟨table, expired, event⟩
      refine inFlightWithin_of ?_ ?_ ?_
      · intro queuedEvent queued item rejects
        rcases List.mem_append.mp queued with earlier | isPushed
        · exact Or.inl (mem_inFlight_of_event earlier rejects)
        · rcases event queuedEvent (by simpa using isPushed) with ⟨element, member, carried⟩
          refine Or.inl (mem_inFlight_of_element (Or.inr (Or.inr member)) ?_)
          simpa [rejectingElement, carried] using rejects
      · intro element held item rejects
        refine Or.inl (mem_inFlight_of_element ?_ rejects)
        simp only [Timer.elements] at table held ⊢
        rw [table] at held
        exact held.imp_right (Or.imp_right (expired element))
      · intro message sent item rejects
        exact Or.inl (mem_inFlight_of_message sent rejects)

end HardwareHandler

end RaspberryPiService
