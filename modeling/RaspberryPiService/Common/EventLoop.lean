import RaspberryPiService.Common.Event
import RaspberryPiService.Transition.Wakeup

/-!
# The event queue and its two mutexes

`pushEvent` appends an event under `queueMutex_`, and inside of that section notifies under
`wakeupMutex_`. The loop of a MainWorker tests the queue under `queueMutex_`; when it is
empty, `waitForEvent` takes `wakeupMutex_` and waits with a timeout, but with no predicate.

Every access to a mutex, the list or the condition variable is a step of its own, and any
number of producers may push at any time.
-/

namespace RaspberryPiService

/-- What a producer does next in `pushEvent`. -/
inductive ProducerPc (EventTypeID : Type) where
  | idle
  | lockQueue (event : Event EventTypeID)
  | pushBack (event : Event EventTypeID)
  | lockWakeup
  | notifyAll
  | unlockWakeup
  | unlockQueue
deriving DecidableEq

/-- What the loop of a MainWorker does next. -/
inductive ConsumerPc (EventTypeID : Type) where
  | testRunning
  | lockHasEvent
  | testEmpty
  | unlockHasEvent (hasEvent : Bool)
  | lockPopEvent
  | popFront
  | unlockPopEvent (event : Option (Event EventTypeID))
  | processEvent (event : Event EventTypeID)
  | lockWakeup
  | block
  | blocked
  | relock
  | unlockWakeup
  | exited
deriving DecidableEq

inductive QueueParty (Producer : Type) where
  | consumer
  | producer (producer : Producer)
deriving DecidableEq

structure EventLoop (Producer EventTypeID : Type) where
  eventList : EventQueue EventTypeID := []
  queueMutex : Option (QueueParty Producer) := none
  wakeupMutex : Option (QueueParty Producer) := none
  consumer : ConsumerPc EventTypeID := .testRunning
  producers : Producer → ProducerPc EventTypeID := fun _ => .idle
  runningFlag : Bool := true

/-- The entry of `pushEvent`, the next step of a thread, the end of a wait, and `stop`. -/
inductive EventLoopAction (Producer EventTypeID : Type) where
  | pushEvent (producer : Producer) (event : Option (Event EventTypeID))
  | producer (producer : Producer)
  | consumer
  | timeOut
  | stop
deriving DecidableEq

namespace ProducerPc

variable {EventTypeID : Type}

def holdsQueue : ProducerPc EventTypeID → Bool
  | .pushBack _ | .lockWakeup | .notifyAll | .unlockWakeup | .unlockQueue => true
  | _ => false

def holdsWakeup : ProducerPc EventTypeID → Bool
  | .notifyAll | .unlockWakeup => true
  | _ => false

/-- The event is in the list, and `notify_all` is still to come. -/
def notifies : ProducerPc EventTypeID → Bool
  | .lockWakeup | .notifyAll => true
  | _ => false

end ProducerPc

namespace ConsumerPc

variable {EventTypeID : Type}

def holdsQueue : ConsumerPc EventTypeID → Bool
  | .testEmpty | .unlockHasEvent _ | .popFront | .unlockPopEvent _ => true
  | _ => false

def holdsWakeup : ConsumerPc EventTypeID → Bool
  | .block | .unlockWakeup => true
  | _ => false

/-- From the test that finds the queue empty into `wait_for`. -/
def waitPhase : ConsumerPc EventTypeID → WaitPhase
  | .unlockHasEvent false | .lockWakeup | .block => .decided
  | .blocked => .blocked
  | _ => .awake

/-- `notify_all` on the condition variable, on which only the consumer waits. -/
def notifyAll : ConsumerPc EventTypeID → ConsumerPc EventTypeID
  | .blocked => .relock
  | pc => pc

/-- A thread that is notified is in none of its sections yet. -/
@[simp] theorem holdsQueue_notifyAll (pc : ConsumerPc EventTypeID) :
    pc.notifyAll.holdsQueue = pc.holdsQueue := by
  cases pc <;> rfl

@[simp] theorem holdsWakeup_notifyAll (pc : ConsumerPc EventTypeID) :
    pc.notifyAll.holdsWakeup = pc.holdsWakeup := by
  cases pc <;> rfl

theorem waitPhase_notifyAll (pc : ConsumerPc EventTypeID) :
    pc.notifyAll.waitPhase = pc.waitPhase.notified := by
  cases pc with
  | unlockHasEvent hasEvent => cases hasEvent <;> rfl
  | _ => rfl

end ConsumerPc

namespace EventLoop

variable {Producer EventTypeID : Type} [DecidableEq Producer]

def atProducer (loop : EventLoop Producer EventTypeID) (producer : Producer)
    (pc : ProducerPc EventTypeID) : EventLoop Producer EventTypeID :=
  { loop with producers := Function.update loop.producers producer pc }

/-- A null pointer is not pushed. -/
def invoke (loop : EventLoop Producer EventTypeID) (producer : Producer)
    (event : Option (Event EventTypeID)) : Option (EventLoop Producer EventTypeID) :=
  match loop.producers producer, event with
  | .idle, some event => some (loop.atProducer producer (.lockQueue event))
  | .idle, none => some loop
  | _, _ => none

/-- The next step of `pushEvent`. -/
def producerStep (loop : EventLoop Producer EventTypeID) (producer : Producer) :
    Option (EventLoop Producer EventTypeID) :=
  match loop.producers producer with
  | .idle => none
  | .lockQueue event =>
      if loop.queueMutex.isNone then
        some { loop.atProducer producer (.pushBack event) with
          queueMutex := some (.producer producer) }
      else none
  | .pushBack event =>
      some { loop.atProducer producer .lockWakeup with
        eventList := EventQueue.pushEvent loop.eventList (some event) }
  | .lockWakeup =>
      if loop.wakeupMutex.isNone then
        some { loop.atProducer producer .notifyAll with
          wakeupMutex := some (.producer producer) }
      else none
  | .notifyAll =>
      some { loop.atProducer producer .unlockWakeup with consumer := loop.consumer.notifyAll }
  | .unlockWakeup => some { loop.atProducer producer .unlockQueue with wakeupMutex := none }
  | .unlockQueue => some { loop.atProducer producer .idle with queueMutex := none }

/-- The next step of `threadFunction`. -/
def consumerStep (loop : EventLoop Producer EventTypeID) :
    Option (EventLoop Producer EventTypeID) :=
  match loop.consumer with
  | .testRunning =>
      some { loop with consumer := if loop.runningFlag then .lockHasEvent else .exited }
  | .lockHasEvent =>
      if loop.queueMutex.isNone then
        some { loop with queueMutex := some .consumer, consumer := .testEmpty }
      else none
  | .testEmpty => some { loop with consumer := .unlockHasEvent !loop.eventList.isEmpty }
  | .unlockHasEvent hasEvent =>
      some { loop with
        queueMutex := none, consumer := if hasEvent then .lockPopEvent else .lockWakeup }
  | .lockPopEvent =>
      if loop.queueMutex.isNone then
        some { loop with queueMutex := some .consumer, consumer := .popFront }
      else none
  | .popFront =>
      some { loop with
        eventList := loop.eventList.tail, consumer := .unlockPopEvent loop.eventList.head? }
  | .unlockPopEvent event =>
      some { loop with
        queueMutex := none
        consumer := match event with
          | some event => .processEvent event
          | none => .testRunning }
  | .processEvent _ => some { loop with consumer := .testRunning }
  | .lockWakeup =>
      if loop.wakeupMutex.isNone then
        some { loop with wakeupMutex := some .consumer, consumer := .block }
      else none
  | .block => some { loop with wakeupMutex := none, consumer := .blocked }
  -- The wait ends by a notification or by `timeOut`.
  | .blocked => none
  | .relock =>
      if loop.wakeupMutex.isNone then
        some { loop with wakeupMutex := some .consumer, consumer := .unlockWakeup }
      else none
  | .unlockWakeup => some { loop with wakeupMutex := none, consumer := .testRunning }
  | .exited => none

def step (loop : EventLoop Producer EventTypeID) :
    EventLoopAction Producer EventTypeID → Option (EventLoop Producer EventTypeID)
  | .pushEvent producer event => loop.invoke producer event
  | .producer producer => loop.producerStep producer
  | .consumer => loop.consumerStep
  -- At the end of its time, or spuriously before.
  | .timeOut =>
      match loop.consumer with
      | .blocked => some { loop with consumer := .relock }
      | _ => none
  | .stop => some { loop with runningFlag := false }

def protocol (Producer EventTypeID : Type) [DecidableEq Producer] :
    System (EventLoop Producer EventTypeID) (EventLoopAction Producer EventTypeID) where
  init := {}
  step := step

/-- An event is in the queue, every push has returned, and the consumer waits for its timeout. -/
def LeavesEvent (loop : EventLoop Producer EventTypeID) : Prop :=
  loop.consumer = .blocked ∧ loop.eventList ≠ [] ∧ ∀ producer, loop.producers producer = .idle

/-- No `notify_all` comes between `hasEvent` and the lock of `waitForEvent`. -/
def NotifiesInTime (loop : EventLoop Producer EventTypeID) :
    EventLoopAction Producer EventTypeID → Prop
  | .producer producer =>
      loop.producers producer = .notifyAll → loop.consumer ≠ .lockWakeup
  | _ => True

instance decidableNotifiesInTime [DecidableEq EventTypeID]
    (loop : EventLoop Producer EventTypeID) (action : EventLoopAction Producer EventTypeID) :
    Decidable (loop.NotifiesInTime action) :=
  match action with
  | .producer producer =>
      inferInstanceAs (Decidable (loop.producers producer = .notifyAll → _))
  | .pushEvent _ _ | .consumer | .timeOut | .stop => isTrue trivial

section Locks

/-- Who is in a section of `queueMutex_`. -/
def inQueue (loop : EventLoop Producer EventTypeID) : QueueParty Producer → Bool
  | .consumer => loop.consumer.holdsQueue
  | .producer producer => (loop.producers producer).holdsQueue

/-- Who is in a section of `wakeupMutex_`. -/
def inWakeup (loop : EventLoop Producer EventTypeID) : QueueParty Producer → Bool
  | .consumer => loop.consumer.holdsWakeup
  | .producer producer => (loop.producers producer).holdsWakeup

structure Exclusive (loop : EventLoop Producer EventTypeID) : Prop where
  queue : Mutex.Owned loop.queueMutex loop.inQueue
  wakeup : Mutex.Owned loop.wakeupMutex loop.inWakeup

variable {loop next : EventLoop Producer EventTypeID} {producer : Producer}

omit [DecidableEq Producer] in
theorem Exclusive.moveConsumer (exclusive : loop.Exclusive)
    (producers : next.producers = loop.producers)
    (queue : Mutex.Use .consumer loop.queueMutex next.queueMutex
      loop.consumer.holdsQueue next.consumer.holdsQueue)
    (wakeup : Mutex.Use .consumer loop.wakeupMutex next.wakeupMutex
      loop.consumer.holdsWakeup next.consumer.holdsWakeup) : next.Exclusive where
  queue := by
    apply exclusive.queue.use queue
    intro other differs
    cases other with
    | consumer => exact absurd rfl differs
    | producer producer => simp only [inQueue, producers]
  wakeup := by
    apply exclusive.wakeup.use wakeup
    intro other differs
    cases other with
    | consumer => exact absurd rfl differs
    | producer producer => simp only [inWakeup, producers]

/-- A step of a producer; a notification does not take the consumer into a section. -/
theorem Exclusive.moveProducer (exclusive : loop.Exclusive) {pc : ProducerPc EventTypeID}
    (producers : next.producers = Function.update loop.producers producer pc)
    (consumer : next.consumer = loop.consumer ∨ next.consumer = loop.consumer.notifyAll)
    (queue : Mutex.Use (.producer producer) loop.queueMutex next.queueMutex
      (loop.producers producer).holdsQueue pc.holdsQueue)
    (wakeup : Mutex.Use (.producer producer) loop.wakeupMutex next.wakeupMutex
      (loop.producers producer).holdsWakeup pc.holdsWakeup) : next.Exclusive where
  queue := by
    have own : next.inQueue (.producer producer) = pc.holdsQueue := by simp [inQueue, producers]
    rw [← own] at queue
    apply exclusive.queue.use queue
    intro other differs
    cases other with
    | consumer => rcases consumer with same | same <;> simp [inQueue, same]
    | producer other =>
        have differs : other ≠ producer := by simpa using differs
        simp [inQueue, producers, Function.update_of_ne differs]
  wakeup := by
    have own : next.inWakeup (.producer producer) = pc.holdsWakeup := by
      simp [inWakeup, producers]
    rw [← own] at wakeup
    apply exclusive.wakeup.use wakeup
    intro other differs
    cases other with
    | consumer => rcases consumer with same | same <;> simp [inWakeup, same]
    | producer other =>
        have differs : other ≠ producer := by simpa using differs
        simp [inWakeup, producers, Function.update_of_ne differs]

theorem Exclusive.invoke (exclusive : loop.Exclusive) {event : Option (Event EventTypeID)}
    (invoked : loop.invoke producer event = some next) : next.Exclusive := by
  unfold EventLoop.invoke at invoked
  split at invoked
  · cases invoked
    apply exclusive.moveProducer
    · rfl
    · exact Or.inl rfl
    · exact .keep rfl (by simp [ProducerPc.holdsQueue])
    · exact .keep rfl (by simp [ProducerPc.holdsWakeup])
  · cases invoked
    exact exclusive
  · cases invoked

theorem Exclusive.producerStep (exclusive : loop.Exclusive)
    (stepped : loop.producerStep producer = some next) : next.Exclusive := by
  cases pc : loop.producers producer with
  | idle => simp [EventLoop.producerStep, pc] at stepped
  | lockQueue event =>
      simp only [EventLoop.producerStep, pc, Option.ite_none_right_eq_some, Option.some.injEq,
        Option.isNone_iff_eq_none] at stepped
      rcases stepped with ⟨free, rfl⟩
      apply exclusive.moveProducer
      · rfl
      · exact Or.inl rfl
      · exact .acquire free rfl
      · exact .keep rfl (by simp [ProducerPc.holdsWakeup])
  | pushBack event =>
      simp only [EventLoop.producerStep, pc, Option.some.injEq] at stepped
      subst stepped
      apply exclusive.moveProducer
      · rfl
      · exact Or.inl rfl
      · exact .keep rfl (by simp [pc, ProducerPc.holdsQueue])
      · exact .keep rfl (by simp [ProducerPc.holdsWakeup])
  | lockWakeup =>
      simp only [EventLoop.producerStep, pc, Option.ite_none_right_eq_some, Option.some.injEq,
        Option.isNone_iff_eq_none] at stepped
      rcases stepped with ⟨free, rfl⟩
      apply exclusive.moveProducer
      · rfl
      · exact Or.inl rfl
      · exact .keep rfl (by simp [pc, ProducerPc.holdsQueue])
      · exact .acquire free rfl
  | notifyAll =>
      simp only [EventLoop.producerStep, pc, Option.some.injEq] at stepped
      subst stepped
      apply exclusive.moveProducer
      · rfl
      · exact Or.inr rfl
      · exact .keep rfl (by simp [pc, ProducerPc.holdsQueue])
      · exact .keep rfl (by simp [pc, ProducerPc.holdsWakeup])
  | unlockWakeup =>
      simp only [EventLoop.producerStep, pc, Option.some.injEq] at stepped
      subst stepped
      apply exclusive.moveProducer
      · rfl
      · exact Or.inl rfl
      · exact .keep rfl (by simp [pc, ProducerPc.holdsQueue])
      · exact .release (by simp [pc, ProducerPc.holdsWakeup]) rfl rfl
  | unlockQueue =>
      simp only [EventLoop.producerStep, pc, Option.some.injEq] at stepped
      subst stepped
      apply exclusive.moveProducer
      · rfl
      · exact Or.inl rfl
      · exact .release (by simp [pc, ProducerPc.holdsQueue]) rfl rfl
      · exact .keep rfl (by simp [ProducerPc.holdsWakeup])

omit [DecidableEq Producer] in
theorem Exclusive.consumerStep (exclusive : loop.Exclusive)
    (stepped : loop.consumerStep = some next) : next.Exclusive := by
  cases pc : loop.consumer with
  | testRunning =>
      simp only [EventLoop.consumerStep, pc, Option.some.injEq] at stepped
      subst stepped
      apply exclusive.moveConsumer
      · rfl
      · exact .keep rfl (by simp only; split <;> simp [ConsumerPc.holdsQueue])
      · exact .keep rfl (by simp only; split <;> simp [ConsumerPc.holdsWakeup])
  | lockHasEvent =>
      simp only [EventLoop.consumerStep, pc, Option.ite_none_right_eq_some, Option.some.injEq,
        Option.isNone_iff_eq_none] at stepped
      rcases stepped with ⟨free, rfl⟩
      apply exclusive.moveConsumer
      · rfl
      · exact .acquire free rfl
      · exact .keep rfl (by simp [ConsumerPc.holdsWakeup])
  | testEmpty =>
      simp only [EventLoop.consumerStep, pc, Option.some.injEq] at stepped
      subst stepped
      apply exclusive.moveConsumer
      · rfl
      · exact .keep rfl (by simp [pc, ConsumerPc.holdsQueue])
      · exact .keep rfl (by simp [ConsumerPc.holdsWakeup])
  | unlockHasEvent hasEvent =>
      simp only [EventLoop.consumerStep, pc, Option.some.injEq] at stepped
      subst stepped
      apply exclusive.moveConsumer
      · rfl
      · exact .release (by simp [pc, ConsumerPc.holdsQueue]) (by cases hasEvent <;> rfl) rfl
      · exact .keep rfl (by cases hasEvent <;> simp [ConsumerPc.holdsWakeup])
  | lockPopEvent =>
      simp only [EventLoop.consumerStep, pc, Option.ite_none_right_eq_some, Option.some.injEq,
        Option.isNone_iff_eq_none] at stepped
      rcases stepped with ⟨free, rfl⟩
      apply exclusive.moveConsumer
      · rfl
      · exact .acquire free rfl
      · exact .keep rfl (by simp [ConsumerPc.holdsWakeup])
  | popFront =>
      simp only [EventLoop.consumerStep, pc, Option.some.injEq] at stepped
      subst stepped
      apply exclusive.moveConsumer
      · rfl
      · exact .keep rfl (by simp [pc, ConsumerPc.holdsQueue])
      · exact .keep rfl (by simp [ConsumerPc.holdsWakeup])
  | unlockPopEvent event =>
      simp only [EventLoop.consumerStep, pc, Option.some.injEq] at stepped
      subst stepped
      apply exclusive.moveConsumer
      · rfl
      · exact .release (by simp [pc, ConsumerPc.holdsQueue]) (by cases event <;> rfl) rfl
      · exact .keep rfl (by cases event <;> simp [ConsumerPc.holdsWakeup])
  | processEvent event =>
      simp only [EventLoop.consumerStep, pc, Option.some.injEq] at stepped
      subst stepped
      apply exclusive.moveConsumer
      · rfl
      · exact .keep rfl (by simp [ConsumerPc.holdsQueue])
      · exact .keep rfl (by simp [ConsumerPc.holdsWakeup])
  | lockWakeup =>
      simp only [EventLoop.consumerStep, pc, Option.ite_none_right_eq_some, Option.some.injEq,
        Option.isNone_iff_eq_none] at stepped
      rcases stepped with ⟨free, rfl⟩
      apply exclusive.moveConsumer
      · rfl
      · exact .keep rfl (by simp [ConsumerPc.holdsQueue])
      · exact .acquire free rfl
  | block =>
      simp only [EventLoop.consumerStep, pc, Option.some.injEq] at stepped
      subst stepped
      apply exclusive.moveConsumer
      · rfl
      · exact .keep rfl (by simp [ConsumerPc.holdsQueue])
      · exact .release (by simp [pc, ConsumerPc.holdsWakeup]) rfl rfl
  | blocked => simp [EventLoop.consumerStep, pc] at stepped
  | relock =>
      simp only [EventLoop.consumerStep, pc, Option.ite_none_right_eq_some, Option.some.injEq,
        Option.isNone_iff_eq_none] at stepped
      rcases stepped with ⟨free, rfl⟩
      apply exclusive.moveConsumer
      · rfl
      · exact .keep rfl (by simp [ConsumerPc.holdsQueue])
      · exact .acquire free rfl
  | unlockWakeup =>
      simp only [EventLoop.consumerStep, pc, Option.some.injEq] at stepped
      subst stepped
      apply exclusive.moveConsumer
      · rfl
      · exact .keep rfl (by simp [ConsumerPc.holdsQueue])
      · exact .release (by simp [pc, ConsumerPc.holdsWakeup]) rfl rfl
  | exited => simp [EventLoop.consumerStep, pc] at stepped

theorem Exclusive.step (exclusive : loop.Exclusive)
    {action : EventLoopAction Producer EventTypeID} (stepped : loop.step action = some next) :
    next.Exclusive := by
  cases action with
  | pushEvent producer event => exact exclusive.invoke stepped
  | producer producer => exact exclusive.producerStep stepped
  | consumer => exact exclusive.consumerStep stepped
  | timeOut =>
      simp only [EventLoop.step] at stepped
      split at stepped <;> cases stepped
      apply exclusive.moveConsumer
      · rfl
      · exact .keep rfl (by simp [ConsumerPc.holdsQueue])
      · exact .keep rfl (by simp [ConsumerPc.holdsWakeup])
  | stop =>
      cases stepped
      exact ⟨exclusive.queue, exclusive.wakeup⟩

end Locks

section Waiting

/-- The consumer, with the events that are in the queue. -/
def waiter (Producer EventTypeID : Type) : Waiter (EventLoop Producer EventTypeID) where
  phase loop := loop.consumer.waitPhase
  due loop := loop.eventList ≠ []
  pending loop := ∃ producer, (loop.producers producer).notifies = true

variable {loop next : EventLoop Producer EventTypeID} {producer : Producer}

/-- A step of a producer that is not between its event and its notification. -/
theorem move_of_producer {pc : ProducerPc EventTypeID}
    (producers : next.producers = Function.update loop.producers producer pc)
    (consumer : next.consumer = loop.consumer) (eventList : next.eventList = loop.eventList)
    (silent : (loop.producers producer).notifies = false) :
    (waiter Producer EventTypeID).Move loop next := by
  apply Waiter.Move.keeps
  · intro asleep
    simpa [waiter, consumer] using asleep
  · intro due
    simpa [waiter, eventList] using due
  · rintro ⟨other, coming⟩
    have differs : other ≠ producer := by
      rintro rfl
      simp [silent] at coming
    refine ⟨other, ?_⟩
    rwa [producers, Function.update_of_ne differs]

theorem move_announced {pc : ProducerPc EventTypeID}
    (producers : next.producers = Function.update loop.producers producer pc)
    (notifies : pc.notifies = true) : (waiter Producer EventTypeID).Move loop next := by
  apply Waiter.Move.announces
  refine ⟨producer, ?_⟩
  rw [producers, Function.update_self, notifies]

omit [DecidableEq Producer] in
/-- While a producer notifies, the consumer is in none of its own sections. -/
theorem Exclusive.notifyAll_reaches (exclusive : loop.Exclusive)
    (pc : loop.producers producer = .notifyAll) (inTime : loop.consumer ≠ .lockWakeup) :
    loop.consumer.waitPhase ≠ .decided := by
  have notInQueue : loop.consumer.holdsQueue = false := by
    by_contra held
    have same := exclusive.queue.unique (.producer producer) .consumer
      (by simp [inQueue, pc, ProducerPc.holdsQueue]) (by simpa [inQueue] using held)
    cases same
  have notInWakeup : loop.consumer.holdsWakeup = false := by
    by_contra held
    have same := exclusive.wakeup.unique (.producer producer) .consumer
      (by simp [inWakeup, pc, ProducerPc.holdsWakeup]) (by simpa [inWakeup] using held)
    cases same
  cases consumer : loop.consumer with
  | unlockHasEvent hasEvent => simp [consumer, ConsumerPc.holdsQueue] at notInQueue
  | lockWakeup => exact absurd consumer inTime
  | block => simp [consumer, ConsumerPc.holdsWakeup] at notInWakeup
  | _ => simp [ConsumerPc.waitPhase]

theorem move_producerStep (exclusive : loop.Exclusive)
    (inTime : loop.producers producer = .notifyAll → loop.consumer ≠ .lockWakeup)
    (stepped : loop.producerStep producer = some next) :
    (waiter Producer EventTypeID).Move loop next := by
  cases pc : loop.producers producer with
  | idle => simp [producerStep, pc] at stepped
  | lockQueue event =>
      simp only [producerStep, pc, Option.ite_none_right_eq_some, Option.some.injEq] at stepped
      rcases stepped with ⟨-, rfl⟩
      exact move_of_producer rfl rfl rfl (by rw [pc]; rfl)
  | pushBack event =>
      simp only [producerStep, pc, Option.some.injEq] at stepped
      subst stepped
      exact move_announced rfl rfl
  | lockWakeup =>
      simp only [producerStep, pc, Option.ite_none_right_eq_some, Option.some.injEq] at stepped
      rcases stepped with ⟨-, rfl⟩
      exact move_announced rfl rfl
  | notifyAll =>
      simp only [producerStep, pc, Option.some.injEq] at stepped
      subst stepped
      apply Waiter.move_of_notified
      · exact exclusive.notifyAll_reaches pc (inTime pc)
      · exact ConsumerPc.waitPhase_notifyAll loop.consumer
  | unlockWakeup =>
      simp only [producerStep, pc, Option.some.injEq] at stepped
      subst stepped
      exact move_of_producer rfl rfl rfl (by rw [pc]; rfl)
  | unlockQueue =>
      simp only [producerStep, pc, Option.some.injEq] at stepped
      subst stepped
      exact move_of_producer rfl rfl rfl (by rw [pc]; rfl)

omit [DecidableEq Producer] in
/-- The consumer goes on with its wait. -/
theorem move_asleep (producers : next.producers = loop.producers)
    (eventList : next.eventList = loop.eventList) (asleep : loop.consumer.waitPhase ≠ .awake) :
    (waiter Producer EventTypeID).Move loop next := by
  apply Waiter.Move.keeps
  · exact fun _ => asleep
  · intro due
    simpa [waiter, eventList] using due
  · intro coming
    simpa [waiter, producers] using coming

omit [DecidableEq Producer] in
theorem move_consumerStep (stepped : loop.consumerStep = some next) :
    (waiter Producer EventTypeID).Move loop next := by
  cases pc : loop.consumer with
  | testEmpty =>
      simp only [consumerStep, pc, Option.some.injEq] at stepped
      subst stepped
      cases empty : loop.eventList.isEmpty with
      | true =>
          apply Waiter.Move.decides
          simpa [waiter] using empty
      | false =>
          apply Waiter.Move.wakes
          simp [waiter, ConsumerPc.waitPhase]
  | unlockHasEvent hasEvent =>
      simp only [consumerStep, pc, Option.some.injEq] at stepped
      subst stepped
      cases hasEvent with
      | true => exact Waiter.Move.wakes rfl
      | false => exact move_asleep rfl rfl (by simp [pc, ConsumerPc.waitPhase])
  | lockWakeup =>
      simp only [consumerStep, pc, Option.ite_none_right_eq_some, Option.some.injEq] at stepped
      rcases stepped with ⟨-, rfl⟩
      exact move_asleep rfl rfl (by simp [pc, ConsumerPc.waitPhase])
  | block =>
      simp only [consumerStep, pc, Option.some.injEq] at stepped
      subst stepped
      exact move_asleep rfl rfl (by simp [pc, ConsumerPc.waitPhase])
  | testRunning =>
      simp only [consumerStep, pc, Option.some.injEq] at stepped
      subst stepped
      apply Waiter.Move.wakes
      simp only [waiter]
      split <;> rfl
  | unlockPopEvent event =>
      simp only [consumerStep, pc, Option.some.injEq] at stepped
      subst stepped
      apply Waiter.Move.wakes
      cases event <;> rfl
  | lockHasEvent | lockPopEvent | relock =>
      simp only [consumerStep, pc, Option.ite_none_right_eq_some, Option.some.injEq] at stepped
      rcases stepped with ⟨-, rfl⟩
      exact Waiter.Move.wakes rfl
  | popFront | processEvent _ | unlockWakeup =>
      simp only [consumerStep, pc, Option.some.injEq] at stepped
      subst stepped
      exact Waiter.Move.wakes rfl
  | blocked | exited => simp [consumerStep, pc] at stepped

theorem move_of_step (exclusive : loop.Exclusive)
    {action : EventLoopAction Producer EventTypeID} (inTime : loop.NotifiesInTime action)
    (stepped : loop.step action = some next) : (waiter Producer EventTypeID).Move loop next := by
  cases action with
  | pushEvent producer event =>
      simp only [step, invoke] at stepped
      split at stepped
      · next idle =>
          cases stepped
          exact move_of_producer rfl rfl rfl (by rw [idle]; rfl)
      · cases stepped
        exact .keeps id id id
      · cases stepped
  | producer producer => exact move_producerStep exclusive inTime stepped
  | consumer => exact move_consumerStep stepped
  | timeOut =>
      simp only [step] at stepped
      split at stepped <;> cases stepped
      exact Waiter.Move.wakes rfl
  | stop =>
      cases stepped
      exact .keeps id id id

theorem exclusive_init : (protocol Producer EventTypeID).init.Exclusive where
  queue := by
    intro party inside
    cases party <;> simp [protocol, inQueue, ConsumerPc.holdsQueue, ProducerPc.holdsQueue] at inside
  wakeup := by
    intro party inside
    cases party <;>
      simp [protocol, inWakeup, ConsumerPc.holdsWakeup, ProducerPc.holdsWakeup] at inside

/--
An event is never left to the timeout, whatever the producers do, if none of them notifies
the consumer between its test of the queue and its wait.
-/
theorem never_leaves_event {schedule : List (EventLoopAction Producer EventTypeID)}
    (along : (protocol Producer EventTypeID).Along NotifiesInTime schedule) :
    (protocol Producer EventTypeID).Visits (fun loop => ¬ loop.LeavesEvent) schedule := by
  apply (waiter Producer EventTypeID).visits_of_moves Exclusive exclusive_init _ _ _ along
  · exact Waiter.kept_of_awake rfl
  · intro loop action next exclusive inTime stepped
    exact ⟨exclusive.step stepped, move_of_step exclusive inTime stepped⟩
  · rintro loop exclusive noticed ⟨blocked, nonempty, returned⟩
    apply noticed
    refine ⟨by simp [waiter, blocked, ConsumerPc.waitPhase], nonempty, ?_⟩
    rintro ⟨producer, coming⟩
    simp [returned, ProducerPc.notifies] at coming

/-- All of `pushEvent`. -/
def pushed : List (EventLoopAction Unit Unit) :=
  .pushEvent () (some { eventTypeId := () }) :: List.replicate 6 (.producer ())

/-- The event comes when the consumer is blocked. -/
def pushedWhileBlocked : List (EventLoopAction Unit Unit) :=
  List.replicate 6 .consumer ++ pushed

theorem never_leaves_event_pushedWhileBlocked :
    (protocol Unit Unit).Visits (fun loop => ¬ loop.LeavesEvent) pushedWhileBlocked :=
  never_leaves_event (by decide)

/-- The event comes when `hasEvent` has returned and `waitForEvent` has not begun. -/
def pushedBeforeWait : List (EventLoopAction Unit Unit) :=
  List.replicate 4 .consumer ++ pushed ++ List.replicate 2 .consumer

theorem leavesEvent_pushedBeforeWait :
    ∃ loop, (protocol Unit Unit).run pushedBeforeWait = some loop ∧ loop.LeavesEvent :=
  ⟨_, rfl, rfl, by decide, fun _ => rfl⟩

end Waiting

end EventLoop

end RaspberryPiService
