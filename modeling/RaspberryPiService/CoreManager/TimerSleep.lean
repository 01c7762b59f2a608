import RaspberryPiService.CoreManager.TimerThreads

/-!
# The sleep of the timer thread

Between two sweeps the timer thread sleeps until the earliest timer of the table is due. A
call that changes the table notifies it; it then looks whether the size of the table is
still the one that it fell asleep with, and sleeps on if so.

The thread is put before its sleep with an arbitrary table, and goes through its loop from
there, while any threads call `startTimer` and `stopTimer`.
-/

namespace RaspberryPiService

/-- `INTERNAL_SLEEP_TIMEOUT_MS`. -/
def internalSleepTimeoutMs : Nat := 2500

structure TimerSleep (Event : Type) where
  nextItemTimeout : Nat
  mapSize : Nat
  -- since the predicate of the wait was evaluated
  notified : Bool := false
  -- the timers that calls have inserted during the sleep
  inserted : List (TimerElement Event) := []
deriving DecidableEq

namespace Timer

variable {Event : Type}

/-- The minimum search of `sleepForNextItem`. -/
def earliestExpireTime (start : Nat) (elements : List (TimerElement Event)) : Nat :=
  elements.foldl
    (fun next element => if element.expireTime < next then element.expireTime else next) start

/-- What `sleepForNextItem` hands to `wait_until`. -/
def sleepForNextItem (timer : Timer Event) (currentTime : Nat) : TimerSleep Event where
  nextItemTimeout :=
    let defaultTimeout := currentTime + internalSleepTimeoutMs
    match timer.elements with
    | [] => defaultTimeout
    | first :: _ =>
        let nextItemTimeout := earliestExpireTime first.expireTime timer.elements
        if defaultTimeout < nextItemTimeout then defaultTimeout else nextItemTimeout
  mapSize := timer.timerTableMap.entries.length

theorem earliestExpireTime_le (start : Nat) (elements : List (TimerElement Event)) :
    earliestExpireTime start elements ≤ start ∧
      ∀ element ∈ elements, earliestExpireTime start elements ≤ element.expireTime := by
  induction elements generalizing start with
  | nil => simp [earliestExpireTime]
  | cons first rest ih =>
      simp only [earliestExpireTime, List.foldl_cons] at ih ⊢
      split
      · next earlier =>
          rcases ih first.expireTime with ⟨below, least⟩
          refine ⟨below.trans earlier.le, fun element member => ?_⟩
          rcases List.mem_cons.mp member with rfl | member
          · exact below
          · exact least element member
      · next later =>
          rcases ih start with ⟨below, least⟩
          refine ⟨below, fun element member => ?_⟩
          rcases List.mem_cons.mp member with rfl | member
          · omega
          · exact least element member

/-- A sleep ends before the first timer is due that was in the table at its beginning. -/
theorem nextItemTimeout_le (timer : Timer Event) (currentTime : Nat) :
    ∀ element ∈ timer.elements,
      (timer.sleepForNextItem currentTime).nextItemTimeout ≤ element.expireTime := by
  intro element running
  cases elements : timer.elements with
  | nil => simp [elements] at running
  | cons first rest =>
      have least := (earliestExpireTime_le first.expireTime timer.elements).2 element running
      simp only [elements] at least
      simp only [sleepForNextItem, elements]
      split <;> omega

end Timer

/-- What the timer thread does next; it is blocked at `wait`. -/
inductive TimerPc (Event : Type) where
  | testRunning
  | sweep (currentTime : Nat)
  | push (currentTime : Nat)
  | wait (sleep : TimerSleep Event)
  | finished

/-- `notify_all`, by a call that has inserted some timers. -/
def TimerPc.notifyAll {Event : Type} (pc : TimerPc Event) (inserted : List (TimerElement Event)) :
    TimerPc Event :=
  match pc with
  | .wait sleep => .wait { sleep with notified := true, inserted := sleep.inserted ++ inserted }
  | pc => pc

/-- The timer thread in its loop, next to its callers. -/
structure TimerLoop (Thread Event : Type) where
  host : TimerHost Thread Event
  pc : TimerPc (NumberedEvent Event)
  runningFlag : Bool := true

/--
The sections of the callers, the steps of the thread itself, and `stop` in two steps. The
thread evaluates its predicate when it is notified, and at any other time too.
-/
inductive TimerLoopAction (Thread Event : Type) where
  | call (action : TimerAction Thread Event)
  | testRunning
  | sweep
  | push (timerId : Int)
  | sleepForNextItem
  | evaluate
  | timeOut
  | stop
  | onStop

namespace TimerLoop

variable {Thread Event : Type} [DecidableEq Thread]

/-- A section of a call; the thread hears of a change to the table. -/
def call (loop : TimerLoop Thread Event) :
    TimerAction Thread Event → Option (TimerLoop Thread Event)
  | .startTimer thread clock timeoutMs event =>
      (loop.host.step (.startTimer thread clock timeoutMs event)).map fun host =>
        { loop with host }
  | .insertTimer thread =>
      (loop.host.step (.insertTimer thread)).map fun host =>
        { loop with host, pc := loop.pc.notifyAll (loop.host.making thread).toList }
  | .stopTimer timerId =>
      (loop.host.step (.stopTimer timerId)).map fun host =>
        { loop with
          host
          pc := if timerId ∈ loop.host.timer.timerTableMap then loop.pc.notifyAll [] else loop.pc }
  | .elapse duration =>
      (loop.host.step (.elapse duration)).map fun host => { loop with host }
  -- The thread sweeps and pushes by itself.
  | .sweepExpired _ | .pushExpired _ => none

def step (loop : TimerLoop Thread Event) :
    TimerLoopAction Thread Event → Option (TimerLoop Thread Event)
  | .call action => loop.call action
  | .testRunning =>
      match loop.pc with
      | .testRunning =>
          some { loop with
            pc := if loop.runningFlag then .sweep loop.host.now else .finished }
      | _ => none
  | .sweep =>
      match loop.pc with
      | .sweep currentTime =>
          (loop.host.step (.sweepExpired currentTime)).map fun host =>
            { loop with host, pc := .push currentTime }
      | _ => none
  | .push timerId =>
      match loop.pc with
      | .push _ =>
          (loop.host.step (.pushExpired timerId)).map fun host => { loop with host }
      | _ => none
  | .sleepForNextItem =>
      match loop.pc with
      | .push currentTime =>
          if loop.host.timer.expiredTimerElementList.isEmpty then
            -- The predicate is evaluated before the thread blocks.
            some { loop with
              pc := if loop.runningFlag then
                  .wait (loop.host.timer.sleepForNextItem currentTime)
                else .testRunning }
          else none
      | _ => none
  | .evaluate =>
      match loop.pc with
      | .wait sleep =>
          some { loop with
            pc := if !loop.runningFlag ∨
                loop.host.timer.timerTableMap.entries.length ≠ sleep.mapSize then .testRunning
              else .wait { sleep with notified := false } }
      | _ => none
  | .timeOut =>
      match loop.pc with
      | .wait sleep =>
          if sleep.nextItemTimeout ≤ loop.host.now then some { loop with pc := .testRunning }
          else none
      | _ => none
  | .stop => some { loop with runningFlag := false }
  | .onStop => some { loop with pc := loop.pc.notifyAll [] }

/-- The thread is about to fall asleep, with any timers in the table. -/
def protocol (host : TimerHost Thread Event) (currentTime : Nat) :
    System (TimerLoop Thread Event) (TimerLoopAction Thread Event) where
  init := { host, pc := .push currentTime }
  step := step

/-- A thread that has consumed its notifications wakes up before any timer is due. -/
def WakesInTime (loop : TimerLoop Thread Event) : Prop :=
  ∀ sleep, loop.pc = .wait sleep → sleep.notified = false →
    ∀ element ∈ loop.host.timer.elements, sleep.nextItemTimeout ≤ element.expireTime

/--
When the thread finds the size of the table unchanged, no timer that came during the sleep,
and is still there, is due before the end of the sleep.
-/
def SizeTells (loop : TimerLoop Thread Event) : TimerLoopAction Thread Event → Prop
  | .evaluate =>
      loop.runningFlag = true → ∀ sleep, loop.pc = .wait sleep →
        loop.host.timer.timerTableMap.entries.length = sleep.mapSize →
          ∀ element ∈ sleep.inserted, element ∈ loop.host.timer.elements →
            sleep.nextItemTimeout ≤ element.expireTime
  | _ => True

instance [DecidableEq Event] (loop : TimerLoop Thread Event)
    (action : TimerLoopAction Thread Event) : Decidable (loop.SizeTells action) :=
  match action with
  | .evaluate =>
      match position : loop.pc with
      | .wait sleep => decidable_of_iff
          (loop.runningFlag = true →
            loop.host.timer.timerTableMap.entries.length = sleep.mapSize →
              ∀ element ∈ sleep.inserted, element ∈ loop.host.timer.elements →
                sleep.nextItemTimeout ≤ element.expireTime)
          (by simp [SizeTells, position])
      | .testRunning | .sweep _ | .push _ | .finished => isTrue (by simp [SizeTells, position])
  | .call _ | .testRunning | .sweep | .push _ | .sleepForNextItem | .timeOut | .stop | .onStop =>
      isTrue trivial

/-- Timers that would be overslept have come during the sleep, and the thread is notified. -/
structure Watched (loop : TimerLoop Thread Event) : Prop where
  inTime : loop.WakesInTime
  others : ∀ sleep, loop.pc = .wait sleep → ∀ element ∈ loop.host.timer.elements,
    element ∈ sleep.inserted ∨ sleep.nextItemTimeout ≤ element.expireTime

variable {loop next : TimerLoop Thread Event} {action : TimerLoopAction Thread Event}

omit [DecidableEq Thread] in
theorem watched_of_awake (awake : ∀ sleep, loop.pc ≠ .wait sleep) : loop.Watched where
  inTime sleep asleep := absurd asleep (awake sleep)
  others sleep asleep := absurd asleep (awake sleep)

omit [DecidableEq Thread] in
theorem Watched.mono (watched : loop.Watched) (pc : next.pc = loop.pc)
    (fewer : ∀ element ∈ next.host.timer.elements, element ∈ loop.host.timer.elements) :
    next.Watched where
  inTime sleep asleep heard element running :=
    watched.inTime sleep (pc ▸ asleep) heard element (fewer element running)
  others sleep asleep element running :=
    watched.others sleep (pc ▸ asleep) element (fewer element running)

omit [DecidableEq Thread] in
theorem Watched.notifyAll (watched : loop.Watched)
    {inserted : List (NumberedTimer Event)} (pc : next.pc = loop.pc.notifyAll inserted)
    (came : ∀ element ∈ next.host.timer.elements,
      element ∈ loop.host.timer.elements ∨ element ∈ inserted) : next.Watched := by
  cases position : loop.pc with
  | wait sleep =>
      rw [position] at pc
      constructor
      · intro other asleep heard
        rw [pc] at asleep
        cases asleep
        cases heard
      · intro other asleep element running
        rw [pc] at asleep
        cases asleep
        rcases came element running with old | new
        · rcases watched.others sleep position element old with earlier | inTime
          · exact Or.inl (List.mem_append_left _ earlier)
          · exact Or.inr inTime
        · exact Or.inl (List.mem_append_right _ new)
  | _ =>
      apply watched_of_awake
      simp [pc, position, TimerPc.notifyAll]

theorem Watched.call (watched : loop.Watched) {call : TimerAction Thread Event}
    (stepped : loop.call call = some next) : next.Watched := by
  cases call with
  | startTimer thread clock timeoutMs event =>
      rcases Option.map_eq_some_iff.mp stepped with ⟨host, started, rfl⟩
      rcases TimerHost.startTimer_eq_some started with ⟨-, element, nextTimerId, -, rfl⟩
      exact watched.mono rfl fun _ running => running
  | insertTimer thread =>
      rcases Option.map_eq_some_iff.mp stepped with ⟨host, inserted, rfl⟩
      rcases TimerHost.insertTimer_eq_some inserted with ⟨element, making, rfl⟩
      apply watched.notifyAll rfl
      intro other running
      simpa [making] using Timer.mem_elements_of_insertTimer running
  | stopTimer timerId =>
      cases stepped
      have fewer : ∀ element ∈ (loop.host.timer.stopTimer timerId).2.elements,
          element ∈ loop.host.timer.elements :=
        fun element running => Timer.mem_elements_of_stopTimer running
      by_cases present : timerId ∈ loop.host.timer.timerTableMap
      · apply watched.notifyAll (if_pos present)
        exact fun element running => Or.inl (fewer element running)
      · exact watched.mono (if_neg present) fewer
  | elapse duration =>
      cases stepped
      exact watched.mono rfl fun _ running => running
  | sweepExpired currentTime => cases stepped
  | pushExpired timerId => cases stepped

theorem evaluate_eq_some (stepped : loop.step .evaluate = some next) :
    ∃ sleep, loop.pc = .wait sleep ∧
      (loop.runningFlag = true ∧
          loop.host.timer.timerTableMap.entries.length = sleep.mapSize ∧
          next = { loop with pc := .wait { sleep with notified := false } } ∨
        next = { loop with pc := .testRunning }) := by
  simp only [step] at stepped
  split at stepped
  · next sleep position =>
      refine ⟨sleep, position, ?_⟩
      by_cases stays : !loop.runningFlag ∨
          loop.host.timer.timerTableMap.entries.length ≠ sleep.mapSize
      · rw [if_pos stays] at stepped
        exact Or.inr (Option.some.inj stepped).symm
      · rw [if_neg stays] at stepped
        simp only [Bool.not_eq_true', not_or, Bool.not_eq_false, ne_eq, not_not] at stays
        exact Or.inl ⟨stays.1, stays.2, (Option.some.inj stepped).symm⟩
  · cases stepped

theorem Watched.evaluate (watched : loop.Watched) (tells : loop.SizeTells .evaluate)
    (stepped : loop.step .evaluate = some next) : next.Watched := by
  rcases evaluate_eq_some stepped with ⟨sleep, position, ⟨running, sameSize, rfl⟩ | rfl⟩
  · have inTime : ∀ element ∈ loop.host.timer.elements,
        sleep.nextItemTimeout ≤ element.expireTime := by
      intro element present
      rcases watched.others sleep position element present with came | inTime
      · exact tells running sleep position sameSize element came present
      · exact inTime
    constructor
    · rintro _ ⟨⟩ - element present
      exact inTime element present
    · rintro _ ⟨⟩ element present
      exact Or.inr (inTime element present)
  · exact watched_of_awake (by simp)

theorem Watched.step (watched : loop.Watched) (tells : loop.SizeTells action)
    (stepped : loop.step action = some next) : next.Watched := by
  cases action with
  | call call => exact watched.call stepped
  | testRunning =>
      simp only [TimerLoop.step] at stepped
      split at stepped <;> cases stepped
      apply watched_of_awake
      intro sleep
      simp only
      split <;> simp
  | sweep =>
      simp only [TimerLoop.step] at stepped
      split at stepped
      · rcases Option.map_eq_some_iff.mp stepped with ⟨host, swept, rfl⟩
        exact watched_of_awake (by simp)
      · cases stepped
  | push timerId =>
      simp only [TimerLoop.step] at stepped
      split at stepped
      · next position =>
          rcases Option.map_eq_some_iff.mp stepped with ⟨host, pushed, rfl⟩
          exact watched_of_awake (by simp [position])
      · cases stepped
  | sleepForNextItem =>
      simp only [TimerLoop.step] at stepped
      split at stepped
      · next currentTime position =>
          rcases Option.ite_none_right_eq_some.mp stepped with ⟨-, ⟨⟩⟩
          have inTime := loop.host.timer.nextItemTimeout_le currentTime
          by_cases running : loop.runningFlag = true
          · constructor
            · intro sleep asleep
              simp only [running, ↓reduceIte, TimerPc.wait.injEq] at asleep
              subst asleep
              exact fun _ => inTime
            · intro sleep asleep element present
              simp only [running, ↓reduceIte, TimerPc.wait.injEq] at asleep
              subst asleep
              exact Or.inr (inTime element present)
          · exact watched_of_awake (by simp [running])
      · cases stepped
  | evaluate => exact watched.evaluate tells stepped
  | timeOut =>
      simp only [TimerLoop.step] at stepped
      split at stepped
      · rcases Option.ite_none_right_eq_some.mp stepped with ⟨-, ⟨⟩⟩
        exact watched_of_awake (by simp)
      · cases stepped
  | stop =>
      cases stepped
      exact watched.mono rfl fun _ running => running
  | onStop =>
      cases stepped
      exact watched.notifyAll rfl fun _ running => Or.inl running

/-- A thread that the size of the table deceives is going to oversleep. -/
theorem not_wakesInTime_of_deceived (deceived : ¬ loop.SizeTells action)
    (stepped : loop.step action = some next) : ¬ next.WakesInTime := by
  cases action with
  | evaluate =>
      intro inTime
      apply deceived
      intro running sleep position sameSize element _ present
      rcases evaluate_eq_some stepped with ⟨other, again, ⟨-, -, rfl⟩ | rfl⟩
      · obtain rfl : sleep = other := by simpa [position] using again
        exact inTime _ rfl rfl element present
      · simp only [TimerLoop.step, position] at stepped
        simp [running, sameSize] at stepped
  | _ => exact absurd trivial deceived

/-- The thread never oversleeps a timer exactly if the size of the table tells it enough. -/
theorem sizeTells_iff_wakesInTime {host : TimerHost Thread Event} {currentTime : Nat}
    {schedule : List (TimerLoopAction Thread Event)}
    (ran : (protocol host currentTime).run schedule = some loop) :
    (protocol host currentTime).Along SizeTells schedule ↔
      (protocol host currentTime).Visits WakesInTime schedule := by
  apply System.along_iff_visits Watched _ _ _ _ ran
  · exact watched_of_awake (by simp [protocol])
  · intro loop action next watched tells stepped
    exact watched.step tells stepped
  · intro loop watched
    exact watched.inTime
  · intro loop action next _ deceived stepped
    exact not_wakesInTime_of_deceived deceived stepped

def oneTimer : TimerHost Unit Unit where
  timer :=
    { eventQueueSet := true
      timerTableMap := AList.insert 1 ⟨1, 1000, 1000, some ⟨0, some ()⟩⟩ ∅ }
  made := 1

/-- While the thread sleeps, the timer is stopped; a later one is started in its place. -/
def restarted : List (TimerLoopAction Unit Unit) :=
  [.sleepForNextItem, .call (.stopTimer 1), .call (.startTimer () 0 2000 (some ())),
    .call (.insertTimer ()), .evaluate]

theorem visits_restarted :
    ∃ loop, (protocol oneTimer 0).run restarted = some loop ∧
      loop.host.timer.elements.map TimerElement.expireTime = [2000] ∧
      (protocol oneTimer 0).Visits WakesInTime restarted := by
  have tells : (protocol oneTimer 0).Along SizeTells restarted := by decide +kernel
  have ran : (protocol oneTimer 0).run restarted = some _ := rfl
  exact ⟨_, ran, by decide, (sizeTells_iff_wakesInTime ran).mp tells⟩

/-- The timer is stopped, and one that is due after 100 ms is started in its place. -/
def overslept : List (TimerLoopAction Unit Unit) :=
  [.sleepForNextItem, .call (.stopTimer 1), .call (.startTimer () 0 100 (some ())),
    .call (.insertTimer ()), .evaluate]

theorem not_wakesInTime_overslept :
    ∃ loop, (protocol oneTimer 0).run overslept = some loop ∧ ¬ loop.WakesInTime := by
  refine ⟨_, rfl, ?_⟩
  intro inTime
  have late := inTime _ rfl rfl ⟨1, 100, 100, some ⟨1, some ()⟩⟩ (by decide)
  revert late
  decide

end TimerLoop

end RaspberryPiService
