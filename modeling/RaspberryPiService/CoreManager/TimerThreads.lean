import RaspberryPiService.CoreManager.Timer
import RaspberryPiService.Transition.Runs

/-!
# The timer and its callers

Any thread calls `startTimer` and `stopTimer` while the timer thread sweeps. `startTimer`
chooses an id in its first critical section, reads the clock after it, and inserts its
element in the second one, where `insert` does nothing if the id has been taken meanwhile.

This file models the threads with a step for every critical section of `timerMutex` and
every push. Timers are numbered as their elements are made. The number travels with the
event, and no operation reads it.
-/

namespace RaspberryPiService

/-- The event of a timer, if it has one, with the number of the timer. -/
structure NumberedEvent (Event : Type) where
  number : Nat
  event : Option Event
deriving DecidableEq

abbrev NumberedTimer (Event : Type) : Type := TimerElement (NumberedEvent Event)

def TimerElement.number {Event : Type} (element : NumberedTimer Event) : Option Nat :=
  element.event.map NumberedEvent.number

structure TimerHost (Thread Event : Type) where
  timer : Timer (NumberedEvent Event) := { eventQueueSet := true }
  -- the elements of the calls between their two sections
  making : Thread → Option (NumberedTimer Event) := fun _ => none
  now : Nat := 0
  -- of the event queue, what the timer thread has pushed
  eventQueue : List Event := []
  made : Nat := 0
  -- the timers whose id was returned, with what the table then held under it
  started : List (NumberedTimer Event × Option (NumberedTimer Event)) := []
  -- by a `stopTimer` that found them
  stopped : List (NumberedTimer Event) := []
  expired : List (NumberedTimer Event) := []
  -- with the time
  pushed : List (Nat × NumberedTimer Event) := []

/-- The sections of the callers and of the timer thread, and the passage of time. -/
inductive TimerAction (Thread Event : Type) where
  | startTimer (thread : Thread) (clock timeoutMs : Nat) (event : Option Event)
  | insertTimer (thread : Thread)
  | stopTimer (timerId : Int)
  | sweepExpired (currentTime : Nat)
  | pushExpired (timerId : Int)
  | elapse (duration : Nat)

namespace TimerHost

variable {Thread Event : Type} [DecidableEq Thread]

def step (host : TimerHost Thread Event) :
    TimerAction Thread Event → Option (TimerHost Thread Event)
  | .startTimer thread clock timeoutMs event =>
      -- The clock is read after the section.
      if (host.making thread).isNone ∧ host.now ≤ clock then
        (host.timer.startTimer clock timeoutMs (some ⟨host.made, event⟩)).map
          fun (element, timer) =>
            { host with
              timer
              making := Function.update host.making thread element
              made := host.made + 1 }
      else none
  | .insertTimer thread =>
      (host.making thread).bind fun element =>
        -- By then it has been read.
        if element.expireTime ≤ host.now + element.timeoutMs then
          let timer := host.timer.insertTimer element
          some { host with
            timer
            making := Function.update host.making thread none
            started := host.started ++
              [(element, timer.timerTableMap.lookup element.timerId)] }
        else none
  | .stopTimer timerId =>
      some { host with
        timer := (host.timer.stopTimer timerId).2
        stopped := host.stopped ++ (host.timer.timerTableMap.lookup timerId).toList }
  | .sweepExpired currentTime =>
      if host.timer.expiredTimerElementList.isEmpty ∧ currentTime ≤ host.now then
        let timer := host.timer.sweepExpired currentTime
        some { host with timer, expired := host.expired ++ timer.expiredTimerElementList }
      else none
  | .pushExpired timerId =>
      (host.timer.expiredTimerElementList.find? fun element => element.timerId = timerId).bind
        fun element =>
          (host.timer.pushExpired timerId).map fun (event, timer) =>
            { host with
              timer
              eventQueue := host.eventQueue ++ (event.bind NumberedEvent.event).toList
              pushed := host.pushed ++ [(host.now, element)] }
  | .elapse duration => some { host with now := host.now + duration }

def protocol (Thread Event : Type) [DecidableEq Thread] :
    System (TimerHost Thread Event) (TimerAction Thread Event) where
  init := {}
  step := step

/-- Each started timer is in one state, and each expired one is pushed once, when it is due. -/
structure Conserves (host : TimerHost Thread Event) : Prop where
  distinct : (host.started.map Prod.fst).Nodup
  one_state : (host.started.map Prod.fst).Perm
    (host.timer.elements ++ host.stopped ++ host.expired)
  pushed_once : host.expired.Perm
    (host.pushed.map Prod.snd ++ host.timer.expiredTimerElementList)
  queue : host.eventQueue =
    host.pushed.filterMap fun push => push.2.event.bind NumberedEvent.event
  not_before : ∀ push ∈ host.pushed, push.2.expireTime ≤ push.1

/-- A call has returned the id of the timer, which has neither been stopped nor expired. -/
def Live (host : TimerHost Thread Event) (element : NumberedTimer Event) : Prop :=
  element ∈ host.started.map Prod.fst ∧ element ∉ host.stopped ∧ element ∉ host.expired

/-- Each call stored its own element, and no two live timers have one id. -/
structure KeptApart (host : TimerHost Thread Event) : Prop where
  stored : ∀ start ∈ host.started, start.2 = some start.1
  live : ∀ first second, host.Live first → host.Live second →
    first.timerId = second.timerId → first = second

/-- An element is inserted only while the table does not hold its id. -/
def InsertsFree (host : TimerHost Thread Event) : TimerAction Thread Event → Prop
  | .insertTimer thread =>
      ∀ element, host.making thread = some element → element.timerId ∉ host.timer.timerTableMap
  | _ => True

instance (host : TimerHost Thread Event) (action : TimerAction Thread Event) :
    Decidable (host.InsertsFree action) :=
  match action with
  | .insertTimer thread =>
      inferInstanceAs (Decidable
        (∀ element ∈ host.making thread, element.timerId ∉ host.timer.timerTableMap))
  | .startTimer .. | .stopTimer _ | .sweepExpired _ | .pushExpired _ | .elapse _ => isTrue trivial

/-- What an updated optional function gives somewhere is the new value or an old one. -/
theorem update_eq_some {Value : Type} {function : Thread → Option Value} {thread other : Thread}
    {new : Option Value} {value : Value} :
    Function.update function thread new other = some value ↔
      other = thread ∧ new = some value ∨ other ≠ thread ∧ function other = some value := by
  by_cases same : other = thread
  · subst same
    simp
  · simp [same]

section Steps

variable {host next : TimerHost Thread Event} {thread : Thread}

theorem startTimer_eq_some {clock timeoutMs : Nat} {event : Option Event}
    (stepped : host.step (.startTimer thread clock timeoutMs event) = some next) :
    host.making thread = none ∧ ∃ element nextTimerId,
      host.timer.startTimer clock timeoutMs (some ⟨host.made, event⟩) =
        some (element, { host.timer with nextTimerId }) ∧
      next = { host with
        timer := { host.timer with nextTimerId }
        making := Function.update host.making thread element
        made := host.made + 1 } := by
  simp only [step, Option.ite_none_right_eq_some, Option.map_eq_some_iff, Option.isNone_iff_eq_none]
    at stepped
  rcases stepped with ⟨⟨idle, -⟩, ⟨element, timer⟩, started, rfl⟩
  have counter := Timer.startTimer_counter started
  rw [counter] at started
  refine ⟨idle, element, timer.nextTimerId, started, ?_⟩
  rw [← counter]

theorem insertTimer_eq_some (stepped : host.step (.insertTimer thread) = some next) :
    ∃ element, host.making thread = some element ∧
      next = { host with
        timer := host.timer.insertTimer element
        making := Function.update host.making thread none
        started := host.started ++ [(element,
          (host.timer.insertTimer element).timerTableMap.lookup element.timerId)] } := by
  simp only [step, Option.bind_eq_some_iff, Option.ite_none_right_eq_some, Option.some.injEq]
    at stepped
  rcases stepped with ⟨element, making, -, rfl⟩
  exact ⟨element, making, rfl⟩

theorem sweepExpired_eq_some {currentTime : Nat}
    (stepped : host.step (.sweepExpired currentTime) = some next) :
    host.timer.expiredTimerElementList = [] ∧ currentTime ≤ host.now ∧
      next = { host with
        timer := host.timer.sweepExpired currentTime
        expired := host.expired ++
          (host.timer.sweepExpired currentTime).expiredTimerElementList } := by
  simp only [step, Option.ite_none_right_eq_some, Option.some.injEq, List.isEmpty_iff] at stepped
  rcases stepped with ⟨⟨settled, read⟩, rfl⟩
  exact ⟨settled, read, rfl⟩

theorem pushExpired_eq_some {timerId : Int}
    (stepped : host.step (.pushExpired timerId) = some next) :
    ∃ element rest, host.timer.expiredTimerElementList.Perm (element :: rest) ∧
      next = { host with
        timer := { host.timer with expiredTimerElementList := rest }
        eventQueue := host.eventQueue ++
          ((if host.timer.eventQueueSet then element.event else none).bind
            NumberedEvent.event).toList
        pushed := host.pushed ++ [(host.now, element)] } := by
  simp only [step, Option.bind_eq_some_iff, Timer.pushExpired, Option.map_map,
    Option.map_eq_some_iff] at stepped
  rcases stepped with ⟨element, found, other, again, rfl⟩
  obtain rfl : element = other := Option.some.inj (found.symm.trans again)
  refine ⟨element, _, ?_, rfl⟩
  obtain ⟨pushed, before, after, entries, unequal⟩ := List.find?_eq_some_iff_append.mp found
  rw [entries, List.eraseP_append_right _ (by simpa using unequal), List.eraseP_cons, pushed]
  exact List.perm_middle

end Steps

/-- The numbers tell the timers apart, made or started. -/
structure Numbered (host : TimerHost Thread Event) : Prop where
  making : ∀ thread element, host.making thread = some element →
    ∃ number < host.made, element.number = some number
  making_distinct : ∀ first second element other, host.making first = some element →
    host.making second = some other → element.number = other.number → first = second
  started : ∀ element ∈ host.started.map Prod.fst,
    ∃ number < host.made, element.number = some number
  started_distinct : ((host.started.map Prod.fst).map TimerElement.number).Nodup
  making_not_started : ∀ thread element, host.making thread = some element →
    element.number ∉ (host.started.map Prod.fst).map TimerElement.number

namespace Numbered

variable {host next : TimerHost Thread Event}

theorem init : Numbered (protocol Thread Event).init := by
  constructor <;> simp [protocol]

/-- The first section gives the next number. -/
theorem startTimer (numbered : Numbered host) {thread : Thread} {clock timeoutMs : Nat}
    {event : Option Event}
    (stepped : host.step (.startTimer thread clock timeoutMs event) = some next) :
    Numbered next := by
  obtain ⟨-, made, nextTimerId, started, rfl⟩ := startTimer_eq_some stepped
  have number : ∀ element, made = some element → element.number = some host.made := by
    rintro element rfl
    rw [TimerElement.number, (Timer.startTimer_made started).1]
    rfl
  have newer : ∀ element : NumberedTimer Event,
      (∃ number < host.made, element.number = some number) → element.number ≠ some host.made := by
    rintro element ⟨number, below, same⟩
    simp [same, below.ne]
  constructor
  · intro other element making
    rcases update_eq_some.mp making with ⟨rfl, isMade⟩ | ⟨-, making⟩
    · exact ⟨host.made, Nat.lt_succ_self _, number element isMade⟩
    · rcases numbered.making other element making with ⟨number, below, same⟩
      exact ⟨number, Nat.lt_succ_of_lt below, same⟩
  · intro first second element other firstMaking secondMaking same
    rcases update_eq_some.mp firstMaking with ⟨rfl, isMade⟩ | ⟨-, firstOld⟩
    · rcases update_eq_some.mp secondMaking with ⟨rfl, -⟩ | ⟨-, secondOld⟩
      · rfl
      · have old := numbered.making second other secondOld
        exact absurd (same.symm.trans (number element isMade)) (newer other old)
    · rcases update_eq_some.mp secondMaking with ⟨rfl, isMade⟩ | ⟨-, secondOld⟩
      · have old := numbered.making first element firstOld
        exact absurd (same.trans (number other isMade)) (newer element old)
      · exact numbered.making_distinct first second element other firstOld secondOld same
  · intro element isStarted
    rcases numbered.started element isStarted with ⟨number, below, same⟩
    exact ⟨number, Nat.lt_succ_of_lt below, same⟩
  · exact numbered.started_distinct
  · intro other element making
    rcases update_eq_some.mp making with ⟨rfl, isMade⟩ | ⟨-, making⟩
    · rw [number element isMade]
      intro used
      rcases List.mem_map.mp used with ⟨earlier, isStarted, same⟩
      exact newer earlier (numbered.started earlier isStarted) same
    · exact numbered.making_not_started other element making

theorem insertTimer (numbered : Numbered host) {thread : Thread}
    (stepped : host.step (.insertTimer thread) = some next) : Numbered next := by
  obtain ⟨inserted, inserting, rfl⟩ := insertTimer_eq_some stepped
  have others : ∀ {other : Thread} {element},
      Function.update host.making thread none other = some element →
      other ≠ thread ∧ host.making other = some element := by
    intro other element making
    rcases update_eq_some.mp making with ⟨-, nothing⟩ | differs
    · cases nothing
    · exact differs
  constructor
  · intro other element making
    exact numbered.making other element (others making).2
  · intro first second element other firstMaking secondMaking
    exact numbered.making_distinct first second element other (others firstMaking).2
      (others secondMaking).2
  · intro element isStarted
    rw [List.map_append, List.mem_append] at isStarted
    rcases isStarted with earlier | new
    · exact numbered.started element earlier
    · obtain rfl : element = inserted := List.mem_singleton.mp new
      exact numbered.making thread element inserting
  · rw [List.map_append, List.map_append]
    apply List.Nodup.append numbered.started_distinct (List.nodup_singleton _)
    simpa using numbered.making_not_started thread inserted inserting
  · intro other element making
    rw [List.map_append, List.map_append, List.mem_append]
    rintro (earlier | new)
    · exact numbered.making_not_started other element (others making).2 earlier
    · apply (others making).1
      exact numbered.making_distinct other thread element inserted (others making).2 inserting
        (List.mem_singleton.mp new)

omit [DecidableEq Thread] in
/-- The other steps concern neither. -/
theorem congr (numbered : Numbered host) (making : next.making = host.making)
    (made : next.made = host.made) (started : next.started = host.started) : Numbered next := by
  constructor
  · rw [making, made]
    exact numbered.making
  · rw [making]
    exact numbered.making_distinct
  · rw [started, made]
    exact numbered.started
  · rw [started]
    exact numbered.started_distinct
  · rw [making, started]
    exact numbered.making_not_started

theorem step (numbered : Numbered host) {action : TimerAction Thread Event}
    (stepped : host.step action = some next) : Numbered next := by
  cases action with
  | startTimer => exact numbered.startTimer stepped
  | insertTimer => exact numbered.insertTimer stepped
  | stopTimer timerId =>
      cases stepped
      exact numbered.congr rfl rfl rfl
  | sweepExpired =>
      obtain ⟨-, -, rfl⟩ := sweepExpired_eq_some stepped
      exact numbered.congr rfl rfl rfl
  | pushExpired =>
      obtain ⟨element, rest, -, rfl⟩ := pushExpired_eq_some stepped
      exact numbered.congr rfl rfl rfl
  | elapse duration =>
      cases stepped
      exact numbered.congr rfl rfl rfl

end Numbered

/-- What holds as long as every element is inserted under a free id. -/
structure Accounted (host : TimerHost Thread Event) : Prop where
  numbered : Numbered host
  queueSet : host.timer.eventQueueSet
  keyed : ∀ timerId element, host.timer.timerTableMap.lookup timerId = some element →
    element.timerId = timerId
  stored : ∀ start ∈ host.started, start.2 = some start.1
  one_state : (host.started.map Prod.fst).Perm
    (host.timer.elements ++ host.stopped ++ host.expired)
  pushed_once : host.expired.Perm
    (host.pushed.map Prod.snd ++ host.timer.expiredTimerElementList)
  queue : host.eventQueue =
    host.pushed.filterMap fun push => push.2.event.bind NumberedEvent.event
  not_before : ∀ push ∈ host.pushed, push.2.expireTime ≤ push.1
  due : ∀ element ∈ host.timer.expiredTimerElementList, element.expireTime ≤ host.now

namespace Accounted

variable {host next : TimerHost Thread Event}

theorem init : Accounted (protocol Thread Event).init where
  numbered := Numbered.init
  queueSet := rfl
  keyed := by simp [protocol]
  stored := by simp [protocol]
  one_state := List.Perm.nil
  pushed_once := List.Perm.nil
  queue := rfl
  not_before := by simp [protocol]
  due := by simp [protocol]

theorem startTimer (accounted : Accounted host) {thread : Thread} {clock timeoutMs : Nat}
    {event : Option Event}
    (stepped : host.step (.startTimer thread clock timeoutMs event) = some next) :
    Accounted next := by
  have numbered := accounted.numbered.startTimer stepped
  obtain ⟨-, made, nextTimerId, -, rfl⟩ := startTimer_eq_some stepped
  exact { accounted with numbered }

theorem insertTimer (accounted : Accounted host) {thread : Thread}
    (free : host.InsertsFree (.insertTimer thread))
    (stepped : host.step (.insertTimer thread) = some next) : Accounted next := by
  have numbered := accounted.numbered.insertTimer stepped
  obtain ⟨inserted, inserting, rfl⟩ := insertTimer_eq_some stepped
  have fresh := free inserted inserting
  have found := Timer.lookup_insertTimer_self fresh
  refine { accounted with
    numbered
    queueSet := (Timer.insertTimer_eventQueueSet _ _).trans accounted.queueSet
    keyed := ?_, stored := ?_, one_state := ?_, pushed_once := ?_, due := ?_ }
  · intro timerId element present
    by_cases same : timerId = inserted.timerId
    · rw [same, found] at present
      rw [same, Option.some.inj present]
    · rw [Timer.lookup_insertTimer_of_ne same] at present
      exact accounted.keyed timerId element present
  · intro start isStarted
    rcases List.mem_append.mp isStarted with earlier | new
    · exact accounted.stored start earlier
    · rw [List.mem_singleton.mp new]
      exact found
  · rw [Timer.elements_insertTimer fresh, List.map_append]
    exact List.perm_append_comm.trans (accounted.one_state.cons inserted)
  · rw [Timer.insertTimer_expiredTimerElementList]
    exact accounted.pushed_once
  · rw [Timer.insertTimer_expiredTimerElementList]
    exact accounted.due

theorem stopTimer (accounted : Accounted host) {timerId : Int}
    (stepped : host.step (.stopTimer timerId) = some next) : Accounted next := by
  have numbered := accounted.numbered.step stepped
  cases stepped
  refine { accounted with
    numbered
    queueSet := (Timer.stopTimer_eventQueueSet _ _).trans accounted.queueSet
    keyed := ?_, one_state := ?_, pushed_once := ?_, due := ?_ }
  · intro other element present
    by_cases same : other = timerId
    · rw [same, Timer.lookup_stopTimer_self] at present
      cases present
    · rw [Timer.lookup_stopTimer_of_ne same] at present
      exact accounted.keyed other element present
  · cases found : host.timer.timerTableMap.lookup timerId with
    | none =>
        have untouched : (host.timer.stopTimer timerId).2 = host.timer := by
          rw [Timer.stopTimer, if_neg (AList.lookup_eq_none.mp found)]
        simp only [untouched, Option.toList_none, List.append_nil]
        exact accounted.one_state
    | some element =>
        apply accounted.one_state.trans
        apply List.Perm.append_right
        apply ((Timer.elements_stopTimer found).append_right _).trans
        rw [Option.toList_some, ← List.append_assoc]
        exact (List.perm_append_singleton element _).symm
  · rw [Timer.stopTimer_expiredTimerElementList]
    exact accounted.pushed_once
  · rw [Timer.stopTimer_expiredTimerElementList]
    exact accounted.due

theorem sweepExpired (accounted : Accounted host) {currentTime : Nat}
    (stepped : host.step (.sweepExpired currentTime) = some next) : Accounted next := by
  have numbered := accounted.numbered.step stepped
  obtain ⟨settled, read, rfl⟩ := sweepExpired_eq_some stepped
  obtain ⟨due, moved, list, isDue⟩ := host.timer.elements_sweepExpired currentTime
  rw [settled, List.nil_append] at list
  refine { accounted with
    numbered, keyed := ?_, one_state := ?_, pushed_once := ?_, due := ?_ }
  · intro timerId element present
    exact accounted.keyed timerId element (Timer.lookup_sweepExpired.mp present).1
  · rw [list, List.append_assoc]
    apply accounted.one_state.trans
    rw [List.append_assoc]
    apply (moved.append_right _).trans
    rw [List.append_assoc, ← List.append_assoc host.stopped]
    exact List.perm_append_comm.append_left _
  · have pushed := accounted.pushed_once
    rw [settled, List.append_nil] at pushed
    exact pushed.append_right _
  · intro element expired
    rw [list] at expired
    exact (isDue element expired).trans read

theorem pushExpired (accounted : Accounted host) {timerId : Int}
    (stepped : host.step (.pushExpired timerId) = some next) : Accounted next := by
  have numbered := accounted.numbered.step stepped
  obtain ⟨element, rest, split, rfl⟩ := pushExpired_eq_some stepped
  refine { accounted with
    numbered, pushed_once := ?_, queue := ?_, not_before := ?_, due := ?_ }
  · apply accounted.pushed_once.trans
    apply (split.append_left _).trans
    rw [List.map_append, List.append_assoc]
    exact List.Perm.refl _
  · rw [if_pos accounted.queueSet, accounted.queue, List.filterMap_append, List.filterMap_cons]
    cases element.event.bind NumberedEvent.event <;> rfl
  · intro push isPushed
    rcases List.mem_append.mp isPushed with earlier | new
    · exact accounted.not_before push earlier
    · rw [List.mem_singleton.mp new]
      exact accounted.due element (split.mem_iff.mpr List.mem_cons_self)
  · intro other expired
    exact accounted.due other (split.mem_iff.mpr (List.mem_cons_of_mem element expired))

theorem step (accounted : Accounted host) {action : TimerAction Thread Event}
    (free : host.InsertsFree action) (stepped : host.step action = some next) :
    Accounted next := by
  cases action with
  | startTimer => exact accounted.startTimer stepped
  | insertTimer => exact accounted.insertTimer free stepped
  | stopTimer => exact accounted.stopTimer stepped
  | sweepExpired => exact accounted.sweepExpired stepped
  | pushExpired => exact accounted.pushExpired stepped
  | elapse duration =>
      have numbered := accounted.numbered.step stepped
      cases stepped
      exact { accounted with
        numbered
        due := fun element expired =>
          (accounted.due element expired).trans (Nat.le_add_right _ _) }

end Accounted

section Runs

variable {host next : TimerHost Thread Event}

omit [DecidableEq Thread] in
theorem Accounted.conserves (accounted : Accounted host) : host.Conserves where
  distinct := accounted.numbered.started_distinct.of_map _
  one_state := accounted.one_state
  pushed_once := accounted.pushed_once
  queue := accounted.queue
  not_before := accounted.not_before

/-- Every insertion would find its id free. -/
def Free (host : TimerHost Thread Event) : Prop :=
  ∀ action, host.InsertsFree action

/-- Nobody comes between the two sections of the only thread. -/
theorem Free.step [Subsingleton Thread] {action : TimerAction Thread Event} (free : host.Free)
    (stepped : host.step action = some next) : next.Free := by
  rintro (- | thread | - | - | - | -)
  case insertTimer =>
    intro element making
    cases action with
    | startTimer other =>
        obtain ⟨-, made, nextTimerId, started, rfl⟩ := startTimer_eq_some stepped
        rcases update_eq_some.mp making with ⟨-, rfl⟩ | ⟨-, making⟩
        · exact (Timer.startTimer_made started).2
        · exact free (.insertTimer thread) element making
    | insertTimer other =>
        obtain ⟨inserted, -, rfl⟩ := insertTimer_eq_some stepped
        rcases update_eq_some.mp making with ⟨-, nothing⟩ | ⟨differs, -⟩
        · cases nothing
        · exact absurd (Subsingleton.elim thread other) differs
    | stopTimer timerId =>
        cases stepped
        exact Timer.not_mem_of_stopTimer (free (.insertTimer thread) element making)
    | sweepExpired =>
        obtain ⟨-, -, rfl⟩ := sweepExpired_eq_some stepped
        exact Timer.not_mem_of_sweepExpired (free (.insertTimer thread) element making)
    | pushExpired =>
        obtain ⟨pushed, rest, -, rfl⟩ := pushExpired_eq_some stepped
        exact free (.insertTimer thread) element making
    | elapse duration =>
        cases stepped
        exact free (.insertTimer thread) element making
  all_goals trivial

theorem stopped_subset {action : TimerAction Thread Event}
    (stepped : host.step action = some next) : host.stopped ⊆ next.stopped := by
  cases action with
  | startTimer =>
      obtain ⟨-, made, nextTimerId, -, rfl⟩ := startTimer_eq_some stepped
      exact List.Subset.refl _
  | insertTimer =>
      obtain ⟨inserted, -, rfl⟩ := insertTimer_eq_some stepped
      exact List.Subset.refl _
  | stopTimer timerId =>
      cases stepped
      exact List.subset_append_left _ _
  | sweepExpired =>
      obtain ⟨-, -, rfl⟩ := sweepExpired_eq_some stepped
      exact List.Subset.refl _
  | pushExpired =>
      obtain ⟨pushed, rest, -, rfl⟩ := pushExpired_eq_some stepped
      exact List.Subset.refl _
  | elapse duration =>
      cases stepped
      exact List.Subset.refl _

/-- A step of the timer thread between two sweeps. -/
def Pushes : TimerAction Thread Event → Prop
  | .pushExpired _ => True
  | _ => False

/-- The loop over the expired timers comes to each of them. -/
theorem canReach_pushed {element : NumberedTimer Event}
    (expired : element ∈ host.timer.expiredTimerElementList) :
    (protocol Thread Event).CanReach Pushes (fun host => element ∈ host.pushed.map Prod.snd)
      host := by
  generalize list : host.timer.expiredTimerElementList = remaining at expired
  induction remaining generalizing host with
  | nil => cases expired
  | cons first remaining ih =>
      let next : TimerHost Thread Event := { host with
        timer := { host.timer with expiredTimerElementList := remaining }
        eventQueue := host.eventQueue ++
          ((if host.timer.eventQueueSet then first.event else none).bind
            NumberedEvent.event).toList
        pushed := host.pushed ++ [(host.now, first)] }
      have stepped : (protocol Thread Event).step host (.pushExpired first.timerId) =
          some next := by
        simp [protocol, step, Timer.pushExpired, list, next]
      apply System.canReach_of_step trivial stepped
      rcases List.mem_cons.mp expired with rfl | later
      · apply System.canReach_of_holds
        simp [next]
      · exact ih rfl later

end Runs

section SingleCaller

theorem timers_conserved {Event : Type} {schedule : List (TimerAction Unit Event)}
    {host : TimerHost Unit Event} (ran : (protocol Unit Event).run schedule = some host) :
    host.Conserves ∧
      (∀ element ∈ host.timer.expiredTimerElementList,
        (protocol Unit Event).CanReach Pushes (fun later => element ∈ later.pushed.map Prod.snd)
          host) ∧
      ∀ more later, (protocol Unit Event).runFrom host more = some later →
        ∀ element ∈ host.stopped, element ∉ later.pushed.map Prod.snd := by
  have preserved : ∀ (state : TimerHost Unit Event) action next, state.Accounted ∧ state.Free →
      (protocol Unit Event).step state action = some next → next.Accounted ∧ next.Free := by
    rintro state action next ⟨accounted, free⟩ stepped
    exact ⟨accounted.step (free action) stepped, free.step stepped⟩
  have initial : (protocol Unit Event).init.Accounted ∧ (protocol Unit Event).init.Free := by
    refine ⟨Accounted.init, ?_⟩
    rintro (- | thread | - | - | - | -)
    case insertTimer =>
      intro element making
      cases making
    all_goals trivial
  have reached := System.invariant_of_run _ initial preserved ran
  refine ⟨reached.1.conserves, fun element => canReach_pushed, ?_⟩
  intro more later continued element stopped
  have holds := System.invariant_of_runFrom
    (fun state => (state.Accounted ∧ state.Free) ∧ host.stopped ⊆ state.stopped)
    (fun state action next holds stepped =>
      ⟨preserved state action next holds.1 stepped,
        List.Subset.trans holds.2 (stopped_subset stepped)⟩)
    ⟨reached, List.Subset.refl _⟩ continued
  have conserves := holds.1.1.conserves
  intro isPushed
  have expired := conserves.pushed_once.mem_iff.mpr (List.mem_append_left _ isPushed)
  have distinct := conserves.one_state.nodup_iff.mp conserves.distinct
  have disjoint := (List.nodup_append.mp distinct).2.2
  exact disjoint element (List.mem_append_right _ (holds.2 stopped)) element expired rfl

/-- Of two timers one is stopped and one expires. -/
def twoTimers : List (TimerAction Unit Unit) :=
  [.startTimer () 0 1000 (some ()), .insertTimer (), .startTimer () 0 1000 (some ()),
    .insertTimer (), .stopTimer 2, .elapse 1500, .sweepExpired 1200, .pushExpired 1]

theorem timers_conserved_twoTimers :
    ∃ host, (protocol Unit Unit).run twoTimers = some host ∧
      host.stopped.map TimerElement.timerId = [2] ∧
      host.pushed.map (fun push => (push.1, push.2.timerId)) = [(1500, 1)] ∧
      host.Conserves ∧
      (∀ element ∈ host.timer.expiredTimerElementList,
        (protocol Unit Unit).CanReach Pushes (fun later => element ∈ later.pushed.map Prod.snd)
          host) ∧
      ∀ more later, (protocol Unit Unit).runFrom host more = some later →
        ∀ element ∈ host.stopped, element ∉ later.pushed.map Prod.snd := by
  have ran : (protocol Unit Unit).run twoTimers = some _ := rfl
  exact ⟨_, ran, by decide, by decide, timers_conserved ran⟩

end SingleCaller

section Callers

variable {host next : TimerHost Thread Event}

omit [DecidableEq Thread] in
theorem Accounted.mem_elements (accounted : Accounted host) {element : NumberedTimer Event}
    (live : host.Live element) :
    host.timer.timerTableMap.lookup element.timerId = some element := by
  rcases live with ⟨started, notStopped, notExpired⟩
  have present : element ∈ host.timer.elements := by
    simpa [notStopped, notExpired] using accounted.one_state.mem_iff.mp started
  rcases Timer.mem_elements.mp present with ⟨timerId, found⟩
  rw [accounted.keyed timerId element found]
  exact found

omit [DecidableEq Thread] in
theorem Accounted.keptApart (accounted : Accounted host) : host.KeptApart := by
  constructor
  · exact accounted.stored
  · intro first second firstLive secondLive same
    have found := accounted.mem_elements firstLive
    rw [same, accounted.mem_elements secondLive] at found
    exact (Option.some.inj found).symm

/-- An insertion under an id that is taken leaves the other element there. -/
theorem Accounted.not_keptApart (accounted : Accounted host) {action : TimerAction Thread Event}
    (taken : ¬host.InsertsFree action) (stepped : host.step action = some next) :
    ¬next.KeptApart := by
  cases action with
  | insertTimer thread =>
      obtain ⟨inserted, inserting, rfl⟩ := insertTimer_eq_some stepped
      have present : inserted.timerId ∈ host.timer.timerTableMap := by
        by_contra free
        apply taken
        intro element making
        obtain rfl : inserted = element := Option.some.inj (inserting.symm.trans making)
        exact free
      have unchanged : host.timer.insertTimer inserted = host.timer := if_pos present
      intro apart
      have found := apart.stored (inserted, _) (List.mem_append_right _ (List.mem_singleton_self _))
      rw [unchanged] at found
      have running := Timer.mem_elements.mpr ⟨_, found⟩
      apply accounted.numbered.making_not_started thread inserted inserting
      apply List.mem_map_of_mem
      apply accounted.one_state.mem_iff.mpr
      simp [running]
  | _ => exact absurd trivial taken

/-- Calls do not collide exactly if each of them finds its id still free when it inserts. -/
theorem insertsFree_iff_keptApart {schedule : List (TimerAction Thread Event)}
    (ran : (protocol Thread Event).run schedule = some host) :
    (protocol Thread Event).Along InsertsFree schedule ↔
      (protocol Thread Event).Visits KeptApart schedule := by
  apply System.along_iff_visits Accounted Accounted.init _ _ _ ran
  · intro state action next accounted free stepped
    exact accounted.step free stepped
  · intro state accounted
    exact accounted.keptApart
  · intro state action next accounted taken stepped
    exact accounted.not_keptApart taken stepped

/-- Two calls choose the id 1, and the second to insert returns it without a timer. -/
def collidingCalls : List (TimerAction Bool Unit) :=
  [.startTimer false 0 1000 (some ()), .startTimer true 0 2000 (some ()),
    .insertTimer false, .insertTimer true]

theorem not_keptApart_collidingCalls :
    ∃ host, (protocol Bool Unit).run collidingCalls = some host ∧ ¬host.KeptApart := by
  refine ⟨_, rfl, ?_⟩
  intro apart
  have stored := apart.stored
    (⟨1, 2000, 2000, some ⟨1, some ()⟩⟩, some ⟨1, 1000, 1000, some ⟨0, some ()⟩⟩) (by decide)
  revert stored
  decide

/-- The second call begins when the first one has inserted its timer. -/
def successiveCalls : List (TimerAction Bool Unit) :=
  [.startTimer false 0 1000 (some ()), .insertTimer false,
    .startTimer true 0 2000 (some ()), .insertTimer true]

theorem visits_successiveCalls :
    ∃ host, (protocol Bool Unit).run successiveCalls = some host ∧
      host.started.map (fun start => start.1.timerId) = [1, 2] ∧
      (protocol Bool Unit).Visits KeptApart successiveCalls := by
  have free : (protocol Bool Unit).Along InsertsFree successiveCalls := by decide +kernel
  have ran : (protocol Bool Unit).run successiveCalls = some _ := rfl
  exact ⟨_, ran, by decide, (insertsFree_iff_keptApart ran).mp free⟩

end Callers

end TimerHost

end RaspberryPiService
