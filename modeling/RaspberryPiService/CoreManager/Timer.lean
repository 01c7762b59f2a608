import Mathlib.Data.List.AList
import Mathlib.Data.Finset.Card
import Mathlib.Order.Interval.Finset.Nat

/-!
# The timer of the core manager

`timerTableMap` holds the running timers under the ids that `createNewTimerId` hands
out. The timer thread moves expired elements out of the table under the lock and
pushes their events afterwards, one by one, in the unspecified order of the hash map.

Each critical section under `timerMutex` is one operation here. `startTimer` has two
of them, `makeNewTimerElement` and `insertTimer`, and the timer thread may run in
between. Times are milliseconds of the steady clock.

The loop of `createNewTimerId` runs on fuel; `createNewTimerId_total` says that a full
cycle of ids is always enough.
-/

namespace RaspberryPiService

/-- `INT32_MAX`. -/
def int32Max : Int := 2147483647

structure TimerElement (Event : Type) where
  timerId : Int
  timeoutMs : Nat
  expireTime : Nat
  event : Option Event
deriving DecidableEq

/-- `nextTimerId` is the static counter of `createNewTimerId`. -/
structure Timer (Event : Type) where
  eventQueueSet : Bool := false
  nextTimerId : Int := 1
  timerTableMap : AList fun _ : Int => TimerElement Event := ∅
  expiredTimerElementList : List (TimerElement Event) := []

namespace Timer

variable {Event : Type}

/-- The next value of the counter, wrapped around before `INT32_MAX`. -/
def incrementTimerId (timerId : Int) : Int :=
  if timerId + 1 = int32Max then 1 else timerId + 1

/-- The loop of `createNewTimerId`: the first id, from the counter on, that is not in the table. -/
def findAvailableTimerId (timerTableMap : AList fun _ : Int => TimerElement Event) :
    Nat → Int → Option Int
  | 0, _ => none
  | fuel + 1, timerId =>
      if timerId ∈ timerTableMap then
        findAvailableTimerId timerTableMap fuel (incrementTimerId timerId)
      else some timerId

/-- The id handed out, `-1` when the table is full; the counter stays at the id. -/
def createNewTimerId (timer : Timer Event) : Option (Int × Timer Event) :=
  if int32Max - 1 ≤ timer.timerTableMap.entries.length then some (-1, timer)
  else
    let start := if timer.nextTimerId = int32Max then 1 else timer.nextTimerId
    (findAvailableTimerId timer.timerTableMap int32Max.toNat start).map fun timerId =>
      (timerId, { timer with nextTimerId := timerId })

/-- The element of a new timer, or none when no id was available. -/
def makeNewTimerElement (timer : Timer Event) (now timeoutMs : Nat) (event : Option Event) :
    Option (Option (TimerElement Event) × Timer Event) :=
  timer.createNewTimerId.map fun (timerId, timer) =>
    if timerId = -1 then (none, timer)
    else (some { timerId, timeoutMs, expireTime := now + timeoutMs, event }, timer)

/-- The first half of `startTimer`; without an event queue no element is made. -/
def startTimer (timer : Timer Event) (now timeoutMs : Nat) (event : Option Event) :
    Option (Option (TimerElement Event) × Timer Event) :=
  if timer.eventQueueSet then timer.makeNewTimerElement now timeoutMs event
  else some (none, timer)

/-- The second half of `startTimer`. `insert` leaves an element that is already there. -/
def insertTimer (timer : Timer Event) (element : TimerElement Event) : Timer Event :=
  if element.timerId ∈ timer.timerTableMap then timer
  else { timer with timerTableMap := timer.timerTableMap.insert element.timerId element }

def stopTimer (timer : Timer Event) (timerId : Int) : Bool × Timer Event :=
  if timerId ∈ timer.timerTableMap then
    (true, { timer with timerTableMap := timer.timerTableMap.erase timerId })
  else (false, timer)

/-- The locked part of `excuteIfExpiredExistAndUpdateTimerElements`. -/
def sweepExpired (timer : Timer Event) (currentTime : Nat) : Timer Event :=
  let expired := fun entry : (_ : Int) × TimerElement Event =>
    decide (entry.2.expireTime ≤ currentTime)
  { timer with
    timerTableMap :=
      ⟨timer.timerTableMap.entries.filter fun entry => !expired entry,
        timer.timerTableMap.nodupKeys.sublist List.filter_sublist⟩
    expiredTimerElementList := timer.expiredTimerElementList ++
      (timer.timerTableMap.entries.filter expired).map Sigma.snd }

/--
The unlocked part of the sweep, for one element: its event goes to the event queue,
when there is a queue and an event.
-/
def pushExpired (timer : Timer Event) (timerId : Int) : Option (Option Event × Timer Event) :=
  (timer.expiredTimerElementList.find? fun element => element.timerId = timerId).map
    fun element =>
      (if timer.eventQueueSet then element.event else none,
        { timer with
          expiredTimerElementList :=
            timer.expiredTimerElementList.eraseP fun element => element.timerId = timerId })

section Frames

variable (timer : Timer Event)

@[simp] theorem insertTimer_eventQueueSet (element : TimerElement Event) :
    (timer.insertTimer element).eventQueueSet = timer.eventQueueSet := by
  unfold insertTimer
  split <;> rfl

@[simp] theorem insertTimer_expiredTimerElementList (element : TimerElement Event) :
    (timer.insertTimer element).expiredTimerElementList = timer.expiredTimerElementList := by
  unfold insertTimer
  split <;> rfl

@[simp] theorem stopTimer_eventQueueSet (timerId : Int) :
    (timer.stopTimer timerId).2.eventQueueSet = timer.eventQueueSet := by
  unfold stopTimer
  split <;> rfl

@[simp] theorem stopTimer_expiredTimerElementList (timerId : Int) :
    (timer.stopTimer timerId).2.expiredTimerElementList = timer.expiredTimerElementList := by
  unfold stopTimer
  split <;> rfl

end Frames

section Lookup

variable {timer : Timer Event} {timerId : Int}

theorem lookup_insertTimer_self {element : TimerElement Event}
    (fresh : element.timerId ∉ timer.timerTableMap) :
    (timer.insertTimer element).timerTableMap.lookup element.timerId = some element := by
  simp [insertTimer, fresh]

theorem lookup_insertTimer_of_ne {element : TimerElement Event}
    (differs : timerId ≠ element.timerId) :
    (timer.insertTimer element).timerTableMap.lookup timerId =
      timer.timerTableMap.lookup timerId := by
  simp only [insertTimer]
  split
  · rfl
  · exact AList.lookup_insert_ne differs

@[simp] theorem lookup_stopTimer_self :
    (timer.stopTimer timerId).2.timerTableMap.lookup timerId = none := by
  simp only [stopTimer]
  split
  · exact AList.lookup_erase timerId timer.timerTableMap
  · next absent => exact AList.lookup_eq_none.mpr absent

theorem lookup_stopTimer_of_ne {other : Int} (differs : other ≠ timerId) :
    (timer.stopTimer timerId).2.timerTableMap.lookup other = timer.timerTableMap.lookup other := by
  simp only [stopTimer]
  split
  · exact AList.lookup_erase_ne differs
  · rfl

theorem not_mem_of_stopTimer {other : Int} (absent : other ∉ timer.timerTableMap) :
    other ∉ (timer.stopTimer timerId).2.timerTableMap := by
  rw [← AList.lookup_eq_none] at absent ⊢
  by_cases same : other = timerId
  · rw [same, lookup_stopTimer_self]
  · rw [lookup_stopTimer_of_ne same, absent]

theorem lookup_sweepExpired {currentTime : Nat} {element : TimerElement Event} :
    (timer.sweepExpired currentTime).timerTableMap.lookup timerId = some element ↔
      timer.timerTableMap.lookup timerId = some element ∧ currentTime < element.expireTime := by
  simp only [← Option.mem_def, AList.mem_lookup_iff, sweepExpired, List.mem_filter,
    Bool.not_eq_true', decide_eq_false_iff_not, not_le]

theorem not_mem_of_sweepExpired {currentTime : Nat} (absent : timerId ∉ timer.timerTableMap) :
    timerId ∉ (timer.sweepExpired currentTime).timerTableMap := by
  rw [← AList.lookup_eq_none] at absent ⊢
  rw [Option.eq_none_iff_forall_ne_some] at absent ⊢
  exact fun element found => absent element (lookup_sweepExpired.mp found).1

end Lookup

section Elements

variable {timer : Timer Event} {element : TimerElement Event}

/-- The running timers. -/
def elements (timer : Timer Event) : List (TimerElement Event) :=
  timer.timerTableMap.entries.map Sigma.snd

theorem mem_elements :
    element ∈ timer.elements ↔ ∃ timerId, timer.timerTableMap.lookup timerId = some element := by
  simp only [elements, List.mem_map, ← Option.mem_def, AList.mem_lookup_iff]
  constructor
  · rintro ⟨⟨timerId, found⟩, member, rfl⟩
    exact ⟨timerId, member⟩
  · rintro ⟨timerId, member⟩
    exact ⟨⟨timerId, element⟩, member, rfl⟩

theorem elements_insertTimer (fresh : element.timerId ∉ timer.timerTableMap) :
    (timer.insertTimer element).elements = element :: timer.elements := by
  have untouched : timer.timerTableMap.entries.kerase element.timerId =
      timer.timerTableMap.entries :=
    List.kerase_of_notMem_keys fresh
  simp [insertTimer, fresh, elements, untouched]

theorem elements_stopTimer {timerId : Int}
    (found : timer.timerTableMap.lookup timerId = some element) :
    timer.elements.Perm (element :: (timer.stopTimer timerId).2.elements) := by
  have present : timerId ∈ timer.timerTableMap := by
    rw [← AList.lookup_isSome, found]
    rfl
  obtain ⟨value, before, after, -, entries, erased⟩ := List.exists_of_kerase present
  have same : element = value := by
    have member : ⟨timerId, value⟩ ∈ timer.timerTableMap.entries := by simp [entries]
    rw [← AList.mem_lookup_iff, found] at member
    exact Option.some.inj member
  have remaining : (timer.stopTimer timerId).2.elements = (before ++ after).map Sigma.snd := by
    rw [stopTimer, if_pos present, elements, ← erased]
    rfl
  rw [remaining, elements, entries, same, List.map_append, List.map_append]
  exact List.perm_middle

/-- The timers that a sweep finds due move from the table to the list. -/
theorem elements_sweepExpired (timer : Timer Event) (currentTime : Nat) :
    ∃ due : List (TimerElement Event),
      timer.elements.Perm ((timer.sweepExpired currentTime).elements ++ due) ∧
      (timer.sweepExpired currentTime).expiredTimerElementList =
        timer.expiredTimerElementList ++ due ∧
      ∀ element ∈ due, element.expireTime ≤ currentTime := by
  refine ⟨_, ?_, rfl, ?_⟩
  · rw [elements, elements, ← List.map_append]
    apply List.Perm.map
    exact (List.filter_append_perm _ _).symm.trans List.perm_append_comm
  · intro element present
    simp only [List.mem_map, List.mem_filter, decide_eq_true_eq] at present
    rcases present with ⟨entry, ⟨-, due⟩, rfl⟩
    exact due

theorem mem_elements_of_stopTimer {timerId : Int}
    (running : element ∈ (timer.stopTimer timerId).2.elements) : element ∈ timer.elements := by
  rcases mem_elements.mp running with ⟨other, found⟩
  by_cases same : other = timerId
  · subst same
    simp at found
  · exact mem_elements.mpr ⟨other, by simpa [lookup_stopTimer_of_ne same] using found⟩

theorem mem_elements_of_insertTimer {inserted : TimerElement Event}
    (running : element ∈ (timer.insertTimer inserted).elements) :
    element ∈ timer.elements ∨ element = inserted := by
  rcases mem_elements.mp running with ⟨other, found⟩
  by_cases same : other = inserted.timerId
  · subst same
    by_cases taken : inserted.timerId ∈ timer.timerTableMap
    · simp only [insertTimer, if_pos taken] at found
      exact Or.inl (mem_elements.mpr ⟨_, found⟩)
    · rw [lookup_insertTimer_self taken] at found
      exact Or.inr (Option.some.inj found).symm
  · rw [lookup_insertTimer_of_ne same] at found
    exact Or.inl (mem_elements.mpr ⟨other, found⟩)

theorem mem_elements_of_sweepExpired {currentTime : Nat}
    (running : element ∈ (timer.sweepExpired currentTime).elements) :
    element ∈ timer.elements := by
  rcases mem_elements.mp running with ⟨timerId, found⟩
  exact mem_elements.mpr ⟨timerId, (lookup_sweepExpired.mp found).1⟩

theorem mem_expired_of_sweepExpired {currentTime : Nat}
    (expired : element ∈ (timer.sweepExpired currentTime).expiredTimerElementList) :
    element ∈ timer.expiredTimerElementList ∨ element ∈ timer.elements := by
  simp only [sweepExpired, List.mem_append, List.mem_map, List.mem_filter] at expired
  rcases expired with earlier | ⟨entry, ⟨member, -⟩, rfl⟩
  · exact Or.inl earlier
  · exact Or.inr (List.mem_map_of_mem member)

theorem pushExpired_spec {timerId : Int} {pushed : Option Event × Timer Event}
    (stepped : timer.pushExpired timerId = some pushed) :
    pushed.2.timerTableMap = timer.timerTableMap ∧
      (∀ element ∈ pushed.2.expiredTimerElementList,
        element ∈ timer.expiredTimerElementList) ∧
      ∀ event, pushed.1 = some event →
        ∃ element ∈ timer.expiredTimerElementList, element.event = some event := by
  simp only [pushExpired, Option.map_eq_some_iff] at stepped
  rcases stepped with ⟨element, found, rfl⟩
  refine ⟨rfl, fun other member => List.mem_of_mem_eraseP member, ?_⟩
  intro event isPushed
  refine ⟨element, List.mem_of_find?_eq_some found, ?_⟩
  simp only at isPushed
  split at isPushed
  · exact isPushed
  · simp at isPushed

end Elements

section Allocation

variable {timerTableMap : AList fun _ : Int => TimerElement Event}

theorem not_mem_of_findAvailableTimerId {fuel : Nat} {start timerId : Int}
    (found : findAvailableTimerId timerTableMap fuel start = some timerId) :
    timerId ∉ timerTableMap := by
  induction fuel generalizing start with
  | zero => simp [findAvailableTimerId] at found
  | succ fuel ih =>
      simp only [findAvailableTimerId] at found
      split at found
      · exact ih found
      · next absent =>
          rcases Option.some.inj found with rfl
          exact absent

/-- An id other than `-1` is fresh. -/
theorem not_mem_of_createNewTimerId {timer after : Timer Event} {timerId : Int}
    (created : timer.createNewTimerId = some (timerId, after)) (issued : timerId ≠ -1) :
    timerId ∉ timer.timerTableMap := by
  simp only [createNewTimerId] at created
  split at created
  · simp only [Option.some.injEq, Prod.mk.injEq] at created
    exact absurd created.1.symm issued
  · simp only [Option.map_eq_some_iff, Prod.mk.injEq] at created
    rcases created with ⟨found, search, rfl, -⟩
    exact not_mem_of_findAvailableTimerId search

/-- Handing out an id changes nothing but the counter. -/
theorem createNewTimerId_counter {timer after : Timer Event} {timerId : Int}
    (created : timer.createNewTimerId = some (timerId, after)) :
    after = { timer with nextTimerId := after.nextTimerId } := by
  simp only [createNewTimerId] at created
  split at created
  · simp only [Option.some.injEq, Prod.mk.injEq] at created
    rw [created.2]
  · simp only [Option.map_eq_some_iff, Prod.mk.injEq] at created
    rcases created with ⟨found, -, -, rfl⟩
    rfl

theorem startTimer_counter {timer after : Timer Event} {now timeoutMs : Nat}
    {event : Option Event} {element : Option (TimerElement Event)}
    (started : timer.startTimer now timeoutMs event = some (element, after)) :
    after = { timer with nextTimerId := after.nextTimerId } := by
  simp only [startTimer] at started
  split at started
  · simp only [makeNewTimerElement, Option.map_eq_some_iff] at started
    rcases started with ⟨⟨timerId, made⟩, created, result⟩
    have counter := createNewTimerId_counter created
    split at result <;>
      · simp only [Prod.mk.injEq] at result
        rw [← result.2]
        exact counter
  · simp only [Option.some.injEq, Prod.mk.injEq] at started
    rw [started.2]

/-- A made element carries the event, under an id that is not in the table. -/
theorem startTimer_made {timer after : Timer Event} {now timeoutMs : Nat}
    {event : Option Event} {element : TimerElement Event}
    (started : timer.startTimer now timeoutMs event = some (some element, after)) :
    element.event = event ∧ element.timerId ∉ timer.timerTableMap := by
  simp only [startTimer] at started
  split at started
  · simp only [makeNewTimerElement, Option.map_eq_some_iff] at started
    rcases started with ⟨⟨timerId, made⟩, created, result⟩
    split at result
    · simp at result
    · next issued =>
        simp only [Prod.mk.injEq, Option.some.injEq] at result
        rcases result with ⟨rfl, rfl⟩
        exact ⟨rfl, not_mem_of_createNewTimerId created issued⟩
  · simp at started

/-- The id reached after some increments, as a position in the cycle `1, …, INT32_MAX - 1`. -/
theorem iterate_incrementTimerId {start : Int} (positive : 1 ≤ start) (bounded : start < int32Max)
    (count : Nat) :
    incrementTimerId^[count] start = (start - 1 + count) % (int32Max - 1) + 1 := by
  induction count with
  | zero =>
      have := Int.emod_eq_of_lt (a := start - 1) (b := int32Max - 1) (by omega) (by omega)
      simp [this]
  | succ count ih =>
      rw [Function.iterate_succ_apply', ih]
      unfold incrementTimerId int32Max
      push_cast
      split <;> omega

theorem iterate_mem_of_search_fails {fuel : Nat} {start : Int}
    (failed : findAvailableTimerId timerTableMap fuel start = none) :
    ∀ count < fuel, incrementTimerId^[count] start ∈ timerTableMap := by
  induction fuel generalizing start with
  | zero => simp
  | succ fuel ih =>
      simp only [findAvailableTimerId] at failed
      split at failed
      · next taken =>
          intro count bounded
          cases count with
          | zero => exact taken
          | succ count => exact ih failed count (by omega)
      · simp at failed

/-- A search through a full cycle of ids finds one, unless the table holds them all. -/
theorem findAvailableTimerId_isSome {fuel : Nat} {start : Int}
    (positive : 1 ≤ start) (bounded : start < int32Max) (enough : int32Max - 1 ≤ fuel)
    (room : timerTableMap.entries.length < int32Max - 1) :
    (findAvailableTimerId timerTableMap fuel start).isSome := by
  by_contra failed
  have taken := iterate_mem_of_search_fails (by simpa using failed)
  let cycle := (Finset.range (int32Max - 1).toNat).image fun count => incrementTimerId^[count] start
  have inTable : cycle ⊆ timerTableMap.keys.toFinset := by
    intro timerId member
    rcases Finset.mem_image.mp member with ⟨count, below, rfl⟩
    rw [Finset.mem_range] at below
    exact List.mem_toFinset.mpr (AList.mem_keys.mp (taken count (by unfold int32Max at *; omega)))
  have size : cycle.card = (int32Max - 1).toNat := by
    rw [Finset.card_image_of_injOn, Finset.card_range]
    intro first firstBelow second secondBelow same
    simp only [Finset.coe_range, Set.mem_Iio] at firstBelow secondBelow
    simp only [iterate_incrementTimerId positive bounded] at same
    unfold int32Max at *
    omega
  have small : timerTableMap.keys.toFinset.card ≤ timerTableMap.entries.length :=
    (List.toFinset_card_le _).trans (by simp [AList.keys, List.keys])
  have := Finset.card_le_card inTable
  unfold int32Max at *
  omega

/-- `createNewTimerId` always returns. -/
theorem createNewTimerId_total {timer : Timer Event}
    (positive : 1 ≤ timer.nextTimerId) (bounded : timer.nextTimerId < int32Max) :
    timer.createNewTimerId.isSome := by
  simp only [createNewTimerId]
  split
  · rfl
  · next room =>
      simp only [if_neg bounded.ne, Option.isSome_map]
      exact findAvailableTimerId_isSome positive bounded (by decide) (by omega)

end Allocation

end Timer

end RaspberryPiService
