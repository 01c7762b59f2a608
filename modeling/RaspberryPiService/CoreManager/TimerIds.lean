import Mathlib.Data.Int.Interval
import RaspberryPiService.CoreManager.Timer
import RaspberryPiService.Transition.Runs

/-!
# The ids of timers

`createNewTimerId` keeps its counter from call to call and hands out ids from 1 to
`INT32_MAX - 1`, over and over. A table may hold any of the ids that it has handed out so
far: which of them are still there depends on the callers, who insert, stop and wait.

Here the counter goes through its calls with a table for each of them that is only known to
hold ids handed out before.
-/

namespace RaspberryPiService

/-- The counter of `createNewTimerId`, and the ids that it has returned. -/
structure TimerIds where
  nextTimerId : Int := 1
  issued : List Int := []
deriving DecidableEq

abbrev TimerTableMap (Event : Type) : Type := AList fun _ : Int => TimerElement Event

namespace Timer

variable {Event : Type}

/-- Where the loop of `createNewTimerId` begins. -/
def firstTimerId (nextTimerId : Int) : Int :=
  if nextTimerId = int32Max then 1 else nextTimerId

/-- What `nextTimerId++` makes of the counter in the loop, before it is wrapped around. -/
def incrementedTimerIds (timerTableMap : TimerTableMap Event) : Nat → Int → List Int
  | 0, _ => []
  | fuel + 1, timerId =>
      if timerId ∈ timerTableMap then
        (timerId + 1) :: incrementedTimerIds timerTableMap fuel (incrementTimerId timerId)
      else []

end Timer

namespace TimerIds

variable {Event : Type}

/-- The keys of the table were issued by the allocator. -/
def Issued (ids : TimerIds) (timerTableMap : TimerTableMap Event) : Prop :=
  ∀ timerId ∈ timerTableMap.keys, timerId ∈ ids.issued

instance (ids : TimerIds) (timerTableMap : TimerTableMap Event) :
    Decidable (ids.Issued timerTableMap) :=
  inferInstanceAs (Decidable (∀ timerId ∈ _, _))

def timer (ids : TimerIds) (timerTableMap : TimerTableMap Event) : Timer Event where
  nextTimerId := ids.nextTimerId
  timerTableMap := timerTableMap

def step (ids : TimerIds) (timerTableMap : TimerTableMap Event) : Option TimerIds :=
  if ids.Issued timerTableMap then
    (ids.timer timerTableMap).createNewTimerId.map fun (timerId, after) =>
      { nextTimerId := after.nextTimerId
        issued := if timerId = -1 then ids.issued else ids.issued ++ [timerId] }
  else none

def allocator (Event : Type) : System TimerIds (TimerTableMap Event) where
  init := {}
  step := step

def Valid (timerId : Int) : Prop :=
  1 ≤ timerId ∧ timerId ≤ int32Max - 1

/-- The counter stands at an id that can be issued, and no other ids have been. -/
structure InRange (ids : TimerIds) : Prop where
  counter : Valid ids.nextTimerId
  issued : ∀ timerId ∈ ids.issued, Valid timerId

variable {ids next : TimerIds} {timerTableMap : TimerTableMap Event}

theorem valid_incrementTimerId {timerId : Int} (valid : Valid timerId) :
    Valid (Timer.incrementTimerId timerId) := by
  rcases valid with ⟨positive, bounded⟩
  unfold Timer.incrementTimerId Valid
  unfold int32Max at *
  split <;> omega

theorem valid_of_findAvailableTimerId {fuel : Nat} {start timerId : Int} (valid : Valid start)
    (found : Timer.findAvailableTimerId timerTableMap fuel start = some timerId) :
    Valid timerId := by
  induction fuel generalizing start with
  | zero => simp [Timer.findAvailableTimerId] at found
  | succ fuel ih =>
      simp only [Timer.findAvailableTimerId] at found
      split at found
      · exact ih (valid_incrementTimerId valid) found
      · rcases Option.some.inj found with rfl
        exact valid

/-- The wrap around comes before the counter can pass `INT32_MAX`. -/
theorem incrementedTimerIds_le {fuel : Nat} {start : Int} (valid : Valid start) :
    ∀ value ∈ Timer.incrementedTimerIds timerTableMap fuel start, value ≤ int32Max := by
  induction fuel generalizing start with
  | zero => simp [Timer.incrementedTimerIds]
  | succ fuel ih =>
      intro value incremented
      simp only [Timer.incrementedTimerIds] at incremented
      split at incremented
      · rcases List.mem_cons.mp incremented with rfl | later
        · have := valid.2
          omega
        · exact ih (valid_incrementTimerId valid) value later
      · simp at incremented

/-- The loop returns what its increments lead to. -/
theorem findAvailableTimerId_eq_iterate {fuel : Nat} {start timerId : Int}
    (found : Timer.findAvailableTimerId timerTableMap fuel start = some timerId) :
    timerId = Timer.incrementTimerId^[
      (Timer.incrementedTimerIds timerTableMap fuel start).length] start := by
  induction fuel generalizing start with
  | zero => simp [Timer.findAvailableTimerId] at found
  | succ fuel ih =>
      simp only [Timer.findAvailableTimerId] at found
      split at found
      · next taken =>
          simp only [Timer.incrementedTimerIds, if_pos taken, List.length_cons]
          exact ih found
      · next absent =>
          rcases Option.some.inj found with rfl
          simp [Timer.incrementedTimerIds, absent]

/-- There is room for all ids that can be issued, and no more. -/
theorem length_entries_le (valid : ∀ timerId ∈ timerTableMap.keys, Valid timerId) :
    timerTableMap.entries.length ≤ int32Max - 1 := by
  have inside : timerTableMap.keys.toFinset ⊆ Finset.Icc 1 (int32Max - 1) := by
    intro timerId member
    exact Finset.mem_Icc.mpr (valid timerId (List.mem_toFinset.mp member))
  have size : timerTableMap.keys.toFinset.card = timerTableMap.entries.length := by
    have distinct : timerTableMap.keys.Nodup := timerTableMap.nodupKeys
    rw [List.toFinset_card_of_nodup distinct]
    simp [AList.keys, List.keys]
  have bounded := Finset.card_le_card inside
  rw [size, Int.card_Icc] at bounded
  unfold int32Max at *
  omega

theorem inRange_init : InRange (allocator Event).init where
  counter := by
    unfold Valid int32Max
    simp [allocator]
  issued := by simp [allocator]

theorem InRange.createNewTimerId (inRange : ids.InRange) (issued : ids.Issued timerTableMap) :
    ∃ timerId after, (ids.timer timerTableMap).createNewTimerId = some (timerId, after) ∧
      Valid after.nextTimerId ∧
      (timerId = -1 ↔ timerTableMap.entries.length = int32Max - 1) ∧
      (timerId ≠ -1 → Valid timerId ∧ timerId ∉ timerTableMap) := by
  have size := length_entries_le fun timerId member =>
    inRange.issued timerId (issued timerId member)
  have below : ids.nextTimerId < int32Max := by
    have := inRange.counter.2
    omega
  by_cases full : int32Max - 1 ≤ timerTableMap.entries.length
  · refine ⟨-1, ids.timer timerTableMap, by simp [Timer.createNewTimerId, timer, full],
      inRange.counter, iff_of_true rfl (by omega), by simp⟩
  · have search : (ids.timer timerTableMap).createNewTimerId =
        (Timer.findAvailableTimerId timerTableMap int32Max.toNat ids.nextTimerId).map
          fun timerId => (timerId, { ids.timer timerTableMap with nextTimerId := timerId }) := by
      unfold Timer.createNewTimerId timer
      rw [if_neg full, if_neg below.ne]
    have enough : int32Max - 1 ≤ int32Max.toNat := by decide
    have ends := Timer.findAvailableTimerId_isSome inRange.counter.1 below enough (not_le.mp full)
    rcases Option.isSome_iff_exists.mp ends with ⟨timerId, found⟩
    have valid := valid_of_findAvailableTimerId inRange.counter found
    refine ⟨timerId, _, by rw [search, found]; rfl, valid, iff_of_false ?_ (by omega),
      fun _ => ⟨valid, Timer.not_mem_of_findAvailableTimerId found⟩⟩
    have := valid.1
    omega

theorem InRange.step (inRange : ids.InRange) (stepped : ids.step timerTableMap = some next) :
    next.InRange := by
  simp only [TimerIds.step, Option.ite_none_right_eq_some] at stepped
  rcases stepped with ⟨issued, stepped⟩
  rcases inRange.createNewTimerId issued with ⟨timerId, after, created, counter, -, fresh⟩
  simp only [created, Option.map_some, Option.some.injEq] at stepped
  subst stepped
  refine ⟨counter, fun other member => ?_⟩
  simp only at member
  split at member
  · exact inRange.issued other member
  · next isId =>
      rcases List.mem_append.mp member with earlier | new
      · exact inRange.issued other earlier
      · rw [List.mem_singleton.mp new]
        exact (fresh isId).1

/--
After any calls, a call on any table of issued ids ends. It returns -1 if the table holds
all ids there are, and else one that is not in the table.
-/
theorem createNewTimerId_fresh {schedule : List (TimerTableMap Event)}
    (ran : (allocator Event).run schedule = some ids) (issued : ids.Issued timerTableMap) :
    ∃ timerId after, (ids.timer timerTableMap).createNewTimerId = some (timerId, after) ∧
      (∀ value ∈ Timer.incrementedTimerIds timerTableMap int32Max.toNat
        (Timer.firstTimerId ids.nextTimerId), value ≤ int32Max) ∧
      after.nextTimerId ≤ int32Max ∧
      (timerId = -1 ↔ timerTableMap.entries.length = int32Max - 1) ∧
      (timerId ≠ -1 → 1 ≤ timerId ∧ timerId ≤ int32Max - 1 ∧ timerId ∉ timerTableMap) := by
  have inRange : ids.InRange := System.invariant_of_run InRange inRange_init
    (fun _ _ _ inRange stepped => inRange.step stepped) ran
  have first : Timer.firstTimerId ids.nextTimerId = ids.nextTimerId := by
    have := inRange.counter.2
    exact if_neg (by omega)
  rcases inRange.createNewTimerId issued with ⟨timerId, after, created, counter, full, fresh⟩
  refine ⟨timerId, after, created, ?_, ?_, full, fun isId => ?_⟩
  · rw [first]
    exact incrementedTimerIds_le inRange.counter
  · have := counter.2
    omega
  · exact ⟨(fresh isId).1.1, (fresh isId).1.2, (fresh isId).2⟩

/-- The table of a second call, which holds the timer of the first one. -/
def firstTimer : TimerTableMap Unit :=
  AList.insert 1 { timerId := 1, timeoutMs := 10, expireTime := 10, event := none } ∅

theorem createNewTimerId_fresh_second_call :
    ∃ timerId after,
      (timer { nextTimerId := 1, issued := [1] } firstTimer).createNewTimerId =
        some (timerId, after) ∧
      (∀ value ∈ Timer.incrementedTimerIds firstTimer int32Max.toNat (Timer.firstTimerId 1),
        value ≤ int32Max) ∧
      after.nextTimerId ≤ int32Max ∧
      (timerId = -1 ↔ firstTimer.entries.length = int32Max - 1) ∧
      (timerId ≠ -1 → 1 ≤ timerId ∧ timerId ≤ int32Max - 1 ∧ timerId ∉ firstTimer) :=
  createNewTimerId_fresh
    (by decide +kernel : (allocator Unit).run [∅] = some { nextTimerId := 1, issued := [1] })
    (by decide)

end TimerIds

end RaspberryPiService
