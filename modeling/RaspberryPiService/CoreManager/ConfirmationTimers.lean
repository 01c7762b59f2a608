import RaspberryPiService.CoreManager.Confirmation

/-!
# When a decision reaches exactly its own timers

A decision for an address stops the timer found under that address in `timerIdMap_`.
It touches no other device's timer as long as no timer is inserted under an id that
is still stored for another address; it reaches all timers of its own device as long
as no id is stored while another timer of the device is running. Both conditions are
exact: the first insertion, or store, against them already breaks the property.
-/

namespace RaspberryPiService.HardwareHandler

variable {Origin : Type} {handler next : HardwareHandler Origin} {action : Action Origin}

/-- A timer is inserted only under an id that is not stored for another address. -/
def InsertsUnstoredId (handler : HardwareHandler Origin) : Action Origin → Prop
  | .insertTimer =>
      match handler.arming with
      | .made address element => ∀ other ∈ handler.timerIdMap.keys,
          handler.timerIdMap.lookup other = some element.timerId → other = address
      | _ => True
  | _ => True

/-- An id is stored for an address only when no other timer of the address is running. -/
def StoresOnlyTimer (handler : HardwareHandler Origin) : Action Origin → Prop
  | .storeTimerId =>
      match handler.arming with
      | .started address timerId => ∀ other ∈ handler.timer.timerTableMap.keys,
          handler.timerAddress other = some address → other = timerId
      | _ => True
  | _ => True

instance (action : Action Origin) : Decidable (handler.InsertsUnstoredId action) := by
  unfold InsertsUnstoredId
  repeat' split
  all_goals infer_instance

instance (action : Action Origin) : Decidable (handler.StoresOnlyTimer action) := by
  unfold StoresOnlyTimer
  repeat' split
  all_goals infer_instance

theorem timerAddress_eq_some {timerId : Int} {address : String}
    (live : handler.timerAddress timerId = some address) :
    timerId ∈ handler.timer.timerTableMap.keys ∧ Nonempty Origin := by
  simp only [timerAddress, Option.bind_eq_some_iff] at live
  rcases live with ⟨element, found, event, -, carried⟩
  refine ⟨AList.mem_keys.mp (AList.lookup_isSome.mp (by simp [found])), ?_⟩
  cases event with
  | btDeviceRequestConfirmationTimeout _ origin => exact ⟨origin⟩
  | acceptRequestConfirmation | rejectRequestConfirmation | btDeviceRequestConfirmationNoti =>
      simp [timeoutAddress] at carried

theorem fresh_step (fresh : handler.Fresh) (stepped : handler.step action = some next) :
    next.Fresh := by
  intro address element madeAfter
  cases stepKind stepped with
  | release _ _ _ _ idleAfter _ => simp [idleAfter] at madeAfter
  | insert other inserted isInsert made =>
      subst isInsert
      have started := (registry_insertTimer fresh made stepped).1
      simp [started] at madeAfter
  | store other timerId isStore started =>
      subst isStore
      have idleAfter := (registry_storeTimerId started stepped).1
      simp [idleAfter] at madeAfter
  | arm other origin armed _ armedAfter carried absent _ =>
      rw [armedAfter, Arming.made.injEq] at madeAfter
      rcases madeAfter with ⟨rfl, rfl⟩
      exact ⟨⟨origin, carried⟩, absent⟩
  | quiet same shrinks =>
      rcases fresh address element (same ▸ madeAfter) with ⟨carried, absent⟩
      exact ⟨carried, shrinks.keys _ absent⟩

/-- The timer found under an address is its own, also while its id is not stored yet. -/
structure Isolation (handler : HardwareHandler Origin) : Prop where
  fresh : handler.Fresh
  faithful : handler.registry.Faithful
  startedOwn : ∀ address timerId, handler.arming = .started address timerId →
    ∀ carried, handler.timerAddress timerId = some carried → carried = address

theorem isolation_init : Isolation (confirmations Origin).init where
  fresh := by simp [Fresh, confirmations]
  faithful := by simp [Registry.Faithful, registry, confirmations]
  startedOwn := by simp [confirmations]

theorem faithful_insertTimer_iff (isolation : handler.Isolation) {address : String}
    {element : TimerElement (ConfirmationEvent Origin)}
    (made : handler.arming = .made address element)
    (stepped : handler.step .insertTimer = some next) :
    next.registry.Faithful ↔ handler.InsertsUnstoredId .insertTimer := by
  rw [(registry_insertTimer isolation.fresh made stepped).2, isolation.faithful.acquire_iff]
  simp only [InsertsUnstoredId, made]
  constructor
  · intro unstored other _ stored
    exact unstored other stored
  · intro unstored other stored
    exact unstored other (AList.mem_keys.mp (AList.lookup_isSome.mp (by simp_all [registry])))
      stored

theorem isolation_step (isolation : handler.Isolation)
    (good : handler.InsertsUnstoredId action) (stepped : handler.step action = some next) :
    next.Isolation := by
  have freshAfter := fresh_step isolation.fresh stepped
  cases stepKind stepped with
  | release command address origin _ idleAfter released =>
      refine ⟨freshAfter, ?_, by simp [idleAfter]⟩
      rw [released]
      exact isolation.faithful.release
  | insert address element isInsert made =>
      subst isInsert
      refine ⟨freshAfter, (faithful_insertTimer_iff isolation made stepped).mpr good, ?_⟩
      rcases registry_insertTimer isolation.fresh made stepped with ⟨startedAfter, acquired⟩
      intro other timerId started carried live
      rw [startedAfter, Arming.started.injEq] at started
      rcases started with ⟨rfl, rfl⟩
      have owner : next.registry.owner element.timerId = some carried := live
      simpa [acquired, Registry.acquire, eq_comm] using owner
  | store address timerId isStore started =>
      subst isStore
      rcases registry_storeTimerId started stepped with ⟨idleAfter, entered⟩
      refine ⟨freshAfter, ?_, by simp [idleAfter]⟩
      rw [entered]
      exact isolation.faithful.enter (isolation.startedOwn address timerId started)
  | arm _ _ _ _ madeAfter _ _ shrinks =>
      refine ⟨freshAfter, isolation.faithful.mono ?_ shrinks.owners, by simp [madeAfter]⟩
      simp [registry, shrinks.entries]
  | quiet same shrinks =>
      refine ⟨freshAfter, isolation.faithful.mono ?_ shrinks.owners, ?_⟩
      · simp [registry, shrinks.entries]
      · intro address timerId started carried live
        exact isolation.startedOwn address timerId (same ▸ started) carried
          (shrinks.owners timerId carried live)

/-- An insertion under a stored id breaks the isolation at once. -/
theorem not_timersIsolated_of_bad (isolation : handler.Isolation)
    (bad : ¬ handler.InsertsUnstoredId action) (stepped : handler.step action = some next) :
    ¬ next.TimersIsolated := by
  intro isolated
  cases stepKind stepped with
  | insert address element isInsert made =>
      subst isInsert
      rcases isolation.fresh address element made with ⟨⟨origin, -⟩, -⟩
      exact bad ((faithful_insertTimer_iff isolation made stepped).mp
        ((timersIsolated_iff_faithful origin).mp isolated))
  | release _ _ _ idle _ _ | arm _ _ _ idle _ _ _ _ =>
      apply bad
      cases action <;> simp [InsertsUnstoredId, idle]
  | store _ _ isStore _ =>
      apply bad
      simp [isStore, InsertsUnstoredId]
  | quiet same shrinks =>
      apply bad
      cases action with
      | insertTimer =>
          simp only [step] at stepped
          split at stepped
          · next made =>
              simp only [Option.some.injEq] at stepped
              subst stepped
              simp [made] at same
          · simp at stepped
      | _ => trivial

/--
Decisions remove only timers of their own address, in every state a run visits,
exactly when every timer of the run is inserted under an id that is not still stored
for another address.
-/
theorem insertsUnstoredId_iff_timersIsolated {schedule : List (Action Origin)}
    {final : HardwareHandler Origin} (ran : (confirmations Origin).run schedule = some final) :
    (confirmations Origin).Along InsertsUnstoredId schedule ↔
      (confirmations Origin).Visits TimersIsolated schedule := by
  refine System.along_iff_visits Isolation isolation_init ?_ ?_ ?_ ran
  · intro handler action next isolation good stepped
    exact isolation_step isolation good stepped
  · intro handler isolation command address origin
    exact (timersIsolated_iff_faithful origin).mpr isolation.faithful command address origin
  · intro handler action next isolation bad stepped
    exact not_timersIsolated_of_bad isolation bad stepped

/-- A confirmation request for an address and MainWorker's steps up to the stored id. -/
def requested (address : String) : List (Action Unit) :=
  [.pushEvent (.btDeviceRequestConfirmationNoti address "123456" ()),
    .processEvent, .insertTimer, .storeTimerId]

/-- The timer with id 1 runs out and its timeout event is handled. -/
def timedOut : List (Action Unit) :=
  [.tick timeoutRequestConfirmationMs, .sweepExpired timeoutRequestConfirmationMs,
    .pushExpired 1, .processEvent]

/-- Two requests with different ids, the first of which times out. -/
theorem timersIsolated_two_requests :
    (confirmations Unit).Visits TimersIsolated
      (.setEventQueue :: requested "AA" ++ requested "BB" ++ timedOut) := by
  have completes : ((confirmations Unit).run
      (.setEventQueue :: requested "AA" ++ requested "BB" ++ timedOut)).isSome := by decide
  rcases Option.isSome_iff_exists.mp completes with ⟨final, ran⟩
  exact (insertsUnstoredId_iff_timersIsolated ran).mp (by decide)

/--
After the first request timed out, the second one gets the same id, and a decision
for the first address stops the second one's timer.
-/
theorem not_timersIsolated_reused_id :
    ¬ ∀ (schedule : List (Action Unit)) (final : HardwareHandler Unit),
      (confirmations Unit).run schedule = some final → final.TimersIsolated := by
  intro isolated
  let schedule := .setEventQueue :: requested "AA" ++ timedOut ++ requested "BB"
  have observed : ((confirmations Unit).run schedule).map (fun final =>
      (final.timerAddress 1,
        (final.afterDecision .acceptRequestConfirmation "AA" ()).timerAddress 1)) =
      some (some "BB", none) := by decide
  rcases Option.map_eq_some_iff.mp observed with ⟨final, ran, observed⟩
  rw [Prod.mk.injEq] at observed
  have same := isolated schedule final ran .acceptRequestConfirmation "AA" () 1 "BB"
    observed.1 observed.2
  simp at same

/-- Every live timer is found under its address, except for one whose id is not stored yet. -/
structure Coverage (handler : HardwareHandler Origin) : Prop where
  fresh : handler.Fresh
  covering : handler.registry.CoveringBut fun address timerId =>
    handler.arming = .started address timerId

theorem coverage_init : Coverage (confirmations Origin).init where
  fresh := by simp [Fresh, confirmations]
  covering := by simp [Registry.CoveringBut, registry, timerAddress, confirmations]

theorem Coverage.covering_of_not_started (coverage : handler.Coverage)
    (quiescent : ∀ address timerId, handler.arming ≠ .started address timerId) :
    handler.registry.Covering :=
  coverage.covering.weaken quiescent

theorem covering_storeTimerId_iff (coverage : handler.Coverage) {address : String}
    {timerId : Int} (started : handler.arming = .started address timerId)
    (stepped : handler.step .storeTimerId = some next) :
    next.registry.Covering ↔ handler.StoresOnlyTimer .storeTimerId := by
  have excused : handler.registry.CoveringBut fun maker made =>
      maker = address ∧ made = timerId := by
    apply coverage.covering.weaken
    intro maker made arming
    rw [started, Arming.started.injEq] at arming
    exact ⟨arming.1.symm, arming.2.symm⟩
  rw [(registry_storeTimerId started stepped).2, excused.enter_iff]
  simp only [StoresOnlyTimer, started]
  constructor
  · intro alone other _ live
    exact alone other live
  · intro alone other live
    exact alone other (timerAddress_eq_some live).1 live

theorem coverage_step (coverage : handler.Coverage)
    (good : handler.StoresOnlyTimer action) (stepped : handler.step action = some next) :
    next.Coverage := by
  have freshAfter := fresh_step coverage.fresh stepped
  cases stepKind stepped with
  | release command address origin idle _ released =>
      refine ⟨freshAfter, ?_⟩
      rw [released]
      have covering := coverage.covering_of_not_started (by simp [idle])
      exact covering.release.weaken (by simp)
  | insert address element isInsert made =>
      subst isInsert
      rcases registry_insertTimer coverage.fresh made stepped with ⟨startedAfter, acquired⟩
      refine ⟨freshAfter, ?_⟩
      rw [acquired]
      have covering := coverage.covering_of_not_started (by simp [made])
      apply covering.acquire.weaken
      rintro maker timerId ⟨rfl, rfl⟩
      exact startedAfter
  | store address timerId isStore started =>
      subst isStore
      have covering := (covering_storeTimerId_iff coverage started stepped).mpr good
      exact ⟨freshAfter, covering.weaken (by simp)⟩
  | arm _ _ _ idle _ _ _ shrinks =>
      have covering := coverage.covering_of_not_started (by simp [idle])
      refine ⟨freshAfter, (covering.mono ?_ shrinks.owners).weaken (by simp)⟩
      simp [registry, shrinks.entries]
  | quiet same shrinks =>
      refine ⟨freshAfter, ?_⟩
      rw [same]
      refine coverage.covering.mono ?_ shrinks.owners
      simp [registry, shrinks.entries]

/-- Storing an id over a running timer of the same address loses that timer at once. -/
theorem not_timersCleared_of_bad (coverage : handler.Coverage)
    (bad : ¬ handler.StoresOnlyTimer action) (stepped : handler.step action = some next) :
    ¬ next.TimersCleared := by
  intro cleared
  cases action with
  | storeTimerId =>
      have started : ∃ address timerId, handler.arming = .started address timerId := by
        simp only [step] at stepped
        split at stepped
        · next address timerId started => exact ⟨address, timerId, started⟩
        · simp at stepped
      rcases started with ⟨address, timerId, started⟩
      have live : ∃ other, handler.timerAddress other = some address := by
        by_contra none
        apply bad
        simp only [StoresOnlyTimer, started]
        intro other _ live
        exact absurd ⟨other, live⟩ none
      rcases live with ⟨other, live⟩
      rcases (timerAddress_eq_some live).2 with ⟨origin⟩
      have idleAfter := (registry_storeTimerId started stepped).1
      exact bad ((covering_storeTimerId_iff coverage started stepped).mp
        ((timersCleared_iff_covering origin idleAfter).mp cleared))
  | _ => exact bad trivial

/--
Decisions leave no timer of their address, in every state a run visits, exactly when
every id of the run is stored while no other timer of its address is running.
-/
theorem storesOnlyTimer_iff_timersCleared {schedule : List (Action Origin)}
    {final : HardwareHandler Origin} (ran : (confirmations Origin).run schedule = some final) :
    (confirmations Origin).Along StoresOnlyTimer schedule ↔
      (confirmations Origin).Visits TimersCleared schedule := by
  refine System.along_iff_visits Coverage coverage_init ?_ ?_ ?_ ran
  · intro handler action next coverage good stepped
    exact coverage_step coverage good stepped
  · intro handler coverage idle command address origin
    have covering := coverage.covering_of_not_started (by simp [idle])
    exact (timersCleared_iff_covering origin idle).mpr covering idle command address origin
  · intro handler action next coverage bad stepped
    exact not_timersCleared_of_bad coverage bad stepped

/-- Two requests for one address, the second one after the first has timed out. -/
theorem timersCleared_after_timeout :
    (confirmations Unit).Visits TimersCleared
      (.setEventQueue :: requested "AA" ++ timedOut ++ requested "AA") := by
  have completes : ((confirmations Unit).run
      (.setEventQueue :: requested "AA" ++ timedOut ++ requested "AA")).isSome := by decide
  rcases Option.isSome_iff_exists.mp completes with ⟨final, ran⟩
  exact (storesOnlyTimer_iff_timersCleared ran).mp (by decide)

/-- With two requests for one address, a decision leaves the first one's timer running. -/
theorem not_timersCleared_second_request :
    ¬ ∀ (schedule : List (Action Unit)) (final : HardwareHandler Unit),
      (confirmations Unit).run schedule = some final → final.TimersCleared := by
  intro cleared
  let schedule := .setEventQueue :: requested "AA" ++ requested "AA"
  have observed : ((confirmations Unit).run schedule).map (fun final =>
      (final.arming, (final.afterDecision .acceptRequestConfirmation "AA" ()).timerAddress 1)) =
      some (.idle, some "AA") := by decide
  rcases Option.map_eq_some_iff.mp observed with ⟨final, ran, observed⟩
  rw [Prod.mk.injEq] at observed
  exact cleared schedule final ran observed.1 .acceptRequestConfirmation "AA" () 1 observed.2

end RaspberryPiService.HardwareHandler
