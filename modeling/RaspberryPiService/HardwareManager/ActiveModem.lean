import RaspberryPiService.HardwareManager.Phonebook

/-!
# The active modem

oFono has a modem for every phone and signals when one comes and goes. `OfonoDBus` keeps
one path, that of the modem which came last, and one set of calls and one phonebook. When
any modem goes, it clears all three.

The modems that are present are recorded next to the hardware manager, and so is whether
the removal of a modem other than the active one has changed anything.
-/

namespace RaspberryPiService

deriving instance DecidableEq for OfonoDBus

/-- What has happened to the modems. -/
structure ModemHistory where
  present : List String := []
  disturbed : Bool := false
deriving DecidableEq

namespace ModemHistory

def observe (host : OfonoHost) (action : OfonoHost.Action) (next : OfonoHost)
    (history : ModemHistory) : ModemHistory :=
  match action with
  | .signal (.modemAdded modemPath) _ =>
      { history with present := history.present.insert modemPath }
  | .signal (.modemRemoved modemPath) _ =>
      { present := history.present.filter (· ≠ modemPath)
        disturbed := history.disturbed ||
          (modemPath ≠ host.ofonoDBus.modemPath && next.ofonoDBus ≠ host.ofonoDBus) }
  | _ => history

end ModemHistory

namespace OfonoHost

/-- The hardware manager with the modems. -/
def modems : System (OfonoHost × ModemHistory) Action :=
  System.withHistory protocol {} ModemHistory.observe

/--
The active modem is a present one, and there is one if any is present; and the removal of
another modem has never changed anything.
-/
structure Tracks (recorded : OfonoHost × ModemHistory) : Prop where
  isEmpty : recorded.1.ofonoDBus.modemPath = "" ↔ recorded.2.present = []
  isPresent : recorded.1.ofonoDBus.modemPath ≠ "" →
    recorded.1.ofonoDBus.modemPath ∈ recorded.2.present
  undisturbed : recorded.2.disturbed = false

/--
A modem is removed only if it is the active one and no other modem is present, or while
nothing is kept.
-/
def LastLeaves (recorded : OfonoHost × ModemHistory) : Action → Prop
  | .signal (.modemRemoved modemPath) _ =>
      modemPath = recorded.1.ofonoDBus.modemPath ∧
          (∀ other ∈ recorded.2.present, other = modemPath) ∨
        recorded.1.ofonoDBus = {}
  | _ => True

variable {recorded next : OfonoHost × ModemHistory} {action : Action}

/-- Only the signals about modems change the active one. -/
theorem modemPath_dispatchMessage (ofonoDBus : OfonoDBus) (calls : OfonoCalls)
    (signal : OfonoSignal) :
    (BluetoothWorker.dispatchMessage ofonoDBus calls signal).1.modemPath =
      match signal with
      | .modemAdded modemPath => modemPath
      | .modemRemoved _ => ""
      | _ => ofonoDBus.modemPath := by
  cases signal with
  | modemAdded modemPath => rfl
  | modemRemoved modemPath => rfl
  | callAdded callPath =>
      simp only [BluetoothWorker.dispatchMessage, BluetoothWorker.handleCallAdded]
      split_ifs <;> rfl
  | callRemoved callPath =>
      simp only [BluetoothWorker.dispatchMessage, BluetoothWorker.handleCallRemoved]
      split_ifs <;> rfl
  | propertyChanged callPath key =>
      simp only [BluetoothWorker.dispatchMessage, BluetoothWorker.handleVoiceCallPropertyChanged]
      split_ifs <;> rfl

/-- What a step does to the active modem and to the record. -/
theorem modems_step (stepped : modems.step recorded action = some next) :
    (∃ modemPath calls, action = .signal (.modemAdded modemPath) calls ∧ modemPath ≠ "" ∧
        next.1.ofonoDBus.modemPath = modemPath ∧
        next.2 = { recorded.2 with present := recorded.2.present.insert modemPath }) ∨
      (∃ modemPath calls, action = .signal (.modemRemoved modemPath) calls ∧ modemPath ≠ "" ∧
        next.1.ofonoDBus = {} ∧
        next.2.present = recorded.2.present.filter (· ≠ modemPath) ∧
        next.2.disturbed = (recorded.2.disturbed ||
          (modemPath ≠ recorded.1.ofonoDBus.modemPath && recorded.1.ofonoDBus ≠ {}))) ∨
      ((∀ modemPath calls, action ≠ .signal (.modemRemoved modemPath) calls) ∧
        next.1.ofonoDBus.modemPath = recorded.1.ofonoDBus.modemPath ∧ next.2 = recorded.2) := by
  rcases System.withHistory_step_eq_some.mp stepped with ⟨stepped, observed⟩
  cases action with
  | signal signal calls =>
      have handled := step_signal stepped
      have modemPath := modemPath_dispatchMessage recorded.1.ofonoDBus calls signal
      cases signal with
      | modemAdded path =>
          refine Or.inl ⟨path, calls, rfl, ?_, by rw [handled]; exact modemPath, observed⟩
          rintro rfl
          cases stepped
      | modemRemoved path =>
          have cleared : next.1.ofonoDBus = {} := by rw [handled]; rfl
          refine Or.inr (Or.inl ⟨path, calls, rfl, ?_, cleared, by rw [observed]; rfl, ?_⟩)
          · rintro rfl
            cases stepped
          · simp only [observed, ModemHistory.observe, cleared, ne_comm]
      | _ => exact Or.inr (Or.inr ⟨by simp, by rw [handled]; exact modemPath, observed⟩)
  | sync sm me =>
      have synced : recorded.1.sync sm me = next.1 := Option.some.inj stepped
      refine Or.inr (Or.inr ⟨by simp, ?_, observed⟩)
      simp only [← synced, OfonoHost.sync, OfonoDBus.syncAllOfonoContacts_eq, OfonoDBus.withEntries]
  | notify noti =>
      simp only [protocol, OfonoHost.step, Option.ite_none_right_eq_some, Option.some.injEq]
        at stepped
      rw [← stepped.2]
      exact Or.inr (Or.inr ⟨by simp, rfl, observed⟩)

theorem Tracks.init : Tracks modems.init where
  isEmpty := Iff.intro (fun _ => rfl) fun _ => rfl
  isPresent := fun nonempty => absurd rfl nonempty
  undisturbed := rfl

theorem Tracks.step (tracks : Tracks recorded) (lastLeaves : LastLeaves recorded action)
    (stepped : modems.step recorded action = some next) : Tracks next := by
  rcases modems_step stepped with ⟨path, calls, rfl, isPath, active, history⟩ |
    ⟨path, calls, rfl, isPath, cleared, present, disturbed⟩ | ⟨-, active, history⟩
  · have inserted : path ∈ recorded.2.present.insert path := List.mem_insert_self
    rw [← active] at isPath
    constructor
    · rw [history]
      exact iff_of_false isPath (List.ne_nil_of_mem inserted)
    · intro _
      rw [active, history]
      exact inserted
    · rw [history]
      exact tracks.undisturbed
  · have noneLeft : next.2.present = [] := by
      rw [present, List.filter_eq_nil_iff]
      intro other isPresent
      rcases lastLeaves with ⟨-, alone⟩ | kept
      · simpa using alone other isPresent
      · have nonePresent := tracks.isEmpty.mp (by rw [kept])
        rw [nonePresent] at isPresent
        cases isPresent
    constructor
    · rw [cleared, noneLeft]
      exact iff_of_true rfl rfl
    · rw [cleared]
      exact fun nonempty => absurd rfl nonempty
    · rcases lastLeaves with ⟨isActive, -⟩ | kept
      · simp [disturbed, tracks.undisturbed, isActive]
      · simp [disturbed, tracks.undisturbed, kept]
  · constructor
    · rw [active, history]
      exact tracks.isEmpty
    · rw [active, history]
      exact tracks.isPresent
    · rw [history]
      exact tracks.undisturbed

/-- The removal of a modem shows at once, unless it is the last one and the active one. -/
theorem not_tracks_of_step (early : ¬LastLeaves recorded action)
    (stepped : modems.step recorded action = some next) : ¬Tracks next := by
  intro after
  rcases modems_step stepped with ⟨path, calls, rfl, -⟩ |
    ⟨path, calls, rfl, isPath, cleared, present, disturbed⟩ | ⟨other, -⟩
  · exact early trivial
  · simp only [LastLeaves, not_or, not_and] at early
    have noneLeft := after.isEmpty.mp (by rw [cleared])
    rw [present, List.filter_eq_nil_iff] at noneLeft
    by_cases isActive : path = recorded.1.ofonoDBus.modemPath
    · apply early.1 isActive
      intro other isPresent
      simpa using noneLeft other isPresent
    · have undisturbed := after.undisturbed
      simp [disturbed, isActive, early.2] at undisturbed
  · apply early
    unfold LastLeaves
    split
    · next path calls => exact absurd rfl (other path calls)
    · trivial

/--
The active modem is present in every state of a run, and removals of other modems change
nothing in it, exactly if every removal is that of the active modem while no other one is
present, or comes while nothing is kept.
-/
theorem tracks_iff_lastLeaves {schedule : List Action} {final : OfonoHost × ModemHistory}
    (ran : modems.run schedule = some final) :
    modems.Along LastLeaves schedule ↔ modems.Visits Tracks schedule := by
  apply System.along_iff_visits Tracks Tracks.init
  · exact fun _ _ _ tracks lastLeaves stepped => tracks.step lastLeaves stepped
  · exact fun _ tracks => tracks
  · exact fun _ _ _ _ early stepped => not_tracks_of_step early stepped
  · exact ran

/-- Two phones come, and the first one goes. -/
def firstPhoneLeaves : List Action :=
  [.signal (.modemAdded "/hfp/first") ∅, .signal (.modemAdded "/hfp/second") ∅,
    .signal (.modemRemoved "/hfp/first") ∅]

theorem not_tracks_firstPhoneLeaves :
    ∃ final, modems.run firstPhoneLeaves = some final ∧
      final.1.ofonoDBus.modemPath = "" ∧ final.2.present = ["/hfp/second"] ∧ ¬Tracks final := by
  refine ⟨_, rfl, rfl, by decide +kernel, ?_⟩
  intro tracks
  have nonePresent := tracks.isEmpty.mp rfl
  exact absurd nonePresent (by decide +kernel)

/-- A phone comes and goes, and another one comes after it. -/
def oneAfterAnother : List Action :=
  [.signal (.modemAdded "/hfp/first") ∅, .signal (.modemRemoved "/hfp/first") ∅,
    .signal (.modemAdded "/hfp/second") ∅]

theorem visits_oneAfterAnother :
    ∃ final, modems.run oneAfterAnother = some final ∧
      final.1.ofonoDBus.modemPath = "/hfp/second" ∧ final.2.present = ["/hfp/second"] ∧
      modems.Visits Tracks oneAfterAnother := by
  have lastLeaves : modems.Along LastLeaves oneAfterAnother := by
    refine .cons trivial rfl (.cons (Or.inl ⟨rfl, ?_⟩) rfl (.cons trivial rfl trivial))
    decide +kernel
  have ran : modems.run oneAfterAnother = some _ := rfl
  exact ⟨_, ran, rfl, by decide +kernel, (tracks_iff_lastLeaves ran).mp lastLeaves⟩

end OfonoHost

end RaspberryPiService
