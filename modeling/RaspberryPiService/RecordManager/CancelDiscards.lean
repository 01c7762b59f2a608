import RaspberryPiService.RecordManager.Sessions

/-!
# When an accepted cancel discards the session

`cancelRecording` tests `state_`, sets `cancelRequested_` and stores `IDLE`; the worker
tests the flag once, after its capture loop. In between the flag can be too late, or
it can be lost.

It is too late when the cancel finds `RECORDING` after the flag has been tested:
`state_` keeps this value until the end of a session that ended on its own. It is also
too late when the test falls between the cancel's own test and its assignment. It is
lost when the next start resets it while the canceled session is still in its loop.
Without these three steps no canceled session is saved, reported or filtered.
-/

namespace RaspberryPiService

/-- The session has not tested `cancelRequested_` yet and may be saved. -/
def ThreadPc.untested : ThreadPc → Bool
  | .woken | .clearBuffer | .initAlsa | .notifyStarted => true
  | .captureTest | .durationTest | .captureOnce | .endTest false => true
  | _ => false

namespace RecordWorker

variable {worker next : RecordWorker} {history : SessionHistory}

/--
A cancel finds `RECORDING` only before the session has decided to save, the flag is not
tested between a cancel's test and its assignment, and no start resets the flag of a
canceled session that has not tested it yet.
-/
def CancelsInTime (recorded : RecordWorker × SessionHistory) : Action → Prop
  | .call =>
      match recorded.1.call with
      | .cancelTest =>
          recorded.1.state = .recording → recorded.1.thread.inSession = true →
            recorded.1.thread ≠ .saveWavFile ∧
              .saved recorded.2.session ∉ recorded.2.events
      | .startResetCancel =>
          recorded.1.thread.untested = true → .canceled recorded.2.session ∉ recorded.2.events
      | _ => True
  | .thread _ =>
      recorded.1.thread = .endTest false → recorded.1.cancelRequested = false →
        recorded.1.call ≠ .cancelSetFlag
  | .invoke _ => True

instance (recorded : RecordWorker × SessionHistory) (action : Action) :
    Decidable (CancelsInTime recorded action) := by
  unfold CancelsInTime
  repeat' split
  all_goals infer_instance

/-- A canceled session saves no file, reports no success and hands no file to the filter. -/
def CancelsDiscard (history : SessionHistory) : Prop :=
  ∀ session, .canceled session ∈ history.events → .saved session ∉ history.events ∧
    .reported session ∉ history.events ∧ .filtered session ∉ history.events

/-- The session is not saved yet and will not be if it has been canceled. -/
def Undecided (worker : RecordWorker) (history : SessionHistory) (session : Nat) : Prop :=
  .saved session ∉ history.events ∧ (.canceled session ∈ history.events →
    worker.cancelRequested = true ∨ worker.call = .cancelSetFlag)

structure CancelHeld (worker : RecordWorker) (history : SessionHistory) : Prop
    extends Numbered worker history where
  discarded : ∀ session, .canceled session ∈ history.events → .saved session ∉ history.events
  kept : ∀ session, .reported session ∈ history.events ∨ .filtered session ∈ history.events →
    .saved session ∈ history.events
  awaited : worker.thread.waiting = true → worker.state = .recording →
    worker.Undecided history history.latest
  untested : worker.thread.untested = true → worker.Undecided history history.session
  saving : worker.thread = .saveWavFile → .canceled history.session ∉ history.events
  afterSave : worker.thread = .notifySaved ∨ worker.thread = .pushFilter →
    .saved history.session ∈ history.events

theorem Undecided.record {session : Nat} (undecided : worker.Undecided history session)
    {extra : List SessionEvent} (unsaved : .saved session ∉ extra)
    (requested : .canceled session ∈ extra ∨ worker.cancelRequested = true ∨
      worker.call = .cancelSetFlag → next.cancelRequested = true ∨ next.call = .cancelSetFlag) :
    next.Undecided (history.record extra) session := by
  rcases undecided with ⟨absent, canceled⟩
  constructor
  · intro member
    exact (List.mem_append.mp member).elim absent unsaved
  · intro member
    rcases List.mem_append.mp member with earlier | added
    · exact requested (Or.inr (canceled earlier))
    · exact requested (Or.inl added)

/-- Steps that cancel nothing, save nothing and do not reset the flag. -/
theorem CancelHeld.quiet (held : CancelHeld worker history) (extra : List SessionEvent)
    (numbered : Numbered next (history.record extra))
    (uncanceled : ∀ session, .canceled session ∉ extra)
    (unsaved : ∀ session, .saved session ∉ extra)
    (kept : ∀ session, .reported session ∈ extra ∨ .filtered session ∈ extra →
      .saved session ∈ history.events)
    (requested : worker.cancelRequested = true ∨ worker.call = .cancelSetFlag →
      next.cancelRequested = true ∨ next.call = .cancelSetFlag)
    (awaited : next.thread.waiting = true → next.state = .recording →
      worker.thread.waiting = true ∧ worker.state = .recording)
    (untested : next.thread.untested = true → worker.thread.untested = true)
    (saving : next.thread = .saveWavFile → .canceled history.session ∉ history.events)
    (afterSave : next.thread = .notifySaved ∨ next.thread = .pushFilter →
      .saved history.session ∈ history.events) :
    CancelHeld next (history.record extra) := by
  have stillRequested : ∀ session, .canceled session ∈ extra ∨ worker.cancelRequested = true ∨
      worker.call = .cancelSetFlag → next.cancelRequested = true ∨ next.call = .cancelSetFlag :=
    fun session asked => requested (asked.resolve_left (uncanceled session))
  refine ⟨numbered, ?_, ?_, ?_, ?_, ?_, ?_⟩
  · intro session canceled saved
    have wasCanceled := (List.mem_append.mp canceled).resolve_right (uncanceled session)
    have wasSaved := (List.mem_append.mp saved).resolve_right (unsaved session)
    exact held.discarded session wasCanceled wasSaved
  · intro session
    rintro (member | member) <;> rcases List.mem_append.mp member with earlier | added
    · exact List.mem_append_left _ (held.kept session (Or.inl earlier))
    · exact List.mem_append_left _ (kept session (Or.inl added))
    · exact List.mem_append_left _ (held.kept session (Or.inr earlier))
    · exact List.mem_append_left _ (kept session (Or.inr added))
  · intro waiting recording
    rcases awaited waiting recording with ⟨wasWaiting, wasRecording⟩
    exact (held.awaited wasWaiting wasRecording).record (unsaved _) (stillRequested _)
  · exact fun isUntested =>
      (held.untested (untested isUntested)).record (unsaved _) (stillRequested _)
  · intro isSaving member
    exact (List.mem_append.mp member).elim (saving isSaving) (uncanceled _)
  · exact fun isSaved => List.mem_append_left _ (afterSave isSaved)

/-- Steps that record nothing. -/
theorem CancelHeld.unrecorded (held : CancelHeld worker history) (answers undone : List Nat)
    (numbered : Numbered next { history with answers, undone })
    (requested : worker.cancelRequested = true ∨ worker.call = .cancelSetFlag →
      next.cancelRequested = true ∨ next.call = .cancelSetFlag)
    (awaited : next.thread.waiting = true → next.state = .recording →
      worker.thread.waiting = true ∧ worker.state = .recording)
    (untested : next.thread.untested = true → worker.thread.untested = true)
    (saving : next.thread = .saveWavFile → .canceled history.session ∉ history.events)
    (afterSave : next.thread = .notifySaved ∨ next.thread = .pushFilter →
      .saved history.session ∈ history.events) :
    CancelHeld next { history with answers, undone } := by
  have same : history.record [] = history := by simp [SessionHistory.record]
  have unchanged : Numbered next (history.record []) := by
    rw [same]
    exact { numbered with }
  have recorded := held.quiet [] unchanged (by simp) (by simp) (by simp) requested awaited
    untested saving afterSave
  rw [same] at recorded
  exact { recorded with toNumbered := numbered }

theorem cancelHeld_init : CancelHeld sessions.init.1 sessions.init.2 where
  toNumbered := numbered_init
  discarded := by simp [sessions, System.withHistory]
  kept := by simp [sessions, System.withHistory]
  awaited := by simp [sessions, System.withHistory, calls]
  untested := by simp [sessions, System.withHistory, calls, ThreadPc.untested]
  saving := by simp [sessions, System.withHistory, calls]
  afterSave := by simp [sessions, System.withHistory, calls]

/-- No event is about a start that has not been stored yet. -/
theorem cancelHeld_setRecording (held : CancelHeld worker history)
    (pc : worker.call = .startSetRecording)
    (numbered : Numbered { worker with state := .recording, call := .startNotify }
      ({ history with latest := history.calls }.record [.accepted history.calls])) :
    CancelHeld { worker with state := .recording, call := .startNotify }
      ({ history with latest := history.calls }.record [.accepted history.calls]) := by
  have later : history.latest < history.calls :=
    held.undecided (by simp [pc, CallPc.undecidedStart])
  have unused : ∀ event ∈ history.events, event.number ≠ history.calls := fun event member =>
    Nat.ne_of_lt (Nat.lt_of_le_of_lt (held.eventBound event member) later)
  refine ⟨numbered, ?_, ?_, ?_, ?_, ?_, ?_⟩
  · intro session canceled saved
    simp only [SessionHistory.record, List.mem_append, List.mem_singleton, reduceCtorEq,
      or_false] at canceled saved
    exact held.discarded session canceled saved
  · intro session reported
    simp only [SessionHistory.record, List.mem_append, List.mem_singleton, reduceCtorEq,
      or_false] at reported ⊢
    exact held.kept session reported
  · intro _ _
    constructor
    · intro saved
      simp only [SessionHistory.record, List.mem_append, List.mem_singleton, reduceCtorEq,
        or_false] at saved
      exact unused _ saved rfl
    · intro canceled
      simp only [SessionHistory.record, List.mem_append, List.mem_singleton, reduceCtorEq,
        or_false] at canceled
      exact absurd rfl (unused _ canceled)
  · intro isUntested
    refine (held.untested isUntested).record (by simp) ?_
    simp [pc]
  · intro isSaving canceled
    simp only [SessionHistory.record, List.mem_append, List.mem_singleton, reduceCtorEq,
      or_false] at canceled
    exact held.saving isSaving canceled
  · exact fun isSaved => List.mem_append_left _ (held.afterSave isSaved)

/-- The flag is reset when no untested session relies on it. -/
theorem cancelHeld_resetCancel (held : CancelHeld worker history)
    (pc : worker.call = .startResetCancel) (good : CancelsInTime (worker, history) .call)
    (numbered : Numbered { worker with cancelRequested := false, call := .startSetRecording }
      history) :
    CancelHeld { worker with cancelRequested := false, call := .startSetRecording } history := by
  have idle := held.synchronized.acceptIdle (Or.inl pc)
  simp only [CancelsInTime, pc] at good
  exact { held with
    toNumbered := numbered
    awaited := by simp [idle]
    untested := fun isUntested =>
      ⟨(held.untested isUntested).1, fun canceled => absurd canceled (good isUntested)⟩ }

/-- A cancel that finds `RECORDING` finds a session, or a start, that is not saved yet. -/
theorem cancelHeld_cancelAccept (held : CancelHeld worker history)
    (pc : worker.call = .cancelTest) (recording : worker.state = .recording)
    (good : CancelsInTime (worker, history) .call)
    (numbered : Numbered { worker with call := .cancelSetFlag } (history.record
      [.stopped history.latest, .canceled (history.target worker)])) :
    CancelHeld { worker with call := .cancelSetFlag } (history.record
      [.stopped history.latest, .canceled (history.target worker)]) := by
  simp only [CancelsInTime, pc] at good
  have unsaved : .saved (history.target worker) ∉ history.events := by
    unfold SessionHistory.target
    split
    · next inSession => exact (good recording inSession).2
    · next outside =>
        have waiting := waiting_of_not_inSession held.synchronized.alive (by simpa using outside)
        exact (held.awaited waiting recording).1
  refine ⟨numbered, ?_, ?_, ?_, ?_, ?_, ?_⟩
  · intro session canceled saved
    simp only [SessionHistory.record, List.mem_append, List.mem_cons, reduceCtorEq, false_or,
      SessionEvent.canceled.injEq, List.not_mem_nil, or_false] at canceled saved
    rcases canceled with earlier | rfl
    · exact held.discarded session earlier saved
    · exact unsaved saved
  · intro session reported
    simp only [SessionHistory.record, List.mem_append, List.mem_cons, reduceCtorEq,
      List.not_mem_nil, or_false] at reported ⊢
    exact held.kept session reported
  · intro waiting _
    exact (held.awaited waiting recording).record (by simp) (by simp)
  · intro isUntested
    exact (held.untested isUntested).record (by simp) (by simp)
  · intro isSaving
    exact absurd isSaving (good recording (by simp [show worker.thread = .saveWavFile from isSaving,
      ThreadPc.inSession, ThreadPc.ending])).1
  · exact fun isSaved => List.mem_append_left _ (held.afterSave isSaved)

theorem cancelHeld_callStep (held : CancelHeld worker history)
    (good : CancelsInTime (worker, history) .call) (stepped : worker.CallStep next) :
    CancelHeld next (history.observeCall worker) := by
  have numbered := numbered_callStep held.toNumbered stepped
  cases stepped with
  | startSetRecording pc =>
      simp only [SessionHistory.observeCall, pc] at numbered ⊢
      exact cancelHeld_setRecording held pc numbered
  | startResetCancel pc =>
      simp only [SessionHistory.observeCall, pc] at numbered ⊢
      exact cancelHeld_resetCancel held pc good numbered
  | cancelAccept pc recording =>
      simp only [SessionHistory.observeCall, pc] at numbered ⊢
      rw [if_pos recording] at numbered ⊢
      exact cancelHeld_cancelAccept held pc recording good numbered
  | stopAccept pc recording =>
      simp only [SessionHistory.observeCall, pc] at numbered ⊢
      rw [if_pos recording] at numbered ⊢
      exact held.quiet _ numbered (by simp) (by simp) (by simp) (by simp [pc])
        (fun waiting recording => ⟨waiting, recording⟩) id held.saving held.afterSave
  | stopRefuse pc idle | cancelRefuse pc idle =>
      simp only [SessionHistory.observeCall, pc] at numbered ⊢
      rw [if_neg (by simp [idle])] at numbered ⊢
      exact held.unrecorded _ _ numbered (by simp [pc])
        (fun waiting recording => ⟨waiting, recording⟩) id held.saving held.afterSave
  | startNotify pc =>
      simp only [SessionHistory.observeCall, pc] at numbered ⊢
      unfold notifyOne at numbered ⊢
      split
      · next isBlocked =>
          rw [if_pos isBlocked] at numbered
          refine held.unrecorded _ _ numbered (by simp [pc]) ?_ ?_ ?_ ?_ <;>
            simp [isBlocked, ThreadPc.waiting, ThreadPc.untested]
      · next awake =>
          rw [if_neg awake] at numbered
          exact held.unrecorded _ _ numbered (by simp [pc])
            (fun waiting recording => ⟨waiting, recording⟩) id held.saving held.afterSave
  | stopSetIdle pc | cancelSetIdle pc =>
      simp only [SessionHistory.observeCall, pc] at numbered ⊢
      exact held.unrecorded _ _ numbered (by simp [pc]) (by simp) id held.saving held.afterSave
  | cancelSetFlag pc =>
      simp only [SessionHistory.observeCall, pc] at numbered ⊢
      exact held.unrecorded _ _ numbered (by simp)
        (fun waiting recording => ⟨waiting, recording⟩) id held.saving held.afterSave
  | startLock pc _ | startAccept pc _ | startRefuse pc _ | startReject pc | stopReject pc
  | cancelReject pc =>
      simp only [SessionHistory.observeCall, pc] at numbered ⊢
      exact held.unrecorded _ _ numbered (by simp [pc, send])
        (fun waiting recording => ⟨waiting, recording⟩) id held.saving held.afterSave

/-- The worker wakes up for the latest accepted start. -/
theorem cancelHeld_wake (held : CancelHeld worker history) (pc : worker.thread = .waitTest)
    (recording : worker.state = .recording)
    (numbered : Numbered { worker with thread := .woken }
      { history with session := history.latest }) :
    CancelHeld { worker with thread := .woken } { history with session := history.latest } :=
  { held with
    toNumbered := numbered
    awaited := by simp [ThreadPc.waiting]
    untested := fun _ => held.awaited (by simp [pc, ThreadPc.waiting]) recording
    saving := by simp
    afterSave := by simp }

/-- The worker decides to save, and no cancel has asked it not to. -/
theorem not_canceled_of_endSave {choice : Choice} (held : CancelHeld worker history)
    (pc : worker.thread = .endTest false) (kept : worker.cancelRequested = false)
    (good : CancelsInTime (worker, history) (.thread choice)) :
    .canceled history.session ∉ history.events := by
  intro canceled
  rcases (held.untested (by simp [pc, ThreadPc.untested])).2 canceled with requested | requesting
  · simp [kept] at requested
  · exact good pc kept requesting

theorem cancelHeld_saved (held : CancelHeld worker history) (pc : worker.thread = .saveWavFile)
    (alsaHelper : AlsaHelper) (wavFiles : List WavFile)
    (numbered : Numbered { worker with alsaHelper, wavFiles, thread := .notifySaved }
      (history.record [.saved history.session])) :
    CancelHeld { worker with alsaHelper, wavFiles, thread := .notifySaved }
      (history.record [.saved history.session]) := by
  refine ⟨numbered, ?_, ?_, by simp [ThreadPc.waiting], by simp [ThreadPc.untested], by simp,
    fun _ => List.mem_append_right _ (by simp [SessionHistory.record])⟩
  · intro session canceled saved
    simp only [SessionHistory.record, List.mem_append, List.mem_singleton, reduceCtorEq,
      or_false, SessionEvent.saved.injEq] at canceled saved
    rcases saved with earlier | rfl
    · exact held.discarded session canceled earlier
    · exact held.saving pc canceled
  · intro session reported
    simp only [SessionHistory.record, List.mem_append, List.mem_singleton, reduceCtorEq,
      or_false] at reported
    exact List.mem_append_left _ (held.kept session reported)

theorem cancelHeld_threadStep {choice : Choice} (held : CancelHeld worker history)
    (good : CancelsInTime (worker, history) (.thread choice))
    (stepped : worker.ThreadStep choice next) :
    CancelHeld next (history.observeThread worker choice next) := by
  have numbered := numbered_threadStep held.toNumbered stepped
  cases stepped with
  | wake pc recording =>
      simp only [SessionHistory.observeThread, pc, if_true] at numbered ⊢
      exact cancelHeld_wake held pc recording numbered
  | endSave pc kept =>
      have uncanceled := not_canceled_of_endSave held pc kept good
      simp only [SessionHistory.observeThread, pc] at numbered ⊢
      refine held.unrecorded _ _ numbered id ?_ ?_ (fun _ => uncanceled) ?_ <;>
        simp [ThreadPc.waiting, ThreadPc.untested]
  | saved pc alsaHelper file _ =>
      simp only [SessionHistory.observeThread, pc, if_true] at numbered ⊢
      exact cancelHeld_saved held pc alsaHelper _ numbered
  | captured pc _ _ =>
      simp only [SessionHistory.observeThread, pc, if_true] at numbered ⊢
      refine held.quiet _ numbered ?_ ?_ ?_ id ?_ ?_ ?_ ?_ <;>
        simp [pc, ThreadPc.waiting, ThreadPc.untested]
  | notifyEnded _ pc =>
      simp only [SessionHistory.observeThread, pc] at numbered ⊢
      refine held.quiet _ numbered ?_ ?_ ?_ id ?_ ?_ ?_ ?_ <;>
        simp [send, ThreadPc.waiting, ThreadPc.untested]
  | notifySaved pc =>
      have saved := held.afterSave (Or.inl pc)
      simp only [SessionHistory.observeThread, pc] at numbered ⊢
      refine held.quiet _ numbered ?_ ?_ ?_ id ?_ ?_ ?_ ?_ <;>
        simp [saved, send, ThreadPc.waiting, ThreadPc.untested]
  | pushFilter pc _ _ =>
      have saved := held.afterSave (Or.inr pc)
      simp only [SessionHistory.observeThread, pc] at numbered ⊢
      refine held.quiet _ numbered ?_ ?_ ?_ id ?_ ?_ ?_ ?_ <;>
        simp [saved, ThreadPc.waiting, ThreadPc.untested]
  | notifyInitFailed pc =>
      simp only [SessionHistory.observeThread, pc] at numbered ⊢
      refine { held.quiet [.terminated history.session] { numbered with } ?_ ?_ ?_ id ?_ ?_ ?_ ?_
        with } <;>
        simp [send, ThreadPc.waiting, ThreadPc.untested]
  | resetAfterInit pc | resetAfterEnd pc =>
      simp only [SessionHistory.observeThread, pc, SessionHistory.observeReset] at numbered ⊢
      by_cases undone : worker.state = .recording ∧ history.latest ≠ history.session
      · rw [if_pos undone] at numbered ⊢
        refine held.unrecorded _ _ numbered id ?_ ?_ ?_ ?_ <;> simp [ThreadPc.untested]
      · rw [if_neg undone] at numbered ⊢
        refine held.unrecorded _ _ numbered id ?_ ?_ ?_ ?_ <;> simp [ThreadPc.untested]
  | loop pc | lock pc _ | keepWaiting pc idle | block pc | spurious pc | enter pc | clearBuffer pc
  | initReady pc _ _ | initFailed pc _ | notifyStarted pc | captureOn pc _ | captureOff pc _
  | exceeded pc | withinDuration pc | captureFailed pc _ | endDiscard _ pc _ | saveFailed pc _ =>
      simp only [SessionHistory.observeThread, pc, reduceCtorEq, if_false] at numbered ⊢
      refine held.unrecorded _ _ numbered id ?_ ?_ ?_ ?_ <;>
        simp [pc, send, ThreadPc.waiting, ThreadPc.untested]

theorem cancelHeld_step {action : Action} (held : CancelHeld worker history)
    (good : CancelsInTime (worker, history) action) (stepped : worker.Step action next) :
    CancelHeld next (history.observe worker action next) := by
  have numbered := numbered_step held.toNumbered stepped
  cases stepped with
  | start idle =>
      exact { held with
        toNumbered := numbered
        awaited := fun waiting recording => by
          simpa [SessionHistory.observe, Undecided, idle] using held.awaited waiting recording
        untested := fun isUntested => by
          simpa [SessionHistory.observe, Undecided, idle] using held.untested isUntested }
  | stop idle | cancel idle =>
      exact held.unrecorded _ _ numbered (by simp [idle])
        (fun waiting recording => ⟨waiting, recording⟩) id held.saving held.afterSave
  | call stepped => exact cancelHeld_callStep held good stepped
  | thread choice stepped => exact cancelHeld_threadStep held good stepped

theorem CancelHeld.cancelsDiscard (held : CancelHeld worker history) :
    CancelsDiscard history := by
  intro session canceled
  have unsaved := held.discarded session canceled
  exact ⟨unsaved, fun reported => unsaved (held.kept session (Or.inl reported)),
    fun filtered => unsaved (held.kept session (Or.inr filtered))⟩

/-- Every accepted cancel discards its session in a run whose cancels are all in time. -/
theorem cancelsDiscard_of_cancelsInTime {schedule : List Action}
    (ran : sessions.run schedule = some (worker, history))
    (along : sessions.Along CancelsInTime schedule) : CancelsDiscard history := by
  have held : CancelHeld worker history := by
    refine System.invariant_of_along (fun recorded => CancelHeld recorded.1 recorded.2)
      cancelHeld_init ?_ ran along
    intro recorded action next held good stepped
    rcases sessions_step_cases held.synchronized.running stepped with ⟨stepped, observed⟩
    rw [observed]
    exact cancelHeld_step held good stepped
  exact held.cancelsDiscard

/-- A session with one capture that is canceled inside its loop. -/
def canceledInsideLoop : List Action :=
  threadBlocks ++ startCall ++ threadStarts ++ threadCaptures [1, 2] ++ cancelCall ++
    [.thread .proceed, .thread .proceed, .thread .proceed, .thread .proceed] ++ threadBlocks

theorem cancelsDiscard_canceledInsideLoop :
    ∃ worker history, sessions.run canceledInsideLoop = some (worker, history) ∧
      .canceled 1 ∈ history.events ∧ worker.wavFiles = [] ∧ CancelsDiscard history := by
  have observed : (sessions.run canceledInsideLoop).map (fun recorded =>
      (recorded.1.wavFiles, recorded.2.events)) = some ([], [.accepted 1, .captured 1 [1, 2],
        .stopped 1, .canceled 1, .terminated 1]) := by decide
  rcases Option.map_eq_some_iff.mp observed with ⟨⟨worker, history⟩, ran, observed⟩
  simp only [Prod.mk.injEq] at observed
  exact ⟨worker, history, ran, by simp [observed.2], observed.1,
    cancelsDiscard_of_cancelsInTime ran (by decide)⟩

/-- The maximum duration ends the session; the cancel comes while the file is being saved. -/
def canceledWhileSaving : List Action :=
  threadBlocks ++ startCall ++ threadStarts ++ threadCaptures [1, 2] ++
    [.thread .proceed, .thread .exceeded, .thread .proceed] ++ cancelCall ++
    [.thread (.save "20250101_120000" true)] ++ threadFinishes

/-- The cancel is accepted, and its session is saved, reported and filtered all the same. -/
theorem not_cancelsDiscard_canceledWhileSaving :
    ¬ ∀ (schedule : List Action) (worker : RecordWorker) (history : SessionHistory),
      sessions.run schedule = some (worker, history) → CancelsDiscard history := by
  intro discard
  have observed : (sessions.run canceledWhileSaving).map (fun recorded => recorded.2.events) =
      some [.accepted 1, .captured 1 [1, 2], .stopped 1, .canceled 1, .saved 1, .terminated 1,
        .reported 1, .filtered 1] := by decide
  rcases Option.map_eq_some_iff.mp observed with ⟨⟨worker, history⟩, ran, events⟩
  simp only at events
  have unsaved := (discard _ worker history ran 1 (by simp [events])).1
  simp [events] at unsaved

end RecordWorker

end RaspberryPiService
