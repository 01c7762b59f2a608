import RaspberryPiService.RecordManager.Sessions

/-!
# When every start is answered exactly once

A start is answered by a rejection from `startRecording` itself, or by the worker when
it has woken up for it. So a call is outstanding while it is undecided, while it is
accepted and the worker still waits, and from the wake-up until `START_RECORD_NOTI`.
The invariant is a balance: for each call made so far, its answers and the ways in
which it is outstanding add up to one.

Two steps break the balance. A start stored while the worker is in a session is not
noticed by it and then overwritten by the worker's own `state_ = IDLE`; a stop or a
cancel stored before the worker has woken up takes the start away. Either way the call
stays without an answer for ever, so the condition is exact.
-/

namespace RaspberryPiService

namespace RecordWorker

variable {worker next : RecordWorker} {history : SessionHistory}

/-- Starts are stored only while the worker waits, and then left to it until it wakes up. -/
def KeepsStarts (recorded : RecordWorker × SessionHistory) : Action → Prop
  | .call =>
      match recorded.1.call with
      | .startSetRecording => recorded.1.thread.waiting = true
      | .stopSetIdle | .cancelSetIdle =>
          recorded.1.thread.waiting = true → recorded.1.state = .idle
      | _ => True
  | _ => True

instance (recorded : RecordWorker × SessionHistory) (action : Action) :
    Decidable (KeepsStarts recorded action) :=
  decidable_of_iff (action = .call →
      (recorded.1.call = .startSetRecording → recorded.1.thread.waiting = true) ∧
        (recorded.1.call = .stopSetIdle ∨ recorded.1.call = .cancelSetIdle →
          recorded.1.thread.waiting = true → recorded.1.state = .idle))
    (by cases action <;> cases pc : recorded.1.call <;> simp [KeepsStarts, pc])

/-- In how many ways a call is still to be answered. -/
def outstanding (worker : RecordWorker) (history : SessionHistory) (call : Nat) : Nat :=
  (if worker.call.undecidedStart = true ∧ call = history.calls then 1 else 0) +
    (if (worker.thread.waiting = true ∧ worker.state = .recording) ∧ call = history.latest
      then 1 else 0) +
    (if worker.thread.starting = true ∧ call = history.session then 1 else 0)

/-- No call is executing, and the worker is blocked or in its capture loop. -/
def Settled (worker : RecordWorker) : Prop :=
  worker.call = .none ∧ (worker.thread = .blocked ∨ worker.thread.capturing = true)

/-- Every call of `startRecording` has exactly one answer, and none was undone. -/
def StartsAnswered (history : SessionHistory) : Prop :=
  (∀ call, 1 ≤ call → call ≤ history.calls → history.answers.count call = 1) ∧
    history.undone = []

/-- Answers and outstanding answers of each call add up to one. -/
structure Balanced (worker : RecordWorker) (history : SessionHistory) : Prop where
  synchronized : worker.Synchronized
  answersBound : ∀ call ∈ history.answers, call ≤ history.calls
  latestBound : history.latest ≤ history.calls
  sessionBound : history.session ≤ history.calls
  callPositive : worker.call.undecidedStart = true → 1 ≤ history.calls
  latestPositive : worker.thread.waiting = true ∧ worker.state = .recording → 1 ≤ history.latest
  balance : ∀ call, 1 ≤ call → call ≤ history.calls →
    history.answers.count call + worker.outstanding history call = 1
  own : worker.thread.inSession = true → history.latest = history.session
  undone : history.undone = []

/-- Steps that neither answer a call nor change what is outstanding. -/
theorem Balanced.quiet (balanced : Balanced worker history) (events : List SessionEvent)
    (synchronized : next.Synchronized)
    (call : next.call.undecidedStart = worker.call.undecidedStart)
    (waiting : (next.thread.waiting = true ∧ next.state = .recording) ↔
      (worker.thread.waiting = true ∧ worker.state = .recording))
    (starting : next.thread.starting = worker.thread.starting)
    (session : next.thread.inSession = true → worker.thread.inSession = true) :
    Balanced next { history with events } where
  synchronized := synchronized
  answersBound := balanced.answersBound
  latestBound := balanced.latestBound
  sessionBound := balanced.sessionBound
  callPositive := fun undecided => balanced.callPositive (call ▸ undecided)
  latestPositive := fun live => balanced.latestPositive (waiting.mp live)
  balance := by
    intro number positive bounded
    have balance := balanced.balance number positive bounded
    simp only [outstanding, call, waiting, starting] at balance ⊢
    exact balance
  own := fun inSession => balanced.own (session inSession)
  undone := balanced.undone

theorem balanced_init : Balanced sessions.init.1 sessions.init.2 where
  synchronized := synchronized_init
  answersBound := by simp [sessions, System.withHistory]
  latestBound := by simp [sessions, System.withHistory]
  sessionBound := by simp [sessions, System.withHistory]
  callPositive := by simp [sessions, System.withHistory, calls, CallPc.undecidedStart]
  latestPositive := by simp [sessions, System.withHistory, calls]
  balance := by
    simp only [sessions, System.withHistory]
    omega
  own := by
    simp [sessions, System.withHistory, calls, ThreadPc.inSession, ThreadPc.starting,
      ThreadPc.capturing, ThreadPc.ending, ThreadPc.closing]
  undone := rfl

theorem not_inSession_of_waiting {pc : ThreadPc} (waiting : pc.waiting = true) :
    pc.inSession = false := by
  cases pc <;> simp_all [ThreadPc.waiting, ThreadPc.inSession, ThreadPc.starting,
    ThreadPc.capturing, ThreadPc.ending, ThreadPc.closing]

theorem balanced_start (balanced : Balanced worker history) (idle : worker.call = .none) :
    Balanced { worker with call := .startLock } { history with calls := history.calls + 1 } where
  synchronized := synchronized_step balanced.synchronized (.start idle)
  answersBound := fun call member => Nat.le_succ_of_le (balanced.answersBound call member)
  latestBound := Nat.le_succ_of_le balanced.latestBound
  sessionBound := Nat.le_succ_of_le balanced.sessionBound
  callPositive := fun _ => Nat.succ_pos _
  latestPositive := balanced.latestPositive
  balance := by
    intro call positive bounded
    have latestBound := balanced.latestBound
    have sessionBound := balanced.sessionBound
    simp only [outstanding, CallPc.undecidedStart, true_and] at bounded ⊢
    by_cases isNew : call = history.calls + 1
    · have unanswered : history.answers.count call = 0 := by
        rw [List.count_eq_zero]
        intro member
        have := balanced.answersBound call member
        omega
      rw [unanswered, if_pos isNew, if_neg (by omega), if_neg (by omega)]
    · have balance := balanced.balance call positive (by omega)
      simp only [outstanding, idle, CallPc.undecidedStart] at balance
      rw [if_neg isNew]
      simpa using balance
  own := balanced.own
  undone := balanced.undone

theorem balanced_setRecording (balanced : Balanced worker history)
    (pc : worker.call = .startSetRecording) (waiting : worker.thread.waiting = true)
    (events : List SessionEvent) :
    Balanced { worker with state := .recording, call := .startNotify }
      { history with latest := history.calls, events } where
  synchronized := synchronized_callStep balanced.synchronized (.startSetRecording pc)
  answersBound := balanced.answersBound
  latestBound := Nat.le_refl _
  sessionBound := balanced.sessionBound
  callPositive := by simp [CallPc.undecidedStart]
  latestPositive := fun _ => balanced.callPositive (by simp [pc, CallPc.undecidedStart])
  balance := by
    intro call positive bounded
    have balance := balanced.balance call positive bounded
    have idle := balanced.synchronized.acceptIdle (Or.inr pc)
    simp [outstanding, pc, idle, waiting, CallPc.undecidedStart] at balance ⊢
    exact balance
  own := by
    intro inSession
    simp [not_inSession_of_waiting waiting] at inSession
  undone := balanced.undone

theorem balanced_reject (balanced : Balanced worker history) (pc : worker.call = .startReject) :
    Balanced { worker.send .startRejected with call := .none }
      { history with answers := history.answers ++ [history.calls] } where
  synchronized := synchronized_callStep balanced.synchronized (.startReject pc)
  answersBound := by
    intro call member
    rcases List.mem_append.mp member with earlier | added
    · exact balanced.answersBound call earlier
    · exact Nat.le_of_eq (List.mem_singleton.mp added)
  latestBound := balanced.latestBound
  sessionBound := balanced.sessionBound
  callPositive := by simp [CallPc.undecidedStart]
  latestPositive := balanced.latestPositive
  balance := by
    intro call positive bounded
    have balance := balanced.balance call positive bounded
    simp only [outstanding, pc, CallPc.undecidedStart, send, true_and, List.count_append,
      List.count_singleton, beq_iff_eq, Bool.false_eq_true, false_and, if_false,
      eq_comm (a := history.calls)] at balance ⊢
    omega
  own := balanced.own
  undone := balanced.undone

theorem balanced_wake (balanced : Balanced worker history) (pc : worker.thread = .waitTest)
    (recording : worker.state = .recording)
    (synchronized : Synchronized { worker with thread := .woken }) :
    Balanced { worker with thread := .woken } { history with session := history.latest } where
  synchronized := synchronized
  answersBound := balanced.answersBound
  latestBound := balanced.latestBound
  sessionBound := balanced.latestBound
  callPositive := balanced.callPositive
  latestPositive := by simp [ThreadPc.waiting]
  balance := by
    intro call positive bounded
    have balance := balanced.balance call positive bounded
    simp [outstanding, pc, recording, ThreadPc.waiting, ThreadPc.starting] at balance ⊢
    exact balance
  own := fun _ => rfl
  undone := balanced.undone

/-- The worker's answer ends the starting phase of the session. -/
theorem balanced_notify (balanced : Balanced worker history) (synchronized : next.Synchronized)
    (starting : worker.thread.starting = true) (call : next.call = worker.call)
    (inSession : next.thread.inSession = true) (started : next.thread.starting = false)
    (events : List SessionEvent) :
    Balanced next
      { history with answers := history.answers ++ [history.session], events } where
  synchronized := synchronized
  answersBound := by
    intro number member
    rcases List.mem_append.mp member with earlier | added
    · exact balanced.answersBound number earlier
    · rw [List.mem_singleton.mp added]
      exact balanced.sessionBound
  latestBound := balanced.latestBound
  sessionBound := balanced.sessionBound
  callPositive := by simpa [call] using balanced.callPositive
  latestPositive := by
    intro live
    simp [not_inSession_of_waiting live.1] at inSession
  balance := by
    intro number positive bounded
    have balance := balanced.balance number positive bounded
    have notWaiting : next.thread.waiting = false := by
      by_contra waiting
      simp [not_inSession_of_waiting (by simpa using waiting)] at inSession
    have wasNotWaiting : worker.thread.waiting = false := by
      by_contra waiting
      have isWaiting : worker.thread.waiting = true := by simpa using waiting
      have outside := not_inSession_of_waiting isWaiting
      simp [ThreadPc.inSession, starting] at outside
    simp only [outstanding, call, starting, started, notWaiting, wasNotWaiting, true_and,
      List.count_append, List.count_singleton, beq_iff_eq, Bool.false_eq_true, false_and,
      if_false, eq_comm (a := history.session)] at balance ⊢
    omega
  own := by
    intro _
    exact balanced.own (by simp [ThreadPc.inSession, starting])
  undone := balanced.undone

theorem balanced_callStep (balanced : Balanced worker history)
    (good : KeepsStarts (worker, history) .call) (stepped : worker.CallStep next) :
    Balanced next (history.observeCall worker) := by
  have synchronized := synchronized_callStep balanced.synchronized stepped
  cases stepped with
  | startSetRecording pc =>
      simp only [KeepsStarts, pc] at good
      simp only [SessionHistory.observeCall, pc]
      exact balanced_setRecording balanced pc good _
  | startReject pc =>
      simp only [SessionHistory.observeCall, pc]
      exact balanced_reject balanced pc
  | startNotify pc =>
      simp only [SessionHistory.observeCall, pc]
      refine balanced.quiet history.events synchronized ?_ ?_ ?_ ?_ <;>
        · unfold notifyOne
          split <;> simp_all [CallPc.undecidedStart, ThreadPc.waiting, ThreadPc.starting,
            ThreadPc.inSession, ThreadPc.capturing, ThreadPc.ending, ThreadPc.closing]
  | stopSetIdle pc | cancelSetIdle pc =>
      simp only [KeepsStarts, pc] at good
      simp only [SessionHistory.observeCall, pc]
      refine balanced.quiet history.events synchronized ?_ ?_ rfl fun inSession => inSession
      · simp [pc, CallPc.undecidedStart]
      · simp only [reduceCtorEq, and_false, false_iff, not_and]
        intro waiting
        simp [good waiting]
  | stopAccept pc recording | cancelAccept pc recording =>
      simp only [SessionHistory.observeCall, pc]
      rw [if_pos recording]
      refine balanced.quiet _ synchronized ?_ Iff.rfl rfl fun inSession => inSession
      simp [pc, CallPc.undecidedStart]
  | stopRefuse pc idle | cancelRefuse pc idle =>
      simp only [SessionHistory.observeCall, pc]
      rw [if_neg (by simp [idle])]
      refine balanced.quiet history.events synchronized ?_ Iff.rfl rfl fun inSession => inSession
      simp [pc, CallPc.undecidedStart]
  | startLock pc _ | startAccept pc _ | startRefuse pc _ | startResetCancel pc | stopReject pc
  | cancelSetFlag pc | cancelReject pc =>
      simp only [SessionHistory.observeCall, pc]
      refine balanced.quiet history.events synchronized ?_ Iff.rfl rfl fun inSession => inSession
      simp [pc, CallPc.undecidedStart]

theorem balanced_threadStep {choice : Choice} (balanced : Balanced worker history)
    (stepped : worker.ThreadStep choice next) :
    Balanced next (history.observeThread worker choice next) := by
  have synchronized := synchronized_threadStep balanced.synchronized stepped
  cases stepped with
  | wake pc recording =>
      simp only [SessionHistory.observeThread, pc, if_true]
      exact balanced_wake balanced pc recording synchronized
  | notifyInitFailed pc =>
      simp only [SessionHistory.observeThread, pc]
      exact balanced_notify balanced synchronized (by simp [pc, ThreadPc.starting]) rfl
        (by simp [ThreadPc.inSession, ThreadPc.closing]) rfl _
  | notifyStarted pc =>
      simp only [SessionHistory.observeThread, pc]
      exact balanced_notify balanced synchronized (by simp [pc, ThreadPc.starting]) rfl
        (by simp [ThreadPc.inSession, ThreadPc.capturing]) rfl history.events
  | resetAfterInit pc | resetAfterEnd pc =>
      have own := balanced.own (by simp [pc, ThreadPc.inSession, ThreadPc.closing])
      simp only [SessionHistory.observeThread, pc, SessionHistory.observeReset, own, ne_eq,
        not_true_eq_false, and_false, if_false]
      refine balanced.quiet history.events synchronized rfl ?_ ?_ ?_ <;>
        simp [pc, ThreadPc.waiting, ThreadPc.starting, ThreadPc.inSession, ThreadPc.capturing,
          ThreadPc.ending, ThreadPc.closing]
  | keepWaiting pc _ | captureFailed pc _ =>
      simp only [SessionHistory.observeThread, pc, reduceCtorEq, if_false]
      refine balanced.quiet history.events synchronized rfl ?_ ?_ ?_ <;>
        simp [pc, ThreadPc.waiting, ThreadPc.starting, ThreadPc.inSession, ThreadPc.capturing,
          ThreadPc.ending, ThreadPc.closing]
  | captured pc alsaHelper buffer =>
      simp only [SessionHistory.observeThread, pc, if_true]
      refine balanced.quiet _ synchronized rfl ?_ ?_ ?_ <;>
        simp [pc, ThreadPc.waiting, ThreadPc.starting, ThreadPc.inSession, ThreadPc.capturing]
  | saved pc alsaHelper file samples =>
      simp only [SessionHistory.observeThread, pc, if_true]
      refine balanced.quiet _ synchronized rfl ?_ ?_ ?_ <;>
        simp [pc, ThreadPc.waiting, ThreadPc.starting, ThreadPc.inSession, ThreadPc.ending]
  | loop pc | lock pc _ | block pc | spurious pc | enter pc | clearBuffer pc | initReady pc _ _
  | initFailed pc _ | captureOn pc _ | captureOff pc _ | exceeded pc | withinDuration pc
  | endDiscard _ pc _ | endSave pc _ | notifyEnded _ pc | saveFailed pc _ | notifySaved pc
  | pushFilter pc _ _ =>
      simp only [SessionHistory.observeThread, pc, reduceCtorEq, if_false]
      refine balanced.quiet _ synchronized rfl ?_ ?_ ?_ <;>
        simp [pc, send, ThreadPc.waiting, ThreadPc.starting, ThreadPc.inSession,
          ThreadPc.capturing, ThreadPc.ending, ThreadPc.closing]

theorem balanced_step {action : Action} (balanced : Balanced worker history)
    (good : KeepsStarts (worker, history) action) (stepped : worker.Step action next) :
    Balanced next (history.observe worker action next) := by
  cases stepped with
  | start idle => exact balanced_start balanced idle
  | stop idle =>
      exact balanced.quiet history.events (synchronized_step balanced.synchronized (.stop idle))
        (by simp [idle, CallPc.undecidedStart]) Iff.rfl rfl fun inSession => inSession
  | cancel idle =>
      exact balanced.quiet history.events (synchronized_step balanced.synchronized (.cancel idle))
        (by simp [idle, CallPc.undecidedStart]) Iff.rfl rfl fun inSession => inSession
  | call stepped => exact balanced_callStep balanced good stepped
  | thread choice stepped => exact balanced_threadStep balanced stepped

/-- A call without an answer that nobody is going to answer any more. -/
structure Abandoned (worker : RecordWorker) (history : SessionHistory) (call : Nat) : Prop where
  running : worker.runningFlag = true
  positive : 1 ≤ call
  bounded : call ≤ history.calls
  unanswered : call ∉ history.answers
  decided : worker.call.undecidedStart = true → call ≠ history.calls
  missed : worker.thread.waiting = true → worker.state = .recording → call ≠ history.latest
  passed : worker.thread.starting = true → call ≠ history.session

theorem abandoned_callStep {call : Nat} (abandoned : Abandoned worker history call)
    (stepped : worker.CallStep next) : Abandoned next (history.observeCall worker) call := by
  rcases abandoned with ⟨running, positive, bounded, unanswered, decided, missed, passed⟩
  cases stepped with
  | startSetRecording pc =>
      have differs := decided (by simp [pc, CallPc.undecidedStart])
      simp only [SessionHistory.observeCall, pc]
      exact ⟨running, positive, bounded, unanswered, by simp [CallPc.undecidedStart],
        fun _ _ => differs, passed⟩
  | startReject pc =>
      have differs := decided (by simp [pc, CallPc.undecidedStart])
      simp only [SessionHistory.observeCall, pc]
      refine ⟨running, positive, bounded, ?_, by simp [CallPc.undecidedStart], missed, passed⟩
      simp [unanswered, differs]
  | startNotify pc =>
      simp only [SessionHistory.observeCall, pc]
      unfold notifyOne
      split
      · next isBlocked =>
          exact ⟨running, positive, bounded, unanswered, by simp [CallPc.undecidedStart],
            fun _ => missed (by simp [isBlocked, ThreadPc.waiting]),
            by simp [ThreadPc.starting]⟩
      · exact ⟨running, positive, bounded, unanswered, by simp [CallPc.undecidedStart], missed,
          passed⟩
  | stopAccept pc recording | cancelAccept pc recording =>
      simp only [SessionHistory.observeCall, pc]
      rw [if_pos recording]
      exact ⟨running, positive, bounded, unanswered, by simp [CallPc.undecidedStart], missed,
        passed⟩
  | stopRefuse pc idle | cancelRefuse pc idle =>
      simp only [SessionHistory.observeCall, pc]
      rw [if_neg (by simp [idle])]
      exact ⟨running, positive, bounded, unanswered, by simp [CallPc.undecidedStart], missed,
        passed⟩
  | stopSetIdle pc | cancelSetIdle pc =>
      simp only [SessionHistory.observeCall, pc]
      exact ⟨running, positive, bounded, unanswered, by simp [CallPc.undecidedStart], by simp,
        passed⟩
  | startLock pc _ | startAccept pc _ | startRefuse pc _ | startResetCancel pc =>
      simp only [SessionHistory.observeCall, pc]
      exact ⟨running, positive, bounded, unanswered,
        fun _ => decided (by simp [pc, CallPc.undecidedStart]), missed, passed⟩
  | stopReject pc | cancelSetFlag pc | cancelReject pc =>
      simp only [SessionHistory.observeCall, pc]
      exact ⟨running, positive, bounded, unanswered, by simp [CallPc.undecidedStart], missed,
        passed⟩

theorem abandoned_threadStep {choice : Choice} {call : Nat}
    (abandoned : Abandoned worker history call) (stepped : worker.ThreadStep choice next) :
    Abandoned next (history.observeThread worker choice next) call := by
  rcases abandoned with ⟨running, positive, bounded, unanswered, decided, missed, passed⟩
  cases stepped with
  | wake pc recording =>
      have differs := missed (by simp [pc, ThreadPc.waiting]) recording
      simp only [SessionHistory.observeThread, pc, if_true]
      exact ⟨running, positive, bounded, unanswered, decided, by simp [ThreadPc.waiting],
        fun _ => differs⟩
  | notifyInitFailed pc | notifyStarted pc =>
      have differs := passed (by simp [pc, ThreadPc.starting])
      simp only [SessionHistory.observeThread, pc]
      refine ⟨running, positive, bounded, ?_, decided, by simp [ThreadPc.waiting],
        by simp [ThreadPc.starting]⟩
      simp [SessionHistory.record, unanswered, differs]
  | resetAfterInit pc | resetAfterEnd pc =>
      simp only [SessionHistory.observeThread, pc, SessionHistory.observeReset]
      split <;>
        exact ⟨running, positive, bounded, unanswered, decided, by simp,
          by simp [ThreadPc.starting]⟩
  | captured pc _ _ | saved pc _ _ _ =>
      simp only [SessionHistory.observeThread, pc, if_true]
      exact ⟨running, positive, bounded, unanswered, decided, by simp [ThreadPc.waiting],
        by simp [ThreadPc.starting]⟩
  | loop pc | lock pc _ | block pc | spurious pc | keepWaiting pc _ =>
      simp only [SessionHistory.observeThread, pc, reduceCtorEq, if_false]
      exact ⟨running, positive, bounded, unanswered, decided,
        fun _ => missed (by simp [pc, ThreadPc.waiting]), by simp [ThreadPc.starting]⟩
  | enter pc | clearBuffer pc | initReady pc _ _ | initFailed pc _ =>
      simp only [SessionHistory.observeThread, pc]
      exact ⟨running, positive, bounded, unanswered, decided, by simp [ThreadPc.waiting],
        fun _ => passed (by simp [pc, ThreadPc.starting])⟩
  | captureFailed pc _ | captureOn pc _ | captureOff pc _ | exceeded pc | withinDuration pc
  | endDiscard _ pc _ | endSave pc _ | notifyEnded _ pc | saveFailed pc _ | notifySaved pc
  | pushFilter pc _ _ =>
      simp only [SessionHistory.observeThread, pc, reduceCtorEq, if_false]
      exact ⟨running, positive, bounded, unanswered, decided, by simp [ThreadPc.waiting],
        by simp [ThreadPc.starting]⟩

theorem abandoned_step {action : Action} {call : Nat} (abandoned : Abandoned worker history call)
    (stepped : worker.Step action next) :
    Abandoned next (history.observe worker action next) call := by
  cases stepped with
  | start idle =>
      rcases abandoned with ⟨running, positive, bounded, unanswered, _, missed, passed⟩
      exact ⟨running, positive, Nat.le_succ_of_le bounded, unanswered,
        fun _ => Nat.ne_of_lt (Nat.lt_succ_of_le bounded), missed, passed⟩
  | stop idle | cancel idle =>
      rcases abandoned with ⟨running, positive, bounded, unanswered, _, missed, passed⟩
      exact ⟨running, positive, bounded, unanswered, by simp [CallPc.undecidedStart], missed,
        passed⟩
  | call stepped => exact abandoned_callStep abandoned stepped
  | thread choice stepped => exact abandoned_threadStep abandoned stepped

theorem Balanced.not_abandoned (balanced : Balanced worker history) (call : Nat) :
    ¬ Abandoned worker history call := by
  intro abandoned
  have balance := balanced.balance call abandoned.positive abandoned.bounded
  have unanswered := List.count_eq_zero.mpr abandoned.unanswered
  simp only [outstanding] at balance
  rw [unanswered, if_neg fun h => abandoned.decided h.1 h.2,
    if_neg fun h => abandoned.missed h.1.1 h.1.2 h.2,
    if_neg fun h => abandoned.passed h.1 h.2] at balance
  simp at balance

/-- A start stored during a session is abandoned. -/
theorem abandoned_of_late_start (balanced : Balanced worker history)
    (pc : worker.call = .startSetRecording) (late : worker.thread.waiting ≠ true)
    (stepped : worker.CallStep next) :
    Abandoned next (history.observeCall worker) history.calls := by
  have undecided : worker.call.undecidedStart = true := by simp [pc, CallPc.undecidedStart]
  have positive := balanced.callPositive undecided
  have balance := balanced.balance history.calls positive (Nat.le_refl _)
  simp only [outstanding, undecided, true_and, if_true] at balance
  have notStarting : ¬ (worker.thread.starting = true ∧ history.calls = history.session) := by
    intro holds
    rw [if_pos holds] at balance
    omega
  have unanswered : history.calls ∉ history.answers := by
    rw [← List.count_eq_zero]
    omega
  cases stepped with
  | startSetRecording _ =>
      simp only [SessionHistory.observeCall, pc]
      exact ⟨balanced.synchronized.running, positive, Nat.le_refl _, unanswered,
        by simp [CallPc.undecidedStart], fun waiting => absurd waiting late,
        fun starting same => notStarting ⟨starting, same⟩⟩
  | _ => simp_all

/-- A start that is stopped before the worker has woken up is abandoned. -/
theorem abandoned_of_early_stop (balanced : Balanced worker history)
    (pc : worker.call = .stopSetIdle ∨ worker.call = .cancelSetIdle)
    (waiting : worker.thread.waiting = true) (recording : worker.state = .recording)
    (stepped : worker.CallStep next) :
    Abandoned next (history.observeCall worker) history.latest := by
  have positive := balanced.latestPositive ⟨waiting, recording⟩
  have balance := balanced.balance history.latest positive balanced.latestBound
  simp only [outstanding, waiting, recording, and_self, if_true] at balance
  have unanswered : history.latest ∉ history.answers := by
    rw [← List.count_eq_zero]
    omega
  have notStarting : worker.thread.starting = true → history.latest ≠ history.session := by
    intro starting
    have outside := not_inSession_of_waiting waiting
    simp [ThreadPc.inSession, starting] at outside
  cases stepped with
  | stopSetIdle stopPc | cancelSetIdle stopPc =>
      simp only [SessionHistory.observeCall, stopPc]
      exact ⟨balanced.synchronized.running, positive, balanced.latestBound, unanswered,
        by simp [CallPc.undecidedStart], by simp, notStarting⟩
  | _ => simp_all

theorem abandoned_of_bad {action : Action} (balanced : Balanced worker history)
    (bad : ¬ KeepsStarts (worker, history) action) (stepped : worker.Step action next) :
    ∃ call, Abandoned next (history.observe worker action next) call := by
  cases stepped with
  | call stepped =>
      simp only [KeepsStarts] at bad
      split at bad
      · next pc => exact ⟨_, abandoned_of_late_start balanced pc bad stepped⟩
      · next pc =>
          push Not at bad
          exact ⟨_, abandoned_of_early_stop balanced (Or.inl pc) bad.1
            (recording_of_ne_idle bad.2) stepped⟩
      · next pc =>
          push Not at bad
          exact ⟨_, abandoned_of_early_stop balanced (Or.inr pc) bad.1
            (recording_of_ne_idle bad.2) stepped⟩
      · simp at bad
  | _ => simp [KeepsStarts] at bad

theorem Balanced.startsAnswered (balanced : Balanced worker history) (settled : worker.Settled) :
    StartsAnswered history := by
  rcases settled with ⟨noCall, place⟩
  refine ⟨?_, balanced.undone⟩
  intro call positive bounded
  have balance := balanced.balance call positive bounded
  have notAwaited : ¬ (worker.thread.waiting = true ∧ worker.state = .recording) := by
    rintro ⟨waiting, recording⟩
    rcases place with isBlocked | capturing
    · simp [balanced.synchronized.idle_of_blocked isBlocked noCall] at recording
    · have outside := not_inSession_of_waiting waiting
      simp [ThreadPc.inSession, capturing] at outside
  have notStarting : worker.thread.starting ≠ true := by
    rcases place with isBlocked | capturing
    · simp [isBlocked, ThreadPc.starting]
    · cases pc : worker.thread <;> simp_all [ThreadPc.starting, ThreadPc.capturing]
  simp only [outstanding, noCall, CallPc.undecidedStart, Bool.false_eq_true, false_and,
    notAwaited, notStarting, if_false] at balance
  exact balance

/--
In a settled state, every start has been answered exactly once and none was undone,
exactly when every start was stored while the worker was waiting and none was taken
away before the worker had woken up.
-/
theorem keepsStarts_iff_startsAnswered {schedule : List Action}
    (ran : sessions.run schedule = some (worker, history)) (settled : worker.Settled) :
    sessions.Along KeepsStarts schedule ↔ StartsAnswered history := by
  have kept : sessions.Along KeepsStarts schedule ↔ ¬ ∃ call, Abandoned worker history call := by
    refine System.along_iff_not_damaged (fun recorded => Balanced recorded.1 recorded.2)
      (fun recorded => ∃ call, Abandoned recorded.1 recorded.2 call) balanced_init ?_ ?_ ?_ ?_ ran
    · intro recorded action next balanced good stepped
      rcases sessions_step_cases balanced.synchronized.running stepped with ⟨stepped, observed⟩
      rw [observed]
      exact balanced_step balanced good stepped
    · rintro recorded balanced ⟨call, abandoned⟩
      exact balanced.not_abandoned call abandoned
    · intro recorded action next balanced bad stepped
      rcases sessions_step_cases balanced.synchronized.running stepped with ⟨stepped, observed⟩
      rw [observed]
      exact abandoned_of_bad balanced bad stepped
    · rintro recorded action next ⟨call, abandoned⟩ stepped
      rcases sessions_step_cases abandoned.running stepped with ⟨stepped, observed⟩
      rw [observed]
      exact ⟨call, abandoned_step abandoned stepped⟩
  constructor
  · intro along
    have balanced : Balanced worker history := by
      refine System.invariant_of_along (fun recorded => Balanced recorded.1 recorded.2)
        balanced_init ?_ ran along
      intro recorded action next balanced good stepped
      rcases sessions_step_cases balanced.synchronized.running stepped with ⟨stepped, observed⟩
      rw [observed]
      exact balanced_step balanced good stepped
    exact balanced.startsAnswered settled
  · rintro ⟨answered, -⟩
    apply kept.mpr
    rintro ⟨call, abandoned⟩
    have once := answered call abandoned.positive abandoned.bounded
    rw [List.count_eq_zero.mpr abandoned.unanswered] at once
    simp at once

/-- Two starts, the second one rejected, and a stop. -/
def startedTwiceAndStopped : List Action :=
  threadBlocks ++ startCall ++ threadStarts ++ threadCaptures [1, 2] ++
    [.invoke .startRecording, .call, .call, .call] ++ stopCall ++
    threadSaves "20250101_120000" ++ threadFinishes ++ threadBlocks

theorem startsAnswered_startedTwiceAndStopped :
    ∃ worker history, sessions.run startedTwiceAndStopped = some (worker, history) ∧
      history.calls = 2 ∧ StartsAnswered history := by
  have observed : (sessions.run startedTwiceAndStopped).map (fun recorded =>
      (recorded.1.call, recorded.1.thread, recorded.2.calls)) =
      some (.none, .blocked, 2) := by decide
  rcases Option.map_eq_some_iff.mp observed with ⟨⟨worker, history⟩, ran, observed⟩
  simp only [Prod.mk.injEq] at observed
  have settled : worker.Settled := ⟨observed.1, Or.inl observed.2.1⟩
  exact ⟨worker, history, ran, observed.2.2,
    (keepsStarts_iff_startsAnswered ran settled).mp (by decide)⟩

/-- The second start is stored after the first session has saved its file. -/
def startedBeforeReset : List Action :=
  threadBlocks ++ startCall ++ threadStarts ++ threadCaptures [1, 2] ++ stopCall ++
    threadSaves "20250101_120000" ++ startCall ++ threadFinishes ++ threadBlocks

/-- The second start gets no answer: the worker's `state_ = IDLE` undoes it. -/
theorem not_startsAnswered_startedBeforeReset :
    ¬ ∀ (schedule : List Action) (worker : RecordWorker) (history : SessionHistory),
      sessions.run schedule = some (worker, history) → worker.Settled →
        StartsAnswered history := by
  intro answered
  have observed : (sessions.run startedBeforeReset).map (fun recorded =>
      (recorded.1.call, recorded.1.thread, recorded.2.calls, recorded.2.answers)) =
      some (.none, .blocked, 2, [1]) := by decide
  rcases Option.map_eq_some_iff.mp observed with ⟨⟨worker, history⟩, ran, observed⟩
  simp only [Prod.mk.injEq] at observed
  rcases observed with ⟨noCall, isBlocked, calls, answers⟩
  have once := (answered _ worker history ran ⟨noCall, Or.inl isBlocked⟩).1 2
    (by omega) (by omega)
  simp [answers] at once

end RecordWorker

end RaspberryPiService
