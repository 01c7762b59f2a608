import RaspberryPiService.RecordManager.RecordWorker
import RaspberryPiService.Transition.Runs

/-!
# Calls and sessions of the recording worker

MainWorker calls the three operations of `RecordWorker` in any order, one at a time,
while the worker's thread runs. Nothing in this system clears `runningFlag_`, so the
thread runs for ever.

What a run means for its callers is said with a history that is recorded next to the
run. The calls of `startRecording` are numbered from 1. `latest` is the number of the
last call that stored `RECORDING`, and `session` the number of the call that the
worker last woke up for. A stop concerns the latest accepted start; a cancel concerns
the session in progress, or the latest accepted start when there is none. A session is
terminated by its last notification: `STOP_RECORD_NOTI`, `CANCEL_RECORD_NOTI`, or the
`START_RECORD_NOTI` that reports the failure of ALSA.
-/

namespace RaspberryPiService

namespace RecordWorker

/-- MainWorker enters a call or goes on with it, or the worker's thread takes a step. -/
inductive Action where
  | invoke (call : RecordCall)
  | call
  | thread (choice : Choice)
deriving DecidableEq

def step (worker : RecordWorker) : Action → Option RecordWorker
  | .invoke call => worker.invoke call
  | .call => worker.callStep
  | .thread choice => worker.threadStep choice

def calls : System RecordWorker Action where
  init := {}
  step := step

/-- A call entered by MainWorker, a step of a call, or a step of `threadFunction`. -/
inductive Step (worker : RecordWorker) : Action → RecordWorker → Prop
  | start (idle : worker.call = .none) :
      Step worker (.invoke .startRecording) { worker with call := .startLock }
  | stop (idle : worker.call = .none) :
      Step worker (.invoke .stopRecording) { worker with call := .stopTest }
  | cancel (idle : worker.call = .none) :
      Step worker (.invoke .cancelRecording) { worker with call := .cancelTest }
  | call {next : RecordWorker} (stepped : worker.CallStep next) : Step worker .call next
  | thread {next : RecordWorker} (choice : Choice) (stepped : worker.ThreadStep choice next) :
      Step worker (.thread choice) next

variable {worker next : RecordWorker} {action : Action}

theorem step_cases (running : worker.runningFlag = true)
    (stepped : worker.step action = some next) : worker.Step action next := by
  cases action with
  | invoke call =>
      simp only [step, invoke] at stepped
      split at stepped
      · next idle =>
          cases stepped
          exact .start idle
      · next idle =>
          cases stepped
          exact .stop idle
      · next idle =>
          cases stepped
          exact .cancel idle
      · simp at stepped
  | call => exact .call (callStep_cases stepped)
  | thread choice => exact .thread choice (threadStep_cases running stepped)

/-- What the lock and the condition variable guarantee in every run. -/
structure Synchronized (worker : RecordWorker) : Prop where
  running : worker.runningFlag = true
  alive : worker.thread ≠ .exited
  exclusive : worker.call.holdsLock = true → worker.thread.holdsLock = false
  acceptIdle : worker.call = .startResetCancel ∨ worker.call = .startSetRecording →
    worker.state = .idle
  notified : worker.thread = .waitBlock ∨ worker.thread = .blocked →
    worker.state = .recording → worker.thread = .blocked ∧ worker.call = .startNotify

theorem ne_waitBlock_of_unlocked (unlocked : worker.thread.holdsLock = false) :
    worker.thread ≠ .waitBlock := by
  intro atBlock
  simp [atBlock, ThreadPc.holdsLock] at unlocked

theorem synchronized_init : calls.init.Synchronized where
  running := rfl
  alive := by simp [calls]
  exclusive := by simp [calls, CallPc.holdsLock]
  acceptIdle := by simp [calls]
  notified := by simp [calls]

theorem synchronized_callStep (synchronized : worker.Synchronized)
    (stepped : worker.CallStep next) : next.Synchronized := by
  rcases synchronized with ⟨running, alive, exclusive, acceptIdle, notified⟩
  cases stepped with
  | startLock pc free =>
      exact ⟨running, alive, fun _ => free, by simp, by simp_all⟩
  | startSetRecording pc =>
      have unlocked := exclusive (by simp [pc, CallPc.holdsLock])
      refine ⟨running, alive, fun _ => unlocked, by simp, ?_⟩
      rintro (atBlock | isBlocked) -
      · exact absurd atBlock (ne_waitBlock_of_unlocked unlocked)
      · exact ⟨isBlocked, rfl⟩
  | startNotify pc =>
      have unlocked := exclusive (by simp [pc, CallPc.holdsLock])
      unfold notifyOne
      split
      · exact ⟨running, by simp, by simp [CallPc.holdsLock], by simp, by simp⟩
      · next awake =>
          refine ⟨running, alive, by simp [CallPc.holdsLock], by simp, ?_⟩
          rintro (atBlock | isBlocked) -
          · exact absurd atBlock (ne_waitBlock_of_unlocked unlocked)
          · exact absurd isBlocked awake
  | startAccept pc idle =>
      have unlocked := exclusive (by simp [pc, CallPc.holdsLock])
      exact ⟨running, alive, fun _ => unlocked, fun _ => idle, by simp [idle]⟩
  | startResetCancel pc =>
      have unlocked := exclusive (by simp [pc, CallPc.holdsLock])
      have idle := acceptIdle (Or.inl pc)
      exact ⟨running, alive, fun _ => unlocked, fun _ => idle, by simp [idle]⟩
  | startRefuse pc recording =>
      have unlocked := exclusive (by simp [pc, CallPc.holdsLock])
      exact ⟨running, alive, fun _ => unlocked, by simp, by simp_all⟩
  | startReject pc | stopAccept pc _ | stopRefuse pc _ | stopSetIdle pc | stopReject pc
  | cancelAccept pc _ | cancelRefuse pc _ | cancelSetFlag pc | cancelSetIdle pc
  | cancelReject pc =>
      refine ⟨running, alive, by simp [CallPc.holdsLock], by simp, ?_⟩
      simp_all [send]

theorem synchronized_threadStep {choice : Choice} (synchronized : worker.Synchronized)
    (stepped : worker.ThreadStep choice next) : next.Synchronized := by
  rcases synchronized with ⟨running, alive, exclusive, acceptIdle, notified⟩
  cases stepped with
  | lock pc free => exact ⟨running, by simp, by simp [free], acceptIdle, by simp⟩
  | keepWaiting pc idle =>
      refine ⟨running, by simp, fun holds => ?_, acceptIdle, by simp [idle]⟩
      simp [pc, ThreadPc.holdsLock] at exclusive
      simp [exclusive] at holds
  | block pc =>
      refine ⟨running, by simp, by simp [ThreadPc.holdsLock], acceptIdle, fun _ recording => ?_⟩
      simp [pc] at notified
      simp [notified] at recording
  | resetAfterInit | resetAfterEnd =>
      exact ⟨running, by simp, by simp [ThreadPc.holdsLock], by simp, by simp⟩
  | _ => exact ⟨running, by simp, by simp [ThreadPc.holdsLock], acceptIdle, by simp⟩

theorem synchronized_step (synchronized : worker.Synchronized)
    (stepped : worker.Step action next) : next.Synchronized := by
  cases stepped with
  | start idle | stop idle | cancel idle =>
      rcases synchronized with ⟨running, alive, exclusive, acceptIdle, notified⟩
      exact ⟨running, alive, by simp [CallPc.holdsLock], by simp, by simp_all⟩
  | call stepped => exact synchronized_callStep synchronized stepped
  | thread choice stepped => exact synchronized_threadStep synchronized stepped

theorem waiting_of_not_inSession {pc : ThreadPc} (alive : pc ≠ .exited)
    (outside : pc.inSession = false) : pc.waiting = true := by
  cases pc <;> simp_all [ThreadPc.waiting, ThreadPc.inSession, ThreadPc.starting,
    ThreadPc.capturing, ThreadPc.ending, ThreadPc.closing]

/-- A worker that waits, while no call is executing, waits for a start. -/
theorem Synchronized.idle_of_blocked (synchronized : worker.Synchronized)
    (isBlocked : worker.thread = .blocked) (noCall : worker.call = .none) :
    worker.state = .idle := by
  cases found : worker.state with
  | idle => rfl
  | recording =>
      have notifying := (synchronized.notified (Or.inr isBlocked) found).2
      simp [noCall] at notifying

end RecordWorker

/--
What a run means for the starts and sessions in it; numbers refer to calls of
`startRecording`.
-/
inductive SessionEvent where
  | accepted (start : Nat)
  | stopped (start : Nat)
  | canceled (session : Nat)
  | captured (start : Nat) (samples : List Int16)
  | terminated (session : Nat)
  | saved (session : Nat)
  | reported (session : Nat)
  | filtered (session : Nat)
deriving DecidableEq

/-- The start or session that the event is about. -/
def SessionEvent.number : SessionEvent → Nat
  | .accepted number | .stopped number | .canceled number | .captured number _
  | .terminated number | .saved number | .reported number | .filtered number => number

structure SessionHistory where
  calls : Nat := 0
  latest : Nat := 0
  session : Nat := 0
  answers : List Nat := []
  undone : List Nat := []
  events : List SessionEvent := []
deriving DecidableEq

namespace SessionHistory

def record (history : SessionHistory) (events : List SessionEvent) : SessionHistory :=
  { history with events := history.events ++ events }

/-- The session in progress, or the latest accepted start when the worker is waiting. -/
def target (history : SessionHistory) (worker : RecordWorker) : Nat :=
  if worker.thread.inSession then history.session else history.latest

def observeCall (history : SessionHistory) (worker : RecordWorker) : SessionHistory :=
  match worker.call with
  | .startSetRecording =>
      { history with latest := history.calls }.record [.accepted history.calls]
  | .startReject => { history with answers := history.answers ++ [history.calls] }
  | .stopTest =>
      if worker.state = .recording then history.record [.stopped history.latest] else history
  | .cancelTest =>
      if worker.state = .recording then
        history.record [.stopped history.latest, .canceled (history.target worker)]
      else history
  | _ => history

/-- The worker's assignment of `IDLE`; it undoes a start stored since the session began. -/
def observeReset (history : SessionHistory) (worker : RecordWorker) : SessionHistory :=
  if worker.state = .recording ∧ history.latest ≠ history.session then
    { history with undone := history.undone ++ [history.latest] }
  else history

def observeThread (history : SessionHistory) (worker : RecordWorker) (choice : Choice)
    (next : RecordWorker) : SessionHistory :=
  match worker.thread, choice with
  | .waitTest, _ =>
      if next.thread = .woken then { history with session := history.latest } else history
  | .notifyInitFailed, _ =>
      { history with answers := history.answers ++ [history.session] }.record
        [.terminated history.session]
  | .notifyStarted, _ => { history with answers := history.answers ++ [history.session] }
  | .captureOnce, choice =>
      if next.thread = .captureTest then
        history.record [.captured history.latest choice.samples]
      else history
  | .saveWavFile, _ =>
      if next.thread = .notifySaved then history.record [.saved history.session] else history
  | .notifyEnded _, _ => history.record [.terminated history.session]
  | .notifySaved, _ =>
      history.record [.terminated history.session, .reported history.session]
  | .pushFilter, _ => history.record [.filtered history.session]
  | .resetAfterInit, _ | .resetAfterEnd, _ => history.observeReset worker
  | _, _ => history

def observe (history : SessionHistory) (worker : RecordWorker) (action : RecordWorker.Action)
    (next : RecordWorker) : SessionHistory :=
  match action with
  | .invoke .startRecording => { history with calls := history.calls + 1 }
  | .invoke _ => history
  | .call => history.observeCall worker
  | .thread choice => history.observeThread worker choice next

end SessionHistory

/-- The worker with its history. -/
def sessions : System (RecordWorker × SessionHistory) RecordWorker.Action :=
  RecordWorker.calls.withHistory {} fun worker action next history =>
    history.observe worker action next

/-- Every run of the worker has a history, and the history adds no runs. -/
theorem exists_history_iff_run {schedule : List RecordWorker.Action} {worker : RecordWorker} :
    (∃ history, sessions.run schedule = some (worker, history)) ↔
      RecordWorker.calls.run schedule = some worker :=
  System.exists_withHistory_run_iff

theorem sessions_step_cases {recorded next : RecordWorker × SessionHistory}
    {action : RecordWorker.Action} (running : recorded.1.runningFlag = true)
    (stepped : sessions.step recorded action = some next) :
    recorded.1.Step action next.1 ∧ next.2 = recorded.2.observe recorded.1 action next.1 := by
  rcases System.withHistory_step_eq_some.mp stepped with ⟨stepped, observed⟩
  exact ⟨RecordWorker.step_cases running stepped, observed⟩

namespace RecordWorker

variable {worker next : RecordWorker} {history : SessionHistory}

/-- What holds of the numbers in every run: nothing is said about starts still to be accepted. -/
structure Numbered (worker : RecordWorker) (history : SessionHistory) : Prop where
  synchronized : worker.Synchronized
  sessionBound : history.session ≤ history.latest
  latestBound : history.latest ≤ history.calls
  eventBound : ∀ event ∈ history.events, event.number ≤ history.latest
  undecided : worker.call.undecidedStart = true → history.latest < history.calls

theorem numbered_init : Numbered sessions.init.1 sessions.init.2 where
  synchronized := synchronized_init
  sessionBound := Nat.le_refl _
  latestBound := Nat.le_refl _
  eventBound := by simp [sessions, System.withHistory]
  undecided := by simp [sessions, System.withHistory, calls, CallPc.undecidedStart]

theorem Numbered.target_le (numbered : Numbered worker history) :
    history.target worker ≤ history.latest := by
  unfold SessionHistory.target
  split
  · exact numbered.sessionBound
  · exact Nat.le_refl _

theorem Numbered.advance (numbered : Numbered worker history) (synchronized : next.Synchronized)
    (undecided : next.call.undecidedStart = true → worker.call.undecidedStart = true)
    (extra : List SessionEvent) (bounded : ∀ event ∈ extra, event.number ≤ history.latest) :
    Numbered next (history.record extra) where
  synchronized := synchronized
  sessionBound := numbered.sessionBound
  latestBound := numbered.latestBound
  eventBound := by
    intro event member
    rcases List.mem_append.mp member with earlier | added
    · exact numbered.eventBound event earlier
    · exact bounded event added
  undecided := fun isUndecided => numbered.undecided (undecided isUndecided)

theorem numbered_callStep (numbered : Numbered worker history) (stepped : worker.CallStep next) :
    Numbered next (history.observeCall worker) := by
  have synchronized := synchronized_callStep numbered.synchronized stepped
  cases stepped with
  | startSetRecording pc =>
      have later := numbered.undecided (by simp [pc, CallPc.undecidedStart])
      simp only [SessionHistory.observeCall, pc]
      refine ⟨synchronized, Nat.le_trans numbered.sessionBound (Nat.le_of_lt later), Nat.le_refl _,
        ?_, by simp [CallPc.undecidedStart]⟩
      intro event member
      rcases List.mem_append.mp member with earlier | added
      · exact Nat.le_trans (numbered.eventBound event earlier) (Nat.le_of_lt later)
      · rw [List.mem_singleton.mp added]
        exact Nat.le_refl _
  | stopAccept pc recording =>
      simp only [SessionHistory.observeCall, pc]
      rw [if_pos recording]
      exact numbered.advance synchronized (by simp [CallPc.undecidedStart]) _
        (by simp [SessionEvent.number])
  | cancelAccept pc recording =>
      simp only [SessionHistory.observeCall, pc]
      rw [if_pos recording]
      exact numbered.advance synchronized (by simp [CallPc.undecidedStart]) _
        (by simpa [SessionEvent.number] using numbered.target_le)
  | stopRefuse pc idle | cancelRefuse pc idle =>
      simp only [SessionHistory.observeCall, pc]
      rw [if_neg (by simp [idle])]
      exact { numbered with
        synchronized := synchronized
        undecided := by simp [CallPc.undecidedStart] }
  | startLock pc _ | startAccept pc _ | startRefuse pc _ | startResetCancel pc | startNotify pc
  | startReject pc | stopSetIdle pc | stopReject pc | cancelSetFlag pc | cancelSetIdle pc
  | cancelReject pc =>
      simp only [SessionHistory.observeCall, pc]
      exact { numbered with
        synchronized := synchronized
        undecided := fun isUndecided => numbered.undecided (by
          simp_all [CallPc.undecidedStart]) }

theorem numbered_threadStep {choice : Choice} (numbered : Numbered worker history)
    (stepped : worker.ThreadStep choice next) :
    Numbered next (history.observeThread worker choice next) := by
  have synchronized := synchronized_threadStep numbered.synchronized stepped
  have sessionBound := numbered.sessionBound
  cases stepped with
  | wake pc recording =>
      simp only [SessionHistory.observeThread, pc, if_true]
      exact { numbered with synchronized := synchronized, sessionBound := Nat.le_refl _ }
  | captured pc _ _ | saved pc _ _ _ =>
      simp only [SessionHistory.observeThread, pc, if_true]
      exact numbered.advance synchronized (fun undecided => undecided) _
        (by simp [SessionEvent.number, sessionBound])
  | notifyEnded _ pc | notifySaved pc | pushFilter pc _ _ =>
      simp only [SessionHistory.observeThread, pc]
      exact numbered.advance synchronized (fun undecided => undecided) _
        (by simp [SessionEvent.number, sessionBound])
  | notifyInitFailed pc =>
      have terminated := numbered.advance synchronized (fun undecided => undecided)
        [.terminated history.session] (by simp [SessionEvent.number, sessionBound])
      simp only [SessionHistory.observeThread, pc]
      exact { terminated with }
  | resetAfterInit pc | resetAfterEnd pc =>
      simp only [SessionHistory.observeThread, pc, SessionHistory.observeReset]
      split <;> exact { numbered with synchronized := synchronized }
  | loop pc | lock pc _ | keepWaiting pc _ | block pc | spurious pc | enter pc | clearBuffer pc
  | initReady pc _ _ | initFailed pc _ | notifyStarted pc | captureOn pc _ | captureOff pc _
  | exceeded pc | withinDuration pc | captureFailed pc _ | endDiscard _ pc _ | endSave pc _
  | saveFailed pc _ =>
      simp only [SessionHistory.observeThread, pc, reduceCtorEq, if_false]
      exact { numbered with synchronized := synchronized }

theorem numbered_step {action : Action} (numbered : Numbered worker history)
    (stepped : worker.Step action next) :
    Numbered next (history.observe worker action next) := by
  have synchronized := synchronized_step numbered.synchronized stepped
  cases stepped with
  | start idle =>
      exact { numbered with
        synchronized := synchronized
        latestBound := Nat.le_succ_of_le numbered.latestBound
        undecided := fun _ => Nat.lt_succ_of_le numbered.latestBound }
  | stop idle | cancel idle =>
      exact { numbered with
        synchronized := synchronized
        undecided := by simp [CallPc.undecidedStart] }
  | call stepped => exact numbered_callStep numbered stepped
  | thread choice stepped => exact numbered_threadStep numbered stepped

/-! ### Fragments of schedules -/

/-- The worker's thread, from the head of its loop until it is blocked. -/
def threadBlocks : List Action :=
  [.thread .proceed, .thread .proceed, .thread .proceed, .thread .proceed]

/-- A whole call of `startRecording` that finds `IDLE`. -/
def startCall : List Action :=
  [.invoke .startRecording, .call, .call, .call, .call, .call]

/-- A whole call of `stopRecording`. -/
def stopCall : List Action :=
  [.invoke .stopRecording, .call, .call]

/-- A whole call of `cancelRecording` that finds `RECORDING`. -/
def cancelCall : List Action :=
  [.invoke .cancelRecording, .call, .call, .call]

/-- The worker wakes up, and `initAlsa` and the notification succeed. -/
def threadStarts : List Action :=
  [.thread .proceed, .thread .proceed, .thread .proceed, .thread .proceed,
    .thread (.initAlsa .ready), .thread .proceed]

/-- One round of the capture loop. -/
def threadCaptures (samples : List Int16) : List Action :=
  [.thread .proceed, .thread .proceed, .thread (.read (.frames samples))]

/-- The worker finds the loop condition false and saves the file. -/
def threadSaves (stamp : String) : List Action :=
  [.thread .proceed, .thread .proceed, .thread (.save stamp true)]

/-- The worker reports the file, hands it on and stores `IDLE`. -/
def threadFinishes : List Action :=
  [.thread .proceed, .thread (.elapsed 1), .thread .proceed]

end RecordWorker

end RaspberryPiService
