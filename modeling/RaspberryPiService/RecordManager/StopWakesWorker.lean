import RaspberryPiService.RecordManager.Sessions
import RaspberryPiService.Transition.Wakeup

/-!
# Stopping the recording worker

`stop` clears `runningFlag_`, stores `IDLE` and notifies the condition variable, all without
`mtx_`. The worker evaluates its predicate under `mtx_` and blocks in a later step, so that
the whole of `stop` may run in between.

Here `stop` is called next to the calls of MainWorker, by a thread of its own and any number
of times, in atomic steps of its own.
-/

namespace RaspberryPiService

/-- What a call of `stop` does next. -/
inductive StopperPc where
  | none
  | testRunning
  | clearRunning
  | setIdle
  | notifyOne
deriving DecidableEq

/-- A call of `startRecording` that has not been rejected, and may still notify the worker. -/
def CallPc.mayNotify : CallPc → Bool
  | .startLock | .startTest | .startResetCancel | .startSetRecording | .startNotify => true
  | _ => false

/-- The worker and the thread that stops it; `stopped` after the first return of `stop`. -/
structure StoppedWorker where
  worker : RecordWorker := {}
  stop : StopperPc := .none
  stopped : Bool := false
deriving DecidableEq

/-- A step of the worker and its calls, the entry of `stop`, or a step of it. -/
inductive StoppedWorkerAction where
  | worker (action : RecordWorker.Action)
  | invokeStop
  | stop
deriving DecidableEq

namespace StoppedWorker

/-- The next step of `stop`, with `ThreadBase::stop` at its beginning. -/
def stopStep (state : StoppedWorker) : Option StoppedWorker :=
  match state.stop with
  | .none => none
  | .testRunning =>
      if state.worker.runningFlag then some { state with stop := .clearRunning }
      else some { state with stop := .setIdle }
  | .clearRunning =>
      some { state with worker := { state.worker with runningFlag := false }, stop := .setIdle }
  | .setIdle =>
      some { state with worker := { state.worker with state := .idle }, stop := .notifyOne }
  | .notifyOne =>
      some { worker := state.worker.notifyOne, stop := .none, stopped := true }

def step (state : StoppedWorker) : StoppedWorkerAction → Option StoppedWorker
  | .worker action => (state.worker.step action).map fun worker => { state with worker }
  | .invokeStop =>
      if state.stop = .none then some { state with stop := .testRunning } else none
  | .stop => state.stopStep

def protocol : System StoppedWorker StoppedWorkerAction where
  init := {}
  step := step

/-- A call that has not returned may still notify the worker. -/
def NotificationToCome (state : StoppedWorker) : Prop :=
  state.stop ≠ .none ∨ state.worker.call.mayNotify = true

/-- The worker is blocked for good, and a join with it does not return. -/
def Hangs (state : StoppedWorker) : Prop :=
  state.worker.thread = .blocked ∧ state.worker.runningFlag = false ∧ ¬ state.NotificationToCome

/-- `stop` does not notify while the worker has evaluated its predicate and is about to block. -/
def StopReachesWorker (state : StoppedWorker) : StoppedWorkerAction → Prop
  | .stop => state.stop = .notifyOne → state.worker.thread ≠ .waitBlock
  | _ => True

instance decidableStopReachesWorker (state : StoppedWorker) (action : StoppedWorkerAction) :
    Decidable (state.StopReachesWorker action) :=
  match action with
  | .stop => inferInstanceAs (Decidable (state.stop = .notifyOne → _))
  | .worker _ | .invokeStop => isTrue trivial

end StoppedWorker

/-- The way of `threadFunction` into `cv_.wait`. -/
def ThreadPc.waitPhase : ThreadPc → WaitPhase
  | .waitBlock => .decided
  | .blocked => .blocked
  | _ => .awake

namespace RecordWorker

variable {worker next : RecordWorker}

/-- Only the worker itself goes into the wait, and only while it is running. -/
theorem threadStep_waitPhase {choice : Choice} (stepped : worker.threadStep choice = some next) :
    next.runningFlag = worker.runningFlag ∧
      (next.thread.waitPhase = .awake ∨ worker.runningFlag = true ∨
        worker.thread.waitPhase = .decided) := by
  cases pc : worker.thread with
  | waitTest =>
      cases choice <;> simp only [threadStep, pc, reduceCtorEq] at stepped
      split at stepped
      · cases stepped
        exact ⟨rfl, Or.inl rfl⟩
      · next fails =>
          cases stepped
          exact ⟨rfl, Or.inr (Or.inl (by simpa using fun idle => fails (Or.inr idle)))⟩
  | waitBlock =>
      cases choice <;> simp only [threadStep, pc, reduceCtorEq] at stepped
      cases stepped
      exact ⟨rfl, Or.inr (Or.inr rfl)⟩
  | _ =>
      -- Everywhere else the next step leads to a place outside of the wait.
      unfold threadStep at stepped
      grind [ThreadPc.waitPhase, endStep, send]

theorem notifyOne_waitPhase (worker : RecordWorker) :
    worker.notifyOne.thread.waitPhase = worker.thread.waitPhase.notified := by
  unfold notifyOne
  split
  · next blocked =>
      rw [blocked]
      rfl
  · next notBlocked =>
      cases pc : worker.thread <;> simp_all [ThreadPc.waitPhase, WaitPhase.notified]

@[simp] theorem notifyOne_runningFlag (worker : RecordWorker) :
    worker.notifyOne.runningFlag = worker.runningFlag := by
  unfold notifyOne
  split <;> rfl

/-- A call notifies the worker, or leaves it where it is. -/
theorem callStep_waitPhase (stepped : worker.callStep = some next) :
    next.runningFlag = worker.runningFlag ∧
      (next.thread.waitPhase ≠ .awake → worker.thread.waitPhase ≠ .awake) := by
  have taken := callStep_cases stepped
  cases taken with
  | startNotify pc =>
      refine ⟨notifyOne_runningFlag worker, fun asleep => ?_⟩
      rw [notifyOne_waitPhase] at asleep
      exact WaitPhase.ne_awake_of_notified asleep
  | _ => exact ⟨rfl, id⟩

theorem invoke_waitPhase {call : RecordCall} (invoked : worker.invoke call = some next) :
    next.runningFlag = worker.runningFlag ∧ next.thread = worker.thread := by
  unfold invoke at invoked
  split at invoked <;> cases invoked <;> exact ⟨rfl, rfl⟩

end RecordWorker

namespace StoppedWorker

/-- The worker, with a stop that it has to hear of. -/
def waiter : Waiter StoppedWorker where
  phase state := state.worker.thread.waitPhase
  due state := state.worker.runningFlag = false
  pending state := state.stop = .setIdle ∨ state.stop = .notifyOne

variable {state next : StoppedWorker} {action : StoppedWorkerAction}

theorem move_of_waitPhase {worker : RecordWorker}
    (running : worker.runningFlag = state.worker.runningFlag)
    (phase : worker.thread.waitPhase ≠ .awake → state.worker.thread.waitPhase ≠ .awake) :
    waiter.Move state { state with worker } := by
  apply Waiter.Move.keeps
  · exact phase
  · intro due
    exact running.symm.trans due
  · exact id

theorem move_worker {action : RecordWorker.Action} {worker : RecordWorker}
    (taken : state.worker.step action = some worker) :
    waiter.Move state { state with worker } := by
  cases action with
  | invoke call =>
      rcases RecordWorker.invoke_waitPhase taken with ⟨running, thread⟩
      apply move_of_waitPhase running
      rw [thread]
      exact id
  | call =>
      rcases RecordWorker.callStep_waitPhase taken with ⟨running, phase⟩
      exact move_of_waitPhase running phase
  | thread choice =>
      rcases RecordWorker.threadStep_waitPhase taken with ⟨running, awake | on | decided⟩
      · exact Waiter.Move.wakes awake
      · apply Waiter.Move.decides
        simp [waiter, running, on]
      · apply move_of_waitPhase running
        simp [decided]

theorem move_stop (reaches : state.StopReachesWorker .stop)
    (stepped : state.stopStep = some next) : waiter.Move state next := by
  cases pc : state.stop with
  | none => simp [stopStep, pc] at stepped
  | testRunning =>
      simp only [stopStep, pc] at stepped
      split at stepped <;> cases stepped
      · apply Waiter.Move.keeps
        · exact id
        · exact id
        · simp [waiter, pc]
      · exact Waiter.Move.announces (Or.inl rfl)
  | clearRunning =>
      simp only [stopStep, pc, Option.some.injEq] at stepped
      subst stepped
      exact Waiter.Move.announces (Or.inl rfl)
  | setIdle =>
      simp only [stopStep, pc, Option.some.injEq] at stepped
      subst stepped
      exact Waiter.Move.announces (Or.inr rfl)
  | notifyOne =>
      simp only [stopStep, pc, Option.some.injEq] at stepped
      subst stepped
      have notDeciding := reaches pc
      apply Waiter.move_of_notified
      · cases thread : state.worker.thread <;> simp_all [waiter, ThreadPc.waitPhase]
      · exact RecordWorker.notifyOne_waitPhase state.worker

theorem move_of_step (reaches : state.StopReachesWorker action)
    (stepped : state.step action = some next) : waiter.Move state next := by
  cases action with
  | worker action =>
      rcases Option.map_eq_some_iff.mp stepped with ⟨worker, taken, rfl⟩
      exact move_worker taken
  | invokeStop =>
      rcases Option.ite_none_right_eq_some.mp stepped with ⟨idle, ⟨⟩⟩
      apply Waiter.Move.keeps
      · exact id
      · exact id
      · simp [waiter, idle]
  | stop => exact move_stop reaches stepped

theorem not_hangs_of_not_forgotten (noticed : ¬ waiter.Forgotten state) : ¬ state.Hangs := by
  rintro ⟨blocked, cleared, silent⟩
  apply noticed
  refine ⟨by simp [waiter, blocked, ThreadPc.waitPhase], cleared, ?_⟩
  intro coming
  apply silent
  left
  rcases coming with pc | pc <;> simp [pc]

/-- After `stop` has returned, the worker does not hang, unless it was notified too early. -/
theorem stop_wakes_worker {schedule : List StoppedWorkerAction}
    (along : protocol.Along StopReachesWorker schedule) :
    protocol.Visits (fun state => state.stopped = true → ¬ state.Hangs) schedule := by
  apply waiter.visits_of_moves (fun _ => True) trivial _ _ _ along
  · exact Waiter.kept_of_awake rfl
  · intro state action next _ reaches stepped
    exact ⟨trivial, move_of_step reaches stepped⟩
  · intro state _ noticed _
    exact not_hangs_of_not_forgotten noticed

/-- The worker goes into the wait and is notified by `stop`. -/
def stoppedWhileBlocked : List StoppedWorkerAction :=
  List.replicate 4 (.worker (.thread .proceed)) ++ .invokeStop :: List.replicate 4 .stop

theorem stop_wakes_worker_stoppedWhileBlocked :
    protocol.Visits (fun state => state.stopped = true → ¬ state.Hangs) stoppedWhileBlocked :=
  stop_wakes_worker (by decide)

/-- All of `stop` comes between the predicate of the wait and the wait. -/
def stoppedTooEarly : List StoppedWorkerAction :=
  List.replicate 3 (.worker (.thread .proceed)) ++ .invokeStop :: List.replicate 4 .stop ++
    [.worker (.thread .proceed)]

theorem hangs_stoppedTooEarly :
    ∃ state, protocol.run stoppedTooEarly = some state ∧ state.stopped = true ∧ state.Hangs := by
  refine ⟨{ worker := { runningFlag := false, thread := .blocked }, stopped := true },
    by decide, rfl, rfl, rfl, ?_⟩
  simp [NotificationToCome, CallPc.mayNotify]

end StoppedWorker

end RaspberryPiService
