import Mathlib.Data.List.Nodup
import RaspberryPiService.Transition.Runs

/-!
# The database thread pool of the core manager

MainWorker has its database requests executed by a pool of threads, and blocks in
`future.get()` until its task has been executed. The threads are started by the
constructor, before `runningFlag_` is set, so that each of them may have left its loop by
then; `run` sets the flag and starts one more. `enqueueTask` drops a task when the flag is
not set, whose future is then broken, and `stop` leaves queued tasks in the queue.

This file models `main`'s start-up and shutdown, MainWorker and the threads of the pool,
with a step for every access to `runningFlag_`, every critical section of `taskMutex_` and
every notification, and proves when each task is executed.
-/

namespace RaspberryPiService

inductive DBRequest where
  | insertAudioRecord (filePath : String) (durationSec : Int)
  | getAllAudioRecords
  | removeAudioRecord (recordId : Int)
deriving DecidableEq

/-- A packaged task; tasks are numbered in the order in which they are handed over. -/
structure DBTask where
  number : Nat
  request : DBRequest
deriving DecidableEq

/-- Where a thread of the pool is in `threadFunction`. -/
inductive DBWorkerPc where
  | testing
  | locking
  | waiting
  | executing (task : DBTask)
  | exited
deriving DecidableEq

def DBWorkerPc.Awake : DBWorkerPc → Prop
  | .testing | .locking | .executing _ => True
  | .waiting | .exited => False

/-- Where `main` is. -/
inductive DBMainPc where
  | startMainWorker
  | setRunningFlag
  | startThread
  | running
  | stopPool
  | notifyAll
  | joining
deriving DecidableEq

/-- Where MainWorker is: in its loop, or in a request, or ended by an exception. -/
inductive DBClientPc where
  | notStarted
  | testing
  | processing
  | enqueueing (request : DBRequest)
  | notifying (task : DBTask)
  | getting (task : DBTask)
  | exited
  | terminated
deriving DecidableEq

/-- MainWorker is about to hand over a task. -/
def DBClientPc.requesting : DBClientPc → Bool
  | .enqueueing _ => true
  | _ => false

structure DBThreadPool where
  main : DBMainPc := .startMainWorker
  mainWorker : DBClientPc := .notStarted
  mainWorkerRunning : Bool := false
  runningFlag : Bool := false
  tasksQueue : List DBTask := []
  workers : List DBWorkerPc
  -- what has become of the tasks
  submitted : List DBTask := []
  executed : List DBTask := []
  dropped : List DBTask := []
deriving DecidableEq

namespace DBThreadPool

inductive Action where
  | main (started : Bool)
  | processEvent (request : Option DBRequest)
  | mainWorker (notified : Option Nat)
  | worker (index : Nat)
  | wake (index : Nat)
deriving DecidableEq

/-- Wakes the threads that wait, by sending them back to the test of the condition. -/
def wakeUp : DBWorkerPc → DBWorkerPc
  | .waiting => .locking
  | pc => pc

/-- `main`; the thread of `run` may fail to start. -/
def mainStep (pool : DBThreadPool) (started : Bool) : Option DBThreadPool :=
  match pool.main with
  | .startMainWorker =>
      some { pool with
        main := .setRunningFlag
        mainWorker := .testing
        mainWorkerRunning := true }
  | .setRunningFlag => some { pool with main := .startThread, runningFlag := true }
  | .startThread =>
      if started then
        some { pool with main := .running, workers := pool.workers ++ [.testing] }
      else some { pool with main := .running, runningFlag := false }
  | .running => some { pool with main := .stopPool, mainWorkerRunning := false }
  | .stopPool => some { pool with main := .notifyAll, runningFlag := false }
  | .notifyAll => some { pool with main := .joining, workers := pool.workers.map wakeUp }
  | .joining => none

/-- An event of MainWorker's queue, which may ask for something from the database. -/
def processEvent (pool : DBThreadPool) (request : Option DBRequest) : Option DBThreadPool :=
  match pool.mainWorker, request with
  | .processing, some request => some { pool with mainWorker := .enqueueing request }
  | .processing, none => some { pool with mainWorker := .testing }
  | _, _ => none

/-- The task that the next request becomes. -/
def nextTask (pool : DBThreadPool) (request : DBRequest) : DBTask where
  number := pool.submitted.length
  request := request

/-- The critical section of `enqueueTask`, and what follows if the task is dropped. -/
def enqueueTask (pool : DBThreadPool) (request : DBRequest) : DBThreadPool :=
  if pool.runningFlag then
    { pool with
      submitted := pool.submitted ++ [pool.nextTask request]
      tasksQueue := pool.tasksQueue ++ [pool.nextTask request]
      mainWorker := .notifying (pool.nextTask request) }
  else
    { pool with
      submitted := pool.submitted ++ [pool.nextTask request]
      dropped := pool.dropped ++ [pool.nextTask request]
      mainWorker := .getting (pool.nextTask request) }

/-- `notify_one` wakes one of the threads that wait, if there is any. -/
def notifyOne (pool : DBThreadPool) (notified : Option Nat) : Option (List DBWorkerPc) :=
  match notified with
  | none => if .waiting ∈ pool.workers then none else some pool.workers
  | some index =>
      if pool.workers[index]? = some .waiting then some (pool.workers.set index .locking)
      else none

/-- MainWorker; a broken promise makes `get` throw, which ends the process. -/
def mainWorkerStep (pool : DBThreadPool) (notified : Option Nat) : Option DBThreadPool :=
  match pool.mainWorker with
  | .testing =>
      some { pool with mainWorker := if pool.mainWorkerRunning then .processing else .exited }
  | .enqueueing request => some (pool.enqueueTask request)
  | .notifying task =>
      (pool.notifyOne notified).map fun workers =>
        { pool with workers, mainWorker := .getting task }
  | .getting task =>
      if task ∈ pool.executed then some { pool with mainWorker := .testing }
      else if task ∈ pool.dropped then some { pool with mainWorker := .terminated }
      else none
  | .notStarted | .processing | .exited | .terminated => none

/-- A thread of the pool. -/
def workerStep (pool : DBThreadPool) (index : Nat) : Option DBThreadPool :=
  match pool.workers[index]? with
  | some .testing =>
      some { pool with
        workers := pool.workers.set index (if pool.runningFlag then .locking else .exited) }
  | some .locking =>
      if pool.runningFlag then
        match pool.tasksQueue with
        | [] => some { pool with workers := pool.workers.set index .waiting }
        | task :: tasksQueue =>
            some { pool with
              tasksQueue
              workers := pool.workers.set index (.executing task) }
      else some { pool with workers := pool.workers.set index .exited }
  | some (.executing task) =>
      some { pool with
        workers := pool.workers.set index .testing
        executed := pool.executed ++ [task] }
  | some .waiting | some .exited | none => none

def step (pool : DBThreadPool) (action : Action) : Option DBThreadPool :=
  if pool.mainWorker = .terminated then none
  else match action with
  | .main started => pool.mainStep started
  | .processEvent request => pool.processEvent request
  | .mainWorker notified => pool.mainWorkerStep notified
  | .worker index => pool.workerStep index
  | .wake index =>
      if pool.workers[index]? = some .waiting then
        some { pool with workers := pool.workers.set index .locking }
      else none

/-- The system once the pool has been constructed. -/
def protocol (numWorkers : Nat) : System DBThreadPool Action where
  init := { workers := List.replicate numWorkers .testing }
  step := step

/-- A step that does not rely on a thread being woken up without a reason. -/
def Prompted : Action → Prop
  | .wake _ => False
  | _ => True

/--
Requests come only while the flag is set, and the flag is cleared only while no task is
queued, by `stop` and by `run` when its thread does not start.
-/
def Accepting (pool : DBThreadPool) : Action → Prop
  | .mainWorker _ => pool.mainWorker.requesting = true → pool.runningFlag = true
  | .main started =>
      pool.main = .stopPool ∨ pool.main = .startThread ∧ started = false → pool.tasksQueue = []
  | .processEvent _ | .worker _ | .wake _ => True

/-- The task has been executed, or can still be. -/
def Resolved (numWorkers : Nat) (pool : DBThreadPool) (task : DBTask) : Prop :=
  (protocol numWorkers).CanReach Prompted (fun final => task ∈ final.executed) pool

instance (pool : DBThreadPool) : (action : Action) → Decidable (pool.Accepting action)
  | .mainWorker _ => inferInstanceAs (Decidable (_ → _))
  | .main _ => inferInstanceAs (Decidable (_ → _))
  | .processEvent _ | .worker _ | .wake _ => isTrue trivial

/-- Every task handed over is in one place, and no two tasks are the same. -/
structure Accounted (pool : DBThreadPool) : Prop where
  balance : ∀ task, pool.executed.count task + pool.workers.count (.executing task) +
    pool.tasksQueue.count task + pool.dropped.count task = pool.submitted.count task
  numbered : ∀ task ∈ pool.submitted, task.number < pool.submitted.length
  nodup : pool.submitted.Nodup

/-- No task has been lost, and a queued one will be taken. -/
structure Served (pool : DBThreadPool) : Prop where
  noneDropped : pool.dropped = []
  running : pool.mainWorker ≠ .terminated
  isOpen : pool.tasksQueue ≠ [] → pool.runningFlag = true
  closed : pool.main = .startMainWorker ∨ pool.main = .setRunningFlag → pool.runningFlag = false
  alive : pool.runningFlag = true →
    pool.main = .startThread ∨ ∃ pc ∈ pool.workers, pc ≠ .exited
  awake : pool.tasksQueue ≠ [] → pool.main = .startThread ∨
    (∃ pc ∈ pool.workers, pc.Awake) ∨ ∃ task, pool.mainWorker = .notifying task

variable {pool next : DBThreadPool} {numWorkers : Nat} {task : DBTask}

theorem count_set {pcs : List DBWorkerPc} {index : Nat} {before : DBWorkerPc}
    (found : pcs[index]? = some before) (after pc : DBWorkerPc) :
    (pcs.set index after).count pc + (if before = pc then 1 else 0) =
      pcs.count pc + (if after = pc then 1 else 0) := by
  rcases List.getElem?_eq_some_iff.mp found with ⟨inside, rfl⟩
  rw [List.count_set inside]
  have counted : pcs[index] = pc → 0 < pcs.count pc := by
    rintro rfl
    exact List.count_pos_iff.mpr (List.getElem_mem inside)
  by_cases same : pcs[index] = pc
  · have positive := counted same
    simp only [same, beq_self_eq_true, if_true, beq_iff_eq]
    omega
  · simp [same]

theorem mem_set {pcs : List DBWorkerPc} {index : Nat} {before : DBWorkerPc}
    (found : pcs[index]? = some before) (after : DBWorkerPc) : after ∈ pcs.set index after := by
  rcases List.getElem?_eq_some_iff.mp found with ⟨inside, -⟩
  exact List.mem_set inside after

/-- Where the task that a thread is about to execute comes from. -/
theorem workerStep_cases {index : Nat} (stepped : pool.workerStep index = some next) :
    ∃ before, pool.workers[index]? = some before ∧
      ((∃ after, next = { pool with workers := pool.workers.set index after } ∧
          (∀ task, before ≠ .executing task) ∧ (∀ task, after ≠ .executing task) ∧
            (after = .exited → pool.runningFlag = false) ∧
              (after = .waiting → pool.tasksQueue = [])) ∨
        (∃ task tasksQueue, before = .locking ∧ pool.runningFlag = true ∧
          pool.tasksQueue = task :: tasksQueue ∧
            next = { pool with
              tasksQueue
              workers := pool.workers.set index (.executing task) }) ∨
        ∃ task, before = .executing task ∧
          next = { pool with
            workers := pool.workers.set index .testing
            executed := pool.executed ++ [task] }) := by
  unfold workerStep at stepped
  cases found : pool.workers[index]? with
  | none => simp [found] at stepped
  | some before =>
      refine ⟨before, rfl, ?_⟩
      cases before with
      | waiting | exited => simp [found] at stepped
      | testing =>
          simp only [found, Option.some.injEq] at stepped
          subst stepped
          refine Or.inl ⟨_, rfl, ?_⟩
          cases pool.runningFlag <;> simp
      | executing task =>
          simp only [found, Option.some.injEq] at stepped
          exact Or.inr (Or.inr ⟨task, rfl, stepped.symm⟩)
      | locking =>
          simp only [found] at stepped
          cases flag : pool.runningFlag with
          | false =>
              simp only [flag, Bool.false_eq_true, if_false, Option.some.injEq] at stepped
              exact Or.inl ⟨.exited, stepped.symm, by simp⟩
          | true =>
              simp only [flag, if_true] at stepped
              cases queued : pool.tasksQueue with
              | nil =>
                  simp only [queued, Option.some.injEq] at stepped
                  exact Or.inl ⟨.waiting, stepped.symm, by simp⟩
              | cons task tasksQueue =>
                  simp only [queued, Option.some.injEq] at stepped
                  exact Or.inr (Or.inl ⟨task, tasksQueue, rfl, rfl, rfl, stepped.symm⟩)

theorem count_wakeUp (pcs : List DBWorkerPc) (task : DBTask) :
    (pcs.map wakeUp).count (.executing task) = pcs.count (.executing task) := by
  induction pcs with
  | nil => rfl
  | cons pc pcs ih =>
      rw [List.map_cons, List.count_cons, List.count_cons, ih]
      cases pc <;> simp [wakeUp]

theorem accounted_init : (protocol numWorkers).init.Accounted where
  balance task := by simp [protocol, List.count_replicate]
  numbered := by simp [protocol]
  nodup := by simp [protocol]

/-- A step that neither hands over a task nor takes or finishes one. -/
theorem Accounted.keep (accounted : pool.Accounted)
    (workers : ∀ task, next.workers.count (.executing task) =
      pool.workers.count (.executing task))
    (tasksQueue : next.tasksQueue = pool.tasksQueue)
    (submitted : next.submitted = pool.submitted) (executed : next.executed = pool.executed)
    (dropped : next.dropped = pool.dropped) : next.Accounted where
  balance task := by
    rw [workers, tasksQueue, submitted, executed, dropped]
    exact accounted.balance task
  numbered := by simpa [submitted] using accounted.numbered
  nodup := by simpa [submitted] using accounted.nodup

theorem Accounted.setWorker (accounted : pool.Accounted) {index : Nat}
    {before after : DBWorkerPc} (found : pool.workers[index]? = some before)
    (notBefore : ∀ task, before ≠ .executing task) (notAfter : ∀ task, after ≠ .executing task)
    (mainWorker : DBClientPc) :
    Accounted { pool with workers := pool.workers.set index after, mainWorker } := by
  refine accounted.keep (fun task => ?_) rfl rfl rfl rfl
  simpa [notBefore task, notAfter task] using count_set found after (.executing task)

/-- A new task is different from all that were handed over before. -/
theorem Accounted.nextTask_not_mem (accounted : pool.Accounted) (request : DBRequest) :
    pool.nextTask request ∉ pool.submitted :=
  fun member => absurd (accounted.numbered _ member) (Nat.lt_irrefl _)

theorem Accounted.enqueueTask (accounted : pool.Accounted) (request : DBRequest) :
    (pool.enqueueTask request).Accounted := by
  have numbered : ∀ task ∈ pool.submitted ++ [pool.nextTask request],
      task.number < (pool.submitted ++ [pool.nextTask request]).length := by
    intro task member
    rw [List.length_append, List.length_singleton]
    rcases List.mem_append.mp member with earlier | new
    · exact Nat.lt_succ_of_lt (accounted.numbered task earlier)
    · rw [List.mem_singleton.mp new]
      exact Nat.lt_succ_self _
  have nodup : (pool.submitted ++ [pool.nextTask request]).Nodup := by
    rw [List.nodup_append]
    refine ⟨accounted.nodup, by simp, ?_⟩
    rintro task member other isNew rfl
    rw [List.mem_singleton.mp isNew] at member
    exact accounted.nextTask_not_mem request member
  unfold DBThreadPool.enqueueTask
  split
  · refine ⟨fun task => ?_, numbered, nodup⟩
    have balance := accounted.balance task
    simp only [List.count_append]
    omega
  · refine ⟨fun task => ?_, numbered, nodup⟩
    have balance := accounted.balance task
    simp only [List.count_append]
    omega

theorem Accounted.mainStep (accounted : pool.Accounted) {started : Bool}
    (stepped : pool.mainStep started = some next) : next.Accounted := by
  unfold DBThreadPool.mainStep at stepped
  cases main : pool.main with
  | startMainWorker | setRunningFlag | running | stopPool =>
      simp only [main, Option.some.injEq] at stepped
      subst stepped
      exact accounted.keep (fun _ => rfl) rfl rfl rfl rfl
  | startThread =>
      cases started <;> simp only [main, Bool.false_eq_true, if_true, if_false,
        Option.some.injEq] at stepped <;> subst stepped
      · exact accounted.keep (fun _ => rfl) rfl rfl rfl rfl
      · exact accounted.keep (fun _ => by simp) rfl rfl rfl rfl
  | notifyAll =>
      simp only [main, Option.some.injEq] at stepped
      subst stepped
      exact accounted.keep (fun task => count_wakeUp _ task) rfl rfl rfl rfl
  | joining => simp [main] at stepped

theorem mainStep_submitted {started : Bool} (stepped : pool.mainStep started = some next) :
    next.submitted = pool.submitted := by
  unfold DBThreadPool.mainStep at stepped
  cases main : pool.main <;> cases started <;>
    simp only [main, Bool.false_eq_true, if_true, if_false, Option.some.injEq,
      reduceCtorEq] at stepped <;> exact stepped ▸ rfl

/-- What a notification makes of the threads. -/
theorem notifyOne_cases {notified : Option Nat} {workers : List DBWorkerPc}
    (notify : pool.notifyOne notified = some workers) :
    (.waiting ∉ pool.workers ∧ workers = pool.workers) ∨
      ∃ index, pool.workers[index]? = some .waiting ∧
        workers = pool.workers.set index .locking := by
  cases notified with
  | none =>
      simp only [notifyOne, Option.ite_none_left_eq_some, Option.some.injEq] at notify
      exact Or.inl ⟨notify.1, notify.2.symm⟩
  | some index =>
      simp only [notifyOne, Option.ite_none_right_eq_some, Option.some.injEq] at notify
      exact Or.inr ⟨index, notify.1, notify.2.symm⟩

theorem mainWorkerStep_submitted {notified : Option Nat}
    (stepped : pool.mainWorkerStep notified = some next) :
    next.submitted = pool.submitted ∨
      ∃ request, next.submitted = pool.submitted ++ [pool.nextTask request] := by
  unfold DBThreadPool.mainWorkerStep at stepped
  cases mainWorker : pool.mainWorker with
  | notStarted | processing | exited | terminated => simp [mainWorker] at stepped
  | testing =>
      simp only [mainWorker, Option.some.injEq] at stepped
      exact Or.inl (stepped ▸ rfl)
  | enqueueing request =>
      simp only [mainWorker, Option.some.injEq] at stepped
      refine Or.inr ⟨request, ?_⟩
      subst stepped
      cases flag : pool.runningFlag <;> simp [DBThreadPool.enqueueTask, flag]
  | notifying task =>
      simp only [mainWorker, Option.map_eq_some_iff] at stepped
      rcases stepped with ⟨workers, -, rfl⟩
      exact Or.inl rfl
  | getting task =>
      simp only [mainWorker] at stepped
      split at stepped
      · cases stepped
        exact Or.inl rfl
      · simp only [Option.ite_none_right_eq_some, Option.some.injEq] at stepped
        rcases stepped with ⟨-, rfl⟩
        exact Or.inl rfl

theorem Accounted.mainWorkerStep (accounted : pool.Accounted) {notified : Option Nat}
    (stepped : pool.mainWorkerStep notified = some next) : next.Accounted := by
  unfold DBThreadPool.mainWorkerStep at stepped
  cases mainWorker : pool.mainWorker with
  | notStarted | processing | exited | terminated => simp [mainWorker] at stepped
  | testing =>
      simp only [mainWorker, Option.some.injEq] at stepped
      subst stepped
      exact accounted.keep (fun _ => rfl) rfl rfl rfl rfl
  | enqueueing request =>
      simp only [mainWorker, Option.some.injEq] at stepped
      subst stepped
      exact accounted.enqueueTask request
  | notifying task =>
      simp only [mainWorker, Option.map_eq_some_iff] at stepped
      rcases stepped with ⟨workers, notify, rfl⟩
      rcases notifyOne_cases notify with ⟨-, rfl⟩ | ⟨index, found, rfl⟩
      · exact accounted.keep (fun _ => rfl) rfl rfl rfl rfl
      · exact accounted.setWorker found (by simp) (by simp) (.getting task)
  | getting task =>
      simp only [mainWorker] at stepped
      split at stepped
      · cases stepped
        exact accounted.keep (fun _ => rfl) rfl rfl rfl rfl
      · simp only [Option.ite_none_right_eq_some, Option.some.injEq] at stepped
        rcases stepped with ⟨-, rfl⟩
        exact accounted.keep (fun _ => rfl) rfl rfl rfl rfl

theorem Accounted.workerStep (accounted : pool.Accounted) {index : Nat}
    (stepped : pool.workerStep index = some next) : next.Accounted := by
  rcases workerStep_cases stepped with ⟨before, found, ⟨after, rfl, notBefore, notAfter, -, -⟩ |
    ⟨taken, tasksQueue, rfl, -, queued, rfl⟩ | ⟨done, rfl, rfl⟩⟩
  · exact accounted.setWorker found notBefore notAfter pool.mainWorker
  · refine ⟨fun task => ?_, accounted.numbered, accounted.nodup⟩
    have balance := accounted.balance task
    have counted := count_set found (.executing taken) (.executing task)
    rw [queued, List.count_cons] at balance
    simp only [reduceCtorEq, if_false, DBWorkerPc.executing.injEq] at counted
    by_cases same : taken = task
    · simp only [same, if_true, beq_self_eq_true] at counted balance ⊢
      omega
    · simp only [same, if_false, beq_iff_eq] at counted balance ⊢
      omega
  · refine ⟨fun task => ?_, accounted.numbered, accounted.nodup⟩
    have balance := accounted.balance task
    have counted := count_set found .testing (.executing task)
    simp only [reduceCtorEq, if_false, DBWorkerPc.executing.injEq] at counted
    simp only [List.count_append, List.count_singleton, beq_iff_eq]
    by_cases same : done = task
    · simp only [same, if_true] at counted ⊢
      omega
    · simp only [same, if_false] at counted ⊢
      omega

/-- The steps of the system, by the thread that takes them. -/
theorem step_cases {action : Action} (stepped : pool.step action = some next) :
    pool.mainWorker ≠ .terminated ∧
      ((∃ started, action = .main started ∧ pool.mainStep started = some next) ∨
        (∃ notified, action = .mainWorker notified ∧ pool.mainWorkerStep notified = some next) ∨
        (∃ index, action = .worker index ∧ pool.workerStep index = some next) ∨
        (∃ index, action = .wake index ∧ pool.workers[index]? = some .waiting ∧
          next = { pool with workers := pool.workers.set index .locking }) ∨
        ∃ request mainWorker, action = .processEvent request ∧ mainWorker ≠ .terminated ∧
          pool.mainWorker = .processing ∧ next = { pool with mainWorker }) := by
  unfold step at stepped
  split at stepped
  · cases stepped
  next running =>
    refine ⟨running, ?_⟩
    cases action with
    | main started => exact Or.inl ⟨started, rfl, stepped⟩
    | mainWorker notified => exact Or.inr (Or.inl ⟨notified, rfl, stepped⟩)
    | worker index => exact Or.inr (Or.inr (Or.inl ⟨index, rfl, stepped⟩))
    | wake index =>
        simp only [Option.ite_none_right_eq_some, Option.some.injEq] at stepped
        exact Or.inr (Or.inr (Or.inr (Or.inl ⟨index, rfl, stepped.1, stepped.2.symm⟩)))
    | processEvent request =>
        right; right; right; right
        cases mainWorker : pool.mainWorker <;> cases request <;>
          simp only [processEvent, mainWorker, reduceCtorEq, Option.some.injEq] at stepped
        · exact ⟨none, .testing, rfl, by simp, rfl, stepped.symm⟩
        · next request =>
            exact ⟨some request, .enqueueing request, rfl, by simp, rfl, stepped.symm⟩

theorem accounted_step {action : Action} (accounted : pool.Accounted)
    (stepped : pool.step action = some next) : next.Accounted := by
  rcases step_cases stepped with ⟨-, ⟨started, -, taken⟩ | ⟨notified, -, taken⟩ |
    ⟨index, -, taken⟩ | ⟨index, -, found, rfl⟩ | ⟨request, mainWorker, -, -, -, rfl⟩⟩
  · exact accounted.mainStep taken
  · exact accounted.mainWorkerStep taken
  · exact accounted.workerStep taken
  · exact accounted.setWorker found (by simp) (by simp) pool.mainWorker
  · exact accounted.keep (fun _ => rfl) rfl rfl rfl rfl

theorem served_init : (protocol numWorkers).init.Served where
  noneDropped := rfl
  running := by simp [protocol]
  isOpen := by simp [protocol]
  closed := by simp [protocol]
  alive := by simp [protocol]
  awake := by simp [protocol]

/-- A thread of the pool goes on; it stops waiting for tasks only when there are none. -/
theorem Served.setWorker (served : pool.Served) {index : Nat} {before after : DBWorkerPc}
    (found : pool.workers[index]? = some before)
    (exits : after = .exited → pool.runningFlag = false)
    (tasksQueue executed : List DBTask) (fewer : tasksQueue ≠ [] → pool.tasksQueue ≠ [])
    (waits : after = .waiting → tasksQueue = []) :
    Served { pool with workers := pool.workers.set index after, tasksQueue, executed } where
  noneDropped := served.noneDropped
  running := served.running
  isOpen queued := served.isOpen (fewer queued)
  closed := served.closed
  alive flag := by
    refine Or.inr ⟨after, mem_set found after, ?_⟩
    rintro rfl
    simp [exits rfl] at flag
  awake queued := by
    refine Or.inr (Or.inl ⟨after, mem_set found after, ?_⟩)
    cases after with
    | testing | locking | executing => trivial
    | waiting => exact absurd (waits rfl) queued
    | exited =>
        have flag := served.isOpen (fewer queued)
        simp [exits rfl] at flag

theorem Served.workerStep (served : pool.Served) {index : Nat}
    (stepped : pool.workerStep index = some next) : next.Served := by
  rcases workerStep_cases stepped with ⟨before, found, ⟨after, rfl, -, -, exits, waits⟩ |
    ⟨taken, tasksQueue, rfl, -, queued, rfl⟩ | ⟨done, rfl, rfl⟩⟩
  · exact served.setWorker found exits pool.tasksQueue pool.executed id waits
  · exact served.setWorker found (by simp) tasksQueue pool.executed (by simp [queued]) (by simp)
  · exact served.setWorker found (by simp) pool.tasksQueue _ id (by simp)

/-- MainWorker goes on, but for a notification. -/
theorem Served.setMainWorker (served : pool.Served) {mainWorker : DBClientPc}
    (running : mainWorker ≠ .terminated)
    (notified : ∀ task, pool.mainWorker = .notifying task → mainWorker = .notifying task) :
    Served { pool with mainWorker } where
  noneDropped := served.noneDropped
  running := running
  isOpen := served.isOpen
  closed := served.closed
  alive := served.alive
  awake queued := (served.awake queued).imp_right
    (Or.imp_right fun ⟨task, notifying⟩ => ⟨task, notified task notifying⟩)

theorem Served.enqueueTask (served : pool.Served) (request : DBRequest)
    (flag : pool.runningFlag = true) : (pool.enqueueTask request).Served := by
  rw [DBThreadPool.enqueueTask, if_pos flag]
  exact ⟨served.noneDropped, by simp, fun _ => flag, served.closed, served.alive,
    fun _ => Or.inr (Or.inr ⟨_, rfl⟩)⟩

/-- After a notification some thread is awake, unless none has been started yet. -/
theorem Served.notifyOne (served : pool.Served) {notified : Option Nat}
    {workers : List DBWorkerPc} (notify : pool.notifyOne notified = some workers)
    (task : DBTask) : Served { pool with workers, mainWorker := .getting task } := by
  rcases notifyOne_cases notify with ⟨noneWaits, rfl⟩ | ⟨index, found, rfl⟩
  · refine ⟨served.noneDropped, by simp, served.isOpen, served.closed, served.alive,
      fun queued => ?_⟩
    rcases served.alive (served.isOpen queued) with starting | ⟨pc, member, notExited⟩
    · exact Or.inl starting
    · refine Or.inr (Or.inl ⟨pc, member, ?_⟩)
      cases pc with
      | testing | locking | executing => trivial
      | waiting => exact absurd member noneWaits
      | exited => exact absurd rfl notExited
  · refine ⟨served.noneDropped, by simp, served.isOpen, served.closed, fun _ => ?_, fun _ => ?_⟩
    · exact Or.inr ⟨_, mem_set found .locking, by simp⟩
    · exact Or.inr (Or.inl ⟨_, mem_set found .locking, trivial⟩)

theorem Served.mainWorkerStep (served : pool.Served) {notified : Option Nat}
    (accepting : pool.Accepting (.mainWorker notified))
    (stepped : pool.mainWorkerStep notified = some next) : next.Served := by
  unfold DBThreadPool.mainWorkerStep at stepped
  cases mainWorker : pool.mainWorker with
  | notStarted | processing | exited | terminated => simp [mainWorker] at stepped
  | testing =>
      simp only [mainWorker, Option.some.injEq] at stepped
      subst stepped
      refine served.setMainWorker ?_ (by simp [mainWorker])
      split <;> simp
  | enqueueing request =>
      simp only [mainWorker, Option.some.injEq] at stepped
      subst stepped
      exact served.enqueueTask request (accepting (by simp [mainWorker, DBClientPc.requesting]))
  | notifying task =>
      simp only [mainWorker, Option.map_eq_some_iff] at stepped
      rcases stepped with ⟨workers, notify, rfl⟩
      exact served.notifyOne notify task
  | getting task =>
      simp only [mainWorker] at stepped
      split at stepped
      · cases stepped
        exact served.setMainWorker (by simp) (by simp [mainWorker])
      · simp [served.noneDropped] at stepped

theorem wakeUp_ne_exited {pc : DBWorkerPc} (notExited : pc ≠ .exited) : wakeUp pc ≠ .exited := by
  cases pc <;> simp_all [wakeUp]

theorem awake_wakeUp {pc : DBWorkerPc} (awake : pc.Awake) : (wakeUp pc).Awake := by
  cases pc <;> simp_all [wakeUp, DBWorkerPc.Awake]

theorem Served.mainStep (served : pool.Served) {started : Bool}
    (accepting : pool.Accepting (.main started))
    (stepped : pool.mainStep started = some next) : next.Served := by
  unfold DBThreadPool.mainStep at stepped
  cases main : pool.main with
  | joining => simp [main] at stepped
  | startMainWorker =>
      simp only [main, Option.some.injEq] at stepped
      subst stepped
      have closed := served.closed (Or.inl main)
      have empty : pool.tasksQueue = [] := by
        by_contra queued
        simp [served.isOpen queued] at closed
      exact ⟨served.noneDropped, by simp, served.isOpen, fun _ => closed, by simp [closed],
        by simp [empty]⟩
  | setRunningFlag =>
      simp only [main, Option.some.injEq] at stepped
      subst stepped
      exact ⟨served.noneDropped, served.running, fun _ => rfl, by simp, fun _ => Or.inl rfl,
        fun _ => Or.inl rfl⟩
  | startThread =>
      cases started <;>
        simp only [main, Bool.false_eq_true, if_true, if_false, Option.some.injEq] at stepped <;>
        subst stepped
      · have empty := accepting (Or.inr ⟨main, rfl⟩)
        exact ⟨served.noneDropped, served.running, by simp [empty], by simp, by simp,
          by simp [empty]⟩
      · exact ⟨served.noneDropped, served.running, served.isOpen, by simp,
          fun _ => Or.inr ⟨.testing, by simp, by simp⟩,
          fun _ => Or.inr (Or.inl ⟨.testing, by simp, trivial⟩)⟩
  | running =>
      simp only [main, Option.some.injEq] at stepped
      subst stepped
      exact ⟨served.noneDropped, served.running, served.isOpen, by simp,
        by simpa [main] using served.alive, by simpa [main] using served.awake⟩
  | stopPool =>
      simp only [main, Option.some.injEq] at stepped
      subst stepped
      have empty := accepting (Or.inl main)
      exact ⟨served.noneDropped, served.running, by simp [empty], by simp, by simp,
        by simp [empty]⟩
  | notifyAll =>
      simp only [main, Option.some.injEq] at stepped
      subst stepped
      refine ⟨served.noneDropped, served.running, served.isOpen, by simp, fun flag => ?_,
        fun queued => ?_⟩
      · rcases served.alive flag with starting | ⟨pc, member, notExited⟩
        · simp [main] at starting
        · exact Or.inr ⟨_, List.mem_map_of_mem member, wakeUp_ne_exited notExited⟩
      · rcases served.awake queued with starting | ⟨pc, member, isAwake⟩ | notifying
        · simp [main] at starting
        · exact Or.inr (Or.inl ⟨_, List.mem_map_of_mem member, awake_wakeUp isAwake⟩)
        · exact Or.inr (Or.inr notifying)

theorem served_step {action : Action} (served : pool.Served) (accepting : pool.Accepting action)
    (stepped : pool.step action = some next) : next.Served := by
  rcases step_cases stepped with ⟨-, ⟨started, rfl, taken⟩ | ⟨notified, rfl, taken⟩ |
    ⟨index, -, taken⟩ | ⟨index, -, found, rfl⟩ | ⟨request, mainWorker, -, running, main, rfl⟩⟩
  · exact served.mainStep accepting taken
  · exact served.mainWorkerStep accepting taken
  · exact served.workerStep taken
  · exact served.setWorker found (by simp) pool.tasksQueue pool.executed id (by simp)
  · exact served.setMainWorker running (by simp [main])

/--
The task will never be executed: it is not with a thread, and it is not in the queue or the
flag has been cleared for good.
-/
structure Lost (pool : DBThreadPool) (task : DBTask) : Prop where
  notExecuted : task ∉ pool.executed
  notExecuting : .executing task ∉ pool.workers
  handedOver : task.number < pool.submitted.length
  untaken : task ∉ pool.tasksQueue ∨
    pool.runningFlag = false ∧ pool.main ≠ .startMainWorker ∧ pool.main ≠ .setRunningFlag

/-- A lost task stays lost when neither the queue nor the flag comes back to it. -/
theorem Lost.keep (lost : pool.Lost task) (executed : next.executed = pool.executed)
    (workers : .executing task ∈ next.workers → .executing task ∈ pool.workers)
    (submitted : pool.submitted.length ≤ next.submitted.length)
    (tasksQueue : task ∈ next.tasksQueue → task ∈ pool.tasksQueue)
    (cleared : pool.runningFlag = false ∧ pool.main ≠ .startMainWorker ∧
        pool.main ≠ .setRunningFlag →
      next.runningFlag = false ∧ next.main ≠ .startMainWorker ∧ next.main ≠ .setRunningFlag) :
    next.Lost task where
  notExecuted := by simpa [executed] using lost.notExecuted
  notExecuting := fun member => lost.notExecuting (workers member)
  handedOver := Nat.lt_of_lt_of_le lost.handedOver submitted
  untaken := lost.untaken.imp (fun absent member => absent (tasksQueue member)) cleared

theorem mem_of_mem_set {pcs : List DBWorkerPc} {index : Nat} {pc after : DBWorkerPc}
    (different : pc ≠ after) (member : pc ∈ pcs.set index after) : pc ∈ pcs :=
  (List.mem_or_eq_of_mem_set member).resolve_right different

theorem executing_mem_of_wakeUp {pcs : List DBWorkerPc}
    (member : .executing task ∈ pcs.map wakeUp) : .executing task ∈ pcs := by
  rw [← List.count_pos_iff, ← count_wakeUp]
  exact List.count_pos_iff.mpr member

theorem Lost.mainStep (lost : pool.Lost task) {started : Bool}
    (stepped : pool.mainStep started = some next) : next.Lost task := by
  unfold DBThreadPool.mainStep at stepped
  cases main : pool.main with
  | startMainWorker | setRunningFlag | running | stopPool =>
      simp only [main, Option.some.injEq] at stepped
      subst stepped
      exact lost.keep rfl id (Nat.le_refl _) id (by simp [main])
  | startThread =>
      cases started <;> simp only [main, Bool.false_eq_true, if_true, if_false,
        Option.some.injEq] at stepped <;> subst stepped
      · exact lost.keep rfl id (Nat.le_refl _) id (by simp)
      · exact lost.keep rfl (by simp) (Nat.le_refl _) id (by simp +contextual)
  | notifyAll =>
      simp only [main, Option.some.injEq] at stepped
      subst stepped
      exact lost.keep rfl executing_mem_of_wakeUp (Nat.le_refl _) id (by simp +contextual)
  | joining => simp [main] at stepped

theorem Lost.mainWorkerStep (lost : pool.Lost task) {notified : Option Nat}
    (stepped : pool.mainWorkerStep notified = some next) : next.Lost task := by
  unfold DBThreadPool.mainWorkerStep at stepped
  cases mainWorker : pool.mainWorker with
  | notStarted | processing | exited | terminated => simp [mainWorker] at stepped
  | testing =>
      simp only [mainWorker, Option.some.injEq] at stepped
      subst stepped
      exact lost.keep rfl id (Nat.le_refl _) id id
  | enqueueing request =>
      simp only [mainWorker, Option.some.injEq] at stepped
      subst stepped
      have older : task ≠ pool.nextTask request := by
        rintro rfl
        exact absurd lost.handedOver (Nat.lt_irrefl _)
      unfold DBThreadPool.enqueueTask
      split
      · exact lost.keep rfl id (by simp) (by simp [older]) id
      · exact lost.keep rfl id (by simp) id id
  | notifying notifyingFor =>
      simp only [mainWorker, Option.map_eq_some_iff] at stepped
      rcases stepped with ⟨workers, notify, rfl⟩
      rcases notifyOne_cases notify with ⟨-, rfl⟩ | ⟨index, found, rfl⟩
      · exact lost.keep rfl id (Nat.le_refl _) id id
      · exact lost.keep rfl (mem_of_mem_set (by simp)) (Nat.le_refl _) id id
  | getting waitingFor =>
      simp only [mainWorker] at stepped
      split at stepped
      · cases stepped
        exact lost.keep rfl id (Nat.le_refl _) id id
      · simp only [Option.ite_none_right_eq_some, Option.some.injEq] at stepped
        rcases stepped with ⟨-, rfl⟩
        exact lost.keep rfl id (Nat.le_refl _) id id

theorem Lost.workerStep (lost : pool.Lost task) {index : Nat}
    (stepped : pool.workerStep index = some next) : next.Lost task := by
  rcases workerStep_cases stepped with ⟨before, found, ⟨after, rfl, -, notAfter, -, -⟩ |
    ⟨taken, tasksQueue, rfl, flag, queued, rfl⟩ | ⟨done, rfl, rfl⟩⟩
  · exact lost.keep rfl (mem_of_mem_set (notAfter task).symm) (Nat.le_refl _) id id
  · have absent : task ∉ pool.tasksQueue :=
      lost.untaken.resolve_right fun cleared => by simp [flag] at cleared
    rw [queued, List.mem_cons, not_or] at absent
    refine lost.keep rfl (mem_of_mem_set ?_) (Nat.le_refl _)
      (fun member => absurd member absent.2) id
    simpa using absent.1
  · have executing := List.mem_of_getElem? found
    have different : task ≠ done := by
      rintro rfl
      exact lost.notExecuting executing
    exact ⟨by simp [lost.notExecuted, different],
      fun member => lost.notExecuting (mem_of_mem_set (by simp) member), lost.handedOver,
      lost.untaken⟩

theorem lost_step {action : Action} (lost : pool.Lost task)
    (stepped : pool.step action = some next) : next.Lost task := by
  rcases step_cases stepped with ⟨-, ⟨started, -, taken⟩ | ⟨notified, -, taken⟩ |
    ⟨index, -, taken⟩ | ⟨index, -, found, rfl⟩ | ⟨request, mainWorker, -, -, -, rfl⟩⟩
  · exact lost.mainStep taken
  · exact lost.mainWorkerStep taken
  · exact lost.workerStep taken
  · exact lost.keep rfl (mem_of_mem_set (by simp)) (Nat.le_refl _) id id
  · exact lost.keep rfl id (Nat.le_refl _) id id

/-- What has been handed over is not taken back. -/
theorem submitted_of_step {action : Action} (stepped : pool.step action = some next)
    (submitted : task ∈ pool.submitted) : task ∈ next.submitted := by
  rcases step_cases stepped with ⟨-, ⟨started, -, taken⟩ | ⟨notified, -, taken⟩ |
    ⟨index, -, taken⟩ | ⟨index, -, found, rfl⟩ | ⟨request, mainWorker, -, -, -, rfl⟩⟩
  · rw [mainStep_submitted taken]
    exact submitted
  · rcases mainWorkerStep_submitted taken with same | ⟨request, grown⟩
    · exact same ▸ submitted
    · exact grown ▸ List.mem_append_left _ submitted
  · rcases workerStep_cases taken with ⟨before, found, ⟨after, rfl, -⟩ |
      ⟨first, tasksQueue, -, -, -, rfl⟩ | ⟨done, -, rfl⟩⟩ <;> exact submitted
  · exact submitted
  · exact submitted

theorem Lost.not_resolved (lost : pool.Lost task) : ¬ Resolved numWorkers pool task :=
  System.not_canReach_of_trap (Lost · task) (fun _ _ _ inside _ => lost_step inside)
    (fun _ inside => inside.notExecuted) lost

/-- A task is in one place at most. -/
theorem Accounted.count_le_one (accounted : pool.Accounted) (task : DBTask) :
    pool.executed.count task + pool.workers.count (.executing task) +
      pool.tasksQueue.count task + pool.dropped.count task ≤ 1 := by
  rw [accounted.balance]
  exact List.nodup_iff_count_le_one.mp accounted.nodup task

theorem Accounted.nodup_executed (accounted : pool.Accounted) : pool.executed.Nodup := by
  rw [List.nodup_iff_count_le_one]
  intro task
  have once := accounted.count_le_one task
  omega

/-- A request while the flag is not set loses its task. -/
theorem exists_lost_of_request (accounted : pool.Accounted) {request : DBRequest}
    (flag : pool.runningFlag = false) :
    ∃ task ∈ (pool.enqueueTask request).submitted, (pool.enqueueTask request).Lost task := by
  refine ⟨pool.nextTask request, by simp [DBThreadPool.enqueueTask, flag], ?_⟩
  have new := List.count_eq_zero.mpr (accounted.nextTask_not_mem request)
  have balance := accounted.balance (pool.nextTask request)
  have notExecuted : pool.executed.count (pool.nextTask request) = 0 := by omega
  have notExecuting : pool.workers.count (.executing (pool.nextTask request)) = 0 := by omega
  have notQueued : pool.tasksQueue.count (pool.nextTask request) = 0 := by omega
  simp only [DBThreadPool.enqueueTask, flag, Bool.false_eq_true, if_false]
  exact ⟨List.count_eq_zero.mp notExecuted, List.count_eq_zero.mp notExecuting,
    by simp [nextTask], Or.inl (List.count_eq_zero.mp notQueued)⟩

/-- Clearing the flag loses the tasks that are queued. -/
theorem exists_lost_of_cleared (accounted : pool.Accounted) (queued : pool.tasksQueue ≠ [])
    {main : DBMainPc} (late : main ≠ .startMainWorker ∧ main ≠ .setRunningFlag) :
    ∃ task ∈ pool.submitted, Lost { pool with main, runningFlag := false } task := by
  rcases List.exists_mem_of_ne_nil _ queued with ⟨task, member⟩
  have once := accounted.count_le_one task
  have balance := accounted.balance task
  have present := List.count_pos_iff.mpr member
  have submitted : task ∈ pool.submitted := List.count_pos_iff.mp (by omega)
  have notExecuted : pool.executed.count task = 0 := by omega
  have notExecuting : pool.workers.count (.executing task) = 0 := by omega
  exact ⟨task, submitted, List.count_eq_zero.mp notExecuted, List.count_eq_zero.mp notExecuting,
    accounted.numbered task submitted, Or.inr ⟨rfl, late⟩⟩

theorem exists_lost_of_not_accepting {action : Action} (accounted : pool.Accounted)
    (bad : ¬ pool.Accepting action) (stepped : pool.step action = some next) :
    ∃ task ∈ next.submitted, next.Lost task := by
  rcases step_cases stepped with ⟨-, ⟨started, rfl, taken⟩ | ⟨notified, rfl, taken⟩ |
    ⟨index, rfl, -⟩ | ⟨index, rfl, -⟩ | ⟨request, mainWorker, rfl, -⟩⟩
  · simp only [Accepting, Classical.not_imp] at bad
    rcases bad with ⟨main | ⟨main, rfl⟩, queued⟩
    · simp only [DBThreadPool.mainStep, main, Option.some.injEq] at taken
      subst taken
      exact exists_lost_of_cleared accounted queued (by simp)
    · simp only [DBThreadPool.mainStep, main, Bool.false_eq_true, if_false,
        Option.some.injEq] at taken
      subst taken
      exact exists_lost_of_cleared accounted queued (by simp)
  · simp only [Accepting, Classical.not_imp, Bool.not_eq_true] at bad
    rcases bad with ⟨requesting, flag⟩
    cases mainWorker : pool.mainWorker with
    | enqueueing request =>
        simp only [DBThreadPool.mainWorkerStep, mainWorker, Option.some.injEq] at taken
        subst taken
        exact exists_lost_of_request accounted flag
    | notStarted | testing | processing | notifying | getting | exited | terminated =>
        simp [mainWorker, DBClientPc.requesting] at requesting
  · exact absurd trivial bad
  · exact absurd trivial bad
  · exact absurd trivial bad

theorem resolved_of_step {action : Action} (stepped : pool.step action = some next)
    (prompted : Prompted action) (resolved : Resolved numWorkers next task) :
    Resolved numWorkers pool task :=
  System.canReach_of_step prompted stepped resolved

theorem Served.step_worker (served : pool.Served) (index : Nat) :
    pool.step (.worker index) = pool.workerStep index :=
  if_neg served.running

theorem Served.step_mainWorker (served : pool.Served) (notified : Option Nat) :
    pool.step (.mainWorker notified) = pool.mainWorkerStep notified :=
  if_neg served.running

theorem Served.step_main (served : pool.Served) (started : Bool) :
    pool.step (.main started) = pool.mainStep started :=
  if_neg served.running

theorem Served.resolved_executing (served : pool.Served) (index : Nat)
    (found : pool.workers[index]? = some (.executing task)) :
    Resolved numWorkers pool task := by
  have stepped : pool.step (.worker index) = some { pool with
      workers := pool.workers.set index .testing
      executed := pool.executed ++ [task] } := by
    simp [served.step_worker, DBThreadPool.workerStep, found]
  exact resolved_of_step stepped trivial (System.canReach_of_holds (by simp))

section Queues

variable {first : DBTask} {rest : List DBTask}

/-- A thread that holds the mutex takes the first task of the queue. -/
theorem Served.resolved_locking (served : pool.Served) (queued : pool.tasksQueue = first :: rest)
    (index : Nat) (found : pool.workers[index]? = some .locking) (member : task ∈ pool.tasksQueue)
    (later : ∀ next : DBThreadPool, next.Served → next.tasksQueue = rest → task ∈ rest →
      Resolved numWorkers next task) : Resolved numWorkers pool task := by
  have flag := served.isOpen (by simp [queued])
  have taken : pool.workerStep index = some { pool with
      tasksQueue := rest
      workers := pool.workers.set index (.executing first) } := by
    simp [DBThreadPool.workerStep, found, flag, queued]
  refine resolved_of_step ((served.step_worker index).trans taken) trivial ?_
  have after := served.workerStep taken
  rw [queued] at member
  rcases List.mem_cons.mp member with rfl | member
  · rcases List.getElem?_eq_some_iff.mp found with ⟨inside, -⟩
    exact after.resolved_executing index (by simp [inside])
  · exact later _ after rfl member

theorem Served.resolved_testing (served : pool.Served) (queued : pool.tasksQueue = first :: rest)
    (index : Nat) (found : pool.workers[index]? = some .testing) (member : task ∈ pool.tasksQueue)
    (later : ∀ next : DBThreadPool, next.Served → next.tasksQueue = rest → task ∈ rest →
      Resolved numWorkers next task) : Resolved numWorkers pool task := by
  have flag := served.isOpen (by simp [queued])
  have taken : pool.workerStep index =
      some { pool with workers := pool.workers.set index .locking } := by
    simp [DBThreadPool.workerStep, found, flag]
  refine resolved_of_step ((served.step_worker index).trans taken) trivial ?_
  rcases List.getElem?_eq_some_iff.mp found with ⟨inside, -⟩
  exact (served.workerStep taken).resolved_locking queued index (by simp [inside])
    member later

/-- A thread that is awake takes a task next. -/
theorem Served.resolved_awake (served : pool.Served) (queued : pool.tasksQueue = first :: rest)
    (pc : DBWorkerPc) (among : pc ∈ pool.workers) (awake : pc.Awake)
    (member : task ∈ pool.tasksQueue)
    (later : ∀ next : DBThreadPool, next.Served → next.tasksQueue = rest → task ∈ rest →
      Resolved numWorkers next task) : Resolved numWorkers pool task := by
  rcases List.getElem?_of_mem among with ⟨index, found⟩
  cases pc with
  | waiting | exited => exact absurd awake id
  | testing => exact served.resolved_testing queued index found member later
  | locking => exact served.resolved_locking queued index found member later
  | executing current =>
      have taken : pool.workerStep index = some { pool with
          workers := pool.workers.set index .testing
          executed := pool.executed ++ [current] } := by
        simp [DBThreadPool.workerStep, found]
      refine resolved_of_step ((served.step_worker index).trans taken) trivial ?_
      rcases List.getElem?_eq_some_iff.mp found with ⟨inside, -⟩
      exact (served.workerStep taken).resolved_testing queued index (by simp [inside])
        member later

/-- A notification that is due can be given. -/
theorem exists_notifyOne (pool : DBThreadPool) :
    ∃ notified workers, pool.notifyOne notified = some workers := by
  by_cases waits : .waiting ∈ pool.workers
  · rcases List.getElem?_of_mem waits with ⟨index, found⟩
    exact ⟨some index, pool.workers.set index .locking, by simp [DBThreadPool.notifyOne, found]⟩
  · exact ⟨none, pool.workers, by simp [DBThreadPool.notifyOne, waits]⟩

/-- When tasks are queued a thread of the pool is awake, or is started or woken up next. -/
theorem Served.resolved_first (served : pool.Served) (queued : pool.tasksQueue = first :: rest)
    (member : task ∈ pool.tasksQueue)
    (later : ∀ next : DBThreadPool, next.Served → next.tasksQueue = rest → task ∈ rest →
      Resolved numWorkers next task) : Resolved numWorkers pool task := by
  have start : ∀ pool : DBThreadPool, pool.Served → pool.tasksQueue = first :: rest →
      task ∈ pool.tasksQueue → pool.main = .startThread → Resolved numWorkers pool task := by
    intro pool served queued member main
    have taken : pool.mainStep true =
        some { pool with main := .running, workers := pool.workers ++ [.testing] } := by
      simp [DBThreadPool.mainStep, main]
    refine resolved_of_step ((served.step_main true).trans taken) trivial ?_
    have after := served.mainStep (fun bad => by simp [main] at bad) taken
    exact after.resolved_awake queued .testing (by simp) trivial member later
  rcases served.awake (by simp [queued]) with main | ⟨pc, among, awake⟩ | ⟨waiting, notifying⟩
  · exact start pool served queued member main
  · exact served.resolved_awake queued pc among awake member later
  · rcases pool.exists_notifyOne with ⟨notified, workers, notify⟩
    have taken : pool.mainWorkerStep notified =
        some { pool with workers, mainWorker := .getting waiting } := by
      simp [DBThreadPool.mainWorkerStep, notifying, notify]
    refine resolved_of_step ((served.step_mainWorker notified).trans taken) trivial ?_
    have after := served.notifyOne notify waiting
    rcases after.awake (by simp [queued]) with main | ⟨pc, among, awake⟩ | ⟨other, impossible⟩
    · exact start _ after queued member main
    · exact after.resolved_awake queued pc among awake member later
    · simp at impossible

end Queues

/-- The tasks of a queue are taken one after the other. -/
theorem Served.resolved_queued (served : pool.Served) (member : task ∈ pool.tasksQueue) :
    Resolved numWorkers pool task := by
  suffices main : ∀ (tasksQueue : List DBTask) (pool : DBThreadPool), pool.Served →
      pool.tasksQueue = tasksQueue → task ∈ tasksQueue → Resolved numWorkers pool task from
    main pool.tasksQueue pool served rfl member
  intro tasksQueue
  induction tasksQueue with
  | nil => exact fun _ _ _ absent => absurd absent (by simp)
  | cons first rest ih =>
      intro pool served queued member
      exact served.resolved_first queued (by rwa [queued]) ih

theorem Served.resolved (served : pool.Served) (accounted : pool.Accounted)
    (submitted : task ∈ pool.submitted) : Resolved numWorkers pool task := by
  have balance := accounted.balance task
  have present := List.count_pos_iff.mpr submitted
  rw [served.noneDropped, List.count_nil] at balance
  by_cases executed : task ∈ pool.executed
  · exact System.canReach_of_holds executed
  by_cases executing : .executing task ∈ pool.workers
  · rcases List.getElem?_of_mem executing with ⟨index, found⟩
    exact served.resolved_executing index found
  rw [List.count_eq_zero.mpr executed, List.count_eq_zero.mpr executing] at balance
  exact served.resolved_queued (List.count_pos_iff.mp (by omega))

/-- The queue has lost nothing exactly when the run kept to `Accepting`. -/
theorem accepting_iff_none_lost {schedule : List Action}
    (ran : (protocol numWorkers).run schedule = some pool) :
    (protocol numWorkers).Along Accepting schedule ↔ ¬ ∃ task ∈ pool.submitted, pool.Lost task :=
  System.along_iff_not_damaged (fun pool => pool.Served ∧ pool.Accounted)
    (fun pool => ∃ task ∈ pool.submitted, pool.Lost task)
    ⟨served_init, accounted_init⟩
    (fun _ _ _ kept accepting stepped =>
      ⟨served_step kept.1 accepting stepped, accounted_step kept.2 stepped⟩)
    (fun _ kept ⟨task, submitted, lost⟩ =>
      have resolved : Resolved numWorkers _ task := kept.1.resolved kept.2 submitted
      lost.not_resolved resolved)
    (fun _ _ _ kept bad stepped => exists_lost_of_not_accepting kept.2 bad stepped)
    (fun _ _ _ ⟨task, submitted, lost⟩ stepped =>
      ⟨task, submitted_of_step stepped submitted, lost_step lost stepped⟩) ran

/--
No task is executed twice, and every task handed over has been executed or still can be,
exactly when requests have come only while the flag was set and it was cleared only while
no task was queued.
-/
theorem resolved_iff_accepting {schedule : List Action}
    (ran : (protocol numWorkers).run schedule = some pool) :
    pool.executed.Nodup ∧
      ((protocol numWorkers).Along Accepting schedule ↔
        ∀ task ∈ pool.submitted, Resolved numWorkers pool task) := by
  have accounted : pool.Accounted := System.invariant_of_run Accounted accounted_init
    (fun _ _ _ accounted stepped => accounted_step accounted stepped) ran
  refine ⟨accounted.nodup_executed, fun along task submitted => ?_, fun resolved => ?_⟩
  · have served : pool.Served := System.invariant_of_along Served served_init
      (fun _ _ _ served accepting stepped => served_step served accepting stepped) ran along
    exact served.resolved accounted submitted
  · apply (accepting_iff_none_lost ran).mpr
    rintro ⟨task, submitted, lost⟩
    exact lost.not_resolved (resolved task submitted)

/-- The pool is started, and MainWorker lists the records before the pool is stopped. -/
def listsThenStops : List Action :=
  [.main true, .main true, .main true, .worker 0, .worker 0, .mainWorker none,
    .processEvent (some .getAllAudioRecords), .mainWorker none, .mainWorker (some 0),
    .worker 0, .worker 0, .mainWorker none, .main true, .main true, .main true]

theorem resolved_listsThenStops :
    ∃ pool, (protocol 5).run listsThenStops = some pool ∧
      pool.executed = [⟨0, .getAllAudioRecords⟩] ∧
        ∀ task ∈ pool.submitted, Resolved 5 pool task := by
  have observed : ((protocol 5).run listsThenStops).map (fun pool => pool.executed) =
      some [⟨0, .getAllAudioRecords⟩] := by decide
  rcases Option.map_eq_some_iff.mp observed with ⟨pool, ran, executed⟩
  exact ⟨pool, ran, executed, (resolved_iff_accepting ran).2.mp (by decide)⟩

/-- The pool is stopped after MainWorker has handed over a task, before a thread takes it. -/
def stopsBeforeTaking : List Action :=
  [.main true, .main true, .main true, .mainWorker none,
    .processEvent (some .getAllAudioRecords), .mainWorker none, .mainWorker none, .main true,
    .main true]

/-- MainWorker is left waiting for the future of a task that stays in the queue. -/
theorem not_resolved_stopsBeforeTaking :
    ¬ ∀ (schedule : List Action) (pool : DBThreadPool),
      (protocol 5).run schedule = some pool → ∀ task ∈ pool.submitted, Resolved 5 pool task := by
  intro resolved
  have ran : (protocol 5).run stopsBeforeTaking = some {
      main := .notifyAll
      mainWorker := .getting ⟨0, .getAllAudioRecords⟩
      tasksQueue := [⟨0, .getAllAudioRecords⟩]
      workers := List.replicate 6 .testing
      submitted := [⟨0, .getAllAudioRecords⟩] } := by decide
  refine Lost.not_resolved ?_ (resolved _ _ ran ⟨0, .getAllAudioRecords⟩ (by simp))
  exact ⟨by simp, by simp, by simp, Or.inr (by simp)⟩

end DBThreadPool

end RaspberryPiService
