import RaspberryPiService.CoreManager.RecordHandler
import RaspberryPiService.RecordManager.Sessions
import RaspberryPiService.Transition.Mirror

/-!
# Agreement of the record protocol

The core's `RecordHandler`, the record manager's MainWorker and `RecordWorker`, and the
two D-Bus channels between them are composed into one system. The channel to the record
manager is the list of commands that the core has sent, the channel to the core the list
of notifications that the record manager has sent; both lose, repeat and reorder nothing.

What the core knows is abstracted to a `RecordView`: `RECORD_STATE`, the notifications
still to arrive, and the commands still to be executed. The invariant relates the view
to the phase of the worker. While the worker waits or closes a session, the view settles
at `STOPPED` unless a start is on its way; while it captures, the view settles at
`RECORDING` unless a stop or a cancel is on its way.

Two steps break the invariant. A start stored during the capture loop, or after the last
notification of a session, is never answered; a start that is rejected during the
capture loop makes the core believe that the recording has stopped.
-/

namespace RaspberryPiService

/-- What a notification assigns to `RECORD_STATE`. -/
def RecordNotiCommand.write : RecordNotiCommand → Bool → Option RecordState
  | .startRecordNoti, true => some .recording
  | .startRecordNoti, false => some .stopped
  | .stopRecordNoti, _ => some .stopped
  | .cancelRecordNoti, _ => some .stopped
  | .filterWavFileNoti, _ => none

def RecordNoti.write (noti : RecordNoti) : Option RecordState :=
  noti.command.write noti.isSuccess

def RecordCoreEvent.write : RecordCoreEvent → Option RecordState
  | .noti command isSuccess _ => command.write isSuccess
  | _ => none

/-- The command that the record manager's event stands for. -/
def RecordEvent.command : RecordEvent → Option RecordCommand
  | .startRecord => some .startRecord
  | .stopRecord => some .stopRecord
  | .cancelRecord => some .cancelRecord
  | .filterWavFile _ _ => none

/-- The command that MainWorker is executing and whose outcome is still open. -/
def CallPc.command : CallPc → Option RecordCommand
  | .startLock | .startTest | .startResetCancel | .startSetRecording | .startReject =>
      some .startRecord
  | .stopTest | .stopSetIdle | .stopReject => some .stopRecord
  | .cancelTest | .cancelSetFlag | .cancelSetIdle | .cancelReject => some .cancelRecord
  | .none | .startNotify => .none

structure RecordProtocol where
  core : RecordHandler := {}
  worker : RecordWorker := {}
  filters : List (String × Int) := []
deriving DecidableEq

namespace RecordProtocol

/-- `DBusReceiver::handleMessage` of the record manager. -/
def handleMessage : RecordCommand → RecordEvent
  | .startRecord => .startRecord
  | .stopRecord => .stopRecord
  | .cancelRecord => .cancelRecord

/-- `MainWorker::processEvent` of the record manager, up to the entry of the call. -/
def processEvent (state : RecordProtocol) : Option RecordProtocol :=
  match state.worker.call, state.worker.eventQueue with
  | .none, event :: eventQueue =>
      let worker := { state.worker with eventQueue }
      match event with
      | .startRecord => (worker.invoke .startRecording).map fun worker => { state with worker }
      | .stopRecord => (worker.invoke .stopRecording).map fun worker => { state with worker }
      | .cancelRecord => (worker.invoke .cancelRecording).map fun worker => { state with worker }
      | .filterWavFile filePath durationSec =>
          if filePath = "" then some { state with worker }
          else some { state with worker, filters := state.filters ++ [(filePath, durationSec)] }
  | _, _ => none

/-- What a detached filter thread sends at its end. -/
def filterNoti (durationSec : Int) : Option String → RecordNoti
  | none =>
      { command := .filterWavFileNoti, isSuccess := false, message := "FAILED to save WAV file." }
  | some filteredFilePath =>
      { command := .filterWavFileNoti, isSuccess := true, wavFilePath := filteredFilePath
        wavFileDurationSec := toString durationSec }

inductive Action where
  | client (command : RecordCommand)
  | coreEvent
  | receiveCommand
  | receiveNoti
  | mainEvent
  | call
  | thread (choice : Choice)
  | filterEnds (index : Nat) (filteredFilePath : Option String)
deriving DecidableEq

def step (state : RecordProtocol) : Action → Option RecordProtocol
  | .client command =>
      some { state with core := { state.core with
        eventQueue := state.core.eventQueue ++ [.request command] } }
  | .coreEvent => state.core.processEvent.map fun core => { state with core }
  | .receiveCommand =>
      match state.core.sent with
      | [] => none
      | command :: sent =>
          some { state with
            core := { state.core with sent }
            worker := { state.worker with
              eventQueue := state.worker.eventQueue ++ [handleMessage command] } }
  | .receiveNoti =>
      match state.worker.sent with
      | [] => none
      | noti :: sent =>
          (state.core.handleMessageNoti noti).map fun core =>
            { state with core, worker := { state.worker with sent } }
  | .mainEvent => state.processEvent
  | .call => state.worker.callStep.map fun worker => { state with worker }
  | .thread choice => (state.worker.threadStep choice).map fun worker => { state with worker }
  | .filterEnds index filteredFilePath =>
      match state.filters[index]? with
      | none => none
      | some (_, durationSec) =>
          some { state with
            worker := state.worker.send (filterNoti durationSec filteredFilePath)
            filters := state.filters.eraseIdx index }

def protocol : System RecordProtocol Action where
  init := {}
  step := step

end RecordProtocol

/--
`RECORD_STATE`, the values that will still overwrite it, and the commands still to be
executed.
-/
structure RecordView where
  recordState : RecordState
  writes : List RecordState
  commands : List RecordCommand
deriving DecidableEq

namespace RecordView

def settled (view : RecordView) : RecordState :=
  Mirror.settled view.recordState view.writes

/-- The view settles at `value`, or no write is pending and the last pending command is expected. -/
def Settles (view : RecordView) (value : RecordState) (expected : Option RecordCommand → Prop) :
    Prop :=
  view.settled = value ∨
    view.writes = [] ∧ view.recordState = .processing ∧ expected view.commands.getLast?

/-- How the core and the channels change the view; the last one is the arrival of a write. -/
inductive Step (view : RecordView) : RecordView → Prop
  | same : Step view view
  | start (stopped : view.recordState = .stopped) :
      Step view { view with
        recordState := .processing, commands := view.commands ++ [.startRecord] }
  | finish (command : RecordCommand) (differs : command ≠ .startRecord)
      (recording : view.recordState = .recording) :
      Step view { view with recordState := .processing, commands := view.commands ++ [command] }
  | arrive (write : RecordState) (pending : List RecordState)
      (found : view.writes = write :: pending) :
      Step view { view with recordState := write, writes := pending }

variable {view next : RecordView} {value : RecordState} {expected : Option RecordCommand → Prop}

theorem settled_request (isPending : view.writes ≠ []) (recordState : RecordState)
    (commands : List RecordCommand) :
    settled { view with recordState, commands } = view.settled :=
  Mirror.settled_eq_of_ne_nil isPending _ _

theorem Settles.step (settles : view.Settles value expected) (stepped : view.Step next)
    (onStart : value = .stopped → expected (some .startRecord))
    (onFinish : ∀ command, command ≠ .startRecord → value = .recording →
      expected (some command)) : next.Settles value expected := by
  cases stepped with
  | same => exact settles
  | start stopped =>
      rcases settles with settled | ⟨-, processing, -⟩
      · by_cases isPending : view.writes = []
        · have isStopped : value = .stopped := by
            simpa [settled, RecordView.settled, isPending, stopped] using settled.symm
          exact Or.inr ⟨isPending, rfl, by simpa using onStart isStopped⟩
        · exact Or.inl ((settled_request isPending _ _).trans settled)
      · simp [stopped] at processing
  | finish command differs recording =>
      rcases settles with settled | ⟨-, processing, -⟩
      · by_cases isPending : view.writes = []
        · have isRecording : value = .recording := by
            simpa [settled, RecordView.settled, isPending, recording] using settled.symm
          exact Or.inr ⟨isPending, rfl, by simpa using onFinish command differs isRecording⟩
        · exact Or.inl ((settled_request isPending _ _).trans settled)
      · simp [recording] at processing
  | arrive write pending found =>
      rcases settles with settled | ⟨none, -, -⟩
      · left
        simpa [RecordView.settled, found] using settled
      · simp [found] at none

/-- A write that is sent decides where the view settles. -/
theorem settles_write (view : RecordView) (value : RecordState) (commands : List RecordCommand)
    (expected : Option RecordCommand → Prop) :
    Settles { view with writes := view.writes ++ [value], commands } value expected :=
  Or.inl (Mirror.settled_concat _ _ _)

/-- A command that is executed leaves the last one of the others. -/
theorem Settles.execute {command : RecordCommand} {rest : List RecordCommand}
    (settles : view.Settles value expected) (found : view.commands = command :: rest)
    {weaker : Option RecordCommand → Prop}
    (weaken : rest.getLast? = none → expected (some command) → weaker none)
    (keep : ∀ last, expected (some last) → weaker (some last)) :
    Settles { view with commands := rest } value weaker := by
  rcases settles with settled | ⟨none, processing, last⟩
  · exact Or.inl settled
  · refine Or.inr ⟨none, processing, ?_⟩
    rw [found, List.getLast?_cons] at last
    show weaker rest.getLast?
    cases isLast : rest.getLast? with
    | none => exact weaken isLast (by simpa [isLast] using last)
    | some other => exact keep other (by simpa [isLast] using last)

end RecordView

namespace RecordProtocol

def view (state : RecordProtocol) : RecordView where
  recordState := state.core.recordState
  writes := state.core.eventQueue.filterMap RecordCoreEvent.write ++
    state.worker.sent.filterMap RecordNoti.write
  commands := state.worker.call.command.toList ++
    state.worker.eventQueue.filterMap RecordEvent.command ++ state.core.sent

/-- No start is stored in the capture loop or at the end of a session, or rejected in the loop. -/
def StartsInTime (state : RecordProtocol) : Action → Prop
  | .call =>
      match state.worker.call with
      | .startSetRecording =>
          state.worker.thread.capturing = false ∧ state.worker.thread.closing = false
      | .startReject => state.worker.thread.capturing = true → state.worker.state = .idle
      | _ => True
  | _ => True

instance (state : RecordProtocol) (action : Action) : Decidable (StartsInTime state action) := by
  unfold StartsInTime
  repeat' split
  all_goals infer_instance

/-- Nothing is in flight or queued, and the worker is blocked or in its capture loop. -/
structure Quiescent (state : RecordProtocol) : Prop where
  coreQueue : state.core.eventQueue = []
  commands : state.core.sent = []
  recordQueue : state.worker.eventQueue = []
  notis : state.worker.sent = []
  filters : state.filters = []
  call : state.worker.call = .none
  place : state.worker.thread = .blocked ∨ state.worker.thread.capturing = true

instance (state : RecordProtocol) : Decidable (Quiescent state) :=
  decidable_of_iff ((state.core.eventQueue = [] ∧ state.core.sent = [] ∧
      state.worker.eventQueue = [] ∧ state.worker.sent = [] ∧ state.filters = []) ∧
    state.worker.call = .none ∧
      (state.worker.thread = .blocked ∨ state.worker.thread.capturing = true))
    ⟨fun ⟨⟨coreQueue, commands, recordQueue, notis, filters⟩, call, place⟩ =>
        ⟨coreQueue, commands, recordQueue, notis, filters, call, place⟩,
      fun quiescent =>
        ⟨⟨quiescent.coreQueue, quiescent.commands, quiescent.recordQueue, quiescent.notis,
          quiescent.filters⟩, quiescent.call, quiescent.place⟩⟩

/-- `RECORD_STATE` says what the record manager is doing. -/
structure Agrees (state : RecordProtocol) : Prop where
  recording : state.core.recordState = .recording ↔
    state.worker.state = .recording ∧ state.worker.thread.capturing = true
  stopped : state.core.recordState = .stopped ↔ state.worker.thread = .blocked
  settled : state.core.recordState ≠ .processing

/-- Where the view settles in each phase of the worker; nothing is said while a session ends. -/
structure Mirrored (worker : RecordWorker) (view : RecordView) : Prop where
  synchronized : worker.Synchronized
  rejecting : worker.call = .stopReject ∨ worker.call = .cancelReject → worker.state = .idle
  resting : worker.thread.waiting = true ∧ worker.state = .idle ∨ worker.thread.closing = true →
    view.Settles .stopped fun last => last = some .startRecord
  opening : worker.thread.waiting = true ∧ worker.state = .recording ∨
    worker.thread.starting = true →
      view.Settles .stopped fun last => last = none ∨ last = some .startRecord
  capturing : worker.thread.capturing = true ∧ worker.state = .recording →
    view.Settles .recording fun last => last = some .stopRecord ∨ last = some .cancelRecord

variable {state next : RecordProtocol} {worker : RecordWorker} {view nextView : RecordView}

theorem mirrored_init : Mirrored protocol.init.worker protocol.init.view where
  synchronized := RecordWorker.synchronized_init
  rejecting := by simp [protocol]
  resting := fun _ => Or.inl rfl
  opening := by simp [protocol, ThreadPc.starting]
  capturing := by simp [protocol, ThreadPc.capturing]

/-- Steps of the core and the channels, while the worker stays where it is. -/
theorem Mirrored.viewStep (mirrored : Mirrored worker view) (stepped : view.Step nextView) :
    Mirrored worker nextView :=
  { mirrored with
    resting := fun phase => (mirrored.resting phase).step stepped (by simp) (by simp)
    opening := fun phase => (mirrored.opening phase).step stepped (by simp) (by simp)
    capturing := fun phase => by
      refine (mirrored.capturing phase).step stepped (by simp) ?_
      intro command differs _
      cases command <;> simp_all }

/-- A client's command is forwarded in the state that enables it. -/
theorem view_request {command forwarded : RecordCommand} {eventQueue : List RecordCoreEvent}
    (found : state.core.eventQueue = .request command :: eventQueue) (enabling : RecordState)
    (stepped : state.core.recordState = enabling → state.view.Step { state.view with
      recordState := .processing, commands := state.view.commands ++ [forwarded] }) :
    state.view.Step
      { state with core := { state.core with eventQueue }.request enabling forwarded }.view := by
  unfold RecordHandler.request
  split
  · next enabled =>
      simpa [view, found, List.filterMap_cons, RecordCoreEvent.write] using stepped enabled
  · have same : { state with core := { state.core with eventQueue } }.view = state.view := by
      simp [view, found, List.filterMap_cons, RecordCoreEvent.write]
    rw [same]
    exact .same

/-- A notification arrives, if it is one that writes `RECORD_STATE`. -/
theorem view_noti {core : RecordHandler} {event : RecordCoreEvent}
    {eventQueue : List RecordCoreEvent} (found : state.core.eventQueue = event :: eventQueue)
    (queue : core.eventQueue = eventQueue) (sent : core.sent = state.core.sent)
    (written : event.write = none ∧ core.recordState = state.core.recordState ∨
      event.write = some core.recordState) :
    state.view.Step { state with core }.view := by
  rcases written with ⟨silent, same⟩ | written
  · have unchanged : { state with core }.view = state.view := by
      simp [view, found, silent, queue, sent, same]
    rw [unchanged]
    exact .same
  · have arrived : { state with core }.view =
        { state.view with
          recordState := core.recordState
          writes := eventQueue.filterMap RecordCoreEvent.write ++
            state.worker.sent.filterMap RecordNoti.write } := by
      simp [view, queue, sent]
    rw [arrived]
    exact .arrive core.recordState _ (by simp [view, found, written])

/-- The core handles a notification, or forwards a command if its state allows it. -/
theorem view_coreEvent {core : RecordHandler} (processed : state.core.processEvent = some core) :
    state.view.Step { state with core }.view := by
  unfold RecordHandler.processEvent at processed
  split at processed
  · simp at processed
  · next event eventQueue found =>
      simp only at processed
      split at processed <;> cases processed
      · exact view_request found .stopped fun stopped => .start stopped
      · exact view_request found .recording fun recording =>
          .finish .stopRecord (by simp) recording
      · exact view_request found .recording fun recording =>
          .finish .cancelRecord (by simp) recording
      · next isSuccess message =>
          refine view_noti found rfl rfl (Or.inr ?_)
          cases isSuccess <;> rfl
      · exact view_noti found rfl rfl (Or.inr rfl)
      · exact view_noti found rfl rfl (Or.inr rfl)
      · exact view_noti found rfl rfl (Or.inl ⟨rfl, rfl⟩)
      · exact view_noti found rfl rfl (Or.inl ⟨rfl, rfl⟩)

theorem view_client (command : RecordCommand) :
    { state with core := { state.core with
      eventQueue := state.core.eventQueue ++ [RecordCoreEvent.request command] } }.view =
      state.view := by
  simp [view, RecordCoreEvent.write]

theorem view_receiveCommand {command : RecordCommand} {sent : List RecordCommand}
    (found : state.core.sent = command :: sent) :
    { state with
      core := { state.core with sent }
      worker := { state.worker with
        eventQueue := state.worker.eventQueue ++ [handleMessage command] } }.view =
      state.view := by
  have same : (handleMessage command).command = some command := by cases command <;> rfl
  simp [view, found, same]

theorem view_receiveNoti {noti : RecordNoti} {sent : List RecordNoti} {core : RecordHandler}
    (found : state.worker.sent = noti :: sent)
    (handled : state.core.handleMessageNoti noti = some core) :
    { state with core, worker := { state.worker with sent } }.view = state.view := by
  unfold RecordHandler.handleMessageNoti at handled
  simp only at handled
  split at handled
  · next isFilter =>
      rcases Option.map_eq_some_iff.mp handled with ⟨durationSec, -, rfl⟩
      have silent : noti.write = none := by
        simp [RecordNoti.write, isFilter, RecordNotiCommand.write]
      simp [view, found, silent, RecordCoreEvent.write, isFilter, RecordNotiCommand.write]
  · cases handled
    cases written : noti.write with
    | none =>
        have silent : noti.command.write noti.isSuccess = none := written
        simp [view, found, written, silent, RecordCoreEvent.write]
    | some value =>
        have writes : noti.command.write noti.isSuccess = some value := written
        simp [view, found, written, writes, RecordCoreEvent.write]

theorem view_pop {event : RecordEvent} {eventQueue : List RecordEvent} {call : CallPc}
    {filters : List (String × Int)} (noCall : state.worker.call = .none)
    (found : state.worker.eventQueue = event :: eventQueue) (taken : call.command = event.command) :
    { state with worker := { state.worker with eventQueue, call }, filters }.view =
      state.view := by
  have idle : CallPc.none.command = .none := rfl
  cases isCommand : event.command <;> simp [view, noCall, found, taken, isCommand, idle]

theorem view_filterEnds (durationSec : Int) (filteredFilePath : Option String)
    (filters : List (String × Int)) :
    { state with
      worker := state.worker.send (filterNoti durationSec filteredFilePath), filters }.view =
      state.view := by
  cases filteredFilePath <;>
    simp [view, RecordWorker.send, filterNoti, RecordNoti.write, RecordNotiCommand.write]

/--
The worker's queue and channel do not matter to the invariant, nor does a call that is
entered.
-/
theorem Mirrored.samePhase {nextWorker : RecordWorker} (mirrored : Mirrored worker view)
    (synchronized : nextWorker.Synchronized)
    (rejecting : nextWorker.call = .stopReject ∨ nextWorker.call = .cancelReject →
      nextWorker.state = .idle)
    (thread : nextWorker.thread = worker.thread) (sameState : nextWorker.state = worker.state) :
    Mirrored nextWorker view where
  synchronized := synchronized
  rejecting := rejecting
  resting := by
    rw [thread, sameState]
    exact mirrored.resting
  opening := by
    rw [thread, sameState]
    exact mirrored.opening
  capturing := by
    rw [thread, sameState]
    exact mirrored.capturing

/-- MainWorker's next event: a call is entered, or a file is left to a filter thread. -/
theorem mirrored_processEvent (mirrored : Mirrored state.worker state.view)
    (processed : state.processEvent = some next) : Mirrored next.worker next.view := by
  unfold processEvent at processed
  split at processed
  · next event eventQueue noCall found =>
      have popped : RecordWorker.Synchronized { state.worker with eventQueue } :=
        { mirrored.synchronized with }
      simp only at processed
      split at processed
      · simp only [RecordWorker.invoke, noCall, Option.map_some] at processed
        cases processed
        rw [view_pop noCall found rfl]
        exact mirrored.samePhase (RecordWorker.synchronized_step popped (.start noCall)) (by simp)
          rfl rfl
      · simp only [RecordWorker.invoke, noCall, Option.map_some] at processed
        cases processed
        rw [view_pop noCall found rfl]
        exact mirrored.samePhase (RecordWorker.synchronized_step popped (.stop noCall)) (by simp)
          rfl rfl
      · simp only [RecordWorker.invoke, noCall, Option.map_some] at processed
        cases processed
        rw [view_pop noCall found rfl]
        exact mirrored.samePhase (RecordWorker.synchronized_step popped (.cancel noCall)) (by simp)
          rfl rfl
      · split at processed <;> cases processed
        · rw [view_pop noCall found (by rw [noCall]; rfl)]
          exact mirrored.samePhase popped mirrored.rejecting rfl rfl
        · rw [view_pop noCall found (by rw [noCall]; rfl)]
          exact mirrored.samePhase popped mirrored.rejecting rfl rfl
  · simp at processed

/-- Steps of the worker that send nothing and execute no command. -/
theorem view_worker (nextWorker : RecordWorker)
    (call : nextWorker.call.command = state.worker.call.command)
    (eventQueue : nextWorker.eventQueue.filterMap RecordEvent.command =
      state.worker.eventQueue.filterMap RecordEvent.command)
    (sent : nextWorker.sent = state.worker.sent) :
    { state with worker := nextWorker }.view = state.view := by
  simp [view, call, eventQueue, sent]

/-- A command is executed without an answer. -/
theorem view_executed (nextWorker : RecordWorker) {command : RecordCommand}
    (found : state.worker.call.command = some command) (finished : nextWorker.call.command = none)
    (eventQueue : nextWorker.eventQueue = state.worker.eventQueue)
    (sent : nextWorker.sent = state.worker.sent) :
    ∃ rest, state.view.commands = command :: rest ∧
      { state with worker := nextWorker }.view = { state.view with commands := rest } :=
  ⟨_, by simp [view, found]; rfl, by simp [view, finished, eventQueue, sent]⟩

/-- A notification is sent. -/
theorem view_sent (nextWorker : RecordWorker) {noti : RecordNoti} {value : RecordState}
    (sent : nextWorker.sent = state.worker.sent ++ [noti]) (written : noti.write = some value) :
    { state with worker := nextWorker }.view =
      { state.view with
        writes := state.view.writes ++ [value]
        commands := nextWorker.call.command.toList ++
          nextWorker.eventQueue.filterMap RecordEvent.command ++ state.core.sent } := by
  simp [view, sent, written]

/-- Inside a call, nothing is executed yet, or nothing is left to be executed. -/
theorem mirrored_calling (mirrored : Mirrored state.worker state.view) {call : CallPc}
    (synchronized : RecordWorker.Synchronized { state.worker with call })
    (command : call.command = state.worker.call.command)
    (rejecting : call = .stopReject ∨ call = .cancelReject → state.worker.state = .idle) :
    Mirrored { state.worker with call }
      { state with worker := { state.worker with call } }.view := by
  rw [view_worker { state.worker with call } command rfl rfl]
  exact mirrored.samePhase synchronized rejecting rfl rfl

/-- A start is stored while the worker waits, before a capture, or while a session still ends. -/
theorem mirrored_setRecording (mirrored : Mirrored state.worker state.view)
    (pc : state.worker.call = .startSetRecording) (good : StartsInTime state .call)
    (synchronized : RecordWorker.Synchronized
      { state.worker with state := .recording, call := .startNotify }) :
    Mirrored { state.worker with state := .recording, call := .startNotify }
      { state with
        worker := { state.worker with state := .recording, call := .startNotify } }.view := by
  have idle := mirrored.synchronized.acceptIdle (Or.inr pc)
  simp only [StartsInTime, pc] at good
  have command : state.worker.call.command = some .startRecord := by rw [pc]; rfl
  rcases view_executed { state.worker with state := .recording, call := .startNotify }
    command rfl rfl rfl with ⟨rest, found, same⟩
  rw [same]
  refine ⟨synchronized, by simp, ?_, ?_, ?_⟩
  · rintro (⟨-, isIdle⟩ | closing)
    · simp at isIdle
    · simp [good.2] at closing
  · rintro (⟨waiting, -⟩ | starting)
    · exact (mirrored.resting (Or.inl ⟨waiting, idle⟩)).execute found (by simp) (by simp)
    · exact (mirrored.opening (Or.inr starting)).execute found (by simp) (by simp)
  · rintro ⟨capturing, -⟩
    simp [good.1] at capturing

/-- A stop or a cancel is executed. -/
theorem mirrored_setIdle (mirrored : Mirrored state.worker state.view) {command : RecordCommand}
    (pc : state.worker.call.command = some command) (differs : command ≠ .startRecord)
    (synchronized : RecordWorker.Synchronized { state.worker with state := .idle, call := .none }) :
    Mirrored { state.worker with state := .idle, call := .none }
      { state with worker := { state.worker with state := .idle, call := .none } }.view := by
  rcases view_executed { state.worker with state := .idle, call := .none } pc rfl rfl rfl with
    ⟨rest, found, same⟩
  have waits : state.worker.thread.waiting = true → state.view.Settles .stopped
      fun last => last = none ∨ last = some .startRecord := by
    intro waiting
    cases found : state.worker.state with
    | idle =>
        exact (mirrored.resting (Or.inl ⟨waiting, found⟩)).imp_right
          (And.imp_right (And.imp_right Or.inr))
    | recording => exact mirrored.opening (Or.inl ⟨waiting, found⟩)
  rw [same]
  refine ⟨synchronized, by simp, ?_, ?_, by simp⟩
  · rintro (⟨waiting, -⟩ | closing)
    · exact (waits waiting).execute found (by simp [differs]) (by simp)
    · exact (mirrored.resting (Or.inr closing)).execute found (by simp [differs]) (by simp)
  · rintro (⟨-, isRecording⟩ | starting)
    · simp at isRecording
    · exact (mirrored.opening (Or.inr starting)).execute found (by simp) (by simp)

/-- A call is rejected, which stops the recording for the core. -/
theorem mirrored_reject {noti : RecordNoti} (stops : noti.write = some .stopped)
    (late : state.worker.thread.capturing = true → state.worker.state = .idle)
    (synchronized : RecordWorker.Synchronized
      { state.worker.send noti with call := .none }) :
    Mirrored { state.worker.send noti with call := .none }
      { state with worker := { state.worker.send noti with call := .none } }.view := by
  rw [view_sent { state.worker.send noti with call := .none } rfl stops]
  refine ⟨synchronized, by simp, fun _ => RecordView.settles_write _ _ _ _,
    fun _ => RecordView.settles_write _ _ _ _, ?_⟩
  rintro ⟨capturing, recording⟩
  have idle : (state.worker.send noti).state = .idle := late capturing
  simp [idle] at recording

theorem mirrored_notifyOne (mirrored : Mirrored state.worker state.view)
    (pc : state.worker.call = .startNotify)
    (synchronized : RecordWorker.Synchronized { state.worker.notifyOne with call := .none }) :
    Mirrored { state.worker.notifyOne with call := .none }
      { state with worker := { state.worker.notifyOne with call := .none } }.view := by
  have noCommand : CallPc.none.command = state.worker.call.command := by rw [pc]; rfl
  unfold RecordWorker.notifyOne at synchronized ⊢
  split
  · next isBlocked =>
      rw [if_pos isBlocked] at synchronized
      rw [view_worker { state.worker with thread := .waitLock, call := .none } noCommand rfl rfl]
      have waiting : state.worker.thread.waiting = true := by simp [isBlocked, ThreadPc.waiting]
      refine ⟨synchronized, by simp, ?_, ?_, by simp [ThreadPc.capturing]⟩
      · rintro (⟨-, idle⟩ | closing)
        · exact mirrored.resting (Or.inl ⟨waiting, idle⟩)
        · simp [ThreadPc.closing] at closing
      · rintro (⟨-, recording⟩ | starting)
        · exact mirrored.opening (Or.inl ⟨waiting, recording⟩)
        · simp [ThreadPc.starting] at starting
  · next awake =>
      rw [if_neg awake] at synchronized
      exact mirrored_calling mirrored synchronized noCommand (by simp)

theorem mirrored_callStep {worker : RecordWorker} (mirrored : Mirrored state.worker state.view)
    (good : StartsInTime state .call) (stepped : state.worker.CallStep worker) :
    Mirrored worker { state with worker }.view := by
  have synchronized := RecordWorker.synchronized_callStep mirrored.synchronized stepped
  cases stepped with
  | startSetRecording pc => exact mirrored_setRecording mirrored pc good synchronized
  | startNotify pc => exact mirrored_notifyOne mirrored pc synchronized
  | startReject pc =>
      simp only [StartsInTime, pc] at good
      exact mirrored_reject rfl good synchronized
  | stopReject pc =>
      have idle := mirrored.rejecting (Or.inl pc)
      exact mirrored_reject rfl (fun _ => idle) synchronized
  | cancelReject pc =>
      have idle := mirrored.rejecting (Or.inr pc)
      exact mirrored_reject rfl (fun _ => idle) synchronized
  | stopSetIdle pc =>
      have command : state.worker.call.command = some .stopRecord := by rw [pc]; rfl
      exact mirrored_setIdle mirrored command (by simp) synchronized
  | cancelSetIdle pc =>
      have command : state.worker.call.command = some .cancelRecord := by rw [pc]; rfl
      exact mirrored_setIdle mirrored command (by simp) synchronized
  | startResetCancel pc =>
      rw [view_worker { state.worker with cancelRequested := false, call := .startSetRecording }
        (by rw [pc]; rfl) rfl rfl]
      exact mirrored.samePhase synchronized (by simp) rfl rfl
  | cancelSetFlag pc =>
      rw [view_worker { state.worker with cancelRequested := true, call := .cancelSetIdle }
        (by rw [pc]; rfl) rfl rfl]
      exact mirrored.samePhase synchronized (by simp) rfl rfl
  | stopRefuse pc idle | cancelRefuse pc idle =>
      exact mirrored_calling mirrored synchronized (by rw [pc]; rfl) fun _ => idle
  | startLock pc _ | startAccept pc _ | startRefuse pc _ | stopAccept pc _ | cancelAccept pc _ =>
      exact mirrored_calling mirrored synchronized (by rw [pc]; rfl) (by simp)

/-- Steps of the worker's thread inside one phase. -/
theorem mirrored_thread {worker : RecordWorker} (mirrored : Mirrored state.worker state.view)
    (synchronized : worker.Synchronized) (call : worker.call = state.worker.call)
    (eventQueue : worker.eventQueue.filterMap RecordEvent.command =
      state.worker.eventQueue.filterMap RecordEvent.command)
    (sent : worker.sent = state.worker.sent)
    (rejecting : state.worker.state = .idle → worker.state = .idle)
    (resting : worker.thread.waiting = true ∧ worker.state = .idle ∨
      worker.thread.closing = true →
        state.worker.thread.waiting = true ∧ state.worker.state = .idle ∨
          state.worker.thread.closing = true)
    (opening : worker.thread.waiting = true ∧ worker.state = .recording ∨
      worker.thread.starting = true →
        state.worker.thread.waiting = true ∧ state.worker.state = .recording ∨
          state.worker.thread.starting = true)
    (capturing : worker.thread.capturing = true ∧ worker.state = .recording →
      state.worker.thread.capturing = true ∧ state.worker.state = .recording) :
    Mirrored worker { state with worker }.view := by
  rw [view_worker worker (by rw [call]) eventQueue sent]
  refine ⟨synchronized, ?_, fun phase => mirrored.resting (resting phase),
    fun phase => mirrored.opening (opening phase),
    fun phase => mirrored.capturing (capturing phase)⟩
  rw [call]
  exact fun rejects => rejecting (mirrored.rejecting rejects)

/-- The last notification of a session. -/
theorem mirrored_stops {worker : RecordWorker} (mirrored : Mirrored state.worker state.view)
    {noti : RecordNoti} (sent : worker.sent = state.worker.sent ++ [noti])
    (stops : noti.write = some .stopped) (synchronized : worker.Synchronized)
    (call : worker.call = state.worker.call) (same : worker.state = state.worker.state)
    (closing : worker.thread.closing = true) : Mirrored worker { state with worker }.view := by
  rw [view_sent worker sent stops]
  refine ⟨synchronized, ?_, fun _ => RecordView.settles_write _ _ _ _,
    fun _ => RecordView.settles_write _ _ _ _, ?_⟩
  · rw [call, same]
    exact mirrored.rejecting
  · rintro ⟨capturing, -⟩
    cases place : worker.thread <;> simp_all [ThreadPc.capturing, ThreadPc.closing]

theorem mirrored_threadStep {choice : Choice} {worker : RecordWorker}
    (mirrored : Mirrored state.worker state.view)
    (stepped : state.worker.ThreadStep choice worker) :
    Mirrored worker { state with worker }.view := by
  have synchronized := RecordWorker.synchronized_threadStep mirrored.synchronized stepped
  cases stepped with
  | notifyInitFailed pc => exact mirrored_stops mirrored rfl rfl synchronized rfl rfl rfl
  | notifyEnded reason pc =>
      exact mirrored_stops mirrored rfl (by cases reason <;> rfl) synchronized rfl rfl rfl
  | notifySaved pc => exact mirrored_stops mirrored rfl rfl synchronized rfl rfl rfl
  | notifyStarted pc =>
      rw [view_sent { state.worker.send .started with thread := .captureTest } rfl rfl]
      refine ⟨synchronized, mirrored.rejecting, by simp [ThreadPc.waiting, ThreadPc.closing],
        by simp [ThreadPc.waiting, ThreadPc.starting], fun _ => ?_⟩
      exact RecordView.settles_write _ _ _ _
  | pushFilter pc event filters =>
      rcases filters with ⟨filePath, durationSec, rfl⟩
      refine mirrored_thread mirrored synchronized rfl ?_ rfl (fun idle => idle) ?_ ?_ ?_ <;>
        simp [pc, RecordEvent.command, ThreadPc.waiting, ThreadPc.starting, ThreadPc.capturing,
          ThreadPc.closing]
  | captureOn pc recording =>
      refine mirrored_thread mirrored synchronized rfl rfl rfl (fun idle => idle) ?_ ?_ ?_ <;>
        simp [pc, ThreadPc.waiting, ThreadPc.starting, ThreadPc.capturing, ThreadPc.closing]
  | loop pc | lock pc _ | keepWaiting pc _ | block pc | spurious pc | enter pc | clearBuffer pc
  | initReady pc _ _ | initFailed pc _ | resetAfterInit pc | captureOff pc _ | exceeded pc
  | withinDuration pc | captured pc _ _ | captureFailed pc _ | endDiscard _ pc _ | endSave pc _
  | saved pc _ _ _ | saveFailed pc _ | resetAfterEnd pc | wake pc recording =>
      refine mirrored_thread mirrored synchronized rfl rfl rfl (by simp) ?_ ?_ ?_ <;>
        simp_all [ThreadPc.waiting, ThreadPc.starting, ThreadPc.capturing, ThreadPc.closing]

theorem mirrored_step {action : Action} (mirrored : Mirrored state.worker state.view)
    (good : StartsInTime state action) (stepped : state.step action = some next) :
    Mirrored next.worker next.view := by
  cases action with
  | client command =>
      cases stepped
      rw [view_client]
      exact mirrored
  | coreEvent =>
      rcases Option.map_eq_some_iff.mp stepped with ⟨core, processed, rfl⟩
      exact mirrored.viewStep (view_coreEvent processed)
  | receiveCommand =>
      simp only [step] at stepped
      split at stepped
      · simp at stepped
      · next command sent found =>
          cases stepped
          rw [view_receiveCommand found]
          exact mirrored.samePhase { mirrored.synchronized with } mirrored.rejecting rfl rfl
  | receiveNoti =>
      simp only [step] at stepped
      split at stepped
      · simp at stepped
      · next noti sent found =>
          rcases Option.map_eq_some_iff.mp stepped with ⟨core, handled, rfl⟩
          rw [view_receiveNoti found handled]
          exact mirrored.samePhase { mirrored.synchronized with } mirrored.rejecting rfl rfl
  | mainEvent => exact mirrored_processEvent mirrored stepped
  | call =>
      rcases Option.map_eq_some_iff.mp stepped with ⟨worker, called, rfl⟩
      exact mirrored_callStep mirrored good (RecordWorker.callStep_cases called)
  | thread choice =>
      rcases Option.map_eq_some_iff.mp stepped with ⟨worker, ranOn, rfl⟩
      exact mirrored_threadStep mirrored
        (RecordWorker.threadStep_cases mirrored.synchronized.running ranOn)
  | filterEnds index filteredFilePath =>
      simp only [step] at stepped
      split at stepped
      · simp at stepped
      · cases stepped
        rw [view_filterEnds]
        exact mirrored.samePhase { mirrored.synchronized with } mirrored.rejecting rfl rfl

theorem view_of_quiescent (quiescent : Quiescent state) :
    state.view = { recordState := state.core.recordState, writes := [], commands := [] } := by
  simp [view, quiescent.coreQueue, quiescent.commands, quiescent.recordQueue, quiescent.notis,
    quiescent.call, CallPc.command]

theorem Mirrored.agrees (mirrored : Mirrored state.worker state.view)
    (quiescent : Quiescent state)
    (sampled : state.worker.thread.capturing = true → state.worker.state = .recording) :
    Agrees state := by
  have empty := view_of_quiescent quiescent
  rcases quiescent.place with isBlocked | capturing
  · have idle := mirrored.synchronized.idle_of_blocked isBlocked quiescent.call
    have settles := mirrored.resting (Or.inl ⟨by simp [isBlocked, ThreadPc.waiting], idle⟩)
    have stopped : state.core.recordState = .stopped := by
      simpa [empty, RecordView.Settles, RecordView.settled] using settles
    constructor <;> simp [stopped, isBlocked, idle]
  · have recording := sampled capturing
    have settles := mirrored.capturing ⟨capturing, recording⟩
    have isRecording : state.core.recordState = .recording := by
      simpa [empty, RecordView.Settles, RecordView.settled] using settles
    have awake : state.worker.thread ≠ .blocked := by
      intro isBlocked
      simp [isBlocked, ThreadPc.capturing] at capturing
    constructor <;> simp [isRecording, recording, capturing, awake]

/--
A stop that the capture loop has not sampled yet is visible: no value of `RECORD_STATE`
agrees.
-/
theorem Agrees.sampled (agrees : Agrees state)
    (capturing : state.worker.thread.capturing = true) : state.worker.state = .recording := by
  cases found : state.core.recordState with
  | recording => exact (agrees.recording.mp found).1
  | stopped => simp [agrees.stopped.mp found, ThreadPc.capturing] at capturing
  | processing => exact absurd found agrees.settled

/--
In a run without late or rejected-while-capturing starts, a quiescent state agrees
exactly when its capture loop, if it is in one, has no unsampled stop.
-/
theorem agrees_iff_sampled {schedule : List Action} (ran : protocol.run schedule = some state)
    (along : protocol.Along StartsInTime schedule) (quiescent : Quiescent state) :
    Agrees state ↔
      (state.worker.thread.capturing = true → state.worker.state = .recording) := by
  have mirrored : Mirrored state.worker state.view :=
    System.invariant_of_along (fun state => Mirrored state.worker state.view) mirrored_init
      (fun _ _ _ mirrored good stepped => mirrored_step mirrored good stepped) ran along
  exact ⟨fun agrees => agrees.sampled, mirrored.agrees quiescent⟩

/-- A command of a client, up to its execution by the record manager. -/
def commandRuns (command : RecordCommand) (steps : Nat) : List Action :=
  [.client command, .coreEvent, .receiveCommand, .mainEvent] ++ List.replicate steps .call

/-- Steps of the worker's thread without an answer from the environment. -/
def threadRuns (steps : Nat) : List Action :=
  List.replicate steps (.thread .proceed)

/-- A notification reaches the core and is handled. -/
def notiArrives : List Action := [.receiveNoti, .coreEvent]

/-- A session is started, and its start is reported to the core. -/
def sessionStarts : List Action :=
  threadRuns 4 ++ commandRuns .startRecord 5 ++ threadRuns 4 ++
    [.thread (.initAlsa .ready), .thread .proceed] ++ notiArrives

/-- A session that is canceled after one capture. -/
def sessionCanceled : List Action :=
  sessionStarts ++ threadRuns 2 ++ [.thread (.read (.frames [1, 2]))] ++
    commandRuns .cancelRecord 3 ++ threadRuns 8 ++ notiArrives

theorem agrees_sessionCanceled :
    ∃ state, protocol.run sessionCanceled = some state ∧ Agrees state := by
  have observed : (protocol.run sessionCanceled).map (fun state =>
      (decide (Quiescent state), state.worker.thread)) = some (true, .blocked) := by decide
  rcases Option.map_eq_some_iff.mp observed with ⟨state, ran, observed⟩
  simp only [Prod.mk.injEq, decide_eq_true_eq] at observed
  rcases observed with ⟨quiescent, isBlocked⟩
  refine ⟨state, ran, (agrees_iff_sampled ran (by decide) quiescent).mpr ?_⟩
  simp [isBlocked, ThreadPc.capturing]

/-- A start is stored after the last notification of the session before it. -/
def startedWhileClosing : List Action :=
  sessionStarts ++ commandRuns .stopRecord 2 ++ threadRuns 3 ++ notiArrives ++
    commandRuns .startRecord 5 ++ threadRuns 5

/-- The worker's `state_ = IDLE` undoes the start, and the core waits for its answer for ever. -/
theorem not_agrees_startedWhileClosing :
    ¬ ∀ (schedule : List Action) (state : RecordProtocol), protocol.run schedule = some state →
      Quiescent state → Agrees state := by
  intro agree
  have observed : (protocol.run startedWhileClosing).map (fun state =>
      (decide (Quiescent state), state.worker.thread, state.core.recordState)) =
      some (true, .blocked, .processing) := by decide
  rcases Option.map_eq_some_iff.mp observed with ⟨state, ran, observed⟩
  simp only [Prod.mk.injEq, decide_eq_true_eq] at observed
  rcases observed with ⟨quiescent, -, processing⟩
  exact (agree _ state ran quiescent).settled processing

end RecordProtocol

end RaspberryPiService
