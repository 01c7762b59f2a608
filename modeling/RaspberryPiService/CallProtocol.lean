import RaspberryPiService.CoreManager.CallHandler
import RaspberryPiService.Transition.Mirror
import RaspberryPiService.Transition.Runs

/-!
# The core's mirror of the calls

oFono, the hardware manager and the core are composed into one system. oFono adds,
changes and removes calls as it likes, whatever the commands ask for, and signals each
change; its modem comes and goes. All queues and channels are in order and lose nothing.

`CALL_STATE` mirrors the calls. What it is to say about them is left open: `right calls
value` is a parameter here. Every change of the calls leaves a signal behind, so the
mirror can only be left wrong by a step that handles the last outstanding signal, or
sends a reply when none is outstanding. `Announces tells down` restricts these steps: the
last signal must be one that tells what is right (`tells`), and a reply, which always
writes `IDLE`, must find the calls down (`down`). Quiescent states are then right.
-/

namespace RaspberryPiService

/-- What a notification about a call assigns to `CALL_STATE`. -/
def CallNotiCommand.write (state : String) : CallNotiCommand → CallState
  | .incomingCallNoti => .incoming
  | .outgoingCallNoti => .outcoming
  | .callStateChangedNoti => CallHandler.changedState state
  | .callEndedNoti => .idle

def CallReplyCommand.write : CallReplyCommand → Option CallState
  | .dialCallNoti | .answerCallNoti | .hangupCallNoti => some .idle
  | .pbapSessionEndNoti => none

def CallNoti.write : CallNoti → Option CallState
  | .call command isSuccess info => if isSuccess then some (command.write info.state) else none
  | .reply command _ _ => command.write

def CallCoreEvent.write : CallCoreEvent → Option CallState
  | .call command _ _ state => some (command.write state)
  | .reply command _ _ => command.write
  | _ => none

structure CallProtocol where
  calls : OfonoCalls := ∅
  signals : List OfonoSignal := []
  ofonoDBus : OfonoDBus := {}
  commandQueue : List CallCommand := []
  main : CallMainPc := .idle
  sent : List CallNoti := []
  core : CallHandler := {}

namespace CallProtocol

/-- The event that a client's command becomes in the core's queue. -/
def clientEvent : CallCommand → CallCoreEvent
  | .dialCall number => .dialCall number
  | .hangupCall => .hangupCall
  | .answerCall => .answerCall

inductive Action where
  | client (command : CallCommand)
  | coreEvent
  | receiveNoti
  | receiveCommand
  | mainEvent
  | mainScan
  | mainReply (outcome : MethodOutcome)
  | signal
  | addCall (callPath number : String) (state : OfonoCallState)
  | changeState (callPath : String) (state : OfonoCallState)
  | changeProperty (callPath key : String)
  | removeCall (callPath : String)
  | addModem (modemPath : String)
  | removeModem (modemPath : String)
  | addContact (number name : String)
deriving DecidableEq

def step (state : CallProtocol) : Action → Option CallProtocol
  | .client command =>
      some { state with core := { state.core with
        eventQueue := state.core.eventQueue ++ [clientEvent command] } }
  | .coreEvent => state.core.processEvent.map fun core => { state with core }
  | .receiveNoti =>
      match state.sent with
      | [] => none
      | noti :: sent => some { state with sent, core := state.core.handleMessageNoti noti }
  | .receiveCommand =>
      match state.core.sent with
      | [] => none
      | command :: sent =>
          some { state with
            core := { state.core with sent }
            commandQueue := state.commandQueue ++ [command] }
  | .mainEvent =>
      match state.main, state.commandQueue with
      | .idle, command :: commandQueue =>
          let (main, noti) := state.ofonoDBus.processCommand command
          some { state with commandQueue, main, sent := state.sent ++ noti.toList }
      | _, _ => none
  | .mainScan =>
      match state.main with
      | .scanning remaining =>
          let (main, noti) := state.ofonoDBus.scanStep state.calls remaining
          some { state with main, sent := state.sent ++ noti.toList }
      | _ => none
  | .mainReply outcome =>
      (OfonoDBus.methodReply state.main outcome).map fun noti =>
        { state with main := .idle, sent := state.sent ++ [noti] }
  | .signal =>
      match state.main, state.signals with
      | .idle, signal :: signals =>
          let (ofonoDBus, noti) :=
            BluetoothWorker.dispatchMessage state.ofonoDBus state.calls signal
          some { state with signals, ofonoDBus, sent := state.sent ++ noti.toList }
      | _, _ => none
  | .addCall callPath number callState =>
      if callPath ∈ state.calls then none
      else some { state with
        calls := state.calls.insert callPath { state := callState, number }
        signals := state.signals ++ [.callAdded callPath] }
  | .changeState callPath callState =>
      (state.calls.lookup callPath).map fun call => { state with
        calls := state.calls.insert callPath { call with state := callState }
        signals := state.signals ++ [.propertyChanged callPath "State"] }
  | .changeProperty callPath key =>
      some { state with signals := state.signals ++ [.propertyChanged callPath key] }
  | .removeCall callPath =>
      if callPath ∈ state.calls then
        some { state with
          calls := state.calls.erase callPath
          signals := state.signals ++ [.callRemoved callPath] }
      else none
  | .addModem modemPath =>
      some { state with signals := state.signals ++ [.modemAdded modemPath] }
  | .removeModem modemPath =>
      some { state with signals := state.signals ++ [.modemRemoved modemPath] }
  | .addContact number name =>
      some { state with ofonoDBus := { state.ofonoDBus with
        phonebook := state.ofonoDBus.phonebook.insert number name } }

def protocol : System CallProtocol Action where
  init := {}
  step := step

/-- The values that will still overwrite `CALL_STATE`. -/
def writes (state : CallProtocol) : List CallState :=
  state.core.eventQueue.filterMap CallCoreEvent.write ++ state.sent.filterMap CallNoti.write

def settled (state : CallProtocol) : CallState :=
  Mirror.settled state.core.callState state.writes

/-- A command is on its way to the hardware manager, or being executed there. -/
def CommandPending (state : CallProtocol) : Prop :=
  state.main ≠ .idle ∨ state.commandQueue ≠ [] ∨ state.core.sent ≠ []

/-- The paths that are registered once the signal has been handled. -/
def track (paths : List String) : OfonoSignal → List String
  | .callAdded callPath => OfonoDBus.insertPath callPath paths
  | .callRemoved callPath => paths.filter (· ≠ callPath)
  | .modemRemoved _ => []
  | _ => paths

def tracked (paths : List String) (signals : List OfonoSignal) : List String :=
  signals.foldl track paths

/-- The signal will make the worker look at a call that is there, or drop a registered one. -/
def Concerns (calls : OfonoCalls) (paths : List String) : OfonoSignal → Prop
  | .callAdded callPath => callPath ∈ calls
  | .callRemoved callPath => callPath ∈ paths
  | .propertyChanged callPath key =>
      callPath ∈ calls ∧ (key = "State" ∨ key = "LineIdentification")
  | _ => False

instance (calls : OfonoCalls) (paths : List String) (signal : OfonoSignal) :
    Decidable (Concerns calls paths signal) := by
  unfold Concerns
  split <;> infer_instance

/-- Some signal that is still to be handled concerns a call. -/
def Outstanding (calls : OfonoCalls) : List String → List OfonoSignal → Prop
  | _, [] => False
  | paths, signal :: signals =>
      Concerns calls paths signal ∨ Outstanding calls (track paths signal) signals

instance decidableOutstanding (calls : OfonoCalls) :
    ∀ (paths : List String) (signals : List OfonoSignal),
      Decidable (Outstanding calls paths signals)
  | _, [] => isFalse id
  | paths, signal :: signals =>
      have := decidableOutstanding calls (track paths signal) signals
      inferInstanceAs (Decidable (_ ∨ _))

/-- Nothing is in flight, queued or being executed. -/
structure Quiescent (state : CallProtocol) : Prop where
  signals : state.signals = []
  coreQueue : state.core.eventQueue = []
  notis : state.sent = []
  noCommand : ¬ state.CommandPending

instance (state : CallProtocol) : Decidable (CommandPending state) :=
  inferInstanceAs (Decidable (_ ∨ _ ∨ _))

instance (state : CallProtocol) : Decidable (Quiescent state) :=
  decidable_of_iff (state.signals = [] ∧ state.core.eventQueue = [] ∧ state.sent = [] ∧
      ¬ state.CommandPending)
    ⟨fun ⟨signals, coreQueue, notis, noCommand⟩ => ⟨signals, coreQueue, notis, noCommand⟩,
      fun quiescent =>
        ⟨quiescent.signals, quiescent.coreQueue, quiescent.notis, quiescent.noCommand⟩⟩

variable {state next : CallProtocol} {calls : OfonoCalls} {paths : List String}
  {signal : OfonoSignal} {signals : List OfonoSignal}

theorem exists_lookup {callPath : String} (present : callPath ∈ calls) :
    ∃ call, calls.lookup callPath = some call :=
  Option.isSome_iff_exists.mp (AList.lookup_isSome.mpr present)

theorem mem_of_lookup {callPath : String} {call : OfonoCall}
    (found : calls.lookup callPath = some call) : callPath ∈ calls :=
  AList.lookup_isSome.mp (by simp [found])

theorem activeCallPaths_dispatchMessage (ofonoDBus : OfonoDBus) (calls : OfonoCalls)
    (signal : OfonoSignal) :
    (BluetoothWorker.dispatchMessage ofonoDBus calls signal).1.activeCallPaths =
      track ofonoDBus.activeCallPaths signal := by
  cases signal with
  | modemAdded | modemRemoved => rfl
  | callAdded callPath =>
      simp only [BluetoothWorker.dispatchMessage, BluetoothWorker.handleCallAdded]
      split
      · rfl
      · split
        · rfl
        · split <;> rfl
  | callRemoved callPath =>
      simp only [BluetoothWorker.dispatchMessage, BluetoothWorker.handleCallRemoved]
      split
      · rfl
      · next absent =>
          simp only [track]
          rw [List.filter_eq_self.mpr]
          intro path member
          simpa using fun same : path = callPath => absent (same ▸ member)
  | propertyChanged callPath key =>
      simp only [BluetoothWorker.dispatchMessage,
        BluetoothWorker.handleVoiceCallPropertyChanged]
      split
      · rfl
      · split
        · rfl
        · split <;> rfl

/-- A signal that concerns no call is handled without a value for `CALL_STATE`. -/
theorem write_dispatchMessage_of_not_concerns {ofonoDBus : OfonoDBus}
    (unconcerned : ¬ Concerns calls ofonoDBus.activeCallPaths signal) :
    (BluetoothWorker.dispatchMessage ofonoDBus calls signal).2.bind CallNoti.write = none := by
  cases signal with
  | modemAdded | modemRemoved => rfl
  | callAdded callPath =>
      have absent : calls.lookup callPath = none := AList.lookup_eq_none.mpr unconcerned
      simp [BluetoothWorker.dispatchMessage, BluetoothWorker.handleCallAdded,
        OfonoDBus.getVoiceCallProperties, absent]
  | callRemoved callPath =>
      have absent : callPath ∉ ofonoDBus.activeCallPaths := unconcerned
      simp [BluetoothWorker.dispatchMessage, BluetoothWorker.handleCallRemoved, absent]
  | propertyChanged callPath key =>
      simp only [BluetoothWorker.dispatchMessage,
        BluetoothWorker.handleVoiceCallPropertyChanged]
      split
      · rfl
      · next watched =>
          have absent : calls.lookup callPath = none := by
            refine AList.lookup_eq_none.mpr fun present => unconcerned ⟨present, ?_⟩
            by_contra other
            exact watched (by simpa using other)
          simp [OfonoDBus.getVoiceCallProperties, absent]

/-- The classification in `handleCallAdded`, of a call whose number is shown. -/
def added : OfonoCallState → Option CallState
  | .incoming | .waiting => some .incoming
  | .dialing | .alerting => some .outcoming
  | .active | .held | .disconnected => none

theorem write_callAdded (ofonoDBus : OfonoDBus) {callPath : String} {call : OfonoCall}
    (found : calls.lookup callPath = some call) (shown : call.number ≠ "") :
    (BluetoothWorker.dispatchMessage ofonoDBus calls (.callAdded callPath)).2.bind
      CallNoti.write = added call.state := by
  have info : (ofonoDBus.addActiveCallPath callPath).getVoiceCallProperties calls callPath =
      { name := ofonoDBus.findNameByNumber call.number
        number := call.number
        state := call.state.name } := by
    simp [OfonoDBus.getVoiceCallProperties, found, shown, OfonoDBus.findNameByNumber,
      OfonoDBus.addActiveCallPath]
  simp only [BluetoothWorker.dispatchMessage, BluetoothWorker.handleCallAdded, info, if_neg shown]
  cases call.state <;> rfl

/-- `CALL_ENDED_NOTI` writes what a changed state of `disconnected` would be classified as. -/
theorem write_propertyChanged (ofonoDBus : OfonoDBus) {callPath key : String} {call : OfonoCall}
    (found : calls.lookup callPath = some call)
    (watched : key = "State" ∨ key = "LineIdentification") :
    (BluetoothWorker.dispatchMessage ofonoDBus calls (.propertyChanged callPath key)).2.bind
      CallNoti.write = some (CallHandler.changedState call.state.name) := by
  have read : ¬ (key ≠ "State" ∧ key ≠ "LineIdentification") := by tauto
  simp only [BluetoothWorker.dispatchMessage, BluetoothWorker.handleVoiceCallPropertyChanged,
    if_neg read, OfonoDBus.getVoiceCallProperties, found]
  cases call.state <;> rfl

theorem write_callRemoved {ofonoDBus : OfonoDBus} {callPath : String}
    (registered : callPath ∈ ofonoDBus.activeCallPaths) :
    (BluetoothWorker.dispatchMessage ofonoDBus calls (.callRemoved callPath)).2.bind
      CallNoti.write = some .idle := by
  simp only [BluetoothWorker.dispatchMessage, BluetoothWorker.handleCallRemoved,
    if_pos registered]
  rfl

theorem tracked_concat (paths : List String) (signals : List OfonoSignal) (signal : OfonoSignal) :
    tracked paths (signals ++ [signal]) = track (tracked paths signals) signal := by
  simp [tracked]

theorem outstanding_concat :
    Outstanding calls paths (signals ++ [signal]) ↔
      Outstanding calls paths signals ∨ Concerns calls (tracked paths signals) signal := by
  induction signals generalizing paths with
  | nil => simp [Outstanding, tracked]
  | cons first signals ih => simp [Outstanding, tracked, ih, or_assoc]

section Mirroring

variable (tells : OfonoCalls → List String → OfonoSignal → Prop) (down : OfonoCalls → Prop)
  (right : OfonoCalls → CallState → Prop)

/-- A reply, which writes `IDLE`, finds some signal outstanding, or the calls down. -/
def ReplyHarmless (state : CallProtocol) : Prop :=
  Outstanding state.calls state.ofonoDBus.activeCallPaths state.signals ∨ down state.calls

/-- No step leaves the mirror wrong without an outstanding signal, and every hang-up is answered. -/
def Announces (state : CallProtocol) : Action → Prop
  | .signal =>
      match state.signals with
      | [] => True
      | signal :: signals =>
          Outstanding state.calls (track state.ofonoDBus.activeCallPaths signal) signals ∨
            tells state.calls state.ofonoDBus.activeCallPaths signal
  | .mainEvent =>
      match state.commandQueue with
      | .hangupCall :: _ => state.ofonoDBus.modemPath ≠ ""
      | .dialCall _ :: _ => state.ofonoDBus.modemPath = "" → state.ReplyHarmless down
      | .answerCall :: _ => state.ofonoDBus.activeCallPaths = [] → state.ReplyHarmless down
      | [] => True
  | .mainScan => state.main = .scanning [] → state.ReplyHarmless down
  | .mainReply _ => state.ReplyHarmless down
  | .removeModem _ => state.calls.keys = []
  | _ => True

instance [∀ calls, Decidable (down calls)] (state : CallProtocol) :
    Decidable (ReplyHarmless down state) :=
  inferInstanceAs (Decidable (_ ∨ _))

instance [∀ calls paths signal, Decidable (tells calls paths signal)]
    [∀ calls, Decidable (down calls)] (state : CallProtocol) (action : Action) :
    Decidable (Announces tells down state action) := by
  unfold Announces
  repeat' split
  all_goals infer_instance

/-- In this state the first signal, if it tells, tells what is right, and `IDLE` suits a reply. -/
structure Truthful (state : CallProtocol) : Prop where
  told : ∀ signal signals, state.signals = signal :: signals →
    Concerns state.calls state.ofonoDBus.activeCallPaths signal →
      tells state.calls state.ofonoDBus.activeCallPaths signal →
        Outstanding state.calls (track state.ofonoDBus.activeCallPaths signal) signals ∨
          ∃ value, (BluetoothWorker.dispatchMessage state.ofonoDBus state.calls signal).2.bind
            CallNoti.write = some value ∧ right state.calls value
  down : down state.calls → right state.calls .idle

/-- The mirror is right once everything sent has arrived, or waits for a reply. -/
def MirrorsNow (state : CallProtocol) : Prop :=
  right state.calls state.settled ∨ state.writes = [] ∧ state.core.callState = .processing

/-- What the mirror says, or will say, about the calls. -/
structure Mirrored (state : CallProtocol) : Prop where
  registered : ∀ callPath ∈ state.calls,
    callPath ∈ tracked state.ofonoDBus.activeCallPaths state.signals
  answered : state.writes = [] → state.core.callState = .processing → state.CommandPending
  mirrors : Outstanding state.calls state.ofonoDBus.activeCallPaths state.signals ∨
    state.MirrorsNow right

variable {tells down right}

theorem mirrored_init (initial : right ∅ .idle) : protocol.init.Mirrored right where
  registered := by simp [protocol]
  answered := by simp [protocol]
  mirrors := Or.inr (Or.inl initial)

theorem writes_concat (noti : Option CallNoti) :
    writes { state with sent := state.sent ++ noti.toList } =
      state.writes ++ (noti.bind CallNoti.write).toList := by
  cases noti with
  | none => simp [writes]
  | some noti => cases written : noti.write <;> simp [writes, written]

/-- After a change of the calls some signal is outstanding, whatever the core does. -/
theorem Mirrored.change (mirrored : state.Mirrored right) {calls : OfonoCalls}
    {signal : OfonoSignal}
    (registered : ∀ callPath ∈ calls,
      callPath ∈ track (tracked state.ofonoDBus.activeCallPaths state.signals) signal)
    (concerns : Concerns calls (tracked state.ofonoDBus.activeCallPaths state.signals) signal) :
    Mirrored right { state with calls, signals := state.signals ++ [signal] } where
  registered := by
    rw [tracked_concat]
    exact registered
  answered := mirrored.answered
  mirrors := Or.inl (outstanding_concat.mpr (Or.inr concerns))

/-- A signal that is added while the calls stay the same. -/
theorem Mirrored.addSignal (mirrored : state.Mirrored right) {signal : OfonoSignal}
    (registered : ∀ callPath ∈ state.calls,
      callPath ∈ track (tracked state.ofonoDBus.activeCallPaths state.signals) signal) :
    Mirrored right { state with signals := state.signals ++ [signal] } where
  registered := by
    rw [tracked_concat]
    exact registered
  answered := mirrored.answered
  mirrors := mirrored.mirrors.imp_left fun outstanding =>
    outstanding_concat.mpr (Or.inl outstanding)

/-- A reply is sent to the core. -/
theorem Mirrored.reply (mirrored : state.Mirrored right) {main : CallMainPc}
    {commandQueue : List CallCommand} {noti : CallNoti} (writes : noti.write = some .idle)
    (truthful : state.Truthful tells down right) (harmless : state.ReplyHarmless down) :
    Mirrored right { state with main, commandQueue, sent := state.sent ++ [noti] } where
  registered := mirrored.registered
  answered := by
    intro none
    simp [CallProtocol.writes, writes] at none
  mirrors := by
    refine harmless.imp_right fun isDown => Or.inl ?_
    have settled : CallProtocol.settled
        { state with main, commandQueue, sent := state.sent ++ [noti] } = .idle := by
      simp [CallProtocol.settled, CallProtocol.writes, writes, ← List.append_assoc]
    rw [settled]
    exact truthful.down isDown

/-- An event that does not touch `CALL_STATE`. -/
theorem Mirrored.skip (mirrored : state.Mirrored right) {core : CallHandler}
    {event : CallCoreEvent} (found : state.core.eventQueue = event :: core.eventQueue)
    (silent : event.write = none) (same : core.callState = state.core.callState)
    (sent : core.sent = state.core.sent) : Mirrored right { state with core } := by
  have writes : CallProtocol.writes { state with core } = state.writes := by
    simp [CallProtocol.writes, found, silent]
  refine ⟨mirrored.registered, ?_, ?_⟩
  · rw [writes]
    simpa [same, CommandPending, sent] using mirrored.answered
  · simpa [MirrorsNow, CallProtocol.settled, writes, same] using mirrored.mirrors

/-- A client's command is forwarded. -/
theorem Mirrored.request (mirrored : state.Mirrored right) {event : CallCoreEvent}
    {eventQueue : List CallCoreEvent} (found : state.core.eventQueue = event :: eventQueue)
    (silent : event.write = none) (free : state.core.callState ≠ .processing)
    (command : CallCommand) :
    Mirrored right { state with core := { state.core with eventQueue }.request command } := by
  have writes : CallProtocol.writes
      { state with core := { state.core with eventQueue }.request command } = state.writes := by
    simp [CallProtocol.writes, CallHandler.request, found, silent]
  refine ⟨mirrored.registered, fun _ _ => ?_, mirrored.mirrors.imp_right fun mirrors => ?_⟩
  · exact Or.inr (Or.inr (by simp [CallHandler.request]))
  · rcases mirrors with isRight | ⟨-, processing⟩
    · by_cases none : state.writes = []
      · exact Or.inr ⟨writes.trans none, rfl⟩
      · left
        have settled : CallProtocol.settled
            { state with core := { state.core with eventQueue }.request command } =
            state.settled := by
          simp only [CallProtocol.settled]
          rw [writes]
          exact Mirror.settled_eq_of_ne_nil none _ _
        rw [settled]
        exact isRight
    · exact absurd processing free

/-- A value for `CALL_STATE` arrives. -/
theorem Mirrored.arrive (mirrored : state.Mirrored right) {core : CallHandler}
    {event : CallCoreEvent} (found : state.core.eventQueue = event :: core.eventQueue)
    (written : event.write = some core.callState) (decided : core.callState ≠ .processing) :
    Mirrored right { state with core } := by
  have writes : state.writes = core.callState :: CallProtocol.writes { state with core } := by
    simp [CallProtocol.writes, found, written]
  refine ⟨mirrored.registered, fun _ processing => absurd processing decided, ?_⟩
  apply mirrored.mirrors.imp_right
  intro mirrors
  rcases mirrors with isRight | ⟨none, -⟩
  · left
    simpa [CallProtocol.settled, writes] using isRight
  · simp [writes] at none

theorem changedState_ne_processing (state : String) :
    CallHandler.changedState state ≠ .processing := by
  simp only [CallHandler.changedState]
  repeat' split
  all_goals simp

theorem mirrored_coreEvent {core : CallHandler} (mirrored : state.Mirrored right)
    (processed : state.core.processEvent = some core) : Mirrored right { state with core } := by
  unfold CallHandler.processEvent at processed
  split at processed
  · simp at processed
  · next event eventQueue found =>
      simp only at processed
      split at processed <;> cases processed
      · simp only [CallHandler.dialCall]
        split
        · next idle => exact mirrored.request found rfl (by simp_all) _
        all_goals exact mirrored.skip found rfl rfl rfl
      · simp only [CallHandler.hangupCall]
        split
        iterate 3
          · next up => exact mirrored.request found rfl (by simp_all) _
        all_goals exact mirrored.skip found rfl rfl rfl
      · simp only [CallHandler.answerCall]
        split
        · next incoming => exact mirrored.request found rfl (by simp_all) _
        all_goals exact mirrored.skip found rfl rfl rfl
      · exact mirrored.arrive found rfl (by simp [CallHandler.incomingCallNOTI,
          CallHandler.showCall])
      · exact mirrored.arrive found rfl (by simp [CallHandler.outgoingCallNOTI,
          CallHandler.showCall])
      · exact mirrored.arrive found rfl (changedState_ne_processing _)
      · exact mirrored.arrive found rfl (by simp [CallHandler.callEndedNOTI,
          CallHandler.showCall])
      · exact mirrored.arrive found rfl (by simp [CallHandler.dialCallNOTI,
          CallHandler.showReply])
      · exact mirrored.arrive found rfl (by simp [CallHandler.answerCallNOTI,
          CallHandler.showReply])
      · exact mirrored.arrive found rfl (by simp [CallHandler.hangupCallNOTI,
          CallHandler.showReply])
      · exact mirrored.skip found rfl rfl rfl

/-- MainWorker goes on with a command without a reply. -/
theorem Mirrored.proceed (mirrored : state.Mirrored right) {main : CallMainPc}
    {commandQueue : List CallCommand} (busy : main ≠ .idle) :
    Mirrored right { state with commandQueue, main } where
  registered := mirrored.registered
  answered := fun _ _ => Or.inl busy
  mirrors := mirrored.mirrors

theorem mirrored_mainEvent (mirrored : state.Mirrored right)
    (truthful : state.Truthful tells down right) (good : state.Announces tells down .mainEvent)
    (stepped : state.step .mainEvent = some next) :
    next.Mirrored right := by
  simp only [step] at stepped
  split at stepped
  · next command commandQueue idle found =>
      cases stepped
      simp only [Announces, found] at good
      cases command with
      | dialCall number =>
          simp only [OfonoDBus.processCommand]
          split
          · next noModem => exact mirrored.reply rfl truthful (good noModem)
          · simpa using mirrored.proceed (by simp)
      | hangupCall =>
          simp only [OfonoDBus.processCommand]
          split
          · next noModem => exact absurd noModem good
          · simpa using mirrored.proceed (by simp)
      | answerCall =>
          simp only [OfonoDBus.processCommand]
          split
          · next noCall => exact mirrored.reply rfl truthful (good noCall)
          · simpa using mirrored.proceed (by simp)
  · simp at stepped

theorem mirrored_mainScan (mirrored : state.Mirrored right)
    (truthful : state.Truthful tells down right) (good : state.Announces tells down .mainScan)
    (stepped : state.step .mainScan = some next) :
    next.Mirrored right := by
  simp only [step] at stepped
  split at stepped
  · next remaining scanning =>
      cases stepped
      cases remaining with
      | nil => exact mirrored.reply rfl truthful (good scanning)
      | cons callPath remaining =>
          simp only [OfonoDBus.scanStep]
          split <;> simpa using mirrored.proceed (by simp)
  · simp at stepped

theorem write_methodReply {main : CallMainPc} {outcome : MethodOutcome} {noti : CallNoti}
    (replied : OfonoDBus.methodReply main outcome = some noti) : noti.write = some .idle := by
  cases main <;> cases outcome <;> simp only [OfonoDBus.methodReply, Option.some.injEq,
    reduceCtorEq] at replied <;> rw [← replied] <;> rfl

/-- What is sent for a signal is right, or there is nothing to send, or more signals follow. -/
theorem Mirrored.handled (mirrored : state.Mirrored right) {ofonoDBus : OfonoDBus}
    {signals : List OfonoSignal} {noti : Option CallNoti}
    (registered : ∀ callPath ∈ state.calls,
      callPath ∈ tracked ofonoDBus.activeCallPaths signals)
    (mirrors : Outstanding state.calls ofonoDBus.activeCallPaths signals ∨
      match noti.bind CallNoti.write with
      | some value => right state.calls value
      | none => state.MirrorsNow right) :
    Mirrored right { state with signals, ofonoDBus, sent := state.sent ++ noti.toList } := by
  have writes : CallProtocol.writes
      { state with signals, ofonoDBus, sent := state.sent ++ noti.toList } =
        state.writes ++ (noti.bind CallNoti.write).toList := writes_concat noti
  refine ⟨registered, ?_, mirrors.imp_right fun mirrors => ?_⟩
  · rw [writes]
    intro none
    exact mirrored.answered (List.append_eq_nil_iff.mp none).1
  · simp only [MirrorsNow, CallProtocol.settled]
    rw [writes]
    cases written : noti.bind CallNoti.write with
    | none =>
        rw [written] at mirrors
        simpa [MirrorsNow, CallProtocol.settled] using mirrors
    | some value =>
        rw [written] at mirrors
        left
        simpa using mirrors

theorem mirrored_signal (mirrored : state.Mirrored right)
    (truthful : state.Truthful tells down right) (good : state.Announces tells down .signal)
    (stepped : state.step .signal = some next) :
    next.Mirrored right := by
  simp only [step] at stepped
  split at stepped
  · next signal signals idle found =>
      cases stepped
      have registered := mirrored.registered
      have mirrors := mirrored.mirrors
      simp only [found, tracked, List.foldl_cons, Outstanding] at registered mirrors
      simp only [Announces, found] at good
      rw [← activeCallPaths_dispatchMessage state.ofonoDBus state.calls signal] at registered
      rw [← activeCallPaths_dispatchMessage state.ofonoDBus state.calls signal] at mirrors
      apply mirrored.handled registered
      by_cases concerned : Concerns state.calls state.ofonoDBus.activeCallPaths signal
      · rw [activeCallPaths_dispatchMessage]
        rcases good with outstanding | tells
        · exact Or.inl outstanding
        · apply (truthful.told signal signals found concerned tells).imp_right
          intro told
          rcases told with ⟨value, written, isRight⟩
          rw [written]
          exact isRight
      · rw [write_dispatchMessage_of_not_concerns concerned]
        rcases mirrors with (concerns | outstanding) | mirrors
        · exact absurd concerns concerned
        · exact Or.inl outstanding
        · exact Or.inr mirrors
  · simp at stepped

theorem mirrored_receiveNoti (mirrored : state.Mirrored right) {noti : CallNoti}
    {sent : List CallNoti} (found : state.sent = noti :: sent) :
    Mirrored right { state with sent, core := state.core.handleMessageNoti noti } := by
  have same : CallProtocol.writes
      { state with sent, core := state.core.handleMessageNoti noti } = state.writes := by
    cases noti with
    | call command isSuccess info =>
        cases isSuccess <;>
          simp [CallProtocol.writes, found, CallHandler.handleMessageNoti, CallNoti.write,
            CallCoreEvent.write]
    | reply command isSuccess message =>
        cases written : command.write <;>
          simp [CallProtocol.writes, found, CallHandler.handleMessageNoti, CallNoti.write,
            CallCoreEvent.write, written]
  have callState : (state.core.handleMessageNoti noti).callState = state.core.callState := by
    cases noti with
    | call command isSuccess info => cases isSuccess <;> rfl
    | reply => rfl
  have commands : (state.core.handleMessageNoti noti).sent = state.core.sent := by
    cases noti with
    | call command isSuccess info => cases isSuccess <;> rfl
    | reply => rfl
  refine ⟨mirrored.registered, ?_, ?_⟩
  · rw [same]
    simpa [CommandPending, callState, commands] using mirrored.answered
  · simpa [MirrorsNow, CallProtocol.settled, same, callState] using mirrored.mirrors

theorem mirrored_step {action : Action} (mirrored : state.Mirrored right)
    (truthful : state.Truthful tells down right) (good : state.Announces tells down action)
    (stepped : state.step action = some next) :
    next.Mirrored right := by
  cases action with
  | client command =>
      cases stepped
      have same : CallProtocol.writes { state with core := { state.core with
          eventQueue := state.core.eventQueue ++ [clientEvent command] } } = state.writes := by
        cases command <;> simp [writes, clientEvent, CallCoreEvent.write]
      refine ⟨mirrored.registered, ?_, ?_⟩
      · rw [same]
        exact mirrored.answered
      · simpa [MirrorsNow, settled, same] using mirrored.mirrors
  | coreEvent =>
      rcases Option.map_eq_some_iff.mp stepped with ⟨core, processed, rfl⟩
      exact mirrored_coreEvent mirrored processed
  | receiveNoti =>
      simp only [step] at stepped
      split at stepped
      · simp at stepped
      · next found =>
          cases stepped
          exact mirrored_receiveNoti mirrored found
  | receiveCommand =>
      simp only [step] at stepped
      split at stepped
      · simp at stepped
      · next command sent found =>
          cases stepped
          exact ⟨mirrored.registered, fun _ _ => Or.inr (Or.inl (by simp)), mirrored.mirrors⟩
  | mainEvent => exact mirrored_mainEvent mirrored truthful good stepped
  | mainScan => exact mirrored_mainScan mirrored truthful good stepped
  | mainReply outcome =>
      rcases Option.map_eq_some_iff.mp stepped with ⟨noti, replied, rfl⟩
      exact mirrored.reply (write_methodReply replied) truthful good
  | signal => exact mirrored_signal mirrored truthful good stepped
  | addCall callPath number callState =>
      simp only [step] at stepped
      split at stepped
      · simp at stepped
      · cases stepped
        refine mirrored.change ?_ (by simp [Concerns])
        intro path present
        rw [track, OfonoDBus.mem_insertPath]
        exact ((AList.mem_insert _).mp present).imp_right (mirrored.registered path)
  | changeState callPath callState =>
      rcases Option.map_eq_some_iff.mp stepped with ⟨call, found, rfl⟩
      refine mirrored.change ?_ (by simp [Concerns])
      intro path present
      rcases (AList.mem_insert _).mp present with rfl | present
      · exact mirrored.registered path (mem_of_lookup found)
      · exact mirrored.registered path present
  | removeCall callPath =>
      simp only [step] at stepped
      split at stepped
      · next present =>
          cases stepped
          refine mirrored.change ?_ (mirrored.registered callPath present)
          intro path kept
          rcases AList.mem_erase.mp kept with ⟨differs, kept⟩
          simp only [track, List.mem_filter]
          exact ⟨mirrored.registered path kept, by simpa using differs⟩
      · simp at stepped
  | changeProperty callPath key =>
      cases stepped
      exact mirrored.addSignal mirrored.registered
  | addModem modemPath =>
      cases stepped
      exact mirrored.addSignal mirrored.registered
  | removeModem modemPath =>
      cases stepped
      apply mirrored.addSignal
      intro path present
      have none : state.calls.keys = [] := good
      rw [AList.mem_keys, none] at present
      simp at present
  | addContact number name =>
      cases stepped
      exact { mirrored with }

/-- A quiescent state is right, and its `CALL_STATE` is not `PROCESSING`. -/
theorem Mirrored.right_of_quiescent (mirrored : state.Mirrored right)
    (quiescent : state.Quiescent) :
    right state.calls state.core.callState ∧ state.core.callState ≠ .processing := by
  have writes : state.writes = [] := by
    simp [CallProtocol.writes, quiescent.coreQueue, quiescent.notis]
  have decided : state.core.callState ≠ .processing := fun processing =>
    quiescent.noCommand (mirrored.answered writes processing)
  refine ⟨?_, decided⟩
  rcases mirrored.mirrors with outstanding | isRight | ⟨-, processing⟩
  · simp [quiescent.signals, Outstanding] at outstanding
  · simpa [CallProtocol.settled, writes] using isRight
  · exact absurd processing decided

end Mirroring

/-- A command of a client, up to its execution by MainWorker. -/
def commandRuns (command : CallCommand) : List Action :=
  [.client command, .coreEvent, .receiveCommand, .mainEvent]

/-- A reply reaches the core and is handled. -/
def replyArrives : List Action := [.receiveNoti, .coreEvent]

/-- A signal is handled by the worker, and its notification by the core. -/
def signalArrives : List Action := .signal :: replyArrives

end CallProtocol

end RaspberryPiService
