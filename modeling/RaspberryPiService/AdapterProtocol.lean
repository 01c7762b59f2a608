import RaspberryPiService.CoreManager.AdapterHandler
import RaspberryPiService.Transition.Mirror
import RaspberryPiService.Transition.Runs

/-!
# The core's mirror of the adapter

BlueZ, the hardware manager and the core are composed into one system. BlueZ signals every
change of `Powered` and `Discovering`, and answers a method call with an error, which
changes nothing, or does what is asked for. `StopDiscovery` fails while nothing is being
discovered; `Discovering` may drop by itself, and `Powered` may change by itself. All
queues and channels are in order and lose nothing. The system may start in any state of
the adapter, with any notifications of the hardware manager's start-up in flight.

Each property is mirrored separately, and the argument is the same for both. A signal or
a report of `initializeAdapter` that is still to come will put the mirror right. Without
one, everything sent so far tells the value of the property; the mirror is `PROCESSING`
only for a command that asks for the other value, and that will have a signal or an error
reply. What breaks this is a command that fails although the property has the value asked
for, because a failure is taken to mean the opposite, and a `Set` without a message, which
nobody reports.
-/

namespace RaspberryPiService

/-- Where MainWorker is in a command; it holds the mutex unless it is idle. -/
inductive AdapterMainPc where
  | idle
  | calling (command : AdapterCommand)
  | returned (command : AdapterCommand) (error : Option String)
  | gettingManagedObjects
  | gotManagedObjects (adapter : Option Adapter)
  -- an exception in `initializeAdapter` ends the process
  | terminated

/-- The value of the property that a notification will write to its mirror. -/
def AdapterNoti.write (property : AdapterProperty) (noti : AdapterNoti) : Option SwitchState :=
  if noti.command.property = property then some (.of noti.told) else none

def AdapterEvent.write (property : AdapterProperty) : AdapterEvent → Option SwitchState
  | .command _ => none
  | .noti shown => shown.write property

/-- What a command asks for, if it concerns the property. -/
def AdapterCommand.asks (property : AdapterProperty) (command : AdapterCommand) : Option Bool :=
  if command.property = property then some command.target else none

def AdapterMessage.asks (property : AdapterProperty) : AdapterMessage → Option Bool
  | .command forwarded => forwarded.asks property
  | .initializeBluetooth => none

/-- What MainWorker has asked for without an answer yet, or with an error for an answer. -/
def AdapterMainPc.asks (property : AdapterProperty) : AdapterMainPc → Option Bool
  | .calling command | .returned command (some _) => command.asks property
  | _ => none

@[simp] theorem AdapterEvent.write_command (property : AdapterProperty)
    (command : AdapterCommand) : AdapterEvent.write property (.command command) = none := rfl

@[simp] theorem AdapterEvent.write_noti (property : AdapterProperty) (noti : AdapterNoti) :
    AdapterEvent.write property (.noti noti) = noti.write property := rfl

@[simp] theorem AdapterMessage.asks_command (property : AdapterProperty)
    (command : AdapterCommand) :
    AdapterMessage.asks property (.command command) = command.asks property := rfl

def AdapterMainPc.isIdle : AdapterMainPc → Bool
  | .idle => true
  | _ => false

theorem AdapterMainPc.isIdle_iff {pc : AdapterMainPc} : pc.isIdle = true ↔ pc = .idle := by
  cases pc <;> simp [isIdle]

/-- The adapter's properties are about to be reported. -/
def AdapterMainPc.Reporting : AdapterMainPc → Prop
  | .gettingManagedObjects | .gotManagedObjects _ => True
  | .idle | .calling _ | .returned _ _ | .terminated => False

structure AdapterProtocol where
  adapter : Adapter
  signals : List (AdapterProperty × Bool) := []
  commandQueue : List AdapterMessage := []
  main : AdapterMainPc := .idle
  sent : List AdapterNoti := []
  core : AdapterHandler := {}
  -- an `INITIALIZE_BLUETOOTH` has been processed
  initialized : Bool := false

namespace AdapterProtocol

inductive Action where
  | client (command : AdapterCommand)
  | join
  | coreEvent
  | receiveNoti
  | receiveCommand
  | mainEvent (created : Bool)
  | bluez (error : Option String)
  | mainReply
  | signal
  | change (property : AdapterProperty) (value : Bool)
deriving DecidableEq

/-- The property gets a value, which is signalled if it is a new one. -/
def assign (state : AdapterProtocol) (property : AdapterProperty) (value : Bool) :
    AdapterProtocol :=
  if state.adapter property = value then state
  else { state with
    adapter := Function.update state.adapter property value
    signals := state.signals ++ [(property, value)] }

def step (state : AdapterProtocol) : Action → Option AdapterProtocol
  | .client command =>
      some { state with core := { state.core with
        eventQueue := state.core.eventQueue ++ [.command command] } }
  | .join => some { state with core := state.core.join }
  | .coreEvent => state.core.processEvent.map fun core => { state with core }
  | .receiveNoti =>
      match state.sent with
      | [] => none
      | noti :: sent => some { state with sent, core := state.core.handleMessageNoti noti }
  | .receiveCommand =>
      match state.core.sent with
      | [] => none
      | message :: sent =>
          some { state with
            core := { state.core with sent }
            commandQueue := state.commandQueue ++ [message] }
  | .mainEvent created =>
      match state.main, state.commandQueue with
      | .idle, .command command :: commandQueue =>
          if created then some { state with commandQueue, main := .calling command }
          else some { state with
            commandQueue
            sent := state.sent ++ (BluezDBus.execute command .notCreated).toList }
      | .idle, .initializeBluetooth :: commandQueue =>
          some { state with
            commandQueue
            main := if created then .gettingManagedObjects else .terminated }
      | _, _ => none
  | .bluez error =>
      match state.main with
      | .calling command =>
          match error with
          | some error => some { state with main := .returned command (some error) }
          | none =>
              if command = .stopScanBTDevice ∧ state.adapter .discovering = false then none
              else some { state.assign command.property command.target with
                main := .returned command none }
      | .gettingManagedObjects =>
          some { state with
            main := .gotManagedObjects (if error = none then some state.adapter else none) }
      | _ => none
  | .mainReply =>
      match state.main with
      | .returned command error =>
          let outcome := match error with
            | some error => .error error
            | none => .success
          some { state with
            main := .idle
            sent := state.sent ++ (BluezDBus.execute command outcome).toList }
      | .gotManagedObjects (some adapter) =>
          some { state with
            main := .idle
            initialized := true
            sent := state.sent ++ BluezDBus.parseManagedObjects adapter }
      | .gotManagedObjects none => some { state with main := .terminated }
      | _ => none
  | .signal =>
      match state.main, state.signals with
      | .idle, (property, value) :: signals =>
          some { state with
            signals
            sent := state.sent ++
              [BluetoothWorker.handleAdapterPropertyChanged property value] }
      | _, _ => none
  | .change property value =>
      if state.adapter property = value ∨ property = .discovering ∧ value = true then none
      else some (state.assign property value)

def protocol (adapter : Adapter) (sent : List AdapterNoti) : System AdapterProtocol Action where
  init := { adapter, sent }
  step := step

variable (property : AdapterProperty)

/-- The values that will still overwrite the mirror of the property. -/
def writes (state : AdapterProtocol) : List SwitchState :=
  state.core.eventQueue.filterMap (AdapterEvent.write property) ++
    state.sent.filterMap (AdapterNoti.write property)

def settled (state : AdapterProtocol) : SwitchState :=
  Mirror.settled (state.core.stateView property) (state.writes property)

/-- The values of the property that are still to be signalled to the core. -/
def signalled (state : AdapterProtocol) : List Bool :=
  state.signals.filterMap fun signal => if signal.1 = property then some signal.2 else none

/-- What the commands ask for that are still to be executed, or to be reported as failed. -/
def pending (state : AdapterProtocol) : List Bool :=
  (state.main.asks property).toList ++
    state.commandQueue.filterMap (AdapterMessage.asks property) ++
      state.core.sent.filterMap (AdapterMessage.asks property)

/-- The core has not been told the value yet, or is going to be told again. -/
def Unsettled (state : AdapterProtocol) : Prop :=
  state.initialized = false ∨ state.signalled property ≠ [] ∨
    state.main.Reporting ∨ .initializeBluetooth ∈ state.commandQueue ∨
      .initializeBluetooth ∈ state.core.sent

/-- The core is `PROCESSING` for a command, and for none after it. -/
def Awaited (state : AdapterProtocol) (later : List AdapterMessage) : Prop :=
  state.writes property = [] ∧ state.core.stateView property = .processing ∧
    (later ++ state.core.sent).filterMap (AdapterMessage.asks property) = []

/-- A command without a message either has the right failure reported, or is not waited for. -/
def GivesUpTruly (state : AdapterProtocol) : List AdapterMessage → Prop
  | .command command :: later => command.property = property →
      state.Unsettled property ∨
        if (BluezDBus.execute command .notCreated).isSome then
          state.adapter property = !command.target
        else ¬ state.Awaited property later
  | .initializeBluetooth :: _ | [] => True

/-- An error reply comes while the property has the opposite of what was asked for. -/
def RepliesTruly (state : AdapterProtocol) : AdapterMainPc → Prop
  | .returned command (some _) => command.property = property →
      state.Unsettled property ∨ state.adapter property = !command.target
  | _ => True

/--
A command fails only where its failure means the opposite of what it asked for, and no
command is given up without a report while the core waits for it.
-/
def FailsTruly (state : AdapterProtocol) : Action → Prop
  | .mainEvent created => created = false → state.GivesUpTruly property state.commandQueue
  | .mainReply => state.RepliesTruly property state.main
  | _ => True

/-- Nothing is in flight, queued or being executed. -/
structure Quiescent (state : AdapterProtocol) : Prop where
  signals : state.signals = []
  coreQueue : state.core.eventQueue = []
  notis : state.sent = []
  commands : state.core.sent = []
  commandQueue : state.commandQueue = []
  main : state.main = .idle

/-- The mirror is right once everything sent has arrived, or waits for a command to be executed. -/
def MirrorsNow (state : AdapterProtocol) : Prop :=
  state.settled property = .of (state.adapter property) ∨
    state.writes property = [] ∧ state.core.stateView property = .processing ∧
      (state.pending property).getLast? = some (!state.adapter property)

/-- What the mirror of the property says, or will say. -/
structure Mirrored (state : AdapterProtocol) : Prop where
  lastSignal : Mirror.settled (state.adapter property) (state.signalled property) =
    state.adapter property
  snapshot : ∀ adapter, state.main = .gotManagedObjects (some adapter) →
    adapter property = state.adapter property ∨ state.signalled property ≠ []
  mirrors : state.main = .terminated ∨ state.Unsettled property ∨ state.MirrorsNow property

variable {property} {state next : AdapterProtocol}

@[simp] theorem SwitchState.of_ne_processing (value : Bool) :
    SwitchState.of value ≠ .processing := by
  cases value <;> simp [SwitchState.of]

@[simp] theorem SwitchState.of_inj {first second : Bool} :
    SwitchState.of first = .of second ↔ first = second := by
  cases first <;> cases second <;> simp [SwitchState.of]

theorem mirrored_init (adapter : Adapter) (sent : List AdapterNoti) :
    (protocol adapter sent).init.Mirrored property where
  lastSignal := rfl
  snapshot := by simp [protocol]
  mirrors := Or.inr (Or.inl (Or.inl rfl))

section Assign

variable (state) (changed : AdapterProperty) (value : Bool)

@[simp] theorem adapter_assign :
    (state.assign changed value).adapter = Function.update state.adapter changed value := by
  unfold assign
  split
  · next same => simp [← same]
  · rfl

@[simp] theorem main_assign : (state.assign changed value).main = state.main := by
  unfold assign
  split <;> rfl

@[simp] theorem commandQueue_assign :
    (state.assign changed value).commandQueue = state.commandQueue := by
  unfold assign
  split <;> rfl

@[simp] theorem sent_assign : (state.assign changed value).sent = state.sent := by
  unfold assign
  split <;> rfl

@[simp] theorem core_assign : (state.assign changed value).core = state.core := by
  unfold assign
  split <;> rfl

@[simp] theorem initialized_assign :
    (state.assign changed value).initialized = state.initialized := by
  unfold assign
  split <;> rfl

/-- Exactly the new values are signalled. -/
theorem signalled_assign : (state.assign changed value).signalled property =
    state.signalled property ++
      if changed = property ∧ state.adapter property ≠ value then [value] else [] := by
  unfold assign signalled
  split
  · next same =>
      rw [if_neg]
      · simp
      · rintro ⟨rfl, new⟩
        exact new same
  · next new =>
      by_cases concerned : changed = property
      · subst concerned
        simp [new]
      · simp [concerned]

end Assign

/-- A step of the core or of a channel leaves the adapter, its signals and MainWorker alone. -/
theorem Mirrored.keep (mirrored : state.Mirrored property)
    (unsettled : state.Unsettled property → next.Unsettled property)
    (mirrors : state.MirrorsNow property → next.MirrorsNow property)
    (adapter : next.adapter = state.adapter)
    (signals : next.signals = state.signals)
    (main : next.main = state.main) : next.Mirrored property where
  lastSignal := by simpa [signalled, adapter, signals] using mirrored.lastSignal
  snapshot := by simpa [signalled, adapter, signals, main] using mirrored.snapshot
  mirrors := by
    rw [main]
    exact mirrored.mirrors.imp_right (Or.imp unsettled mirrors)

/-- The same for a step that leaves the pending writes and commands as they are. -/
theorem Mirrored.same (mirrored : state.Mirrored property)
    (unsettled : state.Unsettled property → next.Unsettled property)
    (writes : next.writes property = state.writes property)
    (pending : next.pending property = state.pending property)
    (stateView : next.core.stateView property = state.core.stateView property)
    (adapter : next.adapter = state.adapter)
    (signals : next.signals = state.signals)
    (main : next.main = state.main) : next.Mirrored property := by
  refine mirrored.keep unsettled ?_ adapter signals main
  simp [MirrorsNow, settled, writes, stateView, pending, adapter]

theorem Mirrored.client (mirrored : state.Mirrored property) (command : AdapterCommand) :
    Mirrored property { state with core := { state.core with
      eventQueue := state.core.eventQueue ++ [.command command] } } := by
  refine mirrored.same id ?_ rfl rfl rfl rfl rfl
  simp [writes, AdapterEvent.write]

/-- Whoever joins has the adapter reported again. -/
theorem Mirrored.join (mirrored : state.Mirrored property) :
    Mirrored property { state with core := state.core.join } where
  lastSignal := mirrored.lastSignal
  snapshot := mirrored.snapshot
  mirrors := by
    refine Or.inr (Or.inl (Or.inr (Or.inr (Or.inr (Or.inr ?_)))))
    simp [AdapterHandler.join]

theorem Mirrored.receiveNoti (mirrored : state.Mirrored property) {noti : AdapterNoti}
    {sent : List AdapterNoti} (found : state.sent = noti :: sent) :
    Mirrored property { state with sent, core := state.core.handleMessageNoti noti } := by
  refine mirrored.same id ?_ rfl rfl rfl rfl rfl
  simp only [writes, AdapterHandler.handleMessageNoti, found, List.filterMap_append,
    List.filterMap_cons, List.filterMap_nil, AdapterEvent.write]
  cases noti.write property <;> simp

theorem Mirrored.receiveCommand (mirrored : state.Mirrored property) {message : AdapterMessage}
    {sent : List AdapterMessage} (found : state.core.sent = message :: sent) :
    Mirrored property { state with
      core := { state.core with sent }, commandQueue := state.commandQueue ++ [message] } := by
  refine mirrored.same ?_ rfl ?_ rfl rfl rfl rfl
  rotate_left
  · simp only [pending, found, List.filterMap_append, List.filterMap_cons, List.filterMap_nil]
    cases message.asks property <;> simp
  · rintro (fresh | signalled | reporting | queued | sending)
    · exact Or.inl fresh
    · exact Or.inr (Or.inl signalled)
    · exact Or.inr (Or.inr (Or.inl reporting))
    · exact Or.inr (Or.inr (Or.inr (Or.inl (List.mem_append_left _ queued))))
    · rw [found] at sending
      rcases List.mem_cons.mp sending with rfl | sending
      · exact Or.inr (Or.inr (Or.inr (Or.inl (by simp))))
      · exact Or.inr (Or.inr (Or.inr (Or.inr sending)))

/-- A client's command is forwarded. -/
theorem Mirrored.forward (mirrored : state.Mirrored property) {command : AdapterCommand}
    {eventQueue : List AdapterEvent}
    (found : state.core.eventQueue = .command command :: eventQueue)
    (opposite : state.core.stateView command.property = .of (!command.target)) :
    Mirrored property { state with core := { state.core with
      eventQueue
      stateView := Function.update state.core.stateView command.property .processing
      sent := state.core.sent ++ [.command command] } } := by
  have same : state.writes property = writes property { state with core := { state.core with
      eventQueue
      stateView := Function.update state.core.stateView command.property .processing
      sent := state.core.sent ++ [.command command] } } := by
    simp [writes, found, List.filterMap_cons]
  refine mirrored.keep ?_ ?_ rfl rfl rfl
  · simp only [Unsettled, List.mem_append]
    tauto
  intro mirrors
  by_cases concerned : command.property = property
  · subst concerned
    rcases mirrors with right | ⟨-, processing, -⟩
    · by_cases none : state.writes command.property = []
      · right
        have now : state.adapter command.property = !command.target := by
          simpa [settled, none, opposite, eq_comm] using right
        refine ⟨same ▸ none, by simp, ?_⟩
        simp [pending, AdapterCommand.asks, now, ← List.append_assoc]
      · left
        rw [← right]
        simp only [settled, ← same]
        exact Mirror.settled_eq_of_ne_nil none _ _
    · rw [opposite] at processing
      exact absurd processing (SwitchState.of_ne_processing _)
  · have other : property ≠ command.property := Ne.symm concerned
    simpa only [MirrorsNow, settled, ← same, Function.update_of_ne other, pending,
      List.filterMap_append, List.filterMap_cons, List.filterMap_nil, AdapterMessage.asks_command,
      AdapterCommand.asks, if_neg concerned, List.append_nil] using mirrors

/-- A client's command is forwarded, or dropped because the mirror does not call for it. -/
theorem Mirrored.request (mirrored : state.Mirrored property) {command : AdapterCommand}
    {eventQueue : List AdapterEvent}
    (found : state.core.eventQueue = .command command :: eventQueue) :
    Mirrored property { state with core := { state.core with eventQueue }.request command } := by
  unfold AdapterHandler.request
  split
  · next opposite => exact mirrored.forward found opposite
  · exact mirrored.same id (by simp [writes, found, List.filterMap_cons]) rfl rfl rfl rfl rfl

/-- A notification arrives. -/
theorem Mirrored.arrive (mirrored : state.Mirrored property) {noti : AdapterNoti}
    {eventQueue : List AdapterEvent} (found : state.core.eventQueue = .noti noti :: eventQueue)
    (name : String) :
    Mirrored property { state with core := { state.core with eventQueue }.notify noti name } := by
  have same : state.writes property = (noti.write property).toList ++
      writes property { state with core := { state.core with eventQueue }.notify noti name } := by
    simp only [writes, found, List.filterMap_cons, AdapterEvent.write_noti,
      AdapterHandler.notify]
    cases noti.write property <;> rfl
  unfold AdapterHandler.notify at same ⊢
  refine mirrored.keep id (fun mirrors => ?_) rfl rfl rfl
  by_cases concerned : noti.command.property = property
  · simp only [AdapterNoti.write, if_pos concerned] at same
    rcases mirrors with right | ⟨none, -⟩
    · left
      rw [← right, settled, settled, same]
      simp [← concerned]
    · simp [same] at none
  · have other : property ≠ noti.command.property := Ne.symm concerned
    simp only [AdapterNoti.write, if_neg concerned, Option.toList_none,
      List.nil_append] at same
    simpa only [MirrorsNow, settled, ← same, Function.update_of_ne other, pending] using mirrors

/-- The first of the pending commands is answered as it is already, and so not the last. -/
theorem getLast?_of_cons {asked : Bool} {later : List Bool}
    (last : (asked :: later).getLast? = some !asked) : later.getLast? = some !asked := by
  rw [List.getLast?_cons] at last
  cases found : later.getLast? with
  | none => simp [found] at last
  | some value => simpa [found] using last

/-- A step of MainWorker that leaves the adapter and its signals alone. -/
theorem Mirrored.proceed (mirrored : state.Mirrored property) (running : state.main ≠ .terminated)
    (noSnapshot : ∀ adapter, next.main ≠ .gotManagedObjects (some adapter))
    (unsettled : state.Unsettled property → next.Unsettled property)
    (mirrors : state.MirrorsNow property → next.Unsettled property ∨ next.MirrorsNow property)
    (adapter : next.adapter = state.adapter)
    (signals : next.signals = state.signals) : next.Mirrored property where
  lastSignal := by simpa [signalled, adapter, signals] using mirrored.lastSignal
  snapshot := fun snapshot got => absurd got (noSnapshot snapshot)
  mirrors := by
    right
    rcases mirrored.mirrors with stopped | isUnsettled | now
    · exact absurd stopped running
    · exact Or.inl (unsettled isUnsettled)
    · exact mirrors now

/-- A failure is reported, which means the opposite of what was asked for. -/
theorem Mirrored.fail (mirrored : state.Mirrored property) (running : state.main ≠ .terminated)
    {command : AdapterCommand} {outcome : MethodOutcome} {noti : AdapterNoti}
    (told : BluezDBus.execute command outcome = some noti) {commandQueue : List AdapterMessage}
    (pending : state.pending property = (command.asks property).toList ++
      AdapterProtocol.pending property { state with commandQueue, main := .idle })
    (unsettled : state.Unsettled property →
      AdapterProtocol.Unsettled property { state with commandQueue, main := .idle })
    (truly : command.property = property →
      state.Unsettled property ∨ state.adapter property = !command.target) :
    Mirrored property { state with
      commandQueue, main := .idle, sent := state.sent ++ [noti] } := by
  rcases BluezDBus.told_execute told with ⟨rfl, told⟩
  refine mirrored.proceed running (by simp) unsettled (fun mirrors => ?_) rfl rfl
  by_cases concerned : noti.command.property = property
  · refine (truly concerned).imp unsettled fun opposite => Or.inl ?_
    simp [settled, writes, AdapterNoti.write, concerned, told, opposite,
      ← List.append_assoc]
  · right
    have same : AdapterProtocol.pending property { state with commandQueue, main := .idle } =
        state.pending property := by
      simp [pending, AdapterCommand.asks, concerned]
    have writes : writes property { state with
        commandQueue, main := .idle, sent := state.sent ++ [noti] } =
        state.writes property := by
      simp [writes, AdapterNoti.write, concerned]
    simp only [MirrorsNow, settled, writes]
    simp only [MirrorsNow, ← same] at mirrors
    exact mirrors

/-- BlueZ has done what the command asked for: only a signal tells. -/
theorem Mirrored.succeed (mirrored : state.Mirrored property) {command : AdapterCommand}
    (calling : state.main = .calling command)
    (done : state.adapter command.property = command.target) :
    Mirrored property { state with main := .returned command none } := by
  have running : state.main ≠ .terminated := by simp [calling]
  refine mirrored.proceed running (by simp) ?_ (fun mirrors => Or.inr ?_) rfl rfl
  · simp [Unsettled, calling, AdapterMainPc.Reporting, signalled]
  refine mirrors.imp_right fun ⟨arrived, processing, last⟩ => ⟨arrived, processing, ?_⟩
  by_cases concerned : command.property = property
  · subst concerned
    simp only [pending, calling, AdapterMainPc.asks, AdapterCommand.asks, if_pos,
      Option.toList_some, List.singleton_append, done] at last
    simpa [pending, AdapterMainPc.asks, done] using getLast?_of_cons last
  · simpa [pending, calling, AdapterMainPc.asks, AdapterCommand.asks, concerned] using last

/-- A new value is signalled, and a signal will put the mirror right. -/
theorem Mirrored.assign (mirrored : state.Mirrored property) (changed : AdapterProperty)
    (value : Bool) : (state.assign changed value).Mirrored property := by
  by_cases new : changed = property ∧ state.adapter property ≠ value
  · have signals : (state.assign changed value).signalled property =
        state.signalled property ++ [value] := by
      rw [signalled_assign, if_pos new]
    have outstanding : (state.assign changed value).signalled property ≠ [] := by
      simp [signals]
    refine ⟨?_, fun _ _ => Or.inr outstanding, Or.inr (Or.inl (Or.inr (Or.inl outstanding)))⟩
    rw [signals, Mirror.settled_concat, adapter_assign, new.1, Function.update_self]
  · have signals : (state.assign changed value).signalled property =
        state.signalled property := by
      rw [signalled_assign, if_neg new, List.append_nil]
    have adapter : (state.assign changed value).adapter property = state.adapter property := by
      rw [adapter_assign]
      by_cases concerned : changed = property
      · subst concerned
        simpa [eq_comm] using new
      · exact Function.update_of_ne (Ne.symm concerned) _ _
    refine ⟨?_, ?_, ?_⟩
    · rw [signals, adapter]
      exact mirrored.lastSignal
    · rw [signals, adapter, main_assign]
      exact mirrored.snapshot
    · simpa [Unsettled, MirrorsNow, settled, writes, pending, signals, adapter]
        using mirrored.mirrors

/-- A signal is handled; if no other follows, it tells the value of the property. -/
theorem Mirrored.signal (mirrored : state.Mirrored property) (idle : state.main = .idle)
    {changed : AdapterProperty} {value : Bool} {signals : List (AdapterProperty × Bool)}
    (found : state.signals = (changed, value) :: signals) :
    Mirrored property { state with
      signals
      sent := state.sent ++
        [BluetoothWorker.handleAdapterPropertyChanged changed value] } := by
  have told := BluetoothWorker.told_handleAdapterPropertyChanged changed value
  have command : (BluetoothWorker.handleAdapterPropertyChanged changed value).command.property =
      changed := AdapterCommand.property_asking changed value
  generalize BluetoothWorker.handleAdapterPropertyChanged changed value = noti at told command
  by_cases concerned : changed = property
  · have rest : state.signalled property =
        value :: signalled property { state with signals, sent := state.sent ++ [noti] } := by
      simp [signalled, found, concerned]
    have last := mirrored.lastSignal
    rw [rest, Mirror.settled_cons] at last
    by_cases done : signalled property { state with signals, sent := state.sent ++ [noti] } = []
    · rw [done, Mirror.settled_nil] at last
      refine ⟨by simp [done], by simp [idle], Or.inr (Or.inr (Or.inl ?_))⟩
      simp [settled, writes, AdapterNoti.write, command, concerned, told, last,
        ← List.append_assoc]
    · refine ⟨?_, by simp [idle], Or.inr (Or.inl (Or.inr (Or.inl done)))⟩
      exact (Mirror.settled_eq_of_ne_nil done _ _).trans last
  · have same : signalled property { state with signals, sent := state.sent ++ [noti] } =
        state.signalled property := by
      simp [signalled, found, concerned]
    have writes : writes property { state with signals, sent := state.sent ++ [noti] } =
        state.writes property := by
      simp [writes, AdapterNoti.write, command, concerned]
    refine ⟨?_, by simp [idle], ?_⟩
    · rw [same]
      exact mirrored.lastSignal
    · simpa [Unsettled, MirrorsNow, settled, same, writes, pending] using mirrored.mirrors

/-- The adapter has been reported as it was when BlueZ answered. -/
theorem Mirrored.report (mirrored : state.Mirrored property) {adapter : Adapter}
    (got : state.main = .gotManagedObjects (some adapter)) :
    Mirrored property { state with
      main := .idle
      initialized := true
      sent := state.sent ++ BluezDBus.parseManagedObjects adapter } := by
  refine ⟨mirrored.lastSignal, by simp, Or.inr ?_⟩
  rcases mirrored.snapshot adapter got with fresh | outstanding
  · refine Or.inr (Or.inl ?_)
    rw [← fresh]
    cases property <;>
      simp [settled, writes, BluezDBus.parseManagedObjects, AdapterNoti.write, AdapterNoti.told,
        Mirror.settled_append]
  · exact Or.inl (Or.inr (Or.inl outstanding))

/-- A command without a message is given up; something after it will write to the mirror. -/
theorem Mirrored.giveUp (mirrored : state.Mirrored property) (idle : state.main = .idle)
    {command : AdapterCommand} {later : List AdapterMessage}
    (found : state.commandQueue = .command command :: later)
    (unawaited : command.property = property →
      state.Unsettled property ∨ ¬ state.Awaited property later) :
    Mirrored property { state with commandQueue := later } := by
  have unsettled : state.Unsettled property →
      Unsettled property { state with commandQueue := later } := by
    simp only [Unsettled, found, List.mem_cons, reduceCtorEq, false_or]
    exact id
  refine mirrored.proceed (by simp [idle]) (by simp [idle]) unsettled (fun mirrors => ?_) rfl rfl
  by_cases concerned : command.property = property
  · refine (unawaited concerned).imp unsettled fun notAwaited => ?_
    refine mirrors.imp_right fun ⟨arrived, processing, last⟩ => ⟨arrived, processing, ?_⟩
    have follows : (later ++ state.core.sent).filterMap (AdapterMessage.asks property) ≠ [] :=
      fun nothing => notAwaited ⟨arrived, processing, nothing⟩
    rw [List.filterMap_append] at follows
    simp only [pending, idle, AdapterMainPc.asks, found, Option.toList_none, List.nil_append,
      List.filterMap_cons, AdapterMessage.asks_command, AdapterCommand.asks, if_pos concerned,
      List.cons_append] at last ⊢
    rw [List.getLast?_cons] at last
    rw [List.getLast?_eq_getLast_of_ne_nil follows] at last ⊢
    exact last
  · right
    simpa [MirrorsNow, settled, writes, pending, found, AdapterCommand.asks, concerned]
      using mirrors

/-- What MainWorker does with the head of its queue. -/
theorem mainEvent_cases {created : Bool} (stepped : state.step (.mainEvent created) = some next) :
    state.main = .idle ∧ ∃ later,
      (state.commandQueue = .initializeBluetooth :: later ∧
        next = { state with
          commandQueue := later
          main := if created then .gettingManagedObjects else .terminated }) ∨
      ∃ command, state.commandQueue = .command command :: later ∧
        next = if created then { state with commandQueue := later, main := .calling command }
          else { state with
            commandQueue := later
            main := .idle
            sent := state.sent ++ (BluezDBus.execute command .notCreated).toList } := by
  cases idle : state.main <;> cases found : state.commandQueue <;>
    simp only [step, idle, found, reduceCtorEq] at stepped
  next message later =>
    refine ⟨rfl, later, ?_⟩
    cases message <;> cases created <;> simpa [eq_comm] using stepped

/-- MainWorker takes a command from its queue. -/
theorem Mirrored.mainEvent (mirrored : state.Mirrored property) {created : Bool}
    (truly : state.FailsTruly property (.mainEvent created))
    (stepped : state.step (.mainEvent created) = some next) : next.Mirrored property := by
  rcases mainEvent_cases stepped with ⟨idle, later, ⟨found, rfl⟩ | ⟨command, found, rfl⟩⟩
  · cases created with
    | false => exact ⟨mirrored.lastSignal, by simp, Or.inl rfl⟩
    | true =>
        exact ⟨mirrored.lastSignal, by simp, Or.inr (Or.inl (Or.inr (Or.inr (Or.inl trivial))))⟩
  have running : state.main ≠ .terminated := by simp [idle]
  have unsettled : ∀ main, state.Unsettled property →
      Unsettled property { state with commandQueue := later, main } := by
    intro main
    simp only [Unsettled, found, idle, AdapterMainPc.Reporting, List.mem_cons, reduceCtorEq,
      false_or]
    tauto
  have pending : state.pending property = (command.asks property).toList ++
      AdapterProtocol.pending property { state with commandQueue := later, main := .idle } := by
    simp only [AdapterProtocol.pending, idle, found, List.filterMap_cons,
      AdapterMessage.asks_command, AdapterMainPc.asks]
    cases command.asks property <;> simp
  cases created with
  | true =>
      refine mirrored.proceed running (by simp) (unsettled _) (fun mirrors => Or.inr ?_) rfl rfl
      simp only [MirrorsNow, pending] at mirrors
      simpa [MirrorsNow, settled, writes, AdapterProtocol.pending, AdapterMainPc.asks]
        using mirrors
  | false =>
      simp only [FailsTruly, found, GivesUpTruly, forall_const] at truly
      cases told : BluezDBus.execute command .notCreated with
      | none =>
          simp only [told, Option.isSome_none, Bool.false_eq_true, if_false] at truly
          simpa [← idle] using mirrored.giveUp idle found truly
      | some noti =>
          simp only [told, Option.isSome_some, if_true] at truly
          exact mirrored.fail running told pending (unsettled _) truly

/-- BlueZ answers the call. -/
theorem Mirrored.bluez (mirrored : state.Mirrored property) {error : Option String}
    (stepped : state.step (.bluez error) = some next) : next.Mirrored property := by
  cases called : state.main with
  | idle | returned | gotManagedObjects | terminated => simp [step, called] at stepped
  | gettingManagedObjects =>
      simp only [step, called, Option.some.injEq] at stepped
      subst stepped
      refine ⟨mirrored.lastSignal, ?_, Or.inr (Or.inl (Or.inr (Or.inr (Or.inl trivial))))⟩
      intro adapter got
      simp only [AdapterMainPc.gotManagedObjects.injEq, Option.ite_none_right_eq_some,
        Option.some.injEq] at got
      exact Or.inl (got.2 ▸ rfl)
  | calling command =>
      cases error with
      | some error =>
          simp only [step, called, Option.some.injEq] at stepped
          subst stepped
          have unsettled : state.Unsettled property → Unsettled property { state with
              main := .returned command (some error) } := by
            simp only [Unsettled, called]
            exact id
          refine mirrored.proceed (by simp [called]) (by simp) unsettled
            (fun mirrors => Or.inr ?_) rfl rfl
          simpa [MirrorsNow, settled, writes, pending, called, AdapterMainPc.asks] using mirrors
      | none =>
          simp only [step, called] at stepped
          split at stepped
          · cases stepped
          · cases stepped
            exact (mirrored.assign command.property command.target).succeed
              (by simp [called]) (by simp)

/-- MainWorker gets the answer. -/
theorem Mirrored.mainReply (mirrored : state.Mirrored property)
    (truly : state.FailsTruly property .mainReply)
    (stepped : state.step .mainReply = some next) : next.Mirrored property := by
  cases got : state.main with
  | idle | calling | gettingManagedObjects | terminated => simp [step, got] at stepped
  | gotManagedObjects adapter =>
      cases adapter with
      | none =>
          simp only [step, got, Option.some.injEq] at stepped
          subst stepped
          exact ⟨mirrored.lastSignal, by simp, Or.inl rfl⟩
      | some adapter =>
          simp only [step, got, Option.some.injEq] at stepped
          subst stepped
          exact mirrored.report got
  | returned command error =>
      have unsettled : state.Unsettled property →
          Unsettled property { state with main := .idle } := by
        simp only [Unsettled, got]
        exact id
      cases error with
      | none =>
          simp only [step, got, BluezDBus.execute_success, Option.toList_none, List.append_nil,
            Option.some.injEq] at stepped
          subst stepped
          refine mirrored.proceed (by simp [got]) (by simp) unsettled
            (fun mirrors => Or.inr ?_) rfl rfl
          simpa [MirrorsNow, settled, writes, pending, got, AdapterMainPc.asks] using mirrors
      | some error =>
          rcases BluezDBus.exists_execute_error command error with ⟨noti, told⟩
          simp only [step, got, told, Option.toList_some, Option.some.injEq] at stepped
          simp only [FailsTruly, got, RepliesTruly] at truly
          subst stepped
          refine mirrored.fail (by simp [got]) told ?_ unsettled truly
          simp [pending, got, AdapterMainPc.asks]

/-- Every step keeps the mirror, provided that no command fails for another reason. -/
theorem mirrored_step (mirrored : state.Mirrored property) {action : Action}
    (truly : state.FailsTruly property action) (stepped : state.step action = some next) :
    next.Mirrored property := by
  cases action with
  | client command =>
      cases stepped
      exact mirrored.client command
  | join =>
      cases stepped
      exact mirrored.join
  | coreEvent =>
      rcases Option.map_eq_some_iff.mp stepped with ⟨core, processed, rfl⟩
      rcases AdapterHandler.processEvent_cases processed with
        ⟨eventQueue, ⟨command, found, rfl⟩ | ⟨noti, name, found, rfl⟩⟩
      · exact mirrored.request found
      · exact mirrored.arrive found name
  | receiveNoti =>
      cases found : state.sent with
      | nil => simp [step, found] at stepped
      | cons noti sent =>
          simp only [step, found, Option.some.injEq] at stepped
          subst stepped
          exact mirrored.receiveNoti found
  | receiveCommand =>
      cases found : state.core.sent with
      | nil => simp [step, found] at stepped
      | cons message sent =>
          simp only [step, found, Option.some.injEq] at stepped
          subst stepped
          exact mirrored.receiveCommand found
  | mainEvent created => exact mirrored.mainEvent truly stepped
  | bluez error => exact mirrored.bluez stepped
  | mainReply => exact mirrored.mainReply truly stepped
  | signal =>
      cases idle : state.main <;> cases found : state.signals <;>
        simp only [step, idle, found, reduceCtorEq] at stepped
      next signal signals =>
        cases stepped
        rw [← idle]
        exact mirrored.signal idle found
  | change changed value =>
      simp only [step] at stepped
      split at stepped
      · cases stepped
      · cases stepped
        exact mirrored.assign changed value

theorem Mirrored.right_of_quiescent (mirrored : state.Mirrored property)
    (quiescent : state.Quiescent) (initialized : state.initialized = true) :
    state.core.stateView property = .of (state.adapter property) := by
  rcases mirrored.mirrors with stopped | unsettled | right | ⟨-, -, last⟩
  · simp [quiescent.main] at stopped
  · simp [Unsettled, initialized, signalled, quiescent.signals, quiescent.main,
      AdapterMainPc.Reporting, quiescent.commandQueue, quiescent.commands] at unsettled
  · simpa [settled, writes, quiescent.coreQueue, quiescent.notis] using right
  · simp [pending, quiescent.main, AdapterMainPc.asks, quiescent.commandQueue,
      quiescent.commands] at last

/--
In every run in which no command fails for another reason, a quiescent state in which the
core has been told about the adapter has the mirror right.
-/
theorem mirrored_of_failsTruly {adapter : Adapter} {sent : List AdapterNoti}
    {schedule : List Action} (ran : (protocol adapter sent).run schedule = some state)
    (along : (protocol adapter sent).Along (FailsTruly property) schedule) :
    state.Mirrored property :=
  System.invariant_of_along (fun state => state.Mirrored property) (mirrored_init adapter sent)
    (fun _ _ _ mirrored truly stepped => mirrored_step mirrored truly stepped) ran along

instance (state : AdapterProtocol) : Decidable state.Quiescent :=
  decidable_of_iff (state.signals = [] ∧ state.core.eventQueue = [] ∧ state.sent = [] ∧
      state.core.sent = [] ∧ state.commandQueue = [] ∧ state.main.isIdle = true)
    ⟨fun ⟨signals, coreQueue, notis, commands, commandQueue, main⟩ =>
        ⟨signals, coreQueue, notis, commands, commandQueue, AdapterMainPc.isIdle_iff.mp main⟩,
      fun quiescent => ⟨quiescent.signals, quiescent.coreQueue, quiescent.notis,
        quiescent.commands, quiescent.commandQueue, AdapterMainPc.isIdle_iff.mpr quiescent.main⟩⟩

instance (pc : AdapterMainPc) : Decidable pc.Reporting :=
  match pc with
  | .gettingManagedObjects | .gotManagedObjects _ => isTrue trivial
  | .idle | .calling _ | .returned _ _ | .terminated => isFalse id

instance (property : AdapterProperty) (state : AdapterProtocol) :
    Decidable (state.Unsettled property) :=
  inferInstanceAs (Decidable (_ ∨ _ ∨ _ ∨ _ ∨ _))

instance (property : AdapterProperty) (state : AdapterProtocol) (later : List AdapterMessage) :
    Decidable (state.Awaited property later) :=
  inferInstanceAs (Decidable (_ ∧ _ ∧ _))

instance (property : AdapterProperty) (state : AdapterProtocol) :
    (commandQueue : List AdapterMessage) → Decidable (state.GivesUpTruly property commandQueue)
  | .command _ :: _ => by
    simp only [GivesUpTruly]
    infer_instance
  | .initializeBluetooth :: _ | [] => isTrue trivial

instance (property : AdapterProperty) (state : AdapterProtocol) :
    (main : AdapterMainPc) → Decidable (state.RepliesTruly property main)
  | .returned _ (some _) => inferInstanceAs (Decidable (_ → _ ∨ _))
  | .returned _ none | .idle | .calling _ | .gettingManagedObjects | .gotManagedObjects _
  | .terminated => isTrue trivial

instance (property : AdapterProperty) (state : AdapterProtocol) :
    (action : Action) → Decidable (state.FailsTruly property action)
  | .mainEvent _ => inferInstanceAs (Decidable (_ → _))
  | .mainReply => inferInstanceAs (Decidable (state.RepliesTruly property state.main))
  | .client _ | .join | .coreEvent | .receiveNoti | .receiveCommand | .bluez _ | .signal
  | .change _ _ => isTrue trivial

end AdapterProtocol

end RaspberryPiService
