import RaspberryPiService.CoreManager.ShownMessages
import RaspberryPiService.Transition.Refinement

/-!
# A handler in MainWorker

The handlers of the adapter, of calls and of recordings each have a model of their own, in
which a handler has a part of the `StateView` and a queue that holds nothing but its own
events. In the core there is one `StateView`, and one queue from which MainWorker serves all
of them.

MainWorker refines each of these handlers. Whatever else it does in between, a handler keeps
its part of the `StateView`, shows its messages and sends its commands as it would alone, and
in the same order. No message gets lost for want of memory here.
-/

namespace RaspberryPiService

/-- Surroundings in which there is memory for every message. -/
structure GrantedSurroundings extends CoreSurroundings where
  granted : ∀ call, memory call

def CoreEffect.message? : CoreEffect → Option DBusMessage
  | .send msg => some msg
  | .broadcast _ | .startTimer _ | .stopTimer _ => none

/-- What goes out to the other managers. -/
def sentMessages (effects : List CoreEffect) : List DBusMessage :=
  effects.filterMap CoreEffect.message?

/-- The command of a signal. -/
def commandOf (msg : DBusMessage) : Option DBusCommand :=
  match msg.args with
  | ⟨.int32, number⟩ :: _ => DBusCommand.ofInt32? number
  | _ => none

@[simp] theorem commandOf_signal (address : SignalAddress) (cmd : DBusCommand) :
    commandOf (ClientCommand.signal address cmd) = some cmd :=
  DBusCommand.ofInt32?_toInt32 cmd

@[simp] theorem commandOf_signalNoti (address : SignalAddress) (cmd : DBusCommand)
    (msgInfo : DBusDataInfo) :
    commandOf (ClientCommand.signalNoti address cmd msgInfo) = some cmd :=
  DBusCommand.ofInt32?_toInt32 cmd

/-- The command that a client's event is forwarded with. -/
def CoreEventTypeID.cmd? : CoreEventTypeID → Option DBusCommand
  | startScanBTDevice => some .startScanBTDevice
  | stopScanBTDevice => some .stopScanBTDevice
  | bluetoothPowerOn => some .bluetoothPowerOn
  | bluetoothPowerOff => some .bluetoothPowerOff
  | pairBTDevice => some .pairBTDevice
  | unpairBTDevice => some .unpairBTDevice
  | connectBTDevice => some .connectBTDevice
  | disconnectBTDevice => some .disconnectBTDevice
  | acceptRequestConfirmation => some .acceptRequestConfirmation
  | rejectRequestConfirmation => some .rejectRequestConfirmation
  | dialCall => some .dialCall
  | hangupCall => some .hangupCall
  | answerCall => some .answerCall
  | startRecord => some .startRecord
  | stopRecord => some .stopRecord
  | cancelRecord => some .cancelRecord
  | removeRecord | getAllRecord => none

theorem commandOf_processEvent {memory : Memory} (granted : ∀ call, memory call)
    (view : StateView) (event : CoreEvent) :
    ∀ msg ∈ (view.processEvent memory event).2, commandOf msg = event.eventTypeId.cmd? := by
  have signals : ∀ {cmd : DBusCommand} {address : SignalAddress},
      CMSenderFactory.makeMsg memory cmd = CMSenderFactory.makeMsgFor memory cmd address →
        ∀ msg ∈ DBusSender.sendMessage memory cmd, commandOf msg = some cmd := by
    intro cmd address made msg isSent
    rw [DBusSender.sendMessage_eq granted made, List.mem_singleton] at isSent
    rw [isSent, commandOf_signal]
  have notifies : ∀ {cmd : DBusCommand} {address : SignalAddress} {dataInfo : DBusDataInfo},
      CMSenderFactory.makeMsgNoti memory cmd true dataInfo =
          CMSenderFactory.makeMsgNotiFor memory cmd true dataInfo address →
        ∀ msg ∈ DBusSender.sendMessageNoti memory cmd true dataInfo, commandOf msg = some cmd := by
    intro cmd address dataInfo made msg isSent
    rw [DBusSender.sendMessageNoti_eq granted made, List.mem_singleton] at isSent
    rw [isSent, commandOf_signalNoti]
  rcases event with ⟨eventTypeId, payload⟩
  cases eventTypeId with
  | startScanBTDevice | stopScanBTDevice | bluetoothPowerOn | bluetoothPowerOff | hangupCall
  | answerCall | startRecord | stopRecord | cancelRecord =>
      simp only [StateView.processEvent, StateView.startScanBTDevice, StateView.stopScanBTDevice,
        StateView.bluetoothPowerOn, StateView.bluetoothPowerOff, StateView.hangupCall,
        StateView.answerCall, StateView.startRecord, StateView.stopRecord, StateView.cancelRecord]
      split <;> first | exact signals rfl | simp
  | pairBTDevice | unpairBTDevice | connectBTDevice | disconnectBTDevice
  | acceptRequestConfirmation | rejectRequestConfirmation =>
      simp only [StateView.processEvent, StateView.pairBTDevice, StateView.unpairBTDevice,
        StateView.connectBTDevice, StateView.disconnectBTDevice,
        StateView.acceptBTDeviceRequestConfirmation, StateView.rejectBTDeviceRequestConfirmation,
        StateView.sendDeviceAddress]
      split <;> first | exact notifies rfl | simp
  | dialCall =>
      simp only [StateView.processEvent, StateView.dialCall]
      split
      · split <;> first | exact notifies rfl | simp
      all_goals simp
  | removeRecord | getAllRecord => simp [StateView.processEvent]

/-- The `StateView` after a client's command has been forwarded. -/
def StateView.forwarded (view : StateView) : CoreEventTypeID → StateView
  | .startScanBTDevice | .stopScanBTDevice => { view with scanningBTDeviceState := .processing }
  | .bluetoothPowerOn | .bluetoothPowerOff => { view with bluetoothPowerState := .processing }
  | .dialCall | .hangupCall | .answerCall => { view with callState := .processing }
  | .startRecord | .stopRecord | .cancelRecord => { view with recordState := .processing }
  | _ => view

theorem StateView.processEvent_fst (memory : Memory) (view : StateView) (event : CoreEvent) :
    (view.processEvent memory event).1 = view ∨
      (view.processEvent memory event).1 = view.forwarded event.eventTypeId := by
  rcases event with ⟨eventTypeId, payload⟩
  cases eventTypeId with
  | startScanBTDevice | stopScanBTDevice | bluetoothPowerOn | bluetoothPowerOff | hangupCall
  | answerCall | startRecord | stopRecord | cancelRecord =>
      simp only [processEvent, startScanBTDevice, stopScanBTDevice, bluetoothPowerOn,
        bluetoothPowerOff, hangupCall, answerCall, startRecord, stopRecord, cancelRecord]
      split <;> first | exact Or.inl rfl | exact Or.inr rfl
  | pairBTDevice | unpairBTDevice | connectBTDevice | disconnectBTDevice
  | acceptRequestConfirmation | rejectRequestConfirmation =>
      left
      simp only [processEvent, pairBTDevice, unpairBTDevice, connectBTDevice,
        disconnectBTDevice, acceptBTDeviceRequestConfirmation, rejectBTDeviceRequestConfirmation,
        sendDeviceAddress]
      split <;> rfl
  | dialCall =>
      simp only [processEvent, dialCall]
      split
      · split <;> first | exact Or.inl rfl | exact Or.inr rfl
      all_goals exact Or.inl rfl
  | removeRecord | getAllRecord => exact Or.inl rfl

/-- The notifications that overwrite something in the `StateView`. -/
def NotiEventTypeID.overwrites : NotiEventTypeID → Bool
  | startScanBTDeviceNoti | stopScanBTDeviceNoti | bluetoothPowerOnNoti | bluetoothPowerOffNoti
  | incomingCallNoti | outgoingCallNoti | callStateChangedNoti | callEndedNoti
  | dialCallNoti | answerCallNoti | hangupCallNoti
  | startRecordNoti | stopRecordNoti | cancelRecordNoti => true
  | _ => false

theorem CoreMainWorker.toStateView_processNoti {surroundings : CoreSurroundings} {core : Core}
    {eventTypeId : NotiEventTypeID} (keeps : eventTypeId.overwrites = false)
    (payload : NotiPayload) :
    (processNoti surroundings core ⟨eventTypeId, payload⟩).1.state.toStateView =
      core.state.toStateView := by
  cases eventTypeId with
  | startScanBTDeviceNoti | stopScanBTDeviceNoti | bluetoothPowerOnNoti | bluetoothPowerOffNoti
  | incomingCallNoti | outgoingCallNoti | callStateChangedNoti | callEndedNoti
  | dialCallNoti | answerCallNoti | hangupCallNoti
  | startRecordNoti | stopRecordNoti | cancelRecordNoti => cases keeps
  | updateTemperatureNoti =>
      simp only [processNoti, onState, CoreState.updateTemperatureNOTI]
      split
      · split
        · split <;> rfl
        · rfl
      · rfl
  | pbapPhonebookPullStartNoti | pbapPhonebookPullEndNoti | callHistoryPullStartNoti
  | callHistoryPullEndNoti =>
      cases payload with
      | noti isSuccess msgInfo => cases isSuccess <;> rfl
      | _ => rfl
  | insertWavFile => rfl
  | _ => cases payload <;> rfl

/-- MainWorker with its queue, what it has shown to the clients, and what is on the bus. -/
structure CoreManager where
  core : Core
  eventQueue : List CoreManagerEvent := []
  broadcasts : List Json := []
  sent : List DBusMessage := []

namespace CoreManager

inductive Action where
  | pushEvent (event : CoreManagerEvent)
  | join (surroundings : GrantedSurroundings)
  | processEvent (surroundings : GrantedSurroundings)
  | deliver

/-- `WebSocketServer::join` has the adapter reported again. -/
def join (manager : CoreManager) (memory : Memory) : CoreManager :=
  { manager with sent := manager.sent ++ DBusSender.sendMessage memory .initializeBluetooth }

def processEvent (manager : CoreManager) (surroundings : CoreSurroundings) :
    Option CoreManager :=
  match manager.eventQueue with
  | [] => none
  | event :: eventQueue =>
      let handled := CoreMainWorker.processEvent surroundings manager.core event
      some {
        core := handled.1
        eventQueue
        broadcasts := manager.broadcasts ++ shownDocuments handled.2
        sent := manager.sent ++ sentMessages handled.2 }

/-- The bus takes the first message. -/
def deliver (manager : CoreManager) : Option CoreManager :=
  match manager.sent with
  | [] => none
  | _ :: sent => some { manager with sent }

def step (manager : CoreManager) : Action → Option CoreManager
  | .pushEvent event => some { manager with eventQueue := manager.eventQueue ++ [event] }
  | .join surroundings => some (manager.join surroundings.memory)
  | .processEvent surroundings => manager.processEvent surroundings.toCoreSurroundings
  | .deliver => manager.deliver

/-- The core starts with the table that it left behind when it last ran. -/
def system (database : SQLiteDatabase) : System CoreManager Action where
  init := { core := { database } }
  step := step

end CoreManager

/-- What happens to a handler by itself. -/
inductive HandlerAction (Event : Type) where
  | pushEvent (event : Event)
  | join
  | processEvent
  | deliver

/-- A handler, and what its state, its events, its messages and its commands are in MainWorker. -/
structure CorePart (Handler State Event Broadcast Message : Type) where
  stateOf : Handler → State
  queueOf : Handler → List Event
  broadcastsOf : Handler → List Broadcast
  sentOf : Handler → List Message
  state : StateView → State
  event? : CoreManagerEvent → Option Event
  shown : Broadcast → StatusMessage
  msgData : List String
  signal : Message → DBusMessage
  cmds : List DBusCommand

namespace CorePart

section Part

variable {Handler State Event Broadcast Message : Type}
  (part : CorePart Handler State Event Broadcast Message)

/-- The document is one of the handler's. -/
def shows (document : Json) : Bool :=
  (StatusMessage.read document).any fun message => message.command ∈ part.msgData

/-- The message is one of the handler's. -/
def sends (msg : DBusMessage) : Bool :=
  (commandOf msg).any fun cmd => cmd ∈ part.cmds

/-- The handler by itself is as it is in MainWorker. -/
structure Within (manager : CoreManager) (handler : Handler) : Prop where
  state : part.stateOf handler = part.state manager.core.state.toStateView
  eventQueue : part.queueOf handler = manager.eventQueue.filterMap part.event?
  broadcasts : (part.broadcastsOf handler).map (fun broadcast => (part.shown broadcast).document) =
    manager.broadcasts.filter part.shows
  sent : (part.sentOf handler).map part.signal = manager.sent.filter part.sends

/-- What MainWorker does with an event, as far as the handler has to do with it. -/
structure Does (handled : Core × List CoreEffect) (state : State) (broadcasts : List Broadcast)
    (sent : List Message) : Prop where
  state : state = part.state handled.1.state.toStateView
  broadcasts : broadcasts.map (fun broadcast => (part.shown broadcast).document) =
    (shownDocuments handled.2).filter part.shows
  sent : sent.map part.signal = (sentMessages handled.2).filter part.sends

/-- The fields of a handler. -/
structure Has (handler : Handler) (state : State) (eventQueue : List Event)
    (broadcasts : List Broadcast) (sent : List Message) : Prop where
  state : part.stateOf handler = state
  eventQueue : part.queueOf handler = eventQueue
  broadcasts : part.broadcastsOf handler = broadcasts
  sent : part.sentOf handler = sent

/-- A handler makes of an event by itself what MainWorker makes of it. -/
def Reacts (state : State) (event : Event) (later : State) (broadcasts : List Broadcast)
    (sent : List Message) : Prop :=
  ∀ (surroundings : GrantedSurroundings) (core : Core) (whole : CoreManagerEvent),
    part.event? whole = some event → part.state core.state.toStateView = state →
      part.Does (CoreMainWorker.processEvent surroundings.toCoreSurroundings core whole) later
        broadcasts sent

/-- The system of a handler by itself does what the handler does in MainWorker. -/
structure Alone (system : System Handler (HandlerAction Event)) : Prop where
  init : part.Has system.init (part.state {}) [] [] []
  push : ∀ handler event, ∃ next, system.step handler (.pushEvent event) = some next ∧
    part.Has next (part.stateOf handler) (part.queueOf handler ++ [event])
      (part.broadcastsOf handler) (part.sentOf handler)
  join : ∀ handler, ∃ next sent, system.step handler .join = some next ∧
    part.Has next (part.stateOf handler) (part.queueOf handler) (part.broadcastsOf handler)
      (part.sentOf handler ++ sent) ∧
    sent.map part.signal =
      [ClientCommand.signal .hardwareManager .initializeBluetooth].filter part.sends
  process : ∀ handler event eventQueue, part.queueOf handler = event :: eventQueue →
    ∃ next later broadcasts sent, system.step handler .processEvent = some next ∧
      part.Has next later eventQueue (part.broadcastsOf handler ++ broadcasts)
        (part.sentOf handler ++ sent) ∧
      part.Reacts (part.stateOf handler) event later broadcasts sent
  deliver : ∀ handler message sent, part.sentOf handler = message :: sent →
    ∃ next, system.step handler .deliver = some next ∧
      part.Has next (part.stateOf handler) (part.queueOf handler) (part.broadcastsOf handler) sent
  others : ∀ (surroundings : GrantedSurroundings) (core : Core) (event : CoreManagerEvent),
    part.event? event = none →
      part.Does (CoreMainWorker.processEvent surroundings.toCoreSurroundings core event)
        (part.state core.state.toStateView) [] []

end Part

variable {Handler State Event Broadcast Message : Type}
  {part : CorePart Handler State Event Broadcast Message}
  {system : System Handler (HandlerAction Event)} {manager next : CoreManager}
  {handler after : Handler}

@[simp] theorem shows_document (message : StatusMessage) :
    part.shows message.document = decide (message.command ∈ part.msgData) := by
  simp [shows]

@[simp] theorem sends_signal (address : SignalAddress) (cmd : DBusCommand) :
    part.sends (ClientCommand.signal address cmd) = decide (cmd ∈ part.cmds) := by
  simp [sends]

@[simp] theorem sends_signalNoti (address : SignalAddress) (cmd : DBusCommand)
    (msgInfo : DBusDataInfo) :
    part.sends (ClientCommand.signalNoti address cmd msgInfo) = decide (cmd ∈ part.cmds) := by
  simp [sends]

theorem Within.push (within : part.Within manager handler) (alone : part.Alone system)
    (event : CoreManagerEvent) :
    ∃ schedule after, system.runFrom handler schedule = some after ∧
      part.Within { manager with eventQueue := manager.eventQueue ++ [event] } after := by
  cases known : part.event? event with
  | none =>
      refine System.exists_stutter ⟨within.state, ?_, within.broadcasts, within.sent⟩
      simp [within.eventQueue, known]
  | some own =>
      rcases alone.push handler own with ⟨after, stepped, has⟩
      refine System.exists_follow stepped ⟨?_, ?_, ?_, ?_⟩
      · rw [has.state, within.state]
      · simp [has.eventQueue, within.eventQueue, known]
      · rw [has.broadcasts, within.broadcasts]
      · rw [has.sent, within.sent]

theorem Within.join (within : part.Within manager handler) (alone : part.Alone system)
    (surroundings : GrantedSurroundings) :
    ∃ schedule after, system.runFrom handler schedule = some after ∧
      part.Within (manager.join surroundings.memory) after := by
  rcases alone.join handler with ⟨after, sent, stepped, has, asked⟩
  have isSent : DBusSender.sendMessage surroundings.memory .initializeBluetooth =
      [ClientCommand.signal .hardwareManager .initializeBluetooth] :=
    DBusSender.sendMessage_eq surroundings.granted rfl
  refine System.exists_follow stepped ⟨?_, ?_, ?_, ?_⟩
  · exact has.state.trans within.state
  · exact has.eventQueue.trans within.eventQueue
  · rw [has.broadcasts, within.broadcasts]
    rfl
  · rw [has.sent, List.map_append, within.sent, asked, CoreManager.join, isSent,
      List.filter_append]

theorem Within.process (within : part.Within manager handler) (alone : part.Alone system)
    {surroundings : GrantedSurroundings}
    (processed : manager.processEvent surroundings.toCoreSurroundings = some next) :
    ∃ schedule after, system.runFrom handler schedule = some after ∧ part.Within next after := by
  unfold CoreManager.processEvent at processed
  split at processed
  · cases processed
  · next event rest found =>
      obtain rfl := Option.some.inj processed
      have queue := within.eventQueue
      rw [found] at queue
      cases known : part.event? event with
      | none =>
          have does := alone.others surroundings manager.core event known
          refine System.exists_stutter ⟨within.state.trans does.state, ?_, ?_, ?_⟩
          · rw [queue, List.filterMap_cons_none known]
          · rw [List.filter_append, ← within.broadcasts, ← does.broadcasts, List.map_nil,
              List.append_nil]
          · rw [List.filter_append, ← within.sent, ← does.sent, List.map_nil, List.append_nil]
      | some own =>
          rw [List.filterMap_cons_some known] at queue
          rcases alone.process handler own _ queue with
            ⟨after, later, broadcasts, sent, stepped, has, reacts⟩
          have does := reacts surroundings manager.core event known within.state.symm
          refine System.exists_follow stepped ⟨has.state.trans does.state, has.eventQueue, ?_, ?_⟩
          · rw [has.broadcasts, List.map_append, within.broadcasts, does.broadcasts,
              List.filter_append]
          · rw [has.sent, List.map_append, within.sent, does.sent, List.filter_append]

theorem Within.deliver (within : part.Within manager handler) (alone : part.Alone system)
    (delivered : manager.deliver = some next) :
    ∃ schedule after, system.runFrom handler schedule = some after ∧ part.Within next after := by
  unfold CoreManager.deliver at delivered
  split at delivered
  · cases delivered
  · next msg rest found =>
      cases delivered
      have sent := within.sent
      rw [found] at sent
      cases sends : part.sends msg with
      | false =>
          rw [List.filter_cons_of_neg (by simp [sends])] at sent
          exact System.exists_stutter ⟨within.state, within.eventQueue, within.broadcasts, sent⟩
      | true =>
          rw [List.filter_cons_of_pos sends] at sent
          rcases List.map_eq_cons_iff.mp sent with ⟨message, later, isSent, -, isLater⟩
          rcases alone.deliver handler message later isSent with ⟨after, stepped, has⟩
          refine System.exists_follow stepped ⟨?_, ?_, ?_, ?_⟩
          · exact has.state.trans within.state
          · exact has.eventQueue.trans within.eventQueue
          · rw [has.broadcasts, within.broadcasts]
          · rw [has.sent, isLater]

/-- MainWorker refines a handler that does by itself what it does there. -/
theorem Alone.refines (alone : part.Alone system) (database : SQLiteDatabase) :
    (CoreManager.system database).Refines system part.Within where
  init := by
    refine ⟨alone.init.state, alone.init.eventQueue, ?_, ?_⟩
    · rw [alone.init.broadcasts]
      rfl
    · rw [alone.init.sent]
      rfl
  step manager handler action next within stepped := by
    cases action with
    | pushEvent event =>
        cases stepped
        exact within.push alone event
    | join surroundings =>
        cases stepped
        exact within.join alone surroundings
    | processEvent surroundings => exact within.process alone stepped
    | deliver => exact within.deliver alone stepped

section Effects

variable {surroundings : CoreSurroundings} {core : Core} {state later : State}
  {broadcasts : List Broadcast} {sent : List Message}

theorem sentMessages_sent (messages : List DBusMessage) (event : CoreEvent) :
    sentMessages (messages.map .send ++ CoreMainWorker.answeredTimer event) = messages := by
  have timer : sentMessages (CoreMainWorker.answeredTimer event) = [] := by
    unfold CoreMainWorker.answeredTimer
    split <;> rfl
  rw [sentMessages, List.filterMap_append, List.filterMap_map]
  exact (congrArg₂ (· ++ ·) List.filterMap_some timer).trans (List.append_nil messages)

theorem sentMessages_broadcast (documents : List Json) :
    sentMessages (documents.map .broadcast) = [] := by
  rw [sentMessages, List.filterMap_map]
  exact List.filterMap_eq_nil_iff.mpr fun _ _ => rfl

/-- A notification has nothing sent to the other managers. -/
theorem sentMessages_processNoti (event : NotiEvent) :
    sentMessages (CoreMainWorker.processNoti surroundings core event).2 = [] := by
  rcases event with ⟨eventTypeId, payload⟩
  cases eventTypeId with
  | updateTemperatureNoti =>
      simp only [CoreMainWorker.processNoti, CoreMainWorker.onState,
        CoreState.updateTemperatureNOTI]
      split
      · split
        · split <;> rfl
        · rfl
      · rfl
  | pbapPhonebookPullStartNoti | pbapPhonebookPullEndNoti | callHistoryPullStartNoti
  | callHistoryPullEndNoti =>
      cases payload with
      | noti isSuccess msgInfo => cases isSuccess <;> rfl
      | _ => rfl
  | insertWavFile => exact sentMessages_broadcast _
  | _ => cases payload <;> rfl

/-- A command that is not about the table. -/
theorem does_command {event : CoreEvent} {view : StateView} {messages : List DBusMessage}
    (notRemove : event.eventTypeId ≠ .removeRecord) (notGet : event.eventTypeId ≠ .getAllRecord)
    (processed : core.state.toStateView.processEvent surroundings.memory event = (view, messages))
    (isLater : later = part.state view)
    (isSent : sent.map part.signal = messages.filter part.sends) :
    part.Does (CoreMainWorker.processEvent surroundings core (.command event)) later [] sent := by
  have handled : CoreMainWorker.processEvent surroundings core (.command event) =
      ({ core with state := { core.state with toStateView := view } },
        messages.map .send ++ CoreMainWorker.answeredTimer event) := by
    change CoreMainWorker.processCommand surroundings core event = _
    unfold CoreMainWorker.processCommand
    split
    · next isRemove => exact absurd isRemove notRemove
    · next isGet => exact absurd isGet notGet
    · rw [processed]
  rw [handled]
  refine ⟨isLater, ?_, ?_⟩
  · rw [CoreMainWorker.shownDocuments_sent]
    rfl
  · rw [sentMessages_sent, isSent]

/-- What is shown and sent belongs to others. -/
theorem does_of_other {handled : Core × List CoreEffect} {command : String}
    (same : part.state handled.1.state.toStateView = state)
    (shown : Shows command (shownDocuments handled.2))
    (otherCommand : command ∉ part.msgData)
    (otherCmds : ∀ msg ∈ sentMessages handled.2, part.sends msg = false) :
    part.Does handled state [] [] where
  state := same.symm
  broadcasts := by
    rcases shown with none | ⟨message, shown, rfl⟩
    · rw [none]
      rfl
    · simp [shown, otherCommand]
  sent := by
    symm
    rw [List.map_nil, List.filter_eq_nil_iff]
    intro msg isSent
    simp [otherCmds msg isSent]

/-- A client's command for another handler, or for the table. -/
theorem does_other_command {granted : GrantedSurroundings} {eventTypeId : CoreEventTypeID}
    {payload : Option Payload}
    (same : part.state (core.state.toStateView.forwarded eventTypeId) =
      part.state core.state.toStateView)
    (otherCmd : ∀ cmd ∈ eventTypeId.cmd?, cmd ∉ part.cmds)
    (otherCommands : "remove_record_noti" ∉ part.msgData ∧ "get_all_record_noti" ∉ part.msgData) :
    part.Does (CoreMainWorker.processEvent granted.toCoreSurroundings core
      (.command ⟨eventTypeId, payload⟩)) (part.state core.state.toStateView) [] [] := by
  by_cases isRemove : eventTypeId = .removeRecord
  · subst isRemove
    have nothing : sentMessages (CoreMainWorker.processEvent granted.toCoreSurroundings core
        (.command ⟨.removeRecord, payload⟩)).2 = [] := sentMessages_broadcast _
    exact does_of_other rfl (CoreMainWorker.shows_removeRecordRow payload) otherCommands.1
      (by simp [nothing])
  · by_cases isGet : eventTypeId = .getAllRecord
    · subst isGet
      have nothing : sentMessages (CoreMainWorker.processEvent granted.toCoreSurroundings core
          (.command ⟨.getAllRecord, payload⟩)).2 = [] := sentMessages_broadcast _
      exact does_of_other rfl CoreMainWorker.shows_getAllAudioRecords otherCommands.2
        (by simp [nothing])
    · have kept : part.state (core.state.toStateView.processEvent granted.memory
          ⟨eventTypeId, payload⟩).1 = part.state core.state.toStateView := by
        rcases core.state.toStateView.processEvent_fst granted.memory ⟨eventTypeId, payload⟩ with
          ignored | forwarded
        · rw [ignored]
        · exact (congrArg part.state forwarded).trans same
      refine does_command isRemove isGet rfl kept.symm ?_
      symm
      rw [List.map_nil, List.filter_eq_nil_iff]
      intro msg isSent
      have isCmd : commandOf msg = eventTypeId.cmd? :=
        commandOf_processEvent granted.granted core.state.toStateView _ msg isSent
      cases known : eventTypeId.cmd? with
      | none => simp [sends, isCmd, known]
      | some cmd => simp [sends, isCmd, known, otherCmd cmd known]

theorem does_other_noti {eventTypeId : NotiEventTypeID} {payload : NotiPayload}
    (same : part.state (CoreMainWorker.processNoti surroundings core
      ⟨eventTypeId, payload⟩).1.state.toStateView = state)
    (otherCommand : eventTypeId.msgData ∉ part.msgData) :
    part.Does (CoreMainWorker.processEvent surroundings core (.noti ⟨eventTypeId, payload⟩)) state
      [] [] := by
  refine does_of_other same (CoreMainWorker.shows_processNoti _) otherCommand ?_
  rw [CoreMainWorker.processEvent, sentMessages_processNoti]
  simp

theorem does_timeout {granted : GrantedSurroundings}
    (otherCmd : .rejectRequestConfirmation ∉ part.cmds) (payload : Option Payload) :
    part.Does (CoreMainWorker.processEvent granted.toCoreSurroundings core
      (.confirmationTimeout payload)) (part.state core.state.toStateView) [] [] := by
  change part.Does (CoreMainWorker.processTimeout granted.toCoreSurroundings core payload) _ _ _
  unfold CoreMainWorker.processTimeout
  split
  · next address =>
      have isSent : DBusSender.sendMessageNoti granted.memory .rejectRequestConfirmation true
          (DBusDataInfo.init.set .btDeviceAddress address) =
            [ClientCommand.signalNoti .hardwareManager .rejectRequestConfirmation
              (DBusDataInfo.init.set .btDeviceAddress address)] :=
        DBusSender.sendMessageNoti_eq granted.granted rfl
      rw [isSent]
      exact ⟨rfl, rfl, by simp [sentMessages, CoreEffect.message?, otherCmd]⟩
  · exact ⟨rfl, rfl, rfl⟩

/-- A notification with a message of the handler. -/
theorem does_noti {event : NotiEvent} {broadcast : Broadcast}
    (isLater : later =
      part.state (CoreMainWorker.processNoti surroundings core event).1.state.toStateView)
    (isShown : shownDocuments (CoreMainWorker.processNoti surroundings core event).2 =
      [(part.shown broadcast).document])
    (known : (part.shown broadcast).command ∈ part.msgData) :
    part.Does (CoreMainWorker.processEvent surroundings core (.noti event)) later [broadcast]
      [] where
  state := isLater
  broadcasts := by simp [CoreMainWorker.processEvent, isShown, known]
  sent := by
    rw [CoreMainWorker.processEvent, sentMessages_processNoti]
    rfl

end Effects

end CorePart

end RaspberryPiService
