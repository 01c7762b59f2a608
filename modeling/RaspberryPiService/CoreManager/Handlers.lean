import RaspberryPiService.CoreManager.CorePart

/-!
# The handlers in MainWorker

The adapter, calls and recordings each have their part in MainWorker. Each part is put
together here from the handler's definitions, and is found to do in MainWorker what it does
alone. So an agreement that was proved with a handler alone speaks of the handler as it is in
the core, next to all the others.
-/

namespace RaspberryPiService

open CorePart

def AdapterCommand.eventTypeId : AdapterCommand → CoreEventTypeID
  | startScanBTDevice => .startScanBTDevice
  | stopScanBTDevice => .stopScanBTDevice
  | bluetoothPowerOn => .bluetoothPowerOn
  | bluetoothPowerOff => .bluetoothPowerOff

def AdapterCommand.notiEventTypeId : AdapterCommand → NotiEventTypeID
  | startScanBTDevice => .startScanBTDeviceNoti
  | stopScanBTDevice => .stopScanBTDeviceNoti
  | bluetoothPowerOn => .bluetoothPowerOnNoti
  | bluetoothPowerOff => .bluetoothPowerOffNoti

def AdapterMessage.cmd : AdapterMessage → DBusCommand
  | .command .startScanBTDevice => .startScanBTDevice
  | .command .stopScanBTDevice => .stopScanBTDevice
  | .command .bluetoothPowerOn => .bluetoothPowerOn
  | .command .bluetoothPowerOff => .bluetoothPowerOff
  | .initializeBluetooth => .initializeBluetooth

namespace AdapterHandler

def event? : CoreManagerEvent → Option AdapterEvent
  | .command ⟨.startScanBTDevice, _⟩ => some (.command .startScanBTDevice)
  | .command ⟨.stopScanBTDevice, _⟩ => some (.command .stopScanBTDevice)
  | .command ⟨.bluetoothPowerOn, _⟩ => some (.command .bluetoothPowerOn)
  | .command ⟨.bluetoothPowerOff, _⟩ => some (.command .bluetoothPowerOff)
  | .noti ⟨.startScanBTDeviceNoti, .noti isSuccess message⟩ =>
      some (.noti ⟨.startScanBTDevice, isSuccess, message⟩)
  | .noti ⟨.stopScanBTDeviceNoti, .noti isSuccess message⟩ =>
      some (.noti ⟨.stopScanBTDevice, isSuccess, message⟩)
  | .noti ⟨.bluetoothPowerOnNoti, .noti isSuccess message⟩ =>
      some (.noti ⟨.bluetoothPowerOn, isSuccess, message⟩)
  | .noti ⟨.bluetoothPowerOffNoti, .noti isSuccess message⟩ =>
      some (.noti ⟨.bluetoothPowerOff, isSuccess, message⟩)
  | _ => none

def stateOf (view : StateView) : AdapterProperty → SwitchState
  | .powered => view.bluetoothPowerState
  | .discovering => view.scanningBTDeviceState

def part : CorePart AdapterHandler (AdapterProperty → SwitchState) AdapterEvent AdapterBroadcast
    AdapterMessage where
  stateOf := stateView
  queueOf := eventQueue
  broadcastsOf := broadcasts
  sentOf := sent
  state := stateOf
  event? := event?
  shown broadcast :=
    { status := broadcast.status
      msg := broadcast.message
      component := broadcast.screen
      command := broadcast.command
      data := .null }
  msgData := ["start_scan_btdevice_noti", "stop_scan_btdevice_noti", "bluetooth_power_on_noti",
    "bluetooth_power_off_noti"]
  signal message := ClientCommand.signal .hardwareManager message.cmd
  cmds := [.startScanBTDevice, .stopScanBTDevice, .bluetoothPowerOn, .bluetoothPowerOff,
    .initializeBluetooth]

/-- The handler by itself. -/
def system : System AdapterHandler (HandlerAction AdapterEvent) where
  init := {}
  step handler
    | .pushEvent event => some { handler with eventQueue := handler.eventQueue ++ [event] }
    | .join => some handler.join
    | .processEvent => handler.processEvent
    | .deliver =>
        match handler.sent with
        | [] => none
        | _ :: sent => some { handler with sent }

theorem command_of_event? {whole : CoreManagerEvent} {command : AdapterCommand}
    (known : event? whole = some (.command command)) :
    ∃ payload, whole = .command ⟨command.eventTypeId, payload⟩ := by
  unfold event? at known
  split at known <;> cases known <;> exact ⟨_, rfl⟩

theorem noti_of_event? {whole : CoreManagerEvent} {noti : AdapterNoti}
    (known : event? whole = some (.noti noti)) :
    whole = .noti ⟨noti.command.notiEventTypeId, .noti noti.isSuccess noti.message⟩ := by
  unfold event? at known
  split at known <;> cases known <;> rfl

/-- A command of a client goes out if the mirror allows it. -/
theorem does_command {surroundings : GrantedSurroundings} {core : Core}
    (command : AdapterCommand) (payload : Option Payload) :
    let accepted := stateOf core.state.toStateView command.property = .of (!command.target)
    part.Does (CoreMainWorker.processEvent surroundings.toCoreSurroundings core
        (.command ⟨command.eventTypeId, payload⟩))
      (if accepted then
        Function.update (stateOf core.state.toStateView) command.property .processing
      else stateOf core.state.toStateView) [] (if accepted then [.command command] else []) := by
  have isSent : DBusSender.sendMessage surroundings.memory (AdapterMessage.command command).cmd =
      [ClientCommand.signal .hardwareManager (AdapterMessage.command command).cmd] := by
    cases command <;> exact DBusSender.sendMessage_eq surroundings.granted rfl
  cases command with
  | startScanBTDevice | stopScanBTDevice =>
      simp only [AdapterMessage.cmd] at isSent
      refine CorePart.does_command (by simp [AdapterCommand.eventTypeId])
        (by simp [AdapterCommand.eventTypeId]) rfl ?_ ?_
      · funext property
        cases scanning : core.state.scanningBTDeviceState <;> cases property <;>
          simp [part, stateOf, scanning, AdapterCommand.property, AdapterCommand.target,
            SwitchState.of, Function.update]
      · cases scanning : core.state.scanningBTDeviceState <;>
          simp [part, stateOf, scanning, AdapterCommand.property, AdapterCommand.target,
            SwitchState.of, AdapterMessage.cmd, isSent]
  | bluetoothPowerOn | bluetoothPowerOff =>
      simp only [AdapterMessage.cmd] at isSent
      refine CorePart.does_command (by simp [AdapterCommand.eventTypeId])
        (by simp [AdapterCommand.eventTypeId]) rfl ?_ ?_
      · funext property
        cases power : core.state.bluetoothPowerState <;> cases property <;>
          simp [part, stateOf, power, AdapterCommand.property, AdapterCommand.target,
            SwitchState.of, Function.update]
      · cases power : core.state.bluetoothPowerState <;>
          simp [part, stateOf, power, AdapterCommand.property, AdapterCommand.target,
            SwitchState.of, AdapterMessage.cmd, isSent]

theorem others (surroundings : GrantedSurroundings) (core : Core) (event : CoreManagerEvent)
    (foreign : event? event = none) :
    part.Does (CoreMainWorker.processEvent surroundings.toCoreSurroundings core event)
      (part.state core.state.toStateView) [] [] := by
  cases event with
  | startup => exact ⟨rfl, rfl, rfl⟩
  | confirmationTimeout payload => exact does_timeout (by decide) payload
  | command event =>
      rcases event with ⟨eventTypeId, payload⟩
      cases eventTypeId with
      | startScanBTDevice | stopScanBTDevice | bluetoothPowerOn | bluetoothPowerOff =>
          cases foreign
      | _ => exact does_other_command rfl (by decide) (by decide)
  | noti event =>
      rcases event with ⟨eventTypeId, payload⟩
      cases eventTypeId with
      | startScanBTDeviceNoti | stopScanBTDeviceNoti | bluetoothPowerOnNoti
      | bluetoothPowerOffNoti =>
          cases payload with
          | noti isSuccess message => cases foreign
          | _ => exact ⟨rfl, rfl, rfl⟩
      | incomingCallNoti | outgoingCallNoti | callStateChangedNoti | callEndedNoti
      | dialCallNoti | answerCallNoti | hangupCallNoti
      | startRecordNoti | stopRecordNoti | cancelRecordNoti =>
          exact does_other_noti (by cases payload <;> rfl) (by decide)
      | _ =>
          exact does_other_noti
            (congrArg _ (CoreMainWorker.toStateView_processNoti rfl payload)) (by decide)

/-- A notification overwrites the mirror and is shown. -/
theorem does_noti {surroundings : CoreSurroundings} {core : Core} (noti : AdapterNoti) :
    part.Does (CoreMainWorker.processEvent surroundings core
        (.noti ⟨noti.command.notiEventTypeId, .noti noti.isSuccess noti.message⟩))
      (Function.update (stateOf core.state.toStateView) noti.command.property (.of noti.told))
      [{ status := if noti.isSuccess then "success" else "fail"
         message := noti.message
         command := noti.command.notiEventTypeId.msgData }] [] := by
  rcases noti with ⟨command, isSuccess, message⟩
  refine CorePart.does_noti ?_ ?_ ?_
  · funext property
    cases command <;> cases property <;> cases isSuccess <;> rfl
  · cases command <;> rfl
  · cases command <;> simp [part, AdapterCommand.notiEventTypeId, NotiEventTypeID.msgData]

theorem alone : part.Alone system where
  init := ⟨by funext property; cases property <;> rfl, rfl, rfl, rfl⟩
  push _ _ := ⟨_, rfl, rfl, rfl, rfl, rfl⟩
  join _ := ⟨_, [.initializeBluetooth], rfl, ⟨rfl, rfl, rfl, rfl⟩, by
    simp [part, AdapterMessage.cmd]⟩
  process handler event eventQueue found := by
    have queue : handler.eventQueue = event :: eventQueue := found
    cases event with
    | command command =>
        have processed : handler.processEvent =
            some ({ handler with eventQueue }.request command) := by
          rw [processEvent, queue]
          cases command <;> rfl
        have requested : { handler with eventQueue }.request command =
            { handler with
              eventQueue
              stateView :=
                if handler.stateView command.property = .of (!command.target) then
                  Function.update handler.stateView command.property .processing
                else handler.stateView
              sent := handler.sent ++
                if handler.stateView command.property = .of (!command.target) then
                  [.command command]
                else [] } := by
          unfold request
          dsimp only
          split <;> simp_all
        refine ⟨_, _, [], _, processed.trans (congrArg some requested),
          ⟨rfl, rfl, (List.append_nil _).symm, rfl⟩, ?_⟩
        intro surroundings core whole known same
        rcases command_of_event? known with ⟨payload, rfl⟩
        have mirrored : stateOf core.state.toStateView = handler.stateView := same
        rw [← mirrored]
        exact does_command command payload
    | noti noti =>
        have processed : handler.processEvent =
            some ({ handler with eventQueue }.notify noti
              noti.command.notiEventTypeId.msgData) := by
          rw [processEvent, queue]
          rcases noti with ⟨command, isSuccess, message⟩
          cases command <;> rfl
        refine ⟨_, _, _, [], processed, ⟨rfl, rfl, rfl, (List.append_nil _).symm⟩, ?_⟩
        intro surroundings core whole known same
        rw [noti_of_event? known]
        have mirrored : stateOf core.state.toStateView = handler.stateView := same
        rw [← mirrored]
        exact does_noti noti
  deliver handler message sent found := by
    have isSent : handler.sent = message :: sent := found
    exact ⟨{ handler with sent }, by simp [system, isSent], rfl, rfl, rfl, rfl⟩
  others := others

end AdapterHandler

def CallNotiCommand.notiEventTypeId : CallNotiCommand → NotiEventTypeID
  | incomingCallNoti => .incomingCallNoti
  | outgoingCallNoti => .outgoingCallNoti
  | callStateChangedNoti => .callStateChangedNoti
  | callEndedNoti => .callEndedNoti

def CallReplyCommand.notiEventTypeId : CallReplyCommand → NotiEventTypeID
  | dialCallNoti => .dialCallNoti
  | answerCallNoti => .answerCallNoti
  | hangupCallNoti => .hangupCallNoti
  | pbapSessionEndNoti => .pbapSessionEndNoti

def CallCommand.coreEvent : CallCommand → CallCoreEvent
  | dialCall number => .dialCall number
  | hangupCall => .hangupCall
  | answerCall => .answerCall

namespace CallHandler

def event? : CoreManagerEvent → Option CallCoreEvent
  | .command ⟨.dialCall, some (.call _ number _)⟩ => some (.dialCall number)
  | .command ⟨.hangupCall, _⟩ => some .hangupCall
  | .command ⟨.answerCall, _⟩ => some .answerCall
  | .noti ⟨.incomingCallNoti, .call name number state⟩ =>
      some (.call .incomingCallNoti name number state)
  | .noti ⟨.outgoingCallNoti, .call name number state⟩ =>
      some (.call .outgoingCallNoti name number state)
  | .noti ⟨.callStateChangedNoti, .call name number state⟩ =>
      some (.call .callStateChangedNoti name number state)
  | .noti ⟨.callEndedNoti, .call name number state⟩ =>
      some (.call .callEndedNoti name number state)
  | .noti ⟨.dialCallNoti, .noti isSuccess message⟩ =>
      some (.reply .dialCallNoti isSuccess message)
  | .noti ⟨.answerCallNoti, .noti isSuccess message⟩ =>
      some (.reply .answerCallNoti isSuccess message)
  | .noti ⟨.hangupCallNoti, .noti isSuccess message⟩ =>
      some (.reply .hangupCallNoti isSuccess message)
  | .noti ⟨.pbapSessionEndNoti, .noti isSuccess message⟩ =>
      some (.reply .pbapSessionEndNoti isSuccess message)
  | _ => none

def part : CorePart CallHandler CallState CallCoreEvent CallBroadcast CallCommand where
  stateOf := callState
  queueOf := eventQueue
  broadcastsOf := broadcasts
  sentOf := sent
  state := StateView.callState
  event? := event?
  shown broadcast :=
    { status := broadcast.status
      msg := broadcast.message
      component := broadcast.screen
      command := broadcast.command
      data :=
        match broadcast.data with
        | [] => .null
        | fields => .assigned (fields.map fun field => (field.1, .string field.2)) }
  msgData := ["incoming_call_noti", "outgoing_call_noti", "call_state_changed_noti",
    "call_ended_noti", "dial_call_noti", "answer_call_noti", "hangup_call_noti",
    "pbap_session_end_noti"]
  signal
    | .dialCall number => ClientCommand.signalNoti .hardwareManager .dialCall
        (DBusDataInfo.init.set .callNumber number)
    | .hangupCall => ClientCommand.signal .hardwareManager .hangupCall
    | .answerCall => ClientCommand.signal .hardwareManager .answerCall
  cmds := [.dialCall, .hangupCall, .answerCall]

/-- The handler by itself, which has nothing to do with clients that join. -/
def system : System CallHandler (HandlerAction CallCoreEvent) where
  init := {}
  step handler
    | .pushEvent event => some { handler with eventQueue := handler.eventQueue ++ [event] }
    | .join => some handler
    | .processEvent => handler.processEvent
    | .deliver =>
        match handler.sent with
        | [] => none
        | _ :: sent => some { handler with sent }

/-- The states in which a command is forwarded. -/
def accepts : CallState → CallCommand → Bool
  | .idle, .dialCall _ => true
  | .outcoming, .hangupCall | .incoming, .hangupCall | .calling, .hangupCall => true
  | .incoming, .answerCall => true
  | _, _ => false

/-- `CALL_STATE` after a notification about a call. -/
def shownState : CallNotiCommand → String → CallState
  | .incomingCallNoti, _ => .incoming
  | .outgoingCallNoti, _ => .outcoming
  | .callStateChangedNoti, state => changedState state
  | .callEndedNoti, _ => .idle

def msgInfo : CallNotiCommand → String
  | .incomingCallNoti => "Incoming call notification received."
  | .outgoingCallNoti => "Outgoing call notification received."
  | .callStateChangedNoti => "Call state change notification received."
  | .callEndedNoti => "Call ended notification received."

/-- `CALL_STATE` after a reply. -/
def repliedState (callState : CallState) : CallReplyCommand → CallState
  | .dialCallNoti | .answerCallNoti | .hangupCallNoti => .idle
  | .pbapSessionEndNoti => callState

section Does

variable {surroundings : GrantedSurroundings} {core : Core}

/-- A command of a client goes out if `CALL_STATE` allows it. -/
theorem does_command {whole : CoreManagerEvent} {command : CallCommand}
    (known : event? whole = some command.coreEvent) :
    let accepted := accepts core.state.callState command
    part.Does (CoreMainWorker.processEvent surroundings.toCoreSurroundings core whole)
      (if accepted then .processing else core.state.callState) []
      (if accepted then [command] else []) := by
  have hangup : DBusSender.sendMessage surroundings.memory .hangupCall =
      [ClientCommand.signal .hardwareManager .hangupCall] :=
    DBusSender.sendMessage_eq surroundings.granted rfl
  have answer : DBusSender.sendMessage surroundings.memory .answerCall =
      [ClientCommand.signal .hardwareManager .answerCall] :=
    DBusSender.sendMessage_eq surroundings.granted rfl
  unfold event? at known
  cases command with
  | dialCall number =>
      have dial : DBusSender.sendMessageNoti surroundings.memory .dialCall true
          (DBusDataInfo.init.set .callNumber number) =
            [ClientCommand.signalNoti .hardwareManager .dialCall
              (DBusDataInfo.init.set .callNumber number)] :=
        DBusSender.sendMessageNoti_eq surroundings.granted rfl
      split at known <;> cases known
      refine CorePart.does_command (by simp) (by simp) rfl ?_ ?_ <;>
        cases call : core.state.callState <;> simp [part, call, accepts, dial]
  | hangupCall | answerCall =>
      split at known <;> cases known
      refine CorePart.does_command (by simp) (by simp) rfl ?_ ?_ <;>
        cases call : core.state.callState <;> simp [part, call, accepts, hangup, answer]

/-- Without a number the command is not forwarded. -/
theorem processEvent_unreadable (memory : Memory) (view : StateView) {payload : Option Payload}
    (unreadable : event? (.command ⟨.dialCall, payload⟩) = none) :
    view.processEvent memory ⟨.dialCall, payload⟩ = (view, []) := by
  rcases payload with none | payload
  · cases call : view.callState <;> simp [StateView.processEvent, StateView.dialCall, call]
  · cases payload with
    | call name number state => cases unreadable
    | _ => cases call : view.callState <;> simp [StateView.processEvent, StateView.dialCall, call]

theorem does_call (command : CallNotiCommand) (name number state : String) :
    part.Does (CoreMainWorker.processEvent surroundings.toCoreSurroundings core
        (.noti ⟨command.notiEventTypeId, .call name number state⟩))
      (shownState command state)
      [{ status := "success"
         message := msgInfo command
         command := command.notiEventTypeId.msgData
         data := [("call_name", name), ("call_number", number), ("call_state", state)] }] [] := by
  refine CorePart.does_noti ?_ ?_ ?_
  · cases command <;> rfl
  · cases command <;> rfl
  · cases command <;> simp [part, CallNotiCommand.notiEventTypeId, NotiEventTypeID.msgData]

theorem does_reply (command : CallReplyCommand) (isSuccess : Bool) (message : String) :
    part.Does (CoreMainWorker.processEvent surroundings.toCoreSurroundings core
        (.noti ⟨command.notiEventTypeId, .noti isSuccess message⟩))
      (repliedState core.state.callState command)
      [{ status := if isSuccess then "success" else "fail"
         message
         command := command.notiEventTypeId.msgData }] [] := by
  refine CorePart.does_noti ?_ ?_ ?_
  · cases command <;> rfl
  · cases command <;> rfl
  · cases command <;> simp [part, CallReplyCommand.notiEventTypeId, NotiEventTypeID.msgData]

theorem others (surroundings : GrantedSurroundings) (core : Core) (event : CoreManagerEvent)
    (foreign : event? event = none) :
    part.Does (CoreMainWorker.processEvent surroundings.toCoreSurroundings core event)
      (part.state core.state.toStateView) [] [] := by
  cases event with
  | startup => exact ⟨rfl, rfl, rfl⟩
  | confirmationTimeout payload => exact does_timeout (by decide) payload
  | command event =>
      rcases event with ⟨eventTypeId, payload⟩
      cases eventTypeId with
      | hangupCall | answerCall => cases foreign
      | dialCall =>
          exact CorePart.does_command (by simp) (by simp)
            (processEvent_unreadable surroundings.memory core.state.toStateView foreign) rfl rfl
      | _ => exact does_other_command rfl (by decide) (by decide)
  | noti event =>
      rcases event with ⟨eventTypeId, payload⟩
      cases eventTypeId with
      | incomingCallNoti | outgoingCallNoti | callStateChangedNoti | callEndedNoti =>
          cases payload with
          | call name number state => cases foreign
          | _ => exact ⟨rfl, rfl, rfl⟩
      | dialCallNoti | answerCallNoti | hangupCallNoti | pbapSessionEndNoti =>
          cases payload with
          | noti isSuccess message => cases foreign
          | _ => exact ⟨rfl, rfl, rfl⟩
      | startScanBTDeviceNoti | stopScanBTDeviceNoti | bluetoothPowerOnNoti
      | bluetoothPowerOffNoti | startRecordNoti | stopRecordNoti | cancelRecordNoti =>
          exact does_other_noti (by cases payload <;> rfl) (by decide)
      | _ =>
          exact does_other_noti
            (congrArg _ (CoreMainWorker.toStateView_processNoti rfl payload)) (by decide)

end Does

theorem call_of_event? {whole : CoreManagerEvent} {command : CallNotiCommand}
    {name number state : String}
    (known : event? whole = some (.call command name number state)) :
    whole = .noti ⟨command.notiEventTypeId, .call name number state⟩ := by
  unfold event? at known
  split at known <;> cases known <;> rfl

theorem reply_of_event? {whole : CoreManagerEvent} {command : CallReplyCommand}
    {isSuccess : Bool} {message : String}
    (known : event? whole = some (.reply command isSuccess message)) :
    whole = .noti ⟨command.notiEventTypeId, .noti isSuccess message⟩ := by
  unfold event? at known
  split at known <;> cases known <;> rfl

theorem reacts_command (callState : CallState) (command : CallCommand) :
    part.Reacts callState command.coreEvent
      (if accepts callState command then .processing else callState) []
      (if accepts callState command then [command] else []) := by
  intro surroundings core whole known same
  obtain rfl : core.state.callState = callState := same
  exact does_command known

/-- The handler by itself takes a command from the queue. -/
theorem processEvent_command {handler : CallHandler} {eventQueue : List CallCoreEvent}
    (command : CallCommand) (queue : handler.eventQueue = command.coreEvent :: eventQueue) :
    handler.processEvent = some { handler with
      eventQueue
      callState := if accepts handler.callState command then .processing else handler.callState
      sent := handler.sent ++ if accepts handler.callState command then [command] else [] } := by
  rcases handler with ⟨callState, queued, broadcasts, sent⟩
  obtain rfl : queued = command.coreEvent :: eventQueue := queue
  cases command <;> cases callState <;>
    simp [processEvent, CallCommand.coreEvent, accepts, hangupCall, answerCall, dialCall, request]

theorem takes_command {handler : CallHandler} {eventQueue : List CallCoreEvent}
    (command : CallCommand) (queue : handler.eventQueue = command.coreEvent :: eventQueue) :
    ∃ next later broadcasts sent, system.step handler .processEvent = some next ∧
      part.Has next later eventQueue (part.broadcastsOf handler ++ broadcasts)
        (part.sentOf handler ++ sent) ∧
      part.Reacts (part.stateOf handler) command.coreEvent later broadcasts sent :=
  ⟨_, _, [], _, processEvent_command command queue,
    ⟨rfl, rfl, (List.append_nil _).symm, rfl⟩, reacts_command handler.callState command⟩

theorem alone : part.Alone system where
  init := ⟨rfl, rfl, rfl, rfl⟩
  push _ _ := ⟨_, rfl, rfl, rfl, rfl, rfl⟩
  join handler := ⟨handler, [], rfl, ⟨rfl, rfl, rfl, (List.append_nil _).symm⟩, by simp [part]⟩
  process handler event eventQueue found := by
    have queue : handler.eventQueue = event :: eventQueue := found
    cases event with
    | dialCall number => exact takes_command (.dialCall number) queue
    | hangupCall => exact takes_command .hangupCall queue
    | answerCall => exact takes_command .answerCall queue
    | call command name number state =>
        have processed : handler.processEvent =
            some ({ handler with eventQueue }.showCall (shownState command state)
              (msgInfo command) command.notiEventTypeId.msgData name number state) := by
          rw [processEvent, queue]
          cases command <;> rfl
        refine ⟨_, _, _, [], processed, ⟨rfl, rfl, rfl, (List.append_nil _).symm⟩, ?_⟩
        intro surroundings core whole known _
        rw [call_of_event? known]
        exact does_call command name number state
    | reply command isSuccess message =>
        have processed : handler.processEvent =
            some ({ handler with
              eventQueue
              callState := repliedState handler.callState command }.showReply isSuccess message
                command.notiEventTypeId.msgData) := by
          rw [processEvent, queue]
          cases command <;> rfl
        refine ⟨_, _, _, [], processed, ⟨rfl, rfl, rfl, (List.append_nil _).symm⟩, ?_⟩
        intro surroundings core whole known same
        rw [reply_of_event? known]
        have mirrored : core.state.callState = handler.callState := same
        rw [← mirrored]
        exact does_reply command isSuccess message
  deliver handler message sent found := by
    have isSent : handler.sent = message :: sent := found
    exact ⟨{ handler with sent }, by simp [system, isSent], rfl, rfl, rfl, rfl⟩
  others := others

end CallHandler

def RecordCommand.eventTypeId : RecordCommand → CoreEventTypeID
  | startRecord => .startRecord
  | stopRecord => .stopRecord
  | cancelRecord => .cancelRecord

def RecordCommand.cmd : RecordCommand → DBusCommand
  | startRecord => .startRecord
  | stopRecord => .stopRecord
  | cancelRecord => .cancelRecord

def RecordNotiCommand.notiEventTypeId : RecordNotiCommand → NotiEventTypeID
  | startRecordNoti => .startRecordNoti
  | stopRecordNoti => .stopRecordNoti
  | cancelRecordNoti => .cancelRecordNoti
  | filterWavFileNoti => .filterWavFileNoti

namespace RecordHandler

def event? : CoreManagerEvent → Option RecordCoreEvent
  | .command ⟨.startRecord, _⟩ => some (.request .startRecord)
  | .command ⟨.stopRecord, _⟩ => some (.request .stopRecord)
  | .command ⟨.cancelRecord, _⟩ => some (.request .cancelRecord)
  | .noti ⟨.startRecordNoti, .noti isSuccess message⟩ =>
      some (.noti .startRecordNoti isSuccess message)
  | .noti ⟨.stopRecordNoti, .noti isSuccess message⟩ =>
      some (.noti .stopRecordNoti isSuccess message)
  | .noti ⟨.cancelRecordNoti, .noti isSuccess message⟩ =>
      some (.noti .cancelRecordNoti isSuccess message)
  | .noti ⟨.filterWavFileNoti, .noti isSuccess message⟩ =>
      some (.noti .filterWavFileNoti isSuccess message)
  | .noti ⟨.insertWavFile, .wav filePath durationSec⟩ =>
      some (.insertWavFile filePath durationSec.toInt)
  | _ => none

def part : CorePart RecordHandler RecordState RecordCoreEvent RecordBroadcast RecordCommand where
  stateOf := recordState
  queueOf := eventQueue
  broadcastsOf := broadcasts
  sentOf := sent
  state := StateView.recordState
  event? := event?
  shown broadcast :=
    { status := broadcast.status
      msg := broadcast.message
      component := broadcast.screen
      command := broadcast.command
      data := .null }
  msgData := ["start_record_noti", "stop_record_noti", "cancel_record_noti",
    "filter_wav_file_noti"]
  signal command := ClientCommand.signal .recordManager command.cmd
  cmds := [.startRecord, .stopRecord, .cancelRecord]

/-- The handler by itself, which has nothing to do with clients that join. -/
def system : System RecordHandler (HandlerAction RecordCoreEvent) where
  init := {}
  step handler
    | .pushEvent event => some { handler with eventQueue := handler.eventQueue ++ [event] }
    | .join => some handler
    | .processEvent => handler.processEvent
    | .deliver =>
        match handler.sent with
        | [] => none
        | _ :: sent => some { handler with sent }

/-- The state in which a command is forwarded. -/
def enabling : RecordCommand → RecordState
  | .startRecord => .stopped
  | .stopRecord | .cancelRecord => .recording

/-- `RECORD_STATE` after a notification. -/
def notifiedState (recordState : RecordState) : RecordNotiCommand → Bool → RecordState
  | .startRecordNoti, isSuccess => if isSuccess then .recording else .stopped
  | .stopRecordNoti, _ | .cancelRecordNoti, _ => .stopped
  | .filterWavFileNoti, _ => recordState

section Does

variable {surroundings : GrantedSurroundings} {core : Core}

theorem does_request (command : RecordCommand) (payload : Option Payload) :
    let accepted := core.state.recordState = enabling command
    part.Does (CoreMainWorker.processEvent surroundings.toCoreSurroundings core
        (.command ⟨command.eventTypeId, payload⟩))
      (if accepted then .processing else core.state.recordState) []
      (if accepted then [command] else []) := by
  have isSent : DBusSender.sendMessage surroundings.memory command.cmd =
      [ClientCommand.signal .recordManager command.cmd] := by
    cases command <;> exact DBusSender.sendMessage_eq surroundings.granted rfl
  cases command with
  | startRecord | stopRecord | cancelRecord =>
      simp only [RecordCommand.cmd] at isSent
      refine CorePart.does_command (by simp [RecordCommand.eventTypeId])
        (by simp [RecordCommand.eventTypeId]) rfl ?_ ?_ <;>
        cases record : core.state.recordState <;>
          simp [part, record, enabling, RecordCommand.cmd, isSent]

theorem does_noti (command : RecordNotiCommand) (isSuccess : Bool) (message : String) :
    part.Does (CoreMainWorker.processEvent surroundings.toCoreSurroundings core
        (.noti ⟨command.notiEventTypeId, .noti isSuccess message⟩))
      (notifiedState core.state.recordState command isSuccess)
      [{ status := if isSuccess then "success" else "fail"
         message
         command := command.notiEventTypeId.msgData }] [] := by
  refine CorePart.does_noti ?_ ?_ ?_
  · cases command <;> rfl
  · cases command <;> rfl
  · cases command <;> simp [part, RecordNotiCommand.notiEventTypeId, NotiEventTypeID.msgData]

/-- The row is left to `SQLiteDBHandler`, whose message is none of the handler's. -/
theorem does_insertWavFile (payload : NotiPayload) :
    part.Does (CoreMainWorker.processEvent surroundings.toCoreSurroundings core
      (.noti ⟨.insertWavFile, payload⟩)) core.state.recordState [] [] :=
  does_other_noti rfl (by decide)

theorem others (surroundings : GrantedSurroundings) (core : Core) (event : CoreManagerEvent)
    (foreign : event? event = none) :
    part.Does (CoreMainWorker.processEvent surroundings.toCoreSurroundings core event)
      (part.state core.state.toStateView) [] [] := by
  cases event with
  | startup => exact ⟨rfl, rfl, rfl⟩
  | confirmationTimeout payload => exact does_timeout (by decide) payload
  | command event =>
      rcases event with ⟨eventTypeId, payload⟩
      cases eventTypeId with
      | startRecord | stopRecord | cancelRecord => cases foreign
      | _ => exact does_other_command rfl (by decide) (by decide)
  | noti event =>
      rcases event with ⟨eventTypeId, payload⟩
      cases eventTypeId with
      | startRecordNoti | stopRecordNoti | cancelRecordNoti | filterWavFileNoti =>
          cases payload with
          | noti isSuccess message => cases foreign
          | _ => exact ⟨rfl, rfl, rfl⟩
      | insertWavFile => exact does_insertWavFile payload
      | startScanBTDeviceNoti | stopScanBTDeviceNoti | bluetoothPowerOnNoti
      | bluetoothPowerOffNoti | incomingCallNoti | outgoingCallNoti | callStateChangedNoti
      | callEndedNoti | dialCallNoti | answerCallNoti | hangupCallNoti =>
          exact does_other_noti (by cases payload <;> rfl) (by decide)
      | _ =>
          exact does_other_noti
            (congrArg _ (CoreMainWorker.toStateView_processNoti rfl payload)) (by decide)

end Does

theorem request_of_event? {whole : CoreManagerEvent} {command : RecordCommand}
    (known : event? whole = some (.request command)) :
    ∃ payload, whole = .command ⟨command.eventTypeId, payload⟩ := by
  unfold event? at known
  split at known <;> cases known <;> exact ⟨_, rfl⟩

theorem noti_of_event? {whole : CoreManagerEvent} {command : RecordNotiCommand}
    {isSuccess : Bool} {message : String}
    (known : event? whole = some (.noti command isSuccess message)) :
    whole = .noti ⟨command.notiEventTypeId, .noti isSuccess message⟩ := by
  unfold event? at known
  split at known <;> cases known <;> rfl

theorem insertWavFile_of_event? {whole : CoreManagerEvent} {filePath : String}
    {durationSec : Int} (known : event? whole = some (.insertWavFile filePath durationSec)) :
    ∃ payload, whole = .noti ⟨.insertWavFile, payload⟩ := by
  unfold event? at known
  split at known <;> cases known
  exact ⟨_, rfl⟩

theorem alone : part.Alone system where
  init := ⟨rfl, rfl, rfl, rfl⟩
  push _ _ := ⟨_, rfl, rfl, rfl, rfl, rfl⟩
  join handler := ⟨handler, [], rfl, ⟨rfl, rfl, rfl, (List.append_nil _).symm⟩, by simp [part]⟩
  process handler event eventQueue found := by
    have queue : handler.eventQueue = event :: eventQueue := found
    cases event with
    | request command =>
        have processed : handler.processEvent =
            some ({ handler with eventQueue }.request (enabling command) command) := by
          rw [processEvent, queue]
          cases command <;> rfl
        have requested : { handler with eventQueue }.request (enabling command) command =
            { handler with
              eventQueue
              recordState :=
                if handler.recordState = enabling command then .processing
                else handler.recordState
              sent := handler.sent ++
                if handler.recordState = enabling command then [command] else [] } := by
          unfold request
          dsimp only
          split <;> simp_all
        refine ⟨_, _, [], _, processed.trans (congrArg some requested),
          ⟨rfl, rfl, (List.append_nil _).symm, rfl⟩, ?_⟩
        intro surroundings core whole known same
        rcases request_of_event? known with ⟨payload, rfl⟩
        have mirrored : core.state.recordState = handler.recordState := same
        rw [← mirrored]
        exact does_request command payload
    | noti command isSuccess message =>
        have processed : handler.processEvent =
            some ({ handler with
              eventQueue
              recordState := notifiedState handler.recordState command isSuccess }.broadcast
                isSuccess message command.notiEventTypeId.msgData) := by
          rw [processEvent, queue]
          cases command <;> rfl
        refine ⟨_, _, _, [], processed, ⟨rfl, rfl, rfl, (List.append_nil _).symm⟩, ?_⟩
        intro surroundings core whole known same
        rw [noti_of_event? known]
        have mirrored : core.state.recordState = handler.recordState := same
        rw [← mirrored]
        exact does_noti command isSuccess message
    | insertWavFile filePath durationSec =>
        have processed : handler.processEvent = some { handler with eventQueue } := by
          rw [processEvent, queue]
        refine ⟨_, handler.recordState, [], [], processed,
          ⟨rfl, rfl, (List.append_nil _).symm, (List.append_nil _).symm⟩, ?_⟩
        intro surroundings core whole known same
        rcases insertWavFile_of_event? known with ⟨payload, rfl⟩
        have mirrored : core.state.recordState = handler.recordState := same
        rw [← mirrored]
        exact does_insertWavFile payload
  deliver handler message sent found := by
    have isSent : handler.sent = message :: sent := found
    exact ⟨{ handler with sent }, by simp [system, isSent], rfl, rfl, rfl, rfl⟩
  others := others

end RecordHandler

/-- Each of the handlers is in MainWorker what it is by itself. -/
theorem refines_handlers (database : SQLiteDatabase) :
    (CoreManager.system database).Refines AdapterHandler.system AdapterHandler.part.Within ∧
      (CoreManager.system database).Refines CallHandler.system CallHandler.part.Within ∧
      (CoreManager.system database).Refines RecordHandler.system RecordHandler.part.Within :=
  ⟨AdapterHandler.alone.refines database, CallHandler.alone.refines database,
    RecordHandler.alone.refines database⟩

end RaspberryPiService
