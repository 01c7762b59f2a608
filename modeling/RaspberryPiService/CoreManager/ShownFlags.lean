import RaspberryPiService.CoreManager.ShownMessages
import RaspberryPiService.Transition.Publication

/-!
# Flags on the screens of the clients

A client learns whether a recording goes on, whether the adapter is on and whether it scans
from the documents of `sendInitStateToClient` when it joins, and later from the replies to
the commands about them, which the core takes in the same way when it changes its
`StateView`. While such a command is under way the core does not know the flag either, and
nothing is claimed about what the clients show.
-/

namespace RaspberryPiService

open Publication

/-- The flags of the `StateView` that a client is sent when it joins. -/
inductive CoreFlag where
  | recording
  | bluetoothPower
  | scanning
deriving DecidableEq

def RecordState.flag : RecordState → Option Bool
  | .stopped => some false
  | .recording => some true
  | .processing => none

def SwitchState.flag : SwitchState → Option Bool
  | .off => some false
  | .on => some true
  | .processing => none

namespace CoreFlag

/-- The flag, which has no value while a command about it is under way. -/
def value : CoreFlag → CoreState → Option Bool
  | recording, state => state.recordState.flag
  | bluetoothPower, state => state.bluetoothPowerState.flag
  | scanning, state => state.scanningBTDeviceState.flag

def component : CoreFlag → String
  | recording => "Record"
  | bluetoothPower | scanning => "Settings"

/-- The key of the flag in the document for a client that joins. -/
def key : CoreFlag → String
  | recording => "is_recording"
  | bluetoothPower => "bluetooth_power_state"
  | scanning => "scanning_btdevice_state"

/-- What the reply to a command tells of the flag. -/
def reply : CoreFlag → String → Bool → Option Bool
  | recording, command, isSuccess =>
      if command = "start_record_noti" then some isSuccess
      else if command = "stop_record_noti" ∨ command = "cancel_record_noti" then some false
      else none
  | bluetoothPower, command, isSuccess =>
      if command = "bluetooth_power_on_noti" then some isSuccess
      else if command = "bluetooth_power_off_noti" then some !isSuccess
      else none
  | scanning, command, isSuccess =>
      if command = "start_scan_btdevice_noti" then some isSuccess
      else if command = "stop_scan_btdevice_noti" then some !isSuccess
      else none

/-- What a message tells of the flag. -/
def told (flag : CoreFlag) (message : StatusMessage) : Option Bool :=
  if message.component = flag.component then
    if message.command = "initial_state" then
      match message.data.member? flag.key with
      | some (.boolean value) => some value
      | _ => none
    else flag.reply message.command (message.status = "success")
  else none

/-- What a document tells of the flag. -/
def toldIn (flag : CoreFlag) (document : Json) : Option Bool :=
  (StatusMessage.read document).bind flag.told

@[simp] theorem toldIn_document (flag : CoreFlag) (message : StatusMessage) :
    flag.toldIn message.document = flag.told message := by
  simp [toldIn]

/-- Messages with the command are not about the flag. -/
def Unrelated (flag : CoreFlag) (command : String) : Prop :=
  command ≠ "initial_state" ∧ ∀ isSuccess, flag.reply command isSuccess = none

instance (flag : CoreFlag) (command : String) : Decidable (flag.Unrelated command) :=
  inferInstanceAs (Decidable (_ ∧ _))

end CoreFlag

/-- The core as the publisher of what it shows to its clients. -/
def coreServer : Publisher Core (CoreSurroundings × CoreManagerEvent) Json where
  react core event :=
    let (core, effects) := CoreMainWorker.processEvent event.1 core event.2
    (core, shownDocuments effects)
  parts := WebSocketServer.sendInitStateToClient.map fun part core => (part core.state).document

namespace CoreFlag

variable {flag : CoreFlag} {state next : CoreState} {documents : List Json}

/-- The documents tell the truth about the flag, and tell it when it changes. -/
structure Follows (flag : CoreFlag) (state next : CoreState) (documents : List Json) : Prop where
  truly : ∀ document ∈ documents, TellsTruly flag.toldIn flag.value next document
  change : flag.value next = flag.value state ∨ flag.value next = none ∨
    ∃ document ∈ documents, (flag.toldIn document).isSome

theorem told_of_unrelated {message : StatusMessage} (unrelated : flag.Unrelated message.command) :
    flag.told message = none := by
  rw [told, if_neg unrelated.1, unrelated.2, ite_self]

/-- A handler that shows something else, or nothing. -/
theorem follows_of_unrelated {command : String} (shown : Shows command documents)
    (unrelated : flag.Unrelated command)
    (same : flag.value next = flag.value state) : flag.Follows state next documents where
  truly document member heard isHeard := by
    rcases shown with rfl | ⟨message, rfl, rfl⟩
    · cases member
    · rw [List.mem_singleton.mp member, toldIn_document, told_of_unrelated unrelated] at isHeard
      cases isHeard
  change := Or.inl same

/-- A handler that shows nothing makes no difference, unless a command gets under way. -/
theorem follows_nil (same : flag.value next = flag.value state ∨ flag.value next = none) :
    flag.Follows state next [] where
  truly := by simp
  change := by
    rcases same with same | unknown
    · exact Or.inl same
    · exact Or.inr (Or.inl unknown)

/-- A message that tells the flag as the handler leaves it. -/
theorem follows_of_told {message : StatusMessage}
    (told : flag.told message = flag.value next) :
    flag.Follows state next [message.document] where
  truly document member heard isHeard present isPresent := by
    rw [List.mem_singleton.mp member, toldIn_document, told, isPresent] at isHeard
    exact (Option.some.inj isHeard).symm
  change := by
    right
    cases known : flag.value next with
    | none => exact Or.inl rfl
    | some present => exact Or.inr ⟨message.document, by simp, by simp [told, known]⟩

end CoreFlag

namespace CoreState

variable {flag : CoreFlag} {state : CoreState} {payload : NotiPayload}

/-- A handler on the state follows the flag. -/
abbrev Follows (flag : CoreFlag) (state : CoreState) (handled : CoreState × List CoreEffect) :
    Prop :=
  flag.Follows state handled.1 (shownDocuments handled.2)

/-- `CALL_STATE` is none of the flags. -/
theorem value_callState (flag : CoreFlag) (state : CoreState) (callState : CallState) :
    flag.value { state with callState := callState } = flag.value state := by
  cases flag <;> rfl

theorem value_showCall (flag : CoreFlag) (state : CoreState) (payload : NotiPayload)
    (callState : String → CallState) (msgInfo msgData : String) :
    flag.value (state.showCall payload callState msgInfo msgData).1 = flag.value state := by
  cases payload <;> first | rfl | exact value_callState _ _ _

theorem value_showReply (flag : CoreFlag) (state : CoreState) (payload : NotiPayload)
    (msgData : String) : flag.value (state.showReply payload msgData).1 = flag.value state := by
  cases payload <;> first | rfl | exact value_callState _ _ _

theorem value_passOnSuccess (flag : CoreFlag) (state : CoreState) (payload : NotiPayload)
    (msgData : String) : flag.value (state.passOnSuccess payload msgData).1 = flag.value state := by
  unfold passOnSuccess
  split
  · split <;> rfl
  · rfl

theorem value_updateTemperatureNOTI (flag : CoreFlag) (state : CoreState) (payload : NotiPayload)
    (undefinedCast : FloatValue → Int32) :
    flag.value (state.updateTemperatureNOTI payload undefinedCast).1 = flag.value state := by
  unfold updateTemperatureNOTI
  split
  · split
    · dsimp only
      split
      · cases flag <;> rfl
      · rfl
    · rfl
  · rfl

theorem value_scanningBTDeviceState {other : CoreFlag} (differs : other ≠ .scanning)
    (switch : SwitchState) :
    other.value { state with scanningBTDeviceState := switch } = other.value state := by
  cases other <;> first | rfl | exact absurd rfl differs

theorem value_bluetoothPowerState {other : CoreFlag} (differs : other ≠ .bluetoothPower)
    (switch : SwitchState) :
    other.value { state with bluetoothPowerState := switch } = other.value state := by
  cases other <;> first | rfl | exact absurd rfl differs

theorem value_recordState {other : CoreFlag} (differs : other ≠ .recording)
    (recordState : RecordState) :
    other.value { state with recordState } = other.value state := by
  cases other <;> first | rfl | exact absurd rfl differs

/-- A handler that overwrites one flag with what the reply to a command tells of it. -/
theorem follows_reply (about : CoreFlag) {later : Bool → CoreState} {component command : String}
    (isTold : ∀ isSuccess msgInfo, about.told
      { status := if isSuccess then "success" else "fail"
        msg := msgInfo
        component
        command
        data := .null } = about.value (later isSuccess))
    (unrelated : ∀ other, other ≠ about → other.Unrelated command)
    (others : ∀ isSuccess other, other ≠ about →
      other.value (later isSuccess) = other.value state) :
    Follows flag state (match payload with
      | .noti isSuccess msgInfo =>
          (later isSuccess, showNoti isSuccess msgInfo component command .null)
      | _ => (state, [])) := by
  cases payload with
  | noti isSuccess msgInfo =>
      by_cases same : flag = about
      · subst same
        exact CoreFlag.follows_of_told (isTold isSuccess msgInfo)
      · exact CoreFlag.follows_of_unrelated (shows_document _) (unrelated flag same)
          (others isSuccess flag same)
  | _ => exact CoreFlag.follows_nil (Or.inl rfl)

theorem follows_startScanBTDeviceNOTI :
    Follows flag state (state.startScanBTDeviceNOTI payload) :=
  follows_reply .scanning (by rintro (_ | _) _ <;> rfl) (by rintro (_ | _ | _) <;> decide)
    fun _ _ differs => value_scanningBTDeviceState differs _

theorem follows_stopScanBTDeviceNOTI :
    Follows flag state (state.stopScanBTDeviceNOTI payload) :=
  follows_reply .scanning (by rintro (_ | _) _ <;> rfl) (by rintro (_ | _ | _) <;> decide)
    fun _ _ differs => value_scanningBTDeviceState differs _

theorem follows_bluetoothPowerOnNOTI :
    Follows flag state (state.bluetoothPowerOnNOTI payload) :=
  follows_reply .bluetoothPower (by rintro (_ | _) _ <;> rfl) (by rintro (_ | _ | _) <;> decide)
    fun _ _ differs => value_bluetoothPowerState differs _

theorem follows_bluetoothPowerOffNOTI :
    Follows flag state (state.bluetoothPowerOffNOTI payload) :=
  follows_reply .bluetoothPower (by rintro (_ | _) _ <;> rfl) (by rintro (_ | _ | _) <;> decide)
    fun _ _ differs => value_bluetoothPowerState differs _

theorem follows_startRecordNOTI : Follows flag state (state.startRecordNOTI payload) :=
  follows_reply .recording (by rintro (_ | _) _ <;> rfl) (by rintro (_ | _ | _) <;> decide)
    fun _ _ differs => value_recordState differs _

theorem follows_stopRecordNOTI : Follows flag state (state.stopRecordNOTI payload) :=
  follows_reply .recording (by rintro (_ | _) _ <;> rfl) (by rintro (_ | _ | _) <;> decide)
    fun _ _ differs => value_recordState differs _

theorem follows_cancelRecordNOTI : Follows flag state (state.cancelRecordNOTI payload) :=
  follows_reply .recording (by rintro (_ | _) _ <;> rfl) (by rintro (_ | _ | _) <;> decide)
    fun _ _ differs => value_recordState differs _

/-- A command leaves a flag as it is, or gets under way. -/
theorem value_processEvent (flag : CoreFlag) (state : CoreState) (memory : Memory)
    (event : CoreEvent) :
    let view := (state.toStateView.processEvent memory event).1
    flag.value { state with toStateView := view } = flag.value state ∨
      flag.value { state with toStateView := view } = none := by
  rcases event with ⟨eventTypeId, payload⟩
  cases eventTypeId with
  | startScanBTDevice | stopScanBTDevice =>
      simp only [StateView.processEvent, StateView.startScanBTDevice, StateView.stopScanBTDevice]
      split <;> cases flag <;> simp [CoreFlag.value, SwitchState.flag]
  | bluetoothPowerOn | bluetoothPowerOff =>
      simp only [StateView.processEvent, StateView.bluetoothPowerOn, StateView.bluetoothPowerOff]
      split <;> cases flag <;> simp [CoreFlag.value, SwitchState.flag]
  | startRecord | stopRecord | cancelRecord =>
      simp only [StateView.processEvent, StateView.startRecord, StateView.stopRecord,
        StateView.cancelRecord]
      split <;> cases flag <;> simp [CoreFlag.value, RecordState.flag]
  | pairBTDevice | unpairBTDevice | connectBTDevice | disconnectBTDevice
  | acceptRequestConfirmation | rejectRequestConfirmation =>
      left
      simp only [StateView.processEvent, StateView.pairBTDevice, StateView.unpairBTDevice,
        StateView.connectBTDevice, StateView.disconnectBTDevice,
        StateView.acceptBTDeviceRequestConfirmation, StateView.rejectBTDeviceRequestConfirmation,
        StateView.sendDeviceAddress]
      split <;> rfl
  | dialCall =>
      left
      simp only [StateView.processEvent, StateView.dialCall]
      split
      · split
        · exact value_callState flag state .processing
        · rfl
      all_goals rfl
  | hangupCall | answerCall =>
      left
      simp only [StateView.processEvent, StateView.hangupCall, StateView.answerCall]
      split
      all_goals first | rfl | exact value_callState flag state .processing
  | removeRecord | getAllRecord => exact Or.inl rfl

end CoreState

namespace CoreMainWorker

variable {flag : CoreFlag} {surroundings : CoreSurroundings} {core : Core}

/-- What an event makes of the core follows the flag. -/
abbrev Follows (flag : CoreFlag) (core : Core) (handled : Core × List CoreEffect) : Prop :=
  flag.Follows core.state handled.1.state (shownDocuments handled.2)

theorem follows_processNoti (event : NotiEvent) :
    Follows flag core (processNoti surroundings core event) := by
  rcases event with ⟨eventTypeId, payload⟩
  have shown : Shows eventTypeId.msgData
      (shownDocuments (processNoti surroundings core ⟨eventTypeId, payload⟩).2) :=
    shows_processNoti _
  cases eventTypeId with
  | startScanBTDeviceNoti => exact CoreState.follows_startScanBTDeviceNOTI
  | stopScanBTDeviceNoti => exact CoreState.follows_stopScanBTDeviceNOTI
  | bluetoothPowerOnNoti => exact CoreState.follows_bluetoothPowerOnNOTI
  | bluetoothPowerOffNoti => exact CoreState.follows_bluetoothPowerOffNOTI
  | startRecordNoti => exact CoreState.follows_startRecordNOTI
  | stopRecordNoti => exact CoreState.follows_stopRecordNOTI
  | cancelRecordNoti => exact CoreState.follows_cancelRecordNOTI
  | updateTemperatureNoti =>
      apply CoreFlag.follows_of_unrelated shown (by cases flag <;> decide)
      exact CoreState.value_updateTemperatureNOTI _ _ _ _
  | incomingCallNoti | outgoingCallNoti | callStateChangedNoti | callEndedNoti =>
      apply CoreFlag.follows_of_unrelated shown (by cases flag <;> decide)
      exact CoreState.value_showCall _ _ _ _ _ _
  | dialCallNoti | answerCallNoti | hangupCallNoti =>
      apply CoreFlag.follows_of_unrelated shown (by cases flag <;> decide)
      exact CoreState.value_showReply _ _ _ _
  | pbapPhonebookPullStartNoti | pbapPhonebookPullEndNoti | callHistoryPullStartNoti
  | callHistoryPullEndNoti =>
      apply CoreFlag.follows_of_unrelated shown (by cases flag <;> decide)
      exact CoreState.value_passOnSuccess _ _ _ _
  | insertWavFile =>
      apply CoreFlag.follows_of_unrelated shown (by cases flag <;> decide)
      rfl
  -- These handlers leave the state as it is.
  | scanningBTDeviceFoundNoti | scanningBTDeviceDeleteNoti | btDevicePropertyChangeNoti
  | pairBTDeviceNoti | unpairBTDeviceNoti | connectBTDeviceNoti | disconnectBTDeviceNoti
  | btDeviceRequestConfirmationNoti | pbapSessionEndNoti | pbapPhonebookPullNoti
  | callHistoryPullNoti | filterWavFileNoti =>
      apply CoreFlag.follows_of_unrelated shown (by cases flag <;> decide)
      cases payload <;> rfl

theorem follows_processCommand (event : CoreEvent) :
    Follows flag core (processCommand surroundings core event) := by
  unfold processCommand
  split
  · exact CoreFlag.follows_of_unrelated (shows_removeRecordRow event.payload)
      (by cases flag <;> decide) rfl
  · exact CoreFlag.follows_of_unrelated shows_getAllAudioRecords (by cases flag <;> decide) rfl
  · simp only [Follows, shownDocuments_sent]
    exact CoreFlag.follows_nil (CoreState.value_processEvent _ _ _ _)

theorem follows_processEvent (event : CoreManagerEvent) :
    Follows flag core (processEvent surroundings core event) := by
  cases event with
  | startup => exact CoreFlag.follows_nil (Or.inl rfl)
  | command event => exact follows_processCommand event
  | noti event => exact follows_processNoti event
  | confirmationTimeout payload =>
      simp only [Follows, processEvent, shownDocuments_processTimeout]
      apply CoreFlag.follows_nil
      left
      cases payload with
      | none => rfl
      | some payload => cases payload <;> rfl

end CoreMainWorker

namespace CoreFlag

/-- The number of the part of `sendInitStateToClient` that tells the flag. -/
def part : CoreFlag → Nat
  | recording => 1
  | bluetoothPower | scanning => 2

open WebSocketServer

theorem told_initialTemperature (flag : CoreFlag) (state : CoreState) :
    flag.told (initialTemperature state) = none := by
  cases flag <;> simp [told, initialTemperature, component]

theorem told_initialRecord (flag : CoreFlag) (state : CoreState) :
    flag.told (initialRecord state) =
      if flag = .recording then some (decide (state.recordState = .recording)) else none := by
  cases flag <;> simp [told, initialRecord, component, key, Json.member?_assigned]

theorem told_initialSettings (flag : CoreFlag) (state : CoreState) :
    flag.told (initialSettings state) =
      match flag with
      | recording => none
      | bluetoothPower => some (decide (state.bluetoothPowerState = .on))
      | scanning => some (decide (state.scanningBTDeviceState = .on)) := by
  cases flag <;>
    simp [told, initialSettings, component, key, Json.member?_assigned, List.lookup_cons]

theorem eq_of_flag_recordState {state : RecordState} {present : Bool}
    (isPresent : state.flag = some present) : decide (state = .recording) = present := by
  cases state <;> simp_all [RecordState.flag]

theorem eq_of_flag_switchState {state : SwitchState} {present : Bool}
    (isPresent : state.flag = some present) : decide (state = .on) = present := by
  cases state <;> simp_all [SwitchState.flag]

theorem tellsTruly_part (flag : CoreFlag) (core : Core) {part : Core → Json}
    (member : part ∈ coreServer.parts) :
    TellsTruly flag.toldIn (fun core => flag.value core.state) core (part core) := by
  intro heard isHeard present isPresent
  simp only [coreServer, sendInitStateToClient, List.map_cons, List.map_nil, List.mem_cons,
    List.not_mem_nil, or_false] at member
  rcases member with rfl | rfl | rfl
  · simp [told_initialTemperature] at isHeard
  · cases flag with
    | recording =>
        simp only [toldIn_document, told_initialRecord, if_true, Option.some.injEq] at isHeard
        rw [← isHeard]
        exact eq_of_flag_recordState isPresent
    | bluetoothPower | scanning => simp [told_initialRecord] at isHeard
  · cases flag with
    | recording => simp [told_initialSettings] at isHeard
    | bluetoothPower | scanning =>
        simp only [toldIn_document, told_initialSettings, Option.some.injEq] at isHeard
        rw [← isHeard]
        exact eq_of_flag_switchState isPresent

theorem tellsValue (flag : CoreFlag) :
    TellsValue coreServer flag.toldIn (fun core => flag.value core.state) flag.part where
  parts _ member core := tellsTruly_part flag core member
  messages _ _ := (CoreMainWorker.follows_processEvent _).truly
  change _ _ := (CoreMainWorker.follows_processEvent _).change
  part_tells := by
    cases flag with
    | recording => exact ⟨_, rfl, by simp [told_initialRecord]⟩
    | bluetoothPower | scanning => exact ⟨_, rfl, by simp [told_initialSettings]⟩

/--
Whatever the clients, the other managers and the timers do, and whenever clients join and
leave: once nothing is left to be broadcast, every client knows whether a recording goes
on, whether the adapter is on and whether it scans, unless a command about it is under way.
-/
theorem known_of_settled (flag : CoreFlag) {core : Core} {publication : Publication Core Json}
    {schedule : List (Publication.Action (CoreSurroundings × CoreManagerEvent))}
    (ran : (Publication.protocol coreServer core).run schedule = some publication)
    (settled : publication.Settled) {client : Nat} {documents : List Json}
    (member : (client, documents) ∈ publication.readers) {present : Bool}
    (isPresent : flag.value publication.state.state = some present) :
    documents.foldl (receiveValue flag.toldIn) none = some present :=
  knows_of_settled flag.tellsValue ran settled _ member present isPresent

/-- A client joins while a recording starts. -/
def joinWhileStarting : List (Publication.Action (CoreSurroundings × CoreManagerEvent)) :=
  [.event ({}, .command (ClientCommand.event .startRecord)), .join 7, .sendPart, .sendPart,
    .event ({}, .noti ⟨.startRecordNoti, .noti true "Record started"⟩), .sendPart, .sendPart,
    .publish]

theorem known_joinWhileStarting : ∃ publication documents,
    (Publication.protocol coreServer {}).run joinWhileStarting = some publication ∧
      (7, documents) ∈ publication.readers ∧ documents.length = 4 ∧
        documents.foldl (receiveValue recording.toldIn) none = some true := by
  refine ⟨_, _, rfl, List.mem_cons_self, rfl, ?_⟩
  have ran : (Publication.protocol coreServer {}).run joinWhileStarting = some _ := rfl
  exact known_of_settled recording ran ⟨rfl, rfl⟩ List.mem_cons_self rfl

end CoreFlag

end RaspberryPiService
