import RaspberryPiService.ClientCommands
import RaspberryPiService.HardwareManager.DeviceSignals
import RaspberryPiService.ShownNotifications

/-!
# Answers to the commands of a client

A command about the adapter, a device or a call goes through the core to the hardware
manager, which calls BlueZ or oFono for it, and what it tells about the call comes back
through the core to the clients. They are shown one reply at most, under the name that
belongs to the command. There is none if BlueZ has taken the command, since its signals tell
of the change later; nor is there one if a hang-up finds no modem, or if there is no message
for the power. Only the replies about a connection say which device they are about.
-/

namespace RaspberryPiService

open Throws

/-- The message of an error is a C string. -/
def MethodOutcome.IsNulFree : MethodOutcome → Prop
  | .error message => NulFree message
  | .notCreated | .success => True

def BusAnswers.IsNulFree (answers : BusAnswers) : Prop :=
  answers.outcome.IsNulFree ∧ ∀ path, (answers.deviceOutcome path).IsNulFree

/-- What the clients are shown of a notification, once the core has received it. -/
def HardwareNoti.documents (memory : Memory) (surroundings : CoreSurroundings) (core : Core)
    (noti : HardwareNoti) : List Json :=
  (Notifier.hardwareManager.sendMessageNoti memory noti.cmd noti.isSuccess noti.info).flatMap
    fun msg =>
      match CoreReceiver.receive msg with
      | .ok events => NotiEvent.documents surroundings core events
      | .error _ => []

namespace ClientCommand

/-- The notification that answers a command. -/
def answer : ClientCommand → Option DBusCommand
  | .startScanBTDevice => some .startScanBTDeviceNoti
  | .stopScanBTDevice => some .stopScanBTDeviceNoti
  | .bluetoothPowerOn => some .bluetoothPowerOnNoti
  | .bluetoothPowerOff => some .bluetoothPowerOffNoti
  | .pairBTDevice _ => some .pairBTDeviceNoti
  | .unpairBTDevice _ => some .unpairBTDeviceNoti
  | .connectBTDevice _ => some .connectBTDeviceNoti
  | .disconnectBTDevice _ => some .disconnectBTDeviceNoti
  | .dialCall _ => some .dialCallNoti
  | .hangupCall => some .hangupCallNoti
  | .answerCall => some .answerCallNoti
  | _ => none

/-- The device that a command is about. -/
def address? : ClientCommand → Option String
  | .pairBTDevice address | .unpairBTDevice address | .connectBTDevice address
  | .disconnectBTDevice address => some address
  | _ => none

/-- The device that the reply names; the core drops it for a pairing and an unpairing. -/
def shownAddress? : ClientCommand → Option String
  | .connectBTDevice address | .disconnectBTDevice address => some address
  | _ => none

section Outcome

variable {Request : Type} (manager : HardwareManager Request) (answers : BusAnswers)

/-- Nothing is told about the command. -/
def Unanswered : ClientCommand → Prop
  | .startScanBTDevice | .stopScanBTDevice => answers.outcome = .success
  | .bluetoothPowerOn | .bluetoothPowerOff =>
      answers.outcome = .success ∨ answers.outcome = .notCreated
  | .pairBTDevice address | .unpairBTDevice address | .connectBTDevice address
  | .disconnectBTDevice address => manager.bluezDBus.deviceOutcome answers address = .success
  | .hangupCall => manager.ofonoDBus.modemPath = ""
  | .dialCall _ | .answerCall => False
  | _ => True

/-- The command is answered with a success. -/
def Succeeds : ClientCommand → Prop
  | .dialCall _ => manager.ofonoDBus.modemPath ≠ "" ∧ answers.outcome = .success
  | .hangupCall => answers.outcome = .success
  | .answerCall =>
      manager.ofonoDBus.activeCallPaths ≠ [] ∧
        manager.ofonoDBus.findIncomingCall answers.calls 0 manager.ofonoDBus.activeCallPaths ≠ "" ∧
          answers.outcome = .success
  | _ => False

/-- The message is of the kind of the command, and says how it ended and for which device. -/
structure IsReply (command : ClientCommand) (shown : ShownNoti) (message : StatusMessage) :
    Prop where
  component : message.component = shown.component
  name : message.command = shown.command
  success : command.Succeeds manager answers → message.status = "success"
  failure : ¬ command.Succeeds manager answers → message.status = "fail"
  address : message.data.member? "device_address" = command.shownAddress?.map .string

/-- The clients are shown one reply to the command, and nothing else. -/
def ShowsReply (command : ClientCommand) (documents : List Json) : Prop :=
  ∃ cmd shown message, command.answer = some cmd ∧ cmd.shown = some shown ∧
    documents = [StatusMessage.document message] ∧
      command.IsReply manager answers shown message

/-- What the hardware manager tells about the command. -/
structure Told (command : ClientCommand) (sent : List HardwareNoti) : Prop where
  nothing : command.Unanswered manager answers → sent = []
  reply : ¬ command.Unanswered manager answers → ∃ noti, sent = [noti] ∧
    command.answer = some noti.cmd ∧ noti.info.IsNulFree ∧
      (noti.isSuccess = true ↔ command.Succeeds manager answers) ∧
        ∀ address ∈ command.address?, noti.info.get .btDeviceAddress = address

end Outcome

end ClientCommand

namespace HardwareNoti

variable {memory : Memory} {noti : HardwareNoti} {shown : ShownNoti}

/-- A notification of which failures are shown as well has one document. -/
theorem documents_of_shown (granted : ∀ call, memory call)
    (known : noti.cmd ∈ Notifier.hardwareManager.commands) (nulFree : noti.info.IsNulFree)
    (convertible : DBusReceiver.Convertible (some noti.cmd) noti.isSuccess noti.info.get)
    (isShown : noti.cmd.shown = some shown) (failures : shown.failures = true)
    (surroundings : CoreSurroundings) (core : Core) :
    ∃ message : StatusMessage,
      noti.documents memory surroundings core = [message.document] ∧
        shown.Tells noti.isSuccess noti.info message := by
  rcases Notifier.exists_sent (fun call _ => granted call) known with ⟨msg, sent⟩
  rcases DBusReceiver.handleMessageNoti_returns_iff.mpr convertible with ⟨events, handled⟩
  have received : CoreReceiver.receive msg = .ok events := by
    rw [CoreReceiver.receive_of_sent (by rw [sent]; exact List.mem_singleton_self _) nulFree,
      handled]
  have told : shown.Shown noti.isSuccess noti.info
      (NotiEvent.documents surroundings core events) :=
    ShownNoti.shown_of_handled isShown handled
  rw [ShownNoti.Shown, if_pos (Or.inr failures)] at told
  simpa only [documents, sent, List.flatMap_cons, List.flatMap_nil, List.append_nil, received]
    using told

end HardwareNoti

namespace HardwareManager

variable {Request : Type} {manager : HardwareManager Request} {answers : BusAnswers}

theorem report_eq (connected : answers.sender = .connected) (sets : List PropertySet)
    (notis : List HardwareNoti) :
    manager.report answers sets notis = .ok (manager, { sent := notis, sets }) := by
  obtain ⟨later, notified⟩ : Returns (HardwareSender.notify answers.sender [] notis) :=
    HardwareSender.returns_notify_iff.mpr fun _ => connected
  have isLater := BluezDBus.notify_eq_ok notified
  rw [List.nil_append] at isLater
  rw [report, notified, isLater]
  rfl

end HardwareManager

/-- What is sent about a command to the adapter is its failure. -/
theorem BluezDBus.failure_of_execute {adapterCommand : AdapterCommand} {outcome : MethodOutcome}
    {noti : AdapterNoti} (sent : execute adapterCommand outcome = some noti)
    (text : outcome.IsNulFree) :
    noti.command = adapterCommand ∧ noti.isSuccess = false ∧ NulFree noti.message := by
  cases outcome with
  | notCreated => cases adapterCommand <;> cases sent <;> exact ⟨rfl, rfl, by decide +kernel⟩
  | error message =>
      cases adapterCommand <;> cases sent <;> exact ⟨rfl, rfl, .append (by decide +kernel) text⟩
  | success => cases adapterCommand <;> cases sent

namespace ClientCommand

variable {Request : Type} {manager : HardwareManager Request} {answers : BusAnswers}
  {command : ClientCommand}

/-- A command about a device: BlueZ takes it or fails. -/
theorem told_deviceFailure {cmd : DBusCommand} {method error address : String}
    {outcome : MethodOutcome} (answered : command.answer = some cmd)
    (about : ∀ other ∈ command.address?, address = other)
    (unanswered : command.Unanswered manager answers ↔ outcome = .success)
    (fails : ¬ command.Succeeds manager answers) (text : outcome.IsNulFree)
    (methodFree : NulFree ("Failed to create D-Bus message for " ++ method))
    (errorFree : NulFree error) (addressFree : NulFree address) :
    command.Told manager answers (BluezDBus.deviceFailure cmd method error address outcome) := by
  have reply : ∀ {message : String}, NulFree message → command.answer = some cmd ∧
      ((DBusDataInfo.init.set .btDeviceAddress address).set .message message).IsNulFree ∧
      (false = true ↔ command.Succeeds manager answers) ∧
      ∀ other ∈ command.address?, ((DBusDataInfo.init.set .btDeviceAddress address).set .message
        message).get .btDeviceAddress = other := by
    intro message messageFree
    refine ⟨answered, (DBusDataInfo.isNulFree_init.set _ addressFree).set _ messageFree,
      iff_of_false (by simp) fails, ?_⟩
    intro other member
    rw [DBusDataInfo.get_set_of_ne _ _ (by decide), DBusDataInfo.get_set]
    exact about other member
  cases outcome with
  | notCreated =>
      exact ⟨fun taken => by simpa using unanswered.mp taken,
        fun _ => ⟨_, rfl, reply methodFree⟩⟩
  | error message =>
      exact ⟨fun taken => by simpa using unanswered.mp taken,
        fun _ => ⟨_, rfl, reply (errorFree.append text)⟩⟩
  | success => exact ⟨fun _ => rfl, fun failed => absurd (unanswered.mpr rfl) failed⟩

theorem told_nothing (unanswered : command.Unanswered manager answers) :
    command.Told manager answers [] :=
  ⟨fun _ => rfl, fun answered => absurd unanswered answered⟩

/-- A reply with a message and nothing else. -/
theorem told_reply {cmd : DBusCommand} {isSuccess : Bool} {message : String}
    (answered : command.answer = some cmd) (general : command.address? = none)
    (isReply : ¬ command.Unanswered manager answers)
    (succeeds : isSuccess = true ↔ command.Succeeds manager answers)
    (messageFree : NulFree message) :
    command.Told manager answers [{ cmd, isSuccess, info := .set .init .message message }] := by
  refine ⟨fun unanswered => absurd unanswered isReply, ?_⟩
  refine fun _ => ⟨_, rfl, answered, ?_, succeeds, ?_⟩
  · exact DBusDataInfo.isNulFree_init.set _ messageFree
  · rw [general]
    simp

/-- A failed command about the adapter. -/
theorem told_adapter (adapterCommand : AdapterCommand)
    (answered : command.answer = some adapterCommand.notiCommand)
    (general : command.address? = none) (fails : ¬ command.Succeeds manager answers)
    (unanswered : command.Unanswered manager answers ↔
      BluezDBus.execute adapterCommand answers.outcome = none)
    (text : answers.outcome.IsNulFree) :
    command.Told manager answers
      ((BluezDBus.execute adapterCommand answers.outcome).map
        AdapterNoti.toHardwareNoti).toList := by
  cases sent : BluezDBus.execute adapterCommand answers.outcome with
  | none => exact told_nothing (unanswered.mpr sent)
  | some noti =>
      have isReply : ¬ command.Unanswered manager answers := by
        rw [unanswered, sent]
        simp
      rcases noti with ⟨notiCommand, isSuccess, message⟩
      obtain ⟨rfl, rfl, messageFree⟩ := BluezDBus.failure_of_execute sent text
      exact told_reply answered general isReply (iff_of_false (by simp) fails) messageFree

theorem told_dialCall (number : String) (text : answers.outcome.IsNulFree) :
    (dialCall number).Told manager answers
      ((manager.ofonoDBus.dialCall answers.outcome).map CallNoti.toHardwareNoti) := by
  unfold OfonoDBus.dialCall
  split
  · next noModem =>
      exact told_reply rfl rfl id (by simp [Succeeds, noModem]) (by decide +kernel)
  · next modem =>
      cases outcome : answers.outcome with
      | notCreated => exact told_reply rfl rfl id (by simp [Succeeds, outcome]) (by decide +kernel)
      | error message =>
          rw [outcome] at text
          exact told_reply rfl rfl id (by simp [Succeeds, outcome])
            (.append (by decide +kernel) text)
      | success =>
          exact told_reply rfl rfl id (by simp [Succeeds, outcome, modem]) (by decide +kernel)

theorem told_hangupCall (text : answers.outcome.IsNulFree) :
    hangupCall.Told manager answers
      ((manager.ofonoDBus.hangupCall answers.outcome).map CallNoti.toHardwareNoti) := by
  unfold OfonoDBus.hangupCall
  split
  · next noModem => exact told_nothing noModem
  · next modem =>
      cases outcome : answers.outcome with
      | notCreated =>
          exact told_reply rfl rfl modem (by simp [Succeeds, outcome]) (by decide +kernel)
      | error message =>
          rw [outcome] at text
          exact told_reply rfl rfl modem (by simp [Succeeds, outcome])
            (.append (by decide +kernel) text)
      | success =>
          exact told_reply rfl rfl modem (by simp [Succeeds, outcome]) (by decide +kernel)

theorem told_answerCall (text : answers.outcome.IsNulFree) :
    answerCall.Told manager answers
      ((manager.ofonoDBus.answerCall answers.calls answers.outcome).map
        CallNoti.toHardwareNoti) := by
  unfold OfonoDBus.answerCall
  split
  · next noCalls =>
      exact told_reply rfl rfl id (by simp [Succeeds, noCalls]) (by decide +kernel)
  · next calls =>
      split
      · next noneComes =>
          exact told_reply rfl rfl id (by simp [Succeeds, noneComes]) (by decide +kernel)
      · next comes =>
          cases outcome : answers.outcome with
          | notCreated =>
              exact told_reply rfl rfl id (by simp [Succeeds, outcome]) (by decide +kernel)
          | error message =>
              rw [outcome] at text
              exact told_reply rfl rfl id (by simp [Succeeds, outcome])
                (.append (by decide +kernel) text)
          | success =>
              exact told_reply rfl rfl id (by simp [Succeeds, outcome, calls, comes])
                (by decide +kernel)

/-- The operation of a command returns, and what it tells is about the command. -/
theorem told_perform {cmd : DBusCommand} {operation : Operation}
    (answered : command.answer = some cmd) (isOperation : command.operation = some operation)
    (nulFree : command.IsNulFree) (connected : answers.sender = .connected)
    (texts : answers.IsNulFree) (manager : HardwareManager Request) :
    ∃ next effects, manager.perform answers operation = .ok (next, effects) ∧
      command.Told manager answers effects.sent := by
  rcases texts with ⟨text, deviceTexts⟩
  cases command with
  | startScanBTDevice =>
      cases isOperation
      refine ⟨_, _, HardwareManager.report_eq connected _ _,
        told_adapter .startScanBTDevice rfl rfl id ?_ text⟩
      cases outcome : answers.outcome <;>
        simp [Unanswered, outcome, BluezDBus.execute, BluezDBus.startDiscovery]
  | stopScanBTDevice =>
      cases isOperation
      refine ⟨_, _, HardwareManager.report_eq connected _ _,
        told_adapter .stopScanBTDevice rfl rfl id ?_ text⟩
      cases outcome : answers.outcome <;>
        simp [Unanswered, outcome, BluezDBus.execute, BluezDBus.stopDiscovery]
  | bluetoothPowerOn =>
      cases isOperation
      refine ⟨_, _, HardwareManager.report_eq connected _ _,
        told_adapter .bluetoothPowerOn rfl rfl id ?_ text⟩
      cases outcome : answers.outcome <;>
        simp [Unanswered, outcome, BluezDBus.execute, BluezDBus.setPower]
  | bluetoothPowerOff =>
      cases isOperation
      refine ⟨_, _, HardwareManager.report_eq connected _ _,
        told_adapter .bluetoothPowerOff rfl rfl id ?_ text⟩
      cases outcome : answers.outcome <;>
        simp [Unanswered, outcome, BluezDBus.execute, BluezDBus.setPower]
  | pairBTDevice address | unpairBTDevice address | connectBTDevice address
  | disconnectBTDevice address =>
      cases isOperation
      refine ⟨_, _, HardwareManager.report_eq connected _ _, told_deviceFailure rfl ?_ Iff.rfl id
        (deviceTexts _) (by decide +kernel) (by decide +kernel) nulFree⟩
      rintro _ ⟨⟩
      rfl
  | dialCall number =>
      cases isOperation
      exact ⟨_, _, HardwareManager.report_eq connected _ _, told_dialCall number text⟩
  | hangupCall =>
      cases isOperation
      exact ⟨_, _, HardwareManager.report_eq connected _ _, told_hangupCall text⟩
  | answerCall =>
      cases isOperation
      exact ⟨_, _, HardwareManager.report_eq connected _ _, told_answerCall text⟩
  | acceptRequestConfirmation | rejectRequestConfirmation | startRecord | stopRecord
  | cancelRecord | removeRecord | getAllRecord => cases answered

theorem receive_of_dispatched {msg : DBusMessage} {dispatch : Dispatch}
    (interface : msg.interface = SignalAddress.hardwareManager.interfaceName)
    (member : msg.member = SignalAddress.hardwareManager.signalName)
    (dispatched : DBusReceiverBase.dispatchMessage msg = .ok dispatch) :
    HardwareReceiver.receive msg [] = (HardwareReceiver.handle dispatch).toList := by
  have received : DBusReceiverBase.receive HardwareReceiver.interfaceName
      HardwareReceiver.signalName msg = some dispatch := by
    simp [DBusReceiverBase.receive, DBusMessage.isSignal, interface, member, dispatched,
      SignalAddress.hardwareManager, HardwareReceiver.interfaceName, HardwareReceiver.signalName,
      Except.toOption]
  rw [HardwareReceiver.receive, received, Option.bind_some]
  cases HardwareReceiver.handle dispatch <;> rfl

/-- A command that is to be answered becomes one event, for the operation of the command. -/
theorem receive_dbusMessage {cmd : DBusCommand} (answered : command.answer = some cmd)
    (nulFree : command.IsNulFree) :
    ∃ msg event, command.dbusMessage = some msg ∧ HardwareReceiver.receive msg [] = [event] ∧
      HardwareMainWorker.make.processEvent event = command.operation := by
  cases command with
  | startScanBTDevice | stopScanBTDevice | bluetoothPowerOn | bluetoothPowerOff | hangupCall
  | answerCall =>
      exact ⟨_, _, rfl, receive_of_dispatched rfl rfl dispatchMessage_signal, rfl⟩
  | pairBTDevice text | unpairBTDevice text | connectBTDevice text | disconnectBTDevice text
  | dialCall text =>
      have fieldsFree := fun type => DBusDataInfo.isNulFree_init.set type nulFree
      refine ⟨_, _, rfl,
        receive_of_dispatched rfl rfl (dispatchMessage_signalNoti (fieldsFree _)), ?_⟩
      simp only [HardwareReceiver.addressPayload, DBusDataInfo.get_set]
      rfl
  | acceptRequestConfirmation | rejectRequestConfirmation | startRecord | stopRecord
  | cancelRecord | removeRecord | getAllRecord => cases answered

/-- The answers are notifications of which failures are shown as well. -/
theorem shown_answer {cmd : DBusCommand} (answered : command.answer = some cmd)
    (isSuccess : Bool) (info : DBusDataInfo) :
    cmd ∈ Notifier.hardwareManager.commands ∧
      DBusReceiver.Convertible (some cmd) isSuccess info.get ∧
        ∃ shown, cmd.shown = some shown ∧ shown.failures = true := by
  cases command with
  | startScanBTDevice | stopScanBTDevice | bluetoothPowerOn | bluetoothPowerOff
  | pairBTDevice | unpairBTDevice | connectBTDevice | disconnectBTDevice | dialCall
  | hangupCall | answerCall =>
      cases answered
      refine ⟨by decide, ⟨by simp, fun _ type member => ?_⟩, _, rfl, rfl⟩
      cases member
  | acceptRequestConfirmation | rejectRequestConfirmation | startRecord | stopRecord
  | cancelRecord | removeRecord | getAllRecord => cases answered

/-- What the clients are told of the answer is a reply to the command. -/
theorem isReply_of_tells {cmd : DBusCommand} {shown : ShownNoti} {isSuccess : Bool}
    {info : DBusDataInfo} {message : StatusMessage} (answered : command.answer = some cmd)
    (isShown : cmd.shown = some shown) (tells : shown.Tells isSuccess info message)
    (succeeds : isSuccess = true ↔ command.Succeeds manager answers)
    (about : ∀ address ∈ command.address?, info.get .btDeviceAddress = address) :
    command.IsReply manager answers shown message where
  component := tells.component
  name := tells.command
  success success := by rw [tells.status, if_pos (succeeds.mpr success)]
  failure failure := by rw [tells.status, if_neg (mt succeeds.mp failure)]
  address := by
    cases command with
    | connectBTDevice address | disconnectBTDevice address =>
        cases answered
        cases isShown
        rcases tells.fields _ (List.mem_singleton_self _) with ⟨_, found, rfl⟩
        rw [about address rfl] at found
        exact found
    | acceptRequestConfirmation | rejectRequestConfirmation | startRecord | stopRecord
    | cancelRecord | removeRecord | getAllRecord => cases answered
    | _ =>
        cases answered
        cases isShown
        exact tells.others _ List.not_mem_nil

/--
A command that the core accepts reaches the hardware manager, which executes it; and what it
tells about it is shown to the clients as one reply, with the name that belongs to the
command and whether it has succeeded, if there is a reply; if it is about a connection, with
the address that the command had.
-/
theorem answered_of_accepted {cmd : DBusCommand} {memory : Memory} {view : StateView}
    (answered : command.answer = some cmd) (granted : ∀ call, memory call)
    (accepted : view.Accepts command) (nulFree : command.IsNulFree)
    (connected : answers.sender = .connected) (texts : answers.IsNulFree)
    (manager : HardwareManager Request) :
    ∃ msg event next effects, (view.processEvent memory command.event).2 = [msg] ∧
      HardwareReceiver.receive msg [] = [event] ∧
      manager.processEvent .make answers (some event) = .ok (next, effects) ∧
      ∀ surroundings core,
        let documents := effects.sent.flatMap (HardwareNoti.documents memory surroundings core)
        (command.Unanswered manager answers → documents = []) ∧
        (¬ command.Unanswered manager answers →
          command.ShowsReply manager answers documents) := by
  rcases receive_dbusMessage answered nulFree with ⟨msg, event, made, received, processed⟩
  have sent := StateView.processEvent_of_accepts granted accepted
  rw [made] at sent
  obtain ⟨operation, isOperation⟩ : ∃ operation, command.operation = some operation := by
    cases command <;> first | exact ⟨_, rfl⟩ | cases answered
  rcases told_perform answered isOperation nulFree connected texts manager with
    ⟨next, effects, performed, told⟩
  refine ⟨msg, event, next, effects, sent, received, ?_, ?_⟩
  · rw [HardwareManager.processEvent, Option.bind_some, processed, isOperation]
    exact performed
  · intro surroundings core
    constructor
    · intro unanswered
      simp [told.nothing unanswered]
    · intro isReply
      rcases told.reply isReply with ⟨noti, one, isAnswer, infoFree, succeeds, about⟩
      rcases shown_answer isAnswer noti.isSuccess noti.info with
        ⟨known, convertible, shown, isShown, failures⟩
      rcases HardwareNoti.documents_of_shown granted known infoFree convertible isShown failures
        surroundings core with ⟨message, documents, tells⟩
      refine ⟨_, shown, message, isAnswer, isShown, ?_,
        isReply_of_tells isAnswer isShown tells succeeds about⟩
      simp [one, documents]

theorem isNulFree_bluezLeft : HardwareManager.bluezLeft.IsNulFree := by
  have text : NulFree "The name org.bluez was not provided by any .service files" := by
    decide +kernel
  exact ⟨text, fun _ => text⟩

theorem answered_of_accepted_connect :
    let initialized : HardwareManager Unit := HardwareManager.initialized
    let command := connectBTDevice "AA:BB"
    ∃ msg event next effects,
      (StateView.processEvent (fun _ => true) {} command.event).2 = [msg] ∧
      HardwareReceiver.receive msg [] = [event] ∧
      initialized.processEvent .make HardwareManager.bluezLeft (some event) =
        .ok (next, effects) ∧
      ∀ surroundings core, ∃ message : StatusMessage,
        effects.sent.flatMap (HardwareNoti.documents (fun _ => true) surroundings core) =
          [message.document] ∧
        message.status = "fail" ∧ message.command = "connect_btdevice_noti" ∧
        message.data.member? "device_address" = some (.string "AA:BB") := by
  intro initialized command
  have noNul : NulFree "AA:BB" := by decide +kernel
  have accepted : StateView.Accepts {} command := trivial
  rcases answered_of_accepted (rfl : command.answer = some .connectBTDeviceNoti)
    (fun _ => rfl) accepted noNul rfl isNulFree_bluezLeft initialized with
      ⟨msg, event, next, effects, sent, received, processed, shows⟩
  refine ⟨msg, event, next, effects, sent, received, processed, ?_⟩
  intro surroundings core
  have notTaken : ¬ command.Unanswered initialized HardwareManager.bluezLeft := by
    rintro ⟨⟩
  rcases (shows surroundings core).2 notTaken with
    ⟨cmd, shown, message, isAnswer, isShown, documents, isReply⟩
  cases isAnswer
  cases isShown
  exact ⟨message, documents, isReply.failure id, isReply.name, isReply.address⟩

end ClientCommand

end RaspberryPiService
