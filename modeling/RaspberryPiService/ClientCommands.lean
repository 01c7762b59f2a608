import RaspberryPiService.CommandReceivers
import RaspberryPiService.CoreManager.CommandSender

/-!
# From a client's command to the operation behind it

A command passes six tables in two processes: the command string, the event, its payload,
the message factory, the receiver and the worker, besides the place of its argument in the
`DBusDataInfo`. Whatever the client sends, a document that asks for a command pushes its
event and any other one nothing; and an accepted command that concerns another manager ends
in one call, there and nowhere else, with the client's own address or number.
-/

namespace RaspberryPiService

namespace ClientCommand

/-- The operation of another manager that a command asks for. -/
def operation : ClientCommand → Option Operation
  | .startScanBTDevice => some .startDiscovery
  | .stopScanBTDevice => some .stopDiscovery
  | .bluetoothPowerOn => some .powerOnAdapter
  | .bluetoothPowerOff => some .powerOffAdapter
  | .pairBTDevice address => some (.pairDevice address)
  | .unpairBTDevice address => some (.unpairDevice address)
  | .connectBTDevice address => some (.connectDevice address)
  | .disconnectBTDevice address => some (.disconnectDevice address)
  | .acceptRequestConfirmation address => some (.confirmRequest address true)
  | .rejectRequestConfirmation address => some (.confirmRequest address false)
  | .dialCall number => some (.dialCall number)
  | .hangupCall => some .hangupCall
  | .answerCall => some .answerCall
  | .startRecord => some .startRecording
  | .stopRecord => some .stopRecording
  | .cancelRecord => some .cancelRecording
  | .removeRecord _ | .getAllRecord => none

end ClientCommand

/-- The calls that a message causes in either manager. -/
def operationsFor (msg : DBusMessage) : List Operation :=
  HardwareMainWorker.make.run (HardwareReceiver.receive msg []) ++
    RecordMainWorker.run (RecordReceiver.receive msg [])

theorem operationsFor_hardware {msg : DBusMessage} {dispatch : Dispatch}
    (interface : msg.interface = SignalAddress.hardwareManager.interfaceName)
    (member : msg.member = SignalAddress.hardwareManager.signalName)
    (dispatched : DBusReceiverBase.dispatchMessage msg = .ok dispatch) :
    operationsFor msg =
      ((HardwareReceiver.handle dispatch).bind HardwareMainWorker.make.processEvent).toList := by
  have received : DBusReceiverBase.receive HardwareReceiver.interfaceName
      HardwareReceiver.signalName msg = some dispatch := by
    simp [DBusReceiverBase.receive, DBusMessage.isSignal, interface, member, dispatched,
      SignalAddress.hardwareManager, HardwareReceiver.interfaceName, HardwareReceiver.signalName,
      Except.toOption]
  have dropped : DBusReceiverBase.receive RecordReceiver.interfaceName
      RecordReceiver.signalName msg = none := by
    simp [DBusReceiverBase.receive, DBusMessage.isSignal, interface,
      SignalAddress.hardwareManager, RecordReceiver.interfaceName]
  rw [operationsFor, HardwareReceiver.receive, RecordReceiver.receive, received, dropped]
  cases handled : HardwareReceiver.handle dispatch with
  | none => simp [handled, EventQueue.pushEvent, HardwareMainWorker.run, RecordMainWorker.run]
  | some event =>
      cases processed : HardwareMainWorker.make.processEvent event <;>
        simp [handled, processed, EventQueue.pushEvent, HardwareMainWorker.run,
          RecordMainWorker.run]

theorem operationsFor_record {msg : DBusMessage} {dispatch : Dispatch}
    (interface : msg.interface = SignalAddress.recordManager.interfaceName)
    (member : msg.member = SignalAddress.recordManager.signalName)
    (dispatched : DBusReceiverBase.dispatchMessage msg = .ok dispatch) :
    operationsFor msg =
      ((RecordReceiver.handle dispatch).map RecordMainWorker.processEvent).toList := by
  have received : DBusReceiverBase.receive RecordReceiver.interfaceName
      RecordReceiver.signalName msg = some dispatch := by
    simp [DBusReceiverBase.receive, DBusMessage.isSignal, interface, member, dispatched,
      SignalAddress.recordManager, RecordReceiver.interfaceName, RecordReceiver.signalName,
      Except.toOption]
  have dropped : DBusReceiverBase.receive HardwareReceiver.interfaceName
      HardwareReceiver.signalName msg = none := by
    simp [DBusReceiverBase.receive, DBusMessage.isSignal, interface,
      SignalAddress.recordManager, HardwareReceiver.interfaceName]
  rw [operationsFor, HardwareReceiver.receive, RecordReceiver.receive, received, dropped]
  cases handled : RecordReceiver.handle dispatch <;>
    simp [handled, EventQueue.pushEvent, HardwareMainWorker.run, RecordMainWorker.run]

namespace ClientCommand

variable {address : SignalAddress} {cmd : DBusCommand} {command : ClientCommand}

theorem dispatchMessage_signal :
    DBusReceiverBase.dispatchMessage (signal address cmd) = .ok (.handleMessage (some cmd)) := by
  rw [DBusReceiverBase.dispatchMessage_command rfl, DBusCommand.ofInt32?_toInt32]

theorem dispatchMessage_signalNoti {msgInfo : DBusDataInfo} (nulFree : msgInfo.IsNulFree) :
    DBusReceiverBase.dispatchMessage (signalNoti address cmd msgInfo) =
      .ok (.handleMessageNoti (some cmd) true msgInfo) := by
  have sent : ISenderFactory.makeMsgNotiInternal (fun _ => true) address.objectPath
      address.interfaceName address.signalName cmd true msgInfo =
        .ok (signalNoti address cmd msgInfo) :=
    ISenderFactory.makeMsgNotiInternal_eq_ok_iff.mpr ⟨fun _ _ => rfl, rfl⟩
  exact DBusReceiverBase.dispatchMessage_sent nulFree sent

/-- The receiver and the worker know every command that the core sends, and its argument. -/
theorem operationsFor_dbusMessage {msg : DBusMessage} (nulFree : command.IsNulFree)
    (sent : command.dbusMessage = some msg) :
    operationsFor msg = command.operation.toList := by
  cases command with
  | startScanBTDevice | stopScanBTDevice | bluetoothPowerOn | bluetoothPowerOff | hangupCall
  | answerCall =>
      obtain rfl := Option.some.inj sent
      exact operationsFor_hardware rfl rfl dispatchMessage_signal
  | pairBTDevice text | unpairBTDevice text | connectBTDevice text | disconnectBTDevice text
  | acceptRequestConfirmation text | rejectRequestConfirmation text | dialCall text =>
      obtain rfl := Option.some.inj sent
      have fieldsFree := fun type => DBusDataInfo.isNulFree_init.set type nulFree
      rw [operationsFor_hardware rfl rfl (dispatchMessage_signalNoti (fieldsFree _))]
      simp only [HardwareReceiver.handle, HardwareReceiver.handleMessageNoti,
        HardwareReceiver.addressPayload, DBusDataInfo.get_set]
      rfl
  | startRecord | stopRecord | cancelRecord =>
      obtain rfl := Option.some.inj sent
      exact operationsFor_record rfl rfl dispatchMessage_signal
  | removeRecord | getAllRecord => cases sent

/--
A document pushes one event if it asks for a command and none otherwise, and no exception
escapes. If the core accepts the command and another manager is concerned, one message goes
out, and it causes one call, with the argument of the command.
-/
theorem commands_arrive (parse : String → Except JsonException Json) (message : String)
    (eventQueue : EventQueue CoreEventTypeID) :
    (∀ document command, parse message = .ok document → document.Asks command →
      WebSocket.handleMessageFromClient parse message eventQueue =
        .ok (eventQueue ++ [command.event])) ∧
    ((∀ document command, parse message = .ok document → ¬document.Asks command) →
      WebSocket.handleMessageFromClient parse message eventQueue = .ok eventQueue) ∧
    ∀ (memory : Memory) (view : StateView) (command : ClientCommand) (operation : Operation),
      (∀ call, memory call) → view.Accepts command → command.IsNulFree →
      command.operation = some operation →
      ∃ msg, (view.processEvent memory command.event).2 = [msg] ∧
        operationsFor msg = [operation] := by
  refine ⟨?_, ?_, ?_⟩
  · intro document command parsed asks
    exact WebSocket.handleMessageFromClient_of_asks eventQueue parsed asks
  · intro noCommand
    exact WebSocket.handleMessageFromClient_of_not_asks eventQueue noCommand
  · intro memory view command operation granted accepted nulFree concerns
    have sent := StateView.processEvent_of_accepts granted accepted
    cases made : command.dbusMessage with
    | none => cases command <;> simp [dbusMessage, ClientCommand.operation] at made concerns
    | some msg =>
        rw [made] at sent
        have called := operationsFor_dbusMessage nulFree made
        rw [concerns] at called
        exact ⟨msg, sent, called⟩

def dialDocument : Json :=
  .object [("command", .string "dial_call"), ("data", .object [("number", .string "0123")])]

theorem commands_arrive_dial :
    WebSocket.handleMessageFromClient (fun _ => .ok dialDocument) "" [] =
      .ok [(dialCall "0123").event] ∧
    WebSocket.handleMessageFromClient (fun _ => .error (.parseError "end of input")) "" [] =
      .ok [] ∧
    ∃ msg, (StateView.processEvent (fun _ => true) {} (dialCall "0123").event).2 = [msg] ∧
      operationsFor msg = [.dialCall "0123"] := by
  have asks : dialDocument.Asks (dialCall "0123") := ⟨_, rfl, rfl, rfl⟩
  have noNul : NulFree "0123" := by decide +kernel
  have parses := commands_arrive (fun _ => .ok dialDocument) "" []
  have fails := commands_arrive (fun _ => .error (.parseError "end of input")) "" []
  refine ⟨parses.1 _ _ rfl asks, fails.2.1 ?_, parses.2.2 (fun _ => true) {} (dialCall "0123")
    (.dialCall "0123") (fun _ => rfl) rfl noNul rfl⟩
  intro document command parsed
  cases parsed

end ClientCommand

end RaspberryPiService
