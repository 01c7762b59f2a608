import RaspberryPiService.HardwareManager.BluezAdapter
import RaspberryPiService.HardwareManager.Phonebook

/-!
# Replies to the commands of the core

The core waits in `PROCESSING` after it has commanded a scan, the power of the adapter or
something about a call, and only a notification ends that. This file has the handlers of
the calls as a whole, from their entry to their end, next to those of the adapter, and
proves which failures they keep to themselves.
-/

namespace RaspberryPiService

namespace OfonoDBus

/-- The number only goes into the method call. -/
def dialCall (ofonoDBus : OfonoDBus) (outcome : MethodOutcome) : List CallNoti :=
  if ofonoDBus.modemPath = "" then
    [.reply .dialCallNoti false "Cannot dial call, no active modem path set."]
  else
    match outcome with
    | .notCreated => [.reply .dialCallNoti false "Failed to create Dial message."]
    | .error message => [.reply .dialCallNoti false ("Error dialing number: " ++ message)]
    | .success => [.reply .dialCallNoti true "Dial command sent successfully."]

/-- The loop of `answerCall`; the calls may change from one query to the next. -/
def findIncomingCall (ofonoDBus : OfonoDBus) (calls : Nat → OfonoCalls) (round : Nat) :
    List String → String
  | [] => ""
  | path :: paths =>
      let props := ofonoDBus.getVoiceCallProperties (calls round) path
      if props.state = "incoming" ∨ props.state = "waiting" then path
      else findIncomingCall ofonoDBus calls (round + 1) paths

def answerCall (ofonoDBus : OfonoDBus) (calls : Nat → OfonoCalls) (outcome : MethodOutcome) :
    List CallNoti :=
  if ofonoDBus.activeCallPaths = [] then
    [.reply .answerCallNoti false "No active calls to answer."]
  else if ofonoDBus.findIncomingCall calls 0 ofonoDBus.activeCallPaths = "" then
    [.reply .answerCallNoti false "No incoming call found to answer."]
  else
    match outcome with
    | .notCreated => [.reply .answerCallNoti false "Failed to create Answer message."]
    | .error message => [.reply .answerCallNoti false ("Error answering call: " ++ message)]
    | .success => [.reply .answerCallNoti true "Call answered successfully."]

def hangupCall (ofonoDBus : OfonoDBus) (outcome : MethodOutcome) : List CallNoti :=
  -- An error is logged, and nothing is sent.
  if ofonoDBus.modemPath = "" then []
  else
    match outcome with
    | .notCreated => [.reply .hangupCallNoti false "Failed to create HangupAll message."]
    | .error message => [.reply .hangupCallNoti false ("Error hanging up calls: " ++ message)]
    | .success => [.reply .hangupCallNoti true "All calls hung up successfully."]

section Steps

variable {ofonoDBus : OfonoDBus} {outcome : MethodOutcome}

/-- The handlers do what their steps do one after the other. -/
theorem dialCall_eq (number : String) :
    ofonoDBus.dialCall outcome =
      (ofonoDBus.processCommand (.dialCall number)).2.toList ++
        (methodReply (ofonoDBus.processCommand (.dialCall number)).1 outcome).toList := by
  unfold dialCall processCommand
  split
  · rfl
  · cases outcome <;> rfl

theorem hangupCall_eq :
    ofonoDBus.hangupCall outcome =
      (ofonoDBus.processCommand .hangupCall).2.toList ++
        (methodReply (ofonoDBus.processCommand .hangupCall).1 outcome).toList := by
  unfold hangupCall processCommand
  split
  · rfl
  · cases outcome <;> rfl

/-- A round of the loop that finds nothing goes on with the other paths. -/
theorem findIncomingCall_eq (calls : Nat → OfonoCalls) (round : Nat) {path : String}
    {paths : List String} :
    ofonoDBus.findIncomingCall calls round (path :: paths) =
      match (ofonoDBus.scanStep (calls round) (path :: paths)).1 with
      | .answering found => found
      | .scanning remaining => ofonoDBus.findIncomingCall calls (round + 1) remaining
      | _ => "" := by
  simp only [findIncomingCall, scanStep]
  split <;> rfl

end Steps

end OfonoDBus

/-- The commands after which the core is in `PROCESSING`. -/
inductive HardwareCommand where
  | adapter (command : AdapterCommand)
  | call (command : CallCommand)
deriving DecidableEq

def AdapterCommand.notiCommand : AdapterCommand → DBusCommand
  | .startScanBTDevice => .startScanBTDeviceNoti
  | .stopScanBTDevice => .stopScanBTDeviceNoti
  | .bluetoothPowerOn => .bluetoothPowerOnNoti
  | .bluetoothPowerOff => .bluetoothPowerOffNoti

def AdapterNoti.toHardwareNoti (noti : AdapterNoti) : HardwareNoti where
  cmd := noti.command.notiCommand
  isSuccess := noti.isSuccess
  info := .set .init .message noti.message

namespace HardwareCommand

/-- The kind of notification that answers the command. -/
def notiCommand : HardwareCommand → DBusCommand
  | adapter command => command.notiCommand
  | call (.dialCall _) => .dialCallNoti
  | call .hangupCall => .hangupCallNoti
  | call .answerCall => .answerCallNoti

/-- What the handler of the command sends, when its method call ends with the outcome. -/
def handle (ofonoDBus : OfonoDBus) (calls : Nat → OfonoCalls) (outcome : MethodOutcome) :
    HardwareCommand → List HardwareNoti
  | adapter command =>
      ((BluezDBus.execute command outcome).map AdapterNoti.toHardwareNoti).toList
  | call (.dialCall _) => (ofonoDBus.dialCall outcome).map CallNoti.toHardwareNoti
  | call .hangupCall => (ofonoDBus.hangupCall outcome).map CallNoti.toHardwareNoti
  | call .answerCall => (ofonoDBus.answerCall calls outcome).map CallNoti.toHardwareNoti

/--
The handler sends one notification, of the command's kind; or it has called BlueZ with
success and leaves the answer to the signal of the adapter.
-/
def Answered (ofonoDBus : OfonoDBus) (calls : Nat → OfonoCalls) (outcome : MethodOutcome)
    (command : HardwareCommand) : Prop :=
  (∃ noti, command.handle ofonoDBus calls outcome = [noti] ∧
      noti.cmd = command.notiCommand) ∨
    ((∃ adapterCommand, command = adapter adapterCommand) ∧ outcome = .success ∧
      command.handle ofonoDBus calls outcome = [])

/-- A hang-up without a modem, or a message about the power that could not be created. -/
def Silent (ofonoDBus : OfonoDBus) (outcome : MethodOutcome) (command : HardwareCommand) : Prop :=
  command = call .hangupCall ∧ ofonoDBus.modemPath = "" ∨
    (command = adapter .bluetoothPowerOn ∨ command = adapter .bluetoothPowerOff) ∧
      outcome = .notCreated

variable {ofonoDBus : OfonoDBus} {calls : Nat → OfonoCalls} {outcome : MethodOutcome}

theorem answered_adapter_iff {command : AdapterCommand} :
    Answered ofonoDBus calls outcome (adapter command) ↔
      ¬(command.property = .powered ∧ outcome = .notCreated) := by
  cases command <;> cases outcome <;>
    simp [Answered, handle, notiCommand, AdapterNoti.toHardwareNoti, BluezDBus.execute,
      BluezDBus.startDiscovery, BluezDBus.stopDiscovery, BluezDBus.setPower,
      AdapterCommand.property, AdapterCommand.notiCommand]

/-- A handler of a call has answered if it has sent one reply of its kind. -/
theorem answered_call {command : CallCommand} {replyCommand : CallReplyCommand} {isSuccess : Bool}
    {message : String}
    (sent : (call command).handle ofonoDBus calls outcome =
      [(CallNoti.reply replyCommand isSuccess message).toHardwareNoti])
    (kind : replyCommand.dbusCommand = (call command).notiCommand) :
    Answered ofonoDBus calls outcome (call command) :=
  Or.inl ⟨_, sent, kind⟩

theorem answered_dialCall (number : String) :
    Answered ofonoDBus calls outcome (call (.dialCall number)) := by
  by_cases noModem : ofonoDBus.modemPath = ""
  · apply answered_call (by simp [handle, OfonoDBus.dialCall, noModem]; rfl) rfl
  · cases outcome <;>
      exact answered_call (by simp [handle, OfonoDBus.dialCall, noModem]; rfl) rfl

/-- Whatever the search finds, one reply is sent. -/
theorem answered_answerCall : Answered ofonoDBus calls outcome (call .answerCall) := by
  have replies : ∃ isSuccess message,
      ofonoDBus.answerCall calls outcome = [.reply .answerCallNoti isSuccess message] := by
    unfold OfonoDBus.answerCall
    split
    · exact ⟨_, _, rfl⟩
    · split
      · exact ⟨_, _, rfl⟩
      · cases outcome <;> exact ⟨_, _, rfl⟩
  rcases replies with ⟨isSuccess, message, replied⟩
  have sent : (call .answerCall).handle ofonoDBus calls outcome =
      [(CallNoti.reply .answerCallNoti isSuccess message).toHardwareNoti] := by
    simp only [handle, replied, List.map_cons, List.map_nil]
  exact answered_call sent rfl

theorem answered_hangupCall_iff :
    Answered ofonoDBus calls outcome (call .hangupCall) ↔ ofonoDBus.modemPath ≠ "" := by
  by_cases noModem : ofonoDBus.modemPath = ""
  · simp [Answered, handle, OfonoDBus.hangupCall, noModem]
  · refine iff_of_true ?_ noModem
    cases outcome <;>
      exact answered_call (by simp [handle, OfonoDBus.hangupCall, noModem]; rfl) rfl

/-- Every failure is reported but two: a hang-up without a modem, and no message for the power. -/
theorem answered_iff_not_silent (ofonoDBus : OfonoDBus) (calls : Nat → OfonoCalls)
    (outcome : MethodOutcome) (command : HardwareCommand) :
    Answered ofonoDBus calls outcome command ↔ ¬Silent ofonoDBus outcome command := by
  cases command with
  | adapter command =>
      rw [answered_adapter_iff]
      cases command <;> simp [Silent, AdapterCommand.property]
  | call command =>
      cases command with
      | dialCall number => exact iff_of_true (answered_dialCall number) (by simp [Silent])
      | hangupCall =>
          rw [answered_hangupCall_iff]
          simp [Silent]
      | answerCall => exact iff_of_true answered_answerCall (by simp [Silent])

theorem not_answered_hangupCall :
    ¬Answered {} (fun _ => ∅) .success (call .hangupCall) := by
  rintro (⟨noti, sent, -⟩ | ⟨⟨command, isAdapter⟩, -⟩)
  · cases sent
  · cases isAdapter

end HardwareCommand

end RaspberryPiService
