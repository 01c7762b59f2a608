import RaspberryPiService.Common.Event

/-!
# Commands of the clients

`WebSocket` parses what a client sends, looks up the command and its argument, and pushes
an event for MainWorker. The parser is a parameter. Documents are anything, and a document
that is no command leaves the queue as it is: it is logged, or the exception that it causes
is caught.
-/

namespace RaspberryPiService

/--
A parsed document. Of a number only what `get<int>` makes of it is read; the keys of an
object are distinct.
-/
inductive Json where
  | null
  | boolean (value : Bool)
  | number (intValue : Int32)
  | string (text : String)
  | array (elements : List Json)
  | object (members : List (String × Json))

/-- The exceptions of the JSON library, all of them derived from `std::exception`. -/
inductive JsonException where
  | parseError (what : String)
  | typeError (what : String)
  | outOfRange (what : String)
deriving DecidableEq

namespace Json

/-- `contains` and `operator[]`; a document that is not an object contains nothing. -/
def member? : Json → String → Option Json
  | .object members, key => members.lookup key
  | _, _ => none

/-- The conversion to `std::string`. -/
def toString : Json → Except JsonException String
  | .string text => .ok text
  | _ => .error (.typeError "type must be string")

/-- `value`, with a default for a key that an object does not contain. -/
def valueD (document : Json) (key : String) (defaultValue : Json) : Except JsonException Json :=
  match document with
  | .object members => .ok ((members.lookup key).getD defaultValue)
  | _ => .error (.typeError "cannot use value()")

end Json

namespace JsonHelper

def getIntField (data : Json) (key : String) : Option Int32 :=
  match data.member? key with
  | some (.number intValue) => some intValue
  | _ => none

def getStringField (data : Json) (key : String) : Option String :=
  match data.member? key with
  | some (.string text) => some text
  | _ => none

end JsonHelper

/-- The events of the core's queue that clients cause. -/
inductive CoreEventTypeID where
  | startScanBTDevice
  | stopScanBTDevice
  | bluetoothPowerOn
  | bluetoothPowerOff
  | pairBTDevice
  | unpairBTDevice
  | connectBTDevice
  | disconnectBTDevice
  | acceptRequestConfirmation
  | rejectRequestConfirmation
  | dialCall
  | hangupCall
  | answerCall
  | startRecord
  | stopRecord
  | cancelRecord
  | removeRecord
  | getAllRecord
deriving DecidableEq

abbrev CoreEvent : Type := Event CoreEventTypeID

inductive CommandType where
  | startScanBTDevice
  | stopScanBTDevice
  | bluetoothPowerOn
  | bluetoothPowerOff
  | pairBTDevice
  | unpairBTDevice
  | connectBTDevice
  | disconnectBTDevice
  | acceptRequestConfirmation
  | rejectRequestConfirmation
  | dialCall
  | hangupCall
  | answerCall
  | startRecord
  | stopRecord
  | cancelRecord
  | removeRecord
  | getAllRecord
  | unknown
deriving DecidableEq

namespace WebSocket

def stringToCommand (commandStr : String) : CommandType :=
  if commandStr = "start_scan_btdevice" then .startScanBTDevice
  else if commandStr = "stop_scan_btdevice" then .stopScanBTDevice
  else if commandStr = "bluetooth_power_on" then .bluetoothPowerOn
  else if commandStr = "bluetooth_power_off" then .bluetoothPowerOff
  else if commandStr = "pair_btdevice" then .pairBTDevice
  else if commandStr = "unpair_btdevice" then .unpairBTDevice
  else if commandStr = "connect_btdevice" then .connectBTDevice
  else if commandStr = "disconnect_btdevice" then .disconnectBTDevice
  else if commandStr = "accept_request_confirmation" then .acceptRequestConfirmation
  else if commandStr = "reject_request_confirmation" then .rejectRequestConfirmation
  else if commandStr = "dial_call" then .dialCall
  else if commandStr = "hangup_call" then .hangupCall
  else if commandStr = "answer_call" then .answerCall
  else if commandStr = "start_record" then .startRecord
  else if commandStr = "stop_record" then .stopRecord
  else if commandStr = "cancel_record" then .cancelRecord
  else if commandStr = "remove_record" then .removeRecord
  else if commandStr = "get_all_record" then .getAllRecord
  else .unknown

/-- The cases of `translateMsg` for a command with the address of a device. -/
def addressEvent (eventTypeId : CoreEventTypeID) (data : Json) : Option CoreEvent :=
  (JsonHelper.getStringField data "device_address").map fun address =>
    { eventTypeId, payload := some (.bluetoothDeviceAddress address) }

def translateMsg (message : String) (data : Json) : Option CoreEvent :=
  match stringToCommand message with
  | .startScanBTDevice => some { eventTypeId := .startScanBTDevice }
  | .stopScanBTDevice => some { eventTypeId := .stopScanBTDevice }
  | .bluetoothPowerOn => some { eventTypeId := .bluetoothPowerOn }
  | .bluetoothPowerOff => some { eventTypeId := .bluetoothPowerOff }
  | .pairBTDevice => addressEvent .pairBTDevice data
  | .unpairBTDevice => addressEvent .unpairBTDevice data
  | .connectBTDevice => addressEvent .connectBTDevice data
  | .disconnectBTDevice => addressEvent .disconnectBTDevice data
  | .acceptRequestConfirmation => addressEvent .acceptRequestConfirmation data
  | .rejectRequestConfirmation => addressEvent .rejectRequestConfirmation data
  | .dialCall =>
      (JsonHelper.getStringField data "number").map fun number =>
        { eventTypeId := .dialCall, payload := some (.call "" number "") }
  | .hangupCall => some { eventTypeId := .hangupCall }
  | .answerCall => some { eventTypeId := .answerCall }
  | .startRecord => some { eventTypeId := .startRecord }
  | .stopRecord => some { eventTypeId := .stopRecord }
  | .cancelRecord => some { eventTypeId := .cancelRecord }
  | .removeRecord =>
      (JsonHelper.getIntField data "id").map fun recordId =>
        { eventTypeId := .removeRecord, payload := some (.removeRecord recordId) }
  | .getAllRecord => some { eventTypeId := .getAllRecord }
  | .unknown => none

variable (parse : String → Except JsonException Json)

/-- The body of the `try` block, with the queue after it. -/
def parseAndPush (message : String) (eventQueue : EventQueue CoreEventTypeID) :
    Except JsonException (EventQueue CoreEventTypeID) := do
  let jsonMsg ← parse message
  match jsonMsg.member? "command" with
  | some command =>
      let commandStr ← command.toString
      let jsonData ← jsonMsg.valueD "data" (.object [])
      return eventQueue.pushEvent (translateMsg commandStr jsonData)
  -- The warning for a document without a command.
  | none => return eventQueue

/-- The queue after a message, or the exception that escapes. -/
def handleMessageFromClient (message : String) (eventQueue : EventQueue CoreEventTypeID) :
    Except JsonException (EventQueue CoreEventTypeID) :=
  match parseAndPush parse message eventQueue with
  | .ok pushed => .ok pushed
  | .error (.parseError _) => .ok eventQueue
  -- `catch (std::exception&)`.
  | .error (.typeError _) | .error (.outOfRange _) => .ok eventQueue

end WebSocket

/-- What a client can ask for. -/
inductive ClientCommand where
  | startScanBTDevice
  | stopScanBTDevice
  | bluetoothPowerOn
  | bluetoothPowerOff
  | pairBTDevice (address : String)
  | unpairBTDevice (address : String)
  | connectBTDevice (address : String)
  | disconnectBTDevice (address : String)
  | acceptRequestConfirmation (address : String)
  | rejectRequestConfirmation (address : String)
  | dialCall (number : String)
  | hangupCall
  | answerCall
  | startRecord
  | stopRecord
  | cancelRecord
  | removeRecord (recordId : Int32)
  | getAllRecord
deriving DecidableEq

namespace ClientCommand

/-- The command string. -/
def name : ClientCommand → String
  | .startScanBTDevice => "start_scan_btdevice"
  | .stopScanBTDevice => "stop_scan_btdevice"
  | .bluetoothPowerOn => "bluetooth_power_on"
  | .bluetoothPowerOff => "bluetooth_power_off"
  | .pairBTDevice _ => "pair_btdevice"
  | .unpairBTDevice _ => "unpair_btdevice"
  | .connectBTDevice _ => "connect_btdevice"
  | .disconnectBTDevice _ => "disconnect_btdevice"
  | .acceptRequestConfirmation _ => "accept_request_confirmation"
  | .rejectRequestConfirmation _ => "reject_request_confirmation"
  | .dialCall _ => "dial_call"
  | .hangupCall => "hangup_call"
  | .answerCall => "answer_call"
  | .startRecord => "start_record"
  | .stopRecord => "stop_record"
  | .cancelRecord => "cancel_record"
  | .removeRecord _ => "remove_record"
  | .getAllRecord => "get_all_record"

/-- The data carry the field that the command requires, with the type that it requires. -/
def CarriedBy (data : Json) : ClientCommand → Prop
  | .pairBTDevice address | .unpairBTDevice address | .connectBTDevice address
  | .disconnectBTDevice address | .acceptRequestConfirmation address
  | .rejectRequestConfirmation address =>
      data.member? "device_address" = some (.string address)
  | .dialCall number => data.member? "number" = some (.string number)
  | .removeRecord recordId => data.member? "id" = some (.number recordId)
  | _ => True

def event : ClientCommand → CoreEvent
  | .startScanBTDevice => { eventTypeId := .startScanBTDevice }
  | .stopScanBTDevice => { eventTypeId := .stopScanBTDevice }
  | .bluetoothPowerOn => { eventTypeId := .bluetoothPowerOn }
  | .bluetoothPowerOff => { eventTypeId := .bluetoothPowerOff }
  | .pairBTDevice address =>
      { eventTypeId := .pairBTDevice, payload := some (.bluetoothDeviceAddress address) }
  | .unpairBTDevice address =>
      { eventTypeId := .unpairBTDevice, payload := some (.bluetoothDeviceAddress address) }
  | .connectBTDevice address =>
      { eventTypeId := .connectBTDevice, payload := some (.bluetoothDeviceAddress address) }
  | .disconnectBTDevice address =>
      { eventTypeId := .disconnectBTDevice, payload := some (.bluetoothDeviceAddress address) }
  | .acceptRequestConfirmation address =>
      { eventTypeId := .acceptRequestConfirmation
        payload := some (.bluetoothDeviceAddress address) }
  | .rejectRequestConfirmation address =>
      { eventTypeId := .rejectRequestConfirmation
        payload := some (.bluetoothDeviceAddress address) }
  | .dialCall number => { eventTypeId := .dialCall, payload := some (.call "" number "") }
  | .hangupCall => { eventTypeId := .hangupCall }
  | .answerCall => { eventTypeId := .answerCall }
  | .startRecord => { eventTypeId := .startRecord }
  | .stopRecord => { eventTypeId := .stopRecord }
  | .cancelRecord => { eventTypeId := .cancelRecord }
  | .removeRecord recordId =>
      { eventTypeId := .removeRecord, payload := some (.removeRecord recordId) }
  | .getAllRecord => { eventTypeId := .getAllRecord }

end ClientCommand

/-- The document is an object that asks for the command. -/
def Json.Asks (document : Json) (command : ClientCommand) : Prop :=
  ∃ members, document = .object members ∧
    members.lookup "command" = some (.string command.name) ∧
    command.CarriedBy ((members.lookup "data").getD (.object []))

namespace JsonHelper

variable {data : Json} {key : String}

theorem getIntField_eq_some_iff {intValue : Int32} :
    getIntField data key = some intValue ↔ data.member? key = some (.number intValue) := by
  unfold getIntField
  split <;> simp_all

theorem getStringField_eq_some_iff {text : String} :
    getStringField data key = some text ↔ data.member? key = some (.string text) := by
  unfold getStringField
  split <;> simp_all

end JsonHelper

namespace WebSocket

variable {parse : String → Except JsonException Json} {data : Json}

theorem addressEvent_eq_some_iff {eventTypeId : CoreEventTypeID} {event : CoreEvent} :
    addressEvent eventTypeId data = some event ↔
      ∃ address, data.member? "device_address" = some (.string address) ∧
        { eventTypeId, payload := some (.bluetoothDeviceAddress address) } = event := by
  simp [addressEvent, JsonHelper.getStringField_eq_some_iff]

/-- A known command with its field becomes the event of that command. -/
theorem translateMsg_name {command : ClientCommand} (carried : command.CarriedBy data) :
    translateMsg command.name data = some command.event := by
  cases command
  all_goals
    simp_all [translateMsg, stringToCommand, ClientCommand.name, ClientCommand.event,
      ClientCommand.CarriedBy, addressEvent_eq_some_iff, JsonHelper.getStringField_eq_some_iff,
      JsonHelper.getIntField_eq_some_iff]

/-- An event is made only for a known command with its field. -/
theorem exists_of_translateMsg {text : String} {event : CoreEvent}
    (translated : translateMsg text data = some event) :
    ∃ command : ClientCommand, text = command.name ∧ command.CarriedBy data := by
  have carriesAddress : ∀ eventTypeId, addressEvent eventTypeId data = some event →
      ∃ address, data.member? "device_address" = some (.string address) := by
    intro eventTypeId found
    rcases addressEvent_eq_some_iff.mp found with ⟨address, carried, -⟩
    exact ⟨address, carried⟩
  unfold translateMsg at translated
  generalize found : stringToCommand text = type at translated
  revert found translated
  -- One case for each comparison of `stringToCommand`, in its order.
  fun_cases stringToCommand text with
  | case1 => exact fun _ _ => ⟨.startScanBTDevice, ‹text = _›, trivial⟩
  | case2 => exact fun _ _ => ⟨.stopScanBTDevice, ‹text = _›, trivial⟩
  | case3 => exact fun _ _ => ⟨.bluetoothPowerOn, ‹text = _›, trivial⟩
  | case4 => exact fun _ _ => ⟨.bluetoothPowerOff, ‹text = _›, trivial⟩
  | case5 =>
      rintro rfl translated
      rcases carriesAddress _ translated with ⟨address, carried⟩
      exact ⟨.pairBTDevice address, ‹text = _›, carried⟩
  | case6 =>
      rintro rfl translated
      rcases carriesAddress _ translated with ⟨address, carried⟩
      exact ⟨.unpairBTDevice address, ‹text = _›, carried⟩
  | case7 =>
      rintro rfl translated
      rcases carriesAddress _ translated with ⟨address, carried⟩
      exact ⟨.connectBTDevice address, ‹text = _›, carried⟩
  | case8 =>
      rintro rfl translated
      rcases carriesAddress _ translated with ⟨address, carried⟩
      exact ⟨.disconnectBTDevice address, ‹text = _›, carried⟩
  | case9 =>
      rintro rfl translated
      rcases carriesAddress _ translated with ⟨address, carried⟩
      exact ⟨.acceptRequestConfirmation address, ‹text = _›, carried⟩
  | case10 =>
      rintro rfl translated
      rcases carriesAddress _ translated with ⟨address, carried⟩
      exact ⟨.rejectRequestConfirmation address, ‹text = _›, carried⟩
  | case11 =>
      rintro rfl translated
      rcases Option.map_eq_some_iff.mp translated with ⟨number, carried, -⟩
      exact ⟨.dialCall number, ‹text = _›, JsonHelper.getStringField_eq_some_iff.mp carried⟩
  | case12 => exact fun _ _ => ⟨.hangupCall, ‹text = _›, trivial⟩
  | case13 => exact fun _ _ => ⟨.answerCall, ‹text = _›, trivial⟩
  | case14 => exact fun _ _ => ⟨.startRecord, ‹text = _›, trivial⟩
  | case15 => exact fun _ _ => ⟨.stopRecord, ‹text = _›, trivial⟩
  | case16 => exact fun _ _ => ⟨.cancelRecord, ‹text = _›, trivial⟩
  | case17 =>
      rintro rfl translated
      rcases Option.map_eq_some_iff.mp translated with ⟨recordId, carried, -⟩
      exact ⟨.removeRecord recordId, ‹text = _›, JsonHelper.getIntField_eq_some_iff.mp carried⟩
  | case18 => exact fun _ _ => ⟨.getAllRecord, ‹text = _›, trivial⟩
  | case19 =>
      rintro rfl translated
      cases translated

variable {message : String} (eventQueue : EventQueue CoreEventTypeID)

theorem handleMessageFromClient_of_asks {document : Json} {command : ClientCommand}
    (parsed : parse message = .ok document) (asks : document.Asks command) :
    handleMessageFromClient parse message eventQueue = .ok (eventQueue ++ [command.event]) := by
  rcases asks with ⟨members, rfl, named, carried⟩
  have pushed : parseAndPush parse message eventQueue = .ok (eventQueue ++ [command.event]) := by
    simp only [parseAndPush, parsed, bind, Except.bind, Json.member?, named, Json.toString,
      Json.valueD, translateMsg_name carried, EventQueue.pushEvent, Option.toList_some, pure,
      Except.pure]
  simp only [handleMessageFromClient, pushed]

theorem handleMessageFromClient_of_not_asks
    (noCommand : ∀ document command, parse message = .ok document → ¬document.Asks command) :
    handleMessageFromClient parse message eventQueue = .ok eventQueue := by
  have unpushed : ∀ pushed, parseAndPush parse message eventQueue = .ok pushed →
      pushed = eventQueue := by
    intro pushed found
    unfold parseAndPush at found
    cases parsed : parse message with
    | error exception => simp [parsed, bind, Except.bind] at found
    | ok document =>
        simp only [parsed, bind, Except.bind] at found
        cases document with
        | object members =>
            simp only [Json.member?] at found
            cases named : members.lookup "command" with
            | none => simpa [named, pure, Except.pure, eq_comm] using found
            | some command =>
                cases command with
                | string text =>
                    have untranslated :
                        translateMsg text ((members.lookup "data").getD (.object [])) = none := by
                      apply Option.eq_none_iff_forall_ne_some.mpr
                      intro event translated
                      rcases exists_of_translateMsg translated with ⟨command, rfl, carried⟩
                      exact noCommand _ command parsed ⟨members, rfl, named, carried⟩
                    simpa [named, Json.toString, Json.valueD, untranslated, EventQueue.pushEvent,
                      pure, Except.pure, eq_comm] using found
                | _ => simp [named, Json.toString] at found
        | _ => simpa [Json.member?, pure, Except.pure, eq_comm] using found
  unfold handleMessageFromClient
  split
  · rename_i pushed found
    rw [unpushed pushed found]
  · rfl
  · rfl
  · rfl

end WebSocket

end RaspberryPiService
