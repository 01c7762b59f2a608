import Mathlib.Data.List.AList

/-!
# Voice calls in the hardware manager

oFono keeps the calls and signals every change; `BluetoothWorker` handles the signals in
order, MainWorker executes the commands of the core, and both notify the core. A signal
only names a call: the worker asks oFono for the call's properties when it handles the
signal, and no longer gets any once the call has been removed. oFono sends its own
`PropertyChanged` signals, not the `PropertiesChanged` of D-Bus that the worker also
listens to.

`OfonoDBus` and the worker's loop share one recursive mutex. MainWorker holds it from
the entry of a command until its reply has been sent, while oFono goes on by itself; the
worker handles a signal, the query and the notification included, under the same mutex.
-/

namespace RaspberryPiService

/-- The states of an oFono call. -/
inductive OfonoCallState where
  | dialing
  | alerting
  | incoming
  | waiting
  | active
  | held
  | disconnected
deriving DecidableEq

/-- The value of the property `State`. -/
def OfonoCallState.name : OfonoCallState → String
  | .dialing => "dialing"
  | .alerting => "alerting"
  | .incoming => "incoming"
  | .waiting => "waiting"
  | .active => "active"
  | .held => "held"
  | .disconnected => "disconnected"

/-- A call with its `State` and its `LineIdentification`, which is empty for a hidden number. -/
structure OfonoCall where
  state : OfonoCallState
  number : String
deriving DecidableEq

abbrev OfonoCalls : Type := AList fun _ : String => OfonoCall

/-- The signals of oFono that the worker handles, with the arguments it reads. -/
inductive OfonoSignal where
  | modemAdded (modemPath : String)
  | modemRemoved (modemPath : String)
  | callAdded (callPath : String)
  | callRemoved (callPath : String)
  | propertyChanged (callPath key : String)
deriving DecidableEq

inductive CallNotiCommand where
  | incomingCallNoti
  | outgoingCallNoti
  | callStateChangedNoti
  | callEndedNoti
deriving DecidableEq

inductive CallReplyCommand where
  | dialCallNoti
  | answerCallNoti
  | hangupCallNoti
  | pbapSessionEndNoti
deriving DecidableEq

/-- The data of a call in a `DBusDataInfo`. -/
structure CallInfo where
  message : String := ""
  name : String := ""
  number : String := ""
  state : String := ""
deriving DecidableEq

/-- The notifications to the core, with the data it reads from them. -/
inductive CallNoti where
  | call (command : CallNotiCommand) (isSuccess : Bool) (info : CallInfo)
  | reply (command : CallReplyCommand) (isSuccess : Bool) (message : String)
deriving DecidableEq

/-- The commands of the core. -/
inductive CallCommand where
  | dialCall (number : String)
  | hangupCall
  | answerCall
deriving DecidableEq

/-- How a method call to oFono ends: no message, an error reply, or success. -/
inductive MethodOutcome where
  | notCreated
  | error (message : String)
  | success
deriving DecidableEq

/-- Where MainWorker is in a command; it holds the mutex unless it is idle. -/
inductive CallMainPc where
  | idle
  | dialing (number : String)
  | scanning (remaining : List String)
  | answering (callPath : String)
  | hangingUp
deriving DecidableEq

structure OfonoDBus where
  modemPath : String := ""
  activeCallPaths : List String := []
  phonebook : AList fun _ : String => String := ∅

namespace OfonoDBus

def findNameByNumber (ofonoDBus : OfonoDBus) (number : String) : String :=
  (ofonoDBus.phonebook.lookup number).getD ""

/-- An error reply leaves every field empty. -/
def getVoiceCallProperties (ofonoDBus : OfonoDBus) (calls : OfonoCalls) (callPath : String) :
    CallInfo :=
  match calls.lookup callPath with
  | none => {}
  | some call =>
      { name := if call.number = "" then "" else ofonoDBus.findNameByNumber call.number
        number := call.number
        state := call.state.name }

def setActiveModemPath (ofonoDBus : OfonoDBus) (modemPath : String) : OfonoDBus :=
  { ofonoDBus with modemPath }

def clearActiveModemPath (_ofonoDBus : OfonoDBus) : OfonoDBus := {}

/-- Insertion into a `std::set`, which keeps its elements in increasing order. -/
def insertPath (callPath : String) : List String → List String
  | [] => [callPath]
  | path :: paths =>
      if callPath = path then path :: paths
      else if callPath < path then callPath :: path :: paths
      else path :: insertPath callPath paths

def addActiveCallPath (ofonoDBus : OfonoDBus) (callPath : String) : OfonoDBus :=
  { ofonoDBus with activeCallPaths := insertPath callPath ofonoDBus.activeCallPaths }

def removeActiveCallPath (ofonoDBus : OfonoDBus) (callPath : String) : OfonoDBus :=
  { ofonoDBus with activeCallPaths := ofonoDBus.activeCallPaths.filter (· ≠ callPath) }

theorem mem_insertPath {callPath path : String} {paths : List String} :
    path ∈ insertPath callPath paths ↔ path = callPath ∨ path ∈ paths := by
  induction paths with
  | nil => simp [insertPath]
  | cons first paths ih =>
      simp only [insertPath]
      split
      · next same => simp [same]
      · split
        · simp
        · simp only [List.mem_cons, ih]
          tauto

end OfonoDBus

namespace BluetoothWorker

/-- The modem is also switched on, which oFono answers by further signals. -/
def handleModemAdded (ofonoDBus : OfonoDBus) (modemPath : String) :
    OfonoDBus × Option CallNoti :=
  (ofonoDBus.setActiveModemPath modemPath, none)

def handleModemRemoved (ofonoDBus : OfonoDBus) : OfonoDBus × Option CallNoti :=
  (ofonoDBus.clearActiveModemPath, some (.reply .pbapSessionEndNoti true
    "Phone disconnected, clearing contacts and call history."))

def handleVoiceCallPropertyChanged (ofonoDBus : OfonoDBus) (calls : OfonoCalls)
    (callPath key : String) : OfonoDBus × Option CallNoti :=
  if key ≠ "State" ∧ key ≠ "LineIdentification" then (ofonoDBus, none)
  else
    let info := ofonoDBus.getVoiceCallProperties calls callPath
    if info.state = "" then (ofonoDBus, none)
    else if info.state = "disconnected" then
      (ofonoDBus, some (.call .callEndedNoti true { info with message := "Call ended." }))
    else
      (ofonoDBus, some (.call .callStateChangedNoti true
        { info with message := "Call state updated to " ++ info.state }))

def handleCallRemoved (ofonoDBus : OfonoDBus) (callPath : String) :
    OfonoDBus × Option CallNoti :=
  if callPath ∈ ofonoDBus.activeCallPaths then
    (ofonoDBus.removeActiveCallPath callPath, some (.call .callEndedNoti true
      { message := "Call has been terminated and removed." }))
  else (ofonoDBus, none)

def handleCallAdded (ofonoDBus : OfonoDBus) (calls : OfonoCalls) (callPath : String) :
    OfonoDBus × Option CallNoti :=
  let ofonoDBus := ofonoDBus.addActiveCallPath callPath
  let info := ofonoDBus.getVoiceCallProperties calls callPath
  if info.number = "" then (ofonoDBus, none)
  else if info.state = "incoming" ∨ info.state = "waiting" then
    (ofonoDBus, some (.call .incomingCallNoti true { info with message := "Incoming call" }))
  else if info.state = "dialing" ∨ info.state = "alerting" then
    (ofonoDBus, some (.call .outgoingCallNoti true { info with message := "Outgoing call" }))
  else (ofonoDBus, none)

/-- `BluetoothWorker::dispatchMessage` on a signal of oFono. -/
def dispatchMessage (ofonoDBus : OfonoDBus) (calls : OfonoCalls) :
    OfonoSignal → OfonoDBus × Option CallNoti
  | .modemAdded modemPath => handleModemAdded ofonoDBus modemPath
  | .modemRemoved _ => handleModemRemoved ofonoDBus
  | .callAdded callPath => handleCallAdded ofonoDBus calls callPath
  | .callRemoved callPath => handleCallRemoved ofonoDBus callPath
  | .propertyChanged callPath key =>
      handleVoiceCallPropertyChanged ofonoDBus calls callPath key

end BluetoothWorker

namespace OfonoDBus

/-- The entry of a command: where MainWorker goes, and what it sends at once. -/
def processCommand (ofonoDBus : OfonoDBus) : CallCommand → CallMainPc × Option CallNoti
  | .dialCall number =>
      if ofonoDBus.modemPath = "" then
        (.idle, some (.reply .dialCallNoti false "Cannot dial call, no active modem path set."))
      else (.dialing number, none)
  -- Without a modem a hang-up is only logged: there is no reply.
  | .hangupCall => if ofonoDBus.modemPath = "" then (.idle, none) else (.hangingUp, none)
  | .answerCall =>
      if ofonoDBus.activeCallPaths = [] then
        (.idle, some (.reply .answerCallNoti false "No active calls to answer."))
      else (.scanning ofonoDBus.activeCallPaths, none)

/-- One round of the loop of `answerCall`, which looks for a call to answer. -/
def scanStep (ofonoDBus : OfonoDBus) (calls : OfonoCalls) :
    List String → CallMainPc × Option CallNoti
  | [] => (.idle, some (.reply .answerCallNoti false "No incoming call found to answer."))
  | callPath :: remaining =>
      let info := ofonoDBus.getVoiceCallProperties calls callPath
      if info.state = "incoming" ∨ info.state = "waiting" then (.answering callPath, none)
      else (.scanning remaining, none)

/-- The end of a method call, which is reported to the core. -/
def methodReply : CallMainPc → MethodOutcome → Option CallNoti
  | .dialing _, .notCreated => some (.reply .dialCallNoti false "Failed to create Dial message.")
  | .dialing _, .error message =>
      some (.reply .dialCallNoti false ("Error dialing number: " ++ message))
  | .dialing _, .success => some (.reply .dialCallNoti true "Dial command sent successfully.")
  | .answering _, .notCreated =>
      some (.reply .answerCallNoti false "Failed to create Answer message.")
  | .answering _, .error message =>
      some (.reply .answerCallNoti false ("Error answering call: " ++ message))
  | .answering _, .success => some (.reply .answerCallNoti true "Call answered successfully.")
  | .hangingUp, .notCreated =>
      some (.reply .hangupCallNoti false "Failed to create HangupAll message.")
  | .hangingUp, .error message =>
      some (.reply .hangupCallNoti false ("Error hanging up calls: " ++ message))
  | .hangingUp, .success =>
      some (.reply .hangupCallNoti true "All calls hung up successfully.")
  | .idle, _ | .scanning _, _ => none

end OfonoDBus

end RaspberryPiService
