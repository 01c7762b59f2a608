import Mathlib.Data.List.Induction
import Mathlib.Logic.Function.Basic
import RaspberryPiService.CoreManager.CommandSender

/-!
# Messages to the clients

Whatever the core tells its clients is a JSON document of one form: a status, a text, and
below them the component of the user interface that it is for, its command and its data.
The server sends such documents about changes to every client, and three of them about the
present state to a client that joins.
-/

namespace RaspberryPiService

namespace Json

/-- An assignment through `operator[]` to a member of an object, whose keys are in order. -/
def assignMember (key : String) (value : Json) : List (String × Json) → List (String × Json)
  | [] => [(key, value)]
  | (other, present) :: members =>
      if key = other then (key, value) :: members
      else if key < other then (key, value) :: (other, present) :: members
      else (other, present) :: assignMember key value members

/-- An object made by assignments, one after the other. -/
def assigned (assignments : List (String × Json)) : Json :=
  .object (assignments.foldl
    (fun members assignment => assignMember assignment.1 assignment.2 members) [])

theorem lookup_cons_ite (key other : String) (value : Json) (members : List (String × Json)) :
    ((key, value) :: members).lookup other =
      if other = key then some value else members.lookup other := by
  rw [List.lookup_cons]
  by_cases same : other = key
  · simp [same]
  · simp [same, beq_eq_false_iff_ne.mpr same]

theorem lookup_assignMember (key : String) (value : Json) (members : List (String × Json))
    (other : String) :
    (assignMember key value members).lookup other =
      if other = key then some value else members.lookup other := by
  induction members with
  | nil => exact lookup_cons_ite key other value []
  | cons member members ih =>
      rcases member with ⟨present, old⟩
      simp only [assignMember]
      split
      · next same =>
          subst same
          simp only [lookup_cons_ite]
          split <;> rfl
      · next differs =>
          split
          · rw [lookup_cons_ite]
          · rw [lookup_cons_ite, lookup_cons_ite, ih]
            by_cases found : other = key
            · rw [if_pos found, if_pos found, if_neg (found ▸ differs)]
            · rw [if_neg found, if_neg found]

theorem member?_assigned_concat (assignments : List (String × Json)) (key : String)
    (value : Json) (other : String) :
    (assigned (assignments ++ [(key, value)])).member? other =
      if other = key then some value else (assigned assignments).member? other := by
  simp only [assigned, List.foldl_append, List.foldl_cons, List.foldl_nil, member?,
    lookup_assignMember]

/-- The last assignment to a key decides. -/
theorem member?_assigned (assignments : List (String × Json)) (key : String) :
    (assigned assignments).member? key = assignments.reverse.lookup key := by
  induction assignments using List.reverseRecOn with
  | nil => rfl
  | append_singleton assignments assignment ih =>
      rw [member?_assigned_concat, ih, List.reverse_append, List.reverse_singleton,
        List.singleton_append, lookup_cons_ite]

theorem member?_assigned_eq_none {assignments : List (String × Json)} {key : String}
    (absent : key ∉ assignments.map Prod.fst) : (assigned assignments).member? key = none := by
  rw [member?_assigned, List.lookup_eq_none_iff]
  intro assignment member
  have found := List.mem_map_of_mem (f := Prod.fst) (List.mem_reverse.mp member)
  rw [bne_iff_ne]
  rintro rfl
  exact absent found

end Json

/-- A document of the form that the server sends, as a client reads it. -/
structure StatusMessage where
  status : String
  msg : String
  component : String
  command : String
  data : Json

namespace StatusMessage

def document (message : StatusMessage) : Json :=
  .assigned [("status", .string message.status), ("msg", .string message.msg),
    ("data", .assigned [("component", .string message.component),
      ("msg", .string message.command), ("data", message.data)])]

/-- What a client finds under the keys. -/
def read (document : Json) : Option StatusMessage := do
  let status ← JsonHelper.getStringField document "status"
  let msg ← JsonHelper.getStringField document "msg"
  let jsonData ← document.member? "data"
  let component ← JsonHelper.getStringField jsonData "component"
  let command ← JsonHelper.getStringField jsonData "msg"
  let data ← jsonData.member? "data"
  return { status, msg, component, command, data }

@[simp] theorem read_document (message : StatusMessage) :
    read message.document = some message := by
  simp [read, document, JsonHelper.getStringField, Json.member?_assigned, List.lookup_cons]

end StatusMessage

/-- `StateView` as a whole. -/
structure CoreState extends StateView where
  currentTemperature : Int32 := 0
deriving DecidableEq

namespace WebSocketServer

/-- The document that `updateStateAndBroadcast` sends to everybody. -/
def updateStateAndBroadcast (status msgInfo component msgData : String) (data : Json) : Json :=
  StatusMessage.document { status, msg := msgInfo, component, command := msgData, data }

/-- The first message of `sendInitStateToClient`. -/
def initialTemperature (state : CoreState) : StatusMessage where
  status := "success"
  msg := ""
  component := "Header"
  command := "update_temperature_noti"
  data := .assigned [("temperature", .number state.currentTemperature)]

def initialRecord (state : CoreState) : StatusMessage where
  status := "success"
  msg := ""
  component := "Record"
  command := "initial_state"
  data := .assigned [("is_recording", .boolean (state.recordState = .recording))]

def initialSettings (state : CoreState) : StatusMessage where
  status := "success"
  msg := ""
  component := "Settings"
  command := "initial_state"
  data := .assigned
    [("bluetooth_power_state", .boolean (state.bluetoothPowerState = .on)),
      ("scanning_btdevice_state", .boolean (state.scanningBTDeviceState = .on))]

/-- Each of the messages is made of the state at its time. -/
def sendInitStateToClient : List (CoreState → StatusMessage) :=
  [initialTemperature, initialRecord, initialSettings]

end WebSocketServer

end RaspberryPiService
