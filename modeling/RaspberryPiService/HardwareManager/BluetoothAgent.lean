import Mathlib.Data.List.AList

/-!
# The pairing agent of the hardware manager

BlueZ asks the agent to confirm a passkey by a method call that stays open until it is
answered. The agent keeps the open call under the device address in
`pendingConfirmations_`, notifies the core, and answers when a decision arrives. An
open call is represented by a value of type `Request`, which stands for the D-Bus
message that the reply has to refer to.
-/

namespace RaspberryPiService

/-- `DBUS_MESSAGE_TYPE_METHOD_RETURN` and `DBUS_MESSAGE_TYPE_ERROR`. -/
inductive ReplyType where
  | methodReturn
  | error
deriving DecidableEq

structure BluetoothAgent (Request : Type) where
  pendingConfirmations : AList fun _ : String => Request := ∅

/-- The data of a `BTDEVICE_REQUEST_CONFIRMATION_NOTI`. -/
structure ConfirmationNoti (Request : Type) where
  isSuccess : Bool := true
  address : String
  passkey : String
  message : String := "Please confirm the passkey on your device."
  request : Request
deriving DecidableEq

namespace BluetoothAgent

variable {Request : Type}

/-- What follows the last occurrence of `dev_`. -/
def afterLastDev : List Char → Option (List Char)
  | [] => none
  | first :: rest =>
      match afterLastDev rest with
      | some found => some found
      | none =>
          if "dev_".toList.isPrefixOf (first :: rest) then some ((first :: rest).drop 4) else none

/-- `/…/dev_xx_xx` becomes `xx:xx`; a path without `dev_` gives the empty address. -/
def deviceAddress (devicePath : String) : String :=
  match afterLastDev devicePath.toList with
  | some found => String.ofList (found.map fun char => if char = '_' then ':' else char)
  | none => ""

/--
The call is stored in place of an earlier one for the same address, and the core is to
be notified; a call with invalid arguments or without an address is answered at once.
-/
def handleRequestConfirmation (agent : BluetoothAgent Request) (request : Request) :
    Option (String × Nat) → Except ReplyType (BluetoothAgent Request × ConfirmationNoti Request)
  | none => .error .error
  | some (devicePath, passkey) =>
      let address := deviceAddress devicePath
      if address = "" then .error .error
      else
        .ok ({ agent with
            pendingConfirmations := agent.pendingConfirmations.insert address request },
          { address, passkey := toString passkey, request })

/-- The open calls are dropped without an answer; the `Release` call itself gets an error. -/
def handleRelease (agent : BluetoothAgent Request) : BluetoothAgent Request × ReplyType :=
  ({ agent with pendingConfirmations := ∅ }, .error)

/-- The open call of the address, if any, is closed with a return or an error. -/
def confirmRequest (agent : BluetoothAgent Request) (address : String) (confirmed : Bool) :
    BluetoothAgent Request × Option (Request × ReplyType) :=
  match agent.pendingConfirmations.lookup address with
  | none => (agent, none)
  | some request =>
      ({ agent with pendingConfirmations := agent.pendingConfirmations.erase address },
        some (request, if confirmed then .methodReturn else .error))

/-- The agent's methods, with the arguments of the call if they have the expected types. -/
inductive Method where
  | requestConfirmation (args : Option (String × Nat))
  | requestAuthorization (devicePath : Option String)
  | requestPinCode
  | displayPasskey
  | release
  | unknown
deriving DecidableEq

/-- A call and the replies that are sent at once; profile connections are always authorized. -/
def handleMessage (agent : BluetoothAgent Request) (message : Request) :
    Method → BluetoothAgent Request × List (Request × ReplyType)
  | .requestConfirmation args =>
      match agent.handleRequestConfirmation message args with
      | .ok (agent, _) => (agent, [])
      | .error reply => (agent, [(message, reply)])
  | .requestAuthorization none => (agent, [(message, .error)])
  | .requestAuthorization (some _) => (agent, [(message, .methodReturn)])
  | .requestPinCode | .displayPasskey => (agent, [(message, .error)])
  | .release => (agent.handleRelease.1, [(message, agent.handleRelease.2)])
  | .unknown => (agent, [(message, .error)])

/-- A call that is not answered at once is stored under its address and announced. -/
theorem stored_handleRequestConfirmation {agent after : BluetoothAgent Request}
    {request : Request} {args : Option (String × Nat)} {noti : ConfirmationNoti Request}
    (handled : agent.handleRequestConfirmation request args = .ok (after, noti)) :
    (∃ devicePath passkey, args = some (devicePath, passkey) ∧
      noti.address = deviceAddress devicePath) ∧ noti.request = request ∧
      after.pendingConfirmations = agent.pendingConfirmations.insert noti.address request := by
  cases args with
  | none => simp [handleRequestConfirmation] at handled
  | some args =>
      rcases args with ⟨devicePath, passkey⟩
      simp only [handleRequestConfirmation] at handled
      split at handled
      · simp at handled
      · simp only [Except.ok.injEq, Prod.mk.injEq] at handled
        rcases handled with ⟨rfl, rfl⟩
        exact ⟨⟨devicePath, passkey, rfl, rfl⟩, rfl, rfl⟩

theorem lookup_of_confirmRequest {agent : BluetoothAgent Request} {address other : String}
    {confirmed : Bool} {request : Request}
    (pending : (agent.confirmRequest address confirmed).1.pendingConfirmations.lookup other =
      some request) :
    agent.pendingConfirmations.lookup other = some request := by
  simp only [confirmRequest] at pending
  split at pending
  · exact pending
  · by_cases same : other = address
    · subst same
      simp at pending
    · simpa [AList.lookup_erase_ne same] using pending

theorem answered_confirmRequest {agent : BluetoothAgent Request} {address : String}
    {confirmed : Bool} {answer : Request × ReplyType}
    (answered : (agent.confirmRequest address confirmed).2 = some answer) :
    agent.pendingConfirmations.lookup address = some answer.1 ∧
      answer.2 = if confirmed then .methodReturn else .error := by
  simp only [confirmRequest] at answered
  split at answered
  · simp at answered
  · next request pending =>
      simp only [Option.some.injEq] at answered
      subst answered
      exact ⟨pending, rfl⟩

end BluetoothAgent

end RaspberryPiService
