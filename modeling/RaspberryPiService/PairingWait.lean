import RaspberryPiService.HardwareManager.BluezDBus
import RaspberryPiService.Transition.Runs

/-!
# Waiting for a pairing

MainWorker calls `Pair` with the mutex of `BluezDBus` held, and holds it until the call
returns. BluetoothWorker takes the same mutex before it pops a message, so nothing is
dispatched in the meantime; and decisions about a confirmation are executed by MainWorker
itself. BlueZ answers a `Pair` of a device that needs a confirmation only after the agent
has answered its `RequestConfirmation`. Such a call is therefore ended by nothing but the
D-Bus timeout, whatever the clients and BlueZ do.

Every `Pair` call has a number. The `RequestConfirmation` that BlueZ sends for it, and
the agent's answer to that, carry the same number; BlueZ may also ask for a confirmation
on its own, under a new number. Clients' commands, and their order, are arbitrary.
-/

namespace RaspberryPiService

/-- The events of the hardware manager's queue that concern pairing. -/
inductive PairingEvent where
  | pairBTDevice (address : String)
  | acceptRequestConfirmation (address : String)
  | rejectRequestConfirmation (address : String)
deriving DecidableEq

/-- A `Pair` call, and whether BlueZ needs a confirmation to answer it. -/
structure PairCall where
  serial : Nat
  address : String
  devicePath : String
  needsConfirmation : Bool
deriving DecidableEq

/-- A `Pair` call that BlueZ has not answered, and how far it is. -/
structure OpenPair where
  call : PairCall
  requested : Bool := false
  confirmed : Bool := false
deriving DecidableEq

/-- BlueZ has asked for a confirmation. -/
def OpenPair.request (pair : OpenPair) : OpenPair := { pair with requested := true }

/-- BlueZ has read the agent's answer. -/
def OpenPair.confirm (pair : OpenPair) : OpenPair := { pair with confirmed := true }

/-- What BlueZ sends to the hardware manager. -/
inductive BluezMessage where
  | requestConfirmation (request : Nat) (devicePath : String) (passkey : Nat)
  | release
  | pairReply (serial : Nat) (error : Option String)
  | other
deriving DecidableEq

/-- Where MainWorker is; it holds the mutex while it is `pairing`. -/
inductive PairMainPc where
  | idle
  | locking (address : String)
  | pairing (call : PairCall)
  | replying (request : Nat) (type : ReplyType)
deriving DecidableEq

/-- Where BluetoothWorker is; it holds the mutex while it is `dispatching`. -/
inductive PairWorkerPc where
  | polling
  | locking
  | dispatching
deriving DecidableEq

/-- What the hardware manager sends to the core. -/
inductive PairingNoti where
  | pair (noti : PairNoti)
  | requestConfirmation (noti : ConfirmationNoti Nat)
deriving DecidableEq

structure PairingWait where
  adapterPath : String
  eventQueue : List PairingEvent := []
  main : PairMainPc := .idle
  worker : PairWorkerPc := .polling
  agent : BluetoothAgent Nat := {}
  incoming : List BluezMessage := []
  replies : List (Nat × ReplyType) := []
  pairs : List OpenPair := []
  serials : Nat := 0
  notis : List PairingNoti := []

namespace PairingWait

inductive Action where
  | command (event : PairingEvent)
  | mainEvent
  | pair (needsConfirmation : Bool)
  | pairNotCreated
  | pairReturned
  | timeout (error : String)
  | sendSimpleReply
  | workerPoll
  | workerLock
  | workerPop
  | requestConfirmation (serial passkey : Nat)
  | requestOther (devicePath : String) (passkey : Nat)
  | signal (message : BluezMessage)
  | readReply
  | answerPair (serial : Nat) (error : Option String)
deriving DecidableEq

/-- `BluetoothAgent::confirmRequest`, up to the lock in `sendSimpleReply`. -/
def confirmRequest (state : PairingWait) (address : String) (confirmed : Bool) : PairingWait :=
  let (agent, answer) := state.agent.confirmRequest address confirmed
  { state with
    agent
    main := match answer with
      | none => .idle
      | some (request, type) => .replying request type }

/-- `MainWorker::processEvent`, up to the lock in `pairDevice`. -/
def processEvent (state : PairingWait) : PairingEvent → PairingWait
  | .pairBTDevice address => { state with main := .locking address }
  | .acceptRequestConfirmation address => state.confirmRequest address true
  | .rejectRequestConfirmation address => state.confirmRequest address false

/-- `Pair` is called under a new number. -/
def pair (state : PairingWait) (address : String) (needsConfirmation : Bool) : PairingWait :=
  let call : PairCall :=
    { serial := state.serials
      address
      devicePath := BluezDBus.deviceAddressToObjectPath state.adapterPath address
      needsConfirmation }
  { state with
    main := .pairing call
    pairs := state.pairs ++ [{ call }]
    serials := state.serials + 1 }

def replyTo (serial : Nat) : BluezMessage → Option (Option String)
  | .pairReply number error => if number = serial then some error else none
  | _ => none

/-- The blocking call takes its reply out of the messages that have arrived. -/
def pairReturned (state : PairingWait) (call : PairCall) : Option PairingWait :=
  (state.incoming.findSome? (replyTo call.serial)).map fun error =>
    { state with
      main := .idle
      incoming := state.incoming.filter fun message => (replyTo call.serial message).isNone
      notis := state.notis ++
        ((BluezDBus.pairReturned call.address error).map PairingNoti.pair).toList }

/-- No reply has come in time, and the D-Bus library returns an error of its own. -/
def timedOut (state : PairingWait) (call : PairCall) (error : String) : PairingWait :=
  { state with
    main := .idle
    notis := state.notis ++
      ((BluezDBus.pairReturned call.address (some error)).map PairingNoti.pair).toList }

/-- `BluetoothWorker::dispatchMessage` on a message of BlueZ. -/
def dispatchMessage (state : PairingWait) : BluezMessage → PairingWait
  | .requestConfirmation request devicePath passkey =>
      match state.agent.handleRequestConfirmation request (some (devicePath, passkey)) with
      | .error type => { state with replies := state.replies ++ [(request, type)] }
      | .ok (agent, noti) =>
          { state with agent, notis := state.notis ++ [.requestConfirmation noti] }
  | .release => { state with agent := state.agent.handleRelease.1 }
  | .pairReply _ _ | .other => state

def findPair (state : PairingWait) (serial : Nat) : Option OpenPair :=
  state.pairs.find? fun pair => pair.call.serial == serial

def updatePair (pairs : List OpenPair) (serial : Nat) (update : OpenPair → OpenPair) :
    List OpenPair :=
  pairs.map fun pair => if pair.call.serial = serial then update pair else pair

def step (state : PairingWait) : Action → Option PairingWait
  | .command event => some { state with eventQueue := state.eventQueue ++ [event] }
  | .mainEvent =>
      match state.main, state.eventQueue with
      | .idle, event :: eventQueue => some ({ state with eventQueue }.processEvent event)
      | _, _ => none
  | .pair needsConfirmation =>
      match state.main with
      | .locking address =>
          if state.worker = .dispatching then none
          else some (state.pair address needsConfirmation)
      | _ => none
  | .pairNotCreated =>
      match state.main with
      | .locking address =>
          if state.worker = .dispatching then none
          else some { state with
            main := .idle
            notis := state.notis ++ [.pair (BluezDBus.pairNotCreated address)] }
      | _ => none
  | .pairReturned =>
      match state.main with
      | .pairing call => state.pairReturned call
      | _ => none
  | .timeout error =>
      match state.main with
      | .pairing call => some (state.timedOut call error)
      | _ => none
  | .sendSimpleReply =>
      match state.main with
      | .replying request type =>
          if state.worker = .dispatching then none
          else some { state with main := .idle, replies := state.replies ++ [(request, type)] }
      | _ => none
  | .workerPoll =>
      match state.worker, state.incoming with
      | .polling, _ :: _ => some { state with worker := .locking }
      | _, _ => none
  | .workerLock =>
      match state.worker, state.main with
      | .locking, .pairing _ => none
      | .locking, _ => some { state with worker := .dispatching }
      | _, _ => none
  | .workerPop =>
      match state.worker, state.incoming with
      | .dispatching, [] => some { state with worker := .polling }
      | .dispatching, message :: incoming => some ({ state with incoming }.dispatchMessage message)
      | _, _ => none
  | .requestConfirmation serial passkey =>
      match state.findPair serial with
      | none => none
      | some pair =>
          if pair.call.needsConfirmation = true ∧ pair.requested = false then
            some { state with
              pairs := updatePair state.pairs serial OpenPair.request
              incoming := state.incoming ++
                [.requestConfirmation serial pair.call.devicePath passkey] }
          else none
  | .requestOther devicePath passkey =>
      some { state with
        incoming := state.incoming ++ [.requestConfirmation state.serials devicePath passkey]
        serials := state.serials + 1 }
  | .signal message =>
      match message with
      | .release | .other => some { state with incoming := state.incoming ++ [message] }
      | .requestConfirmation _ _ _ | .pairReply _ _ => none
  | .readReply =>
      match state.replies with
      | [] => none
      | (request, _) :: replies =>
          some { state with
            replies
            pairs := updatePair state.pairs request OpenPair.confirm }
  -- BlueZ answers when it needs no confirmation, or has got one.
  | .answerPair serial error =>
      match state.findPair serial with
      | none => none
      | some pair =>
          if pair.call.needsConfirmation = false ∨ pair.confirmed = true then
            some { state with
              pairs := state.pairs.filter fun pair => pair.call.serial ≠ serial
              incoming := state.incoming ++ [.pairReply serial error] }
          else none

def system (adapterPath : String) : System PairingWait Action where
  init := { adapterPath }
  step := step

/-- The number that a message is about, if any. -/
def number : BluezMessage → Option Nat
  | .requestConfirmation request _ _ => some request
  | .pairReply serial _ => some serial
  | .release | .other => none

/-- Every number in use has been given out. -/
structure Numbered (state : PairingWait) : Prop where
  pairs : ∀ pair ∈ state.pairs, pair.call.serial < state.serials
  incoming : ∀ message ∈ state.incoming, ∀ serial ∈ number message, serial < state.serials
  pending : ∀ address request,
    state.agent.pendingConfirmations.lookup address = some request → request < state.serials
  replying : ∀ request type, state.main = .replying request type → request < state.serials
  replies : ∀ reply ∈ state.replies, reply.1 < state.serials

/--
While a `Pair` call is outstanding, nothing is dispatched and no confirmation is
answered: BlueZ still has the call, or needed no confirmation to answer it.
-/
structure Waiting (call : PairCall) (state : PairingWait) : Prop where
  exclusive : state.worker ≠ .dispatching
  own : ∀ pair ∈ state.pairs, pair.call.serial = call.serial →
    pair.call = call ∧ pair.confirmed = false
  unconfirmed : ∀ reply ∈ state.replies, reply.1 ≠ call.serial
  placed : (∃ pair ∈ state.pairs, pair.call.serial = call.serial) ∨
    ∃ error, .pairReply call.serial error ∈ state.incoming
  unreturned : call.needsConfirmation = true →
    ∀ error, .pairReply call.serial error ∉ state.incoming

/-- Every step but the timeout. -/
def InTime : Action → Prop
  | .timeout _ => False
  | _ => True

/-- Some further steps, none of them the timeout, bring the `Pair` call back. -/
def Answerable (adapterPath : String) (call : PairCall) (state : PairingWait) : Prop :=
  (system adapterPath).CanReach InTime (fun final => final.main ≠ .pairing call) state

variable {state next : PairingWait} {call : PairCall}

theorem serial_of_findPair {serial : Nat} {pair : OpenPair}
    (found : state.findPair serial = some pair) :
    pair ∈ state.pairs ∧ pair.call.serial = serial :=
  ⟨List.mem_of_find?_eq_some found, by simpa using List.find?_some found⟩

theorem mem_updatePair {pairs : List OpenPair} {serial : Nat} {update : OpenPair → OpenPair}
    {pair : OpenPair} (member : pair ∈ updatePair pairs serial update) :
    ∃ before ∈ pairs, pair = if before.call.serial = serial then update before else before := by
  rcases List.mem_map.mp member with ⟨before, inPairs, rfl⟩
  exact ⟨before, inPairs, rfl⟩

/-- A pair that BlueZ updates stays in its place. -/
theorem exists_updatePair {pairs : List OpenPair} {serial number : Nat}
    {update : OpenPair → OpenPair} (keeps : ∀ pair, (update pair).call = pair.call)
    (placed : ∃ pair ∈ pairs, pair.call.serial = serial) :
    ∃ pair ∈ updatePair pairs number update, pair.call.serial = serial := by
  rcases placed with ⟨pair, member, same⟩
  refine ⟨_, List.mem_map_of_mem member, ?_⟩
  split
  · rw [keeps]
    exact same
  · exact same

theorem eq_pairReply_of_replyTo {serial : Nat} {message : BluezMessage} {error : Option String}
    (replied : replyTo serial message = some error) : message = .pairReply serial error := by
  cases message with
  | pairReply number answer =>
      simp only [replyTo] at replied
      split at replied
      · next same =>
          cases replied
          rw [same]
      · simp at replied
  | requestConfirmation | release | other => simp [replyTo] at replied

theorem numbered_init (adapterPath : String) : (system adapterPath).init.Numbered where
  pairs := by simp [system]
  incoming := by simp [system]
  pending := by simp [system]
  replying := by simp [system]
  replies := by simp [system]

theorem Numbered.confirmRequest (numbered : state.Numbered) (address : String)
    (confirmed : Bool) : (state.confirmRequest address confirmed).Numbered where
  pairs := numbered.pairs
  incoming := numbered.incoming
  pending := fun other request pending =>
    numbered.pending other request (BluetoothAgent.lookup_of_confirmRequest pending)
  replying := by
    intro request type replying
    simp only [PairingWait.confirmRequest] at replying
    split at replying
    · simp at replying
    · next answered =>
        cases replying
        exact numbered.pending address _ (BluetoothAgent.answered_confirmRequest answered).1
  replies := numbered.replies

theorem Numbered.processEvent (numbered : state.Numbered) (event : PairingEvent) :
    (state.processEvent event).Numbered := by
  cases event with
  | pairBTDevice address => exact { numbered with replying := by simp [PairingWait.processEvent] }
  | acceptRequestConfirmation address => exact numbered.confirmRequest address true
  | rejectRequestConfirmation address => exact numbered.confirmRequest address false

theorem Numbered.pair (numbered : state.Numbered) (address : String) (needsConfirmation : Bool) :
    (state.pair address needsConfirmation).Numbered where
  pairs := by
    intro pair member
    rcases List.mem_append.mp member with member | member
    · exact Nat.lt_succ_of_lt (numbered.pairs pair member)
    · rw [List.mem_singleton.mp member]
      exact Nat.lt_succ_self _
  incoming := fun message member serial about =>
    Nat.lt_succ_of_lt (numbered.incoming message member serial about)
  pending := fun address request pending =>
    Nat.lt_succ_of_lt (numbered.pending address request pending)
  replying := by simp [PairingWait.pair]
  replies := fun reply member => Nat.lt_succ_of_lt (numbered.replies reply member)

theorem Numbered.requestOther (numbered : state.Numbered) (devicePath : String)
    (passkey : Nat) :
    Numbered { state with
      incoming := state.incoming ++ [.requestConfirmation state.serials devicePath passkey]
      serials := state.serials + 1 } where
  pairs := fun pair member => Nat.lt_succ_of_lt (numbered.pairs pair member)
  incoming := by
    intro message member serial about
    rcases List.mem_append.mp member with member | member
    · exact Nat.lt_succ_of_lt (numbered.incoming message member serial about)
    · rw [List.mem_singleton.mp member] at about
      simp only [number, Option.mem_some_iff] at about
      exact about ▸ Nat.lt_succ_self _
  pending := fun address request pending =>
    Nat.lt_succ_of_lt (numbered.pending address request pending)
  replying := fun request type replying =>
    Nat.lt_succ_of_lt (numbered.replying request type replying)
  replies := fun reply member => Nat.lt_succ_of_lt (numbered.replies reply member)

/-- A message that is about a number given out, or about none. -/
theorem Numbered.receive (numbered : state.Numbered) {message : BluezMessage}
    (about : ∀ serial ∈ number message, serial < state.serials) :
    Numbered { state with incoming := state.incoming ++ [message] } where
  pairs := numbered.pairs
  incoming := by
    intro arrived member
    rcases List.mem_append.mp member with member | member
    · exact numbered.incoming arrived member
    · rw [List.mem_singleton.mp member]
      exact about
  pending := numbered.pending
  replying := numbered.replying
  replies := numbered.replies

theorem Numbered.reply (numbered : state.Numbered) {request : Nat} (type : ReplyType)
    (given : request < state.serials) :
    Numbered { state with replies := state.replies ++ [(request, type)] } where
  pairs := numbered.pairs
  incoming := numbered.incoming
  pending := numbered.pending
  replying := numbered.replying
  replies := by
    intro reply member
    rcases List.mem_append.mp member with member | member
    · exact numbered.replies reply member
    · rw [List.mem_singleton.mp member]
      exact given

theorem Numbered.dispatchMessage (numbered : state.Numbered) {message : BluezMessage}
    (about : ∀ serial ∈ number message, serial < state.serials) :
    (state.dispatchMessage message).Numbered := by
  cases message with
  | requestConfirmation request devicePath passkey =>
      simp only [PairingWait.dispatchMessage]
      split
      · exact numbered.reply _ (about request rfl)
      · next agent noti handled =>
          rcases BluetoothAgent.stored_handleRequestConfirmation handled with ⟨-, -, stored⟩
          refine { numbered with pending := fun address other pending => ?_ }
          rw [stored] at pending
          by_cases same : address = noti.address
          · rw [same, AList.lookup_insert, Option.some.injEq] at pending
            exact pending ▸ about request rfl
          · rw [AList.lookup_insert_ne same] at pending
            exact numbered.pending address other pending
  | release =>
      exact { numbered with
        pending := by simp [PairingWait.dispatchMessage, BluetoothAgent.handleRelease] }
  | pairReply | other => exact numbered

/-- BlueZ's list keeps its calls, or loses some. -/
theorem Numbered.keepPairs (numbered : state.Numbered) {pairs : List OpenPair}
    (kept : ∀ pair ∈ pairs, ∃ before ∈ state.pairs, before.call = pair.call) :
    Numbered { state with pairs } :=
  { numbered with
    pairs := by
      intro pair member
      rcases kept pair member with ⟨before, inPairs, same⟩
      rw [← same]
      exact numbered.pairs before inPairs }

theorem call_of_updatePair (pairs : List OpenPair) (serial : Nat)
    (update : OpenPair → OpenPair) (keeps : ∀ pair, (update pair).call = pair.call) :
    ∀ pair ∈ updatePair pairs serial update, ∃ before ∈ pairs, before.call = pair.call := by
  intro pair member
  rcases mem_updatePair member with ⟨before, inPairs, rfl⟩
  refine ⟨before, inPairs, ?_⟩
  split
  · exact (keeps before).symm
  · rfl

theorem numbered_step {action : Action} (numbered : state.Numbered)
    (stepped : state.step action = some next) : next.Numbered := by
  cases action with
  | command event =>
      cases stepped
      exact { numbered with }
  | mainEvent =>
      simp only [step] at stepped
      split at stepped
      · next event eventQueue _ _ =>
          cases stepped
          have popped : Numbered { state with eventQueue } := { numbered with }
          exact popped.processEvent event
      · simp at stepped
  | pair needsConfirmation =>
      simp only [step] at stepped
      split at stepped
      · split at stepped <;> cases stepped
        exact numbered.pair _ needsConfirmation
      · simp at stepped
  | pairNotCreated =>
      simp only [step] at stepped
      split at stepped
      · split at stepped <;> cases stepped
        exact { numbered with replying := by simp }
      · simp at stepped
  | pairReturned =>
      simp only [step] at stepped
      split at stepped
      · rcases Option.map_eq_some_iff.mp stepped with ⟨error, -, rfl⟩
        exact { numbered with
          incoming := fun message member =>
            numbered.incoming message (List.mem_of_mem_filter member)
          replying := by simp }
      · simp at stepped
  | timeout error =>
      simp only [step] at stepped
      split at stepped <;> cases stepped
      exact { numbered with replying := by simp [timedOut] }
  | sendSimpleReply =>
      simp only [step] at stepped
      split at stepped
      · next request type replying =>
          split at stepped <;> cases stepped
          have sent := numbered.reply type (numbered.replying request type replying)
          exact { sent with replying := by simp }
      · simp at stepped
  | workerPoll | workerLock =>
      simp only [step] at stepped
      split at stepped <;> cases stepped
      exact { numbered with }
  | workerPop =>
      simp only [step] at stepped
      split at stepped
      · cases stepped
        exact { numbered with }
      · next message incoming _ found =>
          cases stepped
          have popped : Numbered { state with incoming } :=
            { numbered with
              incoming := fun later member => numbered.incoming later (by simp [found, member]) }
          exact popped.dispatchMessage (numbered.incoming message (by simp [found]))
      · simp at stepped
  | requestConfirmation serial passkey =>
      simp only [step] at stepped
      split at stepped
      · simp at stepped
      · next pair found =>
          split at stepped <;> cases stepped
          rcases serial_of_findPair found with ⟨inPairs, same⟩
          have kept := numbered.keepPairs (call_of_updatePair state.pairs serial OpenPair.request
            fun _ => rfl)
          apply kept.receive
          intro request about
          simp only [number, Option.mem_some_iff] at about
          exact about ▸ same ▸ numbered.pairs pair inPairs
  | requestOther devicePath passkey =>
      cases stepped
      exact numbered.requestOther devicePath passkey
  | signal message =>
      simp only [step] at stepped
      split at stepped <;> cases stepped <;> exact numbered.receive (by simp [number])
  | readReply =>
      simp only [step] at stepped
      split at stepped
      · simp at stepped
      · next request type replies found =>
          cases stepped
          have kept := numbered.keepPairs (call_of_updatePair state.pairs request OpenPair.confirm
            fun _ => rfl)
          exact { kept with
            replies := fun reply member => numbered.replies reply (by simp [found, member]) }
  | answerPair serial error =>
      simp only [step] at stepped
      split at stepped
      · simp at stepped
      · next pair found =>
          split at stepped <;> cases stepped
          rcases serial_of_findPair found with ⟨inPairs, same⟩
          have kept : Numbered { state with
              pairs := state.pairs.filter fun pair => pair.call.serial ≠ serial } :=
            numbered.keepPairs fun pair member => ⟨pair, List.mem_of_mem_filter member, rfl⟩
          apply kept.receive
          intro answered about
          simp only [number, Option.mem_some_iff] at about
          exact about ▸ same ▸ numbered.pairs pair inPairs

/-- A message other than the reply to the call arrives. -/
theorem Waiting.receive (waiting : state.Waiting call) (message : BluezMessage)
    (unrelated : ∀ error, message ≠ .pairReply call.serial error) :
    Waiting call { state with incoming := state.incoming ++ [message] } where
  exclusive := waiting.exclusive
  own := waiting.own
  unconfirmed := waiting.unconfirmed
  placed := waiting.placed.imp_right fun ⟨error, arrived⟩ =>
    ⟨error, List.mem_append_left _ arrived⟩
  unreturned := by
    intro needs error arrived
    rcases List.mem_append.mp arrived with arrived | arrived
    · exact waiting.unreturned needs error arrived
    · exact unrelated error (List.mem_singleton.mp arrived).symm

/-- BlueZ asks for a confirmation, or reads the answer to that of another call. -/
theorem Waiting.update (waiting : state.Waiting call) (serial : Nat)
    (update : OpenPair → OpenPair) (keeps : ∀ pair, (update pair).call = pair.call)
    (unconfirmed : serial = call.serial → ∀ pair, (update pair).confirmed = pair.confirmed) :
    Waiting call { state with pairs := updatePair state.pairs serial update } where
  exclusive := waiting.exclusive
  own := by
    intro pair member same
    rcases mem_updatePair member with ⟨before, inPairs, rfl⟩
    split at same
    · next updated =>
        rw [keeps] at same
        have own := waiting.own before inPairs same
        rw [if_pos updated, keeps, unconfirmed (updated.symm.trans same)]
        exact own
    · next other =>
        rw [if_neg other]
        exact waiting.own before inPairs same
  unconfirmed := waiting.unconfirmed
  placed := waiting.placed.imp_left (exists_updatePair keeps)
  unreturned := waiting.unreturned

/-- BlueZ answers a call: this one only if it needs no confirmation. -/
theorem Waiting.answer (waiting : state.Waiting call) {serial : Nat} {pair : OpenPair}
    (found : state.findPair serial = some pair)
    (allowed : pair.call.needsConfirmation = false ∨ pair.confirmed = true)
    (error : Option String) :
    Waiting call { state with
      pairs := state.pairs.filter fun pair => pair.call.serial ≠ serial
      incoming := state.incoming ++ [.pairReply serial error] } := by
  rcases serial_of_findPair found with ⟨inPairs, same⟩
  refine ⟨waiting.exclusive, ?_, waiting.unconfirmed, ?_, ?_⟩
  · exact fun pair member => waiting.own pair (List.mem_of_mem_filter member)
  · by_cases answered : serial = call.serial
    · exact Or.inr ⟨error, by simp [answered]⟩
    · rcases waiting.placed with ⟨placed, member, itsSerial⟩ | ⟨error, arrived⟩
      · left
        refine ⟨placed, List.mem_filter.mpr ⟨member, ?_⟩, itsSerial⟩
        simpa [itsSerial] using fun same : call.serial = serial => answered same.symm
      · exact Or.inr ⟨error, List.mem_append_left _ arrived⟩
  · intro needs returned arrived
    rcases List.mem_append.mp arrived with arrived | arrived
    · exact waiting.unreturned needs returned arrived
    · have answered := List.mem_singleton.mp arrived
      simp only [BluezMessage.pairReply.injEq] at answered
      rcases waiting.own pair inPairs (same.trans answered.1.symm) with ⟨isCall, unconfirmed⟩
      rw [isCall, needs, unconfirmed] at allowed
      simp at allowed

/-- Within the time, an outstanding call goes on waiting, unless it needed no confirmation. -/
theorem waiting_step {action : Action} (outstanding : state.main = .pairing call)
    (waiting : state.Waiting call) (inTime : InTime action)
    (stepped : state.step action = some next) :
    (next.main = .pairing call ∧ next.Waiting call) ∨
      (next.main = .idle ∧ call.needsConfirmation = false) := by
  cases action with
  | timeout error => exact inTime.elim
  | mainEvent | pair | pairNotCreated | sendSimpleReply =>
      simp [step, outstanding] at stepped
  | workerPop =>
      simp only [step] at stepped
      split at stepped
      iterate 2
        · next dispatching _ => exact absurd dispatching waiting.exclusive
      · simp at stepped
  | workerLock =>
      simp only [step, outstanding] at stepped
      split at stepped
      · simp at stepped
      · next _ _ notPairing => exact absurd rfl (notPairing call)
      · simp at stepped
  | pairReturned =>
      simp only [step, outstanding] at stepped
      rcases Option.map_eq_some_iff.mp stepped with ⟨error, found, rfl⟩
      right
      refine ⟨rfl, ?_⟩
      rcases List.exists_of_findSome?_eq_some found with ⟨message, arrived, replied⟩
      rw [eq_pairReply_of_replyTo replied] at arrived
      by_contra needs
      exact waiting.unreturned (by simpa using needs) error arrived
  | command event =>
      cases stepped
      exact Or.inl ⟨outstanding, { waiting with }⟩
  | workerPoll =>
      simp only [step] at stepped
      split at stepped <;> cases stepped
      exact Or.inl ⟨outstanding, { waiting with exclusive := by simp }⟩
  | requestConfirmation serial passkey =>
      simp only [step] at stepped
      split at stepped
      · simp at stepped
      · split at stepped <;> cases stepped
        have asked := waiting.update serial OpenPair.request (fun _ => rfl) (fun _ _ => rfl)
        exact Or.inl ⟨outstanding, asked.receive _ (by simp)⟩
  | requestOther devicePath passkey =>
      cases stepped
      have received := waiting.receive
        (.requestConfirmation state.serials devicePath passkey) (by simp)
      exact Or.inl ⟨outstanding, { received with }⟩
  | signal message =>
      simp only [step] at stepped
      split at stepped <;> cases stepped <;>
        exact Or.inl ⟨outstanding, waiting.receive _ (by simp)⟩
  | readReply =>
      simp only [step] at stepped
      split at stepped
      · simp at stepped
      · next request type replies found =>
          cases stepped
          have differs : request ≠ call.serial :=
            waiting.unconfirmed (request, type) (by simp [found])
          have confirmed := waiting.update request OpenPair.confirm (fun _ => rfl)
            fun same => absurd same differs
          exact Or.inl ⟨outstanding, { confirmed with
            unconfirmed := fun reply member =>
              waiting.unconfirmed reply (by simp [found, member]) }⟩
  | answerPair serial error =>
      simp only [step] at stepped
      split at stepped
      · simp at stepped
      · next pair found =>
          split at stepped
          · next allowed =>
              cases stepped
              exact Or.inl ⟨outstanding, waiting.answer found allowed error⟩
          · simp at stepped

/-- While a call is outstanding, it waits; and every number in use has been given out. -/
structure Sound (state : PairingWait) : Prop where
  numbered : state.Numbered
  waiting : ∀ call, state.main = .pairing call → state.Waiting call

/-- A new call waits: nothing carries its number yet. -/
theorem Numbered.waiting (numbered : state.Numbered) (free : state.worker ≠ .dispatching)
    (address : String) (needsConfirmation : Bool)
    (outstanding : (state.pair address needsConfirmation).main = .pairing call) :
    (state.pair address needsConfirmation).Waiting call := by
  cases outstanding
  have absent : ∀ error, .pairReply state.serials error ∉ state.incoming := by
    intro error arrived
    exact Nat.lt_irrefl _ (numbered.incoming _ arrived state.serials rfl)
  refine ⟨free, ?_, ?_, Or.inl ?_, fun _ => absent⟩
  · intro pair member same
    rcases List.mem_append.mp member with member | member
    · exact absurd same (Nat.ne_of_lt (numbered.pairs pair member))
    · rw [List.mem_singleton.mp member]
      exact ⟨rfl, rfl⟩
  · exact fun reply member => Nat.ne_of_lt (numbered.replies reply member)
  · exact ⟨_, List.mem_append_right _ (List.mem_singleton_self _), rfl⟩

theorem main_dispatchMessage (state : PairingWait) (message : BluezMessage) :
    (state.dispatchMessage message).main = state.main := by
  cases message with
  | requestConfirmation request devicePath passkey =>
      simp only [dispatchMessage]
      split <;> rfl
  | release | pairReply | other => rfl

/-- Only `Pair` itself makes MainWorker wait for a reply. -/
theorem pairing_of_step {action : Action} (stepped : state.step action = some next)
    (outstanding : next.main = .pairing call) :
    state.main = .pairing call ∨ ∃ address needsConfirmation,
      state.worker ≠ .dispatching ∧ next = state.pair address needsConfirmation := by
  cases action with
  | pair needsConfirmation =>
      simp only [step] at stepped
      split at stepped
      · next address locking =>
          split at stepped
          · simp at stepped
          · next free =>
              cases stepped
              exact Or.inr ⟨address, needsConfirmation, free, rfl⟩
      · simp at stepped
  | mainEvent =>
      simp only [step] at stepped
      split at stepped
      · next event eventQueue _ _ =>
          cases stepped
          cases event <;> simp only [processEvent, confirmRequest, reduceCtorEq] at outstanding <;>
            split at outstanding <;> simp at outstanding
      · simp at stepped
  | pairNotCreated | sendSimpleReply =>
      simp only [step] at stepped
      split at stepped
      · split at stepped <;> cases stepped
        simp at outstanding
      · simp at stepped
  | pairReturned =>
      simp only [step] at stepped
      split at stepped
      · rcases Option.map_eq_some_iff.mp stepped with ⟨error, -, rfl⟩
        simp at outstanding
      · simp at stepped
  | timeout error =>
      simp only [step] at stepped
      split at stepped <;> cases stepped
      simp [timedOut] at outstanding
  | workerPop =>
      simp only [step] at stepped
      split at stepped <;> cases stepped
      · exact Or.inl outstanding
      · rw [main_dispatchMessage] at outstanding
        exact Or.inl outstanding
  | command | requestOther =>
      cases stepped
      exact Or.inl outstanding
  | workerPoll | workerLock | requestConfirmation | signal | readReply | answerPair =>
      simp only [step] at stepped
      repeat' split at stepped
      all_goals cases stepped
      all_goals exact Or.inl outstanding

theorem sound_init (adapterPath : String) : (system adapterPath).init.Sound where
  numbered := numbered_init adapterPath
  waiting := by simp [system]

theorem sound_step {action : Action} (sound : state.Sound)
    (stepped : state.step action = some next) : next.Sound := by
  refine ⟨numbered_step sound.numbered stepped, fun call outstanding => ?_⟩
  rcases pairing_of_step stepped outstanding with before | ⟨address, needs, free, rfl⟩
  · have inTime : InTime action := by
      cases action with
      | timeout error =>
          simp only [step, before, Option.some.injEq] at stepped
          subst stepped
          simp [timedOut] at outstanding
      | _ => trivial
    rcases waiting_step before (sound.waiting call before) inTime stepped with
      ⟨-, waiting⟩ | ⟨idle, -⟩
    · exact waiting
    · simp [idle] at outstanding
  · exact sound.numbered.waiting free address needs outstanding

/-- A circular wait: no step within the time ends it. -/
theorem not_answerable {adapterPath : String} (outstanding : state.main = .pairing call)
    (waiting : state.Waiting call) (needs : call.needsConfirmation = true) :
    ¬ Answerable adapterPath call state := by
  refine System.not_canReach_of_trap
    (fun state => state.main = .pairing call ∧ state.Waiting call) ?_ ?_ ⟨outstanding, waiting⟩
  · intro state action next inside inTime stepped
    apply (waiting_step inside.1 inside.2 inTime stepped).resolve_right
    intro ended
    simp [needs] at ended
  · exact fun state inside left => left inside.1

theorem pairReturned_of_arrived {error : Option String}
    (outstanding : state.main = .pairing call)
    (arrived : .pairReply call.serial error ∈ state.incoming) :
    ∃ next, state.step .pairReturned = some next ∧ next.main = .idle := by
  have found : (state.incoming.findSome? (replyTo call.serial)).isSome := by
    rw [List.findSome?_isSome_iff]
    exact ⟨_, arrived, by simp [replyTo]⟩
  rcases Option.isSome_iff_exists.mp found with ⟨error, found⟩
  simp [step, outstanding, pairReturned, found]

theorem answerPair_of_placed (waiting : state.Waiting call)
    (needsNone : call.needsConfirmation = false)
    (placed : ∃ pair ∈ state.pairs, pair.call.serial = call.serial) :
    ∃ next, state.step (.answerPair call.serial none) = some next ∧
      next.main = state.main ∧ .pairReply call.serial none ∈ next.incoming := by
  rcases placed with ⟨pair, inPairs, itsSerial⟩
  have isSome : (state.findPair call.serial).isSome := by
    rw [findPair, List.find?_isSome]
    exact ⟨pair, inPairs, by simpa using itsSerial⟩
  rcases Option.isSome_iff_exists.mp isSome with ⟨first, found⟩
  rcases serial_of_findPair found with ⟨firstInPairs, same⟩
  have allowed : first.call.needsConfirmation = false := by
    rw [(waiting.own first firstInPairs same).1, needsNone]
  simp [step, found, allowed]

theorem answerable_of_needsNone {adapterPath : String}
    (outstanding : state.main = .pairing call) (waiting : state.Waiting call)
    (needsNone : call.needsConfirmation = false) : Answerable adapterPath call state := by
  rcases waiting.placed with placed | ⟨error, arrived⟩
  · rcases answerPair_of_placed waiting needsNone placed with
      ⟨next, answered, sameMain, arrived⟩
    rcases pairReturned_of_arrived (sameMain.trans outstanding) arrived with
      ⟨final, returned, idle⟩
    refine ⟨[.answerPair call.serial none, .pairReturned], final, by simp [InTime], ?_, by
      simp [idle]⟩
    exact System.runFrom_cons_eq_some.mpr ⟨next, answered,
      System.runFrom_cons_eq_some.mpr ⟨final, returned, rfl⟩⟩
  · rcases pairReturned_of_arrived outstanding arrived with ⟨final, returned, idle⟩
    refine ⟨[.pairReturned], final, by simp [InTime], ?_, by simp [idle]⟩
    exact System.runFrom_cons_eq_some.mpr ⟨final, returned, rfl⟩

/-- An outstanding `Pair` call can be answered in time exactly when it needs no confirmation. -/
theorem answerable_iff_needsNone {adapterPath : String} {schedule : List Action}
    (ran : (system adapterPath).run schedule = some state)
    (outstanding : state.main = .pairing call) :
    Answerable adapterPath call state ↔ call.needsConfirmation = false := by
  have sound : state.Sound :=
    System.invariant_of_run Sound (sound_init adapterPath)
      (fun _ _ _ sound stepped => sound_step sound stepped) ran
  have waiting := sound.waiting call outstanding
  refine ⟨fun answerable => ?_, answerable_of_needsNone outstanding waiting⟩
  by_contra needs
  exact not_answerable outstanding waiting (by simpa using needs) answerable

/-- A client pairs a device, and MainWorker calls `Pair`. -/
def pairCalled (address : String) (needsConfirmation : Bool) : List Action :=
  [.command (.pairBTDevice address), .mainEvent, .pair needsConfirmation]

def headset (needsConfirmation : Bool) : PairCall where
  serial := 0
  address := "AA:BB"
  devicePath := "/hci0/dev_AA_BB"
  needsConfirmation

theorem answerable_headset :
    ∃ state, (system "/hci0").run (pairCalled "AA:BB" false) = some state ∧
      Answerable "/hci0" (headset false) state := by
  have observed : ((system "/hci0").run (pairCalled "AA:BB" false)).map (fun state =>
      state.main) = some (.pairing (headset false)) := by decide
  rcases Option.map_eq_some_iff.mp observed with ⟨state, ran, outstanding⟩
  exact ⟨state, ran, (answerable_iff_needsNone ran outstanding).mpr rfl⟩

/-- BlueZ has asked for a confirmation, and BluetoothWorker waits for the mutex to read this. -/
def confirmationAsked : List Action :=
  pairCalled "AA:BB" true ++ [.requestConfirmation 0 123456, .workerPoll]

/-- MainWorker waits for BlueZ, BlueZ for the agent, and the agent for MainWorker's mutex. -/
theorem not_answerable_confirmationAsked :
    ¬ ∀ (adapterPath : String) (schedule : List Action) (state : PairingWait) (call : PairCall),
      (system adapterPath).run schedule = some state → state.main = .pairing call →
        Answerable adapterPath call state := by
  intro answers
  have observed : ((system "/hci0").run confirmationAsked).map (fun state =>
      state.main) = some (.pairing (headset true)) := by decide
  rcases Option.map_eq_some_iff.mp observed with ⟨state, ran, outstanding⟩
  have sound : state.Sound :=
    System.invariant_of_run Sound (sound_init "/hci0")
      (fun _ _ _ sound stepped => sound_step sound stepped) ran
  exact not_answerable outstanding (sound.waiting _ outstanding) rfl
    (answers _ _ state _ ran outstanding)

end PairingWait

end RaspberryPiService
