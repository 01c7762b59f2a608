import RaspberryPiService.HardwareManager.BluetoothAgent
import RaspberryPiService.Transition.Runs

/-!
# The answers of the pairing agent

Every call of BlueZ to the agent is numbered, and the replies are recorded with the number
of the call that they answer. A `RequestConfirmation` call is either open, under the address
of its device, or answered. A second call for the same address and a `Release` drop open
calls without an answer; this file proves that nothing else does, in any sequence of calls
and decisions.
-/

namespace RaspberryPiService

structure AgentLedger where
  agent : BluetoothAgent Nat := {}
  received : Nat := 0
  -- the `RequestConfirmation` calls, with their arguments
  requests : List (Nat × Option (String × Nat)) := []
  replies : List (Nat × ReplyType) := []

namespace AgentLedger

inductive Action where
  | handleMessage (method : BluetoothAgent.Method)
  | confirmRequest (address : String) (confirmed : Bool)
deriving DecidableEq

/-- The `RequestConfirmation` that a call is, if it is one. -/
def request (number : Nat) : BluetoothAgent.Method → List (Nat × Option (String × Nat))
  | .requestConfirmation args => [(number, args)]
  | _ => []

def step (ledger : AgentLedger) : Action → Option AgentLedger
  | .handleMessage method =>
      let (agent, replies) := ledger.agent.handleMessage ledger.received method
      some {
        agent
        received := ledger.received + 1
        requests := ledger.requests ++ request ledger.received method
        replies := ledger.replies ++ replies }
  | .confirmRequest address confirmed =>
      let (agent, reply) := ledger.agent.confirmRequest address confirmed
      some { ledger with agent, replies := ledger.replies ++ reply.toList }

def protocol : System AgentLedger Action where
  init := {}
  step := step

/-- How many replies have been sent to a call. -/
def answers (ledger : AgentLedger) (number : Nat) : Nat :=
  ledger.replies.countP fun reply => reply.1 = number

/-- The call that is open under an address. -/
def openCall (ledger : AgentLedger) (address : String) : Option Nat :=
  ledger.agent.pendingConfirmations.lookup address

def Pending (ledger : AgentLedger) (address : String) (number : Nat) : Prop :=
  ledger.openCall address = some number

/-- The call is open under the address of its device, or has been answered once. -/
def Settled (ledger : AgentLedger) (request : Nat × Option (String × Nat)) : Prop :=
  (∃ devicePath passkey, request.2 = some (devicePath, passkey) ∧
    ledger.Pending (BluetoothAgent.deviceAddress devicePath) request.1 ∧
      ledger.answers request.1 = 0) ∨
  ledger.answers request.1 = 1 ∧ ∀ address, ¬ ledger.Pending address request.1

def Balanced (ledger : AgentLedger) : Prop :=
  ∀ request ∈ ledger.requests, ledger.Settled request

/-- The call has an address, and another call is open under it. -/
def Repeats (ledger : AgentLedger) (devicePath : String) : Prop :=
  BluetoothAgent.deviceAddress devicePath ≠ "" ∧
    ledger.openCall (BluetoothAgent.deviceAddress devicePath) ≠ none

/-- A call comes for an address without an open call, and `Release` while no call is open. -/
def Orderly (ledger : AgentLedger) : Action → Prop
  | .handleMessage (.requestConfirmation (some (devicePath, _))) => ¬ ledger.Repeats devicePath
  | .handleMessage .release => ledger.agent.pendingConfirmations.keys = []
  | .handleMessage (.requestConfirmation none) | .handleMessage (.requestAuthorization _)
  | .handleMessage .requestPinCode | .handleMessage .displayPasskey | .handleMessage .unknown
  | .confirmRequest _ _ => True

instance (ledger : AgentLedger) : (action : Action) → Decidable (ledger.Orderly action)
  | .handleMessage (.requestConfirmation (some _)) => inferInstanceAs (Decidable (¬ (_ ∧ _)))
  | .handleMessage .release => inferInstanceAs (Decidable (_ = _))
  | .handleMessage (.requestConfirmation none) | .handleMessage (.requestAuthorization _)
  | .handleMessage .requestPinCode | .handleMessage .displayPasskey | .handleMessage .unknown
  | .confirmRequest _ _ => isTrue trivial

/-- Open calls have been received and have not been answered. -/
structure Valid (ledger : AgentLedger) : Prop where
  balanced : ledger.Balanced
  pending : ∀ address number, ledger.Pending address number →
    ledger.answers number = 0 ∧ ∃ devicePath passkey,
      (number, some (devicePath, passkey)) ∈ ledger.requests ∧
        BluetoothAgent.deviceAddress devicePath = address
  requested : ∀ request ∈ ledger.requests, request.1 < ledger.received
  replied : ∀ reply ∈ ledger.replies, reply.1 < ledger.received
  unique : ∀ first ∈ ledger.requests, ∀ second ∈ ledger.requests,
    first.1 = second.1 → first = second

variable {ledger next : AgentLedger} {method : BluetoothAgent.Method}
  {agent : BluetoothAgent Nat}

theorem valid_init : protocol.init.Valid where
  balanced := by simp [Balanced, protocol]
  pending := by simp [Pending, openCall, protocol]
  requested := by simp [protocol]
  replied := by simp [protocol]
  unique := by simp [protocol]

/-- What becomes of a call: it is stored in place of another, answered at once, or clears all. -/
inductive Handled (ledger : AgentLedger) (method : BluetoothAgent.Method) :
    BluetoothAgent Nat → List (Nat × ReplyType) → Prop
  | stored (devicePath : String) (passkey : Nat) (agent : BluetoothAgent Nat)
      (call : method = .requestConfirmation (some (devicePath, passkey)))
      (addressed : BluetoothAgent.deviceAddress devicePath ≠ "")
      (inserted : agent.pendingConfirmations = ledger.agent.pendingConfirmations.insert
        (BluetoothAgent.deviceAddress devicePath) ledger.received) :
      Handled ledger method agent []
  | answered (reply : ReplyType) (notRelease : method ≠ .release) :
      Handled ledger method ledger.agent [(ledger.received, reply)]
  | released (call : method = .release) :
      Handled ledger method { ledger.agent with pendingConfirmations := ∅ }
        [(ledger.received, .error)]

theorem handled_handleMessage (ledger : AgentLedger) (method : BluetoothAgent.Method) :
    ledger.Handled method (ledger.agent.handleMessage ledger.received method).1
      (ledger.agent.handleMessage ledger.received method).2 := by
  cases method with
  | requestConfirmation args =>
      cases handled : ledger.agent.handleRequestConfirmation ledger.received args with
      | error reply =>
          simp only [BluetoothAgent.handleMessage, handled]
          exact .answered reply (by simp)
      | ok result =>
          rcases result with ⟨agent, noti⟩
          rcases BluetoothAgent.stored_handleRequestConfirmation handled with
            ⟨⟨devicePath, passkey, rfl, address⟩, -, inserted⟩
          simp only [BluetoothAgent.handleMessage, handled]
          refine .stored devicePath passkey agent rfl ?_ (address ▸ inserted)
          intro empty
          simp [BluetoothAgent.handleRequestConfirmation, empty] at handled
  | requestAuthorization devicePath =>
      cases devicePath with
      | none => exact .answered .error (by simp)
      | some devicePath => exact .answered .methodReturn (by simp)
  | requestPinCode | displayPasskey | unknown => exact .answered .error (by simp)
  | release => exact .released rfl

/-- A reply to one call answers no other. -/
theorem answers_append_of_ne {number other : Nat} (different : other ≠ number)
    (replies : List (Nat × ReplyType)) (reply : ReplyType) :
    (replies ++ [(other, reply)]).countP (fun reply => reply.1 = number) =
      replies.countP (fun reply => reply.1 = number) := by
  simp [different]

theorem Valid.answers_received (valid : ledger.Valid) : ledger.answers ledger.received = 0 := by
  rw [answers, List.countP_eq_zero]
  intro reply member
  have old := valid.replied reply member
  simp [Nat.ne_of_lt old]

theorem Valid.pending_lt (valid : ledger.Valid) {address : String} {number : Nat}
    (pending : ledger.Pending address number) : number < ledger.received := by
  rcases (valid.pending address number pending).2 with ⟨devicePath, passkey, member, -⟩
  exact valid.requested _ member

/-- A call is open under the address of its device only. -/
theorem Valid.address_eq (valid : ledger.Valid) {address other : String} {number : Nat}
    (pending : ledger.Pending address number) (otherPending : ledger.Pending other number) :
    address = other := by
  rcases (valid.pending address number pending).2 with ⟨devicePath, passkey, member, rfl⟩
  rcases (valid.pending other number otherPending).2 with
    ⟨otherPath, otherPasskey, otherMember, rfl⟩
  have same := valid.unique _ member _ otherMember rfl
  simp only [Prod.mk.injEq, Option.some.injEq, true_and] at same
  rw [same.1]

/-- A new request is different from the earlier ones. -/
theorem Valid.unique_append (valid : ledger.Valid) (method : BluetoothAgent.Method) :
    ∀ first ∈ ledger.requests ++ request ledger.received method,
      ∀ second ∈ ledger.requests ++ request ledger.received method,
        first.1 = second.1 → first = second := by
  have new : ∀ last ∈ request ledger.received method, last.1 = ledger.received := by
    intro last member
    cases method <;> simp_all [request]
  have single : ∀ first ∈ request ledger.received method,
      ∀ second ∈ request ledger.received method, first = second := by
    intro first member second otherMember
    cases method <;> simp_all [request]
  intro first member second otherMember same
  rcases List.mem_append.mp member with old | last <;>
    rcases List.mem_append.mp otherMember with otherOld | otherLast
  · exact valid.unique first old second otherOld same
  · have bound := valid.requested first old
    have number := new second otherLast
    omega
  · have bound := valid.requested second otherOld
    have number := new first last
    omega
  · exact single first last second otherLast

theorem requested_append (requested : ∀ request ∈ ledger.requests, request.1 < ledger.received)
    (method : BluetoothAgent.Method) :
    ∀ last ∈ ledger.requests ++ request ledger.received method, last.1 < ledger.received + 1 := by
  intro last member
  rcases List.mem_append.mp member with old | new
  · exact Nat.lt_succ_of_lt (requested last old)
  · cases method <;> simp_all [request]

/-- A call that is stored where none is open. -/
theorem Valid.stored (valid : ledger.Valid) {devicePath : String} {passkey : Nat}
    (free : ledger.agent.pendingConfirmations.lookup
      (BluetoothAgent.deviceAddress devicePath) = none)
    (inserted : agent.pendingConfirmations = ledger.agent.pendingConfirmations.insert
      (BluetoothAgent.deviceAddress devicePath) ledger.received) :
    Valid {
      agent
      received := ledger.received + 1
      requests := ledger.requests ++ [(ledger.received, some (devicePath, passkey))]
      replies := ledger.replies } := by
  have own : agent.pendingConfirmations.lookup (BluetoothAgent.deviceAddress devicePath) =
      some ledger.received := by
    rw [inserted, AList.lookup_insert]
  have others : ∀ address, address ≠ BluetoothAgent.deviceAddress devicePath →
      agent.pendingConfirmations.lookup address =
        ledger.agent.pendingConfirmations.lookup address := by
    intro address different
    rw [inserted, AList.lookup_insert_ne different]
  have pendingCases : ∀ address number,
      agent.pendingConfirmations.lookup address = some number →
        (address = BluetoothAgent.deviceAddress devicePath ∧ number = ledger.received) ∨
          ledger.Pending address number := by
    intro address number pending
    by_cases same : address = BluetoothAgent.deviceAddress devicePath
    · subst same
      exact Or.inl ⟨rfl, Option.some.inj (pending.symm.trans own)⟩
    · exact Or.inr ((others address same).symm.trans pending)
  refine ⟨?_, ?_, ?_, ?_, ?_⟩
  · intro request member
    rcases List.mem_append.mp member with old | new
    · rcases valid.balanced request old with ⟨path, key, args, pending, unanswered⟩ |
        ⟨once, notPending⟩
      · refine Or.inl ⟨path, key, args, ?_, unanswered⟩
        refine (others _ ?_).trans pending
        intro same
        rw [Pending, openCall, same, free] at pending
        cases pending
      · refine Or.inr ⟨once, fun address pending => ?_⟩
        have bound := valid.requested request old
        rcases pendingCases address request.1 pending with ⟨-, isNew⟩ | earlier
        · omega
        · exact notPending address earlier
    · rw [List.mem_singleton.mp new]
      exact Or.inl ⟨devicePath, passkey, rfl, own, valid.answers_received⟩
  · intro address number pending
    rcases pendingCases address number pending with ⟨rfl, rfl⟩ | earlier
    · exact ⟨valid.answers_received, devicePath, passkey, by simp, rfl⟩
    · rcases valid.pending address number earlier with ⟨unanswered, path, key, member, found⟩
      exact ⟨unanswered, path, key, List.mem_append_left _ member, found⟩
  · exact requested_append valid.requested (.requestConfirmation (some (devicePath, passkey)))
  · intro reply member
    exact Nat.lt_succ_of_lt (valid.replied reply member)
  · exact valid.unique_append (.requestConfirmation (some (devicePath, passkey)))

/-- A call that is answered at once. -/
theorem Valid.answered (valid : ledger.Valid) (method : BluetoothAgent.Method)
    (reply : ReplyType) :
    Valid {
      agent := ledger.agent
      received := ledger.received + 1
      requests := ledger.requests ++ request ledger.received method
      replies := ledger.replies ++ [(ledger.received, reply)] } := by
  have same : ∀ number, number < ledger.received →
      (ledger.replies ++ [(ledger.received, reply)]).countP (fun reply => reply.1 = number) =
        ledger.answers number := by
    intro number old
    apply answers_append_of_ne
    omega
  refine ⟨?_, ?_, requested_append valid.requested method, ?_, valid.unique_append method⟩
  · intro request member
    rcases List.mem_append.mp member with old | new
    · have bound := valid.requested request old
      rcases valid.balanced request old with ⟨path, key, args, pending, unanswered⟩ |
        ⟨once, notPending⟩
      · exact Or.inl ⟨path, key, args, pending, (same _ bound).trans unanswered⟩
      · exact Or.inr ⟨(same _ bound).trans once, notPending⟩
    · have number : request.1 = ledger.received := by
        cases method <;> simp_all [AgentLedger.request]
      refine Or.inr ⟨?_, fun address pending => ?_⟩
      · have before := valid.answers_received
        simp only [answers] at before ⊢
        simp [number, before]
      · have bound := valid.pending_lt pending
        omega
  · intro address number pending
    rcases valid.pending address number pending with ⟨unanswered, path, key, member, found⟩
    exact ⟨(same number (valid.pending_lt pending)).trans unanswered, path, key,
      List.mem_append_left _ member, found⟩
  · intro other member
    rcases List.mem_append.mp member with old | new
    · exact Nat.lt_succ_of_lt (valid.replied other old)
    · rw [List.mem_singleton.mp new]
      exact Nat.lt_succ_self _

/-- The open call of an address is taken out and answered. -/
theorem Valid.confirmed (valid : ledger.Valid) {address : String} {number : Nat}
    (pending : ledger.Pending address number) (reply : ReplyType) :
    Valid { ledger with
      agent := { ledger.agent with
        pendingConfirmations := ledger.agent.pendingConfirmations.erase address }
      replies := ledger.replies ++ [(number, reply)] } := by
  have others : ∀ other, other ≠ address →
      (ledger.agent.pendingConfirmations.erase address).lookup other =
        ledger.agent.pendingConfirmations.lookup other :=
    fun other different => AList.lookup_erase_ne different
  have stillPending : ∀ other kept,
      (ledger.agent.pendingConfirmations.erase address).lookup other = some kept →
        ledger.Pending other kept ∧ kept ≠ number := by
    intro other kept lookup
    by_cases same : other = address
    · subst same
      simp at lookup
    · rw [others other same] at lookup
      refine ⟨lookup, ?_⟩
      rintro rfl
      exact same (valid.address_eq lookup pending)
  refine ⟨?_, ?_, valid.requested, ?_, valid.unique⟩
  · intro request member
    by_cases this : request.1 = number
    · refine Or.inr ⟨?_, fun other lookup => (stillPending other _ lookup).2 this⟩
      have before := (valid.pending address number pending).1
      simp only [answers] at before ⊢
      simp [this, before]
    · have same := answers_append_of_ne (Ne.symm this) ledger.replies reply
      rcases valid.balanced request member with ⟨path, key, args, open', unanswered⟩ |
        ⟨once, notPending⟩
      · refine Or.inl ⟨path, key, args, (others _ ?_).trans open', same.trans unanswered⟩
        rintro rfl
        exact this (Option.some.inj (open'.symm.trans pending))
      · exact Or.inr ⟨same.trans once,
          fun other lookup => notPending other (stillPending other _ lookup).1⟩
  · intro other kept lookup
    rcases stillPending other kept lookup with ⟨earlier, different⟩
    rcases valid.pending other kept earlier with ⟨unanswered, found⟩
    exact ⟨(answers_append_of_ne different.symm ledger.replies reply).trans unanswered, found⟩
  · intro other member
    rcases List.mem_append.mp member with old | new
    · exact valid.replied other old
    · rw [List.mem_singleton.mp new]
      exact valid.pending_lt pending

theorem eq_empty_of_keys {pending : AList fun _ : String => Nat} (none : pending.keys = []) :
    pending = ∅ := by
  apply AList.ext
  exact List.map_eq_nil_iff.mp none

theorem valid_step {action : Action} (valid : ledger.Valid) (orderly : ledger.Orderly action)
    (stepped : ledger.step action = some next) : next.Valid := by
  cases action with
  | handleMessage method =>
      have handled := ledger.handled_handleMessage method
      simp only [step, Option.some.injEq] at stepped
      subst stepped
      generalize (ledger.agent.handleMessage ledger.received method).1 = agent at handled ⊢
      generalize (ledger.agent.handleMessage ledger.received method).2 = replies at handled ⊢
      cases handled with
      | stored devicePath passkey agent call addressed inserted =>
          subst call
          have free : ledger.agent.pendingConfirmations.lookup
              (BluetoothAgent.deviceAddress devicePath) = none := by
            by_contra repeated
            exact orderly ⟨addressed, repeated⟩
          simpa [request] using valid.stored free inserted
      | answered reply notRelease => exact valid.answered method reply
      | released call =>
          subst call
          have unchanged : ledger.agent = { pendingConfirmations := ∅ } := by
            rw [← eq_empty_of_keys orderly]
          have answered := valid.answered .release .error
          rw [unchanged] at answered
          exact answered
  | confirmRequest address confirmed =>
      simp only [step, Option.some.injEq] at stepped
      subst stepped
      cases pending : ledger.agent.pendingConfirmations.lookup address with
      | none =>
          simp only [BluetoothAgent.confirmRequest, pending, Option.toList_none, List.append_nil]
          exact valid
      | some number =>
          simp only [BluetoothAgent.confirmRequest, pending, Option.toList_some]
          exact valid.confirmed pending _

/-- A call that is open and is not any more, without a reply, is settled no longer. -/
theorem not_balanced_of_dropped (valid : ledger.Valid) {address : String} {number : Nat}
    (pending : ledger.Pending address number)
    (requests : ledger.requests ⊆ next.requests) (unanswered : next.answers number = 0)
    (dropped : ¬ next.Pending address number) : ¬ next.Balanced := by
  intro balanced
  rcases (valid.pending address number pending).2 with ⟨devicePath, passkey, member, rfl⟩
  rcases balanced _ (requests member) with ⟨path, key, args, stillPending, -⟩ | ⟨once, -⟩
  · simp only [Option.some.injEq, Prod.mk.injEq] at args
    rw [← args.1] at stillPending
    exact dropped stillPending
  · simp only at once
    omega

theorem not_balanced_of_not_orderly {action : Action} (valid : ledger.Valid)
    (disorderly : ¬ ledger.Orderly action) (stepped : ledger.step action = some next) :
    ¬ next.Balanced := by
  cases action with
  | confirmRequest address confirmed => exact absurd trivial disorderly
  | handleMessage method =>
      cases method with
      | requestAuthorization | requestPinCode | displayPasskey | unknown =>
          exact absurd trivial disorderly
      | release =>
          rcases List.exists_mem_of_ne_nil _ disorderly with ⟨address, member⟩
          rcases Option.isSome_iff_exists.mp (AList.lookup_isSome.mpr member) with
            ⟨number, pending⟩
          have unanswered := (valid.pending address number pending).1
          simp only [step, Option.some.injEq] at stepped
          subst stepped
          refine not_balanced_of_dropped valid pending (List.subset_append_left _ _) ?_ ?_
          · exact (answers_append_of_ne (Nat.ne_of_gt (valid.pending_lt pending)) _ _).trans
              unanswered
          · simp [Pending, openCall, BluetoothAgent.handleMessage, BluetoothAgent.handleRelease]
      | requestConfirmation args =>
          cases args with
          | none => exact absurd trivial disorderly
          | some args =>
              rcases args with ⟨devicePath, passkey⟩
              simp only [Orderly, not_not] at disorderly
              rcases disorderly with ⟨addressed, repeated⟩
              rcases Option.ne_none_iff_exists'.mp repeated with ⟨number, pending⟩
              have unanswered := (valid.pending _ number pending).1
              simp only [step, BluetoothAgent.handleMessage,
                BluetoothAgent.handleRequestConfirmation, addressed, if_false, List.append_nil,
                Option.some.injEq] at stepped
              subst stepped
              refine not_balanced_of_dropped valid pending (List.subset_append_left _ _)
                unanswered ?_
              have bound := valid.pending_lt pending
              simp only [Pending, openCall, AList.lookup_insert, Option.some.injEq]
              omega

/--
At all times every `RequestConfirmation` call is open under the address of its device or has
been answered once, exactly when no call comes for an address whose last call is still open
and no `Release` while a call is open.
-/
theorem orderly_iff_balanced {schedule : List Action}
    (ran : protocol.run schedule = some ledger) :
    protocol.Along Orderly schedule ↔ protocol.Visits Balanced schedule :=
  System.along_iff_visits Valid valid_init
    (fun _ _ _ valid orderly stepped => valid_step valid orderly stepped)
    (fun _ valid => valid.balanced)
    (fun _ _ _ valid disorderly stepped => not_balanced_of_not_orderly valid disorderly stepped)
    ran

def headset : String := "/org/bluez/hci0/dev_00_11_22_33_44_55"

def phone : String := "/org/bluez/hci0/dev_AA_BB_CC_DD_EE_FF"

/-- Two devices are paired at a time, and one of them again after its call has been answered. -/
def pairsAgain : List Action :=
  [.handleMessage (.requestConfirmation (some (headset, 123456))),
    .handleMessage (.requestAuthorization (some headset)),
    .handleMessage (.requestConfirmation (some (phone, 654321))),
    .confirmRequest "00:11:22:33:44:55" true, .confirmRequest "AA:BB:CC:DD:EE:FF" false,
    .handleMessage (.requestConfirmation (some (headset, 111111))),
    .handleMessage (.requestConfirmation none), .confirmRequest "00:11:22:33:44:55" true,
    .handleMessage .release]

theorem balanced_pairsAgain : protocol.Visits Balanced pairsAgain := by
  have ran : (protocol.run pairsAgain).isSome = true := by decide
  rcases Option.isSome_iff_exists.mp ran with ⟨ledger, ended⟩
  exact (orderly_iff_balanced ended).mp (by decide)

/-- BlueZ repeats its call before a decision has come. -/
def asksTwice : List Action :=
  [.handleMessage (.requestConfirmation (some (headset, 123456))),
    .handleMessage (.requestConfirmation (some (headset, 123456)))]

/-- The first call is neither open any more nor answered. -/
theorem not_balanced_asksTwice :
    ¬ ∀ (schedule : List Action) (ledger : AgentLedger),
      protocol.run schedule = some ledger → ledger.Balanced := by
  intro balanced
  have asked : (protocol.run asksTwice).map requests =
      some [(0, some (headset, 123456)), (1, some (headset, 123456))] := by decide
  have answered : (protocol.run asksTwice).map replies = some [] := by decide
  have opened : (protocol.run asksTwice).map (openCall · "00:11:22:33:44:55") = some (some 1) := by
    decide
  rcases Option.map_eq_some_iff.mp asked with ⟨ledger, ran, requests⟩
  have replies : ledger.replies = [] := by simpa [ran] using answered
  have pending : ledger.openCall "00:11:22:33:44:55" = some 1 := by simpa [ran] using opened
  have address : BluetoothAgent.deviceAddress headset = "00:11:22:33:44:55" := by decide
  have settled := balanced asksTwice ledger ran (0, some (headset, 123456)) (by simp [requests])
  rcases settled with ⟨devicePath, passkey, args, isPending, -⟩ | ⟨once, -⟩
  · simp only [Option.some.injEq, Prod.mk.injEq] at args
    rw [← args.1, address, Pending, pending] at isPending
    cases isPending
  · simp [answers, replies] at once

end AgentLedger

end RaspberryPiService
