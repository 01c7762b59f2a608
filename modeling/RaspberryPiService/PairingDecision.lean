import RaspberryPiService.CoreManager.ConfirmationInFlight
import RaspberryPiService.HardwareManager.BluetoothAgent

/-!
# Which request a pairing rejection was meant for

The core manager's confirmation handling and the hardware manager's agent, joined by
two channels that deliver in order. Both ends name a request by its device address
only. To say which request a rejection was meant for, every message carries its cause
along: a timer and its timeout event carry the request whose notification armed the
timer, and a client's command carries the requests announced when it was issued.

A rejection is justified when it was caused by the timer of the rejected request, or
by a client who had seen the request announced. Everything on its way through the
composition that may end as a rejection is listed by `inFlight`. No step creates such
an item except a new request, which adds its own notification, and a client's
rejection. So whatever is in flight for an address is meant for the request pending
under it, provided that a request is stored only when nothing of an earlier one is
left, and that clients reject only what they have seen announced.
-/

namespace RaspberryPiService

/-- What a decision goes back to. -/
inductive Cause where
  | request (id : Nat)
  | client (announced : List Nat)
deriving DecidableEq

/-- A cause that may reject the request: its own timer, or a client who saw it announced. -/
def Cause.Justifies : Cause → Nat → Prop
  | .request id, pending => id = pending
  | .client announced, pending => pending ∈ announced

instance (cause : Cause) (pending : Nat) : Decidable (cause.Justifies pending) := by
  cases cause <;> simp only [Cause.Justifies] <;> infer_instance

/-- An answer to the `RequestConfirmation` call with this number, and the decision behind it. -/
structure AgentReply where
  request : Nat
  type : ReplyType
  decision : Option (DecisionMessage Cause)
deriving DecidableEq

/--
Both managers and what is between them. `core.sent` is the channel to the hardware
manager; `announcing` is a notification that BluetoothWorker has yet to send.
-/
structure PairingDecision where
  core : HardwareHandler Cause := {}
  toCore : List (ConfirmationNoti Nat) := []
  eventQueue : List (DecisionMessage Cause) := []
  agent : BluetoothAgent Nat := {}
  announcing : Option (ConfirmationNoti Nat) := none
  received : Nat := 0
  replies : List AgentReply := []

namespace PairingDecision

/-- The requests that the core has broadcast so far. -/
def announced (pairing : PairingDecision) : List Nat :=
  pairing.core.broadcasts.filterMap fun broadcast =>
    match broadcast.origin with
    | .request id => some id
    | .client _ => none

inductive Action where
  | requestConfirmation (args : Option (String × Nat))
  | sendNoti
  | release
  | receiveNoti
  | clientAccept (address : String)
  | clientReject (address : String)
  | core (action : HardwareHandler.Action Cause)
  | receiveDecision
  | confirmRequest
deriving DecidableEq

/-- BluetoothWorker hands a `RequestConfirmation` call to the agent. -/
def requestConfirmation (pairing : PairingDecision) (args : Option (String × Nat)) :
    Option PairingDecision :=
  match pairing.announcing with
  | some _ => none
  | none =>
      let request := pairing.received
      let pairing := { pairing with received := pairing.received + 1 }
      match pairing.agent.handleRequestConfirmation request args with
      | .error type =>
          some { pairing with
            replies := pairing.replies ++ [{ request, type, decision := none }] }
      | .ok (agent, noti) => some { pairing with agent, announcing := some noti }

/-- The core's DBusReceiver turns a notification into an event, unless it reports a failure. -/
def receiveNoti (pairing : PairingDecision) : Option PairingDecision :=
  match pairing.toCore with
  | [] => none
  | noti :: toCore =>
      if noti.isSuccess then
        (pairing.core.step (.pushEvent (.btDeviceRequestConfirmationNoti noti.address noti.passkey
          (.request noti.request)))).map fun core => { pairing with core, toCore }
      else some { pairing with toCore }

/-- The hardware manager's MainWorker passes a decision to the agent. -/
def confirmRequest (pairing : PairingDecision) : Option PairingDecision :=
  match pairing.eventQueue with
  | [] => none
  | decision :: eventQueue =>
      let (agent, answer) := pairing.agent.confirmRequest decision.address
        (decision.command == .acceptRequestConfirmation)
      let replies := pairing.replies ++ (answer.map fun (request, type) =>
        ({ request, type, decision := some decision } : AgentReply)).toList
      some { pairing with eventQueue, agent, replies }

def clientEvent (pairing : PairingDecision) (event : Cause → ConfirmationEvent Cause) :
    Option PairingDecision :=
  (pairing.core.step (.pushEvent (event (.client pairing.announced)))).map fun core =>
    { pairing with core }

def step (pairing : PairingDecision) : Action → Option PairingDecision
  | .requestConfirmation args => pairing.requestConfirmation args
  | .sendNoti =>
      pairing.announcing.map fun noti =>
        { pairing with announcing := none, toCore := pairing.toCore ++ [noti] }
  | .release =>
      match pairing.announcing with
      | some _ => none
      | none => some { pairing with agent := pairing.agent.handleRelease.1 }
  | .receiveNoti => pairing.receiveNoti
  | .clientAccept address => pairing.clientEvent (.acceptRequestConfirmation address)
  | .clientReject address => pairing.clientEvent (.rejectRequestConfirmation address)
  | .core (.pushEvent _) => none
  | .core action => (pairing.core.step action).map fun core => { pairing with core }
  | .receiveDecision =>
      match pairing.core.sent with
      | [] => none
      | decision :: sent =>
          some { pairing with
            core := { pairing.core with sent }
            eventQueue := pairing.eventQueue ++ [decision] }
  | .confirmRequest => pairing.confirmRequest

def system : System PairingDecision Action where
  init := {}
  step := step

/-- A rejection of a stored request goes back to this request. -/
def RejectionsJustified (pairing : PairingDecision) : Prop :=
  ∀ reply ∈ pairing.replies, reply.type = .error →
    ∀ decision, reply.decision = some decision → decision.origin.Justifies reply.request

def notiItem (noti : ConfirmationNoti Nat) : String × Cause :=
  (noti.address, .request noti.request)

/-- Everything that may still end as a rejection, with the address to be rejected. -/
def inFlight (pairing : PairingDecision) : List (String × Cause) :=
  (pairing.announcing.toList ++ pairing.toCore).map notiItem ++ pairing.core.inFlight ++
    pairing.eventQueue.filterMap HardwareHandler.rejectingMessage

/--
A request is stored only when nothing in flight can reject its address, and a client
rejects only a request that has been announced.
-/
def Separate (pairing : PairingDecision) : Action → Prop
  | .requestConfirmation (some (devicePath, _)) =>
      ∀ item ∈ pairing.inFlight, item.1 ≠ BluetoothAgent.deviceAddress devicePath
  | .clientReject address =>
      ∀ request ∈ pairing.agent.pendingConfirmations.lookup address,
        request ∈ pairing.announced
  | _ => True

instance (pairing : PairingDecision) (action : Action) : Decidable (pairing.Separate action) := by
  unfold Separate
  split <;> infer_instance

variable {pairing next : PairingDecision}

theorem mem_inFlight {item : String × Cause} :
    item ∈ pairing.inFlight ↔
      (∃ noti, (pairing.announcing = some noti ∨ noti ∈ pairing.toCore) ∧ notiItem noti = item) ∨
        item ∈ pairing.core.inFlight ∨
        ∃ decision ∈ pairing.eventQueue, HardwareHandler.rejectingMessage decision = some item := by
  simp only [inFlight, List.mem_append, List.mem_map, Option.mem_toList, List.mem_filterMap,
    or_assoc]

/--
Whatever is in flight for an address may reject the request pending under it, and the
rejections so far were justified.
-/
structure MeantForPending (pairing : PairingDecision) : Prop where
  meant : ∀ address request,
    pairing.agent.pendingConfirmations.lookup address = some request →
      ∀ item ∈ pairing.inFlight, item.1 = address → item.2.Justifies request
  justified : pairing.RejectionsJustified

/-- Moving and dropping items, and closing calls without an answer, keep the invariant. -/
theorem MeantForPending.of_subset (meant : pairing.MeantForPending)
    (items : ∀ item ∈ next.inFlight, item ∈ pairing.inFlight)
    (calls : ∀ address request, next.agent.pendingConfirmations.lookup address = some request →
      pairing.agent.pendingConfirmations.lookup address = some request)
    (replies : next.replies = pairing.replies) : next.MeantForPending where
  meant address request pending item member same :=
    meant.meant address request (calls address request pending) item (items item member) same
  justified := by
    simp only [RejectionsJustified, replies]
    exact meant.justified

theorem meant_requestConfirmation (meant : pairing.MeantForPending)
    {args : Option (String × Nat)} (good : pairing.Separate (.requestConfirmation args))
    (stepped : pairing.requestConfirmation args = some next) : next.MeantForPending := by
  unfold requestConfirmation at stepped
  split at stepped
  · simp at stepped
  · next silent =>
      simp only at stepped
      split at stepped
      · simp only [Option.some.injEq] at stepped
        subst stepped
        refine ⟨meant.meant, ?_⟩
        intro reply member isError decision decided
        rcases List.mem_append.mp member with earlier | added
        · exact meant.justified reply earlier isError decision decided
        · rw [List.mem_singleton] at added
          subst added
          simp at decided
      · next agent noti handled =>
          simp only [Option.some.injEq] at stepped
          subst stepped
          rcases BluetoothAgent.stored_handleRequestConfirmation handled with
            ⟨⟨devicePath, passkey, rfl, address⟩, isRequest, stored⟩
          refine ⟨?_, meant.justified⟩
          intro other request pending item member same
          have cases : item = notiItem noti ∨ item ∈ pairing.inFlight := by
            rw [mem_inFlight] at member ⊢
            rcases member with ⟨sent, sending | queued, rfl⟩ | rest
            · simp only [Option.some.injEq] at sending
              exact Or.inl (by rw [sending])
            · exact Or.inr (Or.inl ⟨sent, Or.inr queued, rfl⟩)
            · exact Or.inr (Or.inr rest)
          simp only [stored] at pending
          by_cases own : other = noti.address
          · subst own
            rw [AList.lookup_insert, Option.some.injEq] at pending
            rcases cases with rfl | earlier
            · exact isRequest.trans pending
            · exact absurd (same.trans address) (good item earlier)
          · rw [AList.lookup_insert_ne own] at pending
            rcases cases with rfl | earlier
            · exact absurd same.symm own
            · exact meant.meant other request pending item earlier same

theorem meant_receiveNoti (meant : pairing.MeantForPending)
    (stepped : pairing.receiveNoti = some next) : next.MeantForPending := by
  simp only [receiveNoti] at stepped
  split at stepped
  · simp at stepped
  · next noti toCore queue =>
      split at stepped
      · rw [Option.map_eq_some_iff] at stepped
        rcases stepped with ⟨core, pushed, rfl⟩
        refine meant.of_subset ?_ (fun _ _ pending => pending) rfl
        intro item member
        rw [mem_inFlight] at member ⊢
        rcases member with ⟨sent, sending | queued, rfl⟩ | inCore | decided
        · exact Or.inl ⟨sent, Or.inl sending, rfl⟩
        · exact Or.inl ⟨sent, Or.inr (by simp [queue, queued]), rfl⟩
        · rcases HardwareHandler.inFlightWithin_step pushed item inCore with earlier | added
          · exact Or.inr (Or.inl earlier)
          · simp only [HardwareHandler.rejectingItem, Option.toList_some,
              List.mem_singleton] at added
            exact Or.inl ⟨noti, Or.inr (by simp [queue]), added.symm⟩
        · exact Or.inr (Or.inr decided)
      · simp only [Option.some.injEq] at stepped
        subst stepped
        refine meant.of_subset ?_ (fun _ _ pending => pending) rfl
        intro item member
        rw [mem_inFlight] at member ⊢
        apply member.imp_left
        rintro ⟨sent, sending | queued, rfl⟩
        · exact ⟨sent, Or.inl sending, rfl⟩
        · exact ⟨sent, Or.inr (by simp [queue, queued]), rfl⟩

/-- A client's event adds at most its own item, which carries what was announced. -/
theorem meant_clientEvent (meant : pairing.MeantForPending)
    {event : Cause → ConfirmationEvent Cause}
    (seen : ∀ item, HardwareHandler.rejectingItem (event (.client pairing.announced)) = some item →
      ∀ request, pairing.agent.pendingConfirmations.lookup item.1 = some request →
        item.2.Justifies request)
    (stepped : pairing.clientEvent event = some next) : next.MeantForPending := by
  simp only [clientEvent] at stepped
  rw [Option.map_eq_some_iff] at stepped
  rcases stepped with ⟨core, pushed, rfl⟩
  refine ⟨?_, meant.justified⟩
  intro address request pending item member same
  have cases : item ∈ pairing.inFlight ∨
      HardwareHandler.rejectingItem (event (.client pairing.announced)) = some item := by
    rw [mem_inFlight] at member ⊢
    rcases member with sending | inCore | decided
    · exact Or.inl (Or.inl sending)
    · rcases HardwareHandler.inFlightWithin_step pushed item inCore with earlier | added
      · exact Or.inl (Or.inr (Or.inl earlier))
      · exact Or.inr (by simpa using added)
    · exact Or.inl (Or.inr (Or.inr decided))
  subst same
  rcases cases with earlier | added
  · exact meant.meant item.1 request pending item earlier rfl
  · exact seen item added request pending

theorem meant_core (meant : pairing.MeantForPending) {action : HardwareHandler.Action Cause}
    (internal : ∀ event, action ≠ .pushEvent event) {core : HardwareHandler Cause}
    (stepped : pairing.core.step action = some core) :
    MeantForPending { pairing with core } := by
  refine meant.of_subset ?_ (fun _ _ pending => pending) rfl
  intro item member
  rw [mem_inFlight] at member ⊢
  refine member.imp_right (Or.imp_left fun inCore => ?_)
  rcases HardwareHandler.inFlightWithin_step stepped item inCore with earlier | added
  · exact earlier
  · cases action with
    | pushEvent event => exact absurd rfl (internal event)
    | _ => simp at added

theorem meant_receiveDecision (meant : pairing.MeantForPending)
    {decision : DecisionMessage Cause} {sent : List (DecisionMessage Cause)}
    (queue : pairing.core.sent = decision :: sent) :
    MeantForPending { pairing with
      core := { pairing.core with sent }
      eventQueue := pairing.eventQueue ++ [decision] } := by
  refine meant.of_subset ?_ (fun _ _ pending => pending) rfl
  intro item member
  rw [mem_inFlight] at member ⊢
  rcases member with sending | inCore | ⟨message, queued, rejects⟩
  · exact Or.inl sending
  · rw [HardwareHandler.mem_inFlight] at inCore
    refine Or.inr (Or.inl (HardwareHandler.mem_inFlight.mpr ?_))
    refine inCore.imp_right (Or.imp_right ?_)
    rintro ⟨message, later, rejects⟩
    exact ⟨message, by simpa [queue] using Or.inr later, rejects⟩
  · rcases List.mem_append.mp queued with earlier | moved
    · exact Or.inr (Or.inr ⟨message, earlier, rejects⟩)
    · rw [List.mem_singleton] at moved
      subst moved
      exact Or.inr (Or.inl (HardwareHandler.mem_inFlight_of_message (by simp [queue]) rejects))

theorem meant_confirmRequest (meant : pairing.MeantForPending)
    (stepped : pairing.confirmRequest = some next) : next.MeantForPending := by
  simp only [confirmRequest] at stepped
  split at stepped
  · simp at stepped
  · next decision eventQueue queue =>
      simp only [Option.some.injEq] at stepped
      subst stepped
      refine ⟨?_, ?_⟩
      · intro address request pending item member same
        refine meant.meant address request (BluetoothAgent.lookup_of_confirmRequest pending) item
          ?_ same
        rw [mem_inFlight] at member ⊢
        refine member.imp_right (Or.imp_right ?_)
        rintro ⟨message, queued, rejects⟩
        exact ⟨message, by simp [queue, queued], rejects⟩
      · intro reply member isError decided carried
        rcases List.mem_append.mp member with earlier | added
        · exact meant.justified reply earlier isError decided carried
        · rw [Option.mem_toList, Option.map_eq_some_iff] at added
          rcases added with ⟨answer, answered, rfl⟩
          rcases BluetoothAgent.answered_confirmRequest answered with ⟨pending, type⟩
          obtain rfl := Option.some.inj carried
          have isReject : HardwareHandler.rejectingMessage decision =
              some (decision.address, decision.origin) := by
            cases command : decision.command with
            | acceptRequestConfirmation => simp [type, command] at isError
            | rejectRequestConfirmation => simp [HardwareHandler.rejectingMessage, command]
          have queued : (decision.address, decision.origin) ∈ pairing.inFlight :=
            mem_inFlight.mpr (Or.inr (Or.inr ⟨decision, by simp [queue], isReject⟩))
          exact meant.meant decision.address answer.1 pending _ queued rfl

theorem meant_step (meant : pairing.MeantForPending) {action : Action}
    (good : pairing.Separate action) (stepped : pairing.step action = some next) :
    next.MeantForPending := by
  cases action with
  | requestConfirmation args => exact meant_requestConfirmation meant good stepped
  | sendNoti =>
      simp only [step, Option.map_eq_some_iff] at stepped
      rcases stepped with ⟨noti, sending, rfl⟩
      refine meant.of_subset ?_ (fun _ _ pending => pending) rfl
      intro item member
      rw [mem_inFlight] at member ⊢
      apply member.imp_left
      rintro ⟨sent, sends | queued, rfl⟩
      · simp at sends
      · rcases List.mem_append.mp queued with earlier | moved
        · exact ⟨sent, Or.inr earlier, rfl⟩
        · rw [List.mem_singleton] at moved
          subst moved
          exact ⟨sent, Or.inl sending, rfl⟩
  | release =>
      simp only [step] at stepped
      split at stepped
      · simp at stepped
      · simp only [Option.some.injEq] at stepped
        subst stepped
        refine meant.of_subset (fun _ member => member) ?_ rfl
        simp [BluetoothAgent.handleRelease]
  | receiveNoti => exact meant_receiveNoti meant stepped
  | clientAccept address =>
      exact meant_clientEvent meant (by simp [HardwareHandler.rejectingItem]) stepped
  | clientReject address =>
      refine meant_clientEvent meant ?_ stepped
      intro item rejects request pending
      simp only [HardwareHandler.rejectingItem, Option.some.injEq] at rejects
      subst rejects
      exact good request pending
  | core action =>
      cases action with
      | pushEvent _ => simp [step] at stepped
      | _ =>
          simp only [step, Option.map_eq_some_iff] at stepped
          rcases stepped with ⟨core, stepped, rfl⟩
          exact meant_core meant (by simp) stepped
  | receiveDecision =>
      simp only [step] at stepped
      split at stepped
      · simp at stepped
      · next decision sent queue =>
          simp only [Option.some.injEq] at stepped
          subst stepped
          exact meant_receiveDecision meant queue
  | confirmRequest => exact meant_confirmRequest meant stepped

theorem meant_init : system.init.MeantForPending where
  meant := by simp [system]
  justified := by simp [RejectionsJustified, system]

/--
In a run that stores no request while a rejection of its address may still come, and
in which clients reject only what they saw announced, every rejection goes back to the
request it is answered to.
-/
theorem rejectionsJustified_of_separate {schedule : List Action} {final : PairingDecision}
    (ran : system.run schedule = some final) (separate : system.Along Separate schedule) :
    final.RejectionsJustified := by
  have meant : final.MeantForPending := by
    refine System.invariant_of_along MeantForPending meant_init ?_ ran separate
    intro pairing action next meant good stepped
    exact meant_step meant good stepped
  exact meant.justified

/-- A confirmation request up to its armed timer. -/
def requestAnnounced (devicePath : String) : List Action :=
  [.requestConfirmation (some (devicePath, 123456)), .sendNoti, .receiveNoti,
    .core .processEvent, .core .insertTimer, .core .storeTimerId]

/-- MainWorker handles an event that ends in a decision, which then reaches the agent. -/
def decisionForwarded : List Action :=
  [.core .processEvent, .receiveDecision, .confirmRequest]

/-- The timer with id 1 runs out. -/
def timerExpires : List Action :=
  [.core (.tick timeoutRequestConfirmationMs),
    .core (.sweepExpired timeoutRequestConfirmationMs), .core (.pushExpired 1)]

/-- One request is rejected by its timer, the next one by a client. -/
theorem rejectionsJustified_two_rejections :
    ∃ final, system.run (.core .setEventQueue ::
        requestAnnounced "/dev_AA" ++ timerExpires ++ decisionForwarded ++
        requestAnnounced "/dev_AA" ++ [.clientReject "AA"] ++ decisionForwarded) = some final ∧
      final.replies.length = 2 ∧ final.RejectionsJustified := by
  have observed : ((system.run (.core .setEventQueue ::
      requestAnnounced "/dev_AA" ++ timerExpires ++ decisionForwarded ++
      requestAnnounced "/dev_AA" ++ [.clientReject "AA"] ++ decisionForwarded)).map
        fun final => final.replies.length) = some 2 := by decide
  rcases Option.map_eq_some_iff.mp observed with ⟨final, ran, count⟩
  exact ⟨final, ran, count, rejectionsJustified_of_separate ran (by decide)⟩

/--
The timer of the first request runs out while the client's acceptance is still queued.
A second request for the address is then rejected by the first one's timeout event.
-/
theorem not_rejectionsJustified_late_timeout :
    ¬ ∀ (schedule : List Action) (final : PairingDecision),
      system.run schedule = some final → final.RejectionsJustified := by
  intro justified
  let schedule := .core .setEventQueue ::
    requestAnnounced "/dev_AA" ++ [.clientAccept "AA"] ++ timerExpires ++ decisionForwarded ++
    [.requestConfirmation (some ("/dev_AA", 654321))] ++ decisionForwarded
  let rejection : DecisionMessage Cause :=
    { command := .rejectRequestConfirmation, isSuccess := true, address := "AA"
      origin := .request 0 }
  have observed : (system.run schedule).map (fun final => final.replies.getLast?) =
      some (some { request := 1, type := .error, decision := some rejection }) := by decide
  rcases Option.map_eq_some_iff.mp observed with ⟨final, ran, last⟩
  have meant := justified schedule final ran _ (List.mem_of_getLast? last) rfl rejection rfl
  simp [rejection, Cause.Justifies] at meant

end PairingDecision

end RaspberryPiService
