import RaspberryPiService.CoreManager.WebSocketServer

/-!
# The write queue of a session

`send` starts the writing of a session when none is going on: it posts `doWrite`, which
hands the front of the queue to `async_write`, and the completion of that write posts
`doWrite` again until the queue is empty or a write fails. The messages that a failed
write leaves in the queue go first when a later `send` starts over.

Any thread sends. `send` and the completion hold `queue_mutex_` from beginning to end, and
each of the three callbacks is one step here.
-/

namespace RaspberryPiService

namespace WebSocketSession

variable {Message : Type}

/-- The session after a `send`, and whether it posts `doWrite`. -/
def send (session : WebSocketSession Message) (message : Message) :
    WebSocketSession Message × Bool :=
  ({ messageQueue := session.messageQueue ++ [message], writing := true }, !session.writing)

/-- The session after the completion of a write, and whether it posts `doWrite`. -/
def writeCompleted (session : WebSocketSession Message) (error : Bool) :
    WebSocketSession Message × Bool :=
  let messageQueue := session.messageQueue.tail
  if error then ({ messageQueue, writing := false }, false)
  else if messageQueue.isEmpty then ({ messageQueue, writing := false }, false)
  else ({ session with messageQueue }, true)

end WebSocketSession

namespace WebSocketServer

variable {Message : Type} (server : WebSocketServer Message) (session : Nat)

/-- A session of the server is changed as its callback changes it, and may post `doWrite`. -/
def callback (changed : WebSocketSession Message × Bool) : WebSocketServer Message :=
  { server with
    session := Function.update server.session session changed.1
    handlers := server.handlers ++ if changed.2 then [.doWrite session] else [] }

theorem send_eq_callback (message : Message) :
    server.send session message =
      server.callback session ((server.session session).send message) := by
  cases writing : (server.session session).writing <;>
    simp [send, callback, WebSocketSession.send, writing]

theorem writeNext_popMessage_eq_callback :
    (server.popMessage session).writeNext session =
      server.callback session ((server.session session).writeCompleted false) := by
  simp only [writeNext, popMessage, stopWriting, callback, WebSocketSession.writeCompleted,
    Function.update_self, Function.update_idem, Bool.false_eq_true, if_false, List.isEmpty_iff]
  split <;> simp

theorem stopWriting_popMessage_eq_callback :
    (server.popMessage session).stopWriting session =
      server.callback session ((server.session session).writeCompleted true) := by
  simp [popMessage, stopWriting, callback, WebSocketSession.writeCompleted]

end WebSocketServer

/-- A session with its callbacks that are to run, and what went in and out. -/
structure WriteQueue (Message : Type) where
  session : WebSocketSession Message := {}
  -- `doWrite`s in the executor
  posted : Nat := 0
  -- `async_write`s whose handler has not run
  inFlight : Nat := 0
  sent : List Message := []
  -- what `async_write` was given; nothing is the front of an empty queue
  handed : List (Option Message) := []

inductive WriteAction (Message : Type) where
  | send (message : Message)
  | doWrite
  | writeCompleted (error : Bool)

namespace WriteQueue

variable {Message : Type}

def step (queue : WriteQueue Message) : WriteAction Message → Option (WriteQueue Message)
  | .send message =>
      let (session, posts) := queue.session.send message
      some { queue with
        session
        posted := queue.posted + posts.toNat
        sent := queue.sent ++ [message] }
  | .doWrite =>
      if 0 < queue.posted then
        some { queue with
          posted := queue.posted - 1
          inFlight := queue.inFlight + 1
          handed := queue.handed ++ [queue.session.messageQueue.head?] }
      else none
  | .writeCompleted error =>
      if 0 < queue.inFlight then
        let (session, posts) := queue.session.writeCompleted error
        some { queue with
          session
          inFlight := queue.inFlight - 1
          posted := queue.posted + posts.toNat }
      else none

def protocol (Message : Type) : System (WriteQueue Message) (WriteAction Message) where
  init := {}
  step := step

/-- Messages are written one at a time, in the order in which they were sent. -/
structure InOrder (queue : WriteQueue Message) : Prop where
  one_write : queue.posted + queue.inFlight ≤ 1
  writing_iff : queue.session.writing ↔ queue.posted + queue.inFlight = 1
  front : 0 < queue.posted → queue.session.messageQueue ≠ []
  handed_prefix : queue.handed <+: queue.sent.map some

/-- What `async_write` has not been given yet: the queue, but for the message in flight. -/
def unhanded (queue : WriteQueue Message) : List Message :=
  queue.session.messageQueue.drop queue.inFlight

structure Invariant (queue : WriteQueue Message) : Prop where
  one_write : queue.posted + queue.inFlight ≤ 1
  writing_iff : queue.session.writing ↔ queue.posted + queue.inFlight = 1
  nonempty : queue.session.writing → queue.session.messageQueue ≠ []
  sent : queue.sent.map some = queue.handed ++ queue.unhanded.map some

namespace Invariant

variable {queue next : WriteQueue Message}

theorem init : (protocol Message).init.Invariant := by
  constructor <;> simp [protocol, unhanded]

theorem exists_front (invariant : queue.Invariant)
    (pending : 0 < queue.posted ∨ 0 < queue.inFlight) :
    queue.posted + queue.inFlight = 1 ∧ queue.session.writing ∧
      ∃ message messages, queue.session.messageQueue = message :: messages := by
  have one : queue.posted + queue.inFlight = 1 := by
    have := invariant.one_write
    omega
  have writing := invariant.writing_iff.mpr one
  exact ⟨one, writing, List.exists_cons_of_ne_nil (invariant.nonempty writing)⟩

theorem inFlight_le_length (invariant : queue.Invariant) :
    queue.inFlight ≤ queue.session.messageQueue.length := by
  by_cases inFlight : 0 < queue.inFlight
  · obtain ⟨one, -, message, messages, front⟩ := invariant.exists_front (Or.inr inFlight)
    rw [front, List.length_cons]
    omega
  · omega

theorem send (invariant : queue.Invariant) {message : Message}
    (stepped : queue.step (.send message) = some next) : next.Invariant := by
  cases stepped
  have pending : queue.posted + (!queue.session.writing).toNat + queue.inFlight = 1 := by
    have one_write := invariant.one_write
    have writing_iff := invariant.writing_iff
    cases writing : queue.session.writing with
    | true =>
        rw [Bool.not_true, Bool.toNat_false]
        exact writing_iff.mp writing
    | false =>
        rw [writing] at writing_iff
        simp only [Bool.false_eq_true, false_iff] at writing_iff
        rw [Bool.not_false, Bool.toNat_true]
        omega
  constructor
  · exact pending.le
  · exact iff_of_true rfl pending
  · intro _
    exact List.append_ne_nil_of_right_ne_nil _ (List.cons_ne_nil message [])
  · simp only [unhanded,
      List.drop_append_of_le_length invariant.inFlight_le_length]
    rw [List.map_append, List.map_append, invariant.sent, List.append_assoc]
    rfl

/-- The front of the queue is handed over and stays where it is. -/
theorem doWrite (invariant : queue.Invariant) (stepped : queue.step .doWrite = some next) :
    next.Invariant := by
  simp only [WriteQueue.step, Option.ite_none_right_eq_some, Option.some.injEq] at stepped
  rcases stepped with ⟨posted, rfl⟩
  obtain ⟨one, writing, message, messages, front⟩ := invariant.exists_front (Or.inl posted)
  have none_inFlight : queue.inFlight = 0 := by omega
  have sent := invariant.sent
  rw [unhanded, none_inFlight, List.drop_zero, front] at sent
  constructor
  · dsimp only
    omega
  · refine iff_of_true writing ?_
    dsimp only
    omega
  · exact fun _ => invariant.nonempty writing
  · simp only [unhanded, none_inFlight, front]
    rw [sent, List.append_assoc]
    rfl

/-- The message in flight leaves the queue, whether it was written or not. -/
theorem writeCompleted (invariant : queue.Invariant) {error : Bool}
    (stepped : queue.step (.writeCompleted error) = some next) : next.Invariant := by
  simp only [WriteQueue.step, Option.ite_none_right_eq_some, Option.some.injEq] at stepped
  rcases stepped with ⟨inFlight, rfl⟩
  obtain ⟨one, writing, message, messages, front⟩ := invariant.exists_front (Or.inr inFlight)
  have one_inFlight : queue.inFlight = 1 := by omega
  have none_posted : queue.posted = 0 := by omega
  have sent := invariant.sent
  rw [unhanded, one_inFlight, front, List.drop_succ_cons, List.drop_zero] at sent
  unfold WebSocketSession.writeCompleted
  simp only [front, List.tail_cons, one_inFlight, none_posted]
  split
  · exact ⟨Nat.zero_le _, by simp, by simp, sent⟩
  · split
    · exact ⟨Nat.zero_le _, by simp, by simp, sent⟩
    · next more =>
        exact ⟨Nat.le_refl _, by simp [writing], fun _ => by simpa using more, sent⟩

theorem step (invariant : queue.Invariant) {action : WriteAction Message}
    (stepped : queue.step action = some next) : next.Invariant := by
  cases action with
  | send => exact invariant.send stepped
  | doWrite => exact invariant.doWrite stepped
  | writeCompleted => exact invariant.writeCompleted stepped

theorem inOrder (invariant : queue.Invariant) : queue.InOrder where
  one_write := invariant.one_write
  writing_iff := invariant.writing_iff
  front posted := by
    apply invariant.nonempty
    apply invariant.writing_iff.mpr
    have := invariant.one_write
    omega
  handed_prefix := by
    rw [invariant.sent]
    exact List.prefix_append _ _

end Invariant

theorem inOrder_of_run {schedule : List (WriteAction Message)} {queue : WriteQueue Message}
    (ran : (protocol Message).run schedule = some queue) : queue.InOrder :=
  (System.invariant_of_run Invariant Invariant.init
    (fun _ _ _ invariant stepped => invariant.step stepped) ran).inOrder

/-- A write fails with a message left behind, which a later message starts again. -/
def failsAndRestarts : List (WriteAction Nat) :=
  [.send 1, .send 2, .doWrite, .writeCompleted true, .send 3, .doWrite, .writeCompleted false]

theorem inOrder_failsAndRestarts :
    ∃ queue, (protocol Nat).run failsAndRestarts = some queue ∧ queue.InOrder :=
  ⟨_, rfl, inOrder_of_run (rfl : (protocol Nat).run failsAndRestarts = some _)⟩

end WriteQueue

end RaspberryPiService
