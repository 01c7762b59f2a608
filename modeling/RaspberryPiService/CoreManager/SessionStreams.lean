import RaspberryPiService.CoreManager.WriteQueue
import RaspberryPiService.Transition.BroadcastLog
import RaspberryPiService.Transition.Refinement

/-!
# What each session is sent

The broadcasts, and what clients are sent when they join, are ordered by `mutex_`: the
order in which it is taken determines what each session is sent. It is sent its own
messages first, then every broadcast until it leaves, and they are written in that order.

Each session goes through its callbacks as in the model of its write queue.
-/

namespace RaspberryPiService

/-- The operations in the order of `mutex_`, and for each session what went in and out. -/
structure StreamHistory (Message : Type) where
  log : List (LogEntry Message) := []
  sent : Nat → List Message := fun _ => []
  handed : Nat → List (Option Message) := fun _ => []

namespace StreamHistory

variable {Message : Type}

def addEntry (history : StreamHistory Message) (entry : LogEntry Message) :
    StreamHistory Message :=
  { history with log := history.log ++ [entry] }

def addSent (history : StreamHistory Message) (session : Nat) (message : Message) :
    StreamHistory Message :=
  { history with
    sent := Function.update history.sent session (history.sent session ++ [message]) }

def addHanded (history : StreamHistory Message) (session : Nat) (front : Option Message) :
    StreamHistory Message :=
  { history with
    handed := Function.update history.handed session (history.handed session ++ [front]) }

/-- An operation is logged when it takes `mutex_`. -/
def observe (server : WebSocketServer Message) (action : WebSocketServer.Action Message)
    (_next : WebSocketServer Message) (history : StreamHistory Message) :
    StreamHistory Message :=
  match action with
  | .main _ =>
      match server.main with
      | .updateStateAndBroadcast message => history.addEntry (.publish message)
      | .sending message session _ => history.addSent session message
      | .idle | .broadcast _ _ => history
  | .io initState =>
      match server.io with
      | .join session => history.addEntry (.join session initState)
      | .sendingInitState session message _ => history.addSent session message
      | .leave session | .leaveOnError session => history.addEntry (.leave session)
      | .idle | .sendInitState _ _ | .left | .writeCompleted _ _ | .completing _ _
      | .leftOnError _ | .stopWriting _ => history
  | .handle (.doWrite session) _ =>
      history.addHanded session (server.session session).messageQueue.head?
  | .handle (.write _) _ | .handle (.read _) _ | .broadcast _ | .accept => history

end StreamHistory

namespace BroadcastPc

variable {Message : Type}

/-- What the broadcast is still to send to a session. -/
def pending (session : Nat) : BroadcastPc Message → List Message
  | broadcast message remaining => if session ∈ remaining then [message] else []
  | sending message current remaining =>
      if session = current ∨ session ∈ remaining then [message] else []
  | idle | updateStateAndBroadcast _ => []

/-- The sessions that it is still to visit, the present one included. -/
def visits : BroadcastPc Message → List Nat
  | broadcast _ remaining => remaining
  | sending _ current remaining => current :: remaining
  | idle | updateStateAndBroadcast _ => []

end BroadcastPc

namespace IoPc

variable {Message : Type}

/-- What a session that joins is still to be sent. -/
def pending (session : Nat) : IoPc Message → List Message
  | sendInitState joining messages => if joining = session then messages else []
  | sendingInitState joining message messages =>
      if joining = session then message :: messages else []
  | _ => []

/-- The session whose write has come to its end, but has not been dealt with. -/
def completed : IoPc Message → Option Nat
  | writeCompleted session _ | completing session _ => some session
  | _ => none

/-- The session that stops writing after an error. -/
def stopping : IoPc Message → Option Nat
  | leaveOnError session | leftOnError session | stopWriting session => some session
  | _ => none

end IoPc

namespace WebSocketServer

variable {Message : Type}

/-- The server with what each session is sent. -/
def streams (Message : Type) :
    System (WebSocketServer Message × StreamHistory Message) (Action Message) :=
  (protocol Message).withHistory {} StreamHistory.observe

/-- What is still to be sent to a session by the operations that have taken `mutex_`. -/
def pending (server : WebSocketServer Message) (session : Nat) : List Message :=
  server.main.pending session ++ server.io.pending session

/-- The locks exclude each other, and the log determines who is served and with what. -/
structure Streams (recorded : WebSocketServer Message × StreamHistory Message) : Prop where
  exclusive : ∀ lock ∈ recorded.1.main.held, lock ∉ recorded.1.io.held
  sessions : recorded.1.sessions.Nodup
  visits : recorded.1.main.visits.Nodup
  members : ∀ session, session ∈ recorded.1.sessions ↔
    LogEntry.isMember session recorded.2.log = true
  sent : ∀ session, recorded.2.sent session ++ recorded.1.pending session =
    LogEntry.stream session recorded.2.log

variable {server next : WebSocketServer Message} {history : StreamHistory Message}

/-- Only with `mutex_` is there something to be sent. -/
theorem pending_main {session : Nat} (free : .mutex ∉ server.main.held) :
    server.main.pending session = [] := by
  cases main : server.main <;> simp_all [BroadcastPc.held, BroadcastPc.pending]

theorem pending_io {session : Nat} (free : .mutex ∉ server.io.held) :
    server.io.pending session = [] := by
  cases io : server.io <;> simp_all [IoPc.held, IoPc.pending]

theorem pending_of_free {session : Nat} (free : server.Free .mutex) :
    server.pending session = [] := by
  rw [pending, pending_main free.1, pending_io free.2, List.append_nil]

theorem Streams.begin {message : Message} {order : List Nat} (holds : Streams (server, history))
    (main : server.main = .updateStateAndBroadcast message) (free : server.Free .mutex)
    (all : order.Perm server.sessions) :
    Streams ({ server with main := .broadcast message order },
      history.addEntry (.publish message)) where
  exclusive := by
    intro lock held
    obtain rfl := List.mem_singleton.mp held
    exact free.2
  sessions := holds.sessions
  visits := all.nodup_iff.mpr holds.sessions
  members := by
    intro session
    simpa [StreamHistory.addEntry] using holds.members session
  sent := by
    intro session
    have before := holds.sent session
    have nothing : server.io.pending session = [] := pending_io free.2
    have isMember := holds.members session
    simp only [pending, main, BroadcastPc.pending, nothing, List.append_nil] at before
    simp only [pending, BroadcastPc.pending, nothing, List.append_nil, StreamHistory.addEntry,
      LogEntry.stream_publish, before, all.mem_iff, isMember]

theorem Streams.serve {message : Message} {session : Nat} {remaining : List Nat}
    (holds : Streams (server, history))
    (main : server.main = .broadcast message (session :: remaining))
    (free : server.Free (.queueMutex session)) :
    Streams ({ server with main := .sending message session remaining }, history) where
  exclusive := by
    intro lock held
    rcases List.mem_cons.mp held with rfl | held
    · exact holds.exclusive _ (by simp [main, BroadcastPc.held])
    · obtain rfl := List.mem_singleton.mp held
      exact free.2
  sessions := holds.sessions
  visits := by
    have visits := holds.visits
    simpa only [main, BroadcastPc.visits] using visits
  members := holds.members
  sent := by
    intro other
    have before := holds.sent other
    simpa [pending, main, BroadcastPc.pending] using before

theorem Streams.send {message : Message} {session : Nat} {remaining : List Nat}
    (holds : Streams (server, history))
    (main : server.main = .sending message session remaining) :
    Streams ({ server.send session message with main := .broadcast message remaining },
      history.addSent session message) where
  exclusive := by
    intro lock held
    obtain rfl := List.mem_singleton.mp held
    exact holds.exclusive _ (by simp [main, BroadcastPc.held])
  sessions := holds.sessions
  visits := by
    have visits := holds.visits
    simp only [main, BroadcastPc.visits] at visits
    exact (List.nodup_cons.mp visits).2
  members := holds.members
  sent := by
    intro other
    have before := holds.sent other
    have served : session ∉ remaining := by
      have visits := holds.visits
      simp only [main, BroadcastPc.visits] at visits
      exact (List.nodup_cons.mp visits).1
    have nothing : server.io.pending other = [] :=
      pending_io (holds.exclusive .mutex (by simp [main, BroadcastPc.held]))
    rw [pending, main, nothing, List.append_nil] at before
    rw [pending]
    simp only [StreamHistory.addSent, BroadcastPc.pending, WebSocketServer.send, nothing,
      List.append_nil] at before ⊢
    by_cases same : other = session
    · subst same
      simpa [served] using before
    · simpa [same] using before

/-- A broadcast begins, before it takes `mutex_`, or ends. -/
theorem Streams.turn {main : BroadcastPc Message} (holds : Streams (server, history))
    (idle : main.held = [] ∧ main.visits = [])
    (same : ∀ session, main.pending session = server.main.pending session) :
    Streams ({ server with main }, history) where
  exclusive := by simp [idle.1]
  sessions := holds.sessions
  visits := by simp [idle.2]
  members := holds.members
  sent := by
    intro session
    rw [pending, same]
    exact holds.sent session

/-- The I/O thread does something else than to send, to let join or to let leave. -/
theorem Streams.unlogged {later : StreamHistory Message} (holds : Streams (server, history))
    (main : next.main = server.main) (sessions : next.sessions = server.sessions)
    (log : later.log = history.log) (sent : later.sent = history.sent)
    (pending : ∀ session, next.io.pending session = server.io.pending session)
    (held : ∀ lock ∈ next.io.held, lock ∈ server.io.held ∨ server.Free lock) :
    Streams (next, later) where
  exclusive := by
    intro lock holdsMain holdsIo
    rw [main] at holdsMain
    rcases held lock holdsIo with already | free
    · exact holds.exclusive lock holdsMain already
    · exact free.1 holdsMain
  sessions := by
    rw [sessions]
    exact holds.sessions
  visits := by
    rw [main]
    exact holds.visits
  members := by
    intro session
    rw [sessions, log]
    exact holds.members session
  sent := by
    intro session
    rw [WebSocketServer.pending, main, pending, sent, log]
    exact holds.sent session

theorem Streams.join {session : Nat} (initState : List Message)
    (holds : Streams (server, history)) (io : server.io = .join session)
    (free : server.Free .mutex) :
    Streams ({ server with
        sessions := server.sessions.insert session
        io := .sendInitState session initState },
      history.addEntry (.join session initState)) where
  exclusive := by
    intro lock held holdsIo
    obtain rfl := List.mem_singleton.mp holdsIo
    exact free.1 held
  sessions := holds.sessions.insert
  visits := holds.visits
  members := by
    intro other
    simp only [StreamHistory.addEntry, List.mem_insert_iff, holds.members other,
      LogEntry.isMember_join, Bool.or_eq_true, decide_eq_true_eq]
    rw [or_comm]
    exact or_congr_right eq_comm
  sent := by
    intro other
    have before := holds.sent other
    have nothing : server.main.pending other = [] := pending_main free.1
    simp only [pending, nothing, io, IoPc.pending, List.append_nil] at before
    simp only [pending, nothing, IoPc.pending, StreamHistory.addEntry, LogEntry.stream_join,
      before, List.nil_append]

theorem Streams.sendInitState {message : Message} {session : Nat} {messages : List Message}
    (holds : Streams (server, history))
    (io : server.io = .sendingInitState session message messages) :
    Streams ({ server.send session message with io := .sendInitState session messages },
      history.addSent session message) where
  exclusive := by
    intro lock held holdsIo
    obtain rfl := List.mem_singleton.mp holdsIo
    exact holds.exclusive _ held (by simp [io, IoPc.held])
  sessions := holds.sessions
  visits := holds.visits
  members := holds.members
  sent := by
    intro other
    have before := holds.sent other
    have nothing : server.main.pending other = [] :=
      pending_main fun held => holds.exclusive _ held (by simp [io, IoPc.held])
    rw [pending, io, nothing, List.nil_append] at before
    rw [pending]
    simp only [StreamHistory.addSent, IoPc.pending, WebSocketServer.send, nothing,
      List.nil_append] at before ⊢
    by_cases same : session = other
    · subst same
      simpa using before
    · simpa [same, Ne.symm same] using before

/-- A session leaves, with or without its `queue_mutex_` held. -/
theorem Streams.leave {session : Nat} (holds : Streams (server, history)) (io : IoPc Message)
    (pending : ∀ other, io.pending other = server.io.pending other)
    (held : ∀ lock ∈ io.held, lock ∈ server.io.held ∨ server.Free lock) :
    Streams ({ server with sessions := server.sessions.filter (· ≠ session), io },
      history.addEntry (.leave session)) where
  exclusive := by
    intro lock holdsMain holdsIo
    rcases held lock holdsIo with already | isFree
    · exact holds.exclusive lock holdsMain already
    · exact isFree.1 holdsMain
  sessions := holds.sessions.filter _
  visits := holds.visits
  members := by
    intro other
    simp only [StreamHistory.addEntry, List.mem_filter, holds.members other,
      LogEntry.isMember_leave, Bool.and_eq_true, decide_eq_true_eq]
    exact and_congr_right fun _ => ne_comm
  sent := by
    intro other
    rw [WebSocketServer.pending, pending]
    simp only [StreamHistory.addEntry, LogEntry.stream_leave]
    exact holds.sent other

theorem Streams.mainStep {order : List Nat} (holds : Streams (server, history))
    (stepped : server.mainStep order = some next) :
    Streams (next, StreamHistory.observe server (.main order) next history) := by
  unfold WebSocketServer.mainStep at stepped
  cases main : server.main with
  | idle => simp [main] at stepped
  | updateStateAndBroadcast message =>
      simp only [main, Option.ite_none_right_eq_some, Option.some.injEq] at stepped
      rcases stepped with ⟨⟨free, all⟩, rfl⟩
      simpa only [StreamHistory.observe, main] using holds.begin main free all
  | broadcast message remaining =>
      cases remaining with
      | nil =>
          simp only [main, Option.some.injEq] at stepped
          subst stepped
          have same : ∀ session, BroadcastPc.idle.pending session =
              server.main.pending session := by simp [main, BroadcastPc.pending]
          simpa only [StreamHistory.observe, main] using holds.turn ⟨rfl, rfl⟩ same
      | cons session remaining =>
          simp only [main, Option.ite_none_right_eq_some, Option.some.injEq] at stepped
          rcases stepped with ⟨free, rfl⟩
          simpa only [StreamHistory.observe, main] using holds.serve main free
  | sending message session remaining =>
      simp only [main, Option.some.injEq] at stepped
      subst stepped
      simpa only [StreamHistory.observe, main] using holds.send main

theorem Streams.ioStep {initState : List Message} (holds : Streams (server, history))
    (stepped : server.ioStep initState = some next) :
    Streams (next, StreamHistory.observe server (.io initState) next history) := by
  unfold WebSocketServer.ioStep at stepped
  cases io : server.io with
  | idle => simp [io] at stepped
  | join session =>
      simp only [io, Option.ite_none_right_eq_some, Option.some.injEq] at stepped
      rcases stepped with ⟨free, rfl⟩
      simpa only [StreamHistory.observe, io] using holds.join initState io free
  | sendInitState session messages =>
      cases messages with
      | nil =>
          simp only [io, Option.some.injEq] at stepped
          subst stepped
          simp only [StreamHistory.observe, io]
          exact holds.unlogged rfl rfl rfl rfl (by simp [io, IoPc.pending])
            (by simp [IoPc.held])
      | cons message messages =>
          simp only [io, Option.ite_none_right_eq_some, Option.some.injEq] at stepped
          rcases stepped with ⟨free, rfl⟩
          simp only [StreamHistory.observe, io]
          exact holds.unlogged rfl rfl rfl rfl (by simp [io, IoPc.pending])
            (by simp [io, IoPc.held, free])
  | sendingInitState session message messages =>
      simp only [io, Option.some.injEq] at stepped
      subst stepped
      simpa only [StreamHistory.observe, io] using holds.sendInitState io
  | leave session =>
      simp only [io, Option.ite_none_right_eq_some, Option.some.injEq] at stepped
      rcases stepped with ⟨free, rfl⟩
      simpa only [StreamHistory.observe, io] using
        holds.leave .left (by simp [io, IoPc.pending]) (by simp [IoPc.held, free])
  | writeCompleted session error =>
      simp only [io, Option.ite_none_right_eq_some, Option.some.injEq] at stepped
      rcases stepped with ⟨free, rfl⟩
      simp only [StreamHistory.observe, io]
      exact holds.unlogged rfl rfl rfl rfl (by simp [io, IoPc.pending])
        (by simp [IoPc.held, free])
  | completing session error =>
      simp only [StreamHistory.observe, io]
      cases error with
      | true =>
          simp only [io, Option.some.injEq] at stepped
          subst stepped
          exact holds.unlogged rfl rfl rfl rfl (by simp [io, IoPc.pending])
            (by simp [io, IoPc.held])
      | false =>
          simp only [io, writeNext_popMessage_eq_callback, Option.some.injEq] at stepped
          subst stepped
          exact holds.unlogged rfl rfl rfl rfl (by simp [io, IoPc.pending])
            (by simp [IoPc.held])
  | leaveOnError session =>
      simp only [io, Option.ite_none_right_eq_some, Option.some.injEq] at stepped
      rcases stepped with ⟨free, rfl⟩
      simpa only [StreamHistory.observe, io] using
        holds.leave (.leftOnError session) (by simp [io, IoPc.pending])
          (by simp [io, IoPc.held, free])
  | left | leftOnError | stopWriting =>
      simp only [io, Option.some.injEq] at stepped
      subst stepped
      simp only [StreamHistory.observe, io]
      exact holds.unlogged rfl rfl rfl rfl (by simp [io, IoPc.pending])
        (by simp [io, IoPc.held])

theorem Streams.step {action : Action Message} (holds : Streams (server, history))
    (stepped : server.step action = some next) :
    Streams (next, StreamHistory.observe server action next history) := by
  cases action with
  | main order => exact holds.mainStep stepped
  | io initState => exact holds.ioStep stepped
  | broadcast message =>
      cases main : server.main <;>
        simp only [WebSocketServer.step, main, reduceCtorEq, Option.some.injEq] at stepped
      subst stepped
      exact holds.turn ⟨rfl, rfl⟩ (by simp [main, BroadcastPc.pending])
  | accept =>
      cases io : server.io <;>
        simp only [WebSocketServer.step, io, reduceCtorEq, Option.some.injEq] at stepped
      subst stepped
      exact holds.unlogged rfl rfl rfl rfl (by simp [io, IoPc.pending]) (by simp [IoPc.held])
  | handle handler error =>
      cases io : server.io <;>
        simp only [WebSocketServer.step, io, reduceCtorEq, Option.ite_none_right_eq_some]
          at stepped
      rcases stepped with ⟨-, stepped⟩
      cases handler with
      | doWrite session =>
          cases stepped
          exact holds.unlogged rfl rfl rfl rfl (by simp [io]) (by simp [io, IoPc.held])
      | write session =>
          cases stepped
          exact holds.unlogged rfl rfl rfl rfl (by simp [io, IoPc.pending]) (by simp [IoPc.held])
      | read session =>
          cases error <;> cases stepped
          · exact holds.unlogged rfl rfl rfl rfl (by simp [io]) (by simp [io, IoPc.held])
          · exact holds.unlogged rfl rfl rfl rfl (by simp [io, IoPc.pending])
              (by simp [IoPc.held])

theorem streams_of_run {schedule : List (Action Message)}
    {recorded : WebSocketServer Message × StreamHistory Message}
    (ran : (streams Message).run schedule = some recorded) : Streams recorded := by
  refine System.invariant_of_run Streams ?_ ?_ ran
  · constructor <;> simp [streams, System.withHistory, protocol, BroadcastPc.held,
      BroadcastPc.visits, LogEntry.isMember, LogEntry.receiveAll, LogEntry.stream, pending,
      BroadcastPc.pending, IoPc.pending]
  · rintro ⟨server, history⟩ action ⟨next, later⟩ holds stepped
    rcases System.withHistory_step_eq_some.mp stepped with ⟨stepped, isLater⟩
    simp only at isLater
    subst isLater
    exact holds.step stepped

/-- A session of the server, as its write queue. -/
structure Projects (session : Nat) (recorded : WebSocketServer Message × StreamHistory Message)
    (queue : WriteQueue Message) : Prop where
  messageQueue : queue.session.messageQueue = (recorded.1.session session).messageQueue
  -- a write that failed ends earlier for the queue than for the server
  writing : queue.session.writing =
    ((recorded.1.session session).writing && recorded.1.io.stopping ≠ some session)
  posted : queue.posted = recorded.1.handlers.count (.doWrite session)
  inFlight : queue.inFlight = recorded.1.handlers.count (.write session) +
    if recorded.1.io.completed = some session then 1 else 0
  sent : queue.sent = recorded.2.sent session
  handed : queue.handed = recorded.2.handed session

variable {session : Nat} {queue : WriteQueue Message}

/-- Whatever concerns the session stays as it is. -/
theorem Projects.stutter {later : StreamHistory Message}
    (projects : Projects session (server, history) queue)
    (same : next.session session = server.session session)
    (handlers : ∀ handler ∈ [IoHandler.doWrite session, .write session],
      next.handlers.count handler = server.handlers.count handler)
    (stopping : next.io.stopping = some session ↔ server.io.stopping = some session)
    (completed : next.io.completed = some session ↔ server.io.completed = some session)
    (sent : later.sent session = history.sent session)
    (handed : later.handed session = history.handed session) :
    Projects session (next, later) queue where
  messageQueue := by
    rw [same]
    exact projects.messageQueue
  writing := by
    simp only [same, ne_eq, stopping]
    exact projects.writing
  posted := by
    rw [handlers _ (by simp)]
    exact projects.posted
  inFlight := by
    simp only [handlers _ (List.mem_cons_of_mem _ List.mem_cons_self), completed]
    exact projects.inFlight
  sent := projects.sent.trans sent.symm
  handed := projects.handed.trans handed.symm

/-- A callback of another session. -/
theorem Projects.callback_of_ne {other : Nat} (projects : Projects session (server, history) queue)
    (differ : other ≠ session) (changed : WebSocketSession Message × Bool) :
    Projects session (server.callback other changed, history) queue := by
  refine projects.stutter ?_ ?_ Iff.rfl Iff.rfl rfl rfl
  · exact Function.update_of_ne differ.symm _ _
  · intro handler member
    have posts : ∀ posted ∈ (if changed.2 then [IoHandler.doWrite other] else []),
        posted ≠ handler := by
      split
      · intro posted isPosted
        obtain rfl := List.mem_singleton.mp isPosted
        simp only [List.mem_cons, List.not_mem_nil, or_false] at member
        rcases member with rfl | rfl
        · simpa using differ
        · simp
      · simp
    rw [callback, List.count_append, List.count_eq_zero_of_not_mem
      (fun isPosted => posts handler isPosted rfl), Nat.add_zero]

theorem Projects.addSent_of_ne {other : Nat} {message : Message}
    (projects : Projects session (server, history) queue) (differ : other ≠ session) :
    Projects session (server, history.addSent other message) queue :=
  projects.stutter rfl (fun _ _ => rfl) Iff.rfl Iff.rfl (Function.update_of_ne differ.symm _ _) rfl

theorem count_callback (server : WebSocketServer Message) (session : Nat)
    (changed : WebSocketSession Message × Bool) :
    (server.callback session changed).handlers.count (.doWrite session) =
        server.handlers.count (.doWrite session) + changed.2.toNat ∧
      (server.callback session changed).handlers.count (.write session) =
        server.handlers.count (.write session) := by
  rcases changed with ⟨left, _ | _⟩ <;> simp [callback]

/-- A message is sent to the session. -/
theorem Projects.send (projects : Projects session (server, history) queue)
    (writes : server.io.stopping ≠ some session) (message : Message) :
    ∃ later, (WriteQueue.protocol Message).step queue (.send message) = some later ∧
      Projects session (server.send session message, history.addSent session message) later := by
  rw [send_eq_callback]
  have writing : queue.session.writing = (server.session session).writing := by
    simpa [writes] using projects.writing
  refine ⟨_, rfl, ?_⟩
  constructor
  · simp [callback, WebSocketSession.send, projects.messageQueue]
  · simpa [callback, WebSocketSession.send] using writes
  · rw [(count_callback _ _ _).1, ← projects.posted]
    simp [WebSocketSession.send, writing]
  · rw [(count_callback _ _ _).2]
    exact projects.inFlight
  · simp [StreamHistory.addSent, projects.sent]
  · exact projects.handed

/-- The send of a message to any session. -/
theorem Projects.sendTo {other : Nat} (projects : Projects session (server, history) queue)
    (writes : server.io.stopping ≠ some other) (message : Message) :
    ∃ schedule later, (WriteQueue.protocol Message).runFrom queue schedule = some later ∧
      Projects session (server.send other message, history.addSent other message) later := by
  by_cases same : other = session
  · subst same
    rcases projects.send writes message with ⟨later, stepped, after⟩
    exact System.exists_follow stepped after
  · apply System.exists_stutter
    rw [send_eq_callback]
    exact (projects.callback_of_ne same _).addSent_of_ne same

theorem step_writeCompleted (error : Bool) (inFlight : 0 < queue.inFlight) :
    (WriteQueue.protocol Message).step queue (.writeCompleted error) =
      some { queue with
        session := (queue.session.writeCompleted error).1
        inFlight := queue.inFlight - 1
        posted := queue.posted + (queue.session.writeCompleted error).2.toNat } :=
  if_pos inFlight

/-- The write of the session completes. -/
theorem Projects.complete {error : Bool} (projects : Projects session (server, history) queue)
    (io : server.io = .completing session error) :
    ∃ later, (WriteQueue.protocol Message).step queue (.writeCompleted error) = some later ∧
      Projects session
        (if error then { server.popMessage session with io := .leaveOnError session }
          else { (server.popMessage session).writeNext session with io := .idle }, history)
        later := by
  have completed := projects.inFlight
  simp only [io, IoPc.completed, if_true] at completed
  have inFlight : 0 < queue.inFlight := by omega
  have writing : queue.session.writing = (server.session session).writing := by
    simpa [io, IoPc.stopping] using projects.writing
  have isSession : queue.session = server.session session := by
    have same := projects.messageQueue
    cases left : queue.session
    cases right : server.session session
    simp_all
  refine ⟨_, step_writeCompleted error inFlight, ?_⟩
  cases error with
  | true =>
      constructor
      · simp [popMessage, WebSocketSession.writeCompleted, isSession]
      · simp [WebSocketSession.writeCompleted, IoPc.stopping]
      · simpa [popMessage, WebSocketSession.writeCompleted] using projects.posted
      · simp [popMessage, IoPc.completed, completed]
      · exact projects.sent
      · exact projects.handed
  | false =>
      simp only [Bool.false_eq_true, if_false, writeNext_popMessage_eq_callback]
      constructor
      · simp [callback, isSession]
      · simp [callback, isSession, IoPc.stopping]
      · have posted := (count_callback server session
          ((server.session session).writeCompleted false)).1
        simp only [posted, isSession, projects.posted]
      · have written := (count_callback server session
          ((server.session session).writeCompleted false)).2
        simp [written, IoPc.completed, completed]
      · exact projects.sent
      · exact projects.handed

/-- The front of the queue is handed to `async_write`. -/
theorem Projects.doWrite (projects : Projects session (server, history) queue)
    (posted : .doWrite session ∈ server.handlers) :
    ∃ later, (WriteQueue.protocol Message).step queue .doWrite = some later ∧
      Projects session
        ({ server with handlers := server.handlers.erase (.doWrite session) ++ [.write session] },
          history.addHanded session (server.session session).messageQueue.head?) later := by
  have isPosted : 0 < queue.posted := by
    rw [projects.posted]
    exact List.count_pos_iff.mpr posted
  refine ⟨_, if_pos isPosted, ?_⟩
  constructor
  · exact projects.messageQueue
  · exact projects.writing
  · simp [projects.posted, List.count_erase_self]
  · have inFlight := projects.inFlight
    simp only [List.count_append, List.count_erase_of_ne, ne_eq, reduceCtorEq,
      not_false_eq_true, List.count_singleton_self] at inFlight ⊢
    omega
  · exact projects.sent
  · simp [StreamHistory.addHanded, projects.handed, projects.messageQueue]

/-- A step of the server is one step of each write queue, or none. -/
def Follows (session : Nat) (queue : WriteQueue Message)
    (recorded : WebSocketServer Message × StreamHistory Message) : Prop :=
  ∃ schedule later, (WriteQueue.protocol Message).runFrom queue schedule = some later ∧
    Projects session recorded later

theorem Projects.mainStep {order : List Nat} (holds : Streams (server, history))
    (projects : Projects session (server, history) queue)
    (stepped : server.mainStep order = some next) :
    Follows session queue (next, StreamHistory.observe server (.main order) next history) := by
  unfold WebSocketServer.mainStep at stepped
  cases main : server.main with
  | idle => simp [main] at stepped
  | updateStateAndBroadcast message =>
      simp only [main, Option.ite_none_right_eq_some, Option.some.injEq] at stepped
      rcases stepped with ⟨-, rfl⟩
      simp only [StreamHistory.observe, main]
      exact System.exists_stutter
        (projects.stutter rfl (fun _ _ => rfl) Iff.rfl Iff.rfl rfl rfl)
  | broadcast message remaining =>
      simp only [StreamHistory.observe, main]
      apply System.exists_stutter
      cases remaining with
      | nil =>
          simp only [main, Option.some.injEq] at stepped
          subst stepped
          exact projects.stutter rfl (fun _ _ => rfl) Iff.rfl Iff.rfl rfl rfl
      | cons current remaining =>
          simp only [main, Option.ite_none_right_eq_some, Option.some.injEq] at stepped
          rcases stepped with ⟨-, rfl⟩
          exact projects.stutter rfl (fun _ _ => rfl) Iff.rfl Iff.rfl rfl rfl
  | sending message current remaining =>
      simp only [main, Option.some.injEq] at stepped
      subst stepped
      simp only [StreamHistory.observe, main]
      have writes : server.io.stopping ≠ some current := by
        intro stopping
        apply holds.exclusive (.queueMutex current) (by simp [main, BroadcastPc.held])
        cases io : server.io <;> simp_all [IoPc.stopping, IoPc.held]
      rcases projects.sendTo writes message with ⟨schedule, later, ran, after⟩
      exact ⟨schedule, later, ran,
        after.stutter rfl (fun _ _ => rfl) Iff.rfl Iff.rfl rfl rfl⟩

theorem Projects.ioStep {initState : List Message}
    (projects : Projects session (server, history) queue)
    (stepped : server.ioStep initState = some next) :
    Follows session queue (next, StreamHistory.observe server (.io initState) next history) := by
  unfold WebSocketServer.ioStep at stepped
  cases io : server.io with
  | idle => simp [io] at stepped
  | join current | leave current =>
      simp only [io, Option.ite_none_right_eq_some, Option.some.injEq] at stepped
      rcases stepped with ⟨-, rfl⟩
      simp only [StreamHistory.observe, io]
      exact System.exists_stutter (projects.stutter rfl (fun _ _ => rfl)
        (by simp [io, IoPc.stopping]) (by simp [io, IoPc.completed]) rfl rfl)
  | sendInitState current messages =>
      simp only [StreamHistory.observe, io]
      apply System.exists_stutter
      cases messages with
      | nil =>
          simp only [io, Option.some.injEq] at stepped
          subst stepped
          exact projects.stutter rfl (by simp) (by simp [io, IoPc.stopping])
            (by simp [io, IoPc.completed]) rfl rfl
      | cons message messages =>
          simp only [io, Option.ite_none_right_eq_some, Option.some.injEq] at stepped
          rcases stepped with ⟨-, rfl⟩
          exact projects.stutter rfl (fun _ _ => rfl) (by simp [io, IoPc.stopping])
            (by simp [io, IoPc.completed]) rfl rfl
  | sendingInitState current message messages =>
      simp only [io, Option.some.injEq] at stepped
      subst stepped
      simp only [StreamHistory.observe, io]
      have writes : server.io.stopping ≠ some current := by simp [io, IoPc.stopping]
      rcases projects.sendTo writes message with ⟨schedule, later, ran, after⟩
      exact ⟨schedule, later, ran, after.stutter rfl (fun _ _ => rfl)
        (by simp [io, IoPc.stopping, WebSocketServer.send])
        (by simp [io, IoPc.completed, WebSocketServer.send]) rfl rfl⟩
  | left | leftOnError =>
      simp only [io, Option.some.injEq] at stepped
      subst stepped
      simp only [StreamHistory.observe, io]
      exact System.exists_stutter (projects.stutter rfl (fun _ _ => rfl)
        (by simp [io, IoPc.stopping]) (by simp [io, IoPc.completed]) rfl rfl)
  | writeCompleted current error =>
      simp only [io, Option.ite_none_right_eq_some, Option.some.injEq] at stepped
      rcases stepped with ⟨-, rfl⟩
      simp only [StreamHistory.observe, io]
      exact System.exists_stutter (projects.stutter rfl (fun _ _ => rfl)
        (by simp [io, IoPc.stopping]) (by simp [io, IoPc.completed]) rfl rfl)
  | leaveOnError current =>
      simp only [io, Option.ite_none_right_eq_some, Option.some.injEq] at stepped
      rcases stepped with ⟨-, rfl⟩
      simp only [StreamHistory.observe, io]
      exact System.exists_stutter (projects.stutter rfl (fun _ _ => rfl)
        (by simp [io, IoPc.stopping]) (by simp [io, IoPc.completed]) rfl rfl)
  | completing current error =>
      simp only [StreamHistory.observe, io]
      by_cases same : current = session
      · subst same
        rcases projects.complete io with ⟨later, followed, after⟩
        cases error <;> simp only [io, Option.some.injEq] at stepped <;> subst stepped <;>
          exact System.exists_follow followed after
      · apply System.exists_stutter
        cases error with
        | true =>
            simp only [io, Option.some.injEq] at stepped
            subst stepped
            exact projects.stutter (Function.update_of_ne (Ne.symm same) _ _) (fun _ _ => rfl)
              (by simp [io, IoPc.stopping, same]) (by simp [io, IoPc.completed, same]) rfl rfl
        | false =>
            simp only [io, writeNext_popMessage_eq_callback, Option.some.injEq] at stepped
            subst stepped
            have after := projects.callback_of_ne same
              ((server.session current).writeCompleted false)
            exact after.stutter rfl (fun _ _ => rfl) (by simp [callback, io, IoPc.stopping])
              (by simp [callback, io, IoPc.completed, same]) rfl rfl
  | stopWriting current =>
      simp only [io, Option.some.injEq] at stepped
      subst stepped
      simp only [StreamHistory.observe, io]
      apply System.exists_stutter
      by_cases same : current = session
      · subst same
        have stopped := projects.writing
        simp only [io, IoPc.stopping, ne_eq, not_true_eq_false, decide_false,
          Bool.and_false] at stopped
        constructor
        · simpa [WebSocketServer.stopWriting] using projects.messageQueue
        · simpa [WebSocketServer.stopWriting] using stopped
        · exact projects.posted
        · simpa [WebSocketServer.stopWriting, io, IoPc.completed] using projects.inFlight
        · exact projects.sent
        · exact projects.handed
      · exact projects.stutter (Function.update_of_ne (Ne.symm same) _ _) (fun _ _ => rfl)
          (by simp [io, IoPc.stopping, same]) (by simp [io, IoPc.completed]) rfl rfl

theorem Projects.handle {handler : IoHandler} {error : Bool}
    (projects : Projects session (server, history) queue)
    (stepped : server.step (.handle handler error) = some next) :
    Follows session queue
      (next, StreamHistory.observe server (.handle handler error) next history) := by
  cases io : server.io <;>
    simp only [WebSocketServer.step, io, reduceCtorEq, Option.ite_none_right_eq_some] at stepped
  rcases stepped with ⟨isPosted, stepped⟩
  cases handler with
  | doWrite current =>
      cases stepped
      by_cases same : current = session
      · subst same
        rcases projects.doWrite isPosted with ⟨later, followed, after⟩
        exact System.exists_follow followed (by simpa [StreamHistory.observe, io] using after)
      · apply System.exists_stutter
        refine projects.stutter rfl ?_ (by simp [io]) (by simp [io]) rfl
          (Function.update_of_ne (Ne.symm same) _ _)
        intro handler member
        simp only [List.mem_cons, List.not_mem_nil, or_false] at member
        rcases member with rfl | rfl <;>
          simp [List.count_erase_of_ne, same, Ne.symm same]
  | write current =>
      cases stepped
      apply System.exists_stutter
      by_cases same : current = session
      · subst same
        constructor
        · exact projects.messageQueue
        · simpa [io, IoPc.stopping, StreamHistory.observe] using projects.writing
        · simpa [StreamHistory.observe, List.count_erase_of_ne] using projects.posted
        · have inFlight := projects.inFlight
          have present := List.count_pos_iff.mpr isPosted
          simp only [io, IoPc.completed, List.count_erase_self, reduceCtorEq, if_false,
            if_true] at inFlight ⊢
          omega
        · exact projects.sent
        · exact projects.handed
      · refine projects.stutter rfl ?_ (by simp [io, IoPc.stopping])
          (by simp [io, IoPc.completed, same]) rfl rfl
        intro handler member
        simp only [List.mem_cons, List.not_mem_nil, or_false] at member
        rcases member with rfl | rfl <;> simp [List.count_erase_of_ne, Ne.symm same]
  | read current =>
      apply System.exists_stutter
      cases error <;> cases stepped
      · exact projects.stutter rfl (fun _ _ => rfl) (by simp [io]) (by simp [io]) rfl rfl
      · refine projects.stutter rfl ?_ (by simp [io, IoPc.stopping])
          (by simp [io, IoPc.completed]) rfl rfl
        intro handler member
        simp only [List.mem_cons, List.not_mem_nil, or_false] at member
        rcases member with rfl | rfl <;> simp [List.count_erase_of_ne]

theorem Projects.step {action : Action Message} (holds : Streams (server, history))
    (projects : Projects session (server, history) queue)
    (stepped : server.step action = some next) :
    Follows session queue (next, StreamHistory.observe server action next history) := by
  cases action with
  | main order => exact projects.mainStep holds stepped
  | io initState => exact projects.ioStep stepped
  | handle handler error => exact projects.handle stepped
  | broadcast message =>
      cases main : server.main <;>
        simp only [WebSocketServer.step, main, reduceCtorEq, Option.some.injEq] at stepped
      subst stepped
      exact System.exists_stutter
        (projects.stutter rfl (fun _ _ => rfl) Iff.rfl Iff.rfl rfl rfl)
  | accept =>
      cases io : server.io <;>
        simp only [WebSocketServer.step, io, reduceCtorEq, Option.some.injEq] at stepped
      subst stepped
      exact System.exists_stutter (projects.stutter rfl (fun _ _ => rfl)
        (by simp [io, IoPc.stopping]) (by simp [io, IoPc.completed]) rfl rfl)

/-- Each session of the server behaves as the write queue does. -/
theorem refines_writeQueue (Message : Type) (session : Nat) :
    (streams Message).Refines (WriteQueue.protocol Message)
      fun recorded queue => Streams recorded ∧ Projects session recorded queue where
  init := by
    refine ⟨streams_of_run (rfl : (streams Message).run [] = some _), ?_⟩
    constructor <;> simp [streams, System.withHistory, protocol, WriteQueue.protocol,
      IoPc.completed]
  step := by
    rintro ⟨server, history⟩ queue action ⟨next, later⟩ ⟨holds, projects⟩ stepped
    rcases System.withHistory_step_eq_some.mp stepped with ⟨taken, isLater⟩
    simp only at isLater
    subst isLater
    rcases Projects.step holds projects taken with ⟨schedule, followed, ran, after⟩
    exact ⟨schedule, followed, ran, holds.step taken, after⟩

/--
Each session is sent what the order of `mutex_` says: its own messages when it joins, and
then every broadcast until it leaves. What is missing is about to be sent by the operation
that has `mutex_`, and what has been handed to `async_write` is the beginning of it.
-/
theorem sent_of_run (schedule : List (Action Message))
    (recorded : WebSocketServer Message × StreamHistory Message)
    (ran : (streams Message).run schedule = some recorded) (session : Nat) :
    recorded.2.sent session ++ recorded.1.pending session =
        LogEntry.stream session recorded.2.log ∧
      (recorded.1.Free .mutex → recorded.1.pending session = []) ∧
        recorded.2.handed session <+: (LogEntry.stream session recorded.2.log).map some := by
  have holds := streams_of_run ran
  refine ⟨holds.sent session, pending_of_free, ?_⟩
  rcases (refines_writeQueue Message session).exists_run ran with
    ⟨writes, queue, ranQueue, -, projects⟩
  have invariant : queue.Invariant := System.invariant_of_run WriteQueue.Invariant
    WriteQueue.Invariant.init (fun _ _ _ invariant stepped => invariant.step stepped) ranQueue
  have inOrder := invariant.inOrder.handed_prefix
  rw [projects.handed, projects.sent] at inOrder
  rw [← holds.sent session, List.map_append]
  exact inOrder.trans (List.prefix_append _ _)

/-- Two clients join one after the other, and an update is broadcast to them. -/
def twoClients : List (Action String) :=
  [.accept, .io ["first"]] ++ List.replicate 3 (.io []) ++
    [.accept, .io ["second"]] ++ List.replicate 3 (.io []) ++
    [.broadcast "update", .main [1, 0]] ++ List.replicate 5 (.main []) ++
    [.handle (.doWrite 0) false]

theorem sent_of_run_twoClients :
    ∃ recorded, (streams String).run twoClients = some recorded ∧
      recorded.2.sent 0 ++ recorded.1.pending 0 = ["first", "update"] ∧
        recorded.2.handed 0 <+: [some "first", some "update"] := by
  rcases sent_of_run twoClients _ rfl 0 with ⟨sent, -, handed⟩
  exact ⟨_, rfl, sent, handed⟩

/--
Two clients that are both connected are sent the same messages in the same order as long as
both stay: whatever the threads do, no broadcast passes another one.
-/
theorem same_broadcasts (schedule : List (Action Message))
    (recorded : WebSocketServer Message × StreamHistory Message)
    (ran : (streams Message).run schedule = some recorded)
    (free : recorded.1.Free .mutex) (before after : List (LogEntry Message))
    (split : recorded.2.log = before ++ after) (first second : Nat)
    (connected : LogEntry.isMember first before = true ∧ LogEntry.isMember second before = true)
    (stay : ∀ entry ∈ after, ¬ entry.Concerns first ∧ ¬ entry.Concerns second) :
    recorded.2.sent first = LogEntry.stream first before ++ LogEntry.published after ∧
      recorded.2.sent second = LogEntry.stream second before ++ LogEntry.published after := by
  have sent : ∀ session, recorded.2.sent session =
      LogEntry.stream session (before ++ after) := by
    intro session
    rw [← split, ← (streams_of_run ran).sent session, pending_of_free free, List.append_nil]
  rw [sent, sent]
  exact ⟨LogEntry.stream_append connected.1 fun entry member => (stay entry member).1,
    LogEntry.stream_append connected.2 fun entry member => (stay entry member).2⟩

theorem same_broadcasts_twoClients :
    ∃ recorded, (streams String).run twoClients = some recorded ∧
      recorded.2.sent 0 = ["first"] ++ ["update"] ∧
        recorded.2.sent 1 = ["second"] ++ ["update"] := by
  rcases same_broadcasts twoClients _ rfl (by decide) [.join 0 ["first"], .join 1 ["second"]]
    [.publish "update"] rfl 0 1 (by decide) (by simp [LogEntry.Concerns]) with ⟨first, second⟩
  exact ⟨_, rfl, first, second⟩

end WebSocketServer

end RaspberryPiService
