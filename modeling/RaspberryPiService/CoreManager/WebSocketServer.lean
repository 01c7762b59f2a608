import Mathlib.Data.List.Perm.Basic
import RaspberryPiService.Transition.LockOrder
import RaspberryPiService.Transition.Runs

/-!
# Locks of the WebSocket server

MainWorker broadcasts to all sessions, while the I/O thread lets clients join and leave
and handles their reads and writes. `mutex_` protects the set of sessions, and each
session has a `queue_mutex_` for its messages; neither is recursive. This file models both
threads step by step, with a step for every lock and unlock, and proves when they end up
waiting for each other.

A broadcast takes `mutex_` first and the `queue_mutex_` of every session inside of it, and
so does a session that joins. Only the handler of a completed write takes them the other
way round: after an error it calls `leave` with its `queue_mutex_` held. If a broadcast
holds `mutex_` by then and has not served the session yet, or takes it before `leave`
does, neither thread can go on.

What is sent is left open, also the messages of `sendInitStateToClient`, and a broadcast
may visit the sessions in any order.
-/

namespace RaspberryPiService

structure WebSocketSession (Message : Type) where
  messageQueue : List Message := []
  writing : Bool := false
deriving DecidableEq

/-- What the I/O context still has to run: posted writes, and completions of what was started. -/
inductive IoHandler where
  | doWrite (session : Nat)
  | write (session : Nat)
  | read (session : Nat)
deriving DecidableEq

/-- Where MainWorker is in `updateStateAndBroadcast`. -/
inductive BroadcastPc (Message : Type) where
  | idle
  | updateStateAndBroadcast (message : Message)
  | broadcast (message : Message) (remaining : List Nat)
  | sending (message : Message) (session : Nat) (remaining : List Nat)
deriving DecidableEq

/-- Where the I/O thread is in a handler. -/
inductive IoPc (Message : Type) where
  | idle
  | join (session : Nat)
  | sendInitState (session : Nat) (messages : List Message)
  | sendingInitState (session : Nat) (message : Message) (messages : List Message)
  | leave (session : Nat)
  | left
  | writeCompleted (session : Nat) (error : Bool)
  | completing (session : Nat) (error : Bool)
  | leaveOnError (session : Nat)
  | leftOnError (session : Nat)
  | stopWriting (session : Nat)
deriving DecidableEq

/-- `mutex_`, and the `queue_mutex_` of each session. -/
inductive ServerLock where
  | mutex
  | queueMutex (session : Nat)
deriving DecidableEq

inductive ServerThread where
  | mainWorker
  | io
deriving DecidableEq

/-- Sessions are numbered in the order in which they are accepted. -/
structure WebSocketServer (Message : Type) where
  sessions : List Nat := []
  accepted : Nat := 0
  session : Nat → WebSocketSession Message := fun _ => {}
  handlers : List IoHandler := []
  main : BroadcastPc Message := .idle
  io : IoPc Message := .idle

namespace BroadcastPc

variable {Message : Type}

def held : BroadcastPc Message → List ServerLock
  | idle | updateStateAndBroadcast _ => []
  | broadcast _ _ => [.mutex]
  | sending _ session _ => [.mutex, .queueMutex session]

def wanted : BroadcastPc Message → Option ServerLock
  | updateStateAndBroadcast _ => some .mutex
  | broadcast _ (session :: _) => some (.queueMutex session)
  | idle | broadcast _ [] | sending _ _ _ => none

/-- The sessions that the broadcast has not come to yet. -/
def unserved : BroadcastPc Message → List Nat
  | broadcast _ remaining | sending _ _ remaining => remaining
  | idle | updateStateAndBroadcast _ => []

end BroadcastPc

namespace IoPc

variable {Message : Type}

def held : IoPc Message → List ServerLock
  | idle | join _ | leave _ | writeCompleted _ _ => []
  | sendInitState _ _ | left => [.mutex]
  | sendingInitState session _ _ => [.mutex, .queueMutex session]
  | completing session _ | leaveOnError session | stopWriting session => [.queueMutex session]
  | leftOnError session => [.queueMutex session, .mutex]

def wanted : IoPc Message → Option ServerLock
  | join _ | leave _ | leaveOnError _ => some .mutex
  | sendInitState session (_ :: _) | writeCompleted session _ => some (.queueMutex session)
  | idle | sendInitState _ [] | sendingInitState _ _ _ | left | completing _ _ | leftOnError _
  | stopWriting _ => none

/-- The session whose write has failed, before its `queue_mutex_` is taken. -/
def failed : IoPc Message → Option Nat
  | writeCompleted session true => some session
  | _ => none

/-- The session that is about to leave after a failed write, with its `queue_mutex_` held. -/
def failing : IoPc Message → Option Nat
  | completing session true | leaveOnError session => some session
  | _ => none

end IoPc

namespace WebSocketServer

variable {Message : Type}

def held (server : WebSocketServer Message) : ServerThread → List ServerLock
  | .mainWorker => server.main.held
  | .io => server.io.held

def wanted (server : WebSocketServer Message) : ServerThread → Option ServerLock
  | .mainWorker => server.main.wanted
  | .io => server.io.wanted

def locking (server : WebSocketServer Message) : Locking ServerThread ServerLock where
  holds thread lock := lock ∈ server.held thread
  wants := server.wanted

/-- Nobody holds the lock, not even the thread that wants it. -/
def Free (server : WebSocketServer Message) (lock : ServerLock) : Prop :=
  lock ∉ server.main.held ∧ lock ∉ server.io.held

instance (server : WebSocketServer Message) (lock : ServerLock) : Decidable (server.Free lock) :=
  inferInstanceAs (Decidable (_ ∧ _))

/-- `WebSocketSession::send` inside the lock; writing is started if it is not going on. -/
def send (server : WebSocketServer Message) (session : Nat) (message : Message) :
    WebSocketServer Message :=
  { server with
    session := Function.update server.session session
      { messageQueue := (server.session session).messageQueue ++ [message], writing := true }
    handlers :=
      if (server.session session).writing then server.handlers
      else server.handlers ++ [.doWrite session] }

/-- The completion of a write inside the lock: the message is popped, and the next one posted. -/
def popMessage (server : WebSocketServer Message) (session : Nat) : WebSocketServer Message :=
  { server with
    session := Function.update server.session session
      { server.session session with
        messageQueue := (server.session session).messageQueue.tail } }

def stopWriting (server : WebSocketServer Message) (session : Nat) : WebSocketServer Message :=
  { server with
    session := Function.update server.session session
      { server.session session with writing := false } }

def writeNext (server : WebSocketServer Message) (session : Nat) : WebSocketServer Message :=
  if (server.session session).messageQueue = [] then server.stopWriting session
  else { server with handlers := server.handlers ++ [.doWrite session] }

inductive Action (Message : Type) where
  | broadcast (message : Message)
  | main (order : List Nat)
  | accept
  | handle (handler : IoHandler) (error : Bool)
  | io (initState : List Message)
deriving DecidableEq

/-- The next step of MainWorker; `order` is the order in which the sessions are visited. -/
def mainStep (server : WebSocketServer Message) (order : List Nat) :
    Option (WebSocketServer Message) :=
  match server.main with
  | .idle => none
  | .updateStateAndBroadcast message =>
      if server.Free .mutex ∧ order.Perm server.sessions then
        some { server with main := .broadcast message order }
      else none
  | .broadcast _ [] => some { server with main := .idle }
  | .broadcast message (session :: remaining) =>
      if server.Free (.queueMutex session) then
        some { server with main := .sending message session remaining }
      else none
  | .sending message session remaining =>
      some { server.send session message with main := .broadcast message remaining }

/-- The next step of the I/O thread; `initState` is what a session that joins is sent. -/
def ioStep (server : WebSocketServer Message) (initState : List Message) :
    Option (WebSocketServer Message) :=
  match server.io with
  | .idle => none
  | .join session =>
      if server.Free .mutex then
        some { server with
          sessions := server.sessions.insert session
          io := .sendInitState session initState }
      else none
  | .sendInitState session [] =>
      some { server with handlers := server.handlers ++ [.read session], io := .idle }
  | .sendInitState session (message :: messages) =>
      if server.Free (.queueMutex session) then
        some { server with io := .sendingInitState session message messages }
      else none
  | .sendingInitState session message messages =>
      some { server.send session message with io := .sendInitState session messages }
  | .leave session =>
      if server.Free .mutex then
        some { server with sessions := server.sessions.filter (· ≠ session), io := .left }
      else none
  | .left => some { server with io := .idle }
  | .writeCompleted session error =>
      if server.Free (.queueMutex session) then
        some { server with io := .completing session error }
      else none
  | .completing session true =>
      some { server.popMessage session with io := .leaveOnError session }
  | .completing session false =>
      some { (server.popMessage session).writeNext session with io := .idle }
  | .leaveOnError session =>
      if server.Free .mutex then
        some { server with
          sessions := server.sessions.filter (· ≠ session)
          io := .leftOnError session }
      else none
  | .leftOnError session => some { server with io := .stopWriting session }
  | .stopWriting session => some { server.stopWriting session with io := .idle }

def step (server : WebSocketServer Message) :
    Action Message → Option (WebSocketServer Message)
  | .broadcast message =>
      match server.main with
      | .idle => some { server with main := .updateStateAndBroadcast message }
      | _ => none
  | .main order => server.mainStep order
  | .accept =>
      match server.io with
      | .idle =>
          some { server with accepted := server.accepted + 1, io := .join server.accepted }
      | _ => none
  | .handle handler error =>
      match server.io with
      | .idle =>
          if handler ∈ server.handlers then
            match handler with
            | .doWrite session =>
                some { server with handlers := server.handlers.erase handler ++ [.write session] }
            | .write session =>
                some { server with
                  handlers := server.handlers.erase handler
                  io := .writeCompleted session error }
            | .read session =>
                if error then
                  some { server with
                    handlers := server.handlers.erase handler
                    io := .leave session }
                else some server
          else none
      | _ => none
  | .io initState => server.ioStep initState

def protocol (Message : Type) : System (WebSocketServer Message) (Action Message) where
  init := {}
  step := step

/-- The threads cannot both go on: a broadcast is to serve the session that is leaving. -/
def Doomed (server : WebSocketServer Message) : Prop :=
  ∃ session ∈ server.io.failing, session ∈ server.main.unserved

/--
A write that failed does not take its `queue_mutex_` before a broadcast that goes on has
served the session, and no broadcast begins before the session has left.
-/
def Separate (server : WebSocketServer Message) : Action Message → Prop
  | .main _ => server.main.wanted = some .mutex →
      ∀ session ∈ server.io.failing, session ∉ server.sessions
  | .io _ => ∀ session ∈ server.io.failed, session ∉ server.main.unserved
  | .broadcast _ | .accept | .handle _ _ => True

instance (server : WebSocketServer Message) :
    (action : Action Message) → Decidable (server.Separate action)
  | .main _ => inferInstanceAs (Decidable (_ → ∀ session ∈ server.io.failing, _))
  | .io _ => inferInstanceAs (Decidable (∀ session ∈ server.io.failed, _))
  | .broadcast _ | .accept | .handle _ _ => isTrue trivial

variable {server next : WebSocketServer Message}

/-- Outside of a failed write, both threads take `mutex_` before any `queue_mutex_`. -/
def rank : ServerLock → Nat
  | .mutex => 0
  | .queueMutex _ => 1

theorem ordered_mainWorker {wanted held : ServerLock} (wants : server.main.wanted = some wanted)
    (holds : held ∈ server.main.held) : rank held < rank wanted := by
  cases main : server.main with
  | idle | sending => simp [main, BroadcastPc.wanted] at wants
  | updateStateAndBroadcast => simp [main, BroadcastPc.held] at holds
  | broadcast message remaining =>
      cases remaining with
      | nil => simp [main, BroadcastPc.wanted] at wants
      | cons session remaining =>
          simp only [main, BroadcastPc.wanted, BroadcastPc.held, Option.some.injEq,
            List.mem_singleton] at wants holds
          subst wants holds
          exact Nat.zero_lt_one

theorem ordered_io (noFailure : ∀ session, server.io ≠ .leaveOnError session)
    {wanted held : ServerLock} (wants : server.io.wanted = some wanted)
    (holds : held ∈ server.io.held) : rank held < rank wanted := by
  cases io : server.io with
  | idle | sendingInitState | left | completing | leftOnError | stopWriting =>
      simp [io, IoPc.wanted] at wants
  | join | leave | writeCompleted => simp [io, IoPc.held] at holds
  | leaveOnError session => exact absurd io (noFailure session)
  | sendInitState session messages =>
      cases messages with
      | nil => simp [io, IoPc.wanted] at wants
      | cons message messages =>
          simp only [io, IoPc.wanted, IoPc.held, Option.some.injEq, List.mem_singleton]
            at wants holds
          subst wants holds
          exact Nat.zero_lt_one

theorem locking_ordered (noFailure : ∀ session, server.io ≠ .leaveOnError session) :
    server.locking.Ordered rank := by
  intro thread wanted held wants holds
  cases thread with
  | mainWorker => exact ordered_mainWorker wants holds
  | io => exact ordered_io noFailure wants holds

/-- Both threads wait for each other only around a failed write. -/
theorem doomed_of_deadlocked {threads : Set ServerThread}
    (deadlocked : server.locking.Deadlocked threads) : server.Doomed := by
  have finite : threads.Finite :=
    Set.Finite.subset (Set.toFinite {.mainWorker, .io}) fun thread _ => by cases thread <;> simp
  have failing : ∃ session, server.io = .leaveOnError session := by
    by_contra none
    exact Locking.not_deadlocked_of_ordered (locking_ordered (by simpa using none)) finite
      deadlocked
  rcases failing with ⟨session, io⟩
  refine ⟨session, by simp [io, IoPc.failing], ?_⟩
  rcases deadlocked with ⟨⟨first, isFirst⟩, waits⟩
  have ioWaits : ServerThread.io ∈ threads → ServerThread.mainWorker ∈ threads := by
    intro isMember
    rcases waits .io isMember with ⟨other, isOther, differs, -⟩
    cases other with
    | mainWorker => exact isOther
    | io => exact absurd rfl differs
  have isMain : ServerThread.mainWorker ∈ threads := by
    cases first with
    | mainWorker => exact isFirst
    | io => exact ioWaits isFirst
  rcases waits .mainWorker isMain with ⟨other, -, differs, lock, wants, holds⟩
  cases other with
  | mainWorker => exact absurd rfl differs
  | io =>
      simp only [locking, held, io, IoPc.held, List.mem_singleton] at holds
      subst holds
      cases main : server.main with
      | idle | updateStateAndBroadcast | sending =>
          simp [locking, WebSocketServer.wanted, main, BroadcastPc.wanted] at wants
      | broadcast message remaining =>
          cases remaining with
          | nil => simp [locking, WebSocketServer.wanted, main, BroadcastPc.wanted] at wants
          | cons next remaining =>
              simp only [locking, WebSocketServer.wanted, main, BroadcastPc.wanted,
                Option.some.injEq, ServerLock.queueMutex.injEq] at wants
              simp [BroadcastPc.unserved, wants]

/-- A broadcast holds `mutex_` until it has served every session. -/
theorem mutex_mem_held {session : Nat} (unserved : session ∈ server.main.unserved) :
    .mutex ∈ server.main.held := by
  cases main : server.main <;> simp_all [BroadcastPc.unserved, BroadcastPc.held]

theorem queueMutex_mem_held {session : Nat} (failing : server.io.failing = some session) :
    .queueMutex session ∈ server.io.held := by
  cases io : server.io with
  | completing completing error =>
      cases error <;> simp_all [IoPc.failing, IoPc.held]
  | leaveOnError => simp_all [IoPc.failing, IoPc.held]
  | idle | join | sendInitState | sendingInitState | leave | left | writeCompleted | leftOnError
  | stopWriting => simp [io, IoPc.failing] at failing

/-- MainWorker begins to serve all sessions, goes on to the next one, or finishes with one. -/
theorem mainStep_cases {order : List Nat} (stepped : server.mainStep order = some next) :
    next.io = server.io ∧
      ((server.main.wanted = some .mutex ∧ server.main.unserved = [] ∧
          next.main.unserved.Perm server.sessions) ∨
        (∃ session, server.main.wanted = some (.queueMutex session) ∧
          server.main.unserved = session :: next.main.unserved ∧
            server.Free (.queueMutex session)) ∨
        server.main.wanted ≠ some .mutex ∧ next.main.unserved = server.main.unserved) := by
  unfold mainStep at stepped
  cases main : server.main with
  | idle => simp [main] at stepped
  | updateStateAndBroadcast message =>
      simp only [main, Option.ite_none_right_eq_some, Option.some.injEq] at stepped
      rcases stepped with ⟨⟨-, perm⟩, rfl⟩
      exact ⟨rfl, Or.inl ⟨rfl, rfl, perm⟩⟩
  | sending message session remaining =>
      simp only [main, Option.some.injEq] at stepped
      subst stepped
      exact ⟨rfl, Or.inr (Or.inr ⟨by simp [BroadcastPc.wanted], rfl⟩)⟩
  | broadcast message remaining =>
      cases remaining with
      | nil =>
          simp only [main, Option.some.injEq] at stepped
          subst stepped
          exact ⟨rfl, Or.inr (Or.inr ⟨by simp [BroadcastPc.wanted], rfl⟩)⟩
      | cons session remaining =>
          simp only [main, Option.ite_none_right_eq_some, Option.some.injEq] at stepped
          rcases stepped with ⟨free, rfl⟩
          exact ⟨rfl, Or.inr (Or.inl ⟨session, rfl, rfl, free⟩)⟩

/-- A session starts to fail, goes on to, or leaves, for which `mutex_` has to be free. -/
theorem ioStep_cases {initState : List Message} (stepped : server.ioStep initState = some next) :
    next.main = server.main ∧
      ((∃ session, server.io.failed = some session ∧ server.io.failing = none ∧
          next.io.failing = some session) ∨
        (server.io.failed = none ∧ next.io.failing = server.io.failing) ∨
        server.io.failed = none ∧ next.io.failing = none ∧ server.Free .mutex) := by
  unfold ioStep at stepped
  cases io : server.io with
  | idle => simp [io] at stepped
  | join | leave =>
      simp only [io, Option.ite_none_right_eq_some, Option.some.injEq] at stepped
      rcases stepped with ⟨-, rfl⟩
      exact ⟨rfl, Or.inr (Or.inl ⟨rfl, rfl⟩)⟩
  | sendInitState session messages =>
      cases messages with
      | nil =>
          simp only [io, Option.some.injEq] at stepped
          subst stepped
          exact ⟨rfl, Or.inr (Or.inl ⟨rfl, rfl⟩)⟩
      | cons message messages =>
          simp only [io, Option.ite_none_right_eq_some, Option.some.injEq] at stepped
          rcases stepped with ⟨-, rfl⟩
          exact ⟨rfl, Or.inr (Or.inl ⟨rfl, rfl⟩)⟩
  | sendingInitState | left | leftOnError | stopWriting =>
      simp only [io, Option.some.injEq] at stepped
      subst stepped
      exact ⟨rfl, Or.inr (Or.inl ⟨rfl, rfl⟩)⟩
  | writeCompleted session error =>
      simp only [io, Option.ite_none_right_eq_some, Option.some.injEq] at stepped
      rcases stepped with ⟨-, rfl⟩
      cases error with
      | true => exact ⟨rfl, Or.inl ⟨session, rfl, rfl, rfl⟩⟩
      | false => exact ⟨rfl, Or.inr (Or.inl ⟨rfl, rfl⟩)⟩
  | completing session error =>
      cases error with
      | true =>
          simp only [io, Option.some.injEq] at stepped
          subst stepped
          exact ⟨rfl, Or.inr (Or.inl ⟨rfl, rfl⟩)⟩
      | false =>
          simp only [io, Option.some.injEq] at stepped
          subst stepped
          refine ⟨?_, Or.inr (Or.inl ⟨rfl, rfl⟩)⟩
          simp only [writeNext]
          split <;> rfl
  | leaveOnError session =>
      simp only [io, Option.ite_none_right_eq_some, Option.some.injEq] at stepped
      rcases stepped with ⟨free, rfl⟩
      exact ⟨rfl, Or.inr (Or.inr ⟨rfl, rfl, free⟩)⟩

/-- The begin of an operation concerns neither a broadcast nor a failed write that goes on. -/
theorem begin_cases {action : Action Message} (stepped : server.step action = some next) :
    (∃ order, action = .main order ∧ server.mainStep order = some next) ∨
      (∃ initState, action = .io initState ∧ server.ioStep initState = some next) ∨
      server.Separate action ∧ next.main.unserved = server.main.unserved ∧
        next.io.failing = server.io.failing := by
  cases action with
  | main order => exact Or.inl ⟨order, rfl, stepped⟩
  | io initState => exact Or.inr (Or.inl ⟨initState, rfl, stepped⟩)
  | broadcast message =>
      refine Or.inr (Or.inr ⟨trivial, ?_⟩)
      cases main : server.main <;>
        simp only [step, main, reduceCtorEq, Option.some.injEq] at stepped
      subst stepped
      exact ⟨rfl, rfl⟩
  | accept =>
      refine Or.inr (Or.inr ⟨trivial, ?_⟩)
      cases io : server.io <;> simp only [step, io, reduceCtorEq, Option.some.injEq] at stepped
      subst stepped
      exact ⟨rfl, rfl⟩
  | handle handler error =>
      refine Or.inr (Or.inr ⟨trivial, ?_⟩)
      cases io : server.io <;>
        simp only [step, io, reduceCtorEq, Option.ite_none_right_eq_some] at stepped
      rcases stepped with ⟨-, stepped⟩
      cases handler with
      | doWrite session =>
          cases stepped
          simp
      | write session =>
          cases stepped
          exact ⟨rfl, rfl⟩
      | read session =>
          cases error <;> cases stepped
          · simp [io]
          · exact ⟨rfl, rfl⟩

theorem not_doomed_step {action : Action Message} (sound : ¬ server.Doomed)
    (separate : server.Separate action) (stepped : server.step action = some next) :
    ¬ next.Doomed := by
  rintro ⟨session, failing, unserved⟩
  rcases begin_cases stepped with ⟨order, rfl, stepped⟩ | ⟨initState, rfl, stepped⟩ |
      ⟨-, sameMain, sameIo⟩
  · rcases mainStep_cases stepped with ⟨sameIo, ⟨wants, -, perm⟩ | ⟨served, -, head, -⟩ | ⟨-, same⟩⟩
    · rw [sameIo] at failing
      exact separate wants session failing (perm.mem_iff.mp unserved)
    · exact sound ⟨session, sameIo ▸ failing, head ▸ List.mem_cons_of_mem _ unserved⟩
    · exact sound ⟨session, sameIo ▸ failing, same ▸ unserved⟩
  · rcases ioStep_cases stepped with ⟨sameMain, ⟨failed, isFailed, -, fails⟩ | ⟨-, same⟩ |
        ⟨-, none, -⟩⟩
    · obtain rfl : failed = session := Option.some.inj (fails.symm.trans failing)
      exact separate failed isFailed (sameMain ▸ unserved)
    · exact sound ⟨session, same ▸ failing, sameMain ▸ unserved⟩
    · simp [none] at failing
  · exact sound ⟨session, sameIo ▸ failing, sameMain ▸ unserved⟩

/-- A step that is not separate leads to a state in which neither thread can finish. -/
theorem doomed_of_not_separate {action : Action Message} (together : ¬ server.Separate action)
    (stepped : server.step action = some next) : next.Doomed := by
  rcases begin_cases stepped with ⟨order, rfl, stepped⟩ | ⟨initState, rfl, stepped⟩ |
      ⟨separate, -⟩
  · simp only [Separate, Classical.not_imp, not_forall, not_not] at together
    rcases together with ⟨wants, session, failing, member⟩
    rcases mainStep_cases stepped with ⟨sameIo, ⟨-, -, perm⟩ | ⟨served, other, -⟩ | ⟨other, -⟩⟩
    · exact ⟨session, sameIo.symm ▸ failing, perm.mem_iff.mpr member⟩
    · simp [other] at wants
    · exact absurd wants other
  · simp only [Separate, not_forall, not_not] at together
    rcases together with ⟨session, isFailed, unserved⟩
    rcases ioStep_cases stepped with ⟨sameMain, ⟨failed, alsoFailed, -, fails⟩ | ⟨none, -⟩ |
        ⟨none, -⟩⟩
    · obtain rfl : failed = session := Option.some.inj (alsoFailed.symm.trans isFailed)
      exact ⟨failed, fails, sameMain.symm ▸ unserved⟩
    · simp [none] at isFailed
    · simp [none] at isFailed
  · exact absurd separate together

/-- The broadcast keeps `mutex_` and the failed write its `queue_mutex_`. -/
theorem doomed_step {action : Action Message} (doomed : server.Doomed)
    (stepped : server.step action = some next) : next.Doomed := by
  rcases doomed with ⟨session, failing, unserved⟩
  have holdsMutex := mutex_mem_held unserved
  rcases begin_cases stepped with ⟨order, rfl, stepped⟩ | ⟨initState, rfl, stepped⟩ |
      ⟨-, sameMain, sameIo⟩
  · rcases mainStep_cases stepped with ⟨sameIo, ⟨-, none, -⟩ | ⟨served, -, head, free⟩ | ⟨-, same⟩⟩
    · simp [none] at unserved
    · refine ⟨session, sameIo.symm ▸ failing, ?_⟩
      rcases List.mem_cons.mp (head ▸ unserved) with rfl | later
      · exact absurd (queueMutex_mem_held failing) free.2
      · exact later
    · exact ⟨session, sameIo.symm ▸ failing, same.symm ▸ unserved⟩
  · rcases ioStep_cases stepped with ⟨sameMain, ⟨failed, -, none, -⟩ | ⟨-, same⟩ | ⟨-, -, free⟩⟩
    · simp [none] at failing
    · exact ⟨session, same.symm ▸ failing, sameMain.symm ▸ unserved⟩
    · exact absurd holdsMutex free.1
  · exact ⟨session, sameIo.symm ▸ failing, sameMain.symm ▸ unserved⟩

theorem separate_iff_not_doomed {schedule : List (Action Message)}
    (ran : (protocol Message).run schedule = some server) :
    (protocol Message).Along Separate schedule ↔ ¬ server.Doomed :=
  System.along_iff_not_damaged (fun server => ¬ server.Doomed) Doomed
    (by simp [protocol, Doomed, IoPc.failing])
    (fun _ _ _ sound separate stepped => not_doomed_step sound separate stepped)
    (fun _ sound => sound)
    (fun _ _ _ _ together stepped => doomed_of_not_separate together stepped)
    (fun _ _ _ doomed stepped => doomed_step doomed stepped) ran

/-- Threads of the server wait for each other. -/
def Deadlock (server : WebSocketServer Message) : Prop :=
  ∃ threads, server.locking.Deadlocked threads

theorem deadlock_of_waiting {message : Message} {session : Nat} {remaining : List Nat}
    (main : server.main = .broadcast message (session :: remaining))
    (io : server.io = .leaveOnError session) : server.Deadlock := by
  refine ⟨{.mainWorker, .io}, Locking.deadlocked_pair ?_ ?_⟩
  · refine ⟨by decide, .queueMutex session, ?_, ?_⟩
    · simp [locking, wanted, main, BroadcastPc.wanted]
    · simp [locking, held, io, IoPc.held]
  · refine ⟨by decide, .mutex, ?_, ?_⟩
    · simp [locking, wanted, io, IoPc.wanted]
    · simp [locking, held, main, BroadcastPc.held]

/-- The broadcast comes to the session that is leaving. -/
theorem canReach_deadlock_of_broadcast {message : Message} {session : Nat}
    {remaining : List Nat} (main : server.main = .broadcast message remaining)
    (io : server.io = .leaveOnError session) (unserved : session ∈ remaining) :
    (protocol Message).CanReach (fun _ => True) Deadlock server := by
  induction remaining generalizing server with
  | nil => simp at unserved
  | cons first remaining ih =>
      by_cases same : first = session
      · subst same
        exact System.canReach_of_holds (deadlock_of_waiting main io)
      · have later : session ∈ remaining := by simpa [Ne.symm same] using unserved
        have free : server.Free (.queueMutex first) := by
          simp [Free, main, io, BroadcastPc.held, IoPc.held, same]
        have locked : (protocol Message).step server (.main []) =
            some { server with main := .sending message first remaining } := by
          simp [protocol, step, mainStep, main, free]
        refine System.canReach_of_step trivial locked ?_
        have sent : (protocol Message).step
            { server with main := .sending message first remaining } (.main []) =
              some { server.send first message with main := .broadcast message remaining } := rfl
        exact System.canReach_of_step trivial sent (ih rfl io later)

theorem canReach_deadlock_of_leaving {session : Nat} (io : server.io = .leaveOnError session)
    (unserved : session ∈ server.main.unserved) :
    (protocol Message).CanReach (fun _ => True) Deadlock server := by
  cases main : server.main with
  | idle | updateStateAndBroadcast => simp [main, BroadcastPc.unserved] at unserved
  | broadcast message remaining =>
      exact canReach_deadlock_of_broadcast main io
        (by simpa [main, BroadcastPc.unserved] using unserved)
  | sending message current remaining =>
      have sent : (protocol Message).step server (.main []) =
          some { server.send current message with main := .broadcast message remaining } := by
        simp [protocol, step, mainStep, main]
      apply System.canReach_of_step trivial sent
      exact canReach_deadlock_of_broadcast rfl io
        (by simpa [main, BroadcastPc.unserved] using unserved)

theorem canReach_deadlock_of_doomed (doomed : server.Doomed) :
    (protocol Message).CanReach (fun _ => True) Deadlock server := by
  rcases doomed with ⟨session, failing, unserved⟩
  cases io : server.io with
  | leaveOnError failed =>
      obtain rfl : failed = session := by simpa [io, IoPc.failing] using failing
      exact canReach_deadlock_of_leaving io unserved
  | completing failed error =>
      cases error with
      | false => simp [io, IoPc.failing] at failing
      | true =>
          obtain rfl : failed = session := by simpa [io, IoPc.failing] using failing
          have popped : (protocol Message).step server (.io []) =
              some { server.popMessage failed with io := .leaveOnError failed } := by
            simp [protocol, step, ioStep, io]
          exact System.canReach_of_step trivial popped (canReach_deadlock_of_leaving rfl unserved)
  | idle | join | sendInitState | sendingInitState | leave | left | writeCompleted | leftOnError
  | stopWriting => simp [io, IoPc.failing] at failing

/--
A run in which failed writes and broadcasts stay separate never has threads waiting for
each other, and any other run can go on until they do.
-/
theorem not_deadlock_iff_separate {schedule : List (Action Message)}
    (ran : (protocol Message).run schedule = some server) :
    ((protocol Message).Along Separate schedule → ¬ server.Deadlock) ∧
      (¬ (protocol Message).Along Separate schedule →
        (protocol Message).CanReach (fun _ => True) Deadlock server) := by
  constructor
  · rintro along ⟨threads, deadlocked⟩
    exact (separate_iff_not_doomed ran).mp along (doomed_of_deadlocked deadlocked)
  · intro together
    apply canReach_deadlock_of_doomed
    by_contra sound
    exact together ((separate_iff_not_doomed ran).mpr sound)

/-- A client joins, is sent a broadcast, and leaves because its write fails. -/
def leavesAfterFailedWrite : List (Action String) :=
  [.accept, .io ["temperature", "record", "settings"]] ++ List.replicate 7 (.io []) ++
    [.handle (.doWrite 0) false, .broadcast "update", .main [0], .main [], .main [], .main [],
      .handle (.write 0) true] ++ List.replicate 5 (.io [])

theorem not_deadlock_leavesAfterFailedWrite :
    ∃ server, (protocol String).run leavesAfterFailedWrite = some server ∧
      server.sessions = [] ∧ ¬ server.Deadlock := by
  have observed : ((protocol String).run leavesAfterFailedWrite).map
      (fun server => server.sessions) = some [] := by decide
  rcases Option.map_eq_some_iff.mp observed with ⟨server, ran, left⟩
  exact ⟨server, ran, left, (not_deadlock_iff_separate ran).1 (by decide)⟩

/-- A client's write fails, and before the client has left, a broadcast begins. -/
def broadcastDuringFailedWrite : List (Action String) :=
  [.accept, .io ["temperature", "record", "settings"]] ++ List.replicate 7 (.io []) ++
    [.handle (.doWrite 0) false, .handle (.write 0) true, .io [], .io [], .broadcast "update",
      .main [0]]

/-- MainWorker waits for the session's messages, and the I/O thread for the set of sessions. -/
theorem not_deadlockFree_broadcastDuringFailedWrite :
    ¬ ∀ (schedule : List (Action String)) (server : WebSocketServer String),
      (protocol String).run schedule = some server → ¬ server.Deadlock := by
  intro deadlockFree
  have observed : ((protocol String).run broadcastDuringFailedWrite).map
      (fun server => (server.main, server.io)) =
        some (.broadcast "update" [0], .leaveOnError 0) := by decide
  rcases Option.map_eq_some_iff.mp observed with ⟨server, ran, observed⟩
  simp only [Prod.mk.injEq] at observed
  exact deadlockFree _ server ran (deadlock_of_waiting observed.1 observed.2)

end WebSocketServer

end RaspberryPiService
