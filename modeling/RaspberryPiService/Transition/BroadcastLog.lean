import Mathlib.Data.List.Basic

/-!
# What the members of a group are sent

Messages are published to a group. Members join it, each with messages of its own, and
leave it. The order of all that determines what every member is sent.
-/

universe u

/-- What happens to the group. -/
inductive LogEntry (Message : Type u) where
  | publish (message : Message)
  | join (member : Nat) (messages : List Message)
  | leave (member : Nat)
deriving DecidableEq

namespace LogEntry

variable {Message : Type u}

/-- Whether somebody is in the group, and what it has been sent. -/
def receive (member : Nat) (known : Bool × List Message) : LogEntry Message → Bool × List Message
  | publish message => (known.1, if known.1 then known.2 ++ [message] else known.2)
  | join joining messages => if joining = member then (true, known.2 ++ messages) else known
  | leave leaving => if leaving = member then (false, known.2) else known

def receiveAll (member : Nat) (log : List (LogEntry Message)) : Bool × List Message :=
  log.foldl (receive member) (false, [])

def isMember (member : Nat) (log : List (LogEntry Message)) : Bool :=
  (receiveAll member log).1

/-- What a member is sent, from its first message on. -/
def stream (member : Nat) (log : List (LogEntry Message)) : List Message :=
  (receiveAll member log).2

/-- The messages that are published. -/
def published (log : List (LogEntry Message)) : List Message :=
  log.filterMap fun
    | publish message => some message
    | join _ _ | leave _ => none

/-- It neither joins nor leaves. -/
def Concerns (member : Nat) : LogEntry Message → Prop
  | publish _ => False
  | join joining _ => joining = member
  | leave leaving => leaving = member

variable (member : Nat) (log : List (LogEntry Message))

theorem receiveAll_concat (entry : LogEntry Message) :
    receiveAll member (log ++ [entry]) = receive member (receiveAll member log) entry := by
  rw [receiveAll, List.foldl_append]
  rfl

@[simp] theorem isMember_publish (message : Message) :
    isMember member (log ++ [publish message]) = isMember member log := by
  rw [isMember, receiveAll_concat]
  rfl

@[simp] theorem stream_publish (message : Message) :
    stream member (log ++ [publish message]) =
      stream member log ++ if isMember member log then [message] else [] := by
  rw [stream, receiveAll_concat]
  simp only [receive, isMember, stream]
  split <;> simp_all

@[simp] theorem isMember_join (joining : Nat) (messages : List Message) :
    isMember member (log ++ [join joining messages]) =
      (isMember member log || joining = member) := by
  rw [isMember, receiveAll_concat]
  simp only [receive, isMember]
  split <;> simp_all

@[simp] theorem stream_join (joining : Nat) (messages : List Message) :
    stream member (log ++ [join joining messages]) =
      stream member log ++ if joining = member then messages else [] := by
  rw [stream, receiveAll_concat]
  simp only [receive, stream]
  split <;> simp

@[simp] theorem isMember_leave (leaving : Nat) :
    isMember member (log ++ [leave leaving]) =
      (isMember member log && leaving ≠ member) := by
  rw [isMember, receiveAll_concat]
  simp only [receive, isMember]
  split <;> simp_all

@[simp] theorem stream_leave (leaving : Nat) :
    stream member (log ++ [leave leaving]) = stream member log := by
  rw [stream, receiveAll_concat]
  simp only [receive, stream]
  split <;> rfl

variable {member log}

/-- A member that stays is sent what is published, and nothing else. -/
theorem stream_append {later : List (LogEntry Message)} (inside : isMember member log = true)
    (stays : ∀ entry ∈ later, ¬ entry.Concerns member) :
    stream member (log ++ later) = stream member log ++ published later := by
  suffices main : isMember member (log ++ later) = true ∧
      stream member (log ++ later) = stream member log ++ published later from main.2
  induction later generalizing log with
  | nil => exact ⟨by rwa [List.append_nil], by simp [published]⟩
  | cons entry later ih =>
      have unconcerned := stays entry List.mem_cons_self
      have rest : ∀ entry ∈ later, ¬ entry.Concerns member :=
        fun other isLater => stays other (List.mem_cons_of_mem entry isLater)
      rw [List.append_cons]
      cases entry with
      | publish message =>
          have further := @ih (log ++ [publish message]) (by simpa using inside) rest
          simpa [published, inside] using further
      | join joining messages =>
          have other : joining ≠ member := unconcerned
          have further := @ih (log ++ [join joining messages]) (by simp [inside]) rest
          simpa [published, other] using further
      | leave leaving =>
          have other : leaving ≠ member := unconcerned
          have further := @ih (log ++ [leave leaving]) (by simp [inside, other]) rest
          simpa [published] using further

end LogEntry
