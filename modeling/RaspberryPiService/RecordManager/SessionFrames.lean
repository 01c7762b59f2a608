import Mathlib.Data.List.Induction
import Mathlib.Data.Nat.Basic
import Mathlib.Order.Basic
import RaspberryPiService.RecordManager.Sessions

/-!
# When recording sessions do not merge

The worker keeps one buffer and samples `state_` between blocking reads. A stop
followed by a start before the next sample is invisible to it: frames captured for the
second start go into the buffer of the first session, which never ends on its own.

Frames belong to the latest accepted start at the time they are captured. As long as a
start is stored only when every stop so far has been seen, by a terminated session or
at least by a worker that has left the capture loop, the session in progress is the
one of the latest accepted start wherever a frame can be captured. So the buffer holds
the frames of this session in order, and earlier stopped sessions have been terminated.
-/

namespace RaspberryPiService

namespace ThreadPc

/-- The session may still capture frames. -/
def mayCapture : ThreadPc → Bool
  | .woken | .clearBuffer | .initAlsa | .notifyStarted => true
  | .captureTest | .durationTest | .captureOnce => true
  | _ => false

/-- The session will not capture any more, and its last notification is still to be sent. -/
def leftLoop (pc : ThreadPc) : Bool :=
  pc.ending || pc == .notifyInitFailed

/-- The buffer holds the frames of the session in progress. -/
def holdsFrames : ThreadPc → Bool
  | .initAlsa | .notifyStarted | .captureTest | .durationTest | .captureOnce => true
  | .endTest false | .saveWavFile => true
  | _ => false

end ThreadPc

namespace SessionEvent

def frames (start : Nat) : SessionEvent → List Int16
  | .captured owner samples => if owner = start then samples else []
  | _ => []

/-- Neither a stop, nor a capture, nor the end of a session. -/
def neutral : SessionEvent → Bool
  | .stopped _ | .captured _ _ | .terminated _ => false
  | _ => true

end SessionEvent

/-- The frames captured for a start, in capture order. -/
def framesOf (start : Nat) (events : List SessionEvent) : List Int16 :=
  events.flatMap (SessionEvent.frames start)

@[simp] theorem framesOf_append (start : Nat) (events extra : List SessionEvent) :
    framesOf start (events ++ extra) = framesOf start events ++ framesOf start extra := by
  simp [framesOf]

theorem framesOf_eq_nil {start : Nat} {events : List SessionEvent}
    (none : ∀ event ∈ events, event.frames start = []) : framesOf start events = [] := by
  simpa [framesOf] using none

/-- When a frame is captured, every stop of an earlier start has been answered. -/
def StopsEndFirst (events : List SessionEvent) : Prop :=
  ∀ before start samples, before ++ [.captured start samples] <+: events →
    ∀ earlier < start, .stopped earlier ∈ before → .terminated earlier ∈ before

theorem StopsEndFirst.append_of_ne {events : List SessionEvent} (ordered : StopsEndFirst events)
    {extra : List SessionEvent}
    (noCapture : ∀ event ∈ extra, ∀ start samples, event ≠ .captured start samples) :
    StopsEndFirst (events ++ extra) := by
  induction extra using List.reverseRecOn with
  | nil => simpa using ordered
  | append_singleton extra event ih =>
      intro before start samples isPrefix
      rw [← List.append_assoc, List.prefix_concat_iff] at isPrefix
      rcases isPrefix with same | earlier
      · have last := (List.append_inj' same rfl).2
        simp only [List.cons.injEq, and_true] at last
        exact absurd last.symm (noCapture event (by simp) start samples)
      · exact ih (fun other member => noCapture other (by simp [member])) before start samples
          earlier

theorem StopsEndFirst.append_captured {events : List SessionEvent}
    (ordered : StopsEndFirst events) {start : Nat} {samples : List Int16}
    (ended : ∀ earlier < start, .stopped earlier ∈ events → .terminated earlier ∈ events) :
    StopsEndFirst (events ++ [.captured start samples]) := by
  intro before other otherSamples isPrefix
  rw [List.prefix_concat_iff] at isPrefix
  rcases isPrefix with same | earlier
  · rcases List.append_inj' same rfl with ⟨rfl, last⟩
    simp only [List.cons.injEq, SessionEvent.captured.injEq, and_true] at last
    rcases last with ⟨rfl, -⟩
    exact ended
  · exact ordered before other otherSamples earlier

namespace RecordWorker

variable {worker next : RecordWorker} {history : SessionHistory}

/--
A start is stored only when each stop or cancel accepted so far has been answered by the
end of its session, or the worker has at least left that session's capture loop.
-/
def StartsAfterStops (recorded : RecordWorker × SessionHistory) : Action → Prop
  | .call =>
      recorded.1.call = .startSetRecording →
        ∀ event ∈ recorded.2.events, event = .stopped event.number →
          .terminated event.number ∈ recorded.2.events ∨
            (recorded.1.thread.leftLoop = true ∧ event.number = recorded.2.session)
  | _ => True

instance (recorded : RecordWorker × SessionHistory) (action : Action) :
    Decidable (StartsAfterStops recorded action) := by
  unfold StartsAfterStops
  split <;> infer_instance

/--
Each saved file, and the buffer of the session in progress, holds exactly the frames
captured for one accepted start, in order; and a stopped session is terminated before a
later one captures.
-/
structure SessionsSeparate (worker : RecordWorker) (history : SessionHistory) : Prop where
  files : ∀ file ∈ worker.wavFiles, ∃ start, .accepted start ∈ history.events ∧
    file.samples = framesOf start history.events
  buffer : worker.thread.holdsFrames = true → .accepted history.session ∈ history.events ∧
    worker.alsaHelper.audioBuffer = framesOf history.session history.events
  ordered : StopsEndFirst history.events

/-- Every stopped start but the given one has been answered by the end of its session. -/
def StopsEnded (events : List SessionEvent) (except : Nat) : Prop :=
  ∀ start, .stopped start ∈ events → start = except ∨ .terminated start ∈ events

/-- What holds when the worker is about to begin a session, or is in one that may capture. -/
structure Separated (worker : RecordWorker) (history : SessionHistory) : Prop
    extends Numbered worker history where
  stopping : worker.call = .stopSetIdle ∨ worker.call = .cancelSetFlag ∨
    worker.call = .cancelSetIdle → .stopped history.latest ∈ history.events
  awaited : worker.thread.waiting = true → worker.state = .recording →
    history.session < history.latest ∧ .accepted history.latest ∈ history.events ∧
      framesOf history.latest history.events = [] ∧
      .terminated history.latest ∉ history.events ∧ StopsEnded history.events history.latest
  capturing : worker.thread.mayCapture = true →
    history.latest = history.session ∧ .terminated history.session ∉ history.events ∧
      (worker.state = .idle → .stopped history.session ∈ history.events) ∧
      StopsEnded history.events history.session
  opened : worker.thread.inSession = true → .accepted history.session ∈ history.events
  buffer : worker.thread.holdsFrames = true →
    worker.alsaHelper.audioBuffer = framesOf history.session history.events
  unused : worker.thread = .woken ∨ worker.thread = .clearBuffer →
    framesOf history.session history.events = []
  files : ∀ file ∈ worker.wavFiles, ∃ start, .accepted start ∈ history.events ∧
    file.samples = framesOf start history.events ∧ start ≤ history.session ∧
      (worker.thread.mayCapture = true → start < history.session)
  ordered : StopsEndFirst history.events

theorem frames_of_neutral {event : SessionEvent}
    (quiet : event.neutral = true ∨ event = .terminated event.number) (start : Nat) :
    event.frames start = [] := by
  cases event <;> simp_all [SessionEvent.neutral, SessionEvent.frames]

theorem framesOf_record {extra : List SessionEvent}
    (quiet : ∀ event ∈ extra, event.neutral = true ∨ event = .terminated event.number)
    (start : Nat) : framesOf start (history.events ++ extra) = framesOf start history.events := by
  rw [framesOf_append, framesOf_eq_nil fun event member => frames_of_neutral (quiet event member) _,
    List.append_nil]

theorem StopsEnded.append {events extra : List SessionEvent} {except : Nat}
    (ended : StopsEnded events except)
    (noStop : ∀ event ∈ extra, event = .stopped event.number → event.number = except) :
    StopsEnded (events ++ extra) except := by
  intro start member
  rcases List.mem_append.mp member with earlier | added
  · exact (ended start earlier).imp_right fun terminated => List.mem_append_left _ terminated
  · exact Or.inl (noStop _ added rfl)

/-- Steps that store no start, accept no stop, wake nobody and touch no frame. -/
theorem Separated.quiet (separated : Separated worker history) (extra : List SessionEvent)
    (numbered : Numbered next (history.record extra))
    (events : ∀ event ∈ extra, event.neutral = true ∨
      (event = .terminated history.session ∧ next.thread.waiting = false ∧
        next.thread.mayCapture = false))
    (stopping : next.call = .stopSetIdle ∨ next.call = .cancelSetFlag ∨
      next.call = .cancelSetIdle → .stopped history.latest ∈ history.events)
    (awaited : next.thread.waiting = true → next.state = .recording →
      worker.thread.waiting = true ∧ worker.state = .recording)
    (capturing : next.thread.mayCapture = true → worker.thread.mayCapture = true)
    (stopped : next.thread.mayCapture = true → next.state = .idle →
      worker.state = .idle ∨ .stopped history.session ∈ history.events)
    (opened : next.thread.inSession = true → worker.thread.inSession = true)
    (buffer : next.thread.holdsFrames = true → worker.thread.holdsFrames = true ∧
      next.alsaHelper.audioBuffer = worker.alsaHelper.audioBuffer)
    (unused : next.thread = .woken ∨ next.thread = .clearBuffer →
      worker.thread = .woken ∨ worker.thread = .clearBuffer)
    (files : next.wavFiles = worker.wavFiles) :
    Separated next (history.record extra) := by
  have quiet : ∀ event ∈ extra, event.neutral = true ∨ event = .terminated event.number := by
    intro event member
    refine (events event member).imp_right ?_
    rintro ⟨rfl, -, -⟩
    rfl
  have noStop : ∀ (except : Nat), ∀ event ∈ extra, event = .stopped event.number →
      event.number = except := by
    intro except event member isStop
    rcases quiet event member with neutral | terminated
    · rw [isStop] at neutral
      simp [SessionEvent.neutral] at neutral
    · rw [isStop] at terminated
      simp at terminated
  have keepsOpen : next.thread.waiting = true ∨ next.thread.mayCapture = true →
      ∀ start, .terminated start ∉ history.events →
        .terminated start ∉ history.events ++ extra := by
    intro region start absent member
    rcases List.mem_append.mp member with earlier | added
    · exact absent earlier
    · rcases events _ added with neutral | ⟨-, outside, outside'⟩
      · simp [SessionEvent.neutral] at neutral
      · simp [outside, outside'] at region
  refine ⟨numbered, ?_, ?_, ?_, ?_, ?_, ?_, ?_, ?_⟩
  · exact fun isStopping => List.mem_append_left _ (stopping isStopping)
  · intro waiting recording
    rcases awaited waiting recording with ⟨wasWaiting, wasRecording⟩
    rcases separated.awaited wasWaiting wasRecording with ⟨later, accepted, noFrames, open_, ended⟩
    refine ⟨later, List.mem_append_left _ accepted, ?_, keepsOpen (Or.inl waiting) _ open_,
      ended.append (noStop _)⟩
    exact (framesOf_record quiet _).trans noFrames
  · intro mayCapture
    rcases separated.capturing (capturing mayCapture) with ⟨same, open_, idle, ended⟩
    refine ⟨same, keepsOpen (Or.inr mayCapture) _ open_, ?_, ended.append (noStop _)⟩
    intro isIdle
    exact List.mem_append_left _ ((stopped mayCapture isIdle).elim idle id)
  · exact fun inSession => List.mem_append_left _ (separated.opened (opened inSession))
  · intro holdsFrames
    rcases buffer holdsFrames with ⟨heldFrames, same⟩
    exact same.trans ((separated.buffer heldFrames).trans (framesOf_record quiet _).symm)
  · exact fun isUnused => (framesOf_record quiet _).trans (separated.unused (unused isUnused))
  · intro file member
    rcases separated.files file (files ▸ member) with ⟨start, accepted, samples, bound, before⟩
    exact ⟨start, List.mem_append_left _ accepted, samples.trans (framesOf_record quiet _).symm,
      bound, fun mayCapture => before (capturing mayCapture)⟩
  · refine separated.ordered.append_of_ne ?_
    rintro event member start samples rfl
    rcases quiet _ member with neutral | terminated
    · simp [SessionEvent.neutral] at neutral
    · simp at terminated

/-- Steps that only change what the invariant does not look at. -/
theorem Separated.unrecorded (separated : Separated worker history) (answers undone : List Nat)
    (numbered : Numbered next { history with answers, undone }) (call : next.call = worker.call)
    (awaited : next.thread.waiting = true → next.state = .recording →
      worker.thread.waiting = true ∧ worker.state = .recording)
    (capturing : next.thread.mayCapture = true → worker.thread.mayCapture = true)
    (stopped : next.thread.mayCapture = true → next.state = .idle → worker.state = .idle)
    (opened : next.thread.inSession = true → worker.thread.inSession = true)
    (buffer : next.thread.holdsFrames = true → worker.thread.holdsFrames = true ∧
      next.alsaHelper.audioBuffer = worker.alsaHelper.audioBuffer)
    (unused : next.thread = .woken ∨ next.thread = .clearBuffer →
      worker.thread = .woken ∨ worker.thread = .clearBuffer)
    (files : next.wavFiles = worker.wavFiles) :
    Separated next { history with answers, undone } := by
  have same : history.record [] = history := by simp [SessionHistory.record]
  have unchanged : Numbered next (history.record []) := by
    rw [same]
    exact { numbered with }
  have recorded := separated.quiet [] unchanged (by simp)
    (by simpa [call] using separated.stopping) awaited capturing
    (fun mayCapture idle => Or.inl (stopped mayCapture idle)) opened buffer unused files
  rw [same] at recorded
  exact { recorded with toNumbered := numbered }

theorem separated_init : Separated sessions.init.1 sessions.init.2 where
  toNumbered := numbered_init
  stopping := by simp [sessions, System.withHistory, calls]
  awaited := by simp [sessions, System.withHistory, calls]
  capturing := by simp [sessions, System.withHistory, calls, ThreadPc.mayCapture]
  opened := by
    simp [sessions, System.withHistory, calls, ThreadPc.inSession, ThreadPc.starting,
      ThreadPc.capturing, ThreadPc.ending, ThreadPc.closing]
  buffer := by simp [sessions, System.withHistory, calls, ThreadPc.holdsFrames]
  unused := by simp [sessions, System.withHistory, calls]
  files := by simp [sessions, System.withHistory, calls]
  ordered := by
    intro before start samples isPrefix
    simp [sessions, System.withHistory] at isPrefix

theorem separated_start (separated : Separated worker history) (idle : worker.call = .none) :
    Separated { worker with call := .startLock } { history with calls := history.calls + 1 } :=
  { separated with
    toNumbered := numbered_step separated.toNumbered (.start idle)
    stopping := by simp }

/--
A stop concerns the latest accepted start, which is the session in progress while it
captures.
-/
theorem separated_stopped (separated : Separated worker history) {call : CallPc}
    (extra : List SessionEvent)
    (numbered : Numbered { worker with call }
      (history.record (.stopped history.latest :: extra)))
    (neutral : ∀ event ∈ extra, event.neutral = true) :
    Separated { worker with call }
      (history.record (.stopped history.latest :: extra)) := by
  have noFrames : ∀ start, framesOf start (.stopped history.latest :: extra) = [] := by
    intro start
    apply framesOf_eq_nil
    intro event member
    rcases List.mem_cons.mp member with rfl | added
    · rfl
    · exact frames_of_neutral (Or.inl (neutral event added)) start
  have sameFrames : ∀ start, framesOf start (history.events ++ .stopped history.latest :: extra) =
      framesOf start history.events := by
    intro start
    rw [framesOf_append, noFrames, List.append_nil]
  have keepsOpen : ∀ start, .terminated start ∉ history.events →
      .terminated start ∉ history.events ++ .stopped history.latest :: extra := by
    intro start absent member
    rcases List.mem_append.mp member with earlier | added
    · exact absent earlier
    · rcases List.mem_cons.mp added with same | added
      · simp at same
      · simpa [SessionEvent.neutral] using neutral _ added
  have onlyLatest : ∀ event ∈ SessionEvent.stopped history.latest :: extra,
      event = .stopped event.number → event.number = history.latest := by
    intro event member isStop
    rcases List.mem_cons.mp member with rfl | added
    · rfl
    · have isNeutral := neutral event added
      rw [isStop] at isNeutral
      simp [SessionEvent.neutral] at isNeutral
  refine ⟨numbered, ?_, ?_, ?_, ?_, ?_, ?_, ?_, ?_⟩
  · exact fun _ => List.mem_append_right _ (by simp [SessionHistory.record])
  · intro waiting recording
    rcases separated.awaited waiting recording with ⟨later, accepted, frames, open_, ended⟩
    exact ⟨later, List.mem_append_left _ accepted, (sameFrames _).trans frames,
      keepsOpen _ open_, ended.append onlyLatest⟩
  · intro mayCapture
    rcases separated.capturing mayCapture with ⟨same, open_, -, ended⟩
    refine ⟨same, keepsOpen _ open_, fun _ => ?_, ended.append (same ▸ onlyLatest)⟩
    exact List.mem_append_right _ (by simp [SessionHistory.record, same])
  · exact fun inSession => List.mem_append_left _ (separated.opened inSession)
  · exact fun holdsFrames => (separated.buffer holdsFrames).trans (sameFrames _).symm
  · exact fun isUnused => (sameFrames _).trans (separated.unused isUnused)
  · intro file member
    rcases separated.files file member with ⟨start, accepted, samples, bound, before⟩
    exact ⟨start, List.mem_append_left _ accepted, samples.trans (sameFrames _).symm, bound, before⟩
  · refine separated.ordered.append_of_ne ?_
    rintro event member start samples rfl
    rcases List.mem_cons.mp member with same | added
    · simp at same
    · simpa [SessionEvent.neutral] using neutral _ added

/-- A start is stored outside the part of a session that may capture. -/
theorem separated_setRecording (separated : Separated worker history)
    (pc : worker.call = .startSetRecording)
    (good : StartsAfterStops (worker, history) .call)
    (numbered : Numbered { worker with state := .recording, call := .startNotify }
      ({ history with latest := history.calls }.record [.accepted history.calls])) :
    Separated { worker with state := .recording, call := .startNotify }
      ({ history with latest := history.calls }.record [.accepted history.calls]) := by
  have idle := separated.synchronized.acceptIdle (Or.inr pc)
  have later : history.latest < history.calls :=
    separated.undecided (by simp [pc, CallPc.undecidedStart])
  have sessionBound := separated.sessionBound
  have noCapture : worker.thread.mayCapture ≠ true := by
    intro mayCapture
    rcases separated.capturing mayCapture with ⟨-, open_, stopped, -⟩
    rcases good pc _ (stopped idle) rfl with terminated | ⟨left, -⟩
    · exact open_ terminated
    · cases place : worker.thread <;>
        simp_all [ThreadPc.mayCapture, ThreadPc.leftLoop, ThreadPc.ending]
  have sameFrames : ∀ start, framesOf start (history.events ++ [.accepted history.calls]) =
      framesOf start history.events := by
    intro start
    simp [framesOf, SessionEvent.frames]
  refine ⟨numbered, by simp, ?_, fun mayCapture => absurd mayCapture noCapture,
    ?_, ?_, ?_, ?_, ?_⟩
  · intro waiting _
    refine ⟨sessionBound.trans_lt later, by simp [SessionHistory.record], ?_, ?_, ?_⟩
    · refine (sameFrames _).trans (framesOf_eq_nil fun event member => ?_)
      have bound := separated.eventBound event member
      cases event with
      | captured owner samples =>
          have differs : owner ≠ history.calls := (lt_of_le_of_lt bound later).ne
          exact if_neg differs
      | _ => rfl
    · intro member
      rcases List.mem_append.mp member with earlier | added
      · exact absurd (separated.eventBound _ earlier) (Nat.not_le_of_lt later)
      · simp at added
    · intro start member
      rcases List.mem_append.mp member with earlier | added
      · rcases good pc _ earlier rfl with terminated | ⟨left, -⟩
        · exact Or.inr (List.mem_append_left _ terminated)
        · cases place : worker.thread <;>
            simp_all [ThreadPc.waiting, ThreadPc.leftLoop, ThreadPc.ending]
      · simp at added
  · exact fun inSession => List.mem_append_left _ (separated.opened inSession)
  · exact fun holdsFrames => (separated.buffer holdsFrames).trans (sameFrames _).symm
  · exact fun isUnused => (sameFrames _).trans (separated.unused isUnused)
  · intro file member
    rcases separated.files file member with ⟨start, accepted, samples, bound, before⟩
    exact ⟨start, List.mem_append_left _ accepted, samples.trans (sameFrames _).symm, bound, before⟩
  · exact separated.ordered.append_of_ne (by simp)

theorem separated_wake (separated : Separated worker history) (pc : worker.thread = .waitTest)
    (recording : worker.state = .recording)
    (numbered : Numbered { worker with thread := .woken }
      { history with session := history.latest }) :
    Separated { worker with thread := .woken } { history with session := history.latest } := by
  rcases separated.awaited (by simp [pc, ThreadPc.waiting]) recording with
    ⟨later, accepted, noFrames, open_, ended⟩
  refine ⟨numbered, separated.stopping, by simp [ThreadPc.waiting], ?_, fun _ => accepted,
    by simp [ThreadPc.holdsFrames], fun _ => noFrames, ?_, separated.ordered⟩
  · exact fun _ => ⟨rfl, open_, by simp [recording], ended⟩
  · intro file member
    rcases separated.files file member with ⟨start, isAccepted, samples, bound, -⟩
    exact ⟨start, isAccepted, samples, bound.trans later.le, fun _ => bound.trans_lt later⟩

theorem separated_clearBuffer (separated : Separated worker history)
    (pc : worker.thread = .clearBuffer)
    (numbered : Numbered { worker with
      alsaHelper := worker.alsaHelper.clearAudioBuffer, thread := .initAlsa } history) :
    Separated { worker with
      alsaHelper := worker.alsaHelper.clearAudioBuffer, thread := .initAlsa } history :=
  { separated with
    toNumbered := numbered
    awaited := by simp [ThreadPc.waiting]
    capturing := fun _ => separated.capturing (by simp [pc, ThreadPc.mayCapture])
    opened := fun _ => separated.opened (by simp [pc, ThreadPc.inSession, ThreadPc.starting])
    buffer := fun _ => (separated.unused (Or.inr pc)).symm
    unused := by simp
    files := by
      intro file member
      rcases separated.files file member with ⟨start, accepted, samples, bound, before⟩
      exact ⟨start, accepted, samples, bound, fun _ => before (by simp [pc, ThreadPc.mayCapture])⟩ }

theorem separated_captured (separated : Separated worker history)
    (pc : worker.thread = .captureOnce) (alsaHelper : AlsaHelper) (samples : List Int16)
    (buffer : alsaHelper.audioBuffer = worker.alsaHelper.audioBuffer ++ samples)
    (numbered : Numbered { worker with alsaHelper, thread := .captureTest }
      (history.record [.captured history.latest samples])) :
    Separated { worker with alsaHelper, thread := .captureTest }
      (history.record [.captured history.latest samples]) := by
  rcases separated.capturing (by simp [pc, ThreadPc.mayCapture]) with ⟨same, open_, idle, ended⟩
  have otherFrames : ∀ start, start ≠ history.latest →
      framesOf start (history.events ++ [.captured history.latest samples]) =
        framesOf start history.events := by
    intro start differs
    simp [framesOf, SessionEvent.frames, differs.symm]
  refine ⟨numbered, fun isStopping => List.mem_append_left _ (separated.stopping isStopping),
    by simp [ThreadPc.waiting], ?_, ?_, ?_, by simp, ?_, ?_⟩
  · intro _
    refine ⟨same, ?_, fun isIdle => List.mem_append_left _ (idle isIdle),
      ended.append (by simp)⟩
    simpa [SessionHistory.record] using open_
  · intro _
    exact List.mem_append_left _
      (separated.opened (by simp [pc, ThreadPc.inSession, ThreadPc.capturing]))
  · intro _
    have held := separated.buffer (by simp [pc, ThreadPc.holdsFrames])
    simp only [SessionHistory.record, framesOf_append]
    rw [buffer, held, same]
    simp [framesOf, SessionEvent.frames]
  · intro file member
    rcases separated.files file member with ⟨start, accepted, isSamples, bound, before⟩
    have earlier := before (by simp [pc, ThreadPc.mayCapture])
    refine ⟨start, List.mem_append_left _ accepted, ?_, bound, fun _ => earlier⟩
    exact isSamples.trans (otherFrames start (same ▸ earlier.ne)).symm
  · refine separated.ordered.append_captured ?_
    intro start earlier stopped
    exact (ended start stopped).resolve_left (same ▸ earlier.ne)

theorem separated_saved (separated : Separated worker history)
    (pc : worker.thread = .saveWavFile) (alsaHelper : AlsaHelper) (file : WavFile)
    (samples : file.samples = worker.alsaHelper.audioBuffer)
    (numbered : Numbered { worker with
      alsaHelper, wavFiles := worker.wavFiles ++ [file], thread := .notifySaved }
      (history.record [.saved history.session])) :
    Separated { worker with
      alsaHelper, wavFiles := worker.wavFiles ++ [file], thread := .notifySaved }
      (history.record [.saved history.session]) := by
  have accepted := separated.opened (by simp [pc, ThreadPc.inSession, ThreadPc.ending])
  have held := separated.buffer (by simp [pc, ThreadPc.holdsFrames])
  have sameFrames : ∀ start, framesOf start (history.events ++ [.saved history.session]) =
      framesOf start history.events := by
    intro start
    simp [framesOf, SessionEvent.frames]
  refine ⟨numbered, fun isStopping => List.mem_append_left _ (separated.stopping isStopping),
    by simp [ThreadPc.waiting], by simp [ThreadPc.mayCapture],
    fun _ => List.mem_append_left _ accepted, by simp [ThreadPc.holdsFrames], by simp, ?_, ?_⟩
  · intro other member
    rcases List.mem_append.mp member with earlier | added
    · rcases separated.files other earlier with ⟨start, isAccepted, isSamples, bound, -⟩
      exact ⟨start, List.mem_append_left _ isAccepted, isSamples.trans (sameFrames _).symm, bound,
        by simp [ThreadPc.mayCapture]⟩
    · rw [List.mem_singleton.mp added]
      exact ⟨history.session, List.mem_append_left _ accepted,
        samples.trans (held.trans (sameFrames _).symm), Nat.le_refl _,
        by simp [ThreadPc.mayCapture]⟩
  · exact separated.ordered.append_of_ne (by simp)

theorem separated_setCall (separated : Separated worker history) {call : CallPc}
    {sent : List RecordNoti} {answers : List Nat}
    (numbered : Numbered { worker with call, sent } { history with answers })
    (stopping : call = .stopSetIdle ∨ call = .cancelSetFlag ∨ call = .cancelSetIdle →
      .stopped history.latest ∈ history.events) :
    Separated { worker with call, sent } { history with answers } :=
  { separated with
    toNumbered := numbered
    stopping := stopping }

/-- The call stores `IDLE` after its stop has been recorded. -/
theorem separated_setIdle (separated : Separated worker history)
    (pc : worker.call = .stopSetIdle ∨ worker.call = .cancelSetIdle)
    (numbered : Numbered { worker with state := .idle, call := .none } history) :
    Separated { worker with state := .idle, call := .none } history :=
  { separated with
    toNumbered := numbered
    stopping := by simp
    awaited := by simp
    capturing := by
      intro mayCapture
      rcases separated.capturing mayCapture with ⟨same, open_, -, ended⟩
      have stopped := separated.stopping (pc.imp_right Or.inr)
      exact ⟨same, open_, fun _ => same ▸ stopped, ended⟩ }

theorem separated_notifyOne (separated : Separated worker history)
    (numbered : Numbered { worker.notifyOne with call := .none } history) :
    Separated { worker.notifyOne with call := .none } history := by
  unfold notifyOne at numbered ⊢
  split
  · next isBlocked =>
      rw [if_pos isBlocked] at numbered
      exact { separated with
        toNumbered := numbered
        stopping := by simp
        awaited := fun _ => separated.awaited (by simp [isBlocked, ThreadPc.waiting])
        capturing := by simp [ThreadPc.mayCapture]
        opened := by
          simp [ThreadPc.inSession, ThreadPc.starting, ThreadPc.capturing, ThreadPc.ending,
            ThreadPc.closing]
        buffer := by simp [ThreadPc.holdsFrames]
        unused := by simp
        files := by
          intro file member
          rcases separated.files file member with ⟨start, accepted, samples, bound, -⟩
          exact ⟨start, accepted, samples, bound, by simp [ThreadPc.mayCapture]⟩ }
  · next awake =>
      rw [if_neg awake] at numbered
      exact separated_setCall separated numbered (by simp)

theorem separated_callStep (separated : Separated worker history)
    (good : StartsAfterStops (worker, history) .call) (stepped : worker.CallStep next) :
    Separated next (history.observeCall worker) := by
  have numbered := numbered_callStep separated.toNumbered stepped
  cases stepped with
  | startSetRecording pc =>
      simp only [SessionHistory.observeCall, pc] at numbered ⊢
      exact separated_setRecording separated pc good numbered
  | startNotify pc =>
      simp only [SessionHistory.observeCall, pc] at numbered ⊢
      exact separated_notifyOne separated numbered
  | stopAccept pc recording =>
      simp only [SessionHistory.observeCall, pc] at numbered ⊢
      rw [if_pos recording] at numbered ⊢
      exact separated_stopped separated [] numbered (by simp)
  | cancelAccept pc recording =>
      simp only [SessionHistory.observeCall, pc] at numbered ⊢
      rw [if_pos recording] at numbered ⊢
      exact separated_stopped separated [.canceled (history.target worker)] numbered
        (by simp [SessionEvent.neutral])
  | stopSetIdle pc =>
      simp only [SessionHistory.observeCall, pc] at numbered ⊢
      exact separated_setIdle separated (Or.inl pc) numbered
  | cancelSetIdle pc =>
      simp only [SessionHistory.observeCall, pc] at numbered ⊢
      exact separated_setIdle separated (Or.inr pc) numbered
  | cancelSetFlag pc =>
      have stopped := separated.stopping (by simp [pc])
      simp only [SessionHistory.observeCall, pc] at numbered ⊢
      exact { separated with toNumbered := numbered, stopping := fun _ => stopped }
  | startResetCancel pc =>
      simp only [SessionHistory.observeCall, pc] at numbered ⊢
      exact { separated with toNumbered := numbered, stopping := by simp }
  | stopRefuse pc idle | cancelRefuse pc idle =>
      simp only [SessionHistory.observeCall, pc] at numbered ⊢
      rw [if_neg (by simp [idle])] at numbered ⊢
      exact separated_setCall separated numbered (by simp)
  | startLock pc _ | startAccept pc _ | startRefuse pc _ | startReject pc | stopReject pc
  | cancelReject pc =>
      simp only [SessionHistory.observeCall, pc] at numbered ⊢
      exact separated_setCall separated numbered (by simp)

theorem separated_threadStep {choice : Choice} (separated : Separated worker history)
    (stepped : worker.ThreadStep choice next) :
    Separated next (history.observeThread worker choice next) := by
  have numbered := numbered_threadStep separated.toNumbered stepped
  cases stepped with
  | wake pc recording =>
      simp only [SessionHistory.observeThread, pc, if_true] at numbered ⊢
      exact separated_wake separated pc recording numbered
  | clearBuffer pc =>
      simp only [SessionHistory.observeThread, pc] at numbered ⊢
      exact separated_clearBuffer separated pc numbered
  | captured pc alsaHelper buffer =>
      simp only [SessionHistory.observeThread, pc, if_true] at numbered ⊢
      exact separated_captured separated pc alsaHelper _ buffer numbered
  | saved pc alsaHelper file samples =>
      simp only [SessionHistory.observeThread, pc, if_true] at numbered ⊢
      exact separated_saved separated pc alsaHelper file samples numbered
  | notifyInitFailed pc =>
      simp only [SessionHistory.observeThread, pc] at numbered ⊢
      refine { separated.quiet [.terminated history.session] { numbered with } ?_ separated.stopping
        ?_ ?_ ?_ ?_ ?_ ?_ rfl with } <;>
        simp [pc, send, ThreadPc.waiting, ThreadPc.mayCapture, ThreadPc.inSession,
          ThreadPc.starting, ThreadPc.closing, ThreadPc.holdsFrames]
  | notifyEnded reason pc =>
      simp only [SessionHistory.observeThread, pc] at numbered ⊢
      refine separated.quiet _ numbered ?_ separated.stopping ?_ ?_ ?_ ?_ ?_ ?_ rfl <;>
        simp [pc, send, ThreadPc.waiting, ThreadPc.mayCapture, ThreadPc.inSession,
          ThreadPc.ending, ThreadPc.closing, ThreadPc.holdsFrames]
  | notifySaved pc =>
      simp only [SessionHistory.observeThread, pc] at numbered ⊢
      refine separated.quiet _ numbered ?_ separated.stopping ?_ ?_ ?_ ?_ ?_ ?_ rfl <;>
        simp [pc, send, ThreadPc.waiting, ThreadPc.mayCapture, ThreadPc.inSession,
          ThreadPc.ending, ThreadPc.closing, ThreadPc.holdsFrames, SessionEvent.neutral]
  | pushFilter pc event filters =>
      simp only [SessionHistory.observeThread, pc] at numbered ⊢
      refine separated.quiet _ numbered ?_ separated.stopping ?_ ?_ ?_ ?_ ?_ ?_ rfl <;>
        simp [pc, ThreadPc.waiting, ThreadPc.mayCapture, ThreadPc.inSession,
          ThreadPc.closing, ThreadPc.holdsFrames, SessionEvent.neutral]
  | resetAfterInit pc | resetAfterEnd pc =>
      simp only [SessionHistory.observeThread, pc, SessionHistory.observeReset] at numbered ⊢
      by_cases undone : worker.state = .recording ∧ history.latest ≠ history.session
      · rw [if_pos undone] at numbered ⊢
        refine separated.unrecorded _ _ numbered rfl ?_ ?_ ?_ ?_ ?_ ?_ rfl <;>
          simp [ThreadPc.mayCapture, ThreadPc.inSession, ThreadPc.starting, ThreadPc.capturing,
            ThreadPc.ending, ThreadPc.closing, ThreadPc.holdsFrames]
      · rw [if_neg undone] at numbered ⊢
        refine separated.unrecorded _ _ numbered rfl ?_ ?_ ?_ ?_ ?_ ?_ rfl <;>
          simp [ThreadPc.mayCapture, ThreadPc.inSession, ThreadPc.starting, ThreadPc.capturing,
            ThreadPc.ending, ThreadPc.closing, ThreadPc.holdsFrames]
  | loop pc | lock pc _ | keepWaiting pc idle | block pc | spurious pc | enter pc
  | initReady pc alsaHelper buffer | initFailed pc alsaHelper | notifyStarted pc
  | captureOn pc recording | captureOff pc idle | exceeded pc | withinDuration pc
  | captureFailed pc alsaHelper | endDiscard isCaptureError pc reason | endSave pc kept
  | saveFailed pc alsaHelper =>
      simp only [SessionHistory.observeThread, pc, reduceCtorEq, if_false] at numbered ⊢
      refine separated.unrecorded _ _ numbered rfl ?_ ?_ ?_ ?_ ?_ ?_ rfl <;>
        simp_all [send, ThreadPc.waiting, ThreadPc.mayCapture, ThreadPc.inSession,
          ThreadPc.starting, ThreadPc.capturing, ThreadPc.ending, ThreadPc.closing,
          ThreadPc.holdsFrames]

theorem separated_step {action : Action} (separated : Separated worker history)
    (good : StartsAfterStops (worker, history) action) (stepped : worker.Step action next) :
    Separated next (history.observe worker action next) := by
  have numbered := numbered_step separated.toNumbered stepped
  cases stepped with
  | start idle => exact separated_start separated idle
  | stop idle | cancel idle => exact separated_setCall separated numbered (by simp)
  | call stepped => exact separated_callStep separated good stepped
  | thread choice stepped => exact separated_threadStep separated stepped

theorem inSession_of_holdsFrames {pc : ThreadPc} (holdsFrames : pc.holdsFrames = true) :
    pc.inSession = true := by
  cases pc <;> simp_all [ThreadPc.holdsFrames, ThreadPc.inSession, ThreadPc.starting,
    ThreadPc.capturing, ThreadPc.ending]

theorem Separated.sessionsSeparate (separated : Separated worker history) :
    SessionsSeparate worker history where
  files := by
    intro file member
    rcases separated.files file member with ⟨start, accepted, samples, -⟩
    exact ⟨start, accepted, samples⟩
  buffer := fun holdsFrames =>
    ⟨separated.opened (inSession_of_holdsFrames holdsFrames), separated.buffer holdsFrames⟩
  ordered := separated.ordered

/-- Sessions do not merge in a run that stores a start only after the stops before it were seen. -/
theorem sessionsSeparate_of_startsAfterStops {schedule : List Action}
    (ran : sessions.run schedule = some (worker, history))
    (along : sessions.Along StartsAfterStops schedule) : SessionsSeparate worker history := by
  have separated : Separated worker history := by
    refine System.invariant_of_along (fun recorded => Separated recorded.1 recorded.2)
      separated_init ?_ ran along
    intro recorded action next separated good stepped
    rcases sessions_step_cases separated.synchronized.running stepped with ⟨stepped, observed⟩
    rw [observed]
    exact separated_step separated good stepped
  exact separated.sessionsSeparate

/-- A whole session of two captures, stopped and saved, and then another one. -/
def recordedTwice : List Action :=
  threadBlocks ++ startCall ++ threadStarts ++ threadCaptures [1, 2] ++ threadCaptures [3] ++
    stopCall ++ threadSaves "20250101_120000" ++ threadFinishes ++ threadBlocks ++
    startCall ++ threadStarts ++ threadCaptures [4] ++ stopCall ++ threadSaves "20250101_120100"

theorem sessionsSeparate_recordedTwice :
    ∃ worker history, sessions.run recordedTwice = some (worker, history) ∧
      worker.wavFiles.map WavFile.samples = [[1, 2, 3], [4]] ∧
      SessionsSeparate worker history := by
  have observed : (sessions.run recordedTwice).map (fun recorded =>
      recorded.1.wavFiles.map WavFile.samples) = some [[1, 2, 3], [4]] := by decide
  rcases Option.map_eq_some_iff.mp observed with ⟨⟨worker, history⟩, ran, files⟩
  exact ⟨worker, history, ran, files, sessionsSeparate_of_startsAfterStops ran (by decide)⟩

/-- A stop and a start between two samples of `state_`. -/
def restartedInsideLoop : List Action :=
  threadBlocks ++ startCall ++ threadStarts ++ threadCaptures [1, 2] ++ stopCall ++ startCall ++
    threadCaptures [3, 4] ++ stopCall ++ threadSaves "20250101_120000"

/-- The file holds the frames of both starts, and the first session was never terminated. -/
theorem not_sessionsSeparate_restartedInsideLoop :
    ¬ ∀ (schedule : List Action) (worker : RecordWorker) (history : SessionHistory),
      sessions.run schedule = some (worker, history) → SessionsSeparate worker history := by
  intro separate
  have observed : (sessions.run restartedInsideLoop).map (fun recorded =>
      (recorded.1.wavFiles.map WavFile.samples, recorded.2.events)) =
      some ([[1, 2, 3, 4]], [.accepted 1, .captured 1 [1, 2], .stopped 1, .accepted 2,
        .captured 2 [3, 4], .stopped 2, .saved 1]) := by decide
  rcases Option.map_eq_some_iff.mp observed with ⟨⟨worker, history⟩, ran, observed⟩
  simp only [Prod.mk.injEq] at observed
  rcases observed with ⟨files, events⟩
  have saved : [1, 2, 3, 4] ∈ worker.wavFiles.map WavFile.samples := by simp [files]
  rcases List.mem_map.mp saved with ⟨file, member, samples⟩
  rcases (separate _ worker history ran).files file member with ⟨start, accepted, same⟩
  rw [events] at accepted
  rw [samples, events] at same
  have isStart : start = 1 ∨ start = 2 := by simpa using accepted
  rcases isStart with rfl | rfl
  · exact absurd same (by decide)
  · exact absurd same (by decide)

end RecordWorker

end RaspberryPiService
