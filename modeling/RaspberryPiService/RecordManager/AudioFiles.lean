import RaspberryPiService.RecordManager.AudioFilter
import RaspberryPiService.RecordManager.Sessions

/-!
# The recordings of the record manager

The worker's thread saves recordings and hands them to MainWorker, which starts a filter
thread for each. All of them work on the same files. The first part of this file adds the
files, MainWorker's part and the shutdown to the worker; the second proves when a
recording that was reported as saved is in a file at every step.

A recording is identified by its place among the files that the worker has saved; its
filter thread has the same place among the filter threads.
-/

namespace RaspberryPiService

def RecordEvent.filePath : RecordEvent → Option String
  | .filterWavFile filePath _ => some filePath
  | _ => none

/-- A recording has been saved and has not been queued for MainWorker. -/
def ThreadPc.saved : ThreadPc → Bool
  | .notifySaved | .pushFilter => true
  | _ => false

namespace RecordWorker

def handing (worker : RecordWorker) : List String :=
  if worker.thread.saved then [worker.alsaHelper.outputFilePath] else []

/-- The recordings that have been saved and for which no filter thread has been started. -/
def handed (worker : RecordWorker) : List String :=
  worker.eventQueue.filterMap RecordEvent.filePath ++ worker.handing

/-- What a step leaves alone that saves no recording. -/
structure KeepsFiles (worker next : RecordWorker) : Prop where
  wavFiles : next.wavFiles = worker.wavFiles
  handed : next.handed = worker.handed
  sent : worker.sent ⊆ next.sent

variable {worker next : RecordWorker}

theorem keepsFiles_refl (worker : RecordWorker) : worker.KeepsFiles worker where
  wavFiles := rfl
  handed := rfl
  sent := List.Subset.refl _

theorem keepsFiles_of_not_saved (wavFiles : next.wavFiles = worker.wavFiles)
    (eventQueue : next.eventQueue = worker.eventQueue) (sent : worker.sent ⊆ next.sent)
    (before : worker.thread.saved = false) (after : next.thread.saved = false) :
    worker.KeepsFiles next where
  wavFiles := wavFiles
  handed := by simp [handed, handing, eventQueue, before, after]
  sent := sent

theorem keepsFiles_notifyOne (worker : RecordWorker) : worker.KeepsFiles worker.notifyOne := by
  unfold notifyOne
  split
  · next blocked =>
      exact keepsFiles_of_not_saved rfl rfl (List.Subset.refl _) (by rw [blocked]; rfl) rfl
  · exact keepsFiles_refl worker

theorem keepsFiles_callStep (stepped : worker.callStep = some next) : worker.KeepsFiles next := by
  cases callStep_cases stepped with
  | startNotify =>
      have kept := keepsFiles_notifyOne worker
      exact ⟨kept.wavFiles, kept.handed, kept.sent⟩
  | startReject | stopReject | cancelReject =>
      exact ⟨rfl, rfl, List.subset_append_left _ _⟩
  | startLock | startAccept | startRefuse | startResetCancel | startSetRecording | stopAccept
  | stopRefuse | stopSetIdle | cancelAccept | cancelRefuse | cancelSetFlag | cancelSetIdle =>
      exact ⟨rfl, rfl, List.Subset.refl _⟩

theorem keepsFiles_invoke {call : RecordCall} (stepped : worker.invoke call = some next) :
    worker.KeepsFiles next := by
  unfold invoke at stepped
  split at stepped <;> cases stepped <;> exact ⟨rfl, rfl, List.Subset.refl _⟩

/-- A step of `threadFunction` other than a save. -/
theorem keepsFiles_threadStep {choice : Choice} (stepped : worker.threadStep choice = some next)
    (notSave : ∀ stamp isOpen, choice ≠ .save stamp isOpen) : worker.KeepsFiles next := by
  unfold threadStep at stepped
  split at stepped
  · next pc =>
      split at stepped <;> cases stepped <;>
        exact keepsFiles_of_not_saved rfl rfl (List.Subset.refl _) (by rw [pc]; rfl) rfl
  · next pc =>
      split at stepped
      · cases stepped
      · cases stepped
        exact keepsFiles_of_not_saved rfl rfl (List.Subset.refl _) (by rw [pc]; rfl) rfl
  · next pc =>
      split at stepped <;> cases stepped <;>
        exact keepsFiles_of_not_saved rfl rfl (List.Subset.refl _) (by rw [pc]; rfl) rfl
  · next pc =>
      cases stepped
      exact keepsFiles_of_not_saved rfl rfl (List.Subset.refl _) (by rw [pc]; rfl) rfl
  · next pc =>
      cases stepped
      exact keepsFiles_of_not_saved rfl rfl (List.Subset.refl _) (by rw [pc]; rfl) rfl
  · next pc =>
      split at stepped <;> cases stepped <;>
        exact keepsFiles_of_not_saved rfl rfl (List.Subset.refl _) (by rw [pc]; rfl) rfl
  · next pc =>
      cases stepped
      exact keepsFiles_of_not_saved rfl rfl (List.Subset.refl _) (by rw [pc]; rfl) rfl
  · next outcome pc =>
      simp only at stepped
      split at stepped <;> cases stepped <;>
        exact keepsFiles_of_not_saved rfl rfl (List.Subset.refl _) (by rw [pc]; rfl) rfl
  · next pc =>
      cases stepped
      exact keepsFiles_of_not_saved rfl rfl (List.subset_append_left _ _) (by rw [pc]; rfl) rfl
  · next pc =>
      cases stepped
      exact keepsFiles_of_not_saved rfl rfl (List.Subset.refl _) (by rw [pc]; rfl) rfl
  · next pc =>
      cases stepped
      exact keepsFiles_of_not_saved rfl rfl (List.subset_append_left _ _) (by rw [pc]; rfl) rfl
  · next pc =>
      split at stepped <;> cases stepped <;>
        exact keepsFiles_of_not_saved rfl rfl (List.Subset.refl _) (by rw [pc]; rfl) rfl
  · next pc =>
      cases stepped
      exact keepsFiles_of_not_saved rfl rfl (List.Subset.refl _) (by rw [pc]; rfl) rfl
  · next pc =>
      cases stepped
      exact keepsFiles_of_not_saved rfl rfl (List.Subset.refl _) (by rw [pc]; rfl) rfl
  · next result pc =>
      split at stepped
      · simp only at stepped
        split at stepped <;> cases stepped <;>
          exact keepsFiles_of_not_saved rfl rfl (List.Subset.refl _) (by rw [pc]; rfl) rfl
      · cases stepped
  · next isCaptureError pc =>
      cases stepped
      unfold endStep
      split
      · exact keepsFiles_of_not_saved rfl rfl (List.Subset.refl _) (by rw [pc]; rfl) rfl
      · split
        · exact keepsFiles_of_not_saved rfl rfl (List.Subset.refl _) (by rw [pc]; rfl) rfl
        · split <;>
            exact keepsFiles_of_not_saved rfl rfl (List.Subset.refl _) (by rw [pc]; rfl) rfl
  · next reason pc =>
      cases stepped
      exact keepsFiles_of_not_saved rfl rfl (List.subset_append_left _ _) (by rw [pc]; rfl) rfl
  · next stamp isOpen pc => exact absurd rfl (notSave stamp isOpen)
  · next pc =>
      cases stepped
      exact ⟨rfl, by simp [handed, handing, pc, ThreadPc.saved, send], List.subset_append_left _ _⟩
  · next durationSec pc =>
      cases stepped
      refine ⟨rfl, ?_, List.Subset.refl _⟩
      simp [handed, handing, pc, ThreadPc.saved, RecordEvent.filePath]
  · next pc =>
      cases stepped
      exact keepsFiles_of_not_saved rfl rfl (List.Subset.refl _) (by rw [pc]; rfl) rfl
  · cases stepped

/-- A save either writes a recording and hands it over, or does nothing to the files. -/
theorem threadStep_save {stamp : String} {isOpen : Bool}
    (stepped : worker.threadStep (.save stamp isOpen) = some next) :
    (∃ file, (worker.alsaHelper.saveWavFile stamp isOpen).1 = some file ∧
      file.path = recordPath stamp ∧ next.wavFiles = worker.wavFiles ++ [file] ∧
        next.handed = worker.handed ++ [file.path] ∧ next.sent = worker.sent) ∨
    (worker.alsaHelper.saveWavFile stamp isOpen).1 = none ∧ worker.KeepsFiles next := by
  have pc : worker.thread = .saveWavFile := by
    cases pc : worker.thread <;> simp [threadStep, pc] at stepped ⊢
  by_cases empty : worker.alsaHelper.audioBuffer = []
  · simp only [threadStep, pc, AlsaHelper.saveWavFile, empty, if_true, Option.some.injEq] at stepped
    subst stepped
    refine Or.inr ⟨by simp [AlsaHelper.saveWavFile, empty], ?_⟩
    exact keepsFiles_of_not_saved rfl rfl (List.Subset.refl _) (by rw [pc]; rfl) rfl
  · cases isOpen with
    | false =>
        simp only [threadStep, pc, AlsaHelper.saveWavFile, empty, if_false, Bool.false_eq_true,
          Option.some.injEq] at stepped
        subst stepped
        refine Or.inr ⟨by simp [AlsaHelper.saveWavFile, empty], ?_⟩
        exact keepsFiles_of_not_saved rfl rfl (List.Subset.refl _) (by rw [pc]; rfl) rfl
    | true =>
        simp only [threadStep, pc, AlsaHelper.saveWavFile, empty, if_false, if_true,
          Option.some.injEq] at stepped
        subst stepped
        refine Or.inl ⟨⟨recordPath stamp, worker.alsaHelper.audioBuffer⟩, ?_, rfl, rfl, ?_, rfl⟩
        · simp [AlsaHelper.saveWavFile, empty, recordPath]
        · simp [handed, handing, pc, ThreadPc.saved, recordPath]

end RecordWorker

/-- Where `main` is in the shutdown; `RecordWorker::stop` takes three steps. -/
inductive StopPc where
  | running
  | mainWorkerStopped
  | flagCleared
  | stateCleared
  | stopped
deriving DecidableEq

structure RecordManager where
  worker : RecordWorker := {}
  files : Files
  filters : List FilterThread := []
  -- MainWorker has found its flag set, and may process one event.
  mainWorkerReady : Bool := false
  stopping : StopPc := .running

namespace RecordManager

inductive Action where
  | testRunningFlag
  | invoke (call : RecordCall)
  | call
  | thread (choice : Choice)
  | saveWavFile (now : LocalTime) (isOpen written : Bool)
  | processFilterWavFileEvent
  | filter (index : Nat) (outcome : Outcome)
  | stop
deriving DecidableEq

/-- The samples that the data chunk has room for: its size in bytes is a `uint32_t`. -/
def dataChunk (samples : List Int16) : List Int16 :=
  samples.take (samples.length * 2 % UInt32.size / 2)

/-- What a save leaves on disk; the writes after the file has been opened are not checked. -/
def writeWavFile (manager : RecordManager) (file : WavFile) (written : Bool) : Files :=
  Function.update manager.files file.path
    (some (if written then .wav (dataChunk file.samples) else .damaged))

/-- The thread of the worker saves a recording. -/
def saveWavFile (manager : RecordManager) (now : LocalTime) (isOpen written : Bool) :
    Option RecordManager :=
  (manager.worker.threadStep (.save (putTime now) isOpen)).map fun worker =>
    match (manager.worker.alsaHelper.saveWavFile (putTime now) isOpen).1 with
    | some file => { manager with worker, files := manager.writeWavFile file written }
    | none => { manager with worker }

/-- MainWorker detaches a filter thread for the first recording of its queue. -/
def processFilterWavFileEvent (manager : RecordManager) : Option RecordManager :=
  if manager.mainWorkerReady ∧ manager.worker.call = .none then
    match manager.worker.eventQueue with
    | .filterWavFile wavFilePath durationSec :: eventQueue =>
        some { manager with
          worker := { manager.worker with eventQueue }
          filters := if wavFilePath = "" then manager.filters
            else manager.filters ++ [{ wavFilePath, durationSec }]
          mainWorkerReady := false }
    | _ => none
  else none

def sendNoti (worker : RecordWorker) : Option RecordNoti → RecordWorker
  | some noti => worker.send noti
  | none => worker

def filterStep (manager : RecordManager) (index : Nat) (outcome : Outcome) :
    Option RecordManager :=
  manager.filters[index]?.bind fun thread =>
    (thread.step manager.files outcome).map fun (thread, files, noti) =>
      { manager with
        files
        worker := sendNoti manager.worker noti
        filters := manager.filters.set index thread }

/-- `main` after a shutdown signal. -/
def stop (manager : RecordManager) : Option RecordManager :=
  match manager.stopping with
  | .running => some { manager with stopping := .mainWorkerStopped }
  | .mainWorkerStopped =>
      some { manager with
        worker := { manager.worker with runningFlag := false }, stopping := .flagCleared }
  | .flagCleared =>
      some { manager with
        worker := { manager.worker with state := .idle }, stopping := .stateCleared }
  | .stateCleared =>
      some { manager with worker := manager.worker.notifyOne, stopping := .stopped }
  | .stopped => none

def step (manager : RecordManager) : Action → Option RecordManager
  | .testRunningFlag =>
      if manager.stopping = .running ∧ manager.worker.call = .none then
        some { manager with mainWorkerReady := true }
      else none
  | .invoke call =>
      if manager.mainWorkerReady then
        (manager.worker.invoke call).map fun worker =>
          { manager with worker, mainWorkerReady := false }
      else none
  | .call => manager.worker.callStep.map fun worker => { manager with worker }
  | .thread (.save _ _) => none
  | .thread choice => (manager.worker.threadStep choice).map fun worker => { manager with worker }
  | .saveWavFile now isOpen written => manager.saveWavFile now isOpen written
  | .processFilterWavFileEvent => manager.processFilterWavFileEvent
  | .filter index outcome => manager.filterStep index outcome
  | .stop => manager.stop

/-- The record manager, started when there are some files already. -/
def protocol (files : Files) : System RecordManager Action where
  init := { files }
  step := step

/-- The recording has been reported at its destination. -/
def Reported (manager : RecordManager) (index : Nat) : Prop :=
  ∃ thread, manager.filters[index]? = some thread ∧ thread.pc.reported = true

/-- The sources of the recordings that have not been reported at their destinations. -/
def awaiting (manager : RecordManager) : List String :=
  ((manager.filters.filter fun thread => !thread.pc.reported).map fun thread =>
    thread.wavFilePath) ++ manager.worker.handed

/-- The destinations that have been reported. -/
def delivered (manager : RecordManager) : List String :=
  (manager.filters.filter fun thread => thread.pc.reported).map fun thread =>
    thread.filteredFilePath

/--
A save writes all of its samples, to a path at which no recording awaits its report; a copy
does not go to a destination that has been reported; and a source is removed only when no
recording awaits its report there, so in particular not after a failure.
-/
def Keeping (manager : RecordManager) : Action → Prop
  | .saveWavFile now isOpen written =>
      isOpen = true → written = true ∧
        2 * manager.worker.alsaHelper.audioBuffer.length < UInt32.size ∧
          recordPath (putTime now) ∉ manager.awaiting
  | .filter index outcome => ∀ thread ∈ manager.filters[index]?,
      (thread.pc.copies = true → outcome ≠ .fails →
        thread.filteredFilePath ∉ manager.delivered) ∧
      (thread.pc.removes = true → outcome = .succeeds → thread.wavFilePath ∉ manager.awaiting)
  | .testRunningFlag | .invoke _ | .call | .thread _ | .processFilterWavFileEvent | .stop => True

instance (manager : RecordManager) : (action : Action) → Decidable (manager.Keeping action)
  | .saveWavFile _ _ _ => inferInstanceAs (Decidable (_ → _ ∧ _ ∧ _))
  | .filter index _ => inferInstanceAs (Decidable (∀ thread ∈ manager.filters[index]?, _ ∧ _))
  | .testRunningFlag | .invoke _ | .call | .thread _ | .processFilterWavFileEvent | .stop =>
      isTrue trivial

/-- How many sessions have been reported as saved. -/
def announced (manager : RecordManager) : Nat :=
  manager.worker.sent.countP fun noti => noti.command = .stopRecordNoti && noti.isSuccess

/-- The recording is in its source, or in the destination that has been reported. -/
def Held (manager : RecordManager) (index : Nat) (file : WavFile) : Prop :=
  manager.files.Hold file.path file.samples ∨
    ∃ thread, manager.filters[index]? = some thread ∧
      .filtered thread.filteredFilePath thread.durationSec ∈ manager.worker.sent ∧
        manager.files.Hold thread.filteredFilePath file.samples

/-- Every recording that has been reported as saved is in a file. -/
def NothingLost (manager : RecordManager) : Prop :=
  ∀ index file, index < manager.announced → manager.worker.wavFiles[index]? = some file →
    manager.Held index file

/-- What a step can do to the recordings, the files and the filter threads. -/
inductive Step (manager : RecordManager) : Action → RecordManager → Prop
  | quiet (action : Action) (next : RecordManager)
      (worker : manager.worker.KeepsFiles next.worker) (files : next.files = manager.files)
      (filters : next.filters = manager.filters) : Step manager action next
  | save (now : LocalTime) (written : Bool) (file : WavFile) (worker : RecordWorker)
      (path : file.path = recordPath (putTime now))
      (samples : file.samples = manager.worker.alsaHelper.audioBuffer)
      (wavFiles : worker.wavFiles = manager.worker.wavFiles ++ [file])
      (handed : worker.handed = manager.worker.handed ++ [file.path])
      (sent : worker.sent = manager.worker.sent) :
      Step manager (.saveWavFile now true written)
        { manager with worker, files := manager.writeWavFile file written }
  | startFilter (wavFilePath : String) (durationSec : Int) (next : RecordManager)
      (wavFiles : next.worker.wavFiles = manager.worker.wavFiles)
      (handed : manager.worker.handed = wavFilePath :: next.worker.handed)
      (sent : next.worker.sent = manager.worker.sent) (files : next.files = manager.files)
      (filters : next.filters = if wavFilePath = "" then manager.filters
        else manager.filters ++ [FilterThread.mk wavFilePath durationSec "" .sourceExists]) :
      Step manager .processFilterWavFileEvent next
  | filter (index : Nat) (outcome : Outcome) (thread after : FilterThread) (files : Files)
      (noti : Option RecordNoti) (found : manager.filters[index]? = some thread)
      (taken : thread.FilterStep manager.files outcome after files noti) :
      Step manager (.filter index outcome)
        { manager with
          files
          worker := sendNoti manager.worker noti
          filters := manager.filters.set index after }

variable {manager next : RecordManager} {action : Action}

theorem saveWavFile_cases {now : LocalTime} {isOpen written : Bool}
    (stepped : manager.saveWavFile now isOpen written = some next) :
    manager.Step (.saveWavFile now isOpen written) next := by
  rcases Option.map_eq_some_iff.mp stepped with ⟨worker, taken, result⟩
  rcases RecordWorker.threadStep_save taken with ⟨file, saved, path, wavFiles, handed, sent⟩ |
    ⟨unsaved, kept⟩
  · have opened : isOpen = true := by
      cases isOpen with
      | true => rfl
      | false =>
          simp only [AlsaHelper.saveWavFile] at saved
          split at saved <;> simp at saved
    simp only [saved] at result
    subst opened result
    exact .save now written file worker path (RecordWorker.samples_saveWavFile saved) wavFiles
      handed sent
  · simp only [unsaved] at result
    subst result
    exact .quiet _ _ kept rfl rfl

theorem processFilterWavFileEvent_cases (stepped : manager.processFilterWavFileEvent = some next) :
    manager.Step .processFilterWavFileEvent next := by
  simp only [processFilterWavFileEvent, Option.ite_none_right_eq_some] at stepped
  rcases stepped with ⟨-, stepped⟩
  split at stepped
  · next wavFilePath durationSec eventQueue queued =>
      cases stepped
      refine .startFilter wavFilePath durationSec _ rfl ?_ rfl rfl rfl
      simp [RecordWorker.handed, RecordWorker.handing, queued, RecordEvent.filePath]
  · cases stepped

theorem filterStep_cases {index : Nat} {outcome : Outcome}
    (stepped : manager.filterStep index outcome = some next) :
    manager.Step (.filter index outcome) next := by
  rcases Option.bind_eq_some_iff.mp stepped with ⟨thread, found, stepped⟩
  rcases Option.map_eq_some_iff.mp stepped with ⟨⟨after, files, noti⟩, taken, rfl⟩
  exact .filter index outcome thread after files noti found (FilterThread.step_cases taken)

theorem stop_cases (stepped : manager.stop = some next) : manager.Step .stop next := by
  unfold stop at stepped
  split at stepped <;> cases stepped
  · exact .quiet _ _ (RecordWorker.keepsFiles_refl _) rfl rfl
  · exact .quiet _ _ ⟨rfl, rfl, List.Subset.refl _⟩ rfl rfl
  · exact .quiet _ _ ⟨rfl, rfl, List.Subset.refl _⟩ rfl rfl
  · exact .quiet _ _ (RecordWorker.keepsFiles_notifyOne _) rfl rfl

theorem step_cases (stepped : manager.step action = some next) : manager.Step action next := by
  cases action with
  | testRunningFlag =>
      simp only [step, Option.ite_none_right_eq_some, Option.some.injEq] at stepped
      rcases stepped with ⟨-, rfl⟩
      exact .quiet _ _ (RecordWorker.keepsFiles_refl _) rfl rfl
  | invoke call =>
      simp only [step, Option.ite_none_right_eq_some, Option.map_eq_some_iff] at stepped
      rcases stepped with ⟨-, worker, taken, rfl⟩
      exact .quiet _ _ (RecordWorker.keepsFiles_invoke taken) rfl rfl
  | call =>
      rcases Option.map_eq_some_iff.mp stepped with ⟨worker, taken, rfl⟩
      exact .quiet _ _ (RecordWorker.keepsFiles_callStep taken) rfl rfl
  | saveWavFile now isOpen written => exact saveWavFile_cases stepped
  | processFilterWavFileEvent => exact processFilterWavFileEvent_cases stepped
  | filter index outcome => exact filterStep_cases stepped
  | stop => exact stop_cases stepped
  | thread choice =>
      have notSave : ∀ stamp isOpen, choice ≠ .save stamp isOpen := by
        rintro stamp isOpen rfl
        simp [step] at stepped
      have unfolded : manager.step (.thread choice) =
          (manager.worker.threadStep choice).map fun worker => { manager with worker } := by
        cases choice <;> first | rfl | exact absurd rfl (notSave _ _)
      rcases Option.map_eq_some_iff.mp (unfolded ▸ stepped) with ⟨worker, taken, rfl⟩
      exact .quiet _ _ (RecordWorker.keepsFiles_threadStep taken notSave) rfl rfl

/-- Every recording that has been saved is queued or has a filter thread in its place. -/
structure Lined (manager : RecordManager) : Prop where
  handed : (manager.filters.map fun thread => thread.wavFilePath) ++ manager.worker.handed =
    manager.worker.wavFiles.map fun file => file.path
  named : ∀ file ∈ manager.worker.wavFiles, ∃ stamp, Flat stamp ∧ file.path = recordPath stamp

/-- The recordings are where their filter threads need them. -/
structure Safe (manager : RecordManager) : Prop extends Lined manager where
  distinct : ∀ (index other : Nat) (file otherFile : WavFile),
    manager.worker.wavFiles[index]? = some file →
    manager.worker.wavFiles[other]? = some otherFile → ¬ manager.Reported index →
      ¬ manager.Reported other → file.path = otherFile.path → index = other
  waiting : ∀ (index : Nat) (file : WavFile), manager.worker.wavFiles[index]? = some file →
    manager.filters.length ≤ index → manager.files file.path = some (.wav file.samples)
  sound : ∀ (index : Nat) (thread : FilterThread) (file : WavFile),
    manager.filters[index]? = some thread →
    manager.worker.wavFiles[index]? = some file →
      thread.Sound manager.files manager.worker.sent file.samples

theorem lined_init (files : Files) : (protocol files).init.Lined where
  handed := rfl
  named := by simp [protocol]

theorem safe_init (files : Files) : (protocol files).init.Safe where
  toLined := lined_init files
  distinct := by simp [protocol]
  waiting := by simp [protocol]
  sound := by simp [protocol]

variable {index : Nat} {thread : FilterThread} {file : WavFile}

theorem Lined.length_le (lined : manager.Lined) :
    manager.filters.length ≤ manager.worker.wavFiles.length := by
  have lengths := congrArg List.length lined.handed
  simp only [List.length_append, List.length_map] at lengths
  omega

theorem Lined.exists_file (lined : manager.Lined) (found : manager.filters[index]? = some thread) :
    ∃ file, manager.worker.wavFiles[index]? = some file := by
  rcases List.getElem?_eq_some_iff.mp found with ⟨inside, -⟩
  have bound := lined.length_le
  exact ⟨_, List.getElem?_eq_getElem (by omega)⟩

/-- A filter thread works on the recording in its place. -/
theorem Lined.wavFilePath (lined : manager.Lined) (found : manager.filters[index]? = some thread)
    (saved : manager.worker.wavFiles[index]? = some file) : thread.wavFilePath = file.path := by
  have paths := congrArg (fun paths => paths[index]?) lined.handed
  rcases List.getElem?_eq_some_iff.mp found with ⟨inside, -⟩
  rw [List.getElem?_append_left (by simpa using inside)] at paths
  simpa [found, saved] using paths

/-- The path of a recording, as that of one of its files. -/
theorem Lined.exists_stamp (lined : manager.Lined)
    (saved : manager.worker.wavFiles[index]? = some file) :
    ∃ stamp, Flat stamp ∧ file.path = RecordFile.path (recordPath stamp) .source :=
  lined.named file (List.mem_of_getElem? saved)

/-- A thread and the stamp of the recording that it works on. -/
theorem Lined.exists_stamp_of_thread (lined : manager.Lined)
    (found : manager.filters[index]? = some thread) :
    ∃ stamp file, Flat stamp ∧ manager.worker.wavFiles[index]? = some file ∧
      file.path = recordPath stamp ∧ thread.wavFilePath = recordPath stamp := by
  rcases lined.exists_file found with ⟨file, saved⟩
  rcases lined.exists_stamp saved with ⟨stamp, flat, path⟩
  exact ⟨stamp, file, flat, saved, path, (lined.wavFilePath found saved).trans path⟩

theorem recordPath_ne_empty (stamp : String) : recordPath stamp ≠ "" := by
  intro same
  simpa [recordPath, wavOutputDir] using congrArg String.toList same

theorem sent_sendNoti (worker : RecordWorker) (noti : Option RecordNoti) :
    (sendNoti worker noti).sent = worker.sent ++ noti.toList := by
  cases noti <;> simp [sendNoti, RecordWorker.send]

theorem keepsFiles_sendNoti (worker : RecordWorker) (noti : Option RecordNoti) :
    worker.KeepsFiles (sendNoti worker noti) := by
  cases noti with
  | none => exact RecordWorker.keepsFiles_refl worker
  | some noti => exact ⟨rfl, rfl, List.subset_append_left _ _⟩

theorem Lined.startFilter (lined : manager.Lined) {wavFilePath : String} {durationSec : Int}
    (wavFiles : next.worker.wavFiles = manager.worker.wavFiles)
    (handed : manager.worker.handed = wavFilePath :: next.worker.handed)
    (filters : next.filters = if wavFilePath = "" then manager.filters
      else manager.filters ++ [FilterThread.mk wavFilePath durationSec "" .sourceExists]) :
    next.Lined ∧ next.filters =
        manager.filters ++ [FilterThread.mk wavFilePath durationSec "" .sourceExists] ∧
      ∃ file, manager.worker.wavFiles[manager.filters.length]? = some file ∧
        file.path = wavFilePath := by
  have paths := lined.handed
  rw [handed] at paths
  have first := congrArg (fun paths => paths[manager.filters.length]?) paths
  rw [List.getElem?_append_right (by simp)] at first
  simp only [List.length_map, Nat.sub_self, List.getElem?_cons_zero, List.getElem?_map] at first
  rcases Option.map_eq_some_iff.mp first.symm with ⟨file, saved, path⟩
  rcases lined.exists_stamp saved with ⟨stamp, -, stampPath⟩
  have notEmpty : wavFilePath ≠ "" := by
    rw [← path, stampPath]
    exact recordPath_ne_empty stamp
  rw [if_neg notEmpty] at filters
  refine ⟨⟨?_, ?_⟩, filters, file, saved, path⟩
  · rw [filters, wavFiles, ← paths]
    simp
  · rw [wavFiles]
    exact lined.named

theorem Lined.filter (lined : manager.Lined) {outcome : Outcome} {after : FilterThread}
    {files : Files} {noti : Option RecordNoti} (found : manager.filters[index]? = some thread)
    (taken : thread.FilterStep manager.files outcome after files noti) :
    Lined { manager with
      files
      worker := sendNoti manager.worker noti
      filters := manager.filters.set index after } := by
  have kept := keepsFiles_sendNoti manager.worker noti
  rcases List.getElem?_eq_some_iff.mp found with ⟨inside, element⟩
  refine ⟨?_, ?_⟩
  · rw [kept.handed, kept.wavFiles, ← lined.handed, List.map_set, taken.wavFilePath]
    congr 1
    apply List.ext_getElem?
    intro other
    by_cases same : index = other
    · subst same
      simp [inside, element]
    · simp [List.getElem?_set_ne same]
  · rw [kept.wavFiles]
    exact lined.named

theorem Lined.quiet (lined : manager.Lined) (worker : manager.worker.KeepsFiles next.worker)
    (filters : next.filters = manager.filters) : next.Lined where
  handed := by
    rw [filters, worker.handed, worker.wavFiles]
    exact lined.handed
  named := by
    rw [worker.wavFiles]
    exact lined.named

theorem Lined.save (lined : manager.Lined) {stamp : String} {worker : RecordWorker} {files : Files}
    (flat : Flat stamp) (path : file.path = recordPath stamp)
    (wavFiles : worker.wavFiles = manager.worker.wavFiles ++ [file])
    (handed : worker.handed = manager.worker.handed ++ [file.path]) :
    Lined { manager with worker, files } where
  handed := by
    rw [handed, wavFiles, ← List.append_assoc, lined.handed]
    simp
  named := by
    intro other member
    rw [wavFiles, List.mem_append, List.mem_singleton] at member
    rcases member with earlier | rfl
    · exact lined.named other earlier
    · exact ⟨stamp, flat, path⟩

theorem lined_step (lined : manager.Lined) (stepped : manager.step action = some next) :
    next.Lined := by
  cases step_cases stepped with
  | quiet action next worker files filters => exact lined.quiet worker filters
  | save now written file worker path samples wavFiles handed sent =>
      exact lined.save (flat_putTime now) path wavFiles handed
  | startFilter wavFilePath durationSec next wavFiles handed sent files filters =>
      exact (lined.startFilter wavFiles handed filters).1
  | filter index outcome thread after files noti found taken => exact lined.filter found taken

theorem Lined.mem_awaiting (lined : manager.Lined)
    (saved : manager.worker.wavFiles[index]? = some file) (unreported : ¬ manager.Reported index) :
    file.path ∈ manager.awaiting := by
  cases found : manager.filters[index]? with
  | some thread =>
      refine List.mem_append_left _ (List.mem_map.mpr ⟨thread, ?_, lined.wavFilePath found saved⟩)
      refine List.mem_filter.mpr ⟨List.mem_of_getElem? found, ?_⟩
      cases reported : thread.pc.reported with
      | false => rfl
      | true => exact absurd ⟨thread, found, reported⟩ unreported
  | none =>
      refine List.mem_append_right _ (List.mem_of_getElem? (i := index - manager.filters.length) ?_)
      have paths := congrArg (fun paths => paths[index]?) lined.handed
      rw [List.getElem?_append_right (by simpa using found)] at paths
      simpa [saved] using paths

theorem Safe.held (safe : manager.Safe) (saved : manager.worker.wavFiles[index]? = some file) :
    manager.Held index file := by
  cases found : manager.filters[index]? with
  | none => exact Or.inl (Or.inl (safe.waiting index file saved (by simpa using found)))
  | some thread =>
      have sound := safe.sound index thread file found saved
      cases reported : thread.pc.reported with
      | false =>
          have source := sound.source reported
          rw [safe.wavFilePath found saved] at source
          exact Or.inl (Or.inl source)
      | true =>
          have copied : thread.pc.copied = true := by
            by_contra notCopied
            simp [FilterThread.reported_of_not_copied (by simpa using notCopied)] at reported
          exact Or.inr ⟨thread, found, sound.told reported, sound.held copied⟩

theorem Safe.nothingLost (safe : manager.Safe) : manager.NothingLost :=
  fun _ _ _ saved => safe.held saved

theorem Safe.quiet (safe : manager.Safe) (worker : manager.worker.KeepsFiles next.worker)
    (files : next.files = manager.files) (filters : next.filters = manager.filters) :
    next.Safe := by
  have reported : ∀ index, next.Reported index ↔ manager.Reported index := by
    simp [Reported, filters]
  refine ⟨safe.toLined.quiet worker filters, ?_, ?_, ?_⟩
  · simp only [worker.wavFiles, reported]
    exact safe.distinct
  · rw [worker.wavFiles, filters, files]
    exact safe.waiting
  · rw [worker.wavFiles, filters, files]
    intro index thread file found saved
    exact (safe.sound index thread file found saved).frame worker.sent (fun _ => rfl)
      (fun _ => rfl) (fun _ => rfl)

theorem dataChunk_of_fits {samples : List Int16} (fits : 2 * samples.length < UInt32.size) :
    dataChunk samples = samples := by
  have small : samples.length * 2 < UInt32.size := by omega
  have whole : samples.length * 2 / 2 = samples.length := by omega
  rw [dataChunk, Nat.mod_eq_of_lt small, whole, List.take_length]

theorem not_reported_of_length_le (late : manager.filters.length ≤ index) :
    ¬ manager.Reported index := by
  rintro ⟨thread, found, -⟩
  rcases List.getElem?_eq_some_iff.mp found with ⟨inside, -⟩
  omega

theorem not_reported_of_found (found : manager.filters[index]? = some thread)
    (unreported : thread.pc.reported = false) : ¬ manager.Reported index := by
  rintro ⟨other, otherFound, reported⟩
  obtain rfl := Option.some.inj (found.symm.trans otherFound)
  simp [unreported] at reported

theorem getElem?_concat_cases {Entry : Type} {entries : List Entry} {last entry : Entry}
    (found : (entries ++ [last])[index]? = some entry) :
    entries[index]? = some entry ∨ index = entries.length ∧ entry = last := by
  rw [List.getElem?_append] at found
  split at found
  · exact Or.inl found
  · rcases List.getElem?_eq_some_iff.mp found with ⟨inside, same⟩
    simp only [List.length_singleton] at inside
    exact Or.inr ⟨by omega, by simpa using same.symm⟩

/-- A save changes no file of a recording but its source. -/
theorem writeWavFile_of_ne_source {now : LocalTime} {stamp : String} (kind : RecordFile)
    (path : file.path = recordPath (putTime now)) (flat : Flat stamp) (other : kind ≠ .source) :
    manager.writeWavFile file true (kind.path (recordPath stamp)) =
      manager.files (kind.path (recordPath stamp)) := by
  apply Function.update_of_ne
  rw [path]
  intro same
  have samePaths : kind.path (recordPath stamp) =
      RecordFile.path (recordPath (putTime now)) .source := same
  exact other (path_inj flat (flat_putTime now) samePaths).1

/-- A recording is saved where no recording awaits its report. -/
theorem Safe.save (safe : manager.Safe) {now : LocalTime} {worker : RecordWorker}
    (path : file.path = recordPath (putTime now))
    (wavFiles : worker.wavFiles = manager.worker.wavFiles ++ [file])
    (handed : worker.handed = manager.worker.handed ++ [file.path])
    (sent : worker.sent = manager.worker.sent) (fits : 2 * file.samples.length < UInt32.size)
    (free : recordPath (putTime now) ∉ manager.awaiting) :
    Safe { manager with worker, files := manager.writeWavFile file true } := by
  have saved : ∀ index earlier, worker.wavFiles[index]? = some earlier →
      manager.worker.wavFiles[index]? = some earlier ∨
        index = manager.worker.wavFiles.length ∧ earlier = file := by
    intro index earlier found
    rw [wavFiles] at found
    exact getElem?_concat_cases found
  have bound := safe.length_le
  have different : ∀ index earlier, manager.worker.wavFiles[index]? = some earlier →
      ¬ manager.Reported index → earlier.path ≠ file.path := by
    intro index earlier found unreported same
    rw [← path, ← same] at free
    exact free (safe.mem_awaiting found unreported)
  refine ⟨safe.toLined.save (flat_putTime now) path wavFiles handed, ?_, ?_, ?_⟩
  · intro first second firstFile secondFile firstSaved secondSaved firstOpen secondOpen same
    rcases saved first firstFile firstSaved with earlier | ⟨rfl, rfl⟩ <;>
      rcases saved second secondFile secondSaved with otherEarlier | ⟨rfl, rfl⟩
    · exact safe.distinct first second _ _ earlier otherEarlier firstOpen secondOpen same
    · exact absurd same (different first firstFile earlier firstOpen)
    · exact absurd same.symm (different second secondFile otherEarlier secondOpen)
    · rfl
  · intro index earlier found late
    rcases saved index earlier found with old | ⟨rfl, rfl⟩
    · have other := different index earlier old (not_reported_of_length_le late)
      exact (Function.update_of_ne other ..).trans (safe.waiting index earlier old late)
    · simp [writeWavFile, dataChunk_of_fits fits]
  · intro index thread earlier found earlierSaved
    rcases saved index earlier earlierSaved with old | ⟨rfl, rfl⟩
    · have sound := safe.sound index thread earlier found old
      have samePath := safe.wavFilePath found old
      rcases safe.exists_stamp old with ⟨stamp, stampFlat, stampPath⟩
      apply sound.frame (by simp [sent])
      · intro unreported
        apply Function.update_of_ne
        rw [samePath]
        exact different index earlier old (not_reported_of_found found unreported)
      · intro _
        rw [samePath, stampPath]
        exact writeWavFile_of_ne_source .temp path stampFlat (by simp)
      · intro copied
        rcases sound.target (Or.inl copied) with ⟨isFilterSuccess, target⟩
        rw [target, samePath, stampPath]
        exact writeWavFile_of_ne_source (.destination isFilterSuccess) path stampFlat (by simp)
    · rcases List.getElem?_eq_some_iff.mp found with ⟨inside, -⟩
      simp only at inside
      omega

/-- The filter thread that is started works on the first recording that has none. -/
theorem Safe.startFilter (safe : manager.Safe) {wavFilePath : String} {durationSec : Int}
    (wavFiles : next.worker.wavFiles = manager.worker.wavFiles)
    (handed : manager.worker.handed = wavFilePath :: next.worker.handed)
    (sent : next.worker.sent = manager.worker.sent) (files : next.files = manager.files)
    (filters : next.filters = if wavFilePath = "" then manager.filters
      else manager.filters ++ [FilterThread.mk wavFilePath durationSec "" .sourceExists]) :
    next.Safe := by
  rcases safe.toLined.startFilter wavFiles handed filters with ⟨lined, filters, file, saved, path⟩
  have reported : ∀ index, next.Reported index ↔ manager.Reported index := by
    intro index
    simp only [Reported, filters, List.getElem?_append]
    split
    · rfl
    · next late =>
        constructor
        · rintro ⟨thread, found, isReported⟩
          rw [List.mem_singleton.mp (List.mem_of_getElem? found)] at isReported
          simp [FilterPc.reported] at isReported
        · intro isReported
          exact absurd isReported (not_reported_of_length_le (by omega))
  refine ⟨lined, ?_, ?_, ?_⟩
  · simp only [wavFiles, reported]
    exact safe.distinct
  · rw [wavFiles, filters, files]
    intro index other found late
    exact safe.waiting index other found (by simp at late; omega)
  · rw [wavFiles, filters, files, sent]
    intro index thread other found otherSaved
    rcases getElem?_concat_cases found with earlier | ⟨rfl, rfl⟩
    · exact safe.sound index thread other earlier otherSaved
    · obtain rfl := Option.some.inj (saved.symm.trans otherSaved)
      refine FilterThread.sound_of_not_copied rfl (by simp) ?_ (by simp [FilterPc.filtered])
      rw [← path]
      exact safe.waiting _ _ saved (Nat.le_refl _)

/-- A file that a recording other than the one in the place relies on. -/
inductive Relied (manager : RecordManager) (index : Nat) : String → Prop
  | source (other : Nat) (file : WavFile) (different : other ≠ index)
      (saved : manager.worker.wavFiles[other]? = some file)
      (unreported : ¬ manager.Reported other) : Relied manager index file.path
  | temp (other : Nat) (thread : FilterThread) (different : other ≠ index)
      (found : manager.filters[other]? = some thread) (filtered : thread.pc.filtered = true) :
      Relied manager index (tempFilteredPath thread.wavFilePath)
  | target (other : Nat) (thread : FilterThread) (different : other ≠ index)
      (found : manager.filters[other]? = some thread) (copied : thread.pc.copied = true) :
      Relied manager index thread.filteredFilePath

theorem not_reported_of_filtered {pc : FilterPc} (filtered : pc.filtered = true) :
    pc.reported = false := by
  rcases pc with _ | _ | _ | _ | _ | _ | _ | _ | _ | _ | _ | _ | _ | _ <;>
    simp_all [FilterPc.filtered, FilterPc.reported]

/-- Another recording with the same name awaits its report. -/
def Shared (manager : RecordManager) (index : Nat) (stamp : String) : Prop :=
  ∃ other thread, other ≠ index ∧ manager.filters[other]? = some thread ∧
    thread.pc.reported = false ∧ thread.wavFilePath = recordPath stamp

theorem Safe.not_shared (safe : manager.Safe) (found : manager.filters[index]? = some thread)
    (unreported : thread.pc.reported = false) {stamp : String}
    (path : thread.wavFilePath = recordPath stamp) : ¬ manager.Shared index stamp := by
  rintro ⟨other, otherThread, different, otherFound, otherUnreported, otherPath⟩
  rcases safe.exists_file found with ⟨file, saved⟩
  rcases safe.exists_file otherFound with ⟨otherFile, otherSaved⟩
  have samePath : otherFile.path = file.path := by
    rw [← safe.wavFilePath found saved, ← safe.wavFilePath otherFound otherSaved, path, otherPath]
  exact different (safe.distinct other index otherFile file otherSaved saved
    (not_reported_of_found otherFound otherUnreported) (not_reported_of_found found unreported)
    samePath)

/-- What the files are that a recording relies on. -/
theorem Safe.relied_cases (safe : manager.Safe) {path : String}
    (relied : manager.Relied index path) :
    ∃ stamp kind, Flat stamp ∧ path = RecordFile.path (recordPath stamp) kind ∧
      (kind = .source ∧ path ∈ manager.awaiting ∨ kind = .temp ∧ manager.Shared index stamp ∨
        (∃ isFilterSuccess, kind = .destination isFilterSuccess) ∧
          (path ∈ manager.delivered ∨ manager.Shared index stamp)) := by
  cases relied with
  | source other file different saved unreported =>
      rcases safe.exists_stamp saved with ⟨stamp, flat, path⟩
      exact ⟨stamp, .source, flat, path, Or.inl ⟨rfl, safe.mem_awaiting saved unreported⟩⟩
  | temp other thread different found filtered =>
      rcases safe.exists_stamp_of_thread found with ⟨stamp, -, flat, -, -, path⟩
      have shared : manager.Shared index stamp :=
        ⟨other, thread, different, found, not_reported_of_filtered filtered, path⟩
      exact ⟨stamp, .temp, flat, by rw [path]; rfl, Or.inr (Or.inl ⟨rfl, shared⟩)⟩
  | target other thread different found copied =>
      rcases safe.exists_stamp_of_thread found with ⟨stamp, file, flat, saved, -, path⟩
      rcases (safe.sound other thread file found saved).target (Or.inl copied) with
        ⟨isFilterSuccess, target⟩
      refine ⟨stamp, .destination isFilterSuccess, flat, by rw [target, path]; rfl,
        Or.inr (Or.inr ⟨⟨isFilterSuccess, rfl⟩, ?_⟩)⟩
      cases reported : thread.pc.reported with
      | true =>
          refine Or.inl (List.mem_map.mpr ⟨thread, ?_, rfl⟩)
          exact List.mem_filter.mpr ⟨List.mem_of_getElem? found, reported⟩
      | false => exact Or.inr ⟨other, thread, different, found, reported, path⟩

/-- A file of this recording that no other recording relies on. -/
theorem Safe.not_relied (safe : manager.Safe) (found : manager.filters[index]? = some thread)
    (kind : RecordFile) (source : kind = .source → thread.wavFilePath ∉ manager.awaiting)
    (unreported : kind ≠ .source → thread.pc.reported = false)
    (undelivered : ∀ isFilterSuccess, kind = .destination isFilterSuccess →
      kind.path thread.wavFilePath ∉ manager.delivered)
    {path : String} (relied : manager.Relied index path) :
    path ≠ kind.path thread.wavFilePath := by
  rcases safe.exists_stamp_of_thread found with ⟨stamp, -, flat, -, -, ownPath⟩
  rcases safe.relied_cases relied with ⟨otherStamp, otherKind, otherFlat, rfl, uses⟩
  intro same
  have sameFile := same
  rw [ownPath] at sameFile
  rcases path_inj otherFlat flat sameFile with ⟨rfl, rfl⟩
  have notShared : otherKind ≠ .source → ¬ manager.Shared index otherStamp :=
    fun other => safe.not_shared found (unreported other) ownPath
  rcases uses with ⟨rfl, awaits⟩ | ⟨rfl, shared⟩ | ⟨⟨isFilterSuccess, rfl⟩, delivered | shared⟩
  · rw [same] at awaits
    exact source rfl awaits
  · exact notShared (by simp) shared
  · exact undelivered isFilterSuccess rfl (same ▸ delivered)
  · exact notShared (by simp) shared

/-- What other recordings rely on survives a step of a filter thread. -/
theorem Safe.files_of_relied (safe : manager.Safe) {outcome : Outcome} {after : FilterThread}
    {files : Files} {noti : Option RecordNoti} (keeping : manager.Keeping (.filter index outcome))
    (found : manager.filters[index]? = some thread)
    (taken : thread.FilterStep manager.files outcome after files noti) {path : String}
    (relied : manager.Relied index path) : files path = manager.files path := by
  have allowed := keeping thread found
  rcases taken.touched with rfl | ⟨kind, content, scratch, unreported, rfl⟩ |
    ⟨isFilterSuccess, content, copying, writes, rfl⟩ | ⟨isSuccess, removing, succeeded, rfl⟩
  · rfl
  · apply Function.update_of_ne
    have notSource : kind ≠ .source := by rcases scratch with rfl | rfl <;> simp
    refine safe.not_relied found kind (fun source => absurd source notSource)
      (fun _ => unreported) ?_ relied
    rcases scratch with rfl | rfl <;> simp
  · apply Function.update_of_ne
    rcases safe.exists_file found with ⟨file, saved⟩
    rcases (safe.sound index thread file found saved).target (Or.inr ⟨isFilterSuccess, copying⟩)
      with ⟨kind, target⟩
    simp only [copying] at allowed
    have undelivered := allowed.1 rfl writes
    rw [target] at undelivered ⊢
    exact safe.not_relied found (.destination kind) (by simp)
      (fun _ => by simp [copying, FilterPc.reported]) (fun _ _ => undelivered) relied
  · apply Function.update_of_ne
    simp only [removing] at allowed
    exact safe.not_relied found .source (fun _ => allowed.2 rfl succeeded) (by simp) (by simp)
      relied

theorem Safe.filter (safe : manager.Safe) {outcome : Outcome} {after : FilterThread}
    {files : Files} {noti : Option RecordNoti} (keeping : manager.Keeping (.filter index outcome))
    (found : manager.filters[index]? = some thread)
    (taken : thread.FilterStep manager.files outcome after files noti) :
    Safe { manager with
      files
      worker := sendNoti manager.worker noti
      filters := manager.filters.set index after } := by
  have kept := keepsFiles_sendNoti manager.worker noti
  have intact : ∀ {path : String}, manager.Relied index path → files path = manager.files path :=
    fun relied => safe.files_of_relied keeping found taken relied
  rcases List.getElem?_eq_some_iff.mp found with ⟨inside, element⟩
  have reported : ∀ other, manager.Reported other → Reported { manager with
      files
      worker := sendNoti manager.worker noti
      filters := manager.filters.set index after } other := by
    rintro other ⟨otherThread, otherFound, isReported⟩
    by_cases same : index = other
    · subst same
      obtain rfl := Option.some.inj (found.symm.trans otherFound)
      exact ⟨after, by simp [inside], taken.reported isReported⟩
    · exact ⟨otherThread, by simpa [List.getElem?_set_ne same] using otherFound, isReported⟩
  refine ⟨safe.toLined.filter found taken, ?_, ?_, ?_⟩
  · rw [kept.wavFiles]
    intro first second firstFile secondFile firstSaved secondSaved firstOpen secondOpen same
    exact safe.distinct first second firstFile secondFile firstSaved secondSaved
      (fun isReported => firstOpen (reported first isReported))
      (fun isReported => secondOpen (reported second isReported)) same
  · rw [kept.wavFiles]
    intro other file saved late
    rw [List.length_set] at late
    have different : other ≠ index := by omega
    have relied := Relied.source other file different saved (not_reported_of_length_le late)
    exact (intact relied).trans (safe.waiting other file saved late)
  · rw [kept.wavFiles]
    intro other otherThread file otherFound saved
    by_cases same : index = other
    · subst same
      obtain rfl : after = otherThread := by simpa [inside] using otherFound
      have sound := safe.sound index thread file found saved
      rcases safe.exists_stamp_of_thread found with ⟨stamp, -, flat, -, -, path⟩
      rw [sent_sendNoti]
      refine sound.step flat path (fun isSuccess removing succeeded => ?_) taken
      have allowed := keeping thread found
      simp only [removing] at allowed
      by_contra unreported
      rw [safe.wavFilePath found saved] at allowed
      exact allowed.2 rfl succeeded (safe.mem_awaiting saved
        (not_reported_of_found found (by simpa using unreported)))
    · rw [List.getElem?_set_ne same] at otherFound
      have sound := safe.sound other otherThread file otherFound saved
      have different : other ≠ index := Ne.symm same
      refine sound.frame kept.sent (fun unreported => ?_)
        (fun filtered => intact (.temp other otherThread different otherFound filtered))
        (fun copied => intact (.target other otherThread different otherFound copied))
      rw [safe.wavFilePath otherFound saved]
      exact intact (.source other file different saved
        (not_reported_of_found otherFound unreported))

theorem safe_step (safe : manager.Safe) (keeping : manager.Keeping action)
    (stepped : manager.step action = some next) : next.Safe := by
  cases step_cases stepped with
  | quiet action next worker files filters => exact safe.quiet worker files filters
  | save now written file worker path samples wavFiles handed sent =>
      rcases keeping rfl with ⟨rfl, fits, free⟩
      exact safe.save path wavFiles handed sent (samples ▸ fits) free
  | startFilter wavFilePath durationSec next wavFiles handed sent files filters =>
      exact safe.startFilter wavFiles handed sent files filters
  | filter index outcome thread after files noti found taken =>
      exact safe.filter keeping found taken

/--
In a run that keeps to `Keeping`, every recording that has been reported as saved is, at every
step, in its source or in the destination that has been reported.
-/
theorem nothingLost_of_keeping (files : Files) {schedule : List Action}
    (keeping : (protocol files).Along Keeping schedule) :
    (protocol files).Visits NothingLost schedule :=
  System.visitsFrom_of_alongFrom
    (fun _ _ _ safe keeping stepped => safe_step safe keeping stepped)
    (fun _ safe => safe.nothingLost) (safe_init files) keeping

/-- A session that captures two samples and saves them. -/
def session (now : LocalTime) : List Action :=
  [.testRunningFlag, .invoke .startRecording] ++ List.replicate 5 .call ++
    List.replicate 5 (.thread .proceed) ++ [.thread (.initAlsa .ready)] ++
    List.replicate 3 (.thread .proceed) ++ [.thread (.read (.frames [1, 2])),
      .testRunningFlag, .invoke .stopRecording, .call, .call, .thread .proceed, .thread .proceed,
      .saveWavFile now true true, .thread .proceed, .thread (.elapsed 1), .thread .proceed]

def noon : LocalTime := ⟨2024, 0, 1, 12, 0, 0⟩

/-- The recording is filtered, copied and removed. -/
def savedAndFiltered : List Action :=
  session noon ++ [.testRunningFlag, .processFilterWavFileEvent] ++
    List.replicate 12 (.filter 0 .succeeds)

theorem nothingLost_savedAndFiltered :
    ((protocol fun _ => none).run savedAndFiltered).map announced = some 1 ∧
      (protocol fun _ => none).Visits NothingLost savedAndFiltered :=
  ⟨by decide +kernel, nothingLost_of_keeping _ (by decide +kernel)⟩

/-- The directory of the destination cannot be created, and the source is removed. -/
def savedAndNotCopied : List Action :=
  session noon ++ [.testRunningFlag, .processFilterWavFileEvent] ++
    List.replicate 6 (.filter 0 .succeeds) ++ [.filter 0 .fails] ++
    List.replicate 3 (.filter 0 .succeeds)

/-- The recording that was reported as saved is in no file. -/
theorem not_nothingLost_savedAndNotCopied :
    ¬ ∀ (files : Files) (schedule : List Action),
      (protocol files).Visits NothingLost schedule := by
  intro nothingLost
  have observed : ((protocol fun _ => none).run savedAndNotCopied).map (fun manager =>
      (manager.announced, manager.worker.wavFiles, manager.filters.map (·.filteredFilePath),
        manager.files "/tmp/record_20240101_120000.wav", manager.files "")) =
      some (1, [⟨"/tmp/record_20240101_120000.wav", [1, 2]⟩], [""], none, none) := by
    decide +kernel
  rcases Option.map_eq_some_iff.mp observed with ⟨manager, ran, observed⟩
  simp only [Prod.mk.injEq] at observed
  rcases observed with ⟨announced, wavFiles, filters, source, target⟩
  have held := System.property_of_visits (nothingLost _ _) ran 0
    ⟨"/tmp/record_20240101_120000.wav", [1, 2]⟩ (by simp [announced]) (by simp [wavFiles])
  rcases held with (inSource | inSource) | ⟨thread, found, -, inTarget⟩
  · simp [source] at inSource
  · simp [source] at inSource
  · have path : thread.filteredFilePath = "" := by
      have paths := congrArg (fun paths => paths[0]?) filters
      simpa [found] using paths
    simp [Files.Hold, path, target] at inTarget

end RecordManager

end RaspberryPiService
