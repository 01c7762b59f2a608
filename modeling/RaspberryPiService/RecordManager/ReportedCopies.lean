import RaspberryPiService.RecordManager.RecordingNames

/-!
# Copies that have been reported

A filter thread that has reported its copy leaves it alone, and so does every other thread
if no two recordings are saved in the same second. From then on the copy belongs to whoever
was told of it, who may also remove it while the record manager works on other recordings.

A recording whose filter thread has failed is given up. All others are where their filter
threads need them until they are reported, whatever becomes of the copies that have been.
-/

namespace RaspberryPiService

namespace RecordWorker

/-- What the next step of the worker's thread tells the core. -/
def threadNoti? (worker : RecordWorker) : Option RecordNoti :=
  match worker.thread with
  | .notifyInitFailed => some .initFailed
  | .notifyStarted => some .started
  | .notifyEnded reason => some reason.noti
  | .notifySaved => some (.saved worker.alsaHelper.outputFilePath)
  | _ => none

/-- What MainWorker's next step inside a call tells the core. -/
def callNoti? (worker : RecordWorker) : Option RecordNoti :=
  match worker.call with
  | .startReject => some .startRejected
  | .stopReject => some .stopRejected
  | .cancelReject => some .cancelRejected
  | _ => none

/-- Only filter threads tell of filtered recordings. -/
def TellsOfOthers (worker next : RecordWorker) : Prop :=
  ∃ notis, next.sent = worker.sent ++ notis ∧
    ∀ noti ∈ notis, noti.command ≠ .filterWavFileNoti

variable {worker next : RecordWorker}

theorem tellsOfOthers_of_sent_eq (same : next.sent = worker.sent) : worker.TellsOfOthers next :=
  ⟨[], by rw [same, List.append_nil], by simp⟩

theorem tellsOfOthers_of_noti {noti : Option RecordNoti}
    (sent : next.sent = worker.sent ++ noti.toList)
    (other : ∀ told ∈ noti, told.command ≠ .filterWavFileNoti) : worker.TellsOfOthers next :=
  ⟨noti.toList, sent, fun told member => other told (Option.mem_toList.mp member)⟩

theorem sent_notifyOne (worker : RecordWorker) : worker.notifyOne.sent = worker.sent := by
  unfold notifyOne
  split <;> rfl

theorem sent_callStep (stepped : worker.callStep = some next) :
    next.sent = worker.sent ++ worker.callNoti?.toList := by
  cases callStep_cases stepped with
  | startReject pc | stopReject pc | cancelReject pc => simp [callNoti?, pc, send]
  | startNotify pc => simp [callNoti?, pc, sent_notifyOne]
  | startLock pc | startAccept pc | startRefuse pc | startResetCancel pc | startSetRecording pc
  | stopAccept pc | stopRefuse pc | stopSetIdle pc | cancelAccept pc | cancelRefuse pc
  | cancelSetFlag pc | cancelSetIdle pc => simp [callNoti?, pc]

theorem sent_threadStep {choice : Choice} (stepped : worker.threadStep choice = some next) :
    next.sent = worker.sent ++ worker.threadNoti?.toList := by
  cases pc : worker.thread with
  | notifyInitFailed | notifyStarted | notifySaved =>
      cases choice <;> simp only [threadStep, pc, Option.some.injEq, reduceCtorEq] at stepped
      simp [← stepped, threadNoti?, pc, send]
  | notifyEnded reason =>
      cases choice <;> simp only [threadStep, pc, Option.some.injEq, reduceCtorEq] at stepped
      simp [← stepped, threadNoti?, pc, send]
  | endTest isCaptureError =>
      cases choice <;> simp only [threadStep, pc, Option.some.injEq, reduceCtorEq] at stepped
      simp only [← stepped, threadNoti?, pc, endStep, Option.toList_none, List.append_nil]
      split_ifs <;> rfl
  | loopHead | waitLock | waitTest | waitBlock | blocked | woken | clearBuffer | initAlsa
  | resetAfterInit | captureTest | durationTest | captureOnce | saveWavFile | pushFilter
  | resetAfterEnd | exited =>
      simp only [threadNoti?, pc, Option.toList_none, List.append_nil]
      cases choice <;> simp only [threadStep, pc, reduceCtorEq] at stepped <;>
        first
        | cases stepped
          rfl
        | split at stepped <;> cases stepped <;> rfl
        | split at stepped <;> try cases stepped
          split at stepped <;> cases stepped <;> rfl

theorem command_callNoti? (worker : RecordWorker) :
    ∀ noti ∈ worker.callNoti?, noti.command ≠ .filterWavFileNoti := by
  intro noti told
  unfold callNoti? at told
  split at told <;> cases told <;> decide

theorem command_threadNoti? (worker : RecordWorker) :
    ∀ noti ∈ worker.threadNoti?, noti.command ≠ .filterWavFileNoti := by
  intro noti told
  unfold threadNoti? at told
  split at told
  · cases told
    decide
  · cases told
    decide
  · next reason _ =>
      cases told
      cases reason <;> decide
  · cases told
    exact fun same => by cases same
  · cases told

end RecordWorker

/-- `applyFilter` has failed, and its thread has told so. -/
def FilterPc.abandoned : FilterPc → Bool
  | .existsForRemoval false | .removeSource false | .finished false => true
  | _ => false

namespace FilterThread

variable {thread next : FilterThread} {files nextFiles : Files} {outcome : Outcome}
  {noti : Option RecordNoti} {sent nextSent : List RecordNoti} {samples : List Int16}

/-- A thread that has reported its copy may still remove the source, and does nothing else. -/
theorem FilterStep.of_reported (taken : thread.FilterStep files outcome next nextFiles noti)
    (reported : thread.pc.reported = true) :
    next.filteredFilePath = thread.filteredFilePath ∧ next.durationSec = thread.durationSec ∧
      noti = none ∧
        (nextFiles = files ∨ nextFiles = Function.update files thread.wavFilePath none) := by
  cases taken with
  | keepSource => exact ⟨rfl, rfl, rfl, Or.inl rfl⟩
  | removeSource => exact ⟨rfl, rfl, rfl, Or.inr rfl⟩
  | proceed pc before | profile pc content before =>
      cases pc : thread.pc <;> simp_all [FilterPc.reported, FilterPc.filtering]
  | keepTemp pc before => simp [before, FilterPc.reported] at reported
  | abandon notReported => simp [notReported] at reported
  | filter noiseReduced content pc | filterHalfway noiseReduced pc | createDirectories _ pc
  | copy _ content pc | copyHalfway _ pc | removeTemp pc | notify pc | notifyFailed pc =>
      simp [pc, FilterPc.reported] at reported

theorem abandoned_step (stepped : thread.step files outcome = some (next, nextFiles, noti))
    (already : thread.pc.abandoned = true) : next.pc.abandoned = true := by
  unfold FilterPc.abandoned at already
  split at already
  · next pc =>
      cases outcome <;> simp only [step, pc] at stepped
      · split at stepped <;> cases stepped <;> rfl
      all_goals
        cases stepped
        rfl
  · next pc => cases outcome <;> simp only [step, pc] at stepped <;> cases stepped <;> rfl
  · next pc => simp [step, pc] at stepped
  · cases already

/-- The one step that reports a copy. -/
theorem FilterStep.reports (taken : thread.FilterStep files outcome next nextFiles noti)
    (before : thread.pc.reported = false) (after : next.pc.reported = true) :
    thread.pc = .notify true ∧ nextFiles = files ∧
      next = { thread with pc := .existsForRemoval true } ∧
        noti = some (.filtered thread.filteredFilePath thread.durationSec) := by
  cases taken with
  | notify pc => exact ⟨pc, rfl, rfl, rfl⟩
  | keepSource isSuccess pc isBefore isAfter =>
      rcases isBefore with isBefore | isBefore <;> rcases isAfter with rfl | rfl <;>
        cases isSuccess <;> simp_all [FilterPc.reported]
  | removeSource isSuccess pc => cases isSuccess <;> simp_all [FilterPc.reported]
  | proceed pc filtering still | profile pc content filtering still =>
      cases pc <;> simp_all [FilterPc.reported, FilterPc.filtering]
  | keepTemp pc isBefore isAfter =>
      rcases isAfter with rfl | rfl <;> simp [FilterPc.reported] at after
  | copy isFilterSuccess => cases isFilterSuccess <;> simp [FilterPc.reported] at after
  | abandon | filter | filterHalfway | createDirectories | copyHalfway | removeTemp
  | notifyFailed => simp [FilterPc.reported] at after

/-- All other steps tell of nothing or of a failure. -/
theorem FilterStep.silent (taken : thread.FilterStep files outcome next nextFiles noti)
    (same : next.pc.reported = thread.pc.reported) : ∀ told ∈ noti, told.isSuccess = false := by
  cases taken with
  | notify pc => simp [pc, FilterPc.reported] at same
  | notifyFailed =>
      intro told member
      cases member
      rfl
  | proceed | profile | filter | filterHalfway | createDirectories | copy | copyHalfway | abandon
  | keepTemp | removeTemp | keepSource | removeSource => simp

/-- What happens to other files does not matter. -/
theorem Sound.untouched {path : String} (sound : thread.Sound files sent samples)
    (isPath : thread.wavFilePath = path) (more : sent ⊆ nextSent)
    (same : ∀ kind : RecordFile, nextFiles (kind.path path) = files (kind.path path)) :
    thread.Sound nextFiles nextSent samples := by
  subst isPath
  apply sound.frame more
  · exact fun _ => same .source
  · exact fun _ => same .temp
  · intro copied
    rcases sound.target (Or.inl copied) with ⟨isFilterSuccess, target⟩
    rw [target]
    exact same (.destination isFilterSuccess)

end FilterThread

namespace RecordManager

variable {manager next : RecordManager} {times : List LocalTime} {action : Action}
  {index other : Nat} {thread otherThread : FilterThread} {file otherFile : WavFile}

theorem filterStep_eq_some {outcome : Outcome}
    (stepped : manager.filterStep index outcome = some next) :
    ∃ thread after files noti, manager.filters[index]? = some thread ∧
      thread.step manager.files outcome = some (after, files, noti) ∧
        next = { manager with
          files
          worker := sendNoti manager.worker noti
          filters := manager.filters.set index after } := by
  rcases Option.bind_eq_some_iff.mp stepped with ⟨thread, found, stepped⟩
  rcases Option.map_eq_some_iff.mp stepped with ⟨⟨after, files, noti⟩, taken, rfl⟩
  exact ⟨thread, after, files, noti, found, taken, rfl⟩

/-- Whatever is not a step of a filter thread tells of no filtered recording. -/
theorem tellsOfOthers_of_step (stepped : manager.step action = some next)
    (other : action.recording = none) : manager.worker.TellsOfOthers next.worker := by
  have worker : ∀ {worker : RecordWorker} {choice : Choice},
      manager.worker.threadStep choice = some worker → manager.worker.TellsOfOthers worker :=
    fun taken => RecordWorker.tellsOfOthers_of_noti (RecordWorker.sent_threadStep taken)
      (RecordWorker.command_threadNoti? _)
  cases action with
  | testRunningFlag =>
      rcases Option.ite_none_right_eq_some.mp stepped with ⟨-, ⟨⟩⟩
      exact RecordWorker.tellsOfOthers_of_sent_eq rfl
  | invoke call =>
      rcases Option.ite_none_right_eq_some.mp stepped with ⟨-, stepped⟩
      rcases Option.map_eq_some_iff.mp stepped with ⟨worker, taken, rfl⟩
      unfold RecordWorker.invoke at taken
      split at taken <;> cases taken <;> exact RecordWorker.tellsOfOthers_of_sent_eq rfl
  | call =>
      rcases Option.map_eq_some_iff.mp stepped with ⟨worker, taken, rfl⟩
      exact RecordWorker.tellsOfOthers_of_noti (RecordWorker.sent_callStep taken)
        (RecordWorker.command_callNoti? _)
  | thread choice =>
      cases choice with
      | save => cases stepped
      | proceed | initAlsa | exceeded | read | elapsed =>
          rcases Option.map_eq_some_iff.mp stepped with ⟨next, taken, rfl⟩
          exact worker taken
  | saveWavFile now isOpen written =>
      rcases Option.map_eq_some_iff.mp stepped with ⟨next, taken, result⟩
      split at result <;> cases result <;> exact worker taken
  | processFilterWavFileEvent =>
      rcases Option.ite_none_right_eq_some.mp stepped with ⟨-, stepped⟩
      split at stepped <;> cases stepped
      exact RecordWorker.tellsOfOthers_of_sent_eq rfl
  | filter => cases other
  | stop =>
      replace stepped : manager.stop = some next := stepped
      unfold stop at stepped
      split at stepped <;> cases stepped <;> apply RecordWorker.tellsOfOthers_of_sent_eq
      · rfl
      · rfl
      · rfl
      · exact RecordWorker.sent_notifyOne _

/-- The copy of a recording, whose filter thread has reported it. -/
structure Copy (manager : RecordManager) (index : Nat) (thread : FilterThread)
    (file : WavFile) : Prop where
  found : manager.filters[index]? = some thread
  saved : manager.worker.wavFiles[index]? = some file
  reported : thread.pc.reported = true
  target : ∃ isFilterSuccess,
    thread.filteredFilePath = RecordFile.path file.path (.destination isFilterSuccess)

/-- Copies of different recordings have different paths. -/
theorem Copy.index_eq (copy : manager.Copy index thread file)
    (otherCopy : manager.Copy other otherThread otherFile) (named : manager.Named times)
    (nodup : times.Nodup) (same : thread.filteredFilePath = otherThread.filteredFilePath) :
    index = other := by
  rcases copy.target with ⟨kind, target⟩
  rcases otherCopy.target with ⟨otherKind, otherTarget⟩
  by_contra different
  refine named.path_ne nodup different copy.saved otherCopy.saved (.destination kind)
    (.destination otherKind) ?_
  rw [← target, ← otherTarget, same]

/-- What has been saved stays so. -/
theorem wavFiles_of_step (stepped : manager.step action = some next)
    (saved : manager.worker.wavFiles[index]? = some file) :
    next.worker.wavFiles[index]? = some file := by
  cases step_cases stepped with
  | quiet action next worker => rwa [worker.wavFiles]
  | save now written newFile worker path samples wavFiles =>
      rcases List.getElem?_eq_some_iff.mp saved with ⟨inside, -⟩
      simp only [wavFiles]
      rwa [List.getElem?_append_left inside]
  | startFilter wavFilePath durationSec next wavFiles => rwa [wavFiles]
  | filter stepping outcome thread after files noti found taken =>
      rwa [(keepsFiles_sendNoti manager.worker noti).wavFiles]

/-- Threads that take no step stay as they are. -/
theorem filters_of_step (lined : manager.Lined) (stepped : manager.step action = some next)
    (idle : action.recording ≠ some index) (found : manager.filters[index]? = some thread) :
    next.filters[index]? = some thread := by
  cases step_cases stepped with
  | quiet action next worker files filters => rwa [filters]
  | save => exact found
  | startFilter wavFilePath durationSec next wavFiles handed sent files filters =>
      rcases List.getElem?_eq_some_iff.mp found with ⟨inside, -⟩
      rw [(lined.startFilter wavFiles handed filters).2.1, List.getElem?_append_left inside]
      exact found
  | filter stepping outcome stepper after files noti stepperFound taken =>
      have different : stepping ≠ index := fun same => idle (congrArg some same)
      rwa [List.getElem?_set_ne different]

theorem Copy.step (copy : manager.Copy index thread file) (lined : manager.Lined)
    (stepped : manager.step action = some next) :
    ∃ after, next.Copy index after file ∧ after.filteredFilePath = thread.filteredFilePath ∧
      after.durationSec = thread.durationSec := by
  have saved := wavFiles_of_step stepped copy.saved
  by_cases steps : action.recording = some index
  · cases action with
    | filter stepping outcome =>
        cases steps
        rcases filterStep_eq_some stepped with ⟨stepper, after, files, noti, found, taken, rfl⟩
        obtain rfl := Option.some.inj (copy.found.symm.trans found)
        have cases := FilterThread.step_cases taken
        rcases cases.of_reported copy.reported with ⟨target, duration, -, -⟩
        rcases List.getElem?_eq_some_iff.mp found with ⟨inside, -⟩
        exact ⟨after, ⟨by simp [inside], saved, cases.reported copy.reported,
          target ▸ copy.target⟩, target, duration⟩
    | testRunningFlag | invoke | call | thread | saveWavFile | processFilterWavFileEvent
    | stop => cases steps
  · exact ⟨thread, ⟨filters_of_step lined stepped steps copy.found, saved, copy.reported,
      copy.target⟩, rfl, rfl⟩

/-- The record manager leaves a copy that has been reported alone. -/
theorem Copy.files (copy : manager.Copy index thread file) (named : manager.Named times)
    (stepped : manager.step action = some next)
    (nodup : (manager.readTime action next times).Nodup) :
    next.files thread.filteredFilePath = manager.files thread.filteredFilePath := by
  rcases copy.target with ⟨kind, target⟩
  by_cases steps : action.recording = some index
  · cases action with
    | filter stepping outcome =>
        cases steps
        rcases filterStep_eq_some stepped with ⟨stepper, after, files, noti, found, taken, rfl⟩
        obtain rfl := Option.some.inj (copy.found.symm.trans found)
        rcases (FilterThread.step_cases taken).of_reported copy.reported with
          ⟨-, -, -, same | changed⟩
        · rw [same]
        · refine (congrFun changed _).trans (Function.update_of_ne ?_ ..)
          rcases named.exists_time copy.saved with ⟨now, -, path⟩
          rw [target, named.lined.wavFilePath found copy.saved, path]
          exact FilterThread.path_ne (flat_putTime now) (.destination kind) .source (by simp)
    | testRunningFlag | invoke | call | thread | saveWavFile | processFilterWavFileEvent
    | stop => cases steps
  · rw [target]
    exact named.untouched stepped nodup copy.saved steps (.destination kind)

/-- A save that writes anything writes all of its samples. -/
def Whole (manager : RecordManager) : Action → Prop
  | .saveWavFile _ isOpen written =>
      isOpen = true → written = true ∧
        2 * manager.worker.alsaHelper.audioBuffer.length < UInt32.size
  | _ => True

/-- Recordings that have not been reported or given up are where they are needed. -/
structure Prepared (manager : RecordManager) : Prop where
  waiting : ∀ (index : Nat) (file : WavFile), manager.worker.wavFiles[index]? = some file →
    manager.filters.length ≤ index → manager.files file.path = some (.wav file.samples)
  sound : ∀ (index : Nat) (thread : FilterThread) (file : WavFile),
    manager.filters[index]? = some thread → manager.worker.wavFiles[index]? = some file →
      thread.pc.reported = false → thread.pc.abandoned = false →
        thread.Sound manager.files manager.worker.sent file.samples

theorem prepared_init (files : Files) : (protocol files).init.Prepared where
  waiting := by simp [protocol]
  sound := by simp [protocol]

/-- A thread that is about to report its copy has all of the samples in it. -/
theorem Prepared.copied (prepared : manager.Prepared)
    (found : manager.filters[index]? = some thread)
    (saved : manager.worker.wavFiles[index]? = some file) (pc : thread.pc = .notify true) :
    manager.files.Hold thread.filteredFilePath file.samples ∧
      ∃ isFilterSuccess, thread.filteredFilePath =
        RecordFile.path thread.wavFilePath (.destination isFilterSuccess) := by
  have sound := prepared.sound index thread file found saved (by rw [pc]; rfl) (by rw [pc]; rfl)
  have copied : thread.pc.copied = true := by rw [pc]; rfl
  exact ⟨sound.held copied, sound.target (Or.inl copied)⟩

/-- A step of the thread itself. -/
theorem Prepared.filter (prepared : manager.Prepared) (named : manager.Named times)
    {outcome : Outcome} {after : FilterThread} {files : Files} {noti : Option RecordNoti}
    (found : manager.filters[index]? = some thread)
    (saved : manager.worker.wavFiles[index]? = some file)
    (taken : thread.step manager.files outcome = some (after, files, noti))
    (unreported : after.pc.reported = false) (kept : after.pc.abandoned = false) :
    after.Sound files (manager.worker.sent ++ noti.toList) file.samples := by
  have cases := FilterThread.step_cases taken
  have wasUnreported : thread.pc.reported = false := by
    by_contra reported
    simp [cases.reported (by simpa using reported)] at unreported
  have wasKept : thread.pc.abandoned = false := by
    by_contra abandoned
    simp [FilterThread.abandoned_step taken (by simpa using abandoned)] at kept
  rcases named.exists_time saved with ⟨now, -, path⟩
  refine (prepared.sound index thread file found saved wasUnreported wasKept).step
    (flat_putTime now) ((named.lined.wavFilePath found saved).trans path) ?_ cases
  rintro (_ | _) removing -
  · simp [removing, FilterPc.abandoned] at wasKept
  · rw [removing]
    rfl

/-- What has been saved before a step that saves nothing at this place. -/
theorem saved_of_step (stepped : manager.step action = some next)
    (saved : next.worker.wavFiles[index]? = some file) :
    manager.worker.wavFiles[index]? = some file ∨
      index = manager.worker.wavFiles.length ∧ ∃ now written,
        action = .saveWavFile now true written ∧
          file.samples = manager.worker.alsaHelper.audioBuffer ∧
            next.files = manager.writeWavFile file written ∧ next.filters = manager.filters := by
  cases step_cases stepped with
  | quiet action next worker =>
      rw [worker.wavFiles] at saved
      exact Or.inl saved
  | save now written newFile worker path samples wavFiles =>
      simp only [wavFiles] at saved
      rcases getElem?_concat_cases saved with earlier | ⟨last, rfl⟩
      · exact Or.inl earlier
      · exact Or.inr ⟨last, now, written, rfl, samples, rfl, rfl⟩
  | startFilter wavFilePath durationSec next wavFiles =>
      rw [wavFiles] at saved
      exact Or.inl saved
  | filter stepping outcome thread after files noti found taken =>
      simp only [(keepsFiles_sendNoti manager.worker noti).wavFiles] at saved
      exact Or.inl saved

/-- A thread that has taken no step was there before, or has just been started. -/
theorem found_of_step (lined : manager.Lined) (stepped : manager.step action = some next)
    (idle : action.recording ≠ some index) (found : next.filters[index]? = some thread) :
    manager.filters[index]? = some thread ∨
      index = manager.filters.length ∧ thread.pc = .sourceExists ∧
        next.files = manager.files := by
  cases step_cases stepped with
  | quiet action next worker files filters => exact Or.inl (filters ▸ found)
  | save => exact Or.inl found
  | startFilter wavFilePath durationSec next wavFiles handed sent files filters =>
      rw [(lined.startFilter wavFiles handed filters).2.1] at found
      rcases getElem?_concat_cases found with earlier | ⟨last, rfl⟩
      · exact Or.inl earlier
      · exact Or.inr ⟨last, rfl, files⟩
  | filter stepping outcome stepper after files noti stepperFound taken =>
      have different : stepping ≠ index := fun same => idle (congrArg some same)
      rw [List.getElem?_set_ne different] at found
      exact Or.inl found

/-- A copy was there before a step for something else. -/
theorem Copy.earlier (copy : next.Copy index thread file) (lined : manager.Lined)
    (stepped : manager.step action = some next) (idle : action.recording ≠ some index) :
    manager.Copy index thread file := by
  rcases found_of_step lined stepped idle copy.found with found | ⟨-, pc, -⟩
  · rcases saved_of_step stepped copy.saved with saved | ⟨isNew, -⟩
    · exact ⟨found, saved, copy.reported, copy.target⟩
    · rcases List.getElem?_eq_some_iff.mp found with ⟨inside, -⟩
      have bound := lined.length_le
      omega
  · have reported := copy.reported
    simp [pc, FilterPc.reported] at reported

theorem sent_subset_of_step (stepped : manager.step action = some next) :
    manager.worker.sent ⊆ next.worker.sent := by
  cases step_cases stepped with
  | quiet action next worker => exact worker.sent
  | save now written newFile worker path samples wavFiles handed sent =>
      simp only [sent]
      exact List.Subset.refl _
  | startFilter wavFilePath durationSec next wavFiles handed sent =>
      rw [sent]
      exact List.Subset.refl _
  | filter stepping outcome thread after files noti found taken =>
      exact (keepsFiles_sendNoti manager.worker noti).sent

theorem length_filters_of_step (lined : manager.Lined) (stepped : manager.step action = some next) :
    manager.filters.length ≤ next.filters.length := by
  cases step_cases stepped with
  | quiet action next worker files filters => exact Nat.le_of_eq (congrArg List.length filters.symm)
  | save => exact Nat.le_refl _
  | startFilter wavFilePath durationSec next wavFiles handed sent files filters =>
      rw [(lined.startFilter wavFiles handed filters).2.1, List.length_append]
      exact Nat.le_add_right _ _
  | filter stepping outcome thread after files noti found taken =>
      exact Nat.le_of_eq List.length_set.symm

theorem Prepared.step (prepared : manager.Prepared) (named : manager.Named times)
    (stepped : manager.step action = some next)
    (nodup : (manager.readTime action next times).Nodup) (whole : manager.Whole action) :
    next.Prepared := by
  have lined := named.lined
  have nextLined := lined_step lined stepped
  constructor
  · intro index file saved late
    have wasLate : manager.filters.length ≤ index :=
      Nat.le_trans (length_filters_of_step lined stepped) late
    rcases saved_of_step stepped saved with earlier | ⟨-, now, written, rfl, samples, files, -⟩
    · have idle : action.recording ≠ some index := by
        intro steps
        cases action with
        | filter stepping outcome =>
            cases steps
            rcases filterStep_eq_some stepped with ⟨thread, -, -, -, found, -, -⟩
            rcases List.getElem?_eq_some_iff.mp found with ⟨inside, -⟩
            omega
        | testRunningFlag | invoke | call | thread | saveWavFile | processFilterWavFileEvent
        | stop => cases steps
      have same : next.files file.path = manager.files file.path :=
        named.untouched stepped nodup earlier idle .source
      rw [same]
      exact prepared.waiting index file earlier wasLate
    · rcases whole rfl with ⟨rfl, fits⟩
      rw [files, writeWavFile, Function.update_self, samples, if_pos rfl, dataChunk_of_fits fits]
  · intro index thread file found saved unreported kept
    by_cases steps : action.recording = some index
    · cases action with
      | filter stepping outcome =>
          cases steps
          rcases filterStep_eq_some stepped with ⟨before, after, files, noti, was, taken, rfl⟩
          rcases List.getElem?_eq_some_iff.mp was with ⟨inside, -⟩
          obtain rfl : after = thread := by simpa [inside] using found
          simp only [(keepsFiles_sendNoti manager.worker noti).wavFiles] at saved
          rw [sent_sendNoti]
          exact prepared.filter named was saved taken unreported kept
      | testRunningFlag | invoke | call | thread | saveWavFile | processFilterWavFileEvent
      | stop => cases steps
    · rcases found_of_step lined stepped steps found with was | ⟨last, pc, files⟩
      · rcases saved_of_step stepped saved with earlier | ⟨isNew, -⟩
        · exact (prepared.sound index thread file was earlier unreported kept).untouched
            (lined.wavFilePath was earlier) (sent_subset_of_step stepped)
            (named.untouched stepped nodup earlier steps)
        · rcases List.getElem?_eq_some_iff.mp was with ⟨inside, -⟩
          have bound := lined.length_le
          omega
      · rcases saved_of_step stepped saved with earlier | ⟨-, -, -, -, -, -, filters⟩
        · have waiting := prepared.waiting index file earlier (Nat.le_of_eq last.symm)
          rw [← files, ← nextLined.wavFilePath found saved] at waiting
          exact FilterThread.sound_of_not_copied (by rw [pc]; rfl) (by simp [pc]) waiting
            (by simp [pc, FilterPc.filtered])
        · rw [filters, last] at found
          simp at found

/-- The copies of `next` have been reported before. -/
def KeepsCopies (manager next : RecordManager) (kept : Nat → Prop) : Prop :=
  ∀ (index : Nat) (thread : FilterThread) (file : WavFile), kept index →
    next.Copy index thread file → ∃ before, manager.Copy index before file ∧
      before.filteredFilePath = thread.filteredFilePath

/-- A step tells of no copy, or it reports the one that it tells of. -/
theorem copies_of_step (prepared : manager.Prepared) (named : manager.Named times)
    (stepped : manager.step action = some next) :
    (∃ notis, next.worker.sent = manager.worker.sent ++ notis ∧
      (∀ noti ∈ notis, ¬ (noti.command = .filterWavFileNoti ∧ noti.isSuccess = true)) ∧
        manager.KeepsCopies next fun _ => True) ∨
    ∃ index thread file, next.Copy index thread file ∧
      next.worker.sent = manager.worker.sent ++
        [.filtered thread.filteredFilePath thread.durationSec] ∧
      next.files.Hold thread.filteredFilePath file.samples ∧
      (∀ before ∈ manager.filters[index]?, before.pc.reported = false) ∧
        manager.KeepsCopies next fun other => other ≠ index := by
  have lined := named.lined
  cases steps : action.recording with
  | none =>
      rcases tellsOfOthers_of_step stepped steps with ⟨notis, sent, others⟩
      refine Or.inl ⟨notis, sent, fun noti member tells => others noti member tells.1, ?_⟩
      intro index thread file _ copy
      exact ⟨thread, copy.earlier lined stepped (by simp [steps]), rfl⟩
  | some index =>
      obtain ⟨outcome, rfl⟩ : ∃ outcome, action = .filter index outcome := by
        cases action <;> cases steps
        exact ⟨_, rfl⟩
      have others : manager.KeepsCopies next fun other => other ≠ index := by
        intro other thread file different copy
        refine ⟨thread, copy.earlier lined stepped ?_, rfl⟩
        exact fun same => different (Option.some.inj same).symm
      rcases filterStep_eq_some stepped with ⟨before, after, files, noti, found, taken, rfl⟩
      rcases List.getElem?_eq_some_iff.mp found with ⟨inside, -⟩
      rcases lined.exists_file found with ⟨file, saved⟩
      have cases := FilterThread.step_cases taken
      have stillSaved :
          (sendNoti manager.worker noti).wavFiles[index]? = some file := by
        rwa [(keepsFiles_sendNoti manager.worker noti).wavFiles]
      by_cases same : after.pc.reported = before.pc.reported
      · refine Or.inl ⟨noti.toList, sent_sendNoti _ _, ?_, ?_⟩
        · intro told member tells
          have silent := cases.silent same told (Option.mem_toList.mp member)
          simp [silent] at tells
        · intro other thread otherFile _ copy
          by_cases isIndex : other = index
          · subst isIndex
            obtain rfl : after = thread := by simpa [inside] using copy.found
            have reported := copy.reported.symm.trans same
            have target := (cases.of_reported reported.symm).1
            obtain rfl := Option.some.inj (stillSaved.symm.trans copy.saved)
            exact ⟨before, ⟨found, saved, reported.symm, target ▸ copy.target⟩, target.symm⟩
          · exact others other thread otherFile isIndex copy
      · have wasNot : before.pc.reported = false := by
          by_contra reported
          have reported : before.pc.reported = true := by simpa using reported
          exact same ((cases.reported reported).trans reported.symm)
        have isNow : after.pc.reported = true := by simpa [wasNot] using same
        rcases cases.reports wasNot isNow with ⟨pc, rfl, rfl, rfl⟩
        rcases prepared.copied found saved pc with ⟨held, target⟩
        refine Or.inr ⟨index, _, file, ⟨by simp [inside], stillSaved, isNow, ?_⟩,
          sent_sendNoti _ _, held, ?_, others⟩
        · rwa [lined.wavFilePath found saved] at target
        · intro thread isBefore
          obtain rfl := Option.some.inj (found.symm.trans isBefore)
          exact wasNot

/-- The copies that have been reported may be removed. -/
theorem Prepared.remove (prepared : manager.Prepared) (named : manager.Named times)
    (nodup : times.Nodup) (copy : manager.Copy index thread file) :
    Prepared { manager with
      files := Function.update manager.files thread.filteredFilePath none } := by
  rcases copy.target with ⟨kind, target⟩
  have untouched : ∀ {other : Nat} {otherFile : WavFile}, other ≠ index →
      manager.worker.wavFiles[other]? = some otherFile → ∀ otherKind : RecordFile,
        Function.update manager.files thread.filteredFilePath none
          (otherKind.path otherFile.path) = manager.files (otherKind.path otherFile.path) := by
    intro other otherFile different saved otherKind
    apply Function.update_of_ne
    rw [target]
    exact named.path_ne nodup different saved copy.saved otherKind (.destination kind)
  constructor
  · intro other otherFile saved late
    have different : other ≠ index := by
      rintro rfl
      rcases List.getElem?_eq_some_iff.mp copy.found with ⟨inside, -⟩
      simp only at late
      omega
    exact (untouched different saved .source).trans (prepared.waiting other otherFile saved late)
  · intro other otherThread otherFile found saved unreported kept
    have different : other ≠ index := by
      rintro rfl
      obtain rfl := Option.some.inj (copy.found.symm.trans found)
      simp [copy.reported] at unreported
    exact (prepared.sound other otherThread otherFile found saved unreported kept).untouched
      (named.lined.wavFilePath found saved) (List.Subset.refl _) (untouched different saved)

end RecordManager

end RaspberryPiService
