import Mathlib.Data.List.Nodup
import RaspberryPiService.RecordManager.AudioFiles

/-!
# The names of the recordings

The name of a recording is made from the local time of its save alone. The readings of the
clock at the successful saves are recorded; recordings keep apart, with their sources and
their destinations, exactly when no two of them were saved in the same second of local time.
-/

namespace RaspberryPiService

namespace RecordManager

/-- The local times at which recordings have been saved, after another step. -/
def readTime (manager : RecordManager) (action : Action) (next : RecordManager)
    (times : List LocalTime) : List LocalTime :=
  match action with
  | .saveWavFile now _ _ =>
      if manager.worker.wavFiles.length < next.worker.wavFiles.length then times ++ [now]
      else times
  | _ => times

def readings (files : Files) : System (RecordManager × List LocalTime) Action :=
  (protocol files).withHistory [] readTime

/-- The recordings have different sources, and different destinations as far as they are known. -/
def Distinct (manager : RecordManager) : Prop :=
  ∀ (index other : Nat) (file otherFile : WavFile), index ≠ other →
    manager.worker.wavFiles[index]? = some file →
    manager.worker.wavFiles[other]? = some otherFile →
      file.path ≠ otherFile.path ∧
        ∀ thread ∈ manager.filters[index]?, ∀ otherThread ∈ manager.filters[other]?,
          thread.filteredFilePath ≠ "" → otherThread.filteredFilePath ≠ "" →
            thread.filteredFilePath ≠ otherThread.filteredFilePath

/-- The recording whose filter thread takes a step. -/
def Action.recording : Action → Option Nat
  | .filter index _ => some index
  | _ => none

/-- The recordings are named after the readings of the clock. -/
structure Named (manager : RecordManager) (times : List LocalTime) : Prop where
  lined : manager.Lined
  paths : manager.worker.wavFiles.map (fun file => file.path) =
    times.map fun now => recordPath (putTime now)
  targets : ∀ thread ∈ manager.filters,
    (thread.filteredFilePath = "" ∧ thread.pc.copies = false) ∨
      ∃ isFilterSuccess,
        thread.filteredFilePath = destinationPath thread.wavFilePath isFilterSuccess

variable {manager next : RecordManager} {times nextTimes : List LocalTime} {action : Action}
  {index other : Nat} {file otherFile : WavFile} {thread after : FilterThread}

/-- A step sets the destination of its thread, or leaves it and comes to no copy. -/
theorem filteredFilePath_of_step {files nextFiles : Files} {outcome : Outcome}
    {noti : Option RecordNoti}
    (taken : thread.FilterStep files outcome after nextFiles noti) :
    (after.filteredFilePath = thread.filteredFilePath ∧ after.pc.copies = false) ∨
      ∃ isFilterSuccess,
        after.filteredFilePath = destinationPath after.wavFilePath isFilterSuccess := by
  cases taken with
  | createDirectories isFilterSuccess pc => exact Or.inr ⟨isFilterSuccess, rfl⟩
  | proceed pc before afterwards notCopy | profile pc content before afterwards notCopy =>
      refine Or.inl ⟨rfl, ?_⟩
      cases pc <;> simp_all [FilterPc.copies]
  | copy isFilterSuccess => cases isFilterSuccess <;> exact Or.inl ⟨rfl, rfl⟩
  | keepTemp pc before afterwards | keepSource isSuccess pc before afterwards =>
      rcases afterwards with rfl | rfl <;> exact Or.inl ⟨rfl, rfl⟩
  | filter | filterHalfway | copyHalfway | abandon | removeTemp | notify | notifyFailed
  | removeSource => exact Or.inl ⟨rfl, rfl⟩

theorem named_init (files : Files) : (protocol files).init.Named [] where
  lined := lined_init files
  paths := rfl
  targets := by simp [protocol]

theorem named_step (named : manager.Named times) (stepped : manager.step action = some next) :
    next.Named (manager.readTime action next times) := by
  have lined := lined_step named.lined stepped
  cases step_cases stepped with
  | quiet action next worker files filters =>
      refine ⟨lined, ?_, filters ▸ named.targets⟩
      have same : manager.readTime action next times = times := by
        cases action <;> simp [readTime, worker.wavFiles]
      rw [worker.wavFiles, same]
      exact named.paths
  | save now written file worker path samples wavFiles handed sent =>
      refine ⟨lined, ?_, named.targets⟩
      simp [readTime, wavFiles, path, named.paths]
  | startFilter wavFilePath durationSec next wavFiles handed sent files filters =>
      refine ⟨lined, ?_, ?_⟩
      · rw [wavFiles]
        exact named.paths
      · intro thread member
        rw [(named.lined.startFilter wavFiles handed filters).2.1, List.mem_append,
          List.mem_singleton] at member
        rcases member with earlier | rfl
        · exact named.targets thread earlier
        · exact Or.inl ⟨rfl, rfl⟩
  | filter index outcome thread after files noti found taken =>
      refine ⟨lined, ?_, ?_⟩
      · rw [(keepsFiles_sendNoti manager.worker noti).wavFiles]
        exact named.paths
      · intro other member
        rcases List.mem_or_eq_of_mem_set member with earlier | rfl
        · exact named.targets other earlier
        · rcases filteredFilePath_of_step taken with ⟨same, noCopy⟩ | target
          · rcases named.targets thread (List.mem_of_getElem? found) with ⟨unset, -⟩ |
              ⟨isFilterSuccess, target⟩
            · exact Or.inl ⟨same.trans unset, noCopy⟩
            · exact Or.inr ⟨isFilterSuccess, by rw [same, target, taken.wavFilePath]⟩
          · exact Or.inr target

theorem Named.exists_time (named : manager.Named times)
    (saved : manager.worker.wavFiles[index]? = some file) :
    ∃ now, times[index]? = some now ∧ file.path = recordPath (putTime now) := by
  have paths := congrArg (fun paths => paths[index]?) named.paths
  simp only [List.getElem?_map, saved, Option.map_some] at paths
  rcases Option.map_eq_some_iff.mp paths.symm with ⟨now, read, path⟩
  exact ⟨now, read, path.symm⟩

/-- Files of recordings that were saved in different seconds have different paths. -/
theorem Named.path_ne (named : manager.Named times) (nodup : times.Nodup)
    (different : index ≠ other) (saved : manager.worker.wavFiles[index]? = some file)
    (otherSaved : manager.worker.wavFiles[other]? = some otherFile) (kind otherKind : RecordFile) :
    kind.path file.path ≠ otherKind.path otherFile.path := by
  rcases named.exists_time saved with ⟨now, read, path⟩
  rcases named.exists_time otherSaved with ⟨otherNow, otherRead, otherPath⟩
  rw [path, otherPath]
  intro same
  have sameStamp := (path_inj (flat_putTime now) (flat_putTime otherNow) same).2
  obtain rfl := putTime_inj sameStamp
  rcases List.getElem?_eq_some_iff.mp read with ⟨inside, element⟩
  rcases List.getElem?_eq_some_iff.mp otherRead with ⟨otherInside, otherElement⟩
  exact different (nodup.getElem_inj_iff.mp (element.trans otherElement.symm))

theorem Named.target (named : manager.Named times)
    (found : manager.filters[index]? = some thread) (set : thread.filteredFilePath ≠ "")
    (saved : manager.worker.wavFiles[index]? = some file) :
    ∃ isFilterSuccess,
      thread.filteredFilePath = RecordFile.path file.path (.destination isFilterSuccess) := by
  rcases named.targets thread (List.mem_of_getElem? found) with ⟨unset, -⟩ | ⟨kind, target⟩
  · exact absurd unset set
  · exact ⟨kind, by rw [target, named.lined.wavFilePath found saved]; rfl⟩

theorem Named.distinct (named : manager.Named times) (nodup : times.Nodup) :
    manager.Distinct := by
  intro index other file otherFile different saved otherSaved
  refine ⟨named.path_ne nodup different saved otherSaved .source .source, ?_⟩
  intro thread found otherThread otherFound set otherSet
  rcases named.target found set saved with ⟨kind, target⟩
  rcases named.target otherFound otherSet otherSaved with ⟨otherKind, otherTarget⟩
  rw [target, otherTarget]
  exact named.path_ne nodup different saved otherSaved (.destination kind) (.destination otherKind)

theorem Named.nodup (named : manager.Named times) (distinct : manager.Distinct) :
    times.Nodup := by
  have saved : ∀ index (inside : index < times.length), ∃ file,
      manager.worker.wavFiles[index]? = some file ∧
        file.path = recordPath (putTime (times.get ⟨index, inside⟩)) := by
    intro index inside
    have paths := congrArg (fun paths => paths[index]?) named.paths
    simp only [List.getElem?_map, List.getElem?_eq_getElem inside, Option.map_some] at paths
    rcases Option.map_eq_some_iff.mp paths with ⟨file, found, path⟩
    exact ⟨file, found, path⟩
  rw [List.nodup_iff_injective_get]
  intro first second same
  rcases saved first first.isLt with ⟨file, found, path⟩
  rcases saved second second.isLt with ⟨otherFile, otherFound, otherPath⟩
  by_contra different
  refine (distinct first second file otherFile ?_ found otherFound).1 ?_
  · exact fun sameIndex => different (Fin.ext sameIndex)
  · rw [path, otherPath]
    exact congrArg (fun now => recordPath (putTime now)) same

/-- The file that a step writes or removes is one of the recording whose thread takes the step. -/
theorem Named.touched (named : manager.Named times)
    (saved : manager.worker.wavFiles[index]? = some file)
    (found : manager.filters[index]? = some thread) {outcome : Outcome} {files : Files}
    {noti : Option RecordNoti}
    (taken : thread.FilterStep manager.files outcome after files noti) :
    files = manager.files ∨ ∃ (kind : RecordFile) (content : Option FileContent),
      files = Function.update manager.files (kind.path file.path) content := by
  rw [← named.lined.wavFilePath found saved]
  rcases taken.touched with same | ⟨kind, content, -, -, changed⟩ |
    ⟨isFilterSuccess, content, copying, -, changed⟩ | ⟨-, -, -, changed⟩
  · exact Or.inl same
  · exact Or.inr ⟨kind, content, changed⟩
  · rcases named.targets thread (List.mem_of_getElem? found) with ⟨-, noCopy⟩ | ⟨kind, target⟩
    · simp [copying, FilterPc.copies] at noCopy
    · exact Or.inr ⟨.destination kind, content, by rw [changed, target]; rfl⟩
  · exact Or.inr ⟨.source, none, changed⟩

/-- A step for one recording leaves alone the files of the others. -/
theorem Named.untouched (named : manager.Named times) (stepped : manager.step action = some next)
    (nodup : (manager.readTime action next times).Nodup)
    (saved : manager.worker.wavFiles[index]? = some file) (other : action.recording ≠ some index)
    (kind : RecordFile) :
    next.files (kind.path file.path) = manager.files (kind.path file.path) := by
  have nextNamed := named_step named stepped
  cases step_cases stepped with
  | quiet action next worker files filters => rw [files]
  | startFilter wavFilePath durationSec next wavFiles handed sent files filters => rw [files]
  | save now written newFile worker path samples wavFiles handed sent =>
      apply Function.update_of_ne
      rcases List.getElem?_eq_some_iff.mp saved with ⟨inside, -⟩
      have stillSaved : worker.wavFiles[index]? = some file := by
        rw [wavFiles, List.getElem?_append_left inside]
        exact saved
      have newSaved : worker.wavFiles[manager.worker.wavFiles.length]? = some newFile := by
        simp [wavFiles]
      exact nextNamed.path_ne nodup (Nat.ne_of_lt inside) stillSaved newSaved kind .source
  | filter stepping outcome thread after files noti found taken =>
      rcases named.lined.exists_file found with ⟨ownFile, ownSaved⟩
      have different : index ≠ stepping := by
        rintro rfl
        exact other rfl
      rcases named.touched ownSaved found taken with same | ⟨ownKind, content, changed⟩
      · exact congrFun same _
      · refine (congrFun changed _).trans (Function.update_of_ne ?_ ..)
        exact named.path_ne nodup different saved ownSaved kind ownKind

theorem named_of_run {files : Files} {schedule : List Action}
    (ran : (readings files).run schedule = some (manager, times)) : manager.Named times :=
  System.invariant_of_run (fun recorded : RecordManager × List LocalTime =>
      recorded.1.Named recorded.2) (named_init files)
    (fun recorded action next named stepped => by
      rcases System.withHistory_step_eq_some.mp stepped with ⟨stepped, history⟩
      rw [history]
      exact named_step named stepped) ran

/--
The recordings have different sources and destinations exactly when they were saved in
different seconds of local time; and as long as this is so, the steps that are taken for a
recording do not touch the source or the destinations of another.
-/
theorem distinct_iff_nodup {files : Files} {schedule : List Action}
    (ran : (readings files).run schedule = some (manager, times)) :
    (manager.Distinct ↔ times.Nodup) ∧
      ∀ (action : Action) (next : RecordManager) (nextTimes : List LocalTime),
        (readings files).step (manager, times) action = some (next, nextTimes) →
        nextTimes.Nodup → ∀ (index : Nat) (file : WavFile),
          manager.worker.wavFiles[index]? = some file → action.recording ≠ some index →
          ∀ kind : RecordFile,
            next.files (kind.path file.path) = manager.files (kind.path file.path) := by
  have named := named_of_run ran
  refine ⟨⟨named.nodup, named.distinct⟩, ?_⟩
  intro action next nextTimes stepped nodup index file saved other kind
  rcases System.withHistory_step_eq_some.mp stepped with ⟨stepped, history⟩
  simp only at history
  exact named.untouched stepped (history ▸ nodup) saved other kind

def oneMinuteToOne : LocalTime := { noon with minute := Fin.last 59 }

/-- Two recordings, saved 59 minutes apart; the second one is about to be copied. -/
def filteredApart : List Action :=
  savedAndFiltered ++ session oneMinuteToOne ++ [.testRunningFlag, .processFilterWavFileEvent] ++
    List.replicate 7 (.filter 1 .succeeds)

/-- The copy of the second recording does not touch the first one. -/
theorem distinct_filteredApart :
    ∃ manager copied,
      (readings fun _ => none).run filteredApart = some (manager, [noon, oneMinuteToOne]) ∧
      (readings fun _ => none).step (manager, [noon, oneMinuteToOne]) (.filter 1 .succeeds) =
        some (copied, [noon, oneMinuteToOne]) ∧
      manager.filters.map FilterThread.filteredFilePath =
        ["/var/local/recordmanager/audio/filtered_record_20240101_120000.wav",
          "/var/local/recordmanager/audio/filtered_record_20240101_125900.wav"] ∧
      manager.Distinct ∧
      ∀ kind : RecordFile, copied.files (kind.path "/tmp/record_20240101_120000.wav") =
        manager.files (kind.path "/tmp/record_20240101_120000.wav") := by
  have observed : ((readings fun _ => none).run filteredApart).map (fun recorded =>
      (recorded.2, recorded.1.worker.wavFiles[0]?, recorded.1.filters.map (·.filteredFilePath),
        ((readings fun _ => none).step recorded (.filter 1 .succeeds)).map Prod.snd)) =
      some ([noon, oneMinuteToOne], some ⟨"/tmp/record_20240101_120000.wav", [1, 2]⟩,
        ["/var/local/recordmanager/audio/filtered_record_20240101_120000.wav",
          "/var/local/recordmanager/audio/filtered_record_20240101_125900.wav"],
        some [noon, oneMinuteToOne]) := by
    decide +kernel
  rcases Option.map_eq_some_iff.mp observed with ⟨⟨manager, times⟩, ran, observed⟩
  simp only [Prod.mk.injEq] at observed
  rcases observed with ⟨rfl, saved, filters, stepped⟩
  rcases Option.map_eq_some_iff.mp stepped with ⟨⟨copied, times⟩, stepped, rfl⟩
  have distinct := distinct_iff_nodup ran
  refine ⟨manager, copied, ran, stepped, filters, distinct.1.mpr (by decide), ?_⟩
  exact distinct.2 _ copied _ stepped (by decide) 0 _ saved (by decide)

/-- Two recordings, saved in the same second. -/
def savedTogether : List Action := session noon ++ session noon

theorem not_distinct_savedTogether :
    ¬ ∀ (files : Files) (schedule : List Action) (manager : RecordManager),
      (protocol files).run schedule = some manager → manager.Distinct := by
  intro distinct
  have observed : ((protocol fun _ => none).run savedTogether).map
      (fun manager => manager.worker.wavFiles) =
        some (List.replicate 2 ⟨"/tmp/record_20240101_120000.wav", [1, 2]⟩) := by decide +kernel
  rcases Option.map_eq_some_iff.mp observed with ⟨manager, ran, wavFiles⟩
  have saved : ∀ index < 2, manager.worker.wavFiles[index]? =
      some ⟨"/tmp/record_20240101_120000.wav", [1, 2]⟩ := by
    intro index bound
    rw [wavFiles, List.getElem?_replicate_of_lt bound]
  have first := saved 0 (by simp)
  have second := saved 1 (by simp)
  exact (distinct _ _ manager ran 0 1 _ _ (by simp) first second).1 rfl

end RecordManager

end RaspberryPiService
