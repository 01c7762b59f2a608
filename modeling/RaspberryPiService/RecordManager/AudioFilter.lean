import Mathlib.Data.List.Basic
import Mathlib.Logic.Function.Basic
import RaspberryPiService.RecordManager.RecordWorker

/-!
# Recordings on disk and their filter threads

`saveWavFile` names a recording after the local time, to the second. For each saved
recording MainWorker detaches a thread that runs `applyFilter`: two sox commands write a
filtered copy next to the recording, the copy, or the recording if sox failed, is copied
to its destination, the result is reported, and the recording is removed.

Every call of a filter thread to the file system or to sox is a step of its own, with an
outcome that the environment chooses. `FilterStep` lists what a step can do.
-/

namespace RaspberryPiService

/-- What `localtime` returns, as far as the name of a file depends on it. -/
structure LocalTime where
  year : Fin 10000
  month : Fin 12
  day : Fin 32
  hour : Fin 24
  minute : Fin 60
  second : Fin 61
deriving DecidableEq

def twoDigits (number : Nat) : List Char :=
  [Nat.digitChar (number / 10), Nat.digitChar (number % 10)]

/-- `put_time` with the format `%Y%m%d_%H%M%S`; months are counted from 0. -/
def putTime (now : LocalTime) : String :=
  String.ofList (twoDigits (now.year / 100) ++ twoDigits (now.year % 100) ++
    twoDigits (now.month + 1) ++ twoDigits now.day ++ ['_'] ++ twoDigits now.hour ++
    twoDigits now.minute ++ twoDigits now.second)

/-- No slash is in the text: as the name of a file it lies in the directory itself. -/
def Flat (text : String) : Prop := '/' ∉ text.toList

theorem digitChar_inj {digit other : Nat} (inside : digit < 10) (otherInside : other < 10)
    (same : Nat.digitChar digit = Nat.digitChar other) : digit = other := by
  have values := congrArg Char.toNat same
  rwa [Nat.toNat_digitChar_of_lt_ten inside, Nat.toNat_digitChar_of_lt_ten otherInside,
    Nat.add_left_cancel_iff] at values

theorem twoDigits_inj {number other : Nat} (inside : number < 100) (otherInside : other < 100)
    (same : twoDigits number = twoDigits other) : number = other := by
  simp only [twoDigits, List.cons.injEq, and_true] at same
  have tens := digitChar_inj (by omega) (by omega) same.1
  have ones := digitChar_inj (by omega) (by omega) same.2
  omega

theorem slash_not_mem_twoDigits {number : Nat} (inside : number < 100) :
    '/' ∉ twoDigits number := by
  have digits : ∀ digit < 10, '/' ≠ Nat.digitChar digit := by decide
  simp only [twoDigits, List.mem_cons, List.not_mem_nil, or_false, not_or]
  exact ⟨digits _ (by omega), digits _ (by omega)⟩

theorem flat_putTime (now : LocalTime) : Flat (putTime now) := by
  simp only [Flat, putTime, String.toList_ofList, List.mem_append, not_or]
  refine ⟨⟨⟨⟨⟨⟨⟨?_, ?_⟩, ?_⟩, ?_⟩, by decide⟩, ?_⟩, ?_⟩, ?_⟩ <;>
    apply slash_not_mem_twoDigits <;> omega

/-- The names of files written in different seconds are different. -/
theorem putTime_inj {now other : LocalTime} (same : putTime now = putTime other) : now = other := by
  have texts := congrArg String.toList same
  simp only [putTime, String.toList_ofList] at texts
  rcases List.append_inj texts (by simp [twoDigits]) with ⟨texts, seconds⟩
  rcases List.append_inj texts (by simp [twoDigits]) with ⟨texts, minutes⟩
  rcases List.append_inj texts (by simp [twoDigits]) with ⟨texts, hours⟩
  rcases List.append_inj texts (by simp [twoDigits]) with ⟨texts, -⟩
  rcases List.append_inj texts (by simp [twoDigits]) with ⟨texts, days⟩
  rcases List.append_inj texts (by simp [twoDigits]) with ⟨texts, months⟩
  rcases List.append_inj texts (by simp [twoDigits]) with ⟨centuries, years⟩
  have sameSecond := twoDigits_inj (by omega) (by omega) seconds
  have sameMinute := twoDigits_inj (by omega) (by omega) minutes
  have sameHour := twoDigits_inj (by omega) (by omega) hours
  have sameDay := twoDigits_inj (by omega) (by omega) days
  have sameMonth := twoDigits_inj (by omega) (by omega) months
  have sameCentury := twoDigits_inj (by omega) (by omega) centuries
  have sameYear := twoDigits_inj (by omega) (by omega) years
  rcases now with ⟨year, month, day, hour, minute, second⟩
  rcases other with ⟨otherYear, otherMonth, otherDay, otherHour, otherMinute, otherSecond⟩
  simp only [LocalTime.mk.injEq, Fin.ext_iff] at *
  omega

/-- The file that `saveWavFile` writes. -/
def recordPath (stamp : String) : String := wavOutputDir ++ "/record_" ++ stamp ++ ".wav"

/-- `path::filename`: what follows the last slash. -/
def fileName (path : String) : String :=
  String.ofList (path.toList.reverse.takeWhile (· ≠ '/')).reverse

def tempDirectoryPath : String := "/tmp"

def filteredAudioDir : String := "/var/local/recordmanager/audio"

def tempFilteredPath (wavFilePath : String) : String :=
  tempDirectoryPath ++ "/" ++ ("filtered_" ++ fileName wavFilePath)

def noiseProfilePath (wavFilePath : String) : String := tempFilteredPath wavFilePath ++ ".prof"

def destinationPath (wavFilePath : String) (isFilterSuccess : Bool) : String :=
  if isFilterSuccess then filteredAudioDir ++ "/" ++ ("filtered_" ++ fileName wavFilePath)
  else filteredAudioDir ++ "/" ++ fileName wavFilePath

theorem fileName_of_flat {path name : String} (directory : String) (flat : Flat name)
    (split : path.toList = directory.toList ++ '/' :: name.toList) : fileName path = name := by
  have passed : ∀ char ∈ name.toList.reverse, decide (char ≠ '/') = true := by
    intro char member
    have outside : char ≠ '/' := by
      rintro rfl
      exact flat (List.mem_reverse.mp member)
    simpa using outside
  have reversed : path.toList.reverse = name.toList.reverse ++ '/' :: directory.toList.reverse := by
    simp [split]
  rw [fileName, reversed, List.takeWhile_append_of_pos passed]
  simp

theorem fileName_recordPath {stamp : String} (flat : Flat stamp) :
    fileName (recordPath stamp) = "record_" ++ stamp ++ ".wav" := by
  have flatName : Flat ("record_" ++ stamp ++ ".wav") := by
    have absent : '/' ∉ stamp.toList := flat
    simp [Flat, absent]
  exact fileName_of_flat "/tmp" flatName (by simp [recordPath, wavOutputDir])

/-- The files that belong to a recording. -/
inductive RecordFile where
  | source
  | temp
  | profile
  | destination (isFilterSuccess : Bool)
deriving DecidableEq

def RecordFile.path (wavFilePath : String) : RecordFile → String
  | .source => wavFilePath
  | .temp => tempFilteredPath wavFilePath
  | .profile => noiseProfilePath wavFilePath
  | .destination isFilterSuccess => destinationPath wavFilePath isFilterSuccess

/-- The characters of a path, with the name of the recording spelled out. -/
theorem toList_path {stamp : String} (flat : Flat stamp) (file : RecordFile) :
    (file.path (recordPath stamp)).toList = match file with
      | .source => "/tmp/record_".toList ++ stamp.toList ++ ".wav".toList
      | .temp => "/tmp/filtered_record_".toList ++ stamp.toList ++ ".wav".toList
      | .profile => "/tmp/filtered_record_".toList ++ stamp.toList ++ ".wav.prof".toList
      | .destination true =>
          "/var/local/recordmanager/audio/filtered_record_".toList ++ stamp.toList ++ ".wav".toList
      | .destination false =>
          "/var/local/recordmanager/audio/record_".toList ++ stamp.toList ++ ".wav".toList := by
  cases file with
  | source => simp [RecordFile.path, recordPath, wavOutputDir]
  | temp => simp [RecordFile.path, tempFilteredPath, tempDirectoryPath, fileName_recordPath flat]
  | profile =>
      simp [RecordFile.path, noiseProfilePath, tempFilteredPath, tempDirectoryPath,
        fileName_recordPath flat]
  | destination isFilterSuccess =>
      cases isFilterSuccess <;>
        simp [RecordFile.path, destinationPath, filteredAudioDir, fileName_recordPath flat]

/-- No two files of any recordings have the same path. -/
theorem path_inj {first second : String} (firstFlat : Flat first) (secondFlat : Flat second)
    {file other : RecordFile}
    (same : file.path (recordPath first) = other.path (recordPath second)) :
    file = other ∧ first = second := by
  have texts := congrArg String.toList same
  rw [toList_path firstFlat, toList_path secondFlat] at texts
  have ends := congrArg (fun text => text.reverse.head?) texts
  rcases file with _ | _ | _ | _ | _ <;> rcases other with _ | _ | _ | _ | _ <;>
    simp [String.toList_inj] at texts ends ⊢ <;> exact texts

/-- What a file holds; `damaged` is anything that was not written to its end. -/
inductive FileContent where
  | wav (samples : List Int16)
  | filtered (samples : List Int16) (noiseReduced : Bool)
  | noiseProfile
  | damaged
deriving DecidableEq

/-- What sox makes of a file. -/
def FileContent.filter (noiseReduced : Bool) : FileContent → FileContent
  | .wav samples => .filtered samples noiseReduced
  | _ => .damaged

abbrev Files : Type := String → Option FileContent

/-- The file holds all of the samples, as they were captured or filtered. -/
def Files.Hold (files : Files) (path : String) (samples : List Int16) : Prop :=
  files path = some (.wav samples) ∨
    ∃ noiseReduced, files path = some (.filtered samples noiseReduced)

/-- The result of an external call; a file may be left written in part. -/
inductive Outcome where
  | succeeds
  | fails
  | failsHalfway
deriving DecidableEq

namespace RecordNoti

def filterFailed : RecordNoti :=
  { command := .filterWavFileNoti, isSuccess := false, message := "FAILED to save WAV file." }

def filtered (filteredFilePath : String) (durationSec : Int) : RecordNoti :=
  { command := .filterWavFileNoti, isSuccess := true
    wavFilePath := filteredFilePath, wavFileDurationSec := toString durationSec }

end RecordNoti

/-- What a filter thread does next; `applyFilter` returns at `notify`. -/
inductive FilterPc where
  | sourceExists
  | tempDirectory
  | createProfile
  | filter (noiseReduced : Bool)
  | profileExists (isFilterSuccess : Bool)
  | removeProfile (isFilterSuccess : Bool)
  | createDirectories (isFilterSuccess : Bool)
  | copyFile (isFilterSuccess : Bool)
  | tempExists
  | removeTemp
  | notify (isSuccess : Bool)
  | existsForRemoval (isSuccess : Bool)
  | removeSource (isSuccess : Bool)
  | finished (isSuccess : Bool)
deriving DecidableEq

namespace FilterPc

/-- `applyFilter` has not copied anything to the destination. -/
def filtering : FilterPc → Bool
  | .sourceExists | .tempDirectory | .createProfile | .filter _ | .profileExists _
  | .removeProfile _ | .createDirectories _ | .copyFile _ => true
  | _ => false

/-- Sox has written the filtered copy that is going to be copied to the destination. -/
def filtered : FilterPc → Bool
  | .profileExists true | .removeProfile true | .createDirectories true | .copyFile true => true
  | _ => false

def copies : FilterPc → Bool
  | .copyFile _ => true
  | _ => false

def removes : FilterPc → Bool
  | .removeSource _ => true
  | _ => false

/-- The destination has been written and `applyFilter` has not failed. -/
def copied : FilterPc → Bool
  | .tempExists | .removeTemp | .notify true | .existsForRemoval true | .removeSource true
  | .finished true => true
  | _ => false

/-- The success has been reported. -/
def reported : FilterPc → Bool
  | .existsForRemoval true | .removeSource true | .finished true => true
  | _ => false

end FilterPc

structure FilterThread where
  wavFilePath : String
  durationSec : Int
  filteredFilePath : String := ""
  pc : FilterPc := .sourceExists
deriving DecidableEq

namespace FilterThread

/-- The file that is copied to the destination. -/
def copySource (thread : FilterThread) (isFilterSuccess : Bool) : String :=
  if isFilterSuccess then tempFilteredPath thread.wavFilePath else thread.wavFilePath

/-- A thread, the files and the notification that is sent, after the next call of the thread. -/
def step (thread : FilterThread) (files : Files) (outcome : Outcome) :
    Option (FilterThread × Files × Option RecordNoti) :=
  match thread.pc, outcome with
  | .sourceExists, .succeeds =>
      if (files thread.wavFilePath).isSome then
        some ({ thread with pc := .tempDirectory }, files, none)
      else some ({ thread with pc := .notify false }, files, none)
  | .sourceExists, _ => some ({ thread with pc := .notify false }, files, none)
  | .tempDirectory, .succeeds => some ({ thread with pc := .createProfile }, files, none)
  | .tempDirectory, _ => some ({ thread with pc := .notify false }, files, none)
  | .createProfile, .succeeds =>
      if (files thread.wavFilePath).isSome then
        some ({ thread with pc := .filter true },
          Function.update files (noiseProfilePath thread.wavFilePath) (some .noiseProfile), none)
      else none
  | .createProfile, .fails => some ({ thread with pc := .filter false }, files, none)
  | .createProfile, .failsHalfway =>
      some ({ thread with pc := .filter false },
        Function.update files (noiseProfilePath thread.wavFilePath) (some .damaged), none)
  | .filter noiseReduced, .succeeds =>
      (files thread.wavFilePath).map fun content =>
        ({ thread with pc := .profileExists true },
          Function.update files (tempFilteredPath thread.wavFilePath)
            (some (content.filter noiseReduced)), none)
  | .filter _, .fails => some ({ thread with pc := .profileExists false }, files, none)
  | .filter _, .failsHalfway =>
      some ({ thread with pc := .profileExists false },
        Function.update files (tempFilteredPath thread.wavFilePath) (some .damaged), none)
  | .profileExists isFilterSuccess, .succeeds =>
      if (files (noiseProfilePath thread.wavFilePath)).isSome then
        some ({ thread with pc := .removeProfile isFilterSuccess }, files, none)
      else some ({ thread with pc := .createDirectories isFilterSuccess }, files, none)
  | .profileExists _, _ => some ({ thread with pc := .notify false }, files, none)
  | .removeProfile isFilterSuccess, .succeeds =>
      some ({ thread with pc := .createDirectories isFilterSuccess },
        Function.update files (noiseProfilePath thread.wavFilePath) none, none)
  | .removeProfile _, _ => some ({ thread with pc := .notify false }, files, none)
  | .createDirectories isFilterSuccess, .succeeds =>
      some ({ thread with
        filteredFilePath := destinationPath thread.wavFilePath isFilterSuccess
        pc := .copyFile isFilterSuccess }, files, none)
  | .createDirectories _, _ => some ({ thread with pc := .notify false }, files, none)
  | .copyFile isFilterSuccess, .succeeds =>
      (files (thread.copySource isFilterSuccess)).map fun content =>
        ({ thread with pc := if isFilterSuccess then .removeTemp else .tempExists },
          Function.update files thread.filteredFilePath (some content), none)
  | .copyFile _, .fails => some ({ thread with pc := .notify false }, files, none)
  | .copyFile _, .failsHalfway =>
      some ({ thread with pc := .notify false },
        Function.update files thread.filteredFilePath (some .damaged), none)
  | .tempExists, .succeeds =>
      if (files (tempFilteredPath thread.wavFilePath)).isSome then
        some ({ thread with pc := .removeTemp }, files, none)
      else some ({ thread with pc := .notify true }, files, none)
  | .tempExists, _ => some ({ thread with pc := .notify false }, files, none)
  | .removeTemp, .succeeds =>
      some ({ thread with pc := .notify true },
        Function.update files (tempFilteredPath thread.wavFilePath) none, none)
  | .removeTemp, _ => some ({ thread with pc := .notify false }, files, none)
  | .notify true, _ =>
      some ({ thread with pc := .existsForRemoval true }, files,
        some (.filtered thread.filteredFilePath thread.durationSec))
  | .notify false, _ =>
      some ({ thread with pc := .existsForRemoval false }, files, some .filterFailed)
  | .existsForRemoval isSuccess, .succeeds =>
      if (files thread.wavFilePath).isSome then
        some ({ thread with pc := .removeSource isSuccess }, files, none)
      else some ({ thread with pc := .finished isSuccess }, files, none)
  | .existsForRemoval isSuccess, _ =>
      some ({ thread with pc := .finished isSuccess }, files, none)
  | .removeSource isSuccess, .succeeds =>
      some ({ thread with pc := .finished isSuccess },
        Function.update files thread.wavFilePath none, none)
  | .removeSource isSuccess, _ => some ({ thread with pc := .finished isSuccess }, files, none)
  | .finished _, _ => none

/-- What a step of a filter thread can do. -/
inductive FilterStep (thread : FilterThread) (files : Files) (outcome : Outcome) :
    FilterThread → Files → Option RecordNoti → Prop
  | proceed (pc : FilterPc) (before : thread.pc.filtering = true) (after : pc.filtering = true)
      (notCopy : ∀ isFilterSuccess, pc ≠ .copyFile isFilterSuccess)
      (ready : pc.filtered = true → thread.pc.filtered = true) :
      FilterStep thread files outcome { thread with pc } files none
  | profile (pc : FilterPc) (content : Option FileContent) (before : thread.pc.filtering = true)
      (after : pc.filtering = true) (notCopy : ∀ isFilterSuccess, pc ≠ .copyFile isFilterSuccess)
      (ready : pc.filtered = true → thread.pc.filtered = true) :
      FilterStep thread files outcome { thread with pc }
        (Function.update files (noiseProfilePath thread.wavFilePath) content) none
  | filter (noiseReduced : Bool) (content : FileContent) (pc : thread.pc = .filter noiseReduced)
      (source : files thread.wavFilePath = some content) :
      FilterStep thread files outcome { thread with pc := .profileExists true }
        (Function.update files (tempFilteredPath thread.wavFilePath)
          (some (content.filter noiseReduced))) none
  | filterHalfway (noiseReduced : Bool) (pc : thread.pc = .filter noiseReduced) :
      FilterStep thread files outcome { thread with pc := .profileExists false }
        (Function.update files (tempFilteredPath thread.wavFilePath) (some .damaged)) none
  | createDirectories (isFilterSuccess : Bool)
      (pc : thread.pc = .createDirectories isFilterSuccess) :
      FilterStep thread files outcome
        { thread with
          filteredFilePath := destinationPath thread.wavFilePath isFilterSuccess
          pc := .copyFile isFilterSuccess } files none
  | copy (isFilterSuccess : Bool) (content : FileContent)
      (pc : thread.pc = .copyFile isFilterSuccess)
      (source : files (thread.copySource isFilterSuccess) = some content)
      (succeeded : outcome = .succeeds) :
      FilterStep thread files outcome
        { thread with pc := if isFilterSuccess then .removeTemp else .tempExists }
        (Function.update files thread.filteredFilePath (some content)) none
  | copyHalfway (isFilterSuccess : Bool) (pc : thread.pc = .copyFile isFilterSuccess)
      (failed : outcome = .failsHalfway) :
      FilterStep thread files outcome { thread with pc := .notify false }
        (Function.update files thread.filteredFilePath (some .damaged)) none
  | abandon (notReported : thread.pc.reported = false) :
      FilterStep thread files outcome { thread with pc := .notify false } files none
  | keepTemp (pc : FilterPc) (before : thread.pc = .tempExists)
      (after : pc = .removeTemp ∨ pc = .notify true) :
      FilterStep thread files outcome { thread with pc } files none
  | removeTemp (pc : thread.pc = .removeTemp) :
      FilterStep thread files outcome { thread with pc := .notify true }
        (Function.update files (tempFilteredPath thread.wavFilePath) none) none
  | notify (pc : thread.pc = .notify true) :
      FilterStep thread files outcome { thread with pc := .existsForRemoval true } files
        (some (.filtered thread.filteredFilePath thread.durationSec))
  | notifyFailed (pc : thread.pc = .notify false) :
      FilterStep thread files outcome { thread with pc := .existsForRemoval false } files
        (some .filterFailed)
  | keepSource (isSuccess : Bool) (pc : FilterPc)
      (before : thread.pc = .existsForRemoval isSuccess ∨ thread.pc = .removeSource isSuccess)
      (after : pc = .removeSource isSuccess ∨ pc = .finished isSuccess) :
      FilterStep thread files outcome { thread with pc } files none
  | removeSource (isSuccess : Bool) (pc : thread.pc = .removeSource isSuccess)
      (succeeded : outcome = .succeeds) :
      FilterStep thread files outcome { thread with pc := .finished isSuccess }
        (Function.update files thread.wavFilePath none) none

variable {thread next : FilterThread} {files nextFiles : Files} {outcome : Outcome}
  {noti : Option RecordNoti}

theorem step_cases (stepped : thread.step files outcome = some (next, nextFiles, noti)) :
    thread.FilterStep files outcome next nextFiles noti := by
  unfold step at stepped
  split at stepped
  · next pc =>
      split at stepped <;> cases stepped
      · apply FilterStep.proceed <;> simp [pc, FilterPc.filtering, FilterPc.filtered]
      · exact .abandon (by simp [pc, FilterPc.reported])
  · next pc _ =>
      cases stepped
      exact .abandon (by simp [pc, FilterPc.reported])
  · next pc =>
      cases stepped
      apply FilterStep.proceed <;> simp [pc, FilterPc.filtering, FilterPc.filtered]
  · next pc _ =>
      cases stepped
      exact .abandon (by simp [pc, FilterPc.reported])
  · next pc =>
      split at stepped
      · cases stepped
        apply FilterStep.profile <;> simp [pc, FilterPc.filtering, FilterPc.filtered]
      · cases stepped
  · next pc =>
      cases stepped
      apply FilterStep.proceed <;> simp [pc, FilterPc.filtering, FilterPc.filtered]
  · next pc =>
      cases stepped
      apply FilterStep.profile <;> simp [pc, FilterPc.filtering, FilterPc.filtered]
  · next noiseReduced pc =>
      rcases Option.map_eq_some_iff.mp stepped with ⟨content, source, taken⟩
      cases taken
      exact .filter noiseReduced content pc source
  · next noiseReduced pc =>
      cases stepped
      apply FilterStep.proceed <;> simp [pc, FilterPc.filtering, FilterPc.filtered]
  · next noiseReduced pc =>
      cases stepped
      exact .filterHalfway noiseReduced pc
  · next isFilterSuccess pc =>
      split at stepped <;> cases stepped
      · apply FilterStep.proceed <;> cases isFilterSuccess <;>
          simp [pc, FilterPc.filtering, FilterPc.filtered]
      · apply FilterStep.proceed <;> cases isFilterSuccess <;>
          simp [pc, FilterPc.filtering, FilterPc.filtered]
  · next isFilterSuccess pc _ =>
      cases stepped
      exact .abandon (by simp [pc, FilterPc.reported])
  · next isFilterSuccess pc =>
      cases stepped
      apply FilterStep.profile <;> cases isFilterSuccess <;>
        simp [pc, FilterPc.filtering, FilterPc.filtered]
  · next isFilterSuccess pc _ =>
      cases stepped
      exact .abandon (by simp [pc, FilterPc.reported])
  · next isFilterSuccess pc =>
      cases stepped
      exact .createDirectories isFilterSuccess pc
  · next isFilterSuccess pc _ =>
      cases stepped
      exact .abandon (by simp [pc, FilterPc.reported])
  · next isFilterSuccess pc =>
      rcases Option.map_eq_some_iff.mp stepped with ⟨content, source, taken⟩
      cases taken
      exact .copy isFilterSuccess content pc source rfl
  · next isFilterSuccess pc =>
      cases stepped
      exact .abandon (by simp [pc, FilterPc.reported])
  · next isFilterSuccess pc =>
      cases stepped
      exact .copyHalfway isFilterSuccess pc rfl
  · next pc =>
      split at stepped <;> cases stepped
      · exact .keepTemp .removeTemp pc (Or.inl rfl)
      · exact .keepTemp (.notify true) pc (Or.inr rfl)
  · next pc _ =>
      cases stepped
      exact .abandon (by simp [pc, FilterPc.reported])
  · next pc =>
      cases stepped
      exact .removeTemp pc
  · next pc _ =>
      cases stepped
      exact .abandon (by simp [pc, FilterPc.reported])
  · next pc =>
      cases stepped
      exact .notify pc
  · next pc =>
      cases stepped
      exact .notifyFailed pc
  · next isSuccess pc =>
      split at stepped <;> cases stepped
      · exact .keepSource isSuccess _ (Or.inl pc) (Or.inl rfl)
      · exact .keepSource isSuccess _ (Or.inl pc) (Or.inr rfl)
  · next isSuccess pc _ =>
      cases stepped
      exact .keepSource isSuccess _ (Or.inl pc) (Or.inr rfl)
  · next isSuccess pc =>
      cases stepped
      exact .removeSource isSuccess pc rfl
  · next isSuccess pc _ =>
      cases stepped
      exact .keepSource isSuccess _ (Or.inr pc) (Or.inr rfl)
  · cases stepped

theorem FilterStep.wavFilePath (taken : thread.FilterStep files outcome next nextFiles noti) :
    next.wavFilePath = thread.wavFilePath := by
  cases taken <;> rfl

theorem FilterStep.reported (taken : thread.FilterStep files outcome next nextFiles noti)
    (already : thread.pc.reported = true) : next.pc.reported = true := by
  cases taken with
  | keepSource isSuccess pc before after =>
      rcases before with before | before <;> rcases after with rfl | rfl <;>
        cases isSuccess <;> simp_all [FilterPc.reported]
  | removeSource isSuccess pc => cases isSuccess <;> simp_all [FilterPc.reported]
  | proceed pc before | profile pc content before =>
      cases pc : thread.pc <;> simp_all [FilterPc.reported, FilterPc.filtering]
  | keepTemp pc before => simp [before, FilterPc.reported] at already
  | abandon notReported => simp [notReported] at already
  | filter | filterHalfway | createDirectories | copy | copyHalfway | removeTemp | notify
  | notifyFailed => simp_all [FilterPc.reported]

/-- The file that a step writes or removes. -/
theorem FilterStep.touched (taken : thread.FilterStep files outcome next nextFiles noti) :
    nextFiles = files ∨
      (∃ (file : RecordFile) (content : Option FileContent),
        (file = .temp ∨ file = .profile) ∧ thread.pc.reported = false ∧
          nextFiles = Function.update files (file.path thread.wavFilePath) content) ∨
      (∃ (isFilterSuccess : Bool) (content : Option FileContent),
        thread.pc = .copyFile isFilterSuccess ∧ outcome ≠ .fails ∧
          nextFiles = Function.update files thread.filteredFilePath content) ∨
      ∃ isSuccess, thread.pc = .removeSource isSuccess ∧ outcome = .succeeds ∧
        nextFiles = Function.update files thread.wavFilePath none := by
  cases taken with
  | proceed | createDirectories | abandon | keepTemp | notify | notifyFailed | keepSource =>
      exact Or.inl rfl
  | profile pc content before =>
      refine Or.inr (Or.inl ⟨.profile, content, Or.inr rfl, ?_, rfl⟩)
      cases pc : thread.pc <;> simp_all [FilterPc.reported, FilterPc.filtering]
  | filter noiseReduced content pc | filterHalfway noiseReduced pc | removeTemp pc =>
      exact Or.inr (Or.inl ⟨.temp, _, Or.inl rfl, by simp [pc, FilterPc.reported], rfl⟩)
  | copy isFilterSuccess content pc source succeeded =>
      exact Or.inr (Or.inr (Or.inl ⟨isFilterSuccess, _, pc, by simp [succeeded], rfl⟩))
  | copyHalfway isFilterSuccess pc failed =>
      exact Or.inr (Or.inr (Or.inl ⟨isFilterSuccess, _, pc, by simp [failed], rfl⟩))
  | removeSource isSuccess pc succeeded =>
      exact Or.inr (Or.inr (Or.inr ⟨isSuccess, pc, succeeded, rfl⟩))

/-- Where the samples of the recording are, as far as its filter thread has come. -/
structure Sound (thread : FilterThread) (files : Files) (sent : List RecordNoti)
    (samples : List Int16) : Prop where
  source : thread.pc.reported = false → files thread.wavFilePath = some (.wav samples)
  temp : thread.pc.filtered = true → ∃ noiseReduced,
    files (tempFilteredPath thread.wavFilePath) = some (.filtered samples noiseReduced)
  target : (thread.pc.copied = true ∨ ∃ isFilterSuccess, thread.pc = .copyFile isFilterSuccess) →
    ∃ isFilterSuccess,
      thread.filteredFilePath = destinationPath thread.wavFilePath isFilterSuccess
  held : thread.pc.copied = true → files.Hold thread.filteredFilePath samples
  told : thread.pc.reported = true →
    .filtered thread.filteredFilePath thread.durationSec ∈ sent

variable {sent nextSent : List RecordNoti} {samples : List Int16}

/-- What other threads do to other files does not matter. -/
theorem Sound.frame (sound : thread.Sound files sent samples) (more : sent ⊆ nextSent)
    (source : thread.pc.reported = false →
      nextFiles thread.wavFilePath = files thread.wavFilePath)
    (temp : thread.pc.filtered = true →
      nextFiles (tempFilteredPath thread.wavFilePath) = files (tempFilteredPath thread.wavFilePath))
    (target : thread.pc.copied = true →
      nextFiles thread.filteredFilePath = files thread.filteredFilePath) :
    thread.Sound nextFiles nextSent samples where
  source unreported := (source unreported).trans (sound.source unreported)
  temp filtered := by simpa only [temp filtered] using sound.temp filtered
  target := sound.target
  held copied := by simpa only [Files.Hold, target copied] using sound.held copied
  told reported := more (sound.told reported)

theorem reported_of_not_copied {pc : FilterPc} (notCopied : pc.copied = false) :
    pc.reported = false := by
  rcases pc with _ | _ | _ | _ | _ | _ | _ | _ | _ | _ | (_ | _) | (_ | _) | (_ | _) | (_ | _) <;>
    simp_all [FilterPc.copied, FilterPc.reported]

theorem not_copied_of_filtering {pc : FilterPc} (filtering : pc.filtering = true) :
    pc.copied = false := by
  cases pc <;> simp_all [FilterPc.filtering, FilterPc.copied]

theorem sound_of_not_copied (notCopied : thread.pc.copied = false)
    (notCopy : ∀ isFilterSuccess, thread.pc ≠ .copyFile isFilterSuccess)
    (source : files thread.wavFilePath = some (.wav samples))
    (temp : thread.pc.filtered = true → ∃ noiseReduced,
      files (tempFilteredPath thread.wavFilePath) = some (.filtered samples noiseReduced)) :
    thread.Sound files sent samples where
  source _ := source
  temp := temp
  target which := by
    rcases which with copied | ⟨isFilterSuccess, copying⟩
    · simp [notCopied] at copied
    · exact absurd copying (notCopy isFilterSuccess)
  held copied := by simp [notCopied] at copied
  told reported := by simp [reported_of_not_copied notCopied] at reported

/-- The files of one recording have different paths. -/
theorem path_ne {stamp : String} (flat : Flat stamp) (file other : RecordFile)
    (different : file ≠ other) : file.path (recordPath stamp) ≠ other.path (recordPath stamp) :=
  fun same => different (path_inj flat flat same).1

/-- The source survives a step that writes another file of the recording. -/
theorem source_update {stamp : String} (flat : Flat stamp)
    (path : thread.wavFilePath = recordPath stamp) (file : RecordFile) (other : file ≠ .source)
    (content : Option FileContent) :
    Function.update files (file.path thread.wavFilePath) content thread.wavFilePath =
      files thread.wavFilePath := by
  apply Function.update_of_ne
  rw [path]
  exact path_ne flat .source file other.symm

theorem temp_update {stamp : String} (flat : Flat stamp)
    (path : thread.wavFilePath = recordPath stamp) (file : RecordFile) (other : file ≠ .temp)
    (content : Option FileContent) :
    Function.update files (file.path thread.wavFilePath) content
        (tempFilteredPath thread.wavFilePath) = files (tempFilteredPath thread.wavFilePath) := by
  apply Function.update_of_ne
  rw [path]
  exact path_ne flat .temp file other.symm

theorem Sound.step {stamp : String} (flat : Flat stamp)
    (path : thread.wavFilePath = recordPath stamp) (sound : thread.Sound files sent samples)
    (keeps : ∀ isSuccess, thread.pc = .removeSource isSuccess → outcome = .succeeds →
      thread.pc.reported = true)
    (taken : thread.FilterStep files outcome next nextFiles noti) :
    next.Sound nextFiles (sent ++ noti.toList) samples := by
  cases taken with
  | proceed pc before after notCopy ready =>
      have notReported := reported_of_not_copied (not_copied_of_filtering before)
      exact sound_of_not_copied (not_copied_of_filtering after) notCopy
        (sound.source notReported) (fun filtered => sound.temp (ready filtered))
  | profile pc content before after notCopy ready =>
      have notReported := reported_of_not_copied (not_copied_of_filtering before)
      refine sound_of_not_copied (not_copied_of_filtering after) notCopy ?_ fun filtered => ?_
      · exact (source_update flat path .profile (by simp) content).trans (sound.source notReported)
      · rcases sound.temp (ready filtered) with ⟨noiseReduced, temp⟩
        exact ⟨noiseReduced, (temp_update flat path .profile (by simp) content).trans temp⟩
  | filter noiseReduced content pc source =>
      have kept := sound.source (by simp [pc, FilterPc.reported])
      obtain rfl : content = .wav samples := by simpa [source] using kept
      refine sound_of_not_copied rfl (by simp) ?_ fun _ => ⟨noiseReduced, ?_⟩
      · exact (source_update flat path .temp (by simp) _).trans kept
      · exact Function.update_self ..
  | filterHalfway noiseReduced pc =>
      have kept := sound.source (by simp [pc, FilterPc.reported])
      refine sound_of_not_copied rfl (by simp) ?_ (by simp [FilterPc.filtered])
      exact (source_update flat path .temp (by simp) _).trans kept
  | createDirectories isFilterSuccess pc =>
      have kept := sound.source (by simp [pc, FilterPc.reported])
      refine ⟨fun _ => kept, fun filtered => sound.temp ?_, fun _ => ⟨isFilterSuccess, rfl⟩,
        by simp [FilterPc.copied], by simp [FilterPc.reported]⟩
      cases isFilterSuccess <;> simp_all [FilterPc.filtered]
  | copy isFilterSuccess content pc source succeeded =>
      have kept := sound.source (by simp [pc, FilterPc.reported])
      rcases sound.target (Or.inr ⟨isFilterSuccess, pc⟩) with ⟨kind, target⟩
      have holds : content = .wav samples ∨
          ∃ noiseReduced, content = .filtered samples noiseReduced := by
        cases isFilterSuccess with
        | false => exact Or.inl (by simpa [copySource, kept, eq_comm] using source)
        | true =>
            rcases sound.temp (by simp [pc, FilterPc.filtered]) with ⟨noiseReduced, temp⟩
            exact Or.inr ⟨noiseReduced, by simpa [copySource, temp, eq_comm] using source⟩
      refine ⟨fun _ => ?_, ?_, fun _ => ⟨kind, target⟩, fun _ => ?_, ?_⟩
      · rw [target]
        exact (source_update flat path (.destination kind) (by simp) _).trans kept
      · cases isFilterSuccess <;> simp [FilterPc.filtered]
      · simpa [Files.Hold] using holds
      · cases isFilterSuccess <;> simp [FilterPc.reported]
  | copyHalfway isFilterSuccess pc failed =>
      have kept := sound.source (by simp [pc, FilterPc.reported])
      rcases sound.target (Or.inr ⟨isFilterSuccess, pc⟩) with ⟨kind, target⟩
      refine sound_of_not_copied rfl (by simp) ?_ (by simp [FilterPc.filtered])
      rw [target]
      exact (source_update flat path (.destination kind) (by simp) _).trans kept
  | abandon notReported =>
      exact sound_of_not_copied rfl (by simp) (sound.source notReported)
        (by simp [FilterPc.filtered])
  | keepTemp pc before after =>
      have copied : thread.pc.copied = true := by simp [before, FilterPc.copied]
      have kept := sound.source (by simp [before, FilterPc.reported])
      refine ⟨fun _ => kept, ?_, fun _ => sound.target (Or.inl copied),
        fun _ => sound.held copied, ?_⟩
      · rcases after with rfl | rfl <;> simp [FilterPc.filtered]
      · rcases after with rfl | rfl <;> simp [FilterPc.reported]
  | removeTemp pc =>
      have copied : thread.pc.copied = true := by simp [pc, FilterPc.copied]
      have kept := sound.source (by simp [pc, FilterPc.reported])
      rcases sound.target (Or.inl copied) with ⟨kind, target⟩
      refine ⟨fun _ => ?_, by simp [FilterPc.filtered], fun _ => ⟨kind, target⟩, fun _ => ?_,
        by simp [FilterPc.reported]⟩
      · exact (source_update flat path .temp (by simp) _).trans kept
      · have same : Function.update files (tempFilteredPath thread.wavFilePath) none
            thread.filteredFilePath = files thread.filteredFilePath := by
          apply Function.update_of_ne
          rw [target, path]
          exact path_ne flat (.destination kind) .temp (by simp)
        simpa only [Files.Hold, same] using sound.held copied
  | notify pc =>
      have copied : thread.pc.copied = true := by simp [pc, FilterPc.copied]
      refine ⟨by simp [FilterPc.reported], by simp [FilterPc.filtered],
        fun _ => sound.target (Or.inl copied), fun _ => sound.held copied, fun _ => by simp⟩
  | notifyFailed pc =>
      have kept := sound.source (by simp [pc, FilterPc.reported])
      exact sound_of_not_copied rfl (by simp) kept (by simp [FilterPc.filtered])
  | keepSource isSuccess pc before after =>
      cases isSuccess with
      | false =>
          have kept := sound.source (by rcases before with before | before <;> rw [before] <;> rfl)
          refine sound_of_not_copied ?_ ?_ kept ?_ <;> rcases after with rfl | rfl <;>
            simp [FilterPc.copied, FilterPc.filtered]
      | true =>
          have copied : thread.pc.copied = true := by
            rcases before with before | before <;> rw [before] <;> rfl
          have reported : thread.pc.reported = true := by
            rcases before with before | before <;> rw [before] <;> rfl
          have stillReported : pc.reported = true := by rcases after with rfl | rfl <;> rfl
          refine ⟨by simp [stillReported], ?_, fun _ => sound.target (Or.inl copied),
            fun _ => sound.held copied, fun _ => by simpa using sound.told reported⟩
          rcases after with rfl | rfl <;> simp [FilterPc.filtered]
  | removeSource isSuccess pc succeeded =>
      have reported := keeps isSuccess pc succeeded
      have copied : thread.pc.copied = true := by
        cases isSuccess <;> simp_all [FilterPc.copied, FilterPc.reported]
      rcases sound.target (Or.inl copied) with ⟨kind, target⟩
      have same : Function.update files thread.wavFilePath none thread.filteredFilePath =
          files thread.filteredFilePath := by
        apply Function.update_of_ne
        rw [target, path]
        exact path_ne flat (.destination kind) .source (by simp)
      refine ⟨?_, by simp [FilterPc.filtered], fun _ => ⟨kind, target⟩, fun _ => ?_,
        fun _ => by simpa using sound.told reported⟩
      · cases isSuccess <;> simp_all [FilterPc.reported]
      · simpa only [Files.Hold, same] using sound.held copied

end FilterThread

end RaspberryPiService
