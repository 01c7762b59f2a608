import RaspberryPiService.RecordManager.AudioFilter
import RaspberryPiService.Transition.Runs

/-!
# What a call of `applyFilter` leaves behind

Sox writes two files for a call, the noise profile and the filtered copy. Both are removed
again on the way, and one `catch` at the end turns every exception into a failure. This file
follows one call from its entry to its return, with nothing else in between, and proves
which exceptions leave a file behind or a recording that was not there before.
-/

namespace RaspberryPiService

namespace FilterPc

def returned : FilterPc → Bool
  | .notify _ | .existsForRemoval _ | .removeSource _ | .finished _ => true
  | _ => false

def beforeSox : FilterPc → Bool
  | .sourceExists | .tempDirectory | .createProfile => true
  | _ => false

/-- The noise profile has been looked for, and removed. -/
def profileRemoved : FilterPc → Bool
  | .createDirectories _ | .copyFile _ | .tempExists | .removeTemp | .notify true => true
  | _ => false

/-- A call of the file system, after sox. -/
def afterSox : FilterPc → Bool
  | .profileExists _ | .removeProfile _ | .createDirectories _ | .copyFile _ | .tempExists
  | .removeTemp => true
  | _ => false

/-- The file that the next command of sox writes, if it writes one. -/
def creates : FilterPc → Outcome → List RecordFile
  | .createProfile, .fails | .filter _, .fails => []
  | .createProfile, _ => [.profile]
  | .filter _, _ => [.temp]
  | _, _ => []

theorem not_copied_of_beforeSox {pc : FilterPc} (before : pc.beforeSox = true) :
    pc.copied = false ∧ pc.copies = false ∧ ∀ isSuccess, pc ≠ .notify isSuccess := by
  cases pc <;> simp_all [beforeSox, copied, copies]

theorem not_afterSox_of_beforeSox {pc : FilterPc} (before : pc.beforeSox = true) :
    pc.afterSox = false := by
  cases pc <;> simp_all [beforeSox, afterSox]

end FilterPc

/-- A call of `applyFilter`, with the files that sox has written for it. -/
structure FilterCall where
  thread : FilterThread
  files : Files
  created : List RecordFile := []

namespace FilterCall

def step (call : FilterCall) (outcome : Outcome) : Option FilterCall :=
  if call.thread.pc.returned then none
  else
    (call.thread.step call.files outcome).map fun (thread, files, _) =>
      { thread, files, created := call.thread.pc.creates outcome ++ call.created }

/-- A call on a file system. The duration of the recording is not looked at. -/
def applyFilter (wavFilePath : String) (files : Files) : System FilterCall Outcome where
  init := { thread := { wavFilePath, durationSec := 0 }, files }
  step := step

def audioPath (name : String) : String := filteredAudioDir ++ "/" ++ name

/--
Nothing that sox has written is left, and after a failure the destination directory is as
it was.
-/
structure CleansUp (initial : Files) (call : FilterCall) (isSuccess : Bool) : Prop where
  removed : ∀ file ∈ call.created, call.files (file.path call.thread.wavFilePath) = none
  unchanged : isSuccess = false →
    ∀ name, call.files (audioPath name) = initial (audioPath name)

/--
An exception finds no file that sox has written, except for a noise profile that has been
removed by then, and no copy of the recording, unless the destination held the same before.
-/
def Harmless (initial : Files) (call : FilterCall) (outcome : Outcome) : Prop :=
  outcome ≠ .succeeds →
    match call.thread.pc with
    | .profileExists _ | .removeProfile _ => call.created = []
    | .createDirectories _ => .temp ∉ call.created
    | .copyFile _ =>
        .temp ∉ call.created ∧
          (outcome = .failsHalfway → call.files call.thread.filteredFilePath = some .damaged)
    | .tempExists | .removeTemp =>
        .temp ∉ call.created ∧
          call.files call.thread.filteredFilePath = initial call.thread.filteredFilePath
    | _ => True

instance decidableHarmless (initial : Files) (call : FilterCall) (outcome : Outcome) :
    Decidable (Harmless initial call outcome) := by
  unfold Harmless
  cases call.thread.pc <;> infer_instance

def goTo (call : FilterCall) (pc : FilterPc) : FilterCall :=
  { call with thread := { call.thread with pc } }

/-- Sox writes a file of the recording, on the way to `pc`. -/
def writes (call : FilterCall) (pc : FilterPc) (file : RecordFile) (content : FileContent) :
    FilterCall where
  thread := { call.thread with pc }
  files := Function.update call.files (file.path call.thread.wavFilePath) (some content)
  created := file :: call.created

/-- `applyFilter` removes a file of the recording, on the way to `pc`. -/
def removes (call : FilterCall) (pc : FilterPc) (file : RecordFile) : FilterCall where
  thread := { call.thread with pc }
  files := Function.update call.files (file.path call.thread.wavFilePath) none
  created := call.created

/-- `copyFile` writes the destination, on the way to `pc`. -/
def copies (call : FilterCall) (pc : FilterPc) (content : FileContent) : FilterCall where
  thread := { call.thread with pc }
  files := Function.update call.files call.thread.filteredFilePath (some content)
  created := call.created

def aims (call : FilterCall) (isFilterSuccess : Bool) : FilterCall where
  thread := { call.thread with
    filteredFilePath := destinationPath call.thread.wavFilePath isFilterSuccess
    pc := .copyFile isFilterSuccess }
  files := call.files
  created := call.created

/-- What a step of a call can do. -/
inductive CallStep (call : FilterCall) (outcome : Outcome) : FilterCall → Prop
  | early (pc : FilterPc) (before : call.thread.pc.beforeSox = true) (after : pc.beforeSox = true) :
      CallStep call outcome (call.goTo pc)
  | absent (before : call.thread.pc.beforeSox = true) :
      CallStep call outcome (call.goTo (.notify false))
  | createProfile (noiseReduced : Bool) (content : FileContent)
      (pc : call.thread.pc = .createProfile) :
      CallStep call outcome (call.writes (.filter noiseReduced) .profile content)
  | noProfile (pc : call.thread.pc = .createProfile) :
      CallStep call outcome (call.goTo (.filter false))
  | filter (noiseReduced isFilterSuccess : Bool) (content : FileContent)
      (pc : call.thread.pc = .filter noiseReduced) :
      CallStep call outcome (call.writes (.profileExists isFilterSuccess) .temp content)
  | noFilter (noiseReduced : Bool) (pc : call.thread.pc = .filter noiseReduced) :
      CallStep call outcome (call.goTo (.profileExists false))
  | profileFound (isFilterSuccess : Bool) (pc : call.thread.pc = .profileExists isFilterSuccess)
      (succeeded : outcome = .succeeds) :
      CallStep call outcome (call.goTo (.removeProfile isFilterSuccess))
  | profileAbsent (isFilterSuccess : Bool) (pc : call.thread.pc = .profileExists isFilterSuccess)
      (succeeded : outcome = .succeeds)
      (absent : call.files (noiseProfilePath call.thread.wavFilePath) = none) :
      CallStep call outcome (call.goTo (.createDirectories isFilterSuccess))
  | removeProfile (isFilterSuccess : Bool) (pc : call.thread.pc = .removeProfile isFilterSuccess)
      (succeeded : outcome = .succeeds) :
      CallStep call outcome (call.removes (.createDirectories isFilterSuccess) .profile)
  | createDirectories (isFilterSuccess : Bool)
      (pc : call.thread.pc = .createDirectories isFilterSuccess)
      (succeeded : outcome = .succeeds) :
      CallStep call outcome (call.aims isFilterSuccess)
  | copy (isFilterSuccess : Bool) (next : FilterPc) (content : FileContent)
      (pc : call.thread.pc = .copyFile isFilterSuccess) (succeeded : outcome = .succeeds)
      (after : next = .tempExists ∨ next = .removeTemp) :
      CallStep call outcome (call.copies next content)
  | copyHalfway (isFilterSuccess : Bool) (pc : call.thread.pc = .copyFile isFilterSuccess)
      (failed : outcome = .failsHalfway) :
      CallStep call outcome (call.copies (.notify false) .damaged)
  | tempFound (pc : call.thread.pc = .tempExists) (succeeded : outcome = .succeeds) :
      CallStep call outcome (call.goTo .removeTemp)
  | tempAbsent (pc : call.thread.pc = .tempExists) (succeeded : outcome = .succeeds)
      (absent : call.files (tempFilteredPath call.thread.wavFilePath) = none) :
      CallStep call outcome (call.goTo (.notify true))
  | removeTemp (pc : call.thread.pc = .removeTemp) (succeeded : outcome = .succeeds) :
      CallStep call outcome (call.removes (.notify true) .temp)
  | throws (failed : outcome ≠ .succeeds) (pc : call.thread.pc.afterSox = true)
      (whole : ∀ isFilterSuccess, call.thread.pc = .copyFile isFilterSuccess →
        outcome = .fails) :
      CallStep call outcome (call.goTo (.notify false))

variable {wavFilePath : String} {initial : Files} {call next : FilterCall} {outcome : Outcome}

theorem step_cases (stepped : call.step outcome = some next) : call.CallStep outcome next := by
  rcases call with ⟨⟨wavFilePath, durationSec, filteredFilePath, pc⟩, files, created⟩
  simp only [step, Option.ite_none_left_eq_some, Option.map_eq_some_iff] at stepped
  rcases stepped with ⟨running, ⟨thread, files', noti⟩, stepped, rfl⟩
  unfold FilterThread.step at stepped
  cases pc with
  | sourceExists =>
      rcases outcome with _ | _ | _ <;> simp only at stepped
      · split at stepped <;> cases stepped
        · exact .early .tempDirectory rfl rfl
        · exact .absent rfl
      · cases stepped
        exact .absent rfl
      · cases stepped
        exact .absent rfl
  | tempDirectory =>
      rcases outcome with _ | _ | _ <;> cases stepped
      · exact .early .createProfile rfl rfl
      · exact .absent rfl
      · exact .absent rfl
  | createProfile =>
      rcases outcome with _ | _ | _ <;> simp only at stepped
      · split at stepped <;> cases stepped
        exact .createProfile true .noiseProfile rfl
      · cases stepped
        exact .noProfile rfl
      · cases stepped
        exact .createProfile false .damaged rfl
  | filter noiseReduced =>
      rcases outcome with _ | _ | _ <;> simp only at stepped
      · rcases Option.map_eq_some_iff.mp stepped with ⟨content, source, taken⟩
        cases taken
        exact .filter noiseReduced true (content.filter noiseReduced) rfl
      · cases stepped
        exact .noFilter noiseReduced rfl
      · cases stepped
        exact .filter noiseReduced false .damaged rfl
  | profileExists isFilterSuccess =>
      rcases outcome with _ | _ | _ <;> simp only at stepped
      · split at stepped
        · cases stepped
          exact .profileFound isFilterSuccess rfl rfl
        · next absent =>
            cases stepped
            exact .profileAbsent isFilterSuccess rfl rfl (by simpa using absent)
      · cases stepped
        exact .throws (by simp) rfl (by simp)
      · cases stepped
        exact .throws (by simp) rfl (by simp)
  | removeProfile isFilterSuccess =>
      rcases outcome with _ | _ | _ <;> cases stepped
      · exact .removeProfile isFilterSuccess rfl rfl
      · exact .throws (by simp) rfl (by simp)
      · exact .throws (by simp) rfl (by simp)
  | createDirectories isFilterSuccess =>
      rcases outcome with _ | _ | _ <;> cases stepped
      · exact .createDirectories isFilterSuccess rfl rfl
      · exact .throws (by simp) rfl (by simp)
      · exact .throws (by simp) rfl (by simp)
  | copyFile isFilterSuccess =>
      rcases outcome with _ | _ | _ <;> simp only at stepped
      · rcases Option.map_eq_some_iff.mp stepped with ⟨content, source, taken⟩
        cases taken
        refine .copy isFilterSuccess _ content rfl rfl ?_
        cases isFilterSuccess <;> simp
      · cases stepped
        exact .throws (by simp) rfl (by simp)
      · cases stepped
        exact .copyHalfway isFilterSuccess rfl rfl
  | tempExists =>
      rcases outcome with _ | _ | _ <;> simp only at stepped
      · split at stepped
        · cases stepped
          exact .tempFound rfl rfl
        · next absent =>
            cases stepped
            exact .tempAbsent rfl rfl (by simpa using absent)
      · cases stepped
        exact .throws (by simp) rfl (by simp)
      · cases stepped
        exact .throws (by simp) rfl (by simp)
  | removeTemp =>
      rcases outcome with _ | _ | _ <;> cases stepped
      · exact .removeTemp rfl rfl
      · exact .throws (by simp) rfl (by simp)
      · exact .throws (by simp) rfl (by simp)
  | notify isSuccess => simp [FilterPc.returned] at running
  | existsForRemoval isSuccess => simp [FilterPc.returned] at running
  | removeSource isSuccess => simp [FilterPc.returned] at running
  | finished isSuccess => simp [FilterPc.returned] at running

theorem temp_ne_profile : tempFilteredPath wavFilePath ≠ noiseProfilePath wavFilePath := by
  intro same
  have lengths := congrArg (fun path => path.toList.length) same
  simp [noiseProfilePath] at lengths

theorem temp_ne_audioPath (name : String) : tempFilteredPath wavFilePath ≠ audioPath name := by
  intro same
  have texts := congrArg String.toList same
  simp [tempFilteredPath, tempDirectoryPath, audioPath, filteredAudioDir] at texts

theorem profile_ne_audioPath (name : String) : noiseProfilePath wavFilePath ≠ audioPath name := by
  intro same
  have texts := congrArg String.toList same
  simp [noiseProfilePath, tempFilteredPath, tempDirectoryPath, audioPath, filteredAudioDir]
    at texts

theorem destinationPath_eq_audioPath (isFilterSuccess : Bool) :
    ∃ name, destinationPath wavFilePath isFilterSuccess = audioPath name := by
  cases isFilterSuccess
  · exact ⟨fileName wavFilePath, rfl⟩
  · exact ⟨"filtered_" ++ fileName wavFilePath, rfl⟩

/-- What sox has written is there until it is removed, and what else may have changed. -/
structure Tidy (initial : Files) (call : FilterCall) : Prop where
  fresh : call.thread.pc.beforeSox = true → call.created = []
  kinds : ∀ file ∈ call.created, file = .temp ∨ file = .profile
  profile : .profile ∈ call.created →
    (call.files (noiseProfilePath call.thread.wavFilePath)).isSome = !call.thread.pc.profileRemoved
  temp : .temp ∈ call.created →
    (call.files (tempFilteredPath call.thread.wavFilePath)).isSome =
      decide (call.thread.pc ≠ .notify true)
  target : call.thread.pc.copied = true ∨ call.thread.pc.copies = true →
    ∃ name, call.thread.filteredFilePath = audioPath name
  unchanged : ∀ name,
    (call.thread.pc.copied = true → audioPath name ≠ call.thread.filteredFilePath) →
      call.files (audioPath name) = initial (audioPath name)

/-- A call that has not failed is tidy; one that has failed has cleaned up. -/
structure Orderly (initial : Files) (call : FilterCall) : Prop where
  tidy : call.thread.pc ≠ .notify false → call.Tidy initial
  failed : call.thread.pc = .notify false → CleansUp initial call false

theorem Tidy.orderly (tidy : call.Tidy initial) (running : call.thread.pc ≠ .notify false) :
    call.Orderly initial where
  tidy _ := tidy
  failed ended := absurd ended running

theorem CleansUp.orderly (cleansUp : CleansUp initial call false)
    (ended : call.thread.pc = .notify false) : call.Orderly initial where
  tidy running := absurd ended running
  failed _ := cleansUp

/-- The files are those of the call, which has changed no more than its position. -/
theorem Tidy.goTo (tidy : call.Tidy initial) {pc : FilterPc}
    (fresh : pc.beforeSox = true → call.created = [])
    (profile : .profile ∈ call.created → pc.profileRemoved = call.thread.pc.profileRemoved)
    (temp : .temp ∈ call.created → (pc = .notify true ↔ call.thread.pc = .notify true))
    (copied : pc.copied = call.thread.pc.copied) (copies : pc.copies = false) :
    (call.goTo pc).Tidy initial where
  fresh := fresh
  kinds := tidy.kinds
  profile created := by
    have exists_ := tidy.profile created
    simpa [FilterCall.goTo, profile created] using exists_
  temp created := by
    have exists_ := tidy.temp created
    simpa [FilterCall.goTo, temp created] using exists_
  target which := tidy.target (Or.inl (by simpa [FilterCall.goTo, copied, copies] using which))
  unchanged name := by simpa [FilterCall.goTo, copied] using tidy.unchanged name

theorem path_ne_audioPath {file : RecordFile} (kind : file = .temp ∨ file = .profile)
    (name : String) : file.path wavFilePath ≠ audioPath name := by
  rcases kind with rfl | rfl
  · exact temp_ne_audioPath name
  · exact profile_ne_audioPath name

/-- A file of sox is written or removed, and the destination directory stays as it is. -/
theorem Tidy.unchanged_update (tidy : call.Tidy initial) {pc : FilterPc}
    (copied : pc.copied = call.thread.pc.copied) {file : RecordFile}
    (kind : file = .temp ∨ file = .profile) (content : Option FileContent) (name : String)
    (differs : pc.copied = true → audioPath name ≠ call.thread.filteredFilePath) :
    Function.update call.files (file.path call.thread.wavFilePath) content (audioPath name) =
      initial (audioPath name) := by
  rw [Function.update_of_ne (path_ne_audioPath kind name).symm]
  exact tidy.unchanged name (by rwa [← copied])

theorem Tidy.writes (tidy : call.Tidy initial) {pc : FilterPc} {file : RecordFile}
    (content : FileContent) (kind : file = .temp ∨ file = .profile)
    (started : pc.beforeSox = false) (notRemoved : call.thread.pc.profileRemoved = false)
    (stillNotRemoved : pc.profileRemoved = false) (running : call.thread.pc ≠ .notify true)
    (stillRunning : pc ≠ .notify true) (copied : pc.copied = call.thread.pc.copied)
    (copies : pc.copies = false) : (call.writes pc file content).Tidy initial where
  fresh := by simp [FilterCall.writes, started]
  kinds other created := by
    rcases List.mem_cons.mp created with rfl | created
    · exact kind
    · exact tidy.kinds other created
  profile created := by
    simp only [FilterCall.writes, stillNotRemoved]
    rcases kind with rfl | rfl
    · have kept := tidy.profile (by simpa [FilterCall.writes] using created)
      rw [notRemoved] at kept
      rw [RecordFile.path, Function.update_of_ne temp_ne_profile.symm, kept]
    · simp [RecordFile.path]
  temp created := by
    simp only [FilterCall.writes]
    rcases kind with rfl | rfl
    · rw [RecordFile.path, Function.update_self]
      exact (decide_eq_true stillRunning).symm
    · have kept := tidy.temp (by simpa [FilterCall.writes] using created)
      rw [RecordFile.path, Function.update_of_ne temp_ne_profile, kept]
      simp [running, stillRunning]
  target which := tidy.target (Or.inl (by simpa [FilterCall.writes, copied, copies] using which))
  unchanged name differs := tidy.unchanged_update copied kind (some content) name differs

theorem Tidy.removes (tidy : call.Tidy initial) {pc : FilterPc} {file : RecordFile}
    (kind : file = .temp ∨ file = .profile) (started : pc.beforeSox = false)
    (profile : pc.profileRemoved = (call.thread.pc.profileRemoved || decide (file = .profile)))
    (temp : pc = .notify true ↔ call.thread.pc = .notify true ∨ file = .temp)
    (copied : pc.copied = call.thread.pc.copied) (copies : pc.copies = false) :
    (call.removes pc file).Tidy initial where
  fresh := by simp [FilterCall.removes, started]
  kinds := tidy.kinds
  profile created := by
    have kept := tidy.profile created
    simp only [FilterCall.removes, profile]
    rcases kind with rfl | rfl
    · rw [RecordFile.path, Function.update_of_ne temp_ne_profile.symm, kept]
      simp
    · simp [RecordFile.path]
  temp created := by
    have kept := tidy.temp created
    simp only [FilterCall.removes, ne_eq, temp]
    rcases kind with rfl | rfl
    · simp [RecordFile.path]
    · rw [RecordFile.path, Function.update_of_ne temp_ne_profile, kept]
      simp
  target which := tidy.target (Or.inl (by simpa [FilterCall.removes, copied, copies] using which))
  unchanged name differs := tidy.unchanged_update copied kind none name differs

theorem Tidy.aims (tidy : call.Tidy initial) {isFilterSuccess : Bool}
    (pc : call.thread.pc = .createDirectories isFilterSuccess) :
    (call.aims isFilterSuccess).Tidy initial where
  fresh := by simp [FilterCall.aims, FilterPc.beforeSox]
  kinds := tidy.kinds
  profile created := by
    have kept := tidy.profile created
    rwa [pc] at kept
  temp created := by
    have kept := tidy.temp created
    rwa [pc] at kept
  target _ := destinationPath_eq_audioPath isFilterSuccess
  unchanged name _ := tidy.unchanged name (by simp [pc, FilterPc.copied])

/-- The copy of the recording is the only file of its directory that a call touches. -/
theorem Tidy.copies (tidy : call.Tidy initial) {isFilterSuccess : Bool}
    (pc : call.thread.pc = .copyFile isFilterSuccess) {next : FilterPc} (content : FileContent)
    (after : next = .tempExists ∨ next = .removeTemp) :
    (call.copies next content).Tidy initial where
  fresh := by rcases after with rfl | rfl <;> simp [FilterCall.copies, FilterPc.beforeSox]
  kinds := tidy.kinds
  profile created := by
    rcases tidy.target (Or.inr (by rw [pc]; rfl)) with ⟨name, target⟩
    have kept := tidy.profile created
    rw [pc] at kept
    have removed : next.profileRemoved = true := by rcases after with rfl | rfl <;> rfl
    simp only [FilterCall.copies, removed, target]
    rw [Function.update_of_ne (profile_ne_audioPath name), kept]
    rfl
  temp created := by
    rcases tidy.target (Or.inr (by rw [pc]; rfl)) with ⟨name, target⟩
    have kept := tidy.temp created
    rw [pc] at kept
    have running : next ≠ .notify true := by rcases after with rfl | rfl <;> simp
    simp only [FilterCall.copies, target]
    rw [Function.update_of_ne (temp_ne_audioPath name), kept]
    simp [running]
  target _ := tidy.target (Or.inr (by rw [pc]; rfl))
  unchanged name differs := by
    have copied : next.copied = true := by rcases after with rfl | rfl <;> rfl
    refine (Function.update_of_ne (differs copied) _ _).trans ?_
    exact tidy.unchanged name (by simp [pc, FilterPc.copied])

/-- A failure at a point where nothing is left of what sox has written. -/
theorem Tidy.cleansUp (tidy : call.Tidy initial)
    (profile : .profile ∈ call.created → call.thread.pc.profileRemoved = true)
    (temp : .temp ∉ call.created)
    (unchanged : ∀ name, call.files (audioPath name) = initial (audioPath name)) :
    CleansUp initial (call.goTo (.notify false)) false where
  removed file created := by
    rcases tidy.kinds file created with rfl | rfl
    · exact absurd created temp
    · have kept := tidy.profile created
      rw [profile created] at kept
      have absent : call.files (noiseProfilePath call.thread.wavFilePath) = none := by
        simpa using kept
      exact absent
  unchanged _ := unchanged

/-- A call that returns `true` has removed what sox has written. -/
theorem Tidy.cleansUp_true (tidy : call.Tidy initial) (pc : call.thread.pc = .notify true) :
    CleansUp initial call true where
  removed file created := by
    rcases tidy.kinds file created with rfl | rfl
    · have kept := tidy.temp created
      simpa [pc, RecordFile.path] using kept
    · have kept := tidy.profile created
      simpa [pc, RecordFile.path, FilterPc.profileRemoved] using kept
  unchanged failed := by simp at failed

/-- Where a failure finds only the copy of the recording: as it was before the call, or not. -/
theorem Tidy.unchanged_of_target (tidy : call.Tidy initial)
    (same : call.files call.thread.filteredFilePath = initial call.thread.filteredFilePath)
    (name : String) : call.files (audioPath name) = initial (audioPath name) := by
  by_cases touched : audioPath name = call.thread.filteredFilePath
  · rwa [touched]
  · exact tidy.unchanged name fun _ => touched

theorem Tidy.throws (tidy : call.Tidy initial) (harmless : Harmless initial call outcome)
    (failed : outcome ≠ .succeeds) (pc : call.thread.pc.afterSox = true) :
    CleansUp initial (call.goTo (.notify false)) false := by
  have harm := harmless failed
  cases position : call.thread.pc <;> rw [position] at pc harm <;>
    simp only [FilterPc.afterSox, Bool.false_eq_true] at pc
  case profileExists isFilterSuccess =>
    apply tidy.cleansUp
    · simp [harm]
    · simp [harm]
    · exact fun name => tidy.unchanged name (by simp [position, FilterPc.copied])
  case removeProfile isFilterSuccess =>
    apply tidy.cleansUp
    · simp [harm]
    · simp [harm]
    · exact fun name => tidy.unchanged name (by simp [position, FilterPc.copied])
  case createDirectories isFilterSuccess =>
    apply tidy.cleansUp _ harm
    · exact fun name => tidy.unchanged name (by simp [position, FilterPc.copied])
    · simp [position, FilterPc.profileRemoved]
  case copyFile isFilterSuccess =>
    apply tidy.cleansUp _ harm.1
    · exact fun name => tidy.unchanged name (by simp [position, FilterPc.copied])
    · simp [position, FilterPc.profileRemoved]
  case tempExists =>
    apply tidy.cleansUp _ harm.1
    · exact tidy.unchanged_of_target harm.2
    · simp [position, FilterPc.profileRemoved]
  case removeTemp =>
    apply tidy.cleansUp _ harm.1
    · exact tidy.unchanged_of_target harm.2
    · simp [position, FilterPc.profileRemoved]

/-- A copy that stops halfway leaves the directory as it was if the file was damaged before. -/
theorem Tidy.copiesHalfway (tidy : call.Tidy initial) {isFilterSuccess : Bool}
    (pc : call.thread.pc = .copyFile isFilterSuccess) (temp : .temp ∉ call.created)
    (same : call.files call.thread.filteredFilePath = some .damaged) :
    CleansUp initial (call.copies (.notify false) .damaged) false := by
  have kept : call.copies (.notify false) .damaged = call.goTo (.notify false) := by
    rw [FilterCall.copies, ← same, Function.update_eq_self]
    rfl
  rw [kept]
  apply tidy.cleansUp _ temp
  · exact fun name => tidy.unchanged name (by simp [pc, FilterPc.copied])
  · simp [pc, FilterPc.profileRemoved]

theorem Tidy.step (tidy : call.Tidy initial) (harmless : Harmless initial call outcome)
    (taken : call.CallStep outcome next) : next.Orderly initial := by
  cases taken with
  | early pc before after =>
      have created := tidy.fresh before
      rcases FilterPc.not_copied_of_beforeSox before with ⟨notCopied, -, -⟩
      rcases FilterPc.not_copied_of_beforeSox after with ⟨stillNotCopied, notCopy, running⟩
      apply Tidy.orderly _ (running false)
      apply tidy.goTo
      · exact fun _ => created
      · simp [created]
      · simp [created]
      · rw [notCopied, stillNotCopied]
      · exact notCopy
  | absent before =>
      have created := tidy.fresh before
      rcases FilterPc.not_copied_of_beforeSox before with ⟨notCopied, -, -⟩
      apply CleansUp.orderly _ rfl
      apply tidy.cleansUp
      · simp [created]
      · simp [created]
      · exact fun name => tidy.unchanged name (by simp [notCopied])
  | createProfile noiseReduced content pc =>
      apply Tidy.orderly _ (by simp [FilterCall.writes])
      apply tidy.writes <;> simp [pc, FilterPc.beforeSox, FilterPc.profileRemoved,
        FilterPc.copied, FilterPc.copies]
  | noProfile pc =>
      have created := tidy.fresh (by rw [pc]; rfl)
      apply Tidy.orderly _ (by simp [FilterCall.goTo])
      apply tidy.goTo <;> simp [pc, created, FilterPc.copied, FilterPc.copies]
  | filter noiseReduced isFilterSuccess content pc =>
      apply Tidy.orderly _ (by simp [FilterCall.writes])
      apply tidy.writes <;> simp [pc, FilterPc.beforeSox, FilterPc.profileRemoved,
        FilterPc.copied, FilterPc.copies]
  | noFilter noiseReduced pc =>
      apply Tidy.orderly _ (by simp [FilterCall.goTo])
      apply tidy.goTo <;> simp [pc, FilterPc.beforeSox, FilterPc.profileRemoved, FilterPc.copied,
        FilterPc.copies]
  | profileFound isFilterSuccess pc succeeded =>
      apply Tidy.orderly _ (by simp [FilterCall.goTo])
      apply tidy.goTo <;> simp [pc, FilterPc.beforeSox, FilterPc.profileRemoved, FilterPc.copied,
        FilterPc.copies]
  | profileAbsent isFilterSuccess pc succeeded absent =>
      have notCreated : .profile ∉ call.created := by
        intro created
        have kept := tidy.profile created
        simp [pc, absent, FilterPc.profileRemoved] at kept
      apply Tidy.orderly _ (by simp [FilterCall.goTo])
      apply tidy.goTo <;> simp [pc, notCreated, FilterPc.beforeSox, FilterPc.copied,
        FilterPc.copies]
  | removeProfile isFilterSuccess pc succeeded =>
      apply Tidy.orderly _ (by simp [FilterCall.removes])
      apply tidy.removes <;> simp [pc, FilterPc.beforeSox, FilterPc.profileRemoved,
        FilterPc.copied, FilterPc.copies]
  | createDirectories isFilterSuccess pc succeeded =>
      apply Tidy.orderly _ (by simp [FilterCall.aims])
      exact tidy.aims pc
  | copy isFilterSuccess next content pc succeeded after =>
      apply Tidy.orderly _ (by rcases after with rfl | rfl <;> simp [FilterCall.copies])
      exact tidy.copies pc content after
  | copyHalfway isFilterSuccess pc failed =>
      have harm := harmless (by simp [failed])
      rw [pc] at harm
      apply CleansUp.orderly _ rfl
      exact tidy.copiesHalfway pc harm.1 (harm.2 failed)
  | tempFound pc succeeded =>
      apply Tidy.orderly _ (by simp [FilterCall.goTo])
      apply tidy.goTo <;> simp [pc, FilterPc.beforeSox, FilterPc.profileRemoved, FilterPc.copied,
        FilterPc.copies]
  | tempAbsent pc succeeded absent =>
      have notCreated : .temp ∉ call.created := by
        intro created
        have kept := tidy.temp created
        simp [pc, absent] at kept
      apply Tidy.orderly _ (by simp [FilterCall.goTo])
      apply tidy.goTo <;> simp [pc, notCreated, FilterPc.beforeSox, FilterPc.profileRemoved,
        FilterPc.copied, FilterPc.copies]
  | removeTemp pc succeeded =>
      apply Tidy.orderly _ (by simp [FilterCall.removes])
      apply tidy.removes <;> simp [pc, FilterPc.beforeSox, FilterPc.profileRemoved,
        FilterPc.copied, FilterPc.copies]
  | throws failed pc whole =>
      apply CleansUp.orderly _ rfl
      exact tidy.throws harmless failed pc

theorem harmless_of_succeeds (succeeded : outcome = .succeeds) : Harmless initial call outcome :=
  fun failed => absurd succeeded failed

theorem harmless_of_not_afterSox (pc : call.thread.pc.afterSox = false) :
    Harmless initial call outcome := by
  intro _
  cases position : call.thread.pc <;> simp_all [FilterPc.afterSox]

theorem harmless_of_beforeSox (before : call.thread.pc.beforeSox = true) :
    Harmless initial call outcome :=
  harmless_of_not_afterSox (FilterPc.not_afterSox_of_beforeSox before)

/-- What sox has written is still there when an exception is thrown. -/
theorem Tidy.not_cleansUp_of_temp (tidy : call.Tidy initial)
    (running : call.thread.pc ≠ .notify true) (created : .temp ∈ call.created) :
    ¬ CleansUp initial (call.goTo (.notify false)) false := by
  intro cleansUp
  have kept := tidy.temp created
  have gone := cleansUp.removed .temp created
  simp only [FilterCall.goTo, RecordFile.path] at gone
  simp [gone, running] at kept

theorem Tidy.not_cleansUp_of_created (tidy : call.Tidy initial)
    (running : call.thread.pc ≠ .notify true) (notRemoved : call.thread.pc.profileRemoved = false)
    (created : call.created ≠ []) : ¬ CleansUp initial (call.goTo (.notify false)) false := by
  rcases List.exists_mem_of_ne_nil _ created with ⟨file, created⟩
  rcases tidy.kinds file created with rfl | rfl
  · exact tidy.not_cleansUp_of_temp running created
  · intro cleansUp
    have kept := tidy.profile created
    have gone := cleansUp.removed .profile created
    simp only [FilterCall.goTo, RecordFile.path] at gone
    simp [gone, notRemoved] at kept

theorem Tidy.not_cleansUp_of_target (tidy : call.Tidy initial)
    (copied : call.thread.pc.copied = true)
    (differs : call.files call.thread.filteredFilePath ≠ initial call.thread.filteredFilePath) :
    ¬ CleansUp initial (call.goTo (.notify false)) false := by
  intro cleansUp
  rcases tidy.target (Or.inl copied) with ⟨name, target⟩
  rw [target] at differs
  exact differs (cleansUp.unchanged rfl name)

theorem Tidy.not_cleansUp_of_halfway (tidy : call.Tidy initial) {isFilterSuccess : Bool}
    (pc : call.thread.pc = .copyFile isFilterSuccess)
    (harm : .temp ∈ call.created ∨ call.files call.thread.filteredFilePath ≠ some .damaged) :
    ¬ CleansUp initial (call.copies (.notify false) .damaged) false := by
  intro cleansUp
  rcases tidy.target (Or.inr (by rw [pc]; rfl)) with ⟨name, target⟩
  rcases harm with created | differs
  · have kept := tidy.temp created
    have gone := cleansUp.removed .temp created
    simp only [FilterCall.copies, RecordFile.path, target] at gone
    rw [Function.update_of_ne (temp_ne_audioPath name)] at gone
    simp [gone, pc] at kept
  · have before := tidy.unchanged name (by simp [pc, FilterPc.copied])
    have after := cleansUp.unchanged rfl name
    simp only [FilterCall.copies, target, Function.update_self] at after
    rw [target, before, ← after] at differs
    exact differs rfl

/-- An exception that is not harmless leaves the call with something that it should not. -/
theorem Tidy.throws_of_harmful (tidy : call.Tidy initial)
    (harmful : ¬ Harmless initial call outcome)
    (whole : ∀ isFilterSuccess, call.thread.pc = .copyFile isFilterSuccess → outcome = .fails) :
    ¬ CleansUp initial (call.goTo (.notify false)) false := by
  rw [Harmless, Classical.not_imp] at harmful
  rcases harmful with ⟨-, harm⟩
  cases position : call.thread.pc <;> rw [position] at harm
  case profileExists isFilterSuccess =>
    apply tidy.not_cleansUp_of_created _ _ harm <;> simp [position, FilterPc.profileRemoved]
  case removeProfile isFilterSuccess =>
    apply tidy.not_cleansUp_of_created _ _ harm <;> simp [position, FilterPc.profileRemoved]
  case createDirectories isFilterSuccess =>
    apply tidy.not_cleansUp_of_temp
    · simp [position]
    · simpa using harm
  case copyFile isFilterSuccess =>
    apply tidy.not_cleansUp_of_temp
    · simp [position]
    · simpa [whole isFilterSuccess position] using harm
  case tempExists =>
    by_cases created : .temp ∈ call.created
    · exact tidy.not_cleansUp_of_temp (by simp [position]) created
    · apply tidy.not_cleansUp_of_target (by simp [position, FilterPc.copied])
      simpa [created] using harm
  case removeTemp =>
    by_cases created : .temp ∈ call.created
    · exact tidy.not_cleansUp_of_temp (by simp [position]) created
    · apply tidy.not_cleansUp_of_target (by simp [position, FilterPc.copied])
      simpa [created] using harm
  all_goals exact absurd trivial harm

theorem Tidy.step_of_harmful (tidy : call.Tidy initial)
    (harmful : ¬ Harmless initial call outcome) (taken : call.CallStep outcome next) :
    next.thread.pc = .notify false ∧ ¬ CleansUp initial next false := by
  cases taken with
  | copyHalfway isFilterSuccess pc failed =>
      refine ⟨rfl, tidy.not_cleansUp_of_halfway pc ?_⟩
      simpa [Harmless, pc, failed, imp_iff_not_or, not_or, or_comm] using harmful
  | throws failed pc whole => exact ⟨rfl, tidy.throws_of_harmful harmful whole⟩
  | early _ before _ => exact absurd (harmless_of_beforeSox before) harmful
  | absent before => exact absurd (harmless_of_beforeSox before) harmful
  | createProfile noiseReduced content pc =>
      exact absurd (harmless_of_not_afterSox (by rw [pc]; rfl)) harmful
  | noProfile pc => exact absurd (harmless_of_not_afterSox (by rw [pc]; rfl)) harmful
  | filter noiseReduced isFilterSuccess content pc =>
      exact absurd (harmless_of_not_afterSox (by rw [pc]; rfl)) harmful
  | noFilter noiseReduced pc =>
      exact absurd (harmless_of_not_afterSox (by rw [pc]; rfl)) harmful
  | profileFound _ _ succeeded => exact absurd (harmless_of_succeeds succeeded) harmful
  | profileAbsent _ _ succeeded _ => exact absurd (harmless_of_succeeds succeeded) harmful
  | removeProfile _ _ succeeded => exact absurd (harmless_of_succeeds succeeded) harmful
  | createDirectories _ _ succeeded => exact absurd (harmless_of_succeeds succeeded) harmful
  | copy _ _ _ _ succeeded _ => exact absurd (harmless_of_succeeds succeeded) harmful
  | tempFound _ succeeded => exact absurd (harmless_of_succeeds succeeded) harmful
  | tempAbsent _ succeeded _ => exact absurd (harmless_of_succeeds succeeded) harmful
  | removeTemp _ succeeded => exact absurd (harmless_of_succeeds succeeded) harmful

theorem tidy_applyFilter (wavFilePath : String) (files : Files) :
    (applyFilter wavFilePath files).init.Tidy files where
  fresh _ := rfl
  kinds := by simp [applyFilter]
  profile := by simp [applyFilter]
  temp := by simp [applyFilter]
  target := by simp [applyFilter, FilterPc.copied, FilterPc.copies]
  unchanged _ _ := rfl

def Untidy (initial : Files) (call : FilterCall) : Prop :=
  ∃ isSuccess, call.thread.pc = .notify isSuccess ∧ ¬ CleansUp initial call isSuccess

theorem Orderly.cleansUp (orderly : call.Orderly initial) {isSuccess : Bool}
    (returned : call.thread.pc = .notify isSuccess) : CleansUp initial call isSuccess := by
  cases isSuccess with
  | false => exact orderly.failed returned
  | true => exact (orderly.tidy (by simp [returned])).cleansUp_true returned

theorem not_returned_of_step (stepped : call.step outcome = some next) (isSuccess : Bool) :
    call.thread.pc ≠ .notify isSuccess := by
  intro returned
  simp [step, returned, FilterPc.returned] at stepped

/--
A call of `applyFilter` cleans up exactly when every exception on its way is harmless: thrown
when nothing that sox has written is left, and nothing is in the destination directory that
was not there before.
-/
theorem applyFilter_cleansUp_iff {wavFilePath : String} {files : Files}
    {schedule : List Outcome} {final : FilterCall} {isSuccess : Bool}
    (ran : (applyFilter wavFilePath files).run schedule = some final)
    (returned : final.thread.pc = .notify isSuccess) :
    (applyFilter wavFilePath files).Along (Harmless files) schedule ↔
      CleansUp files final isSuccess := by
  have main : (applyFilter wavFilePath files).Along (Harmless files) schedule ↔
      ¬ Untidy files final := by
    apply System.along_iff_not_damaged (Orderly files) (Untidy files) _ _ _ _ _ ran
    · exact (tidy_applyFilter wavFilePath files).orderly (by simp [applyFilter])
    · intro call outcome next orderly harmless stepped
      have running := not_returned_of_step stepped false
      exact (orderly.tidy running).step harmless (step_cases stepped)
    · rintro call orderly ⟨kind, ended, untidy⟩
      exact untidy (orderly.cleansUp ended)
    · intro call outcome next orderly harmful stepped
      have running := not_returned_of_step stepped false
      exact ⟨false, (orderly.tidy running).step_of_harmful harmful (step_cases stepped)⟩
    · rintro call outcome next ⟨kind, ended, -⟩ stepped
      exact absurd ended (not_returned_of_step stepped kind)
  rw [main]
  simp [Untidy, returned]

def onlyRecording : Files := Function.update (fun _ => none) "/tmp/record.wav" (some (.wav [1, 2]))

/-- Sox fails, and leaves half of the filtered copy; the recording itself is copied. -/
def fallenBack : List Outcome :=
  [.succeeds, .succeeds, .fails, .failsHalfway, .succeeds, .succeeds, .succeeds, .succeeds,
    .succeeds]

theorem applyFilter_cleansUp_iff_fallenBack :
    ∃ final, (applyFilter "/tmp/record.wav" onlyRecording).run fallenBack = some final ∧
      final.created = [.temp] ∧ CleansUp onlyRecording final true := by
  have observed : ((applyFilter "/tmp/record.wav" onlyRecording).run fallenBack).map (fun call =>
      (call.thread.pc, call.created)) = some (.notify true, [.temp]) := by decide +kernel
  have harmless : (applyFilter "/tmp/record.wav" onlyRecording).Along (Harmless onlyRecording)
      fallenBack := by decide +kernel
  rcases Option.map_eq_some_iff.mp observed with ⟨final, ran, shown⟩
  rcases Prod.mk.inj shown with ⟨returned, created⟩
  exact ⟨final, ran, created, (applyFilter_cleansUp_iff ran returned).mp harmless⟩

/-- Sox has done its work, and the filtered copy does not fit into the destination directory. -/
def notCopied : List Outcome :=
  [.succeeds, .succeeds, .succeeds, .succeeds, .succeeds, .succeeds, .succeeds, .fails]

theorem not_cleansUp_notCopied :
    ¬ ∀ (wavFilePath : String) (files : Files) (schedule : List Outcome) (final : FilterCall)
      (isSuccess : Bool), (applyFilter wavFilePath files).run schedule = some final →
        final.thread.pc = .notify isSuccess → CleansUp files final isSuccess := by
  intro cleansUp
  have observed : ((applyFilter "/tmp/record.wav" onlyRecording).run notCopied).map (fun call =>
      (call.thread.pc, call.created,
        call.files (tempFilteredPath call.thread.wavFilePath))) =
      some (.notify false, [.temp, .profile], some (.filtered [1, 2] true)) := by decide +kernel
  rcases Option.map_eq_some_iff.mp observed with ⟨final, ran, shown⟩
  simp only [Prod.mk.injEq] at shown
  rcases shown with ⟨returned, created, left⟩
  have gone := (cleansUp _ _ _ final false ran returned).removed .temp (by simp [created])
  simp [RecordFile.path, left] at gone

end FilterCall

end RaspberryPiService
