import Mathlib.Data.List.AList
import RaspberryPiService.Common.NumberText
import RaspberryPiService.CoreManager.WebSocket

/-!
# Removing a recording

A client names a recording by a number in its message. The JSON library holds numbers as
64-bit integers or as doubles, and `getIntField` converts them to `int`. That `int` selects
the row that is deleted, and the row names the file that is removed after it.

Whether SQLite executes the statement, and which files the file system lets go, are
parameters.
-/

namespace RaspberryPiService

/-- A finite double. -/
structure Double where
  mantissa : Int
  exponent : Int
  mantissa_lt : mantissa.natAbs < 2 ^ 53
  exponent_ge : -1074 ≤ exponent
  exponent_le : exponent ≤ 971
deriving DecidableEq

def Double.value (double : Double) : ℚ :=
  double.mantissa * 2 ^ double.exponent

/-- A number as the JSON library holds it. -/
inductive JsonNumber where
  | integer (number : Int64)
  | unsigned (number : UInt64)
  | float (number : Double)
deriving DecidableEq

namespace JsonNumber

def value : JsonNumber → ℚ
  | integer number => number.toInt
  | unsigned number => number.toNat
  | float number => number.value

/-- `get<int>`; a double beyond the range of `int` has no defined conversion. -/
def getInt (undefinedCast : Double → Int32) : JsonNumber → Int32
  | integer number => number.toInt32
  | unsigned number => number.toUInt32.toInt32
  | float number =>
      let whole := NumberText.truncate number.value
      if Int32.minValue.toInt ≤ whole ∧ whole ≤ Int32.maxValue.toInt then .ofInt whole
      else undefinedCast number

/-- The number is an integer in the range of `int`. -/
def FitsInt (number : JsonNumber) : Prop :=
  ∃ recordId : Int32, (recordId.toInt : ℚ) = number.value

end JsonNumber

/-- What the core manager keeps of the recordings, and the failures that it meets. -/
structure RecordStore where
  -- `file_path` by `id`
  audioRecords : AList fun _ : Int64 => String
  files : List String
  -- SQLite executes the statement
  executes : Bool
  -- `std::filesystem::remove` neither fails nor throws
  removable : String → Bool

/-- The arguments of `updateStateAndBroadcast`; the only datum is the id. -/
structure RemoveBroadcast where
  status : String
  message : String
  screen : String := "Record"
  command : String := "remove_record_noti"
  id : Int32
deriving DecidableEq

namespace RecordStore

/-- `SQLiteDatabase::removeAudioRecord`: the path of the deleted row, or the empty string. -/
def removeAudioRecord (store : RecordStore) (recordId : Int32) : RecordStore × String :=
  if store.executes then
    match store.audioRecords.lookup recordId.toInt64 with
    | some filePath =>
        ({ store with audioRecords := store.audioRecords.erase recordId.toInt64 }, filePath)
    | none => (store, "")
  else (store, "")

def removeFile (store : RecordStore) (filePath : String) : RecordStore :=
  if filePath ∈ store.files ∧ store.removable filePath then
    { store with files := store.files.filter fun file => file ≠ filePath }
  else store

end RecordStore

/-- `SQLiteDBHandler::removeAudioRecord`. -/
def SQLiteDBHandler.removeAudioRecord (store : RecordStore) (payload : Option Payload) :
    RecordStore × List RemoveBroadcast :=
  match payload with
  | some (.removeRecord recordId) =>
      let (store, filePath) := store.removeAudioRecord recordId
      if filePath ≠ "" then
        (store.removeFile filePath,
          [{ status := "success", message := "Record removed successfully", id := recordId }])
      else
        (store,
          [{ status := "fail", message := "Failed to remove record from DB", id := recordId }])
  | _ => (store, [])

namespace RecordStore

/-- `MainWorker::processEvent`; no other command of a client touches the store. -/
def processEvent (store : RecordStore) (event : CoreEvent) : RecordStore × List RemoveBroadcast :=
  match event.eventTypeId with
  | .removeRecord => SQLiteDBHandler.removeAudioRecord store event.payload
  | _ => (store, [])

/-- What the request is for: the row of this id and its file go, and nothing else. -/
structure RemovesNamed (number : JsonNumber) (store : RecordStore)
    (removed : RecordStore × List RemoveBroadcast) : Prop where
  other_rows : ∀ id : Int64, (id.toInt : ℚ) ≠ number.value →
    removed.1.audioRecords.lookup id = store.audioRecords.lookup id
  named_row : store.executes → ∀ id : Int64, (id.toInt : ℚ) = number.value →
    removed.1.audioRecords.lookup id = none
  files : ∀ file ∈ store.files, file ∉ removed.1.files →
    ∃ id : Int64, (id.toInt : ℚ) = number.value ∧ store.audioRecords.lookup id = some file
  no_row : (∀ id : Int64, (id.toInt : ℚ) = number.value → store.audioRecords.lookup id = none) →
    removed.1 = store ∧ removed.2.map RemoveBroadcast.status = ["fail"]

end RecordStore

namespace JsonNumber

variable {undefinedCast : Double → Int32} {number : JsonNumber}

/-- What fits is converted to itself. -/
theorem getInt_eq_of_value_eq {recordId : Int32} (same : (recordId.toInt : ℚ) = number.value) :
    number.getInt undefinedCast = recordId := by
  cases number with
  | integer number =>
      have same : recordId.toInt = number.toInt := by
        simp only [value] at same
        exact_mod_cast same
      apply Int32.toInt.inj
      rw [getInt, Int64.toInt_toInt32, ← same]
      exact recordId.toInt_bmod
  | unsigned number =>
      have same : recordId.toInt = (number.toNat : Int) := by
        simp only [value] at same
        exact_mod_cast same
      apply Int32.toInt.inj
      have residue : number.toUInt32.toInt32.toInt =
          (number.toUInt32.toNat : Int).bmod UInt32.size :=
        BitVec.toInt_eq_toNat_bmod _
      rw [getInt, residue, UInt64.toNat_toUInt32, Int.natCast_emod, ← same]
      exact (Int.emod_bmod _ _).trans recordId.toInt_bmod
  | float number =>
      have whole : NumberText.truncate number.value = recordId.toInt := by
        rw [← NumberText.truncate_intCast recordId.toInt, same]
        rfl
      simp only [getInt, whole, if_pos (And.intro recordId.minValue_le_toInt recordId.toInt_le)]
      exact recordId.ofInt_toInt

theorem toInt_getInt_iff (undefinedCast : Double → Int32) (number : JsonNumber) :
    ((number.getInt undefinedCast).toInt64.toInt : ℚ) = number.value ↔ number.FitsInt := by
  rw [Int32.toInt_toInt64]
  constructor
  · exact fun same => ⟨_, same⟩
  · rintro ⟨recordId, same⟩
    rw [getInt_eq_of_value_eq same, same]

end JsonNumber

namespace RecordStore

variable {store : RecordStore} {recordId : Int32}

theorem removeAudioRecord_of_lookup {filePath : String} (executes : store.executes)
    (found : store.audioRecords.lookup recordId.toInt64 = some filePath) :
    store.removeAudioRecord recordId =
      ({ store with audioRecords := store.audioRecords.erase recordId.toInt64 }, filePath) := by
  simp [removeAudioRecord, executes, found]

/-- Without the row, as when the statement fails, the path is empty. -/
theorem removeAudioRecord_of_untouched
    (untouched : store.executes → store.audioRecords.lookup recordId.toInt64 = none) :
    store.removeAudioRecord recordId = (store, "") := by
  unfold removeAudioRecord
  split
  · next executes => rw [untouched executes]
  · rfl

@[simp] theorem removeFile_audioRecords (filePath : String) :
    (store.removeFile filePath).audioRecords = store.audioRecords := by
  unfold removeFile
  split <;> rfl

theorem eq_of_not_mem_removeFile {filePath file : String} (present : file ∈ store.files)
    (removed : file ∉ (store.removeFile filePath).files) : file = filePath := by
  unfold removeFile at removed
  split at removed
  · simpa [present] using removed
  · exact absurd present removed

/-- Nothing but the row of the id is deleted, and nothing but its file is removed. -/
theorem processEvent_of_lookup {filePath : String} (executes : store.executes)
    (found : store.audioRecords.lookup recordId.toInt64 = some filePath) :
    let after := (store.processEvent (ClientCommand.removeRecord recordId).event).1
    after.audioRecords = store.audioRecords.erase recordId.toInt64 ∧
      ∀ file ∈ store.files, file ∉ after.files → file = filePath := by
  simp only [processEvent, ClientCommand.event, SQLiteDBHandler.removeAudioRecord,
    removeAudioRecord_of_lookup executes found]
  split
  · constructor
    · simp
    · intro file present removed
      exact eq_of_not_mem_removeFile (by exact present) removed
  · constructor
    · rfl
    · intro file present removed
      exact absurd present removed

theorem processEvent_of_untouched
    (untouched : store.executes → store.audioRecords.lookup recordId.toInt64 = none) :
    store.processEvent (ClientCommand.removeRecord recordId).event =
      (store, [{ status := "fail", message := "Failed to remove record from DB", id := recordId }])
      := by
  simp [processEvent, ClientCommand.event, SQLiteDBHandler.removeAudioRecord,
    removeAudioRecord_of_untouched untouched]

section Named

variable {undefinedCast : Double → Int32} {number : JsonNumber}

/-- The event of a request that names a recording by the number. -/
abbrev removal (undefinedCast : Double → Int32) (number : JsonNumber) : CoreEvent :=
  (ClientCommand.removeRecord (number.getInt undefinedCast)).event

/-- When nothing is deleted, only the named row can be missed. -/
theorem removesNamed_iff_of_untouched
    (untouched : store.executes →
      store.audioRecords.lookup (number.getInt undefinedCast).toInt64 = none) :
    RemovesNamed number store (store.processEvent (removal undefinedCast number)) ↔
      (store.executes → ∀ id : Int64, (id.toInt : ℚ) = number.value →
        store.audioRecords.lookup id = none) := by
  rw [processEvent_of_untouched untouched]
  constructor
  · intro removes
    exact removes.named_row
  · intro absent
    constructor
    · intro id other
      rfl
    · exact absent
    · intro file present removed
      exact absurd present removed
    · intro noRow
      exact ⟨rfl, rfl⟩

theorem removesNamed_iff_of_lookup {filePath : String} (executes : store.executes)
    (found : store.audioRecords.lookup (number.getInt undefinedCast).toInt64 = some filePath) :
    RemovesNamed number store (store.processEvent (removal undefinedCast number)) ↔
      number.FitsInt := by
  have named_iff := JsonNumber.toInt_getInt_iff undefinedCast number
  obtain ⟨rows, files⟩ := processEvent_of_lookup executes found
  constructor
  · intro removes
    by_contra unfit
    -- The deleted row is another one.
    have kept := removes.other_rows _ (mt named_iff.mp unfit)
    rw [rows, AList.lookup_erase, found] at kept
    cases kept
  · intro fits
    have named := named_iff.mpr fits
    have unique : ∀ id : Int64, (id.toInt : ℚ) = number.value →
        id = (number.getInt undefinedCast).toInt64 := by
      intro id same
      apply Int64.toInt.inj
      exact_mod_cast same.trans named.symm
    constructor
    · intro id other
      rw [rows]
      apply AList.lookup_erase_ne
      rintro rfl
      exact other named
    · intro _ id same
      rw [rows, unique id same]
      exact AList.lookup_erase _ _
    · intro file present removed
      refine ⟨_, named, ?_⟩
      rw [found, files file present removed]
    · intro noRow
      rw [noRow _ named] at found
      cases found

/-- The number fits, or the table has neither the named row nor the one that is selected. -/
def SelectsNamed (undefinedCast : Double → Int32) (number : JsonNumber) (store : RecordStore) :
    Prop :=
  number.FitsInt ∨ ∀ id : Int64,
    (id.toInt : ℚ) = number.value ∨ id = (number.getInt undefinedCast).toInt64 →
      store.audioRecords.lookup id = none

theorem removesNamed_iff_of_executes (executes : store.executes) :
    RemovesNamed number store (store.processEvent (removal undefinedCast number)) ↔
      SelectsNamed undefinedCast number store := by
  cases found : store.audioRecords.lookup (number.getInt undefinedCast).toInt64 with
  | none =>
      rw [removesNamed_iff_of_untouched (fun _ => found)]
      constructor
      · rintro noRow
        right
        rintro id (named | rfl)
        · exact noRow executes id named
        · exact found
      · rintro (fits | noRow) _ id named
        · have selected := named.trans ((JsonNumber.toInt_getInt_iff undefinedCast _).mpr fits).symm
          rw [← found]
          congr 1
          apply Int64.toInt.inj
          exact_mod_cast selected
        · exact noRow id (Or.inl named)
  | some filePath =>
      rw [removesNamed_iff_of_lookup executes found]
      constructor
      · exact Or.inl
      · rintro (fits | noRow)
        · exact fits
        · rw [noRow _ (Or.inr rfl)] at found
          cases found

/--
A message pushes one event, which removes what the number names exactly if the `int` that
is made of the number selects it.
-/
theorem removesNamed_iff {parse : String → Except JsonException Json} {message : String}
    {document : Json} (parsed : parse message = .ok document)
    (asks : document.Asks (.removeRecord (number.getInt undefinedCast)))
    (eventQueue : EventQueue CoreEventTypeID) (store : RecordStore) :
    ∃ event,
      WebSocket.handleMessageFromClient parse message eventQueue = .ok (eventQueue ++ [event]) ∧
      (RemovesNamed number store (store.processEvent event) ↔
        (store.executes → SelectsNamed undefinedCast number store)) := by
  refine ⟨_, WebSocket.handleMessageFromClient_of_asks eventQueue parsed asks, ?_⟩
  cases executes : store.executes with
  | false =>
      rw [removesNamed_iff_of_untouched (by simp [executes])]
      simp [executes]
  | true => simpa using removesNamed_iff_of_executes executes

end Named

def threeHalves : JsonNumber :=
  .float ⟨3, -1, by decide, by decide, by decide⟩

/-- A request for the recording 1.5. -/
def fractionalRequest : Json :=
  .object [("command", .string "remove_record"),
    ("data", .object [("id", .number (threeHalves.getInt fun _ => 0))])]

def oneRecord : RecordStore where
  audioRecords := AList.singleton 1 "/records/1.wav"
  files := ["/records/1.wav"]
  executes := true
  removable _ := true

theorem fractionalRequest_asks :
    fractionalRequest.Asks (.removeRecord (threeHalves.getInt fun _ => 0)) :=
  ⟨_, rfl, rfl, rfl⟩

theorem not_removesNamed_fractionalRequest :
    fractionalRequest.Asks (.removeRecord (threeHalves.getInt fun _ => 0)) ∧
      ¬RemovesNamed threeHalves oneRecord
        (oneRecord.processEvent (removal (fun _ => 0) threeHalves)) := by
  refine ⟨fractionalRequest_asks, ?_⟩
  intro removes
  have kept := removes.other_rows 1 (by decide +kernel)
  revert kept
  decide +kernel

/-- A request for the recording 1. -/
def firstRequest : Json :=
  .object [("command", .string "remove_record"), ("data", .object [("id", .number 1)])]

theorem removesNamed_firstRequest :
    ∃ event,
      WebSocket.handleMessageFromClient (fun _ => .ok firstRequest) "" [] = .ok [event] ∧
      RemovesNamed (.integer 1) oneRecord (oneRecord.processEvent event) ∧
      (oneRecord.processEvent event).1.audioRecords.keys = [] ∧
      (oneRecord.processEvent event).1.files = [] := by
  have asks : firstRequest.Asks (.removeRecord ((JsonNumber.integer 1).getInt fun _ => 0)) :=
    ⟨_, rfl, rfl, rfl⟩
  have fits : (JsonNumber.integer 1).FitsInt := ⟨1, by decide +kernel⟩
  obtain ⟨event, pushed, removes⟩ : ∃ event,
      WebSocket.handleMessageFromClient (fun _ => .ok firstRequest) "" [] = .ok ([] ++ [event]) ∧
      (RemovesNamed (.integer 1) oneRecord (oneRecord.processEvent event) ↔
        (oneRecord.executes → SelectsNamed (fun _ => 0) (.integer 1) oneRecord)) :=
    removesNamed_iff rfl asks [] oneRecord
  obtain rfl := List.head_eq_of_cons_eq (Except.ok.inj pushed)
  refine ⟨_, pushed, removes.mpr fun _ => Or.inl fits, ?_, ?_⟩
  · decide +kernel
  · decide +kernel

end RecordStore

end RaspberryPiService
