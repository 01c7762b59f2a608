import Mathlib.Data.List.Pairwise
import Mathlib.Data.List.Sort
import RaspberryPiService.CoreManager.DBusReceiver
import RaspberryPiService.CoreManager.RemoveRecord
import RaspberryPiService.CoreManager.StateUpdates

/-!
# The table of recordings

SQLite keeps the recordings in one table, whose ids are given by `AUTOINCREMENT` and whose
paths are unique. MainWorker has a worker thread execute one statement and waits for its
result, so statements follow each other. A statement may fail, the timestamps may repeat
or go back with the clock, and a listing takes rows of one second in any order.

The constraints of the table are fields of the database.
-/

namespace RaspberryPiService

/-- A row of `audio_records`, with the seconds of `created_at`. -/
structure AudioRecordRow where
  id : Nat
  filePath : String
  durationSec : Int32
  createdAt : Int
deriving DecidableEq

structure AudioRecord where
  id : Int32
  filePath : String
  durationSec : Int32
deriving DecidableEq

/-- What `sqlite3_column_int` and `sqlite3_column_text` make of a row. -/
def AudioRecordRow.toAudioRecord (row : AudioRecordRow) : AudioRecord where
  id := .ofNat row.id
  filePath := row.filePath
  durationSec := row.durationSec

/-- The rows in the order of their ids, and the largest id that has ever been given. -/
structure SQLiteDatabase where
  audioRecords : List AudioRecordRow := []
  sequence : Nat := 0
  increasing : audioRecords.Pairwise fun row later => row.id < later.id := by simp
  issued : ∀ row ∈ audioRecords, row.id ≤ sequence := by simp
  unique : audioRecords.Pairwise fun row later => row.filePath ≠ later.filePath := by simp

/-- An order of rows that `ORDER BY created_at DESC` allows. -/
structure NewestFirst where
  sort : List AudioRecordRow → List AudioRecordRow
  perm : ∀ rows, (sort rows).Perm rows
  sorted : ∀ rows, (sort rows).Pairwise fun row later => later.createdAt ≤ row.createdAt

instance : Std.Total fun row later : AudioRecordRow => later.createdAt ≤ row.createdAt :=
  ⟨fun row later => Int.le_total later.createdAt row.createdAt⟩

instance : IsTrans AudioRecordRow fun row later => later.createdAt ≤ row.createdAt :=
  ⟨fun _ _ _ newer older => older.trans newer⟩

/-- Rows of one second in the order of their ids. -/
def NewestFirst.stable : NewestFirst where
  sort rows := rows.insertionSort fun row later => later.createdAt ≤ row.createdAt
  perm rows := List.perm_insertionSort _ rows
  sorted rows := List.pairwise_insertionSort _ rows

/-- How SQLite runs a statement. -/
structure StatementRun where
  executes : Bool := true
  now : Int := 0
  order : NewestFirst := .stable
  -- the rows that are fetched before an error, if there is one
  fetched : Option Nat := none

namespace SQLiteDatabase

/-- The largest rowid. -/
def maxRowId : Nat := 9223372036854775807

/-- The limit of the listing. -/
def listingLimit : Nat := 100

/-- The database with a row under the next id. -/
def insertRow (database : SQLiteDatabase) (filePath : String) (durationSec : Int32) (now : Int)
    (fresh : ∀ row ∈ database.audioRecords, row.filePath ≠ filePath) : SQLiteDatabase where
  audioRecords := database.audioRecords ++ [⟨database.sequence + 1, filePath, durationSec, now⟩]
  sequence := database.sequence + 1
  increasing := by
    refine List.pairwise_append.mpr ⟨database.increasing, List.pairwise_singleton _ _, ?_⟩
    intro row present later new
    rw [List.mem_singleton.mp new]
    exact Nat.lt_succ_of_le (database.issued row present)
  issued := by
    intro row present
    rcases List.mem_append.mp present with present | new
    · exact Nat.le_succ_of_le (database.issued row present)
    · rw [List.mem_singleton.mp new]
  unique := by
    refine List.pairwise_append.mpr ⟨database.unique, List.pairwise_singleton _ _, ?_⟩
    intro row present later new
    rw [List.mem_singleton.mp new]
    exact fresh row present

/-- The database without the row of an id; ids that have been given stay so. -/
def deleteRow (database : SQLiteDatabase) (id : Nat) : SQLiteDatabase where
  audioRecords := database.audioRecords.filter fun row => row.id ≠ id
  sequence := database.sequence
  increasing := database.increasing.filter _
  issued row present := database.issued row (List.mem_filter.mp present).1
  unique := database.unique.filter _

/-- What is bound to the statement ends at the first NUL of the path. -/
def insertAudioRecord (database : SQLiteDatabase) (run : StatementRun) (record : AudioRecord) :
    SQLiteDatabase × AudioRecord :=
  let filePath := (DBusString.cStr record.filePath).text
  if fresh : ∀ row ∈ database.audioRecords, row.filePath ≠ filePath then
    if run.executes ∧ database.sequence < maxRowId then
      (database.insertRow filePath record.durationSec run.now fresh,
        { record with id := .ofNat (database.sequence + 1) })
    else (database, ⟨-1, "", 0⟩)
  else (database, ⟨-1, "", 0⟩)

/-- A statement that cannot be prepared lists nothing, and an error ends the listing. -/
def getAllRecords (database : SQLiteDatabase) (run : StatementRun) : List AudioRecord :=
  if run.executes then
    let rows := (run.order.sort database.audioRecords).take listingLimit
    let fetched := match run.fetched with
      | none => rows
      | some count => rows.take count
    fetched.map AudioRecordRow.toAudioRecord
  else []

/-- The row that a number selects. -/
def findRow (database : SQLiteDatabase) (recordId : Int32) : Option AudioRecordRow :=
  database.audioRecords.find? fun row => (row.id : Int) = recordId.toInt

def removeAudioRecord (database : SQLiteDatabase) (run : StatementRun) (recordId : Int32) :
    SQLiteDatabase × String :=
  if run.executes then
    match database.findRow recordId with
    | some row => (database.deleteRow row.id, row.filePath)
    | none => (database, "")
  else (database, "")

variable {database : SQLiteDatabase} {run : StatementRun}

/-- A statement inserts a row under the next id, or changes nothing and answers with -1. -/
theorem insertAudioRecord_cases (database : SQLiteDatabase) (run : StatementRun)
    (record : AudioRecord) :
    (∃ fresh, database.insertAudioRecord run record =
      (database.insertRow (DBusString.cStr record.filePath).text record.durationSec run.now fresh,
        { record with id := .ofNat (database.sequence + 1) })) ∨
      database.insertAudioRecord run record = (database, ⟨-1, "", 0⟩) := by
  unfold insertAudioRecord
  dsimp only
  split
  · next fresh =>
      split
      · exact Or.inl ⟨fresh, rfl⟩
      · exact Or.inr rfl
  · exact Or.inr rfl

theorem findRow_eq_some {recordId : Int32} {row : AudioRecordRow}
    (found : database.findRow recordId = some row) :
    row ∈ database.audioRecords ∧ (row.id : Int) = recordId.toInt := by
  refine ⟨List.mem_of_find?_eq_some found, ?_⟩
  simpa using List.find?_some found

/-- A statement deletes the row that the number selects, or changes nothing. -/
theorem removeAudioRecord_cases (database : SQLiteDatabase) (run : StatementRun)
    (recordId : Int32) :
    (∃ row, database.findRow recordId = some row ∧
      database.removeAudioRecord run recordId = (database.deleteRow row.id, row.filePath)) ∨
      database.removeAudioRecord run recordId = (database, "") := by
  unfold removeAudioRecord
  split
  · split
    · next row found => exact Or.inl ⟨row, found, rfl⟩
    · exact Or.inr rfl
  · exact Or.inr rfl

end SQLiteDatabase

/-- The fields that a client is sent of a recording. -/
def AudioRecord.json (record : AudioRecord) : Json :=
  .assigned [("id", .number record.id), ("file_path", .string record.filePath),
    ("duration_sec", .number record.durationSec)]

namespace SQLiteDBHandler

variable (database : SQLiteDatabase) (run : StatementRun)

def getAllAudioRecords : SQLiteDatabase × List Json :=
  (database, [WebSocketServer.updateStateAndBroadcast "success" "Fetched audio records" "Record"
    "get_all_record_noti"
    (.assigned [("records", .array ((database.getAllRecords run).map AudioRecord.json))])])

def insertAudioRecord (payload : NotiPayload) : SQLiteDatabase × List Json :=
  match payload with
  | .wav filePath durationSec =>
      let (database, newRecord) := database.insertAudioRecord run ⟨0, filePath, durationSec⟩
      if newRecord.id ≠ -1 then
        (database, [WebSocketServer.updateStateAndBroadcast "success"
          "Record inserted successfully" "Record" "insert_record_noti"
          (.assigned [("record", newRecord.json)])])
      else
        (database, [WebSocketServer.updateStateAndBroadcast "fail"
          "Failed to insert record to DB" "Record" "insert_record_noti" .null])
  | _ => (database, [])

/-- The file of the row is deleted as well, with whatever success. -/
def removeRecordRow (payload : Option Payload) : SQLiteDatabase × List Json :=
  match payload with
  | some (.removeRecord recordId) =>
      let (database, filePath) := database.removeAudioRecord run recordId
      if filePath ≠ "" then
        (database, [WebSocketServer.updateStateAndBroadcast "success"
          "Record removed successfully" "Record" "remove_record_noti"
          (.assigned [("id", .number recordId)])])
      else
        (database, [WebSocketServer.updateStateAndBroadcast "fail"
          "Failed to remove record from DB" "Record" "remove_record_noti"
          (.assigned [("id", .number recordId)])])
  | _ => (database, [])

end SQLiteDBHandler

end RaspberryPiService
