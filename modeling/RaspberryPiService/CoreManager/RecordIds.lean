import RaspberryPiService.CoreManager.RecordList

/-!
# The ids of the recordings

A client removes a recording by the id under which it was listed, however long ago. In
between the table may change in any way. `AUTOINCREMENT` keeps an id from being given
twice, so the removal takes away the recording that was listed or nothing, as long as the
ids fit into an `int`.

The handler that removes a row has a model of its own, on a map from ids to paths; here
that map is found in the table, so that what is known of the handler holds of the table.
-/

namespace RaspberryPiService

namespace SQLiteDatabase

variable {database later next : SQLiteDatabase} {run : StatementRun}

/-- A later state of the table: its rows have been there, or have ids that are new. -/
structure Continues (database later : SQLiteDatabase) : Prop where
  sequence : database.sequence ≤ later.sequence
  rows : ∀ row ∈ later.audioRecords, row ∈ database.audioRecords ∨ database.sequence < row.id

theorem Continues.refl (database : SQLiteDatabase) : database.Continues database where
  sequence := Nat.le_refl _
  rows _ present := Or.inl present

theorem Continues.trans (first : database.Continues later) (second : later.Continues next) :
    database.Continues next where
  sequence := Nat.le_trans first.sequence second.sequence
  rows row present := by
    rcases second.rows row present with old | new
    · exact first.rows row old
    · exact Or.inr (Nat.lt_of_le_of_lt first.sequence new)

theorem continues_insertAudioRecord (database : SQLiteDatabase) (run : StatementRun)
    (record : AudioRecord) : database.Continues (database.insertAudioRecord run record).1 := by
  rcases database.insertAudioRecord_cases run record with ⟨fresh, inserted⟩ | unchanged
  · rw [inserted]
    refine ⟨Nat.le_succ _, ?_⟩
    intro row present
    rcases List.mem_append.mp present with old | new
    · exact Or.inl old
    · rw [List.mem_singleton.mp new]
      exact Or.inr (Nat.lt_succ_self _)
  · rw [unchanged]
    exact .refl _

theorem continues_removeAudioRecord (database : SQLiteDatabase) (run : StatementRun)
    (recordId : Int32) : database.Continues (database.removeAudioRecord run recordId).1 := by
  rcases database.removeAudioRecord_cases run recordId with ⟨row, -, removed⟩ | unchanged
  · rw [removed]
    exact ⟨Nat.le_refl _, fun other present => Or.inl (List.mem_filter.mp present).1⟩
  · rw [unchanged]
    exact .refl _

theorem eq_of_id_eq {row other : AudioRecordRow} (present : row ∈ database.audioRecords)
    (otherPresent : other ∈ database.audioRecords) (same : other.id = row.id) : other = row := by
  have distinct : (database.audioRecords.map AudioRecordRow.id).Nodup :=
    List.pairwise_map.mpr (database.increasing.imp fun less => Nat.ne_of_lt less)
  exact List.inj_on_of_nodup_map distinct otherPresent present same

/-- An id that had been given names the same row later. -/
theorem Continues.eq_of_id_eq (continues : database.Continues later) {row laterRow : AudioRecordRow}
    (present : row ∈ database.audioRecords) (laterPresent : laterRow ∈ later.audioRecords)
    (same : laterRow.id = row.id) : laterRow = row := by
  rcases continues.rows laterRow laterPresent with old | new
  · exact SQLiteDatabase.eq_of_id_eq present old same
  · have issued := database.issued row present
    omega

theorem deleteRow_audioRecords {row : AudioRecordRow} (present : row ∈ database.audioRecords) :
    (database.deleteRow row.id).audioRecords =
      database.audioRecords.filter fun other => other ≠ row := by
  apply List.filter_congr
  intro other otherPresent
  have same : other.id = row.id ↔ other = row :=
    ⟨eq_of_id_eq present otherPresent, congrArg AudioRecordRow.id⟩
  simp [same]

/-- What is listed is a row, under its own id if that fits into an `int`. -/
theorem exists_row_of_listed (fits : database.sequence < 2 ^ 31) {record : AudioRecord}
    (listed : record ∈ database.getAllRecords run) :
    ∃ row ∈ database.audioRecords, row.toAudioRecord = record ∧
      record.id.toInt = (row.id : Int) := by
  have shown := (database.getAllRecords_subperm run).subset listed
  rcases List.mem_map.mp shown with ⟨row, present, rfl⟩
  have issued := database.issued row present
  exact ⟨row, present, rfl, Int32.toInt_ofNat_of_lt (by omega)⟩

end SQLiteDatabase

namespace CoreMainWorker

variable {surroundings : CoreSurroundings} {core : Core}

theorem continues_processEvent (surroundings : CoreSurroundings) (core : Core)
    (event : CoreManagerEvent) :
    core.database.Continues (processEvent surroundings core event).1.database := by
  cases event with
  | startup => exact .refl _
  | command event =>
      by_cases isRemove : event.eventTypeId = .removeRecord
      · simp only [processEvent, processCommand, isRemove, onDatabase,
          SQLiteDBHandler.removeRecordRow]
        split
        · split <;> exact core.database.continues_removeAudioRecord _ _
        · exact .refl _
      · by_cases isGet : event.eventTypeId = .getAllRecord
        · simp only [processEvent, processCommand, isGet]
          exact .refl _
        · simp only [processEvent, (processCommand_of_other isRemove isGet).1]
          exact .refl _
  | noti event =>
      by_cases isInsert : event.eventTypeId = .insertWavFile
      · simp only [processEvent, processNoti, isInsert, onDatabase,
          SQLiteDBHandler.insertAudioRecord]
        split
        · split <;> exact core.database.continues_insertAudioRecord _ _
        · exact .refl _
      · simp only [processEvent, database_processNoti isInsert]
        exact .refl _
  | confirmationTimeout payload =>
      simp only [processEvent, database_processTimeout]
      exact .refl _

/-- MainWorker taking one event after the other. -/
def system (core : Core) : System Core (CoreSurroundings × CoreManagerEvent) where
  init := core
  step core event := some (processEvent event.1 core event.2).1

theorem continues_of_run {later : Core} {events : List (CoreSurroundings × CoreManagerEvent)}
    (ran : (system core).run events = some later) : core.database.Continues later.database := by
  apply System.invariant_of_run (fun later => core.database.Continues later.database)
    (.refl core.database) _ ran
  intro state event next continues stepped
  cases stepped
  exact continues.trans (continues_processEvent event.1 state event.2)

/--
However the table has changed since a listing, removing a recording by the id under which
it was listed takes away exactly that one, or leaves everything as it is.
-/
theorem removes_listed {listing : StatementRun} {later : Core} {record : AudioRecord}
    {events : List (CoreSurroundings × CoreManagerEvent)}
    (listed : record ∈ core.database.getAllRecords listing)
    (ran : (system core).run events = some later) (fits : core.database.sequence < 2 ^ 31) :
    let removed := (processEvent surroundings later
      (.command (ClientCommand.event (.removeRecord record.id)))).1
    removed = later ∨ ∃ row ∈ later.database.audioRecords, row.toAudioRecord = record ∧
      removed.database.audioRecords =
        later.database.audioRecords.filter fun other => other ≠ row := by
  rcases SQLiteDatabase.exists_row_of_listed fits listed with ⟨row, present, rfl, shownId⟩
  have continues := continues_of_run ran
  simp only [processEvent, processCommand, ClientCommand.event, onDatabase,
    SQLiteDBHandler.removeRecordRow]
  rcases later.database.removeAudioRecord_cases surroundings.run row.toAudioRecord.id with
    ⟨laterRow, found, removed⟩ | unchanged
  · right
    rcases SQLiteDatabase.findRow_eq_some found with ⟨laterPresent, selected⟩
    have same : laterRow = row := continues.eq_of_id_eq present laterPresent (by omega)
    subst same
    refine ⟨laterRow, laterPresent, rfl, ?_⟩
    rw [removed]
    dsimp only
    split <;> exact SQLiteDatabase.deleteRow_audioRecords laterPresent
  · left
    rw [unchanged]
    simp

/-- One recording, and another one that is inserted after the listing. -/
def oneRecording : Core where
  database := { audioRecords := [⟨1, "a.wav", 3, 0⟩], sequence := 1 }

theorem removes_listed_oneRecording : ∃ later,
    (system oneRecording).run [({}, .noti ⟨.insertWavFile, .wav "b.wav" 5⟩)] = some later ∧
      let removed := (processEvent {} later
        (.command (ClientCommand.event (.removeRecord 1)))).1
      later.database.audioRecords.map AudioRecordRow.filePath = ["a.wav", "b.wav"] ∧
      removed.database.audioRecords.map AudioRecordRow.filePath = ["b.wav"] ∧
      (removed = later ∨ ∃ row ∈ later.database.audioRecords,
        row.toAudioRecord = ⟨1, "a.wav", 3⟩ ∧ removed.database.audioRecords =
          later.database.audioRecords.filter fun other => other ≠ row) := by
  have listed : (⟨1, "a.wav", 3⟩ : AudioRecord) ∈ oneRecording.database.getAllRecords {} :=
    List.mem_cons_self
  have ran : (system oneRecording).run [({}, .noti ⟨.insertWavFile, .wav "b.wav" 5⟩)] = some _ :=
    rfl
  exact ⟨_, ran, rfl, rfl, removes_listed listed ran (by decide)⟩

end CoreMainWorker

/-- The document of a `RemoveBroadcast`. -/
def RemoveBroadcast.document (broadcast : RemoveBroadcast) : Json :=
  WebSocketServer.updateStateAndBroadcast broadcast.status broadcast.message broadcast.screen
    broadcast.command (.assigned [("id", .number broadcast.id)])

namespace RecordStore

variable {store : RecordStore} {database : SQLiteDatabase} {run : StatementRun}

/-- The paths by their ids are those of the table. -/
structure Represents (store : RecordStore) (database : SQLiteDatabase) (run : StatementRun) :
    Prop where
  executes : store.executes = run.executes
  lookup : ∀ id : Int64, store.audioRecords.lookup id =
    (database.audioRecords.find? fun row => (row.id : Int) = id.toInt).map AudioRecordRow.filePath

theorem Represents.lookup_eq (represents : store.Represents database run) (recordId : Int32) :
    store.audioRecords.lookup recordId.toInt64 =
      (database.findRow recordId).map AudioRecordRow.filePath := by
  rw [represents.lookup]
  simp only [SQLiteDatabase.findRow, Int32.toInt_toInt64]

theorem Represents.erase (represents : store.Represents database run) {recordId : Int32}
    {row : AudioRecordRow} (found : database.findRow recordId = some row) :
    ({ store with audioRecords := store.audioRecords.erase recordId.toInt64 }).Represents
      (database.deleteRow row.id) run where
  executes := represents.executes
  lookup id := by
    have selected := (SQLiteDatabase.findRow_eq_some found).2
    simp only [SQLiteDatabase.deleteRow, List.find?_filter]
    by_cases same : id = recordId.toInt64
    · subst same
      rw [AList.lookup_erase, Int32.toInt_toInt64, ← selected]
      symm
      simp
    · have differs : id.toInt ≠ row.id := by
        rw [selected, ← Int32.toInt_toInt64]
        exact fun equal => same (Int64.toInt_inj.mp equal)
      rw [AList.lookup_erase_ne same, represents.lookup]
      congr 2
      funext other
      by_cases named : (other.id : Int) = id.toInt
      · have kept : other.id ≠ row.id := by omega
        simp [named, kept]
      · simp [named]

theorem Represents.removeFile (represents : store.Represents database run) (filePath : String) :
    (store.removeFile filePath).Represents database run := by
  unfold RecordStore.removeFile
  split
  · exact ⟨represents.executes, represents.lookup⟩
  · exact represents

/-- What the handler does on the map is what it does on the table. -/
theorem represents_removeRecordRow (represents : store.Represents database run)
    (payload : Option Payload) :
    let handled := SQLiteDBHandler.removeAudioRecord store payload
    let removed := SQLiteDBHandler.removeRecordRow database run payload
    handled.1.Represents removed.1 run ∧ removed.2 = handled.2.map RemoveBroadcast.document := by
  rcases payload with - | payload
  · exact ⟨represents, rfl⟩
  cases payload with
  | removeRecord recordId =>
      simp only [SQLiteDBHandler.removeAudioRecord, SQLiteDBHandler.removeRecordRow,
        RecordStore.removeAudioRecord, SQLiteDatabase.removeAudioRecord, represents.executes,
        represents.lookup_eq]
      by_cases executes : run.executes
      · rcases Option.eq_none_or_eq_some (database.findRow recordId) with found | ⟨row, found⟩
        · simpa [executes, found, RemoveBroadcast.document] using represents
        · have erased := represents.erase found
          simp only [represents.executes, executes] at erased
          by_cases named : row.filePath = ""
          · simpa [executes, found, named, RemoveBroadcast.document] using erased
          · simpa [executes, found, named, RemoveBroadcast.document]
              using erased.removeFile row.filePath
      · simpa [executes, RemoveBroadcast.document] using represents
  | _ => exact ⟨represents, rfl⟩

end RecordStore

end RaspberryPiService
