import Mathlib.Data.List.Perm.Subperm
import RaspberryPiService.CoreManager.ShownFlags

/-!
# The list of recordings on the screens of the clients

A client that joins is not sent the recordings. It shows them once some client has asked
for a listing, which everybody is sent, and keeps the list up to date with what is
broadcast about recordings that are inserted and removed.

A list never shows a recording twice or one that is not in the table. It shows all of them
unless a listing failed or was cut short. Both need that the ids fit into an `int`, and
that no row with an empty path is removed: the handler takes the empty path for a failure.
-/

namespace RaspberryPiService

open Publication

namespace AudioRecord

/-- The recording that a client reads. -/
def read (document : Json) : Option AudioRecord := do
  let id ← JsonHelper.getIntField document "id"
  let filePath ← JsonHelper.getStringField document "file_path"
  let durationSec ← JsonHelper.getIntField document "duration_sec"
  return { id, filePath, durationSec }

@[simp] theorem read_json (record : AudioRecord) : read record.json = some record := by
  simp [read, json, JsonHelper.getIntField, JsonHelper.getStringField, Json.member?_assigned,
    List.lookup_cons]

end AudioRecord

/-- The recordings on a screen, once a listing has been sent. -/
abbrev RecordScreen : Type := Option (List AudioRecord)

namespace RecordScreen

/-- What a client makes of a message. -/
def receive (screen : RecordScreen) (message : StatusMessage) : RecordScreen :=
  if message.status = "success" then
    match message.command with
    | "get_all_record_noti" =>
        match message.data.member? "records" with
        | some (.array records) => some (records.filterMap AudioRecord.read)
        | _ => screen
    | "insert_record_noti" =>
        match (message.data.member? "record").bind AudioRecord.read with
        | some record => screen.map fun records => records ++ [record]
        | none => screen
    | "remove_record_noti" =>
        match JsonHelper.getIntField message.data "id" with
        | some id => screen.map fun records => records.filter fun record => record.id ≠ id
        | none => screen
    | _ => screen
  else screen

def receiveDocument (screen : RecordScreen) (document : Json) : RecordScreen :=
  match StatusMessage.read document with
  | some message => screen.receive message
  | none => screen

@[simp] theorem receiveDocument_document (screen : RecordScreen) (message : StatusMessage) :
    screen.receiveDocument message.document = screen.receive message := by
  simp [receiveDocument]

theorem receive_of_fail (screen : RecordScreen) {message : StatusMessage}
    (fail : message.status ≠ "success") : screen.receive message = screen :=
  if_neg fail

/-- The commands of the messages about the table. -/
def commands : List String :=
  ["get_all_record_noti", "insert_record_noti", "remove_record_noti"]

/-- Messages about anything else change nothing. -/
theorem receive_of_other (screen : RecordScreen) {message : StatusMessage}
    (other : message.command ∉ commands) : screen.receive message = screen := by
  simp only [commands, List.mem_cons, List.not_mem_nil, or_false, not_or] at other
  unfold receive
  split
  · split
    · next isListing => exact absurd isListing other.1
    · next isInsertion => exact absurd isInsertion other.2.1
    · next isRemoval => exact absurd isRemoval other.2.2
    · rfl
  · rfl

theorem receive_listing (screen : RecordScreen) (records : List AudioRecord)
    (msg component : String) :
    screen.receive
      { status := "success", msg, component, command := "get_all_record_noti"
        data := .assigned [("records", .array (records.map AudioRecord.json))] } =
      some records := by
  simp [receive, Json.member?_assigned]

theorem receive_insertion (screen : RecordScreen) (record : AudioRecord)
    (msg component : String) :
    screen.receive
      { status := "success", msg, component, command := "insert_record_noti"
        data := .assigned [("record", record.json)] } =
      screen.map fun records => records ++ [record] := by
  simp [receive, Json.member?_assigned]

theorem receive_removal (screen : RecordScreen) (id : Int32) (msg component : String) :
    screen.receive
      { status := "success", msg, component, command := "remove_record_noti"
        data := .assigned [("id", .number id)] } =
      screen.map fun records => records.filter fun record => record.id ≠ id := by
  simp [receive, Json.member?_assigned, JsonHelper.getIntField]

end RecordScreen

/-- A way to compare a list with the table that lasts when both change alike. -/
structure Comparison where
  holds : List AudioRecord → List AudioRecord → Prop
  append : ∀ {records rows} record, holds records rows →
    holds (records ++ [record]) (rows ++ [record])
  filter : ∀ {records rows} keep, holds records rows →
    holds (records.filter keep) (rows.filter keep)

/-- Everything in the list is in the table, and no more often. -/
def Comparison.sound : Comparison where
  holds := List.Subperm
  append record below := (List.subperm_append_right [record]).mpr below
  filter keep below := below.filter keep

/-- The list has what the table has, in some order. -/
def Comparison.exact : Comparison where
  holds := List.Perm
  append record same := same.append_right [record]
  filter keep same := same.filter keep

theorem Int32.ofNat_eq_iff {number : Nat} (fits : number < 2 ^ 31) (other : Int32) :
    Int32.ofNat number = other ↔ (number : Int) = other.toInt := by
  rw [← Int32.toInt_inj, Int32.toInt_ofNat_of_lt fits]

namespace SQLiteDatabase

variable {database : SQLiteDatabase} {run : StatementRun}

/-- The recordings in the table. -/
def recordings (database : SQLiteDatabase) : List AudioRecord :=
  database.audioRecords.map AudioRecordRow.toAudioRecord

@[simp] theorem recordings_insertRow (filePath : String) (durationSec : Int32) (now : Int)
    (fresh : ∀ row ∈ database.audioRecords, row.filePath ≠ filePath) :
    (database.insertRow filePath durationSec now fresh).recordings =
      database.recordings ++ [⟨.ofNat (database.sequence + 1), filePath, durationSec⟩] := by
  simp [recordings, insertRow, AudioRecordRow.toAudioRecord]

/-- Among ids that fit into an `int`, a row goes by the id that clients know. -/
theorem recordings_deleteRow (fits : database.sequence < 2 ^ 31) {recordId : Int32} {id : Nat}
    (selected : (id : Int) = recordId.toInt) :
    (database.deleteRow id).recordings =
      database.recordings.filter fun record => record.id ≠ recordId := by
  simp only [recordings, deleteRow, List.filter_map]
  congr 1
  apply List.filter_congr
  intro row present
  have issued := database.issued row present
  have same : row.id = id ↔ Int32.ofNat row.id = recordId := by
    rw [Int32.ofNat_eq_iff (by omega), ← selected]
    omega
  rw [Bool.eq_iff_iff]
  simp only [Function.comp_apply, decide_eq_true_eq]
  exact not_congr same

/-- A listing shows rows of the table, each once. -/
theorem getAllRecords_subperm (database : SQLiteDatabase) (run : StatementRun) :
    (database.getAllRecords run).Subperm database.recordings := by
  have sorted := (run.order.perm database.audioRecords).map AudioRecordRow.toAudioRecord
  unfold getAllRecords
  split
  · dsimp only
    apply List.Subperm.trans _ sorted.subperm
    apply List.Sublist.subperm
    apply List.Sublist.map
    split
    · exact List.take_sublist _ _
    · exact (List.take_sublist _ _).trans (List.take_sublist _ _)
  · exact List.nil_subperm

end SQLiteDatabase

namespace RecordScreen

variable {comparison : Comparison} {database : SQLiteDatabase} {run : StatementRun}
  {screen : RecordScreen}

/-- The list compares with the table, once there is one. -/
def Agrees (comparison : Comparison) (database : SQLiteDatabase) (screen : RecordScreen) : Prop :=
  ∀ records, screen = some records → comparison.holds records database.recordings

theorem agrees_none (comparison : Comparison) (database : SQLiteDatabase) :
    Agrees comparison database none := by
  intro records nothing
  cases nothing

/-- The list changes as the table does. -/
theorem Agrees.map {next : SQLiteDatabase} (agrees : Agrees comparison database screen)
    (change : List AudioRecord → List AudioRecord)
    (keeps : ∀ records, comparison.holds records database.recordings →
      comparison.holds (change records) next.recordings) :
    Agrees comparison next (screen.map change) := by
  intro records shown
  rcases Option.map_eq_some_iff.mp shown with ⟨before, wasShown, rfl⟩
  exact keeps before (agrees before wasShown)

/-- What the screens make of the documents of a handler on the table. -/
abbrev KeepsUp (comparison : Comparison) (screen : RecordScreen)
    (handled : SQLiteDatabase × List Json) : Prop :=
  Agrees comparison handled.1 (handled.2.foldl receiveDocument screen)

theorem keepsUp_getAllAudioRecords
    (lists : comparison.holds (database.getAllRecords run) database.recordings) :
    KeepsUp comparison screen (SQLiteDBHandler.getAllAudioRecords database run) := by
  intro records shown
  simp only [SQLiteDBHandler.getAllAudioRecords, WebSocketServer.updateStateAndBroadcast,
    List.foldl_cons, List.foldl_nil, receiveDocument_document, receive_listing,
    Option.some.injEq] at shown
  rw [← shown]
  exact lists

theorem keepsUp_insertAudioRecord (agrees : Agrees comparison database screen)
    (fits : database.sequence + 1 < 2 ^ 31) {filePath : String} (nulFree : NulFree filePath)
    (durationSec : Int32) :
    KeepsUp comparison screen
      (SQLiteDBHandler.insertAudioRecord database run (.wav filePath durationSec)) := by
  have inserted := database.insertAudioRecord_cases run ⟨0, filePath, durationSec⟩
  rw [DBusString.text_cStr nulFree] at inserted
  unfold SQLiteDBHandler.insertAudioRecord
  rcases inserted with ⟨fresh, inserted⟩ | unchanged
  · have isId : Int32.ofNat (database.sequence + 1) ≠ -1 := by
      rw [Ne, Int32.ofNat_eq_iff fits, show (-1 : Int32).toInt = -1 from rfl]
      omega
    simp only [inserted, ne_eq, isId, not_false_eq_true, if_true, KeepsUp,
      WebSocketServer.updateStateAndBroadcast, List.foldl_cons, List.foldl_nil,
      receiveDocument_document, receive_insertion]
    apply agrees.map
    intro records same
    rw [SQLiteDatabase.recordings_insertRow]
    exact comparison.append _ same
  · simpa [unchanged, KeepsUp, WebSocketServer.updateStateAndBroadcast, receive_of_fail]
      using agrees

theorem keepsUp_removeRecordRow (agrees : Agrees comparison database screen)
    (fits : database.sequence < 2 ^ 31) {recordId : Int32}
    (named : ∀ row, database.findRow recordId = some row → row.filePath ≠ "") :
    KeepsUp comparison screen
      (SQLiteDBHandler.removeRecordRow database run (some (.removeRecord recordId))) := by
  unfold SQLiteDBHandler.removeRecordRow
  rcases database.removeAudioRecord_cases run recordId with ⟨row, found, removed⟩ | unchanged
  · have selected := (SQLiteDatabase.findRow_eq_some found).2
    simp only [removed, if_pos (named row found), KeepsUp, WebSocketServer.updateStateAndBroadcast,
      List.foldl_cons, List.foldl_nil, receiveDocument_document, receive_removal]
    apply agrees.map
    intro records same
    rw [SQLiteDatabase.recordings_deleteRow fits selected]
    exact comparison.filter _ same
  · simpa [unchanged, KeepsUp, WebSocketServer.updateStateAndBroadcast, receive_of_fail]
      using agrees

/-- What inserting and removing must meet. -/
def Ordinary (core : Core) (event : CoreSurroundings × CoreManagerEvent) : Prop :=
  core.database.sequence + 1 < 2 ^ 31 ∧
    match event.2 with
    | .command ⟨.removeRecord, some (.removeRecord recordId)⟩ =>
        ∀ row, core.database.findRow recordId = some row → row.filePath ≠ ""
    | .noti ⟨.insertWavFile, .wav filePath _⟩ => NulFree filePath
    | _ => True

/-- What a listing must meet to show everything. -/
def ListsAll (core : Core) (event : CoreSurroundings × CoreManagerEvent) : Prop :=
  match event.2 with
  | .command ⟨.getAllRecord, _⟩ =>
      event.1.run.executes ∧ event.1.run.fetched = none ∧
        core.database.audioRecords.length ≤ SQLiteDatabase.listingLimit
  | _ => True

/-- An event that keeps the lists as they should be. -/
structure Keeps (comparison : Comparison) (core : Core)
    (event : CoreSurroundings × CoreManagerEvent) : Prop where
  ordinary : Ordinary core event
  lists : ∀ payload, event.2 = .command ⟨.getAllRecord, payload⟩ →
    comparison.holds (core.database.getAllRecords event.1.run) core.database.recordings

theorem Ordinary.keeps {core : Core} {event : CoreSurroundings × CoreManagerEvent}
    (ordinary : Ordinary core event) : Keeps .sound core event where
  ordinary := ordinary
  lists _ _ := core.database.getAllRecords_subperm event.1.run

/-- Documents about anything else change no screen. -/
theorem foldl_receiveDocument_of_shows {command : String} {documents : List Json}
    (shown : Shows command documents) (other : command ∉ commands) (screen : RecordScreen) :
    documents.foldl receiveDocument screen = screen := by
  rcases shown with rfl | ⟨message, rfl, rfl⟩
  · rfl
  · simp only [List.foldl_cons, List.foldl_nil, receiveDocument_document]
    exact receive_of_other screen other

end RecordScreen

namespace CoreMainWorker

open RecordScreen

variable {comparison : Comparison} {surroundings : CoreSurroundings} {core : Core}
  {screen : RecordScreen}

theorem msgData_not_mem_commands {eventTypeId : NotiEventTypeID}
    (other : eventTypeId ≠ .insertWavFile) : eventTypeId.msgData ∉ commands := by
  cases eventTypeId <;> first | decide | exact absurd rfl other

/-- What an event makes of the table, and of the list that a client shows. -/
abbrev KeepsList (comparison : Comparison) (screen : RecordScreen)
    (handled : Core × List CoreEffect) : Prop :=
  Agrees comparison handled.1.database
    ((shownDocuments handled.2).foldl receiveDocument screen)

theorem keepsList_onDatabase {handled : SQLiteDatabase × List Json}
    (keepsUp : KeepsUp comparison screen handled) :
    KeepsList comparison screen (onDatabase core handled) := by
  simpa [KeepsList, onDatabase] using keepsUp

theorem keepsList_processNoti {event : NotiEvent}
    (keeps : Keeps comparison core (surroundings, .noti event))
    (agrees : Agrees comparison core.database screen) :
    KeepsList comparison screen (processNoti surroundings core event) := by
  by_cases other : event.eventTypeId = .insertWavFile
  · rcases event with ⟨eventTypeId, payload⟩
    cases other
    apply keepsList_onDatabase
    cases payload with
    | wav filePath durationSec =>
        exact keepsUp_insertAudioRecord agrees keeps.ordinary.1 keeps.ordinary.2 durationSec
    | _ => exact agrees
  · rw [KeepsList, database_processNoti other]
    rw [foldl_receiveDocument_of_shows (shows_processNoti event) (msgData_not_mem_commands other)]
    exact agrees

theorem keepsList_processCommand {event : CoreEvent}
    (keeps : Keeps comparison core (surroundings, .command event))
    (agrees : Agrees comparison core.database screen) :
    KeepsList comparison screen (processCommand surroundings core event) := by
  by_cases isRemove : event.eventTypeId = .removeRecord
  · rcases event with ⟨eventTypeId, payload⟩
    cases isRemove
    apply keepsList_onDatabase
    rcases payload with - | payload
    · exact agrees
    · cases payload with
      | removeRecord recordId =>
          exact keepsUp_removeRecordRow agrees (Nat.lt_of_succ_lt keeps.ordinary.1) keeps.ordinary.2
      | _ => exact agrees
  · by_cases isGet : event.eventTypeId = .getAllRecord
    · rcases event with ⟨eventTypeId, payload⟩
      cases isGet
      apply keepsList_onDatabase
      exact keepsUp_getAllAudioRecords (keeps.lists payload rfl)
    · obtain ⟨same, silent⟩ :
          (processCommand surroundings core event).1.database = core.database ∧
            shownDocuments (processCommand surroundings core event).2 = [] :=
        processCommand_of_other isRemove isGet
      rw [KeepsList, same, silent]
      exact agrees

theorem keepsList_processEvent {event : CoreManagerEvent}
    (keeps : Keeps comparison core (surroundings, event))
    (agrees : Agrees comparison core.database screen) :
    KeepsList comparison screen (processEvent surroundings core event) := by
  cases event with
  | startup => exact agrees
  | command event => exact keepsList_processCommand keeps agrees
  | noti event => exact keepsList_processNoti keeps agrees
  | confirmationTimeout payload =>
      simp only [processEvent, KeepsList, shownDocuments_processTimeout, database_processTimeout]
      exact agrees

end CoreMainWorker

namespace RecordScreen

variable {comparison : Comparison}

/-- What is still to be broadcast is one message at most, which leads any list to the table. -/
def Due (comparison : Comparison) (core : Core) (documents : List Json) : Prop :=
  documents.length ≤ 1 ∧ Agrees comparison core.database (documents.foldl receiveDocument none)

theorem receiveDocument_part {part : Core → Json} (member : part ∈ coreServer.parts) (core : Core)
    (screen : RecordScreen) : screen.receiveDocument (part core) = screen := by
  rcases List.mem_map.mp member with ⟨message, present, rfl⟩
  rw [receiveDocument_document, receive_of_other]
  simp only [WebSocketServer.sendInitStateToClient, List.mem_cons, List.not_mem_nil,
    or_false] at present
  rcases present with rfl | rfl | rfl <;> exact of_decide_eq_true rfl

theorem tells (comparison : Comparison) :
    Tells receiveDocument coreServer (Keeps comparison) none none (Due comparison)
      fun core => Agrees comparison core.database where
  no_message core := ⟨by simp, agrees_none comparison _⟩
  due core event keeps := by
    refine ⟨?_, CoreMainWorker.keepsList_processEvent keeps (agrees_none comparison _)⟩
    exact CoreMainWorker.length_shownDocuments_le _
  rest core document documents due := by
    obtain rfl : documents = [] := by simpa using due.1
    exact ⟨by simp, agrees_none comparison _⟩
  event core event screen keeps agrees := CoreMainWorker.keepsList_processEvent keeps agrees
  part part member core documents screen _ agrees := by
    rw [receiveDocument_part member]
    exact agrees
  first_agrees _ core documents due := due.2
  part_agrees _ isAbout := by cases isAbout

variable {core : Core} {publication : Publication Core Json}
  {schedule : List (Publication.Action (CoreSurroundings × CoreManagerEvent))} {client : Nat}
  {documents : List Json} {records : List AudioRecord}

/--
Once nothing is left to be broadcast, what a client shows is in the table, and no path is
shown twice, whichever listings have failed or been cut short.
-/
theorem subperm_of_settled
    (ran : (Publication.protocol coreServer core).run schedule = some publication)
    (along : (Publication.protocol coreServer core).Along (Allows Ordinary) schedule)
    (settled : publication.Settled) (member : (client, documents) ∈ publication.readers)
    (shown : documents.foldl receiveDocument none = some records) :
    records.Subperm publication.state.database.recordings ∧
      (records.map AudioRecord.filePath).Nodup := by
  have keeps := System.Along.imp (allows_imp fun core event => Ordinary.keeps) along
  have below := agrees_of_settled (tells .sound) ran keeps settled _ member records shown
  refine ⟨below, ?_⟩
  rcases below with ⟨same, perm, sublist⟩
  have distinct : (publication.state.database.recordings.map AudioRecord.filePath).Nodup := by
    simpa [SQLiteDatabase.recordings, List.Nodup, List.pairwise_map,
      AudioRecordRow.toAudioRecord] using publication.state.database.unique
  exact ((perm.map _).nodup_iff).mp (distinct.sublist (sublist.map _))

/-- A recording is inserted before a listing, another one after it, and the first is removed. -/
def listedBetween : List (Publication.Action (CoreSurroundings × CoreManagerEvent)) :=
  [.join 7, .sendPart, .sendPart, .sendPart, .sendPart,
    .event ({}, .noti ⟨.insertWavFile, .wav "a.wav" 3⟩), .publish,
    .event ({}, .command (ClientCommand.event .getAllRecord)), .publish,
    .event ({}, .noti ⟨.insertWavFile, .wav "b.wav" 5⟩), .publish,
    .event ({}, .command (ClientCommand.event (.removeRecord 1))), .publish]

theorem allows_listedBetween : (Publication.protocol coreServer {}).Along
    (Allows fun core event => Ordinary core event ∧ ListsAll core event) listedBetween := by
  iterate 5 refine .cons trivial rfl ?_
  refine .cons ⟨⟨by decide, by decide⟩, trivial⟩ rfl (.cons trivial rfl ?_)
  refine .cons ⟨⟨by decide, trivial⟩, rfl, rfl, by decide⟩ rfl (.cons trivial rfl ?_)
  refine .cons ⟨⟨by decide, by decide⟩, trivial⟩ rfl (.cons trivial rfl ?_)
  refine .cons ⟨⟨by decide, ?_⟩, trivial⟩ rfl (.cons trivial rfl trivial)
  rintro row ⟨⟩
  decide

theorem subperm_listedBetween : ∃ publication documents,
    (Publication.protocol coreServer {}).run listedBetween = some publication ∧
      (7, documents) ∈ publication.readers ∧
        [⟨2, "b.wav", 5⟩].Subperm publication.state.database.recordings := by
  refine ⟨_, _, rfl, List.mem_cons_self, ?_⟩
  have ran : (Publication.protocol coreServer {}).run listedBetween = some _ := rfl
  have along := System.Along.imp (allows_imp fun _ _ => And.left) allows_listedBetween
  exact (subperm_of_settled ran along ⟨rfl, rfl⟩ List.mem_cons_self rfl).1

end RecordScreen

end RaspberryPiService
