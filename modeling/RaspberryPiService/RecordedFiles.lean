import RaspberryPiService.CoreManager.RecordIds
import RaspberryPiService.RecordManager.ReportedCopies
import RaspberryPiService.ShownNotifications

/-!
# Listed recordings and their files

The record manager makes the files of the recordings, and the core keeps the table of them.
A filter thread copies a recording to its destination and tells the core, which inserts a
row; when a client removes the recording, the core deletes the row and then the file. The
two managers share nothing but the directory, and see each other's changes late.

The table starts empty. Events of other origins come into the queue of the core at any time,
and everything that can fail may do so: messages get lost for want of memory, statements
fail, files stay. An exception that leaves the receiver ends the run.
-/

namespace RaspberryPiService

open NumberText

def RecordNotiCommand.dbusCommand : RecordNotiCommand → DBusCommand
  | .startRecordNoti => .startRecordNoti
  | .stopRecordNoti => .stopRecordNoti
  | .cancelRecordNoti => .cancelRecordNoti
  | .filterWavFileNoti => .filterWavFileNoti

/-- The texts of a notification of the record manager. -/
def RecordNoti.dataInfo (noti : RecordNoti) : DBusDataInfo :=
  ((DBusDataInfo.init.set .message noti.message).set .wavFilePath noti.wavFilePath).set
    .wavFileDurationSec noti.wavFileDurationSec

/-- The notification tells of a filtered recording. -/
def RecordNoti.TellsOfCopy (noti : RecordNoti) : Prop :=
  noti.command = .filterWavFileNoti ∧ noti.isSuccess = true

instance (noti : RecordNoti) : Decidable noti.TellsOfCopy :=
  inferInstanceAs (Decidable (_ ∧ _))

def RecordNoti.copyPath? (noti : RecordNoti) : Option String :=
  if noti.TellsOfCopy then some noti.wavFilePath else none

/-- The path and the duration of the recording that an event has the core insert. -/
def CoreManagerEvent.recording? : CoreManagerEvent → Option (String × Int32)
  | .noti ⟨.insertWavFile, .wav filePath durationSec⟩ => some (filePath, durationSec)
  | _ => none

/-- The file that `removeAudioRecord` deletes after the row. -/
def CoreMainWorker.deletedPath? (surroundings : CoreSurroundings) (core : Core) :
    CoreManagerEvent → Option String
  | .command ⟨.removeRecord, some (.removeRecord recordId)⟩ =>
      let filePath := (core.database.removeAudioRecord surroundings.run recordId).2
      if filePath ≠ "" then some filePath else none
  | _ => none

/-- The two managers, what is between them, and the directory that they share. -/
structure RecordingLibrary where
  manager : RecordManager
  -- when the recordings have been saved
  times : List LocalTime := []
  bus : List RecordNoti := []
  events : List CoreManagerEvent := []
  core : Core := {}
  -- MainWorker has deleted a row and comes to the file
  deleting : Option String := none

namespace RecordingLibrary

inductive Action where
  | record (action : RecordManager.Action)
  | receive (memory : Memory)
  -- a client, a timer or another manager
  | push (event : CoreManagerEvent)
  | process (surroundings : CoreSurroundings)
  | deleteFile (succeeds : Bool)

/-- The receiver of the core takes the first notification from the bus. -/
def receive (library : RecordingLibrary) (memory : Memory) : Option RecordingLibrary :=
  match library.bus with
  | [] => none
  | noti :: bus =>
      match Notifier.recordManager.sendMessageNoti memory noti.command.dbusCommand
          noti.isSuccess noti.dataInfo with
      | [] => some { library with bus }
      | msg :: _ =>
          match CoreReceiver.receive msg with
          | .ok events => some { library with bus, events := library.events ++ events.map .noti }
          | .error _ => none

/-- MainWorker of the core takes the first event from its queue. -/
def process (library : RecordingLibrary) (surroundings : CoreSurroundings) :
    Option RecordingLibrary :=
  match library.deleting, library.events with
  | none, event :: events =>
      some { library with
        events
        core := (CoreMainWorker.processEvent surroundings library.core event).1
        deleting := CoreMainWorker.deletedPath? surroundings library.core event }
  | _, _ => none

def deleteFile (library : RecordingLibrary) (succeeds : Bool) : Option RecordingLibrary :=
  library.deleting.map fun filePath =>
    { library with
      manager := { library.manager with
        files := if succeeds then Function.update library.manager.files filePath none
          else library.manager.files }
      deleting := none }

def step (library : RecordingLibrary) : Action → Option RecordingLibrary
  | .record action =>
      (library.manager.step action).map fun next =>
        { library with
          manager := next
          times := library.manager.readTime action next library.times
          bus := library.bus ++ next.worker.sent.drop library.manager.worker.sent.length }
  | .receive memory => library.receive memory
  | .push event =>
      if event.recording? = none then some { library with events := library.events ++ [event] }
      else none
  | .process surroundings => library.process surroundings
  | .deleteFile succeeds => library.deleteFile succeeds

/-- Both managers, started when there are some files and no recordings in the table. -/
def protocol (files : Files) : System RecordingLibrary Action where
  init := { manager := { files } }
  step := step

/-- A copy that has been reported, with the duration of its recording and all of the samples. -/
def Delivered (manager : RecordManager) (path : String) (durationSec : Int) : Prop :=
  ∃ index thread file, manager.Copy index thread file ∧ thread.filteredFilePath = path ∧
    thread.durationSec = durationSec ∧ manager.files.Hold path file.samples

/-- The paths that have been reported, on their way into the table, out of it and in it. -/
def claimed (library : RecordingLibrary) : List String :=
  library.bus.filterMap RecordNoti.copyPath? ++
    (library.events.filterMap CoreManagerEvent.recording?).map Prod.fst ++
    library.core.database.audioRecords.map AudioRecordRow.filePath ++ library.deleting.toList

/-- What is claimed stays so, except for some paths. -/
def Drops (library next : RecordingLibrary) (dropped : List String) : Prop :=
  library.claimed.Perm (dropped ++ next.claimed)

/-- Recordings are saved at different times, with all of their samples. -/
def Ordinary (library : RecordingLibrary) : Action → Prop
  | .record (.saveWavFile now isOpen written) =>
      now ∉ library.times ∧ library.manager.Whole (.saveWavFile now isOpen written)
  | _ => True

instance (library : RecordingLibrary) : DecidablePred library.Ordinary
  | .record (.saveWavFile _ _ _) => inferInstanceAs (Decidable (_ ∧ (_ → _ ∧ _)))
  | .record .testRunningFlag | .record (.invoke _) | .record .call | .record (.thread _)
  | .record .processFilterWavFileEvent | .record (.filter _ _) | .record .stop
  | .receive _ | .push _ | .process _ | .deleteFile _ => isTrue trivial

/-- Each path that is claimed is that of one copy, and the copy is there. -/
structure Keeps (library : RecordingLibrary) : Prop where
  named : library.manager.Named library.times
  nodup : library.times.Nodup
  prepared : library.manager.Prepared
  told : ∀ noti ∈ library.bus, noti.TellsOfCopy → ∃ path durationSec,
    noti = .filtered path durationSec ∧ Delivered library.manager path durationSec
  queued : ∀ recording ∈ library.events.filterMap CoreManagerEvent.recording?,
    Delivered library.manager recording.1 recording.2.toInt
  listed : ∀ row ∈ library.core.database.audioRecords,
    Delivered library.manager row.filePath row.durationSec.toInt
  deleting : ∀ path ∈ library.deleting, ∃ index thread file,
    library.manager.Copy index thread file ∧ thread.filteredFilePath = path
  unique : library.claimed.Nodup

section Paths

variable {manager : RecordManager} {times : List LocalTime} {path : String} {durationSec : Int}

theorem nulFree_putTime (now : LocalTime) : NulFree (putTime now) := by
  have digits : ∀ digit < 10, '\x00' ≠ Nat.digitChar digit := by decide
  have two : ∀ {number : Nat}, number < 100 → '\x00' ∉ twoDigits number := by
    intro number inside
    simp only [twoDigits, List.mem_cons, List.not_mem_nil, or_false, not_or]
    exact ⟨digits _ (by omega), digits _ (by omega)⟩
  simp only [NulFree, putTime, String.toList_ofList, List.mem_append, not_or]
  refine ⟨⟨⟨⟨⟨⟨⟨?_, ?_⟩, ?_⟩, ?_⟩, by decide⟩, ?_⟩, ?_⟩, ?_⟩ <;> apply two <;> omega

/-- The path of a copy comes through unchanged wherever it is handed on as a C string. -/
theorem Delivered.nulFree (delivered : Delivered manager path durationSec)
    (named : manager.Named times) : NulFree path := by
  rcases delivered with ⟨index, thread, file, copy, rfl, -, -⟩
  rcases copy.target with ⟨isFilterSuccess, target⟩
  rcases named.exists_time copy.saved with ⟨now, -, isPath⟩
  have stamp : '\x00' ∉ (putTime now).toList := nulFree_putTime now
  rw [NulFree, target, isPath, toList_path (flat_putTime now)]
  cases isFilterSuccess <;> simp [stamp]

theorem Delivered.ne_empty (delivered : Delivered manager path durationSec)
    (named : manager.Named times) : path ≠ "" := by
  rcases delivered with ⟨index, thread, file, copy, rfl, -, -⟩
  rcases copy.target with ⟨isFilterSuccess, target⟩
  rcases named.exists_time copy.saved with ⟨now, -, isPath⟩
  intro empty
  have texts := congrArg String.toList (target.symm.trans empty)
  rw [isPath, toList_path (flat_putTime now)] at texts
  cases isFilterSuccess <;> simp at texts

/-- The record manager goes on. -/
theorem Delivered.step {next : RecordManager} {action : RecordManager.Action}
    (delivered : Delivered manager path durationSec) (named : manager.Named times)
    (stepped : manager.step action = some next)
    (nodup : (manager.readTime action next times).Nodup) :
    Delivered next path durationSec := by
  rcases delivered with ⟨index, thread, file, copy, rfl, rfl, held⟩
  rcases copy.step named.lined stepped with ⟨after, kept, target, duration⟩
  refine ⟨index, after, file, kept, target, duration, ?_⟩
  simpa only [Files.Hold, copy.files named stepped nodup] using held

/-- Another file is deleted. -/
theorem Delivered.deleteFile {other : String} (delivered : Delivered manager path durationSec)
    (different : path ≠ other) :
    Delivered { manager with files := Function.update manager.files other none } path
      durationSec := by
  rcases delivered with ⟨index, thread, file, copy, isPath, duration, held⟩
  refine ⟨index, thread, file, ⟨copy.found, copy.saved, copy.reported, copy.target⟩, isPath,
    duration, ?_⟩
  simpa only [Files.Hold, Function.update_of_ne different] using held

end Paths

end RecordingLibrary

namespace CoreReceiver

/-- What the receiver makes of a message, in which the texts end at their first NULs. -/
theorem handled_of_sent {notifier : Notifier} {memory : Memory} {cmd : DBusCommand}
    {isSuccess : Bool} {dataInfo : DBusDataInfo} {msg : DBusMessage} {events : List NotiEvent}
    (sent : msg ∈ notifier.sendMessageNoti memory cmd isSuccess dataInfo)
    (received : receive msg = .ok events) :
    ∃ info, DBusReceiver.handleMessageNoti (some cmd) isSuccess info = .ok events ∧
      (dataInfo.IsNulFree → info = dataInfo) := by
  have made := (Notifier.made_of_sent sent).2
  obtain ⟨info, arrives, whole⟩ : ∃ info, DBusReceiverBase.dispatchMessage msg =
      .ok (.handleMessageNoti (some cmd) isSuccess info) ∧
        (dataInfo.IsNulFree → info = dataInfo) := by
    have args : ∃ info, DBusReceiverBase.dispatchMessage msg =
        .ok (.handleMessageNoti (some cmd) isSuccess info) := by
      obtain ⟨-, rfl⟩ := ISenderFactory.makeMsgNotiInternal_eq_ok_iff.mp made
      rw [DBusReceiverBase.dispatchMessage_notification rfl, DBusCommand.ofInt32?_toInt32]
      exact ⟨_, rfl⟩
    rcases args with ⟨info, arrives⟩
    refine ⟨info, arrives, fun nulFree => ?_⟩
    have asSent := DBusReceiverBase.dispatchMessage_sent nulFree made
    rw [arrives] at asSent
    injection asSent with same
    injection same
  have forCore : msg.isSignal "com.example.coremanager.interface" "CoreSignal" := by
    obtain ⟨-, rfl⟩ := ISenderFactory.makeMsgNotiInternal_eq_ok_iff.mp made
    simp [DBusMessage.isSignal, SignalAddress.coreManager]
  refine ⟨info, ?_, whole⟩
  cases handled : DBusReceiver.handleMessageNoti (some cmd) isSuccess info with
  | ok found =>
      simp only [receive, forCore, if_true, DBusReceiver.dispatchMessage, arrives, handled,
        Except.ok.injEq] at received
      rw [received]
  | error error =>
      simp [receive, forCore, DBusReceiver.dispatchMessage, arrives, handled] at received

end CoreReceiver

namespace RecordNoti

variable {noti : RecordNoti} {info : DBusDataInfo} {events : List NotiEvent}

/-- Nothing else that the record manager tells has the core insert a recording. -/
theorem recordings_of_other (other : ¬ noti.TellsOfCopy)
    (handled : DBusReceiver.handleMessageNoti (some noti.command.dbusCommand) noti.isSuccess
      info = .ok events) :
    (events.map CoreManagerEvent.noti).filterMap CoreManagerEvent.recording? = [] := by
  rcases noti with ⟨command, isSuccess, message, path, durationSec⟩
  cases command with
  | startRecordNoti | stopRecordNoti | cancelRecordNoti =>
      cases handled
      rfl
  | filterWavFileNoti =>
      cases isSuccess with
      | false =>
          cases handled
          rfl
      | true => exact absurd ⟨rfl, rfl⟩ other

theorem recordings_of_copy (tells : noti.TellsOfCopy)
    (handled : DBusReceiver.handleMessageNoti (some noti.command.dbusCommand) noti.isSuccess
      info = .ok events) :
    ∃ durationSec, stoi (info.get .wavFileDurationSec) = .ok durationSec ∧
      (events.map CoreManagerEvent.noti).filterMap CoreManagerEvent.recording? =
        [(info.get .wavFilePath, durationSec)] := by
  rw [tells.1, tells.2] at handled
  rcases Throws.bind_eq_ok_iff.mp handled with ⟨durationSec, converted, ⟨⟩⟩
  exact ⟨durationSec, converted, rfl⟩

theorem nulFree_toString (number : Int) : NulFree (toString number) := by
  intro nul
  rcases isDigit_or_minus_of_mem_toString number _ nul with digit | minus
  · exact absurd digit (by decide)
  · cases minus

theorem isNulFree_filtered {path : String} (nulFree : NulFree path) (durationSec : Int) :
    (filtered path durationSec).dataInfo.IsNulFree :=
  have noMessage : NulFree "" := by decide
  ((DBusDataInfo.isNulFree_init.set _ noMessage).set _ nulFree).set _ (nulFree_toString durationSec)

end RecordNoti

namespace CoreMainWorker

/-- What the insertion of a recording does to the table. -/
theorem database_of_recording (surroundings : CoreSurroundings) (core : Core)
    {event : CoreManagerEvent} {path : String} {durationSec : Int32}
    (isRecording : event.recording? = some (path, durationSec)) :
    let next := (processEvent surroundings core event).1.database
    let filePath := (DBusString.cStr path).text
    deletedPath? surroundings core event = none ∧
      ((∃ fresh, next =
        core.database.insertRow filePath durationSec surroundings.run.now fresh) ∨
      next = core.database ∧ ¬ ((∀ row ∈ core.database.audioRecords, row.filePath ≠ filePath) ∧
        surroundings.run.executes ∧ core.database.sequence < SQLiteDatabase.maxRowId)) := by
  obtain rfl : event = .noti ⟨.insertWavFile, .wav path durationSec⟩ := by
    unfold CoreManagerEvent.recording? at isRecording
    split at isRecording <;> cases isRecording
    rfl
  refine ⟨rfl, ?_⟩
  have same : (processEvent surroundings core (.noti ⟨.insertWavFile, .wav path durationSec⟩)).1 =
      { core with
        database :=
          (core.database.insertAudioRecord surroundings.run ⟨0, path, durationSec⟩).1 } := by
    simp only [processEvent, processNoti, onDatabase, SQLiteDBHandler.insertAudioRecord]
    split <;> rfl
  rw [same]
  unfold SQLiteDatabase.insertAudioRecord
  dsimp only
  split
  · next fresh =>
      split
      · exact Or.inl ⟨fresh, rfl⟩
      · next fails => exact Or.inr ⟨rfl, fun inserts => fails inserts.2⟩
  · next known => exact Or.inr ⟨rfl, fun inserts => known inserts.1⟩

/-- What any other event does to the table, and to the files after it. -/
theorem database_of_other (surroundings : CoreSurroundings) (core : Core)
    {event : CoreManagerEvent} (other : event.recording? = none) :
    let next := (processEvent surroundings core event).1.database
    let deleted := deletedPath? surroundings core event
    (∃ row ∈ core.database.audioRecords, next = core.database.deleteRow row.id ∧
      deleted = if row.filePath ≠ "" then some row.filePath else none) ∨
    next = core.database ∧ deleted = none := by
  cases event with
  | startup => exact Or.inr ⟨rfl, rfl⟩
  | command event =>
      rcases event with ⟨eventTypeId, payload⟩
      by_cases isRemove : eventTypeId = .removeRecord
      · subst isRemove
        rcases payload with - | payload
        · exact Or.inr ⟨rfl, rfl⟩
        cases payload with
        | removeRecord recordId =>
            simp only [processEvent, processCommand, onDatabase, SQLiteDBHandler.removeRecordRow,
              deletedPath?]
            rcases core.database.removeAudioRecord_cases surroundings.run recordId with
              ⟨row, found, removed⟩ | unchanged
            · refine Or.inl ⟨row, (SQLiteDatabase.findRow_eq_some found).1, ?_, ?_⟩
              · rw [removed]
                dsimp only
                split <;> rfl
              · rw [removed]
            · right
              rw [unchanged]
              simp
        | _ => exact Or.inr ⟨rfl, rfl⟩
      · refine Or.inr ⟨?_, ?_⟩
        · by_cases isGet : eventTypeId = .getAllRecord
          · subst isGet
            rfl
          · exact (processCommand_of_other isRemove isGet).1
        · cases eventTypeId <;> first | rfl | exact absurd rfl isRemove
  | noti event =>
      rcases event with ⟨eventTypeId, payload⟩
      by_cases isInsert : eventTypeId = .insertWavFile
      · subst isInsert
        cases payload with
        | wav path durationSec => cases other
        | _ => exact Or.inr ⟨rfl, rfl⟩
      · exact Or.inr ⟨database_processNoti isInsert, rfl⟩
  | confirmationTimeout payload => exact Or.inr ⟨database_processTimeout payload, rfl⟩

end CoreMainWorker

namespace RecordingLibrary

section Steps

variable {library next : RecordingLibrary} {memory : Memory} {surroundings : CoreSurroundings}

theorem receive_cases (received : library.receive memory = some next) :
    ∃ noti bus events, library.bus = noti :: bus ∧
      next = { library with bus, events := library.events ++ events } ∧
      (events.filterMap CoreManagerEvent.recording? = [] ∧
          (noti.TellsOfCopy → ¬ ∀ call < 6 + dbusDataMax, memory call) ∨
        noti.TellsOfCopy ∧ ∃ info durationSec, (noti.dataInfo.IsNulFree → info = noti.dataInfo) ∧
          stoi (info.get .wavFileDurationSec) = .ok durationSec ∧
          events.filterMap CoreManagerEvent.recording? =
            [(info.get .wavFilePath, durationSec)]) := by
  unfold RecordingLibrary.receive at received
  split at received
  · cases received
  · next noti bus first =>
      split at received
      · next unsent =>
          cases received
          refine ⟨noti, bus, [], first, by rw [List.append_nil], Or.inl ⟨rfl, ?_⟩⟩
          intro _ granted
          have known : noti.command.dbusCommand ∈ Notifier.recordManager.commands := by
            cases noti.command <;> decide
          rcases Notifier.exists_sent granted known with ⟨msg, sent⟩
          cases unsent.symm.trans sent
      · next msg rest sent =>
          split at received
          · next events handled =>
              cases received
              have isSent : msg ∈ Notifier.recordManager.sendMessageNoti memory
                  noti.command.dbusCommand noti.isSuccess noti.dataInfo := by simp [sent]
              rcases CoreReceiver.handled_of_sent isSent handled with ⟨info, handled, whole⟩
              refine ⟨noti, bus, events.map .noti, first, rfl, ?_⟩
              by_cases tells : noti.TellsOfCopy
              · rcases RecordNoti.recordings_of_copy tells handled with
                  ⟨durationSec, converted, recordings⟩
                exact Or.inr ⟨tells, info, durationSec, whole, converted, recordings⟩
              · exact Or.inl ⟨RecordNoti.recordings_of_other tells handled,
                  fun tells' => absurd tells' tells⟩
          · cases received

theorem Drops.nodup {dropped : List String} (drops : library.Drops next dropped)
    (unique : library.claimed.Nodup) : next.claimed.Nodup :=
  (drops.nodup_iff.mp unique).of_append_right

theorem filterMap_cons_toList {Element Result : Type} (pick : Element → Option Result)
    (first : Element) (rest : List Element) :
    (first :: rest).filterMap pick = (pick first).toList ++ rest.filterMap pick := by
  cases picked : pick first <;> simp [picked]

/-- What the receiver makes of the first notification, if that was told truthfully. -/
theorem Keeps.receive (keeps : library.Keeps) (received : library.receive memory = some next) :
    next.Keeps ∧ next.manager = library.manager ∧
      ∃ dropped, library.Drops next dropped ∧
        ((∀ call < 6 + dbusDataMax, memory call) → dropped = []) := by
  rcases receive_cases received with ⟨noti, bus, events, first, rfl, outcome⟩
  obtain ⟨dropped, arrived, copyPath, granted⟩ : ∃ dropped : List String,
      (∀ recording ∈ events.filterMap CoreManagerEvent.recording?,
        Delivered library.manager recording.1 recording.2.toInt) ∧
      noti.copyPath?.toList =
        dropped ++ (events.filterMap CoreManagerEvent.recording?).map Prod.fst ∧
      ((∀ call < 6 + dbusDataMax, memory call) → dropped = []) := by
    rcases outcome with ⟨nothing, lost⟩ | ⟨tells, info, durationSec, whole, converted, one⟩
    · refine ⟨noti.copyPath?.toList, by simp [nothing], by simp [nothing], ?_⟩
      intro granted
      rw [RecordNoti.copyPath?, if_neg fun tells => lost tells granted]
      rfl
    · rcases keeps.told noti (by simp [first]) tells with ⟨path, duration, rfl, delivered⟩
      obtain rfl := whole (RecordNoti.isNulFree_filtered (delivered.nulFree keeps.named) duration)
      have isPath : (RecordNoti.filtered path duration).dataInfo.get .wavFilePath = path := rfl
      have isText : (RecordNoti.filtered path duration).dataInfo.get .wavFileDurationSec =
          toString duration := rfl
      have isDuration : durationSec.toInt = duration := by
        rw [isText, stoi_eq_ok_iff] at converted
        have ends : Stops Char.isDigit [] := by simp [Stops]
        have read := readInteger_toString duration ends
        rw [List.append_nil, converted] at read
        exact Option.some.inj read
      rw [one, isPath]
      refine ⟨[], ?_, ?_, fun _ => rfl⟩
      · simpa [isDuration] using delivered
      · rw [RecordNoti.copyPath?, if_pos tells]
        rfl
  have drops : library.Drops
      { library with bus, events := library.events ++ events } dropped := by
    rw [Drops, List.perm_iff_count]
    intro path
    simp only [claimed, first, filterMap_cons_toList, copyPath, List.filterMap_append,
      List.map_append, List.count_append]
    omega
  refine ⟨⟨keeps.named, keeps.nodup, keeps.prepared, ?_, ?_, keeps.listed, keeps.deleting,
    drops.nodup keeps.unique⟩, rfl, dropped, drops, granted⟩
  · exact fun noti member => keeps.told noti (first ▸ List.mem_cons_of_mem _ member)
  · intro recording member
    rw [List.filterMap_append, List.mem_append] at member
    exact member.elim (keeps.queued recording) (arrived recording)

section Events

variable {event : CoreManagerEvent} {events : List CoreManagerEvent} {path : String}
  {durationSec : Int32} {row : AudioRecordRow}

/-- An event that inserts nothing and removes nothing. -/
theorem Keeps.unchanged (keeps : library.Keeps) (first : library.events = event :: events)
    (core : Core) (same : core.database = library.core.database) :
    Keeps { library with events, core } ∧
      library.Drops { library with events, core } (event.recording?.map Prod.fst).toList := by
  have drops : library.Drops { library with events, core }
      (event.recording?.map Prod.fst).toList := by
    rw [Drops, List.perm_iff_count]
    intro path
    simp only [claimed, first, filterMap_cons_toList, same, List.map_append, List.count_append,
      Option.toList_map]
    omega
  refine ⟨⟨keeps.named, keeps.nodup, keeps.prepared, keeps.told, ?_, ?_, keeps.deleting,
    drops.nodup keeps.unique⟩, drops⟩
  · intro recording member
    apply keeps.queued
    rw [first, filterMap_cons_toList]
    exact List.mem_append_right _ member
  · intro row member
    exact keeps.listed row (same ▸ member)

theorem Keeps.insertRow (keeps : library.Keeps) (first : library.events = event :: events)
    (isRecording : event.recording? = some (path, durationSec)) (core : Core) {now : Int}
    {fresh : ∀ row ∈ library.core.database.audioRecords, row.filePath ≠ path}
    (inserted : core.database =
      library.core.database.insertRow path durationSec now fresh) :
    Keeps { library with events, core } ∧ library.Drops { library with events, core } [] := by
  have recordings : library.events.filterMap CoreManagerEvent.recording? =
      (path, durationSec) :: events.filterMap CoreManagerEvent.recording? := by
    rw [first, List.filterMap_cons_some isRecording]
  have drops : library.Drops { library with events, core } [] := by
    rw [Drops, List.perm_iff_count]
    intro other
    simp only [claimed, recordings, inserted, SQLiteDatabase.insertRow, List.map_append,
      List.map_cons, List.map_nil, List.count_append, List.count_cons, List.count_nil]
    omega
  refine ⟨⟨keeps.named, keeps.nodup, keeps.prepared, keeps.told, ?_, ?_, keeps.deleting,
    drops.nodup keeps.unique⟩, drops⟩
  · intro recording member
    apply keeps.queued
    rw [recordings]
    exact List.mem_cons_of_mem _ member
  · intro row member
    rw [inserted] at member
    rcases List.mem_append.mp member with old | new
    · exact keeps.listed row old
    · obtain rfl := List.mem_singleton.mp new
      apply keeps.queued (path, durationSec)
      rw [recordings]
      exact List.mem_cons_self

theorem Keeps.deleteRow (keeps : library.Keeps) (idle : library.deleting = none)
    (first : library.events = event :: events) (other : event.recording? = none) (core : Core)
    (present : row ∈ library.core.database.audioRecords)
    (deleted : core.database = library.core.database.deleteRow row.id) :
    Keeps { library with events, core, deleting := some row.filePath } ∧
      library.Drops { library with events, core, deleting := some row.filePath } [] := by
  have recordings : library.events.filterMap CoreManagerEvent.recording? =
      events.filterMap CoreManagerEvent.recording? := by
    rw [first, List.filterMap_cons_none other]
  have rows : core.database.audioRecords =
      library.core.database.audioRecords.filter fun other => other ≠ row := by
    rw [deleted, SQLiteDatabase.deleteRow_audioRecords present]
  have drops : library.Drops
      { library with events, core, deleting := some row.filePath } [] := by
    have split : library.core.database.audioRecords.Perm (row :: core.database.audioRecords) := by
      have distinct : library.core.database.audioRecords.Nodup :=
        library.core.database.increasing.imp fun less same => by simp [same] at less
      have erased : library.core.database.audioRecords.erase row = core.database.audioRecords := by
        rw [rows, distinct.erase_eq_filter]
        apply List.filter_congr
        intro other _
        rw [Bool.eq_iff_iff]
        simp
      exact erased ▸ List.perm_cons_erase present
    have paths := (split.map AudioRecordRow.filePath).count_eq
    rw [Drops, List.perm_iff_count]
    intro path
    simp only [claimed, recordings, idle, paths, List.map_cons, List.count_append,
      List.count_cons, List.count_nil, Option.toList_none, Option.toList_some, List.nil_append]
    omega
  refine ⟨⟨keeps.named, keeps.nodup, keeps.prepared, keeps.told, ?_, ?_, ?_,
    drops.nodup keeps.unique⟩, drops⟩
  · intro recording member
    exact keeps.queued recording (recordings ▸ member)
  · intro other member
    rw [rows] at member
    exact keeps.listed other (List.mem_filter.mp member).1
  · rintro _ ⟨⟩
    rcases keeps.listed row present with ⟨index, thread, file, copy, isPath, -, -⟩
    exact ⟨index, thread, file, copy, isPath⟩

end Events

/-- A recording that waits for its insertion is not in the table. -/
theorem Keeps.fresh (keeps : library.Keeps) {recording : String × Int32}
    (waits : recording ∈ library.events.filterMap CoreManagerEvent.recording?) :
    ∀ row ∈ library.core.database.audioRecords, row.filePath ≠ recording.1 := by
  intro row present same
  have distinct := (List.nodup_append.mp keeps.unique.of_append_left).2.2
  refine distinct recording.1 ?_ row.filePath (List.mem_map_of_mem present) same.symm
  exact List.mem_append_right _ (List.mem_map_of_mem waits)

theorem Keeps.process (keeps : library.Keeps)
    (processed : library.process surroundings = some next) :
    next.Keeps ∧ next.manager = library.manager ∧ ∃ dropped, library.Drops next dropped ∧
      (surroundings.run.executes → library.core.database.sequence < SQLiteDatabase.maxRowId →
        dropped = []) := by
  unfold RecordingLibrary.process at processed
  split at processed
  · next event events idle first =>
      cases processed
      cases isRecording : event.recording? with
      | some recording =>
          rcases recording with ⟨path, durationSec⟩
          have waits : (path, durationSec) ∈
              library.events.filterMap CoreManagerEvent.recording? := by
            rw [first, List.filterMap_cons_some isRecording]
            exact List.mem_cons_self
          have delivered := keeps.queued _ waits
          have fresh := keeps.fresh waits
          rcases CoreMainWorker.database_of_recording surroundings library.core isRecording with
            ⟨nothing, inserted⟩
          rw [DBusString.text_cStr (delivered.nulFree keeps.named)] at inserted
          rw [nothing, ← idle]
          rcases inserted with ⟨unlisted, inserted⟩ | ⟨same, failed⟩
          · rcases keeps.insertRow first isRecording _ inserted with ⟨kept, drops⟩
            exact ⟨kept, rfl, [], drops, fun _ _ => rfl⟩
          · rcases keeps.unchanged first _ same with ⟨kept, drops⟩
            refine ⟨kept, rfl, _, drops, ?_⟩
            intro executes room
            exact absurd ⟨fresh, executes, room⟩ failed
      | none =>
          rcases CoreMainWorker.database_of_other surroundings library.core isRecording with
            ⟨row, present, deleted, deletes⟩ | ⟨same, nothing⟩
          · rw [if_pos ((keeps.listed row present).ne_empty keeps.named)] at deletes
            rw [deletes]
            rcases keeps.deleteRow idle first isRecording _ present deleted with ⟨kept, drops⟩
            exact ⟨kept, rfl, [], drops, fun _ _ => rfl⟩
          · rw [nothing, ← idle]
            rcases keeps.unchanged first _ same with ⟨kept, drops⟩
            rw [isRecording] at drops
            exact ⟨kept, rfl, [], drops, fun _ _ => rfl⟩
  · cases processed

/-- The file that is deleted is no longer claimed, and no other file is touched. -/
theorem Keeps.deleteFile (keeps : library.Keeps) {succeeds : Bool}
    (removed : library.deleteFile succeeds = some next) :
    next.Keeps ∧ ∃ path, library.deleting = some path ∧ library.Drops next [path] ∧
      next.manager = { library.manager with
        files := if succeeds then Function.update library.manager.files path none
          else library.manager.files } := by
  rcases Option.map_eq_some_iff.mp removed with ⟨path, deleting, rfl⟩
  rcases keeps.deleting path deleting with ⟨index, thread, file, copy, rfl⟩
  have counted : library.claimed.Perm (thread.filteredFilePath ::
      claimed { library with deleting := none }) := by
    rw [List.perm_iff_count]
    intro path
    simp only [claimed, deleting, List.count_append, List.count_cons, List.count_nil,
      Option.toList_some, Option.toList_none]
    omega
  have unique := List.nodup_cons.mp (counted.nodup_iff.mp keeps.unique)
  refine ⟨?_, _, deleting, counted, rfl⟩
  have delivered : ∀ {path : String} {durationSec : Int},
      path ∈ claimed { library with deleting := none } →
      Delivered library.manager path durationSec →
        Delivered { library.manager with
          files := if succeeds then
            Function.update library.manager.files thread.filteredFilePath none
              else library.manager.files } path durationSec := by
    intro path durationSec claims delivered
    cases succeeds with
    | false => exact delivered
    | true =>
        apply delivered.deleteFile
        rintro rfl
        exact unique.1 claims
  constructor
  · exact ⟨⟨keeps.named.lined.handed, keeps.named.lined.named⟩, keeps.named.paths,
      keeps.named.targets⟩
  · exact keeps.nodup
  · cases succeeds with
    | false => exact keeps.prepared
    | true => exact keeps.prepared.remove keeps.named keeps.nodup copy
  · intro noti member tells
    rcases keeps.told noti member tells with ⟨path, durationSec, rfl, isDelivered⟩
    refine ⟨path, durationSec, rfl, delivered ?_ isDelivered⟩
    simp only [claimed, List.mem_append, List.mem_filterMap]
    refine Or.inl (Or.inl (Or.inl ⟨_, member, ?_⟩))
    rw [RecordNoti.copyPath?, if_pos tells]
    rfl
  · intro recording member
    refine delivered ?_ (keeps.queued recording member)
    simp only [claimed, List.mem_append]
    exact Or.inl (Or.inl (Or.inr (List.mem_map_of_mem member)))
  · intro row member
    refine delivered ?_ (keeps.listed row member)
    simp only [claimed, List.mem_append]
    exact Or.inl (Or.inr (List.mem_map_of_mem member))
  · exact fun path isDeleting => by cases isDeleting
  · exact unique.2

theorem Keeps.exists_copy (keeps : library.Keeps) {path : String}
    (claims : path ∈ library.claimed) : ∃ index thread file,
      library.manager.Copy index thread file ∧ thread.filteredFilePath = path := by
  have ofDelivered : ∀ {durationSec : Int}, Delivered library.manager path durationSec →
      ∃ index thread file,
        library.manager.Copy index thread file ∧ thread.filteredFilePath = path := by
    rintro durationSec ⟨index, thread, file, copy, isPath, -, -⟩
    exact ⟨index, thread, file, copy, isPath⟩
  simp only [claimed, List.mem_append, List.mem_filterMap, List.mem_map, Option.mem_toList]
    at claims
  rcases claims with ((⟨noti, member, isPath⟩ | ⟨recording, member, rfl⟩) | ⟨row, member, rfl⟩) |
    deleting
  · rcases Option.ite_none_right_eq_some.mp isPath with ⟨tells, ⟨⟩⟩
    rcases keeps.told noti member tells with ⟨path, durationSec, rfl, delivered⟩
    exact ofDelivered delivered
  · exact ofDelivered (keeps.queued recording (List.mem_filterMap.mpr member))
  · exact ofDelivered (keeps.listed row member)
  · exact keeps.deleting path deleting

section Record

variable {manager : RecordManager} {action : RecordManager.Action}

theorem Keeps.nodup_readTime (keeps : library.Keeps)
    (ordinary : library.Ordinary (.record action)) (manager : RecordManager) :
    (library.manager.readTime action manager library.times).Nodup := by
  cases action with
  | saveWavFile now isOpen written =>
      unfold RecordManager.readTime
      dsimp only
      split
      · refine List.nodup_append.mpr ⟨keeps.nodup, List.nodup_singleton _, ?_⟩
        rintro earlier read _ (_ | ⟨_, ⟨⟩⟩) rfl
        exact ordinary.1 read
      · exact keeps.nodup
  | testRunningFlag | invoke | call | thread | processFilterWavFileEvent | filter | stop =>
      exact keeps.nodup

theorem Ordinary.whole (ordinary : library.Ordinary (.record action)) :
    library.manager.Whole action := by
  cases action with
  | saveWavFile now isOpen written => exact ordinary.2
  | testRunningFlag | invoke | call | thread | processFilterWavFileEvent | filter | stop =>
      trivial

/-- What a step of the record manager tells, and the copies that there are after it. -/
theorem Keeps.news (keeps : library.Keeps) (ordinary : library.Ordinary (.record action))
    (taken : library.manager.step action = some manager) :
    ∃ notis, manager.worker.sent = library.manager.worker.sent ++ notis ∧
      (∀ noti ∈ notis, noti.TellsOfCopy → ∃ path durationSec,
        noti = .filtered path durationSec ∧ Delivered manager path durationSec) ∧
      (notis.filterMap RecordNoti.copyPath? ++ library.claimed).Nodup ∧
      ∀ index thread file, manager.Copy index thread file →
        thread.filteredFilePath ∈ notis.filterMap RecordNoti.copyPath? ∨
          ∃ before, library.manager.Copy index before file ∧
            before.filteredFilePath = thread.filteredFilePath := by
  have named := RecordManager.named_step keeps.named taken
  have nodup := keeps.nodup_readTime ordinary manager
  rcases RecordManager.copies_of_step keeps.prepared keeps.named taken with
    ⟨notis, sent, silent, copies⟩ |
    ⟨index, thread, file, copy, sent, held, unreported, copies⟩
  · refine ⟨notis, sent, fun noti member tells => absurd tells (silent noti member), ?_, ?_⟩
    · have nothing : notis.filterMap RecordNoti.copyPath? = [] := by
        apply List.filterMap_eq_nil_iff.mpr
        intro noti member
        exact if_neg (silent noti member)
      rw [nothing]
      exact keeps.unique
    · intro index thread file copy
      exact Or.inr (copies index thread file trivial copy)
  · have told : [RecordNoti.filtered thread.filteredFilePath thread.durationSec].filterMap
        RecordNoti.copyPath? = [thread.filteredFilePath] := rfl
    refine ⟨_, sent, ?_, ?_, ?_⟩
    · rintro _ (_ | ⟨_, ⟨⟩⟩) -
      exact ⟨_, _, rfl, index, thread, file, copy, rfl, rfl, held⟩
    · rw [told]
      refine List.nodup_cons.mpr ⟨?_, keeps.unique⟩
      intro claims
      rcases keeps.exists_copy claims with ⟨earlier, before, earlierFile, earlierCopy, same⟩
      rcases earlierCopy.step keeps.named.lined taken with ⟨after, stillCopy, samePath, -⟩
      obtain rfl := stillCopy.index_eq copy named nodup (samePath.trans same)
      simpa [earlierCopy.reported] using unreported before earlierCopy.found
    · intro other otherThread otherFile otherCopy
      by_cases isIndex : other = index
      · subst isIndex
        obtain rfl := Option.some.inj (copy.found.symm.trans otherCopy.found)
        exact Or.inl (told ▸ List.mem_singleton_self _)
      · exact Or.inr (copies other otherThread otherFile isIndex otherCopy)

/-- The record manager goes on, and may report another copy. -/
theorem Keeps.record (keeps : library.Keeps) (ordinary : library.Ordinary (.record action))
    (stepped : library.step (.record action) = some next) :
    next.Keeps ∧ library.claimed ⊆ next.claimed := by
  rcases Option.map_eq_some_iff.mp stepped with ⟨manager, taken, rfl⟩
  have nodup := keeps.nodup_readTime ordinary manager
  rcases keeps.news ordinary taken with ⟨notis, sent, truthful, unique, -⟩
  have told : manager.worker.sent.drop library.manager.worker.sent.length = notis := by
    rw [sent, List.drop_left]
  have counted : ∀ times, (claimed { library with
      manager, times, bus := library.bus ++ notis }).Perm
        (notis.filterMap RecordNoti.copyPath? ++ library.claimed) := by
    intro times
    rw [List.perm_iff_count]
    intro path
    simp only [claimed, List.filterMap_append, List.count_append]
    omega
  have stays : ∀ {path : String} {durationSec : Int},
      Delivered library.manager path durationSec → Delivered manager path durationSec :=
    fun delivered => delivered.step keeps.named taken nodup
  rw [told]
  refine ⟨⟨RecordManager.named_step keeps.named taken, nodup,
    keeps.prepared.step keeps.named taken nodup ordinary.whole, ?_, ?_, ?_, ?_,
    (counted _).nodup_iff.mpr unique⟩, ?_⟩
  · intro noti member tells
    rcases List.mem_append.mp member with earlier | isNew
    · rcases keeps.told noti earlier tells with ⟨path, durationSec, rfl, delivered⟩
      exact ⟨path, durationSec, rfl, stays delivered⟩
    · exact truthful noti isNew tells
  · exact fun recording member => stays (keeps.queued recording member)
  · exact fun row member => stays (keeps.listed row member)
  · intro path isDeleting
    rcases keeps.deleting path isDeleting with ⟨index, thread, file, copy, rfl⟩
    rcases copy.step keeps.named.lined taken with ⟨after, stillCopy, same, -⟩
    exact ⟨index, after, file, stillCopy, same⟩
  · exact fun path claims => (counted _).symm.subset (List.mem_append_right _ claims)

end Record

theorem Keeps.push (keeps : library.Keeps) {event : CoreManagerEvent}
    (pushed : library.step (.push event) = some next) :
    next.Keeps ∧ next.claimed = library.claimed ∧ next.manager = library.manager := by
  rcases Option.ite_none_right_eq_some.mp pushed with ⟨other, ⟨⟩⟩
  have same : (library.events ++ [event]).filterMap CoreManagerEvent.recording? =
      library.events.filterMap CoreManagerEvent.recording? := by
    rw [List.filterMap_append, List.filterMap_cons_none other, List.filterMap_nil, List.append_nil]
  have sameClaims : claimed { library with events := library.events ++ [event] } =
      library.claimed := by
    simp only [claimed, same]
  exact ⟨⟨keeps.named, keeps.nodup, keeps.prepared, keeps.told,
    fun recording member => keeps.queued recording (same ▸ member), keeps.listed,
    keeps.deleting, sameClaims ▸ keeps.unique⟩, sameClaims, rfl⟩

theorem keeps_init (files : Files) : (protocol files).init.Keeps where
  named := RecordManager.named_init files
  nodup := List.nodup_nil
  prepared := RecordManager.prepared_init files
  told := by simp [protocol]
  queued := by simp [protocol]
  listed := by simp [protocol]
  deleting := by simp [protocol]
  unique := List.nodup_nil

theorem keeps_step {action : Action} (keeps : library.Keeps) (ordinary : library.Ordinary action)
    (stepped : library.step action = some next) : next.Keeps := by
  cases action with
  | record action => exact (keeps.record ordinary stepped).1
  | receive memory => exact (keeps.receive stepped).1
  | push event => exact (keeps.push stepped).1
  | process surroundings => exact (keeps.process stepped).1
  | deleteFile succeeds => exact (keeps.deleteFile stepped).1

/-- A recording is made, filtered and inserted. -/
def recorded : List Action :=
  RecordManager.savedAndFiltered.map .record ++ List.replicate 3 (.receive fun _ => true) ++
    List.replicate 4 (.process {})

/-- Nothing fails that a recording in the table or its file depends on. -/
def Reliable (library : RecordingLibrary) : Action → Prop
  | .receive memory => ∀ call < 6 + dbusDataMax, memory call
  | .process surroundings =>
      surroundings.run.executes ∧ library.core.database.sequence < SQLiteDatabase.maxRowId
  | .deleteFile succeeds => succeeds
  | .record _ | .push _ => True

instance (library : RecordingLibrary) : DecidablePred library.Reliable
  | .receive _ => inferInstanceAs (Decidable (∀ call < _, _))
  | .process _ => inferInstanceAs (Decidable (_ ∧ _))
  | .deleteFile _ => inferInstanceAs (Decidable (_ = true))
  | .record _ | .push _ => isTrue trivial

/-- The copies that are not claimed are gone. -/
def Accounted (library : RecordingLibrary) : Prop :=
  ∀ index thread file, library.manager.Copy index thread file →
    thread.filteredFilePath ∈ library.claimed ∨
      library.manager.files thread.filteredFilePath = none

theorem Accounted.of_drops (accounted : library.Accounted) (same : next.manager = library.manager)
    (drops : library.Drops next []) : next.Accounted := by
  intro index thread file copy
  rw [same] at copy ⊢
  exact (accounted index thread file copy).imp_left fun claims => drops.subset claims

theorem accounted_step {action : Action} (accounted : library.Accounted) (keeps : library.Keeps)
    (ordinary : library.Ordinary action) (reliable : library.Reliable action)
    (stepped : library.step action = some next) : next.Accounted := by
  cases action with
  | record action =>
      have claims := (keeps.record ordinary stepped).2
      rcases Option.map_eq_some_iff.mp stepped with ⟨manager, taken, rfl⟩
      rcases keeps.news ordinary taken with ⟨notis, sent, -, -, copies⟩
      intro index thread file copy
      rcases copies index thread file copy with isNew | ⟨before, was, same⟩
      · left
        simp only [claimed, sent, List.drop_left, List.filterMap_append, List.mem_append]
        exact Or.inl (Or.inl (Or.inl (Or.inr isNew)))
      · have untouched := was.files keeps.named taken (keeps.nodup_readTime ordinary manager)
        rw [← same]
        exact (accounted index before file was).imp (fun claimed => claims claimed)
          fun gone => untouched.trans gone
  | receive memory =>
      rcases keeps.receive stepped with ⟨-, same, dropped, drops, granted⟩
      exact accounted.of_drops same (granted reliable ▸ drops)
  | push event =>
      rcases keeps.push stepped with ⟨-, claims, same⟩
      have drops : library.Drops next [] := by
        rw [Drops, List.nil_append, claims]
      exact accounted.of_drops same drops
  | process surroundings =>
      rcases keeps.process stepped with ⟨-, same, dropped, drops, executed⟩
      exact accounted.of_drops same (executed reliable.1 reliable.2 ▸ drops)
  | deleteFile succeeds =>
      rcases keeps.deleteFile stepped with ⟨-, path, -, drops, manager⟩
      have succeeds : succeeds = true := reliable
      intro index thread file copy
      rw [manager] at copy ⊢
      have was : library.manager.Copy index thread file :=
        ⟨copy.found, copy.saved, copy.reported, copy.target⟩
      simp only [succeeds, if_true]
      by_cases isPath : thread.filteredFilePath = path
      · rw [isPath, Function.update_self]
        exact Or.inr rfl
      · rw [Function.update_of_ne isPath]
        refine (accounted index thread file was).imp_left fun claims => ?_
        exact (List.mem_cons.mp (drops.subset claims)).resolve_left isPath

/-- Everything that was reported has been inserted, and every removal is complete. -/
def Settled (library : RecordingLibrary) : Prop :=
  library.bus = [] ∧ library.events = [] ∧ library.deleting = none

/--
When nothing is under way, the copies that still have files are exactly those with rows in
the table, if nothing has failed on the way.
-/
theorem exists_iff_listed_of_settled {files : Files} {schedule : List Action}
    (ran : (protocol files).run schedule = some library)
    (along : (protocol files).Along (fun library action =>
      library.Ordinary action ∧ library.Reliable action) schedule)
    (settled : library.Settled) :
    ∀ index thread file, library.manager.Copy index thread file →
      ((library.manager.files thread.filteredFilePath).isSome ↔
        ∃ row ∈ library.core.database.audioRecords, row.filePath = thread.filteredFilePath) := by
  have invariant := System.invariant_of_along
    (fun library => Keeps library ∧ Accounted library)
    ⟨keeps_init files, fun index thread file copy => by simpa [protocol] using copy.found⟩
    (fun _ _ _ both good stepped => ⟨keeps_step both.1 good.1 stepped,
      accounted_step both.2 both.1 good.1 good.2 stepped⟩) ran along
  rcases invariant with ⟨keeps, accounted⟩
  rcases settled with ⟨bus, events, deleting⟩
  intro index thread file copy
  constructor
  · intro isFile
    rcases accounted index thread file copy with claims | gone
    · simpa [claimed, bus, events, deleting] using claims
    · simp [gone] at isFile
  · rintro ⟨row, member, isPath⟩
    rcases keeps.listed row member with ⟨_, _, _, _, _, _, held⟩
    rw [isPath] at held
    rcases held with held | ⟨noiseReduced, held⟩ <;> simp [held]

/-- The recording is removed. -/
def recordedAndRemoved : List Action :=
  recorded ++ [.push (.command (ClientCommand.event (.removeRecord 1))), .process {},
    .deleteFile true]

theorem exists_iff_listed_of_settled_recordedAndRemoved :
    ∃ library, (protocol fun _ => none).run recordedAndRemoved = some library ∧
      library.manager.filters.length = 1 ∧
      ∀ index thread file, library.manager.Copy index thread file →
        ((library.manager.files thread.filteredFilePath).isSome ↔
          ∃ row ∈ library.core.database.audioRecords,
            row.filePath = thread.filteredFilePath) := by
  have ends : ((protocol fun _ => none).run recordedAndRemoved).any fun library =>
      library.manager.filters.length = 1 ∧ library.bus.length = 0 ∧ library.events.length = 0 ∧
        library.deleting = none := by decide +kernel
  rcases (Option.any_eq_true _ _).mp ends with ⟨library, ran, isSettled⟩
  rcases of_decide_eq_true isSettled with ⟨one, bus, events, deleting⟩
  refine ⟨library, ran, one, exists_iff_listed_of_settled ran (by decide +kernel) ?_⟩
  exact ⟨List.eq_nil_of_length_eq_zero bus, List.eq_nil_of_length_eq_zero events, deleting⟩

end Steps

end RecordingLibrary

end RaspberryPiService
