import RaspberryPiService.CoreManager.MainWorker

/-!
# What an event shows to the clients

An event of MainWorker shows at most one message to the clients, and its type decides which
command the message has. Only three types of events, and thus three commands, are about the
table of recordings.
-/

namespace RaspberryPiService

/-- The command of the messages about an event. -/
def NotiEventTypeID.msgData : NotiEventTypeID → String
  | updateTemperatureNoti => "update_temperature_noti"
  | startScanBTDeviceNoti => "start_scan_btdevice_noti"
  | stopScanBTDeviceNoti => "stop_scan_btdevice_noti"
  | scanningBTDeviceFoundNoti => "scanning_btdevice_found_noti"
  | scanningBTDeviceDeleteNoti => "scanning_btdevice_delete_noti"
  | bluetoothPowerOnNoti => "bluetooth_power_on_noti"
  | bluetoothPowerOffNoti => "bluetooth_power_off_noti"
  | btDevicePropertyChangeNoti => "btdevice_property_change_noti"
  | pairBTDeviceNoti => "pair_btdevice_noti"
  | unpairBTDeviceNoti => "unpair_btdevice_noti"
  | connectBTDeviceNoti => "connect_btdevice_noti"
  | disconnectBTDeviceNoti => "disconnect_btdevice_noti"
  | btDeviceRequestConfirmationNoti => "btdevice_request_confirmation_noti"
  | pbapSessionEndNoti => "pbap_session_end_noti"
  | pbapPhonebookPullStartNoti => "pbap_phonebook_pull_start_noti"
  | pbapPhonebookPullNoti => "pbap_phonebook_pull_noti"
  | pbapPhonebookPullEndNoti => "pbap_phonebook_pull_end_noti"
  | callHistoryPullStartNoti => "call_history_pull_start_noti"
  | callHistoryPullNoti => "call_history_pull_noti"
  | callHistoryPullEndNoti => "call_history_pull_end_noti"
  | incomingCallNoti => "incoming_call_noti"
  | outgoingCallNoti => "outgoing_call_noti"
  | callStateChangedNoti => "call_state_changed_noti"
  | callEndedNoti => "call_ended_noti"
  | dialCallNoti => "dial_call_noti"
  | answerCallNoti => "answer_call_noti"
  | hangupCallNoti => "hangup_call_noti"
  | startRecordNoti => "start_record_noti"
  | stopRecordNoti => "stop_record_noti"
  | cancelRecordNoti => "cancel_record_noti"
  | filterWavFileNoti => "filter_wav_file_noti"
  | insertWavFile => "insert_record_noti"

/-- Nothing, or one message with the command. -/
def Shows (command : String) (documents : List Json) : Prop :=
  documents = [] ∨
    ∃ message : StatusMessage, documents = [message.document] ∧ message.command = command

theorem shows_nil (command : String) : Shows command [] := Or.inl rfl

theorem shows_document (message : StatusMessage) : Shows message.command [message.document] :=
  Or.inr ⟨message, rfl, rfl⟩

theorem Shows.length_le {command : String} {documents : List Json}
    (shown : Shows command documents) : documents.length ≤ 1 := by
  rcases shown with rfl | ⟨message, rfl, -⟩ <;> simp

@[simp] theorem shownDocuments_showNoti (isSuccess : Bool)
    (msgInfo component msgData : String) (data : Json) :
    shownDocuments (CoreState.showNoti isSuccess msgInfo component msgData data) =
      [StatusMessage.document
        { status := if isSuccess then "success" else "fail", msg := msgInfo, component
          command := msgData, data }] := rfl

@[simp] theorem shownDocuments_showSuccess (msgInfo component msgData : String) (data : Json) :
    shownDocuments (CoreState.showSuccess msgInfo component msgData data) =
      [StatusMessage.document
        { status := "success", msg := msgInfo, component, command := msgData, data }] := rfl

@[simp] theorem shownDocuments_broadcast (documents : List Json) :
    shownDocuments (documents.map .broadcast) = documents := by
  rw [shownDocuments, List.filterMap_map]
  exact List.filterMap_some

namespace CoreState

variable (state : CoreState) (payload : NotiPayload) (msgInfo component msgData : String)

theorem shows_showDevice :
    Shows msgData (shownDocuments (state.showDevice payload msgInfo msgData).2) := by
  cases payload <;> first | exact shows_nil _ | exact shows_document _

theorem shows_passOn :
    Shows msgData (shownDocuments (state.passOn payload component msgData).2) := by
  cases payload <;> first | exact shows_nil _ | exact shows_document _

theorem shows_passOnAddress :
    Shows msgData (shownDocuments (state.passOnAddress payload msgData).2) := by
  cases payload <;> first | exact shows_nil _ | exact shows_document _

theorem shows_passOnSuccess :
    Shows msgData (shownDocuments (state.passOnSuccess payload msgData).2) := by
  cases payload with
  | noti isSuccess msgInfo =>
      cases isSuccess <;> first | exact shows_nil _ | exact shows_document _
  | _ => exact shows_nil _

theorem shows_showCall (callState : String → CallState) :
    Shows msgData (shownDocuments (state.showCall payload callState msgInfo msgData).2) := by
  cases payload <;> first | exact shows_nil _ | exact shows_document _

theorem shows_showReply :
    Shows msgData (shownDocuments (state.showReply payload msgData).2) := by
  cases payload <;> first | exact shows_nil _ | exact shows_document _

theorem shows_updateTemperatureNOTI (undefinedCast : FloatValue → Int32) :
    Shows "update_temperature_noti"
      (shownDocuments (state.updateTemperatureNOTI payload undefinedCast).2) := by
  unfold updateTemperatureNOTI
  split
  · split
    · dsimp only
      split
      · exact shows_document _
      · exact shows_nil _
    · exact shows_document _
  · exact shows_nil _

end CoreState

namespace CoreMainWorker

variable {surroundings : CoreSurroundings} {core : Core}

theorem shows_insertAudioRecord (payload : NotiPayload) :
    Shows "insert_record_noti" (shownDocuments (onDatabase core
      (SQLiteDBHandler.insertAudioRecord core.database surroundings.run payload)).2) := by
  unfold SQLiteDBHandler.insertAudioRecord
  split
  · dsimp only
    split <;> exact shows_document _
  · exact shows_nil _

theorem shows_removeRecordRow (payload : Option Payload) :
    Shows "remove_record_noti" (shownDocuments (onDatabase core
      (SQLiteDBHandler.removeRecordRow core.database surroundings.run payload)).2) := by
  unfold SQLiteDBHandler.removeRecordRow
  split
  · dsimp only
    split <;> exact shows_document _
  · exact shows_nil _

theorem shows_getAllAudioRecords :
    Shows "get_all_record_noti" (shownDocuments (onDatabase core
      (SQLiteDBHandler.getAllAudioRecords core.database surroundings.run)).2) :=
  shows_document _

theorem shows_processNoti (event : NotiEvent) :
    Shows event.eventTypeId.msgData (shownDocuments (processNoti surroundings core event).2) := by
  rcases event with ⟨eventTypeId, payload⟩
  cases eventTypeId with
  | updateTemperatureNoti => exact CoreState.shows_updateTemperatureNOTI _ _ _
  | scanningBTDeviceFoundNoti | btDevicePropertyChangeNoti =>
      exact CoreState.shows_showDevice _ _ _ _
  | pairBTDeviceNoti | unpairBTDeviceNoti | pbapSessionEndNoti | filterWavFileNoti =>
      exact CoreState.shows_passOn _ _ _ _
  | connectBTDeviceNoti | disconnectBTDeviceNoti => exact CoreState.shows_passOnAddress _ _ _
  | pbapPhonebookPullStartNoti | pbapPhonebookPullEndNoti | callHistoryPullStartNoti
  | callHistoryPullEndNoti =>
      exact CoreState.shows_passOnSuccess _ _ _
  | incomingCallNoti | outgoingCallNoti | callStateChangedNoti | callEndedNoti =>
      exact CoreState.shows_showCall _ _ _ _ _
  | dialCallNoti | answerCallNoti | hangupCallNoti => exact CoreState.shows_showReply _ _ _
  | insertWavFile => exact shows_insertAudioRecord payload
  -- The handlers that share no form.
  | startScanBTDeviceNoti | stopScanBTDeviceNoti | scanningBTDeviceDeleteNoti
  | bluetoothPowerOnNoti | bluetoothPowerOffNoti | btDeviceRequestConfirmationNoti
  | pbapPhonebookPullNoti | callHistoryPullNoti | startRecordNoti | stopRecordNoti
  | cancelRecordNoti =>
      cases payload <;> first | exact shows_nil _ | exact shows_document _

/-- The effects of a command other than on the table are none that clients see. -/
theorem shownDocuments_sent (messages : List DBusMessage) (event : CoreEvent) :
    shownDocuments (messages.map .send ++ answeredTimer event) = [] := by
  rw [shownDocuments, List.filterMap_eq_nil_iff]
  intro effect member
  rcases List.mem_append.mp member with sent | timer
  · rcases List.mem_map.mp sent with ⟨msg, -, rfl⟩
    rfl
  · unfold answeredTimer at timer
    split at timer
    all_goals simp_all [CoreEffect.document?]

theorem shownDocuments_processTimeout (payload : Option Payload) :
    shownDocuments (processTimeout surroundings core payload).2 = [] := by
  unfold processTimeout
  split
  · simp [shownDocuments, CoreEffect.document?]
  · rfl

/-- Only one notification is about the table. -/
theorem database_processNoti {event : NotiEvent} (other : event.eventTypeId ≠ .insertWavFile) :
    (processNoti surroundings core event).1.database = core.database := by
  rcases event with ⟨eventTypeId, payload⟩
  cases eventTypeId <;> first | rfl | exact absurd rfl other

/-- A command that is not about the table leaves it alone, and shows nothing. -/
theorem processCommand_of_other {event : CoreEvent} (notRemove : event.eventTypeId ≠ .removeRecord)
    (notGet : event.eventTypeId ≠ .getAllRecord) :
    (processCommand surroundings core event).1.database = core.database ∧
      shownDocuments (processCommand surroundings core event).2 = [] := by
  unfold processCommand
  split
  · next isRemove => exact absurd isRemove notRemove
  · next isGet => exact absurd isGet notGet
  · exact ⟨rfl, shownDocuments_sent _ _⟩

theorem database_processTimeout (payload : Option Payload) :
    (processTimeout surroundings core payload).1.database = core.database := by
  unfold processTimeout
  split <;> rfl

/-- No event shows more than one message. -/
theorem length_shownDocuments_le (event : CoreManagerEvent) :
    (shownDocuments (processEvent surroundings core event).2).length ≤ 1 := by
  cases event with
  | startup => exact Nat.zero_le 1
  | command event =>
      by_cases isRemove : event.eventTypeId = .removeRecord
      · simp only [processEvent, processCommand, isRemove]
        exact (shows_removeRecordRow event.payload).length_le
      · by_cases isGet : event.eventTypeId = .getAllRecord
        · simp only [processEvent, processCommand, isGet]
          exact shows_getAllAudioRecords.length_le
        · simp [processEvent, (processCommand_of_other isRemove isGet).2]
  | noti event => exact (shows_processNoti event).length_le
  | confirmationTimeout payload => simp [processEvent, shownDocuments_processTimeout]

end CoreMainWorker

end RaspberryPiService
