import RaspberryPiService.RecordManager.RecordWorker

/-!
# Recording in the core manager

`RecordHandler` forwards a client's command to the record manager when `RECORD_STATE`
allows it and is `PROCESSING` until a notification arrives. Notifications overwrite the
state, whether they answer a command or not. MainWorker takes client commands and
notifications from one queue.
-/

namespace RaspberryPiService

inductive RecordState where
  | stopped
  | recording
  | processing
deriving DecidableEq

/-- The clients' commands, which are also the messages to the record manager. -/
inductive RecordCommand where
  | startRecord
  | stopRecord
  | cancelRecord
deriving DecidableEq

/-- The events of the core's queue that concern recording, with their payload. -/
inductive RecordCoreEvent where
  | request (command : RecordCommand)
  | noti (command : RecordNotiCommand) (isSuccess : Bool) (message : String)
  | insertWavFile (filePath : String) (durationSec : Int)
deriving DecidableEq

/-- The arguments of `updateStateAndBroadcast`; the data is always empty. -/
structure RecordBroadcast where
  status : String
  message : String
  screen : String := "Record"
  command : String
deriving DecidableEq

structure RecordHandler where
  recordState : RecordState := .stopped
  eventQueue : List RecordCoreEvent := []
  broadcasts : List RecordBroadcast := []
  sent : List RecordCommand := []
deriving DecidableEq

namespace RecordHandler

/-- Forwards a command in the state that enables it; in the others it is only logged. -/
def request (handler : RecordHandler) (enabling : RecordState) (command : RecordCommand) :
    RecordHandler :=
  if handler.recordState = enabling then
    { handler with recordState := .processing, sent := handler.sent ++ [command] }
  else handler

def startRecord (handler : RecordHandler) : RecordHandler :=
  handler.request .stopped .startRecord

def stopRecord (handler : RecordHandler) : RecordHandler :=
  handler.request .recording .stopRecord

def cancelRecord (handler : RecordHandler) : RecordHandler :=
  handler.request .recording .cancelRecord

def broadcast (handler : RecordHandler) (isSuccess : Bool) (message command : String) :
    RecordHandler :=
  { handler with broadcasts := handler.broadcasts ++
      [{ status := if isSuccess then "success" else "fail", message, command }] }

def startRecordNOTI (handler : RecordHandler) (isSuccess : Bool) (message : String) :
    RecordHandler :=
  { handler with recordState := if isSuccess then .recording else .stopped }.broadcast
    isSuccess message "start_record_noti"

def stopRecordNOTI (handler : RecordHandler) (isSuccess : Bool) (message : String) :
    RecordHandler :=
  { handler with recordState := .stopped }.broadcast isSuccess message "stop_record_noti"

def cancelRecordNOTI (handler : RecordHandler) (isSuccess : Bool) (message : String) :
    RecordHandler :=
  { handler with recordState := .stopped }.broadcast isSuccess message "cancel_record_noti"

def filterWavFileNOTI (handler : RecordHandler) (isSuccess : Bool) (message : String) :
    RecordHandler :=
  handler.broadcast isSuccess message "filter_wav_file_noti"

/-- `MainWorker::processEvent` on the head of the queue. -/
def processEvent (handler : RecordHandler) : Option RecordHandler :=
  match handler.eventQueue with
  | [] => none
  | event :: eventQueue =>
      let handler := { handler with eventQueue }
      match event with
      | .request .startRecord => some handler.startRecord
      | .request .stopRecord => some handler.stopRecord
      | .request .cancelRecord => some handler.cancelRecord
      | .noti .startRecordNoti isSuccess message =>
          some (handler.startRecordNOTI isSuccess message)
      | .noti .stopRecordNoti isSuccess message =>
          some (handler.stopRecordNOTI isSuccess message)
      | .noti .cancelRecordNoti isSuccess message =>
          some (handler.cancelRecordNOTI isSuccess message)
      | .noti .filterWavFileNoti isSuccess message =>
          some (handler.filterWavFileNOTI isSuccess message)
      -- Left to `SQLiteDBHandler`, which does not touch `RECORD_STATE`.
      | .insertWavFile _ _ => some handler

/-- `DBusReceiver::handleMessageNoti`; `std::stoi` throws when the text is not a number. -/
def handleMessageNoti (handler : RecordHandler) (noti : RecordNoti) : Option RecordHandler :=
  let event := RecordCoreEvent.noti noti.command noti.isSuccess noti.message
  if noti.command = .filterWavFileNoti ∧ noti.isSuccess = true then
    noti.wavFileDurationSec.toInt?.map fun durationSec =>
      { handler with eventQueue := handler.eventQueue ++
          [.insertWavFile noti.wavFilePath durationSec, event] }
  else some { handler with eventQueue := handler.eventQueue ++ [event] }

end RecordHandler

end RaspberryPiService
