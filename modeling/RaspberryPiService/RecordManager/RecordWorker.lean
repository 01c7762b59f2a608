import Mathlib.Data.List.Basic

/-!
# The recording worker

`RecordWorker` is shared by two threads of the record manager: MainWorker calls
`startRecording`, `stopRecording` and `cancelRecording`, and the worker's own thread
runs `threadFunction`. Both are broken into atomic steps at every access to `state_`,
`cancelRequested_`, `mtx_`, `cv_`, the event queue and the D-Bus sender. A program
counter says what a thread does next; who holds `mtx_` can be read off the counters.

`cv_.wait` evaluates its predicate under the lock (`waitTest`), blocks and releases
the lock in one step (`waitBlock`), and goes back for the lock when it is notified or
wakes up spuriously. What ALSA, the clock and the file system answer is part of the
action: the outcome of `initAlsa`, a duration that is exceeded, the result of
`snd_pcm_readi`, the time stamp of the file.

The executable step functions come first. `CallStep` and `ThreadStep` list what they
can do, one constructor for each branch, and are the only facts used later.
-/

namespace RaspberryPiService

/-- The events of the record manager's queue. -/
inductive RecordEvent where
  | startRecord
  | stopRecord
  | cancelRecord
  | filterWavFile (filePath : String) (durationSec : Int)
deriving DecidableEq

inductive RecordNotiCommand where
  | startRecordNoti
  | stopRecordNoti
  | cancelRecordNoti
  | filterWavFileNoti
deriving DecidableEq

/-- A notification to the core manager, with the data fields that are used by some command. -/
structure RecordNoti where
  command : RecordNotiCommand
  isSuccess : Bool
  message : String := ""
  wavFilePath : String := ""
  wavFileDurationSec : String := "0"
deriving DecidableEq

namespace RecordNoti

def startRejected : RecordNoti :=
  { command := .startRecordNoti, isSuccess := false
    message := "Recording is already in progress." }

def stopRejected : RecordNoti :=
  { command := .stopRecordNoti, isSuccess := false, message := "No recording is in progress." }

def cancelRejected : RecordNoti :=
  { command := .cancelRecordNoti, isSuccess := false, message := "No recording is in progress." }

def initFailed : RecordNoti :=
  { command := .startRecordNoti, isSuccess := false, message := "ALSA initialization failed" }

def started : RecordNoti :=
  { command := .startRecordNoti, isSuccess := true, message := "Recording started" }

def saved (outputFilePath : String) : RecordNoti :=
  { command := .stopRecordNoti, isSuccess := true
    message := "WAV file saved: " ++ outputFilePath }

end RecordNoti

/-- Why a session ends without a saved file. -/
inductive EndReason where
  | captureError
  | canceled
  | noAudio
  | saveFailed
deriving DecidableEq

def EndReason.noti : EndReason → RecordNoti
  | .captureError =>
      { command := .stopRecordNoti, isSuccess := false
        message := "Recording stopped due to capture error." }
  | .canceled =>
      { command := .cancelRecordNoti, isSuccess := true, message := "Recording canceled by user." }
  | .noAudio =>
      { command := .stopRecordNoti, isSuccess := false, message := "No audio data captured." }
  | .saveFailed =>
      { command := .stopRecordNoti, isSuccess := false, message := "Failed to save WAV file." }

/-- `RecordWorker::State`. -/
inductive RecordingState where
  | idle
  | recording
deriving DecidableEq

/-- The result of `initAlsa`; the handle is open in the last two cases. -/
inductive InitOutcome where
  | openFailed
  | setupFailed
  | ready
deriving DecidableEq

/-- The result of `snd_pcm_readi`, and of `snd_pcm_recover` after an error. -/
inductive ReadResult where
  | overrun
  | recovered
  | unrecoverable
  | frames (samples : List Int16)
deriving DecidableEq

/-- The frames that were read. -/
def ReadResult.samples : ReadResult → List Int16
  | .frames samples => samples
  | _ => []

structure WavFile where
  path : String
  samples : List Int16
deriving DecidableEq

def framesPerPeriod : Nat := 1024

def wavOutputDir : String := "/tmp"

structure AlsaHelper where
  pcmOpen : Bool := false
  audioBuffer : List Int16 := []
  outputFilePath : String := ""
deriving DecidableEq

namespace AlsaHelper

def initAlsa (alsaHelper : AlsaHelper) : InitOutcome → Bool × AlsaHelper
  | .openFailed => (false, { alsaHelper with pcmOpen := false })
  | .setupFailed => (false, { alsaHelper with pcmOpen := true })
  | .ready => (true, { alsaHelper with pcmOpen := true })

def cleanupAlsa (alsaHelper : AlsaHelper) : AlsaHelper :=
  { alsaHelper with pcmOpen := false }

def captureOnce (alsaHelper : AlsaHelper) (result : ReadResult) : Bool × AlsaHelper :=
  if alsaHelper.pcmOpen then
    match result with
    | .overrun | .recovered => (true, alsaHelper)
    | .unrecoverable => (false, alsaHelper)
    | .frames samples =>
        (true, { alsaHelper with audioBuffer := alsaHelper.audioBuffer ++ samples })
  else (false, alsaHelper)

/-- The file that is written, unless the buffer is empty or the file cannot be opened. -/
def saveWavFile (alsaHelper : AlsaHelper) (stamp : String) (isOpen : Bool) :
    Option WavFile × AlsaHelper :=
  if alsaHelper.audioBuffer = [] then (none, alsaHelper)
  else
    let outputFilePath := wavOutputDir ++ "/record_" ++ stamp ++ ".wav"
    (if isOpen then some { path := outputFilePath, samples := alsaHelper.audioBuffer } else none,
      { alsaHelper with outputFilePath })

def clearAudioBuffer (alsaHelper : AlsaHelper) : AlsaHelper :=
  { alsaHelper with audioBuffer := [] }

end AlsaHelper

/-- What MainWorker does next inside a call; the lock is held from `startTest` on. -/
inductive CallPc where
  | none
  | startLock
  | startTest
  | startResetCancel
  | startSetRecording
  | startNotify
  | startReject
  | stopTest
  | stopSetIdle
  | stopReject
  | cancelTest
  | cancelSetFlag
  | cancelSetIdle
  | cancelReject
deriving DecidableEq

/-- What `threadFunction` does next; the lock is held at `waitTest` and `waitBlock`. -/
inductive ThreadPc where
  | loopHead
  | waitLock
  | waitTest
  | waitBlock
  | blocked
  | woken
  | clearBuffer
  | initAlsa
  | notifyInitFailed
  | resetAfterInit
  | notifyStarted
  | captureTest
  | durationTest
  | captureOnce
  | endTest (isCaptureError : Bool)
  | notifyEnded (reason : EndReason)
  | saveWavFile
  | notifySaved
  | pushFilter
  | resetAfterEnd
  | exited
deriving DecidableEq

structure RecordWorker where
  runningFlag : Bool := true
  state : RecordingState := .idle
  cancelRequested : Bool := false
  alsaHelper : AlsaHelper := {}
  call : CallPc := .none
  thread : ThreadPc := .loopHead
  wavFiles : List WavFile := []
  eventQueue : List RecordEvent := []
  sent : List RecordNoti := []
deriving DecidableEq

/-- The calls that MainWorker makes. -/
inductive RecordCall where
  | startRecording
  | stopRecording
  | cancelRecording
deriving DecidableEq

/-- What the environment answers to the next step of `threadFunction`. -/
inductive Choice where
  | proceed
  | initAlsa (outcome : InitOutcome)
  | exceeded
  | read (result : ReadResult)
  | save (stamp : String) (isOpen : Bool)
  | elapsed (durationSec : Int)
deriving DecidableEq

/-- The frames that were read, if any. -/
def Choice.samples : Choice → List Int16
  | .read result => result.samples
  | _ => []

namespace CallPc

def holdsLock : CallPc → Bool
  | .startTest | .startResetCancel | .startSetRecording | .startNotify | .startReject => true
  | _ => false

/-- A `startRecording` that has neither stored `RECORDING` nor been rejected. -/
def undecidedStart : CallPc → Bool
  | .startLock | .startTest | .startResetCancel | .startSetRecording | .startReject => true
  | _ => false

end CallPc

namespace ThreadPc

def holdsLock : ThreadPc → Bool
  | .waitTest | .waitBlock => true
  | _ => false

/-- Before a session: up to the wake-up that finds `RECORDING`. -/
def waiting : ThreadPc → Bool
  | .loopHead | .waitLock | .waitTest | .waitBlock | .blocked => true
  | _ => false

/-- In a session, from the wake-up until `START_RECORD_NOTI` has been sent. -/
def starting : ThreadPc → Bool
  | .woken | .clearBuffer | .initAlsa | .notifyInitFailed | .notifyStarted => true
  | _ => false

/-- In the capture loop. -/
def capturing : ThreadPc → Bool
  | .captureTest | .durationTest | .captureOnce => true
  | _ => false

/-- After the capture loop, until the last notification of the session has been sent. -/
def ending : ThreadPc → Bool
  | .endTest _ | .notifyEnded _ | .saveWavFile | .notifySaved => true
  | _ => false

/-- Every notification of the session has been sent, and `IDLE` is still to be stored. -/
def closing : ThreadPc → Bool
  | .resetAfterInit | .pushFilter | .resetAfterEnd => true
  | _ => false

def inSession (pc : ThreadPc) : Bool :=
  pc.starting || pc.capturing || pc.ending || pc.closing

end ThreadPc

namespace RecordWorker

def send (worker : RecordWorker) (noti : RecordNoti) : RecordWorker :=
  { worker with sent := worker.sent ++ [noti] }

/-- `cv_.notify_one()`: the worker's thread is the only one that waits. -/
def notifyOne (worker : RecordWorker) : RecordWorker :=
  if worker.thread = .blocked then { worker with thread := .waitLock } else worker

/-- The entry of a call. -/
def invoke (worker : RecordWorker) (call : RecordCall) : Option RecordWorker :=
  match worker.call, call with
  | .none, .startRecording => some { worker with call := .startLock }
  | .none, .stopRecording => some { worker with call := .stopTest }
  | .none, .cancelRecording => some { worker with call := .cancelTest }
  | _, _ => none

/-- MainWorker's next step inside a call. -/
def callStep (worker : RecordWorker) : Option RecordWorker :=
  match worker.call with
  | .none => none
  | .startLock =>
      if worker.thread.holdsLock then none else some { worker with call := .startTest }
  | .startTest =>
      if worker.state = .idle then some { worker with call := .startResetCancel }
      else some { worker with call := .startReject }
  | .startResetCancel =>
      some { worker with cancelRequested := false, call := .startSetRecording }
  | .startSetRecording => some { worker with state := .recording, call := .startNotify }
  | .startNotify => some { worker.notifyOne with call := .none }
  | .startReject => some { worker.send .startRejected with call := .none }
  | .stopTest =>
      if worker.state = .recording then some { worker with call := .stopSetIdle }
      else some { worker with call := .stopReject }
  | .stopSetIdle => some { worker with state := .idle, call := .none }
  | .stopReject => some { worker.send .stopRejected with call := .none }
  | .cancelTest =>
      if worker.state = .recording then some { worker with call := .cancelSetFlag }
      else some { worker with call := .cancelReject }
  | .cancelSetFlag => some { worker with cancelRequested := true, call := .cancelSetIdle }
  | .cancelSetIdle => some { worker with state := .idle, call := .none }
  | .cancelReject => some { worker.send .cancelRejected with call := .none }

/-- The choice made after the capture loop. -/
def endStep (worker : RecordWorker) (isCaptureError : Bool) : RecordWorker :=
  if isCaptureError then { worker with thread := .notifyEnded .captureError }
  else if worker.cancelRequested then { worker with thread := .notifyEnded .canceled }
  else if worker.alsaHelper.audioBuffer = [] then { worker with thread := .notifyEnded .noAudio }
  else { worker with thread := .saveWavFile }

/-- The next step of `threadFunction`. -/
def threadStep (worker : RecordWorker) (choice : Choice) : Option RecordWorker :=
  match worker.thread, choice with
  | .loopHead, .proceed =>
      if worker.runningFlag then some { worker with thread := .waitLock }
      else some { worker with thread := .exited }
  | .waitLock, .proceed =>
      if worker.call.holdsLock then none else some { worker with thread := .waitTest }
  | .waitTest, .proceed =>
      if worker.state = .recording ∨ worker.runningFlag = false then
        some { worker with thread := .woken }
      else some { worker with thread := .waitBlock }
  | .waitBlock, .proceed => some { worker with thread := .blocked }
  -- A spurious wake-up; notifications are delivered by `notifyOne`.
  | .blocked, .proceed => some { worker with thread := .waitLock }
  | .woken, .proceed =>
      if worker.runningFlag then some { worker with thread := .clearBuffer }
      else some { worker with thread := .exited }
  | .clearBuffer, .proceed =>
      some { worker with alsaHelper := worker.alsaHelper.clearAudioBuffer, thread := .initAlsa }
  | .initAlsa, .initAlsa outcome =>
      let (isReady, alsaHelper) := worker.alsaHelper.initAlsa outcome
      if isReady then some { worker with alsaHelper, thread := .notifyStarted }
      else
        some { worker with alsaHelper := alsaHelper.cleanupAlsa, thread := .notifyInitFailed }
  | .notifyInitFailed, .proceed =>
      some { worker.send .initFailed with thread := .resetAfterInit }
  | .resetAfterInit, .proceed => some { worker with state := .idle, thread := .loopHead }
  | .notifyStarted, .proceed => some { worker.send .started with thread := .captureTest }
  | .captureTest, .proceed =>
      if worker.runningFlag ∧ worker.state = .recording then
        some { worker with thread := .durationTest }
      else some { worker with thread := .endTest false }
  | .durationTest, .exceeded => some { worker with thread := .endTest false }
  | .durationTest, .proceed => some { worker with thread := .captureOnce }
  | .captureOnce, .read result =>
      if result.samples.length ≤ framesPerPeriod then
        let (isCaptured, alsaHelper) := worker.alsaHelper.captureOnce result
        if isCaptured then some { worker with alsaHelper, thread := .captureTest }
        else some { worker with alsaHelper, thread := .endTest true }
      else none
  | .endTest isCaptureError, .proceed => some (worker.endStep isCaptureError)
  | .notifyEnded reason, .proceed =>
      some { worker.send reason.noti with thread := .resetAfterEnd }
  | .saveWavFile, .save stamp isOpen =>
      match worker.alsaHelper.saveWavFile stamp isOpen with
      | (some file, alsaHelper) =>
          some { worker with
            alsaHelper, wavFiles := worker.wavFiles ++ [file], thread := .notifySaved }
      | (none, alsaHelper) =>
          some { worker with alsaHelper, thread := .notifyEnded .saveFailed }
  | .notifySaved, .proceed =>
      some { worker.send (.saved worker.alsaHelper.outputFilePath) with thread := .pushFilter }
  | .pushFilter, .elapsed durationSec =>
      some { worker with
        eventQueue := worker.eventQueue ++
          [.filterWavFile worker.alsaHelper.outputFilePath durationSec]
        thread := .resetAfterEnd }
  | .resetAfterEnd, .proceed =>
      some { worker with
        alsaHelper := worker.alsaHelper.cleanupAlsa, state := .idle, thread := .loopHead }
  | _, _ => none

/-- What a step inside a call can do. -/
inductive CallStep (worker : RecordWorker) : RecordWorker → Prop
  | startLock (pc : worker.call = .startLock) (free : worker.thread.holdsLock = false) :
      CallStep worker { worker with call := .startTest }
  | startAccept (pc : worker.call = .startTest) (idle : worker.state = .idle) :
      CallStep worker { worker with call := .startResetCancel }
  | startRefuse (pc : worker.call = .startTest) (recording : worker.state = .recording) :
      CallStep worker { worker with call := .startReject }
  | startResetCancel (pc : worker.call = .startResetCancel) :
      CallStep worker { worker with cancelRequested := false, call := .startSetRecording }
  | startSetRecording (pc : worker.call = .startSetRecording) :
      CallStep worker { worker with state := .recording, call := .startNotify }
  | startNotify (pc : worker.call = .startNotify) :
      CallStep worker { worker.notifyOne with call := .none }
  | startReject (pc : worker.call = .startReject) :
      CallStep worker { worker.send .startRejected with call := .none }
  | stopAccept (pc : worker.call = .stopTest) (recording : worker.state = .recording) :
      CallStep worker { worker with call := .stopSetIdle }
  | stopRefuse (pc : worker.call = .stopTest) (idle : worker.state = .idle) :
      CallStep worker { worker with call := .stopReject }
  | stopSetIdle (pc : worker.call = .stopSetIdle) :
      CallStep worker { worker with state := .idle, call := .none }
  | stopReject (pc : worker.call = .stopReject) :
      CallStep worker { worker.send .stopRejected with call := .none }
  | cancelAccept (pc : worker.call = .cancelTest) (recording : worker.state = .recording) :
      CallStep worker { worker with call := .cancelSetFlag }
  | cancelRefuse (pc : worker.call = .cancelTest) (idle : worker.state = .idle) :
      CallStep worker { worker with call := .cancelReject }
  | cancelSetFlag (pc : worker.call = .cancelSetFlag) :
      CallStep worker { worker with cancelRequested := true, call := .cancelSetIdle }
  | cancelSetIdle (pc : worker.call = .cancelSetIdle) :
      CallStep worker { worker with state := .idle, call := .none }
  | cancelReject (pc : worker.call = .cancelReject) :
      CallStep worker { worker.send .cancelRejected with call := .none }

/-- What a step of `threadFunction` can do while the worker is running. -/
inductive ThreadStep (worker : RecordWorker) (choice : Choice) : RecordWorker → Prop
  | loop (pc : worker.thread = .loopHead) :
      ThreadStep worker choice { worker with thread := .waitLock }
  | lock (pc : worker.thread = .waitLock) (free : worker.call.holdsLock = false) :
      ThreadStep worker choice { worker with thread := .waitTest }
  | wake (pc : worker.thread = .waitTest) (recording : worker.state = .recording) :
      ThreadStep worker choice { worker with thread := .woken }
  | keepWaiting (pc : worker.thread = .waitTest) (idle : worker.state = .idle) :
      ThreadStep worker choice { worker with thread := .waitBlock }
  | block (pc : worker.thread = .waitBlock) :
      ThreadStep worker choice { worker with thread := .blocked }
  | spurious (pc : worker.thread = .blocked) :
      ThreadStep worker choice { worker with thread := .waitLock }
  | enter (pc : worker.thread = .woken) :
      ThreadStep worker choice { worker with thread := .clearBuffer }
  | clearBuffer (pc : worker.thread = .clearBuffer) :
      ThreadStep worker choice { worker with
        alsaHelper := worker.alsaHelper.clearAudioBuffer, thread := .initAlsa }
  | initReady (pc : worker.thread = .initAlsa) (alsaHelper : AlsaHelper)
      (buffer : alsaHelper.audioBuffer = worker.alsaHelper.audioBuffer) :
      ThreadStep worker choice { worker with alsaHelper, thread := .notifyStarted }
  | initFailed (pc : worker.thread = .initAlsa) (alsaHelper : AlsaHelper) :
      ThreadStep worker choice { worker with alsaHelper, thread := .notifyInitFailed }
  | notifyInitFailed (pc : worker.thread = .notifyInitFailed) :
      ThreadStep worker choice { worker.send .initFailed with thread := .resetAfterInit }
  | resetAfterInit (pc : worker.thread = .resetAfterInit) :
      ThreadStep worker choice { worker with state := .idle, thread := .loopHead }
  | notifyStarted (pc : worker.thread = .notifyStarted) :
      ThreadStep worker choice { worker.send .started with thread := .captureTest }
  | captureOn (pc : worker.thread = .captureTest) (recording : worker.state = .recording) :
      ThreadStep worker choice { worker with thread := .durationTest }
  | captureOff (pc : worker.thread = .captureTest) (idle : worker.state = .idle) :
      ThreadStep worker choice { worker with thread := .endTest false }
  | exceeded (pc : worker.thread = .durationTest) :
      ThreadStep worker choice { worker with thread := .endTest false }
  | withinDuration (pc : worker.thread = .durationTest) :
      ThreadStep worker choice { worker with thread := .captureOnce }
  | captured (pc : worker.thread = .captureOnce) (alsaHelper : AlsaHelper)
      (buffer : alsaHelper.audioBuffer = worker.alsaHelper.audioBuffer ++ choice.samples) :
      ThreadStep worker choice { worker with alsaHelper, thread := .captureTest }
  | captureFailed (pc : worker.thread = .captureOnce) (alsaHelper : AlsaHelper) :
      ThreadStep worker choice { worker with alsaHelper, thread := .endTest true }
  | endDiscard (isCaptureError : Bool) (pc : worker.thread = .endTest isCaptureError)
      (reason : EndReason) :
      ThreadStep worker choice { worker with thread := .notifyEnded reason }
  | endSave (pc : worker.thread = .endTest false) (kept : worker.cancelRequested = false) :
      ThreadStep worker choice { worker with thread := .saveWavFile }
  | notifyEnded (reason : EndReason) (pc : worker.thread = .notifyEnded reason) :
      ThreadStep worker choice { worker.send reason.noti with thread := .resetAfterEnd }
  | saved (pc : worker.thread = .saveWavFile) (alsaHelper : AlsaHelper) (file : WavFile)
      (samples : file.samples = worker.alsaHelper.audioBuffer) :
      ThreadStep worker choice { worker with
        alsaHelper, wavFiles := worker.wavFiles ++ [file], thread := .notifySaved }
  | saveFailed (pc : worker.thread = .saveWavFile) (alsaHelper : AlsaHelper) :
      ThreadStep worker choice { worker with alsaHelper, thread := .notifyEnded .saveFailed }
  | notifySaved (pc : worker.thread = .notifySaved) :
      ThreadStep worker choice
        { worker.send (.saved worker.alsaHelper.outputFilePath) with thread := .pushFilter }
  | pushFilter (pc : worker.thread = .pushFilter) (event : RecordEvent)
      (filters : ∃ filePath durationSec, event = .filterWavFile filePath durationSec) :
      ThreadStep worker choice { worker with
        eventQueue := worker.eventQueue ++ [event], thread := .resetAfterEnd }
  | resetAfterEnd (pc : worker.thread = .resetAfterEnd) :
      ThreadStep worker choice { worker with
        alsaHelper := worker.alsaHelper.cleanupAlsa, state := .idle, thread := .loopHead }

variable {worker next : RecordWorker}

theorem buffer_initAlsa (alsaHelper : AlsaHelper) (outcome : InitOutcome) :
    (alsaHelper.initAlsa outcome).2.audioBuffer = alsaHelper.audioBuffer := by
  cases outcome <;> rfl

theorem buffer_captureOnce {alsaHelper : AlsaHelper} {result : ReadResult}
    (isCaptured : (alsaHelper.captureOnce result).1 = true) :
    (alsaHelper.captureOnce result).2.audioBuffer = alsaHelper.audioBuffer ++ result.samples := by
  simp only [AlsaHelper.captureOnce] at isCaptured ⊢
  split at isCaptured
  · next isOpen => cases result <;> simp_all [ReadResult.samples]
  · simp at isCaptured

theorem samples_saveWavFile {alsaHelper : AlsaHelper} {stamp : String} {isOpen : Bool}
    {file : WavFile} (isSaved : (alsaHelper.saveWavFile stamp isOpen).1 = some file) :
    file.samples = alsaHelper.audioBuffer := by
  simp only [AlsaHelper.saveWavFile] at isSaved
  split at isSaved
  · simp at isSaved
  · simp only at isSaved
    split at isSaved
    · simp only [Option.some.injEq] at isSaved
      rw [← isSaved]
    · simp at isSaved

theorem recording_of_ne_idle {state : RecordingState} (differs : state ≠ .idle) :
    state = .recording := by
  cases state <;> simp_all

theorem idle_of_ne_recording {state : RecordingState} (differs : state ≠ .recording) :
    state = .idle := by
  cases state <;> simp_all

theorem callStep_cases (stepped : worker.callStep = some next) : worker.CallStep next := by
  cases pc : worker.call with
  | none => simp [callStep, pc] at stepped
  | startLock =>
      simp only [callStep, pc] at stepped
      split at stepped
      · simp at stepped
      · next free =>
          cases stepped
          exact .startLock pc (by simpa using free)
  | startTest =>
      simp only [callStep, pc] at stepped
      split at stepped
      · next idle =>
          cases stepped
          exact .startAccept pc idle
      · next busy =>
          cases stepped
          exact .startRefuse pc (recording_of_ne_idle busy)
  | stopTest =>
      simp only [callStep, pc] at stepped
      split at stepped
      · next recording =>
          cases stepped
          exact .stopAccept pc recording
      · next stopped =>
          cases stepped
          exact .stopRefuse pc (idle_of_ne_recording stopped)
  | cancelTest =>
      simp only [callStep, pc] at stepped
      split at stepped
      · next recording =>
          cases stepped
          exact .cancelAccept pc recording
      · next stopped =>
          cases stepped
          exact .cancelRefuse pc (idle_of_ne_recording stopped)
  | stopSetIdle =>
      simp only [callStep, pc, Option.some.injEq] at stepped
      subst stepped
      exact .stopSetIdle pc
  | cancelSetIdle =>
      simp only [callStep, pc, Option.some.injEq] at stepped
      subst stepped
      exact .cancelSetIdle pc
  | startResetCancel | startSetRecording | startNotify | startReject | stopReject | cancelSetFlag
  | cancelReject =>
      simp only [callStep, pc, Option.some.injEq] at stepped
      subst stepped
      constructor
      exact pc

theorem endStep_cases {isCaptureError : Bool} (pc : worker.thread = .endTest isCaptureError)
    (choice : Choice) : worker.ThreadStep choice (worker.endStep isCaptureError) := by
  simp only [endStep]
  split
  · exact .endDiscard isCaptureError pc .captureError
  · next noError =>
      split
      · exact .endDiscard isCaptureError pc .canceled
      · next kept =>
          split
          · exact .endDiscard isCaptureError pc .noAudio
          · exact .endSave (by simpa [noError] using pc) (by simpa using kept)

theorem threadStep_cases {choice : Choice} (running : worker.runningFlag = true)
    (stepped : worker.threadStep choice = some next) : worker.ThreadStep choice next := by
  unfold threadStep at stepped
  split at stepped
  · next pc =>
      rw [if_pos running] at stepped
      cases stepped
      exact .loop pc
  · next pc =>
      split at stepped
      · simp at stepped
      · next free =>
          cases stepped
          exact .lock pc (by simpa using free)
  · next pc =>
      split at stepped
      · next holds =>
          cases stepped
          exact .wake pc (holds.resolve_right (by simp [running]))
      · next fails =>
          cases stepped
          exact .keepWaiting pc (idle_of_ne_recording fun recording => fails (Or.inl recording))
  · next pc =>
      cases stepped
      exact .block pc
  · next pc =>
      cases stepped
      exact .spurious pc
  · next pc =>
      rw [if_pos running] at stepped
      cases stepped
      exact .enter pc
  · next pc =>
      cases stepped
      exact .clearBuffer pc
  · next outcome pc =>
      simp only at stepped
      split at stepped <;> cases stepped
      · exact .initReady pc _ (buffer_initAlsa worker.alsaHelper outcome)
      · exact .initFailed pc _
  · next pc =>
      cases stepped
      exact .notifyInitFailed pc
  · next pc =>
      cases stepped
      exact .resetAfterInit pc
  · next pc =>
      cases stepped
      exact .notifyStarted pc
  · next pc =>
      split at stepped
      · next holds =>
          cases stepped
          exact .captureOn pc holds.2
      · next fails =>
          cases stepped
          exact .captureOff pc (idle_of_ne_recording fun recording => fails ⟨running, recording⟩)
  · next pc =>
      cases stepped
      exact .exceeded pc
  · next pc =>
      cases stepped
      exact .withinDuration pc
  · next result pc =>
      split at stepped
      · simp only at stepped
        split at stepped
        · next isCaptured =>
            cases stepped
            exact .captured pc _ (buffer_captureOnce isCaptured)
        · cases stepped
          exact .captureFailed pc _
      · simp at stepped
  · next isCaptureError pc =>
      cases stepped
      exact endStep_cases pc .proceed
  · next reason pc =>
      cases stepped
      exact .notifyEnded reason pc
  · next stamp isOpen pc =>
      split at stepped
      · next file alsaHelper saves =>
          cases stepped
          refine .saved pc alsaHelper file ?_
          exact samples_saveWavFile (congrArg Prod.fst saves)
      · next alsaHelper saves =>
          cases stepped
          exact .saveFailed pc alsaHelper
  · next pc =>
      cases stepped
      exact .notifySaved pc
  · next durationSec pc =>
      cases stepped
      exact .pushFilter pc _ ⟨_, _, rfl⟩
  · next pc =>
      cases stepped
      exact .resetAfterEnd pc
  · simp at stepped

end RecordWorker

end RaspberryPiService
