import RaspberryPiService.HardwareManager.OfonoDBus

/-!
# Voice calls in the core manager

`CALL_STATE` is one value for all calls. The part of `HardwareHandler` that concerns
calls forwards a client's command when `CALL_STATE` allows it, and is `PROCESSING` from
then on; every notification about a call, and every reply to a command, overwrites it.
-/

namespace RaspberryPiService

inductive CallState where
  | idle
  | processing
  | incoming
  | outcoming
  | calling
deriving DecidableEq

/-- The events of the core's queue that concern calls, with their payload. -/
inductive CallCoreEvent where
  | dialCall (number : String)
  | hangupCall
  | answerCall
  | call (command : CallNotiCommand) (name number state : String)
  | reply (command : CallReplyCommand) (isSuccess : Bool) (message : String)
deriving DecidableEq

/-- The arguments of `updateStateAndBroadcast`. -/
structure CallBroadcast where
  status : String
  message : String
  screen : String := "Call"
  command : String
  data : List (String × String) := []
deriving DecidableEq

structure CallHandler where
  callState : CallState := .idle
  eventQueue : List CallCoreEvent := []
  broadcasts : List CallBroadcast := []
  sent : List CallCommand := []
deriving DecidableEq

namespace CallHandler

/-- Forwards a command and waits for its reply. -/
def request (handler : CallHandler) (command : CallCommand) : CallHandler :=
  { handler with callState := .processing, sent := handler.sent ++ [command] }

def dialCall (handler : CallHandler) (number : String) : CallHandler :=
  match handler.callState with
  | .idle => handler.request (.dialCall number)
  | .processing | .incoming | .outcoming | .calling => handler

def hangupCall (handler : CallHandler) : CallHandler :=
  match handler.callState with
  | .outcoming | .incoming | .calling => handler.request .hangupCall
  | .processing | .idle => handler

def answerCall (handler : CallHandler) : CallHandler :=
  match handler.callState with
  | .incoming => handler.request .answerCall
  | .processing | .calling | .idle | .outcoming => handler

/-- `CALL_STATE` is overwritten and the call is shown to the clients. -/
def showCall (handler : CallHandler) (callState : CallState)
    (message command name number state : String) : CallHandler :=
  { handler with
    callState
    broadcasts := handler.broadcasts ++ [{ status := "success", message, command
                                           data := [("call_name", name), ("call_number", number),
                                             ("call_state", state)] }] }

def incomingCallNOTI (handler : CallHandler) (name number state : String) : CallHandler :=
  handler.showCall .incoming "Incoming call notification received." "incoming_call_noti"
    name number state

def outgoingCallNOTI (handler : CallHandler) (name number state : String) : CallHandler :=
  handler.showCall .outcoming "Outgoing call notification received." "outgoing_call_noti"
    name number state

/-- The classification in `callStateChangedNOTI`. -/
def changedState (state : String) : CallState :=
  if state = "incoming" then .incoming
  else if state = "outgoing" then .outcoming
  else if state = "active" then .calling
  else if state = "held" ∨ state = "waiting" then .calling
  else if state = "idle" ∨ state = "disconnected" then .idle
  else .idle

def callStateChangedNOTI (handler : CallHandler) (name number state : String) : CallHandler :=
  handler.showCall (changedState state) "Call state change notification received."
    "call_state_changed_noti" name number state

def callEndedNOTI (handler : CallHandler) (name number state : String) : CallHandler :=
  handler.showCall .idle "Call ended notification received." "call_ended_noti" name number state

/-- A reply is shown to the clients. -/
def showReply (handler : CallHandler) (isSuccess : Bool) (message command : String) :
    CallHandler :=
  { handler with broadcasts := handler.broadcasts ++
      [{ status := if isSuccess then "success" else "fail", message, command }] }

def dialCallNOTI (handler : CallHandler) (isSuccess : Bool) (message : String) : CallHandler :=
  { handler with callState := .idle }.showReply isSuccess message "dial_call_noti"

def hangupCallNOTI (handler : CallHandler) (isSuccess : Bool) (message : String) : CallHandler :=
  { handler with callState := .idle }.showReply isSuccess message "hangup_call_noti"

def answerCallNOTI (handler : CallHandler) (isSuccess : Bool) (message : String) : CallHandler :=
  { handler with callState := .idle }.showReply isSuccess message "answer_call_noti"

def pbapSessionEndNOTI (handler : CallHandler) (isSuccess : Bool) (message : String) :
    CallHandler :=
  handler.showReply isSuccess message "pbap_session_end_noti"

/-- `MainWorker::processEvent` on the head of the queue. -/
def processEvent (handler : CallHandler) : Option CallHandler :=
  match handler.eventQueue with
  | [] => none
  | event :: eventQueue =>
      let handler := { handler with eventQueue }
      match event with
      | .dialCall number => some (handler.dialCall number)
      | .hangupCall => some handler.hangupCall
      | .answerCall => some handler.answerCall
      | .call .incomingCallNoti name number state =>
          some (handler.incomingCallNOTI name number state)
      | .call .outgoingCallNoti name number state =>
          some (handler.outgoingCallNOTI name number state)
      | .call .callStateChangedNoti name number state =>
          some (handler.callStateChangedNOTI name number state)
      | .call .callEndedNoti name number state =>
          some (handler.callEndedNOTI name number state)
      | .reply .dialCallNoti isSuccess message => some (handler.dialCallNOTI isSuccess message)
      | .reply .answerCallNoti isSuccess message =>
          some (handler.answerCallNOTI isSuccess message)
      | .reply .hangupCallNoti isSuccess message =>
          some (handler.hangupCallNOTI isSuccess message)
      | .reply .pbapSessionEndNoti isSuccess message =>
          some (handler.pbapSessionEndNOTI isSuccess message)

/-- `DBusReceiver::handleMessageNoti`; a failed notification about a call is dropped. -/
def handleMessageNoti (handler : CallHandler) : CallNoti → CallHandler
  | .call command isSuccess info =>
      if isSuccess then
        { handler with eventQueue := handler.eventQueue ++
            [.call command info.name info.number info.state] }
      else handler
  | .reply command isSuccess message =>
      { handler with eventQueue := handler.eventQueue ++ [.reply command isSuccess message] }

end CallHandler

end RaspberryPiService
