import Mathlib.Data.List.Basic

/-!
# Events and their queues

Each manager has one queue of events. An event is an enumerator of the manager's own
`EventTypeID` and a pointer to a payload, whose class whoever takes the event has to know.
-/

namespace RaspberryPiService

/-- The classes of payloads that belong to commands. -/
inductive Payload where
  | bluetoothDeviceAddress (address : String)
  | call (name number state : String)
  | removeRecord (recordId : Int32)
deriving DecidableEq

structure Event (EventTypeID : Type) where
  eventTypeId : EventTypeID
  payload : Option Payload := none
deriving DecidableEq

/-- `EventQueue`, the oldest event first. -/
abbrev EventQueue (EventTypeID : Type) : Type := List (Event EventTypeID)

namespace EventQueue

variable {EventTypeID : Type}

/-- A null pointer is not pushed. -/
def pushEvent (eventQueue : EventQueue EventTypeID) (event : Option (Event EventTypeID)) :
    EventQueue EventTypeID :=
  eventQueue ++ event.toList

end EventQueue

end RaspberryPiService
