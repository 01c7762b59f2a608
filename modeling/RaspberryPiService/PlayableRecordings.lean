import RaspberryPiService.RecordedFiles

/-!
# What the clients list can be played

The recordings that a client lists are known to it from broadcasts, those of the core from
its table, and those of the record manager from its directory. Here the three are put
together: the managers with what is between them, and the server of the core with its
clients. MainWorker comes to its next event when it has broadcast what the one before has
led to.

What the lists of the clients need of the table, that its paths are neither empty nor cut
short at a NUL, the managers see to.
-/

namespace RaspberryPiService

open Publication (Told Tells)

/-- The managers and their clients. -/
structure RecordingService where
  library : RecordingLibrary
  unpublished : List Json := []
  joining : Option (Nat × Nat) := none
  readers : List (Nat × List Json) := []

namespace RecordingService

/-- The core as it appears to the clients. -/
def publication (service : RecordingService) : Publication Core Json where
  state := service.library.core
  unpublished := service.unpublished
  joining := service.joining
  readers := service.readers

inductive Action where
  | library (action : RecordingLibrary.Action)
  | publish
  | join (client : Nat)
  | sendPart
  | leave (client : Nat)

/-- The documents about the first event of the core's queue. -/
def documents (library : RecordingLibrary) (surroundings : CoreSurroundings) : List Json :=
  library.events.head?.toList.flatMap fun event =>
    (coreServer.react library.core (surroundings, event)).2

/-- A step of the server, which leaves the state of the core as it is. -/
def serve (service : RecordingService)
    (action : Publication.Action (CoreSurroundings × CoreManagerEvent)) :
    Option RecordingService :=
  (service.publication.step coreServer action).map fun next =>
    { service with
      unpublished := next.unpublished
      joining := next.joining
      readers := next.readers }

def step (service : RecordingService) : Action → Option RecordingService
  | .library (.process surroundings) =>
      if service.unpublished = [] then
        (service.library.process surroundings).map fun library =>
          { service with library, unpublished := documents service.library surroundings }
      else none
  | .library action =>
      (service.library.step action).map fun library => { service with library }
  | .publish => service.serve .publish
  | .join client => service.serve (.join client)
  | .sendPart => service.serve .sendPart
  | .leave client => service.serve (.leave client)

def protocol (files : Files) : System RecordingService Action where
  init := { library := (RecordingLibrary.protocol files).init }
  step := step

/-- The steps of the managers are ordinary, and the ids fit into an `int`. -/
def Ordinary (service : RecordingService) : Action → Prop
  | .library action =>
      service.library.Ordinary action ∧ service.library.core.database.sequence + 1 < 2 ^ 31
  | .publish | .join _ | .sendPart | .leave _ => True

instance (service : RecordingService) : DecidablePred service.Ordinary
  | .library _ => inferInstanceAs (Decidable (_ ∧ _))
  | .publish | .join _ | .sendPart | .leave _ => isTrue trivial

section Steps

variable {service next : RecordingService} {surroundings : CoreSurroundings}

/-- A client joins, a recording is made, and the client lists it. -/
def listed : List Action :=
  [.join 7, .sendPart, .sendPart, .sendPart, .sendPart] ++
    RecordManager.savedAndFiltered.map (fun action => .library (.record action)) ++
    List.replicate 3 (.library (.receive fun _ => true)) ++
    [.library (.push (.command (ClientCommand.event .getAllRecord)))] ++
    (List.replicate 5 [.library (.process {}), .publish]).flatten

end Steps

end RecordingService

end RaspberryPiService
