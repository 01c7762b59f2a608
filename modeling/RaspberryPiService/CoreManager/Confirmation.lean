import RaspberryPiService.CoreManager.Timer
import RaspberryPiService.Transition.Registry
import RaspberryPiService.Transition.Runs

/-!
# Pairing confirmations in the core manager

`HardwareHandler` announces a confirmation request to the clients, arms a timer that
rejects it after thirty seconds, and remembers the timer of each device address in
`timerIdMap_`. A client's decision is forwarded to the hardware manager and stops the
remembered timer. This file models these handlers, MainWorker's event queue and the
timer thread, and proves when the two tables agree.

The steps are MainWorker's and the timer thread's. Arming takes three of MainWorker's
steps, since the timer thread may sweep between the critical sections of `startTimer`
and before the id is stored. Events carry an `Origin`, copied along and never
inspected, by which a composition can tell apart requests for one address.

The tables form a `Registry`: an entry is an id in `timerIdMap_`, a live handle is a
key of `timerTableMap`. `createNewTimerId` does not advance its counter past an id it
hands out, so an id is handed out again as soon as its timer has gone, and
`handleBTDeviceRequestConfirmationTimeout` leaves the entry in place. Hence neither
invariant of the registry holds in general; each theorem gives the exact condition.
-/

namespace RaspberryPiService

/-- The events of the core's queue that concern a confirmation, with their payload. -/
inductive ConfirmationEvent (Origin : Type) where
  | acceptRequestConfirmation (address : String) (origin : Origin)
  | rejectRequestConfirmation (address : String) (origin : Origin)
  | btDeviceRequestConfirmationNoti (address passkey : String) (origin : Origin)
  | btDeviceRequestConfirmationTimeout (address : String) (origin : Origin)
deriving DecidableEq

/-- The two commands that carry a decision to the hardware manager. -/
inductive DecisionCommand where
  | acceptRequestConfirmation
  | rejectRequestConfirmation
deriving DecidableEq

/-- A notification message built by `sendMessageNoti`, with the address in its data. -/
structure DecisionMessage (Origin : Type) where
  command : DecisionCommand
  isSuccess : Bool
  address : String
  origin : Origin
deriving DecidableEq

/-- The arguments of `updateStateAndBroadcast` for a confirmation request. -/
structure ConfirmationBroadcast (Origin : Type) where
  status : String := "success"
  message : String := "Bluetooth device requests confirmation."
  screen : String := "Settings"
  command : String := "btdevice_request_confirmation_noti"
  deviceAddress : String
  passkey : String
  origin : Origin
deriving DecidableEq

/-- How far `btDeviceRequestConfirmationNOTI` has come with its timer. -/
inductive Arming (Origin : Type) where
  | idle
  | made (address : String) (element : TimerElement (ConfirmationEvent Origin))
  | started (address : String) (timerId : Int)
deriving DecidableEq

/-- `TIMEOUT_REQUEST_CONFIRMATION_MS`. -/
def timeoutRequestConfirmationMs : Nat := 30000

structure HardwareHandler (Origin : Type) where
  clock : Nat := 0
  timer : Timer (ConfirmationEvent Origin) := {}
  timerIdMap : AList fun _ : String => Int := ∅
  eventQueue : List (ConfirmationEvent Origin) := []
  arming : Arming Origin := .idle
  broadcasts : List (ConfirmationBroadcast Origin) := []
  sent : List (DecisionMessage Origin) := []

namespace HardwareHandler

variable {Origin : Type}

def removeTimerOnTimerIdMap (handler : HardwareHandler Origin) (key : String) :
    HardwareHandler Origin :=
  match handler.timerIdMap.lookup key with
  | some timerId =>
      { handler with
        timer := (handler.timer.stopTimer timerId).2
        timerIdMap := handler.timerIdMap.erase key }
  | none => handler

def sendMessageNoti (handler : HardwareHandler Origin) (command : DecisionCommand)
    (address : String) (origin : Origin) : HardwareHandler Origin :=
  { handler with sent := handler.sent ++ [{ command, isSuccess := true, address, origin }] }

def rejectBTDeviceRequestConfirmation (handler : HardwareHandler Origin) (address : String)
    (origin : Origin) : HardwareHandler Origin :=
  (handler.sendMessageNoti .rejectRequestConfirmation address origin).removeTimerOnTimerIdMap
    address

def acceptBTDeviceRequestConfirmation (handler : HardwareHandler Origin) (address : String)
    (origin : Origin) : HardwareHandler Origin :=
  (handler.sendMessageNoti .acceptRequestConfirmation address origin).removeTimerOnTimerIdMap
    address

/-- Up to the first critical section of `startTimer`; when it fails, no timer is armed. -/
def btDeviceRequestConfirmationNOTI (handler : HardwareHandler Origin)
    (address passkey : String) (origin : Origin) : Option (HardwareHandler Origin) :=
  let broadcasts := handler.broadcasts ++ [{ deviceAddress := address, passkey, origin }]
  let event := ConfirmationEvent.btDeviceRequestConfirmationTimeout address origin
  (handler.timer.startTimer handler.clock timeoutRequestConfirmationMs (some event)).map
    fun (element, timer) =>
      match element with
      | some element => { handler with broadcasts, timer, arming := .made address element }
      | none => { handler with broadcasts, timer }

def handleBTDeviceRequestConfirmationTimeout (handler : HardwareHandler Origin)
    (address : String) (origin : Origin) : HardwareHandler Origin :=
  handler.sendMessageNoti .rejectRequestConfirmation address origin

/-- `MainWorker::processEvent` on the head of the queue. -/
def processEvent (handler : HardwareHandler Origin) : Option (HardwareHandler Origin) :=
  match handler.arming, handler.eventQueue with
  | .idle, event :: eventQueue =>
      let handler := { handler with eventQueue }
      match event with
      | .acceptRequestConfirmation address origin =>
          some (handler.acceptBTDeviceRequestConfirmation address origin)
      | .rejectRequestConfirmation address origin =>
          some (handler.rejectBTDeviceRequestConfirmation address origin)
      | .btDeviceRequestConfirmationNoti address passkey origin =>
          handler.btDeviceRequestConfirmationNOTI address passkey origin
      | .btDeviceRequestConfirmationTimeout address origin =>
          some (handler.handleBTDeviceRequestConfirmationTimeout address origin)
  | _, _ => none

/-- The atomic steps of MainWorker, the timer thread, the clock and the producers of events. -/
inductive Action (Origin : Type) where
  | setEventQueue
  | pushEvent (event : ConfirmationEvent Origin)
  | processEvent
  | insertTimer
  | storeTimerId
  | tick (elapsed : Nat)
  | sweepExpired (currentTime : Nat)
  | pushExpired (timerId : Int)
deriving DecidableEq

def step (handler : HardwareHandler Origin) : Action Origin → Option (HardwareHandler Origin)
  | .setEventQueue => some { handler with timer := { handler.timer with eventQueueSet := true } }
  | .pushEvent event => some { handler with eventQueue := handler.eventQueue ++ [event] }
  | .processEvent => handler.processEvent
  | .insertTimer =>
      match handler.arming with
      | .made address element =>
          some { handler with
            timer := handler.timer.insertTimer element
            arming := .started address element.timerId }
      | _ => none
  | .storeTimerId =>
      match handler.arming with
      | .started address timerId =>
          some { handler with
            timerIdMap := handler.timerIdMap.insert address timerId
            arming := .idle }
      | _ => none
  | .tick elapsed => some { handler with clock := handler.clock + elapsed }
  | .sweepExpired currentTime =>
      -- The previous batch is pushed completely before the next sweep.
      if currentTime ≤ handler.clock ∧ handler.timer.expiredTimerElementList = [] then
        some { handler with timer := handler.timer.sweepExpired currentTime }
      else none
  | .pushExpired timerId =>
      (handler.timer.pushExpired timerId).map fun (event, timer) =>
        { handler with timer, eventQueue := handler.eventQueue ++ event.toList }

variable (Origin) in
/-- The core manager's confirmation handling, from start-up. -/
def confirmations : System (HardwareHandler Origin) (Action Origin) where
  init := {}
  step := step

/-- The address a timeout event would reject. -/
def timeoutAddress : ConfirmationEvent Origin → Option String
  | .btDeviceRequestConfirmationTimeout address _ => some address
  | _ => none

/-- The address carried by the timeout event of the timer running under an id. -/
def timerAddress (handler : HardwareHandler Origin) (timerId : Int) : Option String :=
  (handler.timer.timerTableMap.lookup timerId).bind fun element =>
    element.event.bind timeoutAddress

/-- The two tables as a registry of timers under device addresses. -/
def registry (handler : HardwareHandler Origin) : Registry String Int where
  entry address := handler.timerIdMap.lookup address
  owner timerId := handler.timerAddress timerId

/-- The handler after a decision for an address. -/
def afterDecision (handler : HardwareHandler Origin) :
    DecisionCommand → String → Origin → HardwareHandler Origin
  | .acceptRequestConfirmation => handler.acceptBTDeviceRequestConfirmation
  | .rejectRequestConfirmation => handler.rejectBTDeviceRequestConfirmation

/-- A decision for an address removes only timers that carry this address. -/
def TimersIsolated (handler : HardwareHandler Origin) : Prop :=
  ∀ command address origin timerId carried, handler.timerAddress timerId = some carried →
    (handler.afterDecision command address origin).timerAddress timerId = none →
      carried = address

/-- A decision for an address, once it can be processed, leaves no timer that carries it. -/
def TimersCleared (handler : HardwareHandler Origin) : Prop :=
  handler.arming = .idle →
    ∀ command address origin timerId,
      (handler.afterDecision command address origin).timerAddress timerId ≠ some address

section Refinement

variable {handler next : HardwareHandler Origin}

theorem registry_removeTimerOnTimerIdMap (key : String) :
    (handler.removeTimerOnTimerIdMap key).registry = handler.registry.release key := by
  simp only [removeTimerOnTimerIdMap, Registry.release]
  cases entered : handler.timerIdMap.lookup key with
  | none => simp [registry, entered]
  | some timerId =>
      simp only [registry, entered]
      refine Registry.ext (funext fun address => ?_) (funext fun other => ?_)
      · by_cases same : address = key
        · subst same
          simp
        · simp [Function.update_of_ne same, AList.lookup_erase_ne same]
      · by_cases same : other = timerId
        · subst same
          simp [timerAddress]
        · simp [timerAddress, Function.update_of_ne same, Timer.lookup_stopTimer_of_ne same]

@[simp] theorem registry_afterDecision (command : DecisionCommand) (address : String)
    (origin : Origin) :
    (handler.afterDecision command address origin).registry =
      handler.registry.release address := by
  cases command <;> exact registry_removeTimerOnTimerIdMap address

@[simp] theorem arming_afterDecision (command : DecisionCommand) (address : String)
    (origin : Origin) :
    (handler.afterDecision command address origin).arming = handler.arming := by
  cases command <;>
    · simp only [afterDecision, acceptBTDeviceRequestConfirmation,
        rejectBTDeviceRequestConfirmation, removeTimerOnTimerIdMap]
      split <;> rfl

theorem timerAddress_afterDecision (command : DecisionCommand) (address : String)
    (origin : Origin) (timerId : Int) :
    (handler.afterDecision command address origin).timerAddress timerId =
      (handler.registry.release address).owner timerId :=
  congrArg (fun registry => registry.owner timerId) (registry_afterDecision command address origin)

theorem timersIsolated_iff_faithful (origin : Origin) :
    handler.TimersIsolated ↔ handler.registry.Faithful := by
  simp only [Registry.faithful_iff_release_isolated, TimersIsolated, timerAddress_afterDecision]
  exact ⟨fun isolated address => isolated .acceptRequestConfirmation address origin,
    fun isolated _ address _ => isolated address⟩

theorem timersCleared_iff_covering (origin : Origin) (idle : handler.arming = .idle) :
    handler.TimersCleared ↔ handler.registry.Covering := by
  simp only [Registry.covering_iff_release_clears, TimersCleared, timerAddress_afterDecision]
  exact ⟨fun cleared address => cleared idle .acceptRequestConfirmation address origin,
    fun cleared _ _ address _ => cleared address⟩

/-- A made element carries the timeout event of its address, under an id not yet in the table. -/
def Fresh (handler : HardwareHandler Origin) : Prop :=
  ∀ address element, handler.arming = .made address element →
    (∃ origin, element.event = some (.btDeviceRequestConfirmationTimeout address origin)) ∧
      element.timerId ∉ handler.timer.timerTableMap

theorem registry_insertTimer {address : String}
    {element : TimerElement (ConfirmationEvent Origin)} (fresh : handler.Fresh)
    (made : handler.arming = .made address element)
    (stepped : handler.step .insertTimer = some next) :
    next.arming = .started address element.timerId ∧
      next.registry = handler.registry.acquire address element.timerId := by
  rcases fresh address element made with ⟨⟨origin, carried⟩, absent⟩
  simp only [step, made, Option.some.injEq] at stepped
  subst stepped
  refine ⟨rfl, ?_⟩
  simp only [registry, Registry.acquire, Registry.mk.injEq, true_and]
  funext timerId
  by_cases same : timerId = element.timerId
  · subst same
    simp [timerAddress, Timer.lookup_insertTimer_self absent, carried, timeoutAddress]
  · simp [timerAddress, Function.update_of_ne same, Timer.lookup_insertTimer_of_ne same]

theorem registry_storeTimerId {address : String} {timerId : Int}
    (started : handler.arming = .started address timerId)
    (stepped : handler.step .storeTimerId = some next) :
    next.arming = .idle ∧ next.registry = handler.registry.enter address timerId := by
  simp only [step, started, Option.some.injEq] at stepped
  subst stepped
  refine ⟨rfl, ?_⟩
  simp only [registry, Registry.enter, Registry.mk.injEq]
  refine ⟨funext fun other => ?_, rfl⟩
  by_cases same : other = address
  · subst same
    simp
  · simp [Function.update_of_ne same, AList.lookup_insert_ne same]

/-- The steps that make no entry and no timer, as seen on the registry. -/
structure Shrinks (handler next : HardwareHandler Origin) : Prop where
  entries : next.timerIdMap = handler.timerIdMap
  keys : ∀ timerId, timerId ∉ handler.timer.timerTableMap →
    timerId ∉ next.timer.timerTableMap
  owners : ∀ timerId carried, next.timerAddress timerId = some carried →
    handler.timerAddress timerId = some carried

theorem Shrinks.of_table_eq (entries : next.timerIdMap = handler.timerIdMap)
    (table : next.timer.timerTableMap = handler.timer.timerTableMap) : handler.Shrinks next where
  entries := entries
  keys timerId absent := by rwa [table]
  owners timerId carried live := by simpa [timerAddress, table] using live

theorem shrinks_sweepExpired {currentTime : Nat} :
    handler.Shrinks { handler with timer := handler.timer.sweepExpired currentTime } where
  entries := rfl
  keys _ absent := Timer.not_mem_of_sweepExpired absent
  owners timerId carried live := by
    simp only [timerAddress, Option.bind_eq_some_iff] at live ⊢
    rcases live with ⟨element, found, event, carries, address⟩
    exact ⟨element, (Timer.lookup_sweepExpired.mp found).1, event, carries, address⟩

theorem btDeviceRequestConfirmationNOTI_shrinks {address passkey : String} {origin : Origin}
    (stepped : handler.btDeviceRequestConfirmationNOTI address passkey origin = some next)
    (idle : handler.arming = .idle) :
    handler.Shrinks next ∧
      (next.arming = .idle ∨ ∃ element, next.arming = .made address element ∧
        element.event = some (.btDeviceRequestConfirmationTimeout address origin) ∧
        element.timerId ∉ next.timer.timerTableMap) := by
  simp only [btDeviceRequestConfirmationNOTI, Option.map_eq_some_iff] at stepped
  rcases stepped with ⟨⟨element, timer⟩, started, rfl⟩
  have table : timer.timerTableMap = handler.timer.timerTableMap := by
    rw [Timer.startTimer_counter started]
  cases element with
  | none => exact ⟨.of_table_eq rfl table, Or.inl idle⟩
  | some element =>
      rcases Timer.startTimer_made started with ⟨carried, absent⟩
      refine ⟨.of_table_eq rfl table, Or.inr ⟨element, rfl, carried, ?_⟩⟩
      rwa [table]

/-- What a step can do to the two tables and to the arming in progress. -/
inductive StepKind (handler : HardwareHandler Origin) (action : Action Origin)
    (next : HardwareHandler Origin) : Prop
  | release (command : DecisionCommand) (address : String) (origin : Origin)
      (idle : handler.arming = .idle) (idleAfter : next.arming = .idle)
      (released : next.registry = handler.registry.release address)
  | insert (address : String) (element : TimerElement (ConfirmationEvent Origin))
      (isInsert : action = .insertTimer) (made : handler.arming = .made address element)
  | store (address : String) (timerId : Int)
      (isStore : action = .storeTimerId) (started : handler.arming = .started address timerId)
  | arm (address : String) (origin : Origin) (element : TimerElement (ConfirmationEvent Origin))
      (idle : handler.arming = .idle) (madeAfter : next.arming = .made address element)
      (carried : element.event = some (.btDeviceRequestConfirmationTimeout address origin))
      (absent : element.timerId ∉ next.timer.timerTableMap) (shrinks : handler.Shrinks next)
  | quiet (same : next.arming = handler.arming) (shrinks : handler.Shrinks next)

theorem stepKind_processEvent (stepped : handler.processEvent = some next) :
    handler.StepKind .processEvent next := by
  simp only [processEvent] at stepped
  split at stepped
  · next event eventQueue idle _ =>
      cases event with
      | acceptRequestConfirmation address origin =>
          simp only [Option.some.injEq] at stepped
          subst stepped
          exact .release .acceptRequestConfirmation address origin idle
            ((arming_afterDecision .acceptRequestConfirmation address origin).trans idle)
            (registry_afterDecision .acceptRequestConfirmation address origin)
      | rejectRequestConfirmation address origin =>
          simp only [Option.some.injEq] at stepped
          subst stepped
          exact .release .rejectRequestConfirmation address origin idle
            ((arming_afterDecision .rejectRequestConfirmation address origin).trans idle)
            (registry_afterDecision .rejectRequestConfirmation address origin)
      | btDeviceRequestConfirmationNoti address passkey origin =>
          obtain ⟨⟨entries, keys, owners⟩, arming⟩ :=
            btDeviceRequestConfirmationNOTI_shrinks stepped idle
          rcases arming with idleAfter | ⟨element, madeAfter, carried, absent⟩
          · exact .quiet (idleAfter.trans idle.symm) ⟨entries, keys, owners⟩
          · exact .arm address origin element idle madeAfter carried absent
              ⟨entries, keys, owners⟩
      | btDeviceRequestConfirmationTimeout address origin =>
          simp only [Option.some.injEq] at stepped
          subst stepped
          exact .quiet rfl (.of_table_eq rfl rfl)
  · simp at stepped

theorem stepKind {action : Action Origin} (stepped : handler.step action = some next) :
    handler.StepKind action next := by
  cases action with
  | setEventQueue | pushEvent _ | tick _ =>
      simp only [step, Option.some.injEq] at stepped
      subst stepped
      exact .quiet rfl (.of_table_eq rfl rfl)
  | processEvent => exact stepKind_processEvent stepped
  | insertTimer =>
      simp only [step] at stepped
      split at stepped
      · next address element made => exact .insert address element rfl made
      · simp at stepped
  | storeTimerId =>
      simp only [step] at stepped
      split at stepped
      · next address timerId started => exact .store address timerId rfl started
      · simp at stepped
  | sweepExpired currentTime =>
      simp only [step, Option.ite_none_right_eq_some, Option.some.injEq] at stepped
      rcases stepped with ⟨-, rfl⟩
      exact .quiet rfl shrinks_sweepExpired
  | pushExpired timerId =>
      simp only [step, Option.map_eq_some_iff] at stepped
      rcases stepped with ⟨pushed, stepped, rfl⟩
      exact .quiet rfl (.of_table_eq rfl (Timer.pushExpired_spec stepped).1)

end Refinement

end HardwareHandler

end RaspberryPiService
