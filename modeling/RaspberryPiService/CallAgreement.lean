import RaspberryPiService.CallProtocol

/-!
# Agreement on whether a call is up

With any number of calls, `CALL_STATE` is to be `IDLE` exactly when no call is up. One
value for all calls cannot do this by itself: the end of any call, a reply to any command,
and a change to `dialing` or `alerting` all write `IDLE` while other calls, or the call
itself, are up; a call without a number is not reported, and a hang-up without a modem
leaves `PROCESSING` for ever. The runs without these steps agree.
-/

namespace RaspberryPiService

namespace CallProtocol

/-- Some call is up: it is there, and not disconnected. -/
def Live (calls : OfonoCalls) : Prop :=
  ∃ entry ∈ calls.entries, entry.2.state ≠ .disconnected

instance (calls : OfonoCalls) : Decidable (Live calls) :=
  inferInstanceAs (Decidable (∃ entry ∈ calls.entries, entry.2.state ≠ .disconnected))

def Down (calls : OfonoCalls) : Prop :=
  ¬ Live calls

instance (calls : OfonoCalls) : Decidable (Down calls) :=
  inferInstanceAs (Decidable (¬ Live calls))

def IdleWhenDown (calls : OfonoCalls) (value : CallState) : Prop :=
  value = .idle ↔ Down calls

/-- What the worker finds at a signal lets it tell the core whether a call is up. -/
def TellsLive (calls : OfonoCalls) (paths : List String) : OfonoSignal → Prop
  | .callAdded callPath => ∀ call ∈ calls.lookup callPath, call.number ≠ "" ∧
      (call.state = .incoming ∨ call.state = .waiting ∨ call.state = .dialing ∨
        call.state = .alerting)
  | .propertyChanged callPath key => ∀ call ∈ calls.lookup callPath,
      (key = "State" ∨ key = "LineIdentification") →
        call.state = .incoming ∨ call.state = .waiting ∨ call.state = .active ∨
          call.state = .held ∨ Down calls
  | .callRemoved callPath => callPath ∈ paths → Down calls
  | .modemAdded _ | .modemRemoved _ => True

instance (calls : OfonoCalls) (paths : List String) :
    (signal : OfonoSignal) → Decidable (TellsLive calls paths signal)
  | .callAdded _ | .callRemoved _ | .propertyChanged _ _ | .modemAdded _ | .modemRemoved _ => by
    simp only [TellsLive]
    infer_instance

variable {state : CallProtocol} {calls : OfonoCalls}

theorem live_of_lookup {callPath : String} {call : OfonoCall}
    (found : calls.lookup callPath = some call) (up : call.state ≠ .disconnected) : Live calls :=
  ⟨⟨callPath, call⟩, AList.mem_lookup_iff.mp found, up⟩

/-- A signal that tells, tells the core whether a call is up. -/
theorem told_of_tellsLive {ofonoDBus : OfonoDBus} {signal : OfonoSignal}
    (concerned : Concerns calls ofonoDBus.activeCallPaths signal)
    (tells : TellsLive calls ofonoDBus.activeCallPaths signal) :
    ∃ value, (BluetoothWorker.dispatchMessage ofonoDBus calls signal).2.bind
      CallNoti.write = some value ∧ IdleWhenDown calls value := by
  cases signal with
  | modemAdded | modemRemoved => exact concerned.elim
  | callAdded callPath =>
      rcases exists_lookup concerned with ⟨call, found⟩
      rcases tells call found with ⟨shown, ringing⟩
      have live : Live calls := by
        apply live_of_lookup found
        intro disconnected
        simp [disconnected] at ringing
      rw [write_callAdded ofonoDBus found shown]
      rcases ringing with ringing | ringing | ringing | ringing <;>
        simp [ringing, added, IdleWhenDown, Down, live]
  | propertyChanged callPath key =>
      rcases concerned with ⟨present, watched⟩
      rcases exists_lookup present with ⟨call, found⟩
      refine ⟨_, write_propertyChanged ofonoDBus found watched, ?_⟩
      rcases tells call found watched with up | up | up | up | down
      iterate 4
        · have live : Live calls := live_of_lookup found (by simp [up])
          simp [up, OfonoCallState.name, CallHandler.changedState, IdleWhenDown, Down, live]
      · have disconnected : call.state = .disconnected := by
          by_contra up
          exact down (live_of_lookup found up)
        simp [disconnected, OfonoCallState.name, CallHandler.changedState, IdleWhenDown, down]
  | callRemoved callPath =>
      refine ⟨_, write_callRemoved concerned, ?_⟩
      simp [IdleWhenDown, tells concerned]

theorem truthful_live (state : CallProtocol) : state.Truthful TellsLive Down IdleWhenDown where
  told := fun _ _ _ concerned tells => Or.inr (told_of_tellsLive concerned tells)
  down := fun down => by simpa [IdleWhenDown] using down

/--
In every run whose steps announce whether a call is up, a quiescent state has `IDLE`
exactly when no call is up, and never `PROCESSING`.
-/
theorem idle_iff_down_of_announces {schedule : List Action}
    (ran : protocol.run schedule = some state)
    (along : protocol.Along (Announces TellsLive Down) schedule)
    (quiescent : Quiescent state) :
    (state.core.callState = .idle ↔ ¬ Live state.calls) ∧
      state.core.callState ≠ .processing := by
  have mirrored : state.Mirrored IdleWhenDown :=
    System.invariant_of_along (fun state => state.Mirrored IdleWhenDown)
      (mirrored_init (by simp [IdleWhenDown, Down, Live]))
      (fun state _ _ mirrored good stepped =>
        mirrored_step mirrored (truthful_live state) good stepped) ran along
  exact mirrored.right_of_quiescent quiescent

/-- A call rings, is answered and ends while a second one waits, which is then taken. -/
def secondCallTaken : List Action :=
  [.addModem "/phone", .signal, .addCall "/phone/call1" "111" .incoming] ++ signalArrives ++
    commandRuns .answerCall ++
    [.mainScan, .changeState "/phone/call1" .active, .mainReply .success] ++ replyArrives ++
    signalArrives ++ [.addCall "/phone/call2" "222" .waiting] ++ signalArrives ++
    [.changeState "/phone/call1" .disconnected, .changeState "/phone/call2" .active] ++
    signalArrives ++ signalArrives

theorem idle_iff_down_secondCallTaken :
    ∃ state, protocol.run secondCallTaken = some state ∧ Live state.calls ∧
      (state.core.callState = .idle ↔ ¬ Live state.calls) ∧
        state.core.callState ≠ .processing := by
  have observed : (protocol.run secondCallTaken).map (fun state =>
      (decide (Quiescent state), decide (Live state.calls))) = some (true, true) := by decide
  rcases Option.map_eq_some_iff.mp observed with ⟨state, ran, observed⟩
  simp only [Prod.mk.injEq, decide_eq_true_eq] at observed
  rcases observed with ⟨quiescent, live⟩
  exact ⟨state, ran, live, idle_iff_down_of_announces ran (by decide) quiescent⟩

/-- The phone is gone while its call rings, and a client hangs up. -/
def hungUpWithoutModem : List Action :=
  [.addModem "/phone", .signal, .addCall "/phone/call1" "111" .incoming] ++ signalArrives ++
    [.removeModem "/phone"] ++ signalArrives ++ commandRuns .hangupCall

/-- A hang-up without a modem is only logged: nobody answers it. -/
theorem not_idle_iff_down_hungUpWithoutModem :
    ¬ ∀ (schedule : List Action) (state : CallProtocol), protocol.run schedule = some state →
      Quiescent state → (state.core.callState = .idle ↔ ¬ Live state.calls) ∧
        state.core.callState ≠ .processing := by
  intro agree
  have observed : (protocol.run hungUpWithoutModem).map (fun state =>
      (decide (Quiescent state), state.core.callState)) = some (true, .processing) := by decide
  rcases Option.map_eq_some_iff.mp observed with ⟨state, ran, observed⟩
  simp only [Prod.mk.injEq, decide_eq_true_eq] at observed
  rcases observed with ⟨quiescent, processing⟩
  exact (agree _ state ran quiescent).2 processing

end CallProtocol

end RaspberryPiService
