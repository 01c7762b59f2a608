import RaspberryPiService.CallProtocol

/-!
# A single call

While there is at most one call, with a number, `CALL_STATE` is to be the abstraction of
the call's state. Two classifications write it: `handleCallAdded` and
`callStateChangedNOTI`, which agree only on `incoming`. `callStateChangedNOTI` knows a
state `outgoing` that oFono never reports, so a call that alerts becomes `IDLE`, and a call
that waits `CALLING`; and every reply writes `IDLE`, whatever the call's state.
-/

namespace RaspberryPiService

namespace CallProtocol

/-- The value of `CALL_STATE` that stands for a call in this state. -/
def abstraction : OfonoCallState → CallState
  | .dialing | .alerting => .outcoming
  | .incoming | .waiting => .incoming
  | .active | .held => .calling
  | .disconnected => .idle

/-- The abstraction of the only call, or `IDLE` when there is none. -/
def callAbstraction (calls : OfonoCalls) : CallState :=
  match calls.entries with
  | [] => .idle
  | entry :: _ => abstraction entry.2.state

/-- A call is added when there is none, and with a number. -/
def AddsSingle (state : CallProtocol) : Action → Prop
  | .addCall _ number _ => state.calls.keys = [] ∧ number ≠ ""
  | _ => True

instance (state : CallProtocol) (action : Action) : Decidable (AddsSingle state action) := by
  unfold AddsSingle
  split <;> infer_instance

/-- The state that the worker finds at a signal is one that is classified as it should be. -/
def TellsState (calls : OfonoCalls) (_paths : List String) : OfonoSignal → Prop
  | .callAdded callPath => ∀ call ∈ calls.lookup callPath,
      call.state = .incoming ∨ call.state = .waiting ∨ call.state = .dialing ∨
        call.state = .alerting
  | .propertyChanged callPath key => ∀ call ∈ calls.lookup callPath,
      (key = "State" ∨ key = "LineIdentification") →
        call.state = .incoming ∨ call.state = .active ∨ call.state = .held ∨
          call.state = .disconnected
  | .callRemoved _ | .modemAdded _ | .modemRemoved _ => True

instance (calls : OfonoCalls) (paths : List String) :
    (signal : OfonoSignal) → Decidable (TellsState calls paths signal)
  | .callAdded _ | .callRemoved _ | .propertyChanged _ _ | .modemAdded _ | .modemRemoved _ => by
    simp only [TellsState]
    infer_instance

/-- The only call has ended, or there is none. -/
def Ended (calls : OfonoCalls) : Prop :=
  callAbstraction calls = .idle

instance (calls : OfonoCalls) : Decidable (Ended calls) :=
  inferInstanceAs (Decidable (callAbstraction calls = .idle))

def Abstracts (calls : OfonoCalls) (value : CallState) : Prop :=
  value = callAbstraction calls

/-- At most one call, with a number, and a removal is followed by the next call's `CallAdded`. -/
structure Single (state : CallProtocol) : Prop where
  unique : ∀ callPath ∈ state.calls, ∀ other ∈ state.calls, callPath = other
  shown : ∀ callPath call, state.calls.lookup callPath = some call → call.number ≠ ""
  followed : ∀ callPath signals, .callRemoved callPath :: signals <:+ state.signals →
    ∀ next ∈ state.calls, .callAdded next ∈ signals

variable {state next : CallProtocol} {calls : OfonoCalls}

/-- The two classifications agree only on calls that come in. -/
theorem added_eq_changedState_iff (callState : OfonoCallState) :
    added callState = some (CallHandler.changedState callState.name) ↔
      callState = .incoming := by
  cases callState <;> decide

theorem single_init : protocol.init.Single where
  unique := by simp [protocol]
  shown := by simp [protocol]
  followed := by simp [protocol]

/-- The splits of a list that ends in another signal come from splits of the rest. -/
theorem suffix_of_suffix_concat {callPath : String} {signal : OfonoSignal}
    {after signals : List OfonoSignal} (differs : signal ≠ .callRemoved callPath)
    (split : .callRemoved callPath :: after <:+ signals ++ [signal]) :
    ∃ rest, after = rest ++ [signal] ∧ .callRemoved callPath :: rest <:+ signals := by
  rcases List.suffix_concat_iff.mp split with empty | ⟨before, same, inRest⟩
  · simp at empty
  · cases before with
    | nil =>
        simp only [List.nil_append, List.cons.injEq] at same
        exact absurd same.1.symm differs
    | cons first rest =>
        simp only [List.cons_append, List.cons.injEq] at same
        rcases same with ⟨rfl, rfl⟩
        exact ⟨rest, rfl, inRest⟩

/-- Another signal about the calls that are there. -/
theorem Single.addSignal (single : state.Single) {signal : OfonoSignal}
    (other : ∀ callPath, signal ≠ .callRemoved callPath) :
    Single { state with signals := state.signals ++ [signal] } where
  unique := single.unique
  shown := single.shown
  followed := by
    intro callPath signals split next present
    rcases suffix_of_suffix_concat (other callPath) split with ⟨rest, rfl, inRest⟩
    exact List.mem_append_left _ (single.followed callPath rest inRest next present)

theorem single_addCall {callPath : String} {call : OfonoCall}
    (none : state.calls.keys = []) (shown : call.number ≠ "") :
    Single { state with
      calls := state.calls.insert callPath call
      signals := state.signals ++ [.callAdded callPath] } := by
  have only : ∀ path, path ∈ state.calls.insert callPath call → path = callPath := by
    intro path present
    apply ((AList.mem_insert _).mp present).resolve_right
    intro before
    rw [AList.mem_keys, none] at before
    simp at before
  refine ⟨fun path present other otherPresent => ?_, fun path found lookup => ?_,
    fun path signals split other present => ?_⟩
  · exact (only path present).trans (only other otherPresent).symm
  · have same : path = callPath := only path (mem_of_lookup lookup)
    rw [same, AList.lookup_insert, Option.some.injEq] at lookup
    exact lookup ▸ shown
  · rcases suffix_of_suffix_concat (by simp) split with ⟨rest, rfl, -⟩
    simp [only other present]

theorem Single.changeState (single : state.Single) {callPath : String} {call : OfonoCall}
    (found : state.calls.lookup callPath = some call) (callState : OfonoCallState) :
    Single { state with
      calls := state.calls.insert callPath { call with state := callState }
      signals := state.signals ++ [.propertyChanged callPath "State"] } := by
  have present : ∀ path, path ∈ state.calls.insert callPath { call with state := callState } →
      path ∈ state.calls := by
    intro path present
    rcases (AList.mem_insert _).mp present with rfl | present
    · exact mem_of_lookup found
    · exact present
  have added : Single { state with
      signals := state.signals ++ [.propertyChanged callPath "State"] } :=
    single.addSignal (by simp)
  refine ⟨fun path mem other otherMem => ?_, fun path changed lookup => ?_,
    fun path signals split other mem => ?_⟩
  · exact single.unique path (present path mem) other (present other otherMem)
  · by_cases same : path = callPath
    · rw [same, AList.lookup_insert, Option.some.injEq] at lookup
      rw [← lookup]
      exact single.shown callPath call found
    · rw [AList.lookup_insert_ne same] at lookup
      exact single.shown path changed lookup
  · exact added.followed path signals split other (present other mem)

/-- Once the only call is removed, there is none. -/
theorem Single.removeCall (single : state.Single) {callPath : String}
    (present : callPath ∈ state.calls) :
    Single { state with
      calls := state.calls.erase callPath
      signals := state.signals ++ [.callRemoved callPath] } := by
  have none : ∀ path, path ∉ state.calls.erase callPath := by
    intro path kept
    rcases AList.mem_erase.mp kept with ⟨differs, kept⟩
    exact differs (single.unique path kept callPath present)
  refine ⟨fun path mem => absurd mem (none path), fun path call lookup => ?_,
    fun _ _ _ path mem => absurd mem (none path)⟩
  exact absurd (mem_of_lookup lookup) (none path)

theorem single_step {action : Action} (single : state.Single)
    (adds : state.AddsSingle action) (stepped : state.step action = some next) :
    next.Single := by
  cases action with
  | client command =>
      cases stepped
      exact { single with }
  | coreEvent =>
      rcases Option.map_eq_some_iff.mp stepped with ⟨core, -, rfl⟩
      exact { single with }
  | receiveNoti | receiveCommand | mainEvent | mainScan =>
      simp only [step] at stepped
      split at stepped <;> cases stepped
      exact { single with }
  | mainReply outcome =>
      rcases Option.map_eq_some_iff.mp stepped with ⟨noti, -, rfl⟩
      exact { single with }
  | signal =>
      simp only [step] at stepped
      split at stepped
      · next signal signals idle found =>
          cases stepped
          refine { single with followed := fun callPath after later => ?_ }
          apply single.followed callPath after
          rw [found]
          exact later.trans (List.suffix_cons signal signals)
      · simp at stepped
  | addCall callPath number callState =>
      simp only [step] at stepped
      split at stepped
      · simp at stepped
      · cases stepped
        exact single_addCall adds.1 adds.2
  | changeState callPath callState =>
      rcases Option.map_eq_some_iff.mp stepped with ⟨call, found, rfl⟩
      exact single.changeState found callState
  | removeCall callPath =>
      simp only [step] at stepped
      split at stepped
      · next present =>
          cases stepped
          exact single.removeCall present
      · simp at stepped
  | changeProperty | addModem | removeModem =>
      cases stepped
      exact single.addSignal (by simp)
  | addContact number name =>
      cases stepped
      exact { single with }

theorem callAbstraction_of_lookup (single : state.Single) {callPath : String} {call : OfonoCall}
    (found : state.calls.lookup callPath = some call) :
    callAbstraction state.calls = abstraction call.state := by
  have member := AList.mem_lookup_iff.mp found
  simp only [callAbstraction]
  split
  · next none =>
      rw [none] at member
      simp at member
  · next first rest entries =>
      have firstFound : state.calls.lookup first.1 = some first.2 :=
        AList.mem_lookup_iff.mpr (by simp [entries])
      have same : first.1 = callPath :=
        single.unique _ (mem_of_lookup firstFound) _ (mem_of_lookup found)
      rw [same, found, Option.some.injEq] at firstFound
      rw [firstFound]

theorem callAbstraction_of_none (none : ∀ callPath, callPath ∉ calls) :
    callAbstraction calls = .idle := by
  simp only [callAbstraction]
  split
  · rfl
  · next first rest entries =>
      have found : calls.lookup first.1 = some first.2 :=
        AList.mem_lookup_iff.mpr (by simp [entries])
      exact absurd (mem_of_lookup found) (none first.1)

theorem outstanding_of_callAdded {callPath : String} {paths : List String}
    {signals : List OfonoSignal} (added : .callAdded callPath ∈ signals)
    (present : callPath ∈ calls) : Outstanding calls paths signals := by
  induction signals generalizing paths with
  | nil => simp at added
  | cons signal signals ih =>
      rcases List.mem_cons.mp added with rfl | added
      · exact Or.inl present
      · exact Or.inr (ih added)

/-- The state of the only call is classified as it should be, or another call follows. -/
theorem truthful_state (single : state.Single) :
    state.Truthful TellsState Ended Abstracts where
  down := fun ended => ended.symm
  told := by
    intro signal signals found concerned tells
    cases signal with
    | modemAdded | modemRemoved => exact concerned.elim
    | callAdded callPath =>
        rcases exists_lookup concerned with ⟨call, lookup⟩
        right
        rw [write_callAdded state.ofonoDBus lookup (single.shown callPath call lookup)]
        rcases tells call lookup with rings | rings | rings | rings <;>
          simp [rings, added, Abstracts, callAbstraction_of_lookup single lookup, abstraction]
    | propertyChanged callPath key =>
        rcases concerned with ⟨present, watched⟩
        rcases exists_lookup present with ⟨call, lookup⟩
        refine Or.inr ⟨_, write_propertyChanged state.ofonoDBus lookup watched, ?_⟩
        rw [Abstracts, callAbstraction_of_lookup single lookup]
        rcases tells call lookup watched with is | is | is | is <;> rw [is] <;> rfl
    | callRemoved callPath =>
        by_cases none : ∀ callPath, callPath ∉ state.calls
        · exact Or.inr ⟨_, write_callRemoved concerned, (callAbstraction_of_none none).symm⟩
        · rcases not_forall_not.mp none with ⟨next, present⟩
          left
          refine outstanding_of_callAdded ?_ present
          exact single.followed callPath signals (found ▸ List.suffix_rfl) next present

/--
In every run with at most one call at a time whose steps announce the call's state, a
quiescent state has the abstraction of the call as its `CALL_STATE`.
-/
theorem abstracts_of_announces {schedule : List Action}
    (ran : protocol.run schedule = some state)
    (single : protocol.Along AddsSingle schedule)
    (announces : protocol.Along (Announces TellsState Ended) schedule)
    (quiescent : Quiescent state) : state.core.callState = callAbstraction state.calls := by
  have mirrored : state.Single ∧ state.Mirrored Abstracts :=
    System.invariant_of_along (fun state => state.Single ∧ state.Mirrored Abstracts)
      ⟨single_init, mirrored_init rfl⟩
      (fun _ _ _ invariant good stepped =>
        ⟨single_step invariant.1 good.1 stepped,
          mirrored_step invariant.2 (truthful_state invariant.1) good.2 stepped⟩)
      ran (single.and announces)
  exact (mirrored.2.right_of_quiescent quiescent).1

/-- A call rings, is answered and put on hold. -/
def answeredAndHeld : List Action :=
  [.addModem "/phone", .signal, .addCall "/phone/call1" "111" .incoming] ++ signalArrives ++
    commandRuns .answerCall ++
    [.mainScan, .changeState "/phone/call1" .active, .mainReply .success] ++ replyArrives ++
    signalArrives ++ [.changeState "/phone/call1" .held] ++ signalArrives

theorem abstracts_answeredAndHeld :
    ∃ state, protocol.run answeredAndHeld = some state ∧
      state.core.callState = callAbstraction state.calls ∧
        callAbstraction state.calls = .calling := by
  have observed : (protocol.run answeredAndHeld).map (fun state =>
      (decide (Quiescent state), callAbstraction state.calls)) = some (true, .calling) := by decide
  rcases Option.map_eq_some_iff.mp observed with ⟨state, ran, observed⟩
  simp only [Prod.mk.injEq, decide_eq_true_eq] at observed
  rcases observed with ⟨quiescent, calling⟩
  exact ⟨state, ran, abstracts_of_announces ran (by decide) (by decide) quiescent, calling⟩

/-- A client dials a number, and the phone at the other end rings. -/
def dialedAndAlerting : List Action :=
  [.addModem "/phone", .signal] ++ commandRuns (.dialCall "111") ++
    [.addCall "/phone/call1" "111" .dialing, .mainReply .success] ++ replyArrives ++
    signalArrives ++ [.changeState "/phone/call1" .alerting] ++ signalArrives

/-- `callStateChangedNOTI` does not know `alerting`: an outgoing call becomes `IDLE`. -/
theorem not_abstracts_dialedAndAlerting :
    ¬ ∀ (schedule : List Action) (state : CallProtocol), protocol.run schedule = some state →
      protocol.Along AddsSingle schedule → Quiescent state →
        state.core.callState = callAbstraction state.calls := by
  intro refines
  have observed : (protocol.run dialedAndAlerting).map (fun state =>
      (decide (Quiescent state), state.core.callState, callAbstraction state.calls)) =
      some (true, .idle, .outcoming) := by decide
  rcases Option.map_eq_some_iff.mp observed with ⟨state, ran, observed⟩
  simp only [Prod.mk.injEq, decide_eq_true_eq] at observed
  rcases observed with ⟨quiescent, idle, outcoming⟩
  have same := refines _ state ran (by decide) quiescent
  rw [idle, outcoming] at same
  simp at same

end CallProtocol

end RaspberryPiService
