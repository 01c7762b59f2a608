import RaspberryPiService.AdapterProtocol

/-!
# Agreement on scanning and on power

`SCANNING_BTDEVICE_STATE` and `BLUETOOTH_POWER_STATE` are to say what `Discovering` and
`Powered` are. Both can be left wrong in the same way: a command that BlueZ refuses is
taken to mean that the property has the opposite of what was asked for, also when it got
the value that was asked for while the command was on its way. The runs without such a
failure agree.
-/

namespace RaspberryPiService

namespace AdapterProtocol

variable {adapter : Adapter} {sent : List AdapterNoti} {state : AdapterProtocol}
  {schedule : List Action}

/-- The adapter is reported to a client that joins. -/
def reported : List Action :=
  [.join, .receiveCommand, .mainEvent true, .bluez none, .mainReply, .receiveNoti, .receiveNoti,
    .coreEvent, .coreEvent]

/-- A client's command is forwarded, executed and answered by BlueZ. -/
def commandRuns (command : AdapterCommand) (error : Option String) : List Action :=
  [.client command, .coreEvent, .receiveCommand, .mainEvent true, .bluez error, .mainReply]

def notiArrives : List Action :=
  [.receiveNoti, .coreEvent]

/-- An adapter that is switched on. -/
def poweredAdapter : Adapter :=
  fun property => decide (property = .powered)

theorem scanning_eq_discovering_of_failsTruly
    (ran : (protocol adapter sent).run schedule = some state)
    (along : (protocol adapter sent).Along (FailsTruly .discovering) schedule)
    (quiescent : state.Quiescent) (initialized : state.initialized = true) :
    state.core.scanningBTDeviceState = .of (state.adapter .discovering) :=
  (mirrored_of_failsTruly ran along).right_of_quiescent quiescent initialized

/-- Scanning is started, and goes on when BlueZ does not stop it. -/
def stopRefused : List Action :=
  reported ++ commandRuns .startScanBTDevice none ++ [.signal] ++ notiArrives ++
    commandRuns .stopScanBTDevice (some "Operation already in progress") ++ notiArrives

theorem scanning_eq_discovering_stopRefused :
    ∃ state, (protocol poweredAdapter []).run stopRefused = some state ∧
      state.adapter .discovering = true ∧
        state.core.scanningBTDeviceState = .of (state.adapter .discovering) := by
  have observed : ((protocol poweredAdapter []).run stopRefused).map (fun state =>
      (decide state.Quiescent, state.initialized, state.adapter .discovering)) =
        some (true, true, true) := by decide
  rcases Option.map_eq_some_iff.mp observed with ⟨state, ran, observed⟩
  simp only [Prod.mk.injEq, decide_eq_true_eq] at observed
  rcases observed with ⟨quiescent, initialized, discovering⟩
  exact ⟨state, ran, discovering,
    scanning_eq_discovering_of_failsTruly ran (by decide) quiescent initialized⟩

/-- Scanning ends by itself while a client's request to stop it is on its way. -/
def endedBeforeStop : List Action :=
  reported ++ commandRuns .startScanBTDevice none ++ [.signal] ++ notiArrives ++
    [.change .discovering false, .signal, .client .stopScanBTDevice, .coreEvent] ++ notiArrives ++
    [.receiveCommand, .mainEvent true, .bluez (some "No discovery started"), .mainReply] ++
    notiArrives

/-- The refusal to stop what has ended already is taken to mean that scanning goes on. -/
theorem not_scanning_eq_discovering_endedBeforeStop :
    ¬ ∀ (adapter : Adapter) (sent : List AdapterNoti) (schedule : List Action)
      (state : AdapterProtocol), (protocol adapter sent).run schedule = some state →
      state.Quiescent → state.initialized = true →
        state.core.scanningBTDeviceState = .of (state.adapter .discovering) := by
  intro agree
  have observed : ((protocol poweredAdapter []).run endedBeforeStop).map (fun state =>
      (decide state.Quiescent, state.initialized, state.core.scanningBTDeviceState,
        state.adapter .discovering)) = some (true, true, .on, false) := by decide
  rcases Option.map_eq_some_iff.mp observed with ⟨state, ran, observed⟩
  simp only [Prod.mk.injEq, decide_eq_true_eq] at observed
  rcases observed with ⟨quiescent, initialized, scanning, discovering⟩
  have same := agree _ _ _ state ran quiescent initialized
  rw [scanning, discovering] at same
  cases same

theorem power_eq_powered_of_failsTruly
    (ran : (protocol adapter sent).run schedule = some state)
    (along : (protocol adapter sent).Along (FailsTruly .powered) schedule)
    (quiescent : state.Quiescent) (initialized : state.initialized = true) :
    state.core.bluetoothPowerState = .of (state.adapter .powered) :=
  (mirrored_of_failsTruly ran along).right_of_quiescent quiescent initialized

/-- The adapter is switched off and on again, by a client and by itself. -/
def switchedOffAndOn : List Action :=
  reported ++ commandRuns .bluetoothPowerOff none ++ [.signal] ++ notiArrives ++
    [.change .powered true, .signal] ++ notiArrives

theorem power_eq_powered_switchedOffAndOn :
    ∃ state, (protocol poweredAdapter []).run switchedOffAndOn = some state ∧
      state.adapter .powered = true ∧
        state.core.bluetoothPowerState = .of (state.adapter .powered) := by
  have observed : ((protocol poweredAdapter []).run switchedOffAndOn).map (fun state =>
      (decide state.Quiescent, state.initialized, state.adapter .powered)) =
        some (true, true, true) := by decide
  rcases Option.map_eq_some_iff.mp observed with ⟨state, ran, observed⟩
  simp only [Prod.mk.injEq, decide_eq_true_eq] at observed
  rcases observed with ⟨quiescent, initialized, powered⟩
  exact ⟨state, ran, powered,
    power_eq_powered_of_failsTruly ran (by decide) quiescent initialized⟩

/-- The adapter is switched on by itself while a client's request for it is on its way. -/
def switchedOnBefore : List Action :=
  reported ++ [.change .powered true, .signal, .client .bluetoothPowerOn, .coreEvent] ++
    notiArrives ++ [.receiveCommand, .mainEvent true, .bluez (some "Busy"), .mainReply] ++
    notiArrives

/-- The refusal to switch on what is on already is taken to mean that it is off. -/
theorem not_power_eq_powered_switchedOnBefore :
    ¬ ∀ (adapter : Adapter) (sent : List AdapterNoti) (schedule : List Action)
      (state : AdapterProtocol), (protocol adapter sent).run schedule = some state →
      state.Quiescent → state.initialized = true →
        state.core.bluetoothPowerState = .of (state.adapter .powered) := by
  intro agree
  have observed : ((protocol (fun _ => false) []).run switchedOnBefore).map (fun state =>
      (decide state.Quiescent, state.initialized, state.core.bluetoothPowerState,
        state.adapter .powered)) = some (true, true, .off, true) := by decide
  rcases Option.map_eq_some_iff.mp observed with ⟨state, ran, observed⟩
  simp only [Prod.mk.injEq, decide_eq_true_eq] at observed
  rcases observed with ⟨quiescent, initialized, power, powered⟩
  have same := agree _ _ _ state ran quiescent initialized
  rw [power, powered] at same
  cases same

end AdapterProtocol

end RaspberryPiService
