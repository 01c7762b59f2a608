import RaspberryPiService.HardwareManager.OfonoDBus

/-!
# The adapter in the hardware manager

The adapter of BlueZ has a `Powered` and a `Discovering`. The core commands either of
them to be switched on or off, and mirrors both. A command is a blocking method call: an
error is reported to the core at once, after a success the result is left to the signal
that BlueZ sends about the change. `initializeAdapter` reports both properties as they
are.

All of this happens under the recursive mutex of `BluezDBus`, from the entry of a command
until its reply has been handled; `BluetoothWorker` handles the signals under the same
mutex.
-/

namespace RaspberryPiService

/-- The properties of the adapter that the core mirrors. -/
inductive AdapterProperty where
  | powered
  | discovering
deriving DecidableEq

abbrev Adapter : Type := AdapterProperty → Bool

/-- The commands of the core about the adapter. -/
inductive AdapterCommand where
  | startScanBTDevice
  | stopScanBTDevice
  | bluetoothPowerOn
  | bluetoothPowerOff
deriving DecidableEq

namespace AdapterCommand

def property : AdapterCommand → AdapterProperty
  | startScanBTDevice | stopScanBTDevice => .discovering
  | bluetoothPowerOn | bluetoothPowerOff => .powered

/-- The value that the command asks for. -/
def target : AdapterCommand → Bool
  | startScanBTDevice | bluetoothPowerOn => true
  | stopScanBTDevice | bluetoothPowerOff => false

/-- The command that asks for a value of a property. -/
def asking : AdapterProperty → Bool → AdapterCommand
  | .discovering, true => startScanBTDevice
  | .discovering, false => stopScanBTDevice
  | .powered, true => bluetoothPowerOn
  | .powered, false => bluetoothPowerOff

@[simp] theorem property_asking (property : AdapterProperty) (value : Bool) :
    (asking property value).property = property := by
  cases property <;> cases value <;> rfl

@[simp] theorem target_asking (property : AdapterProperty) (value : Bool) :
    (asking property value).target = value := by
  cases property <;> cases value <;> rfl

end AdapterCommand

/-- The notification that belongs to a command, with the data the core reads from it. -/
structure AdapterNoti where
  command : AdapterCommand
  isSuccess : Bool
  message : String
deriving DecidableEq

/-- The value that the core takes the property to have. -/
def AdapterNoti.told (noti : AdapterNoti) : Bool :=
  if noti.isSuccess then noti.command.target else !noti.command.target

namespace BluezDBus

def startDiscovery : MethodOutcome → Option AdapterNoti
  | .notCreated => some
      { command := .startScanBTDevice
        isSuccess := false
        message := "Failed to create D-Bus message for StartDiscovery" }
  | .error error => some
      { command := .startScanBTDevice
        isSuccess := false
        message := "Error starting Bluetooth discovery: " ++ error }
  | .success => none

def stopDiscovery : MethodOutcome → Option AdapterNoti
  | .notCreated => some
      { command := .stopScanBTDevice
        isSuccess := false
        message := "Failed to create D-Bus message for StopDiscovery" }
  | .error error => some
      { command := .stopScanBTDevice
        isSuccess := false
        message := "Error stopping Bluetooth discovery: " ++ error }
  | .success => none

/-- Without a message there is nothing but a log entry, unlike in the discovery commands. -/
def setPower (on : Bool) : MethodOutcome → Option AdapterNoti
  | .notCreated => none
  | .error error => some
      { command := if on then .bluetoothPowerOn else .bluetoothPowerOff
        isSuccess := false
        message := "Error setting adapter power: " ++ error }
  | .success => none

/-- `MainWorker::processEvent` for a command, up to what is sent once its outcome is known. -/
def execute : AdapterCommand → MethodOutcome → Option AdapterNoti
  | .startScanBTDevice => startDiscovery
  | .stopScanBTDevice => stopDiscovery
  | .bluetoothPowerOn => setPower true
  | .bluetoothPowerOff => setPower false

def onOff (value : Bool) : String :=
  if value then "ON" else "OFF"

/-- What `parseManagedObjects` sends about the adapter. -/
def parseManagedObjects (adapter : Adapter) : List AdapterNoti :=
  [{ command := .asking .powered (adapter .powered)
     isSuccess := true
     message := "Initial adapter power state is " ++ onOff (adapter .powered) },
   { command := .asking .discovering (adapter .discovering)
     isSuccess := true
     message := "Initial adapter discovery state is " ++ onOff (adapter .discovering) }]

@[simp] theorem execute_success (command : AdapterCommand) : execute command .success = none := by
  cases command <;> rfl

/-- A failed command is reported as the opposite of what it asked for. -/
theorem told_execute {command : AdapterCommand} {outcome : MethodOutcome} {noti : AdapterNoti}
    (sent : execute command outcome = some noti) :
    noti.command = command ∧ noti.told = !command.target := by
  cases command <;> cases outcome <;> cases sent <;> exact ⟨rfl, rfl⟩

theorem exists_execute_error (command : AdapterCommand) (error : String) :
    ∃ noti, execute command (.error error) = some noti := by
  cases command <;> exact ⟨_, rfl⟩

end BluezDBus

namespace BluetoothWorker

/-- `handlePropertiesChanged` for one changed property of the adapter. -/
def handleAdapterPropertyChanged (property : AdapterProperty) (value : Bool) : AdapterNoti where
  command := .asking property value
  isSuccess := true
  message :=
    (match property with
      | .powered => "Adapter power state changed to "
      | .discovering => "Adapter discovery state changed to ") ++ BluezDBus.onOff value

theorem told_handleAdapterPropertyChanged (property : AdapterProperty) (value : Bool) :
    (handleAdapterPropertyChanged property value).told = value := by
  simp [AdapterNoti.told, handleAdapterPropertyChanged]

end BluetoothWorker

end RaspberryPiService
