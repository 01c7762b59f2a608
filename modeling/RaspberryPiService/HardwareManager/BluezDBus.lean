import RaspberryPiService.HardwareManager.BluetoothAgent

/-!
# Pairing through BlueZ

`BluezDBus::pairDevice` calls `Pair` on the device's object and blocks until the call
returns. An error is reported to the core at once; after a success the result is left to
the signals that BlueZ sends about the device.
-/

namespace RaspberryPiService

/-- The data of a `PAIR_BTDEVICE_NOTI`. -/
structure PairNoti where
  isSuccess : Bool
  address : String
  message : String
deriving DecidableEq

namespace BluezDBus

def deviceAddressToObjectPath (adapterPath address : String) : String :=
  adapterPath ++ "/dev_" ++
    String.ofList (address.toList.map fun char => if char = ':' then '_' else char)

/-- What `pairDevice` sends when there is no message to call `Pair` with. -/
def pairNotCreated (address : String) : PairNoti where
  isSuccess := false
  address
  message := "Failed to create D-Bus message for Pair"

/-- What `pairDevice` sends once `Pair` has returned, with an error or without. -/
def pairReturned (address : String) : Option String → Option PairNoti
  | some error => some { isSuccess := false, address,
                         message := "Error pairing with device: " ++ error }
  | none => none

end BluezDBus

end RaspberryPiService
