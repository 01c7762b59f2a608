import Mathlib.Data.Set.Function
import RaspberryPiService.Common.Occurrence
import RaspberryPiService.HardwareManager.BluezDBus
import RaspberryPiService.HardwareManager.Phonebook

/-!
# Device addresses and object paths

BlueZ names a device by an object path, the core by its address. `BluezDBus` makes a path
out of an address, and two handlers take the address out of a path again: the agent looks
for the last `dev_` in it, `handleInterfacesRemoved` for the first. All three of them
replace colons by underscores or back, wherever they are.
-/

namespace RaspberryPiService

namespace BluezDBus

def bluezDeviceInterface : String := "org.bluez.Device1"

end BluezDBus

namespace BluetoothWorker

open Occurrence

/-- The address in the path of a removed device, if there is a `dev_` in it. -/
def removedAddress (objectPath : String) : Option String :=
  (afterFirst "dev_".toList objectPath.toList).map fun found =>
    String.ofList (found.map fun char => if char = '_' then ':' else char)

def handleInterfacesRemoved (objectPath : String) (interfaces : List String) :
    List HardwareNoti :=
  interfaces.flatMap fun interfaceName =>
    if interfaceName = BluezDBus.bluezDeviceInterface then
      ((removedAddress objectPath).map fun address =>
        { cmd := .scanningBTDeviceDeleteNoti
          isSuccess := true
          info := (DBusDataInfo.init.set .btDeviceAddress address).set .message
            "Bluetooth device removed from scan." }).toList
    else []

end BluetoothWorker

/-- An address as BlueZ has them: hexadecimal digits and colons. -/
def IsDeviceAddress (address : String) : Prop :=
  address ≠ "" ∧ ∀ char ∈ address.toList, char.isHexDigit ∨ char = ':'

instance (address : String) : Decidable (IsDeviceAddress address) :=
  inferInstanceAs (Decidable (_ ∧ _))

namespace BluezDBus

open Occurrence

variable {adapterPath address : String}

/-- The agent's search is the one for the last occurrence. -/
theorem afterLastDev_eq (chars : List Char) :
    BluetoothAgent.afterLastDev chars = afterLast "dev_".toList chars := by
  have four : "dev_".toList.length = 4 := by decide
  induction chars with
  | nil => rfl
  | cons first rest ih =>
      simp only [BluetoothAgent.afterLastDev, afterLast, ih, List.isPrefixOf_iff_prefix, four]
      cases afterLast "dev_".toList rest with
      | some found => rfl
      | none => congr

def encodedAddress (address : String) : List Char :=
  address.toList.map fun char => if char = ':' then '_' else char

theorem toList_deviceAddressToObjectPath (adapterPath address : String) :
    (deviceAddressToObjectPath adapterPath address).toList =
      (adapterPath.toList ++ ['/']) ++ ("dev_".toList ++ encodedAddress address) := by
  simp [deviceAddressToObjectPath, encodedAddress]

/-- An address has no underscores, so every underscore in a path was a colon. -/
theorem decode_encodedAddress (isAddress : IsDeviceAddress address) :
    String.ofList ((encodedAddress address).map fun char => if char = '_' then ':' else char) =
      address := by
  have decoded : ∀ char ∈ address.toList,
      (if (if char = ':' then '_' else char) = '_' then ':' else
        if char = ':' then '_' else char) = char := by
    intro char member
    have plain : char ≠ '_' := by
      rintro rfl
      exact absurd (isAddress.2 '_' member) (by decide)
    by_cases colon : char = ':'
    · simp [colon]
    · simp [colon, plain]
  have same : (encodedAddress address).map (fun char => if char = '_' then ':' else char) =
      address.toList := by
    rw [encodedAddress, List.map_map]
    exact (List.map_congr_left decoded).trans (List.map_id _)
  rw [same, String.ofList_toList]

/-- No `dev_` begins before the one that is put in front of an address. -/
theorem dev_not_infix_before (plain : ¬ "dev_".toList <:+: adapterPath.toList) :
    ¬ "dev_".toList <:+: ((adapterPath.toList ++ ['/']) ++ "dev_".toList).dropLast := by
  have shorter : ((adapterPath.toList ++ ['/']) ++ "dev_".toList).dropLast =
      adapterPath.toList ++ '/' :: "dev".toList := by
    simp
  rw [shorter, infix_append_cons_iff (by decide)]
  rintro (inAdapter | inDev)
  · exact plain inAdapter
  · exact absurd inDev (by decide)

/-- Nor does one begin after it: `v` is not a hexadecimal digit. -/
theorem dev_not_infix_after (isAddress : IsDeviceAddress address) :
    ¬ "dev_".toList <:+: ("dev_".toList ++ encodedAddress address).tail := by
  have later : ("dev_".toList ++ encodedAddress address).tail =
      'e' :: 'v' :: '_' :: encodedAddress address := by
    simp
  have digits : 'v' ∉ encodedAddress address := by
    intro member
    rcases List.mem_map.mp member with ⟨char, inAddress, isV⟩
    split at isV
    · cases isV
    · subst isV
      exact absurd (isAddress.2 'v' inAddress) (by decide)
  rw [later]
  intro occurs
  have inEncoded : "dev_".toList <:+: encodedAddress address := by
    simpa [List.infix_cons_iff] using occurs
  exact digits (inEncoded.subset (by decide))

theorem removedAddress_deviceAddressToObjectPath
    (plain : ¬ "dev_".toList <:+: adapterPath.toList) (isAddress : IsDeviceAddress address) :
    BluetoothWorker.removedAddress (deviceAddressToObjectPath adapterPath address) =
      some address := by
  have found : afterFirst "dev_".toList (deviceAddressToObjectPath adapterPath address).toList =
      some (encodedAddress address) := by
    rw [toList_deviceAddressToObjectPath]
    exact afterFirst_append (dev_not_infix_before plain)
  rw [BluetoothWorker.removedAddress, found, Option.map_some, decode_encodedAddress isAddress]

theorem deviceAddress_deviceAddressToObjectPath (isAddress : IsDeviceAddress address) :
    BluetoothAgent.deviceAddress (deviceAddressToObjectPath adapterPath address) = address := by
  have found : BluetoothAgent.afterLastDev
      (deviceAddressToObjectPath adapterPath address).toList = some (encodedAddress address) := by
    rw [afterLastDev_eq, toList_deviceAddressToObjectPath]
    exact afterLast_append (dev_not_infix_after isAddress)
  rw [BluetoothAgent.deviceAddress, found]
  exact decode_encodedAddress isAddress

theorem announced_handleInterfacesRemoved (plain : ¬ "dev_".toList <:+: adapterPath.toList)
    (isAddress : IsDeviceAddress address) {interfaces : List String} {noti : HardwareNoti}
    (sent : noti ∈ BluetoothWorker.handleInterfacesRemoved
      (deviceAddressToObjectPath adapterPath address) interfaces) :
    noti.info.get .btDeviceAddress = address := by
  rcases List.mem_flatMap.mp sent with ⟨interfaceName, -, sent⟩
  split at sent
  · rw [removedAddress_deviceAddressToObjectPath plain isAddress] at sent
    simp only [Option.map_some, Option.toList_some, List.mem_singleton] at sent
    subst sent
    rw [DBusDataInfo.get_set_of_ne _ _ (by decide), DBusDataInfo.get_set]
  · simp at sent

/--
The address of a device survives its way through the object path, whichever handler takes
it out again; hence different addresses have different paths.
-/
theorem deviceAddress_survives (plain : ¬ "dev_".toList <:+: adapterPath.toList) :
    (∀ address, IsDeviceAddress address →
      BluetoothWorker.removedAddress (deviceAddressToObjectPath adapterPath address) =
          some address ∧
        BluetoothAgent.deviceAddress (deviceAddressToObjectPath adapterPath address) = address) ∧
    Set.InjOn (deviceAddressToObjectPath adapterPath) {address | IsDeviceAddress address} ∧
    ∀ path ∈ deviceAddressToObjectPath adapterPath '' {address | IsDeviceAddress address},
      BluetoothWorker.removedAddress path = some (BluetoothAgent.deviceAddress path) := by
  refine ⟨fun address isAddress => ⟨?_, ?_⟩, ?_, ?_⟩
  · exact removedAddress_deviceAddressToObjectPath plain isAddress
  · exact deviceAddress_deviceAddressToObjectPath isAddress
  · intro address isAddress other otherIsAddress same
    have decoded := congrArg BluetoothAgent.deviceAddress same
    rwa [deviceAddress_deviceAddressToObjectPath isAddress,
      deviceAddress_deviceAddressToObjectPath otherIsAddress] at decoded
  · rintro path ⟨address, isAddress, rfl⟩
    rw [removedAddress_deviceAddressToObjectPath plain isAddress,
      deviceAddress_deviceAddressToObjectPath isAddress]

theorem deviceAddress_survives_hci0 :
    (∀ address, IsDeviceAddress address →
      BluetoothWorker.removedAddress (deviceAddressToObjectPath "/org/bluez/hci0" address) =
          some address ∧
        BluetoothAgent.deviceAddress (deviceAddressToObjectPath "/org/bluez/hci0" address) =
          address) ∧
    Set.InjOn (deviceAddressToObjectPath "/org/bluez/hci0") {address | IsDeviceAddress address} ∧
    ∀ path ∈ deviceAddressToObjectPath "/org/bluez/hci0" ''
        {address | IsDeviceAddress address},
      BluetoothWorker.removedAddress path = some (BluetoothAgent.deviceAddress path) :=
  deviceAddress_survives (by decide)

end BluezDBus

end RaspberryPiService
