import Mathlib.Data.List.Induction
import RaspberryPiService.Common.NotificationCodec
import RaspberryPiService.HardwareManager.OfonoDBus
import RaspberryPiService.Transition.LastWrite
import RaspberryPiService.Transition.Runs

/-!
# The phonebook in the hardware manager

A sync clears `phonebook_`, pulls the contacts of the SIM and those of the phone, and tells
the core about each of them; the removal of a modem clears `phonebook_` as well. Calls are
shown under the names that `phonebook_` has for their numbers, and the client under those
that the core has been told, so the two should be the same.

All of it happens in handlers of `BluetoothWorker`, which runs them one after the other
and holds the mutex of `OfonoDBus` meanwhile. A sync is one step here, with the replies of
oFono left open: every method call may fail, and contacts may have any properties. Being
told means being handed to `sendMessageNoti`: that counts as sent here.
-/

namespace RaspberryPiService

/-- The value of a property of oFono. -/
inductive OfonoVariant where
  | string (value : String)
  | objectPaths (paths : List String)
  | other
deriving DecidableEq

/-- The dictionary that `GetProperties` replies with. -/
abbrev OfonoProperties : Type := List (String × OfonoVariant)

/--
What a pull of contacts is replied: the properties of the phonebook, and those of each
contact by its place in the listing. A call that fails has no reply.
-/
structure PhonebookReplies where
  properties : Option OfonoProperties
  contact : Nat → String → Option OfonoProperties

/-- A notification to the core. -/
structure HardwareNoti where
  cmd : DBusCommand
  isSuccess : Bool
  info : DBusDataInfo
deriving DecidableEq

namespace OfonoDBus

/-- One round of the loop over the properties of a contact. -/
def readContactProperty (info : DBusDataInfo) : String × OfonoVariant → DBusDataInfo
  | (key, .string value) =>
      if key = "Name" then info.set .contactName value
      else if key = "Mobile" then info.set .contactNumber value
      else info
  | _ => info

def getOfonoContactDetails (ofonoDBus : OfonoDBus) (reply : Option OfonoProperties) :
    OfonoDBus × List HardwareNoti :=
  match reply with
  | none => (ofonoDBus, [])
  | some properties =>
      let info := properties.foldl readContactProperty .init
      if info.get .contactName ≠ "" ∧ info.get .contactNumber ≠ "" then
        ({ ofonoDBus with
            phonebook :=
              ofonoDBus.phonebook.insert (info.get .contactNumber) (info.get .contactName) },
          [⟨.pbapPhonebookPullNoti, true, info.set .message "New contact pulled."⟩])
      else (ofonoDBus, [])

/-- The loop over the paths of the contacts, with the place of the first of them. -/
def getListedContacts (contact : Nat → String → Option OfonoProperties) (place : Nat)
    (ofonoDBus : OfonoDBus) : List String → OfonoDBus × List HardwareNoti
  | [] => (ofonoDBus, [])
  | path :: paths =>
      let (ofonoDBus, pulled) := ofonoDBus.getOfonoContactDetails (contact place path)
      let (ofonoDBus, later) := getListedContacts contact (place + 1) ofonoDBus paths
      (ofonoDBus, pulled ++ later)

/-- The loop over the properties ends with the first `Contacts`. -/
def getOfonoContacts (ofonoDBus : OfonoDBus) (replies : PhonebookReplies) :
    OfonoDBus × List HardwareNoti :=
  match replies.properties with
  | none => (ofonoDBus, [])
  | some properties =>
      match properties.lookup "Contacts" with
      | some (.objectPaths paths) => getListedContacts replies.contact 0 ofonoDBus paths
      | _ => (ofonoDBus, [])

def startNoti : HardwareNoti where
  cmd := .pbapPhonebookPullStartNoti
  isSuccess := true
  info := .set .init .message "Starting phonebook sync. Clear existing contacts."

def endNoti : HardwareNoti where
  cmd := .pbapPhonebookPullEndNoti
  isSuccess := true
  info := .set .init .message "Phonebook sync complete."

/-- The storage is set to "sm" and then to "me", whether oFono accepts that or not. -/
def syncAllOfonoContacts (ofonoDBus : OfonoDBus) (sm me : PhonebookReplies) :
    OfonoDBus × List HardwareNoti :=
  let ofonoDBus := { ofonoDBus with phonebook := ∅ }
  let (ofonoDBus, ofSim) := ofonoDBus.getOfonoContacts sm
  let (ofonoDBus, ofPhone) := ofonoDBus.getOfonoContacts me
  (ofonoDBus, startNoti :: ofSim ++ ofPhone ++ [endNoti])

end OfonoDBus

section Contacts

/-- The last text that a contact has under a key. -/
def OfonoProperties.lastString (properties : OfonoProperties) (key : String) : String :=
  ((properties.filterMap fun
    | (other, .string value) => if other = key then some value else none
    | _ => none).getLast?).getD ""

/-- The number and the name of a contact that has both. -/
def OfonoProperties.entry? (properties : OfonoProperties) : Option (String × String) :=
  if properties.lastString "Name" ≠ "" ∧ properties.lastString "Mobile" ≠ "" then
    some (properties.lastString "Mobile", properties.lastString "Name")
  else none

/-- The contacts with a number and a name, in the order of the listing. -/
def PhonebookReplies.entries (replies : PhonebookReplies) : List (String × String) :=
  match replies.properties.bind (·.lookup "Contacts") with
  | some (.objectPaths paths) =>
      (paths.zipIdx).filterMap fun (path, place) =>
        (replies.contact place path).bind OfonoProperties.entry?
  | _ => []

/-- The fields of a contact. -/
def contactInfo (name number : String) : DBusDataInfo :=
  (DBusDataInfo.init.set .contactName name).set .contactNumber number

/-- The notification about a contact. -/
def pullNoti (entry : String × String) : HardwareNoti where
  cmd := .pbapPhonebookPullNoti
  isSuccess := true
  info := (contactInfo entry.2 entry.1).set .message "New contact pulled."

/-- What a notification has the client do with its contacts. -/
def HardwareNoti.write? (noti : HardwareNoti) : Option (MapWrite String String) :=
  match noti.cmd with
  | .pbapPhonebookPullStartNoti | .pbapSessionEndNoti => some .clear
  | .pbapPhonebookPullNoti =>
      some (.assign (noti.info.get .contactNumber) (noti.info.get .contactName))
  | _ => none

/--
The name in the last `PBAP_PHONEBOOK_PULL_NOTI` with the number since the latest
`PBAP_PHONEBOOK_PULL_START_NOTI` or `PBAP_SESSION_END_NOTI`, empty if there is none.
-/
def nameTold (sent : List HardwareNoti) (number : String) : String :=
  (MapWrite.latest (sent.filterMap HardwareNoti.write?) number).getD ""

variable {properties : OfonoProperties}

/-- What one property makes of the text under a key. -/
def readString (key : String) (text : String) : String × OfonoVariant → String
  | (other, .string value) => if other = key then value else text
  | _ => text

theorem lastString_eq_foldl (properties : OfonoProperties) (key : String) :
    properties.lastString key = properties.foldl (readString key) "" := by
  induction properties using List.reverseRecOn with
  | nil => rfl
  | append_singleton properties property ih =>
      rw [List.foldl_concat, ← ih, OfonoProperties.lastString, List.filterMap_append]
      rcases property with ⟨other, value | paths | _⟩
      · by_cases same : other = key
        · simp [readString, same]
        · simp [readString, same, OfonoProperties.lastString]
      · simp [readString, OfonoProperties.lastString]
      · simp [readString, OfonoProperties.lastString]

theorem set_contactInfo_name (name number value : String) :
    (contactInfo name number).set .contactName value = contactInfo value number := by
  simp only [contactInfo, DBusDataInfo.set]
  rw [Vector.set_comm _ _ (by decide), Vector.set_set]

theorem set_contactInfo_number (name number value : String) :
    (contactInfo name number).set .contactNumber value = contactInfo name value := by
  simp only [contactInfo, DBusDataInfo.set, Vector.set_set]

theorem readContactProperty_contactInfo (name number : String)
    (property : String × OfonoVariant) :
    OfonoDBus.readContactProperty (contactInfo name number) property =
      contactInfo (readString "Name" name property) (readString "Mobile" number property) := by
  rcases property with ⟨key, value | paths | _⟩
  · simp only [OfonoDBus.readContactProperty, readString]
    split
    · next isName => rw [if_neg (by rw [isName]; decide), set_contactInfo_name]
    · split
      · rw [set_contactInfo_number]
      · rfl
  · rfl
  · rfl

/-- The loop over the properties leaves the last texts in the fields. -/
theorem foldl_readContactProperty (properties : OfonoProperties) :
    properties.foldl OfonoDBus.readContactProperty .init =
      contactInfo (properties.lastString "Name") (properties.lastString "Mobile") := by
  have both : ∀ (properties : OfonoProperties) (name number : String),
      properties.foldl OfonoDBus.readContactProperty (contactInfo name number) =
        contactInfo (properties.foldl (readString "Name") name)
          (properties.foldl (readString "Mobile") number) := by
    intro properties
    induction properties with
    | nil => exact fun _ _ => rfl
    | cons property properties ih =>
        intro name number
        simp only [List.foldl_cons, readContactProperty_contactInfo]
        exact ih _ _
  have noContact : DBusDataInfo.init = contactInfo "" "" := by decide +kernel
  rw [noContact, both, lastString_eq_foldl, lastString_eq_foldl]

@[simp] theorem contactInfo_name (name number : String) :
    (contactInfo name number).get .contactName = name := by
  simp [contactInfo, DBusDataInfo.get_set_of_ne]

@[simp] theorem contactInfo_number (name number : String) :
    (contactInfo name number).get .contactNumber = number := by
  simp [contactInfo]

@[simp] theorem write?_pullNoti (entry : String × String) :
    (pullNoti entry).write? = some (.assign entry.1 entry.2) := by
  simp [HardwareNoti.write?, pullNoti, DBusDataInfo.get_set_of_ne]

end Contacts

namespace OfonoDBus

/-- The phonebook with some more entries. -/
def withEntries (ofonoDBus : OfonoDBus) (entries : List (String × String)) : OfonoDBus :=
  { ofonoDBus with
    phonebook := entries.foldl (fun phonebook entry => phonebook.insert entry.1 entry.2)
      ofonoDBus.phonebook }

theorem getOfonoContactDetails_eq (ofonoDBus : OfonoDBus) (reply : Option OfonoProperties) :
    ofonoDBus.getOfonoContactDetails reply =
      let entries := (reply.bind OfonoProperties.entry?).toList
      (ofonoDBus.withEntries entries, entries.map pullNoti) := by
  rcases reply with - | properties
  · rfl
  · simp only [getOfonoContactDetails, foldl_readContactProperty, contactInfo_name,
      contactInfo_number, Option.bind_some, OfonoProperties.entry?]
    split
    · rfl
    · rfl

theorem getListedContacts_eq (contact : Nat → String → Option OfonoProperties)
    (paths : List String) (place : Nat) (ofonoDBus : OfonoDBus) :
    getListedContacts contact place ofonoDBus paths =
      let entries := (paths.zipIdx place).filterMap fun (path, place) =>
        (contact place path).bind OfonoProperties.entry?
      (ofonoDBus.withEntries entries, entries.map pullNoti) := by
  induction paths generalizing place ofonoDBus with
  | nil => rfl
  | cons path paths ih =>
      simp only [getListedContacts, getOfonoContactDetails_eq, ih, List.zipIdx_cons]
      cases found : (contact place path).bind OfonoProperties.entry? with
      | none => simp [found, withEntries]
      | some entry => simp [found, withEntries]

/-- A pull stores the contacts of the listing, and reports them in the same order. -/
theorem getOfonoContacts_eq (ofonoDBus : OfonoDBus) (replies : PhonebookReplies) :
    ofonoDBus.getOfonoContacts replies =
      (ofonoDBus.withEntries replies.entries, replies.entries.map pullNoti) := by
  rcases replies with ⟨- | properties, contact⟩
  · rfl
  · simp only [getOfonoContacts, PhonebookReplies.entries, Option.bind_some]
    split
    · exact getListedContacts_eq contact _ 0 ofonoDBus
    · rfl

theorem syncAllOfonoContacts_eq (ofonoDBus : OfonoDBus) (sm me : PhonebookReplies) :
    ofonoDBus.syncAllOfonoContacts sm me =
      (({ ofonoDBus with phonebook := ∅ } : OfonoDBus).withEntries (sm.entries ++ me.entries),
        startNoti :: (sm.entries ++ me.entries).map pullNoti ++ [endNoti]) := by
  simp only [syncAllOfonoContacts, getOfonoContacts_eq, withEntries, List.foldl_append,
    List.map_append, List.append_assoc, List.cons_append]

end OfonoDBus

def CallNotiCommand.dbusCommand : CallNotiCommand → DBusCommand
  | .incomingCallNoti => .incomingCallNoti
  | .outgoingCallNoti => .outgoingCallNoti
  | .callStateChangedNoti => .callStateChangedNoti
  | .callEndedNoti => .callEndedNoti

def CallReplyCommand.dbusCommand : CallReplyCommand → DBusCommand
  | .dialCallNoti => .dialCallNoti
  | .answerCallNoti => .answerCallNoti
  | .hangupCallNoti => .hangupCallNoti
  | .pbapSessionEndNoti => .pbapSessionEndNoti

def CallNoti.toHardwareNoti : CallNoti → HardwareNoti
  | .call command isSuccess info =>
      { cmd := command.dbusCommand
        isSuccess
        info := (((DBusDataInfo.init.set .message info.message).set .callName info.name).set
          .callNumber info.number).set .callState info.state }
  | .reply command isSuccess message =>
      { cmd := command.dbusCommand, isSuccess, info := .set .init .message message }

/-- The part of the hardware manager that belongs to oFono, with what has been sent. -/
structure OfonoHost where
  ofonoDBus : OfonoDBus := {}
  sent : List HardwareNoti := []

namespace OfonoHost

/--
A signal comes, with the calls that oFono has then, or causes a sync. Other handlers and
threads send other notifications.
-/
inductive Action where
  | signal (signal : OfonoSignal) (calls : OfonoCalls)
  | sync (sm me : PhonebookReplies)
  | notify (noti : HardwareNoti)

def handleSignal (host : OfonoHost) (signal : OfonoSignal) (calls : OfonoCalls) : OfonoHost where
  ofonoDBus := (BluetoothWorker.dispatchMessage host.ofonoDBus calls signal).1
  sent := host.sent ++
    ((BluetoothWorker.dispatchMessage host.ofonoDBus calls signal).2.map
      CallNoti.toHardwareNoti).toList

def sync (host : OfonoHost) (sm me : PhonebookReplies) : OfonoHost where
  ofonoDBus := (host.ofonoDBus.syncAllOfonoContacts sm me).1
  sent := host.sent ++ (host.ofonoDBus.syncAllOfonoContacts sm me).2

/-- An object path is never empty. -/
def step (host : OfonoHost) : Action → Option OfonoHost
  | .signal (.modemAdded "") _ | .signal (.modemRemoved "") _ => none
  | .signal signal calls => some (host.handleSignal signal calls)
  | .sync sm me => some (host.sync sm me)
  | .notify noti =>
      if noti.write? = none then some { host with sent := host.sent ++ [noti] } else none

def protocol : System OfonoHost Action where
  init := {}
  step := step

variable {host next : OfonoHost}

theorem step_signal {signal : OfonoSignal} {calls : OfonoCalls}
    (stepped : host.step (.signal signal calls) = some next) :
    next = host.handleSignal signal calls := by
  unfold step at stepped
  split at stepped <;> simp_all

@[simp] theorem write?_call (command : CallNotiCommand) (isSuccess : Bool) (info : CallInfo) :
    (CallNoti.call command isSuccess info).toHardwareNoti.write? = none := by
  cases command <;> rfl

@[simp] theorem write?_sessionEnd (isSuccess : Bool) (message : String) :
    (CallNoti.reply .pbapSessionEndNoti isSuccess message).toHardwareNoti.write? =
      some .clear := rfl

/-- The phonebook is cleared by the removal of a modem, which is told, and by no other signal. -/
theorem dispatchMessage_phonebook (ofonoDBus : OfonoDBus) (calls : OfonoCalls)
    (signal : OfonoSignal) :
    let handled := BluetoothWorker.dispatchMessage ofonoDBus calls signal
    ((handled.2.map CallNoti.toHardwareNoti).toList.filterMap HardwareNoti.write? = [.clear] ∧
        handled.1.phonebook = ∅) ∨
      ((handled.2.map CallNoti.toHardwareNoti).toList.filterMap HardwareNoti.write? = [] ∧
        handled.1.phonebook = ofonoDBus.phonebook) := by
  cases signal with
  | modemAdded modemPath => exact Or.inr ⟨rfl, rfl⟩
  | modemRemoved modemPath => exact Or.inl ⟨rfl, rfl⟩
  | callAdded callPath =>
      right
      simp only [BluetoothWorker.dispatchMessage, BluetoothWorker.handleCallAdded]
      split_ifs <;> simp [OfonoDBus.addActiveCallPath]
  | callRemoved callPath =>
      right
      simp only [BluetoothWorker.dispatchMessage, BluetoothWorker.handleCallRemoved]
      split_ifs <;> simp [OfonoDBus.removeActiveCallPath]
  | propertyChanged callPath key =>
      right
      simp only [BluetoothWorker.dispatchMessage, BluetoothWorker.handleVoiceCallPropertyChanged]
      split_ifs <;> simp

/-- The phonebook holds what the notifications say. -/
def Mirrors (host : OfonoHost) : Prop :=
  MapWrite.Reflects host.ofonoDBus.phonebook (host.sent.filterMap HardwareNoti.write?)

theorem Mirrors.handleSignal (mirrors : host.Mirrors) (signal : OfonoSignal)
    (calls : OfonoCalls) : (host.handleSignal signal calls).Mirrors := by
  simp only [Mirrors, OfonoHost.handleSignal, List.filterMap_append]
  rcases dispatchMessage_phonebook host.ofonoDBus calls signal with
    ⟨writes, phonebook⟩ | ⟨writes, phonebook⟩
  · rw [writes, phonebook]
    exact MapWrite.Reflects.apply mirrors .clear
  · rw [writes, phonebook, List.append_nil]
    exact mirrors

/-- A sync clears the phonebook and tells so, and tells each entry that it stores. -/
theorem Mirrors.sync (mirrors : host.Mirrors) (sm me : PhonebookReplies) :
    (host.sync sm me).Mirrors := by
  have cleared := MapWrite.Reflects.apply mirrors .clear
  have filled := cleared.assignAll (sm.entries ++ me.entries)
  have writes : ∀ entries : List (String × String),
      (OfonoDBus.startNoti :: entries.map pullNoti ++ [OfonoDBus.endNoti]).filterMap
          HardwareNoti.write? =
        .clear :: entries.map fun entry => .assign entry.1 entry.2 := by
    intro entries
    have pulls : (entries.map pullNoti).filterMap HardwareNoti.write? =
        entries.map fun entry => .assign entry.1 entry.2 := by
      rw [List.filterMap_map]
      exact List.filterMap_eq_map_iff_forall_eq_some.mpr fun entry _ => write?_pullNoti entry
    have start : OfonoDBus.startNoti.write? = some .clear := rfl
    have done : OfonoDBus.endNoti.write? = none := rfl
    rw [List.filterMap_append, List.filterMap_cons_some start, pulls]
    simp [done]
  simp only [Mirrors, OfonoHost.sync, OfonoDBus.syncAllOfonoContacts_eq, List.filterMap_append,
    writes, OfonoDBus.withEntries]
  simpa only [MapWrite.apply, List.append_assoc, List.singleton_append] using filled

theorem Mirrors.step {action : Action} (mirrors : host.Mirrors)
    (stepped : host.step action = some next) : next.Mirrors := by
  cases action with
  | signal signal calls =>
      rw [step_signal stepped]
      exact mirrors.handleSignal signal calls
  | sync sm me =>
      cases stepped
      exact mirrors.sync sm me
  | notify noti =>
      simp only [OfonoHost.step, Option.ite_none_right_eq_some, Option.some.injEq] at stepped
      rcases stepped with ⟨silent, rfl⟩
      simpa [Mirrors, List.filterMap_append, silent] using mirrors

/--
Between two handlers the phonebook has for every number the name that the client has been
told last, and a sync sends its start, its contacts in their order, and its end.
-/
theorem phonebook_mirrors :
    (∀ schedule final, protocol.run schedule = some final →
      ∀ number, final.ofonoDBus.findNameByNumber number = nameTold final.sent number) ∧
    ∀ (ofonoDBus : OfonoDBus) (sm me : PhonebookReplies),
      (ofonoDBus.syncAllOfonoContacts sm me).2 =
        OfonoDBus.startNoti :: (sm.entries ++ me.entries).map pullNoti ++ [OfonoDBus.endNoti] := by
  refine ⟨?_, ?_⟩
  · intro schedule final ran number
    have initial : protocol.init.Mirrors := MapWrite.reflects_empty
    have mirrors : final.Mirrors := System.invariant_of_run Mirrors initial
      (fun _ _ _ mirrors stepped => mirrors.step stepped) ran
    rw [OfonoDBus.findNameByNumber, mirrors number, nameTold]
  · intro ofonoDBus sm me
    rw [OfonoDBus.syncAllOfonoContacts_eq]

/-- A listing with one contact. -/
def office : PhonebookReplies where
  properties := some [("Contacts", .objectPaths ["/phonebook/office"])]
  contact := fun _ _ => some [("Name", .string "Office"), ("Mobile", .string "0123")]

/-- A storage that oFono does not list. -/
def unlisted : PhonebookReplies where
  properties := none
  contact := fun _ _ => none

theorem phonebook_mirrors_office :
    (({} : OfonoHost).sync office unlisted).ofonoDBus.findNameByNumber "0123" =
        nameTold (({} : OfonoHost).sync office unlisted).sent "0123" ∧
      (({} : OfonoDBus).syncAllOfonoContacts office unlisted).2 =
        OfonoDBus.startNoti :: (office.entries ++ unlisted.entries).map pullNoti ++
          [OfonoDBus.endNoti] :=
  ⟨phonebook_mirrors.1 [.sync office unlisted] _ rfl "0123",
    phonebook_mirrors.2 {} office unlisted⟩

end OfonoHost

end RaspberryPiService
