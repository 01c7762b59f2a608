import RaspberryPiService.HardwareManager.InitializeAdapter

/-!
# The call history in the hardware manager

When the modem has gone online, the worker pulls the contacts and then the calls that were
dialed, received and missed; it pulls the calls again when oFono counts another one. A call
is told with the name that `phonebook_` has for its number at that time. So are the calls
that come and go, and clients show the names that they are told.

A pull is one step here, as a sync of the contacts is, and the replies of oFono are left
open. Here too, what is handed to `sendMessageNoti` counts as sent.
-/

namespace RaspberryPiService

/--
What a pull of one type of calls is replied: the elements of the array with their object
paths, if they begin with one, and the properties of each call by its place.
-/
structure HistoryReplies where
  history : Option (List (Option String))
  details : Nat → String → Option OfonoProperties

namespace OfonoDBus

/-- One round of the loop over the properties of a call, next to the `number`. -/
def readCallProperty (read : String × DBusDataInfo) :
    String × OfonoVariant → String × DBusDataInfo
  | (key, .string value) =>
      if key = "LineIdentification" then (value, read.2.set .callHistoryNumber value)
      else if key = "StartTime" then (read.1, read.2.set .callHistoryDatetime value)
      else read
  | _ => read

def getOfonoCallDetails (ofonoDBus : OfonoDBus) (type : String)
    (reply : Option OfonoProperties) : List HardwareNoti :=
  match reply with
  | none => []
  | some properties =>
      let (number, info) :=
        properties.foldl readCallProperty ("", DBusDataInfo.init.set .callHistoryType type)
      if info.get .callHistoryNumber ≠ "" then
        let name := ofonoDBus.findNameByNumber number
        let info := info.set .callHistoryName (if name = "" then "Unknown" else name)
        [⟨.callHistoryPullNoti, true, info.set .message "New call history item pulled."⟩]
      else []

def maxHistoryItems : Nat := 50

/-- The loop over the array, which counts every element. -/
def getListedCalls (ofonoDBus : OfonoDBus) (type : String)
    (details : Nat → String → Option OfonoProperties) (count : Nat) :
    List (Option String) → List HardwareNoti
  | [] => []
  | path :: paths =>
      if count + 1 > maxHistoryItems then []
      else
        (match path with
        | some callPath => ofonoDBus.getOfonoCallDetails type (details count callPath)
        | none => []) ++ getListedCalls ofonoDBus type details (count + 1) paths

def getOfonoCallHistory (ofonoDBus : OfonoDBus) (type : String) (replies : HistoryReplies) :
    List HardwareNoti :=
  match replies.history with
  | none => []
  | some paths => ofonoDBus.getListedCalls type replies.details 0 paths

def historyStartNoti : HardwareNoti where
  cmd := .callHistoryPullStartNoti
  isSuccess := true
  info := .set .init .message "Starting call history sync. Clear existing history."

def historyEndNoti : HardwareNoti where
  cmd := .callHistoryPullEndNoti
  isSuccess := true
  info := .set .init .message "Call history sync complete."

/-- The replies come by type. -/
def syncAllOfonoCallHistory (ofonoDBus : OfonoDBus) (replies : String → HistoryReplies) :
    List HardwareNoti :=
  historyStartNoti :: ofonoDBus.getOfonoCallHistory "dialed" (replies "dialed") ++
    ofonoDBus.getOfonoCallHistory "received" (replies "received") ++
    ofonoDBus.getOfonoCallHistory "missed" (replies "missed") ++ [historyEndNoti]

end OfonoDBus

/-- The value of a property that has changed. -/
inductive OfonoChange where
  | boolean (value : Bool)
  | objectPaths (paths : List String)
  | other
deriving DecidableEq

/-- What oFono replies to the method calls of a handler. -/
structure OfonoReplies where
  calls : String → OfonoCalls
  sm : PhonebookReplies
  me : PhonebookReplies
  history : String → HistoryReplies

def BluezDBus.ofonoPhonebookInterface : String := "org.ofono.Phonebook"

def BluezDBus.ofonoCallHistoryInterface : String := "org.ofono.CallHistory"

namespace BluetoothWorker

open BluezDBus

variable (ofonoDBus : OfonoDBus) (replies : OfonoReplies)

/-- A modem that is powered on is also set online, which is only logged. -/
def handleModemChange (key : String) (value : OfonoChange) : OfonoDBus × List HardwareNoti :=
  match key, value with
  | "Online", .boolean true =>
      let (ofonoDBus, contacts) := ofonoDBus.syncAllOfonoContacts replies.sm replies.me
      (ofonoDBus, contacts ++ ofonoDBus.syncAllOfonoCallHistory replies.history)
  | _, _ => (ofonoDBus, [])

def handleOfonoPropertyChanged (iface key : String) (value : OfonoChange) :
    OfonoDBus × List HardwareNoti :=
  if iface = ofonoModemInterface then handleModemChange ofonoDBus replies key value
  else (ofonoDBus, [])

/-- The loop over the paths in `Calls`. -/
def handleListedCalls (ofonoDBus : OfonoDBus) : List String → OfonoDBus × List HardwareNoti
  | [] => (ofonoDBus, [])
  | callPath :: paths =>
      if callPath ∈ ofonoDBus.activeCallPaths then handleListedCalls ofonoDBus paths
      else
        let ofonoDBus := ofonoDBus.addActiveCallPath callPath
        let info := ofonoDBus.getVoiceCallProperties (replies.calls callPath) callPath
        let (final, later) := handleListedCalls ofonoDBus paths
        if info.state = "" then (final, later)
        else
          (final, CallNoti.toHardwareNoti (.call .callStateChangedNoti true
            { info with message := "New call detected, state: " ++ info.state }) :: later)

/-- One round of the loop over the changed properties. -/
def handleChangedProperty (iface key : String) (value : OfonoChange) :
    OfonoDBus × List HardwareNoti :=
  if iface = ofonoVoiceCallManagerInterface then
    match key, value with
    | "Calls", .objectPaths paths => handleListedCalls replies ofonoDBus paths
    | _, _ => (ofonoDBus, [])
  else if iface = ofonoModemInterface then handleModemChange ofonoDBus replies key value
  else if iface = ofonoPhonebookInterface then
    if key = "Contacts" then ofonoDBus.syncAllOfonoContacts replies.sm replies.me
    else (ofonoDBus, [])
  else if iface = ofonoCallHistoryInterface then
    if key = "DialedCount" ∨ key = "MissedCount" ∨ key = "ReceivedCount" then
      (ofonoDBus, ofonoDBus.syncAllOfonoCallHistory replies.history)
    else (ofonoDBus, [])
  else (ofonoDBus, [])

/-- Each change has its own replies. -/
def handleOfonoPropertiesChanged (ofonoDBus : OfonoDBus) (iface : String) :
    List (String × OfonoChange × OfonoReplies) → OfonoDBus × List HardwareNoti
  | [] => (ofonoDBus, [])
  | (key, value, replies) :: changes =>
      let (ofonoDBus, news) := handleChangedProperty ofonoDBus replies iface key value
      let (ofonoDBus, later) := handleOfonoPropertiesChanged ofonoDBus iface changes
      (ofonoDBus, news ++ later)

end BluetoothWorker

/-- What reaches the part of the worker that belongs to oFono. -/
inductive OfonoEvent where
  | signal (signal : OfonoSignal) (calls : OfonoCalls)
  | propertyChanged (iface key : String) (value : OfonoChange) (replies : OfonoReplies)
  | propertiesChanged (iface : String) (changes : List (String × OfonoChange × OfonoReplies))
  -- another handler or thread sends a notification
  | notify (noti : HardwareNoti)

/-- The name that a notification shows for a number is one of those told before. -/
def HardwareNoti.ShowsName (names : String → String) (noti : HardwareNoti) : Prop :=
  match noti.cmd with
  | .callHistoryPullNoti =>
      noti.info.get .callHistoryName =
        if names (noti.info.get .callHistoryNumber) = "" then "Unknown"
        else names (noti.info.get .callHistoryNumber)
  | .incomingCallNoti | .outgoingCallNoti | .callStateChangedNoti | .callEndedNoti =>
      noti.info.get .callName =
        if noti.info.get .callNumber = "" then "" else names (noti.info.get .callNumber)
  | _ => True

/-- A call of the history. -/
structure HistoryCall where
  type : String
  number : String
  dateTime : String
deriving DecidableEq

section Calls

variable {properties : OfonoProperties}

/-- The call of a reply with a number. -/
def OfonoProperties.historyCall? (properties : OfonoProperties) (type : String) :
    Option HistoryCall :=
  if properties.lastString "LineIdentification" ≠ "" then
    some ⟨type, properties.lastString "LineIdentification", properties.lastString "StartTime"⟩
  else none

/-- The calls among the first elements of the array that have a number. -/
def HistoryReplies.calls (replies : HistoryReplies) (type : String) : List HistoryCall :=
  ((replies.history.getD []).take OfonoDBus.maxHistoryItems).zipIdx.filterMap fun element =>
    (element.1.bind (replies.details element.2)).bind fun properties =>
      properties.historyCall? type

/-- The fields of a call. -/
def historyInfo (type number dateTime : String) : DBusDataInfo :=
  ((DBusDataInfo.init.set .callHistoryType type).set .callHistoryNumber number).set
    .callHistoryDatetime dateTime

/-- The notification about a call, with the name for its number. -/
def historyNoti (names : String → String) (call : HistoryCall) : HardwareNoti where
  cmd := .callHistoryPullNoti
  isSuccess := true
  info := ((historyInfo call.type call.number call.dateTime).set .callHistoryName
    (if names call.number = "" then "Unknown" else names call.number)).set .message
      "New call history item pulled."

theorem set_historyInfo_number (type number dateTime value : String) :
    (historyInfo type number dateTime).set .callHistoryNumber value =
      historyInfo type value dateTime := by
  simp only [historyInfo, DBusDataInfo.set]
  rw [Vector.set_comm _ _ (by decide), Vector.set_set]

theorem set_historyInfo_dateTime (type number dateTime value : String) :
    (historyInfo type number dateTime).set .callHistoryDatetime value =
      historyInfo type number value := by
  simp only [historyInfo, DBusDataInfo.set, Vector.set_set]

theorem readCallProperty_historyInfo (type number dateTime : String)
    (property : String × OfonoVariant) :
    OfonoDBus.readCallProperty (number, historyInfo type number dateTime) property =
      (readString "LineIdentification" number property,
        historyInfo type (readString "LineIdentification" number property)
          (readString "StartTime" dateTime property)) := by
  rcases property with ⟨key, value | paths | _⟩
  · simp only [OfonoDBus.readCallProperty, readString]
    split
    · next isNumber => rw [if_neg (by rw [isNumber]; decide), set_historyInfo_number]
    · split
      · rw [set_historyInfo_dateTime]
      · rfl
  · rfl
  · rfl

/-- The loop leaves the last texts in the fields, and the number in its variable. -/
theorem foldl_readCallProperty (properties : OfonoProperties) (type : String) :
    properties.foldl OfonoDBus.readCallProperty ("", DBusDataInfo.init.set .callHistoryType type) =
      (properties.lastString "LineIdentification",
        historyInfo type (properties.lastString "LineIdentification")
          (properties.lastString "StartTime")) := by
  have both : ∀ (properties : OfonoProperties) (number dateTime : String),
      properties.foldl OfonoDBus.readCallProperty (number, historyInfo type number dateTime) =
        (properties.foldl (readString "LineIdentification") number,
          historyInfo type (properties.foldl (readString "LineIdentification") number)
            (properties.foldl (readString "StartTime") dateTime)) := by
    intro properties
    induction properties with
    | nil => exact fun _ _ => rfl
    | cons property properties ih =>
        intro number dateTime
        simp only [List.foldl_cons, readCallProperty_historyInfo]
        exact ih _ _
  have noCall : DBusDataInfo.init.set .callHistoryType type = historyInfo type "" "" := by
    apply DBusDataInfo.eq_of_get
    intro field
    rw [historyInfo]
    by_cases isDate : field = .callHistoryDatetime
    · rw [isDate, DBusDataInfo.get_set, DBusDataInfo.get_set_of_ne _ _ (by decide)]
      decide +kernel
    · rw [DBusDataInfo.get_set_of_ne _ _ isDate]
      by_cases isNumber : field = .callHistoryNumber
      · rw [isNumber, DBusDataInfo.get_set, DBusDataInfo.get_set_of_ne _ _ (by decide)]
        decide +kernel
      · rw [DBusDataInfo.get_set_of_ne _ _ isNumber]
  rw [noCall, both, lastString_eq_foldl, lastString_eq_foldl]

@[simp] theorem historyInfo_number (type number dateTime : String) :
    (historyInfo type number dateTime).get .callHistoryNumber = number := by
  simp [historyInfo, DBusDataInfo.get_set_of_ne]

end Calls

namespace OfonoDBus

variable (ofonoDBus : OfonoDBus)

theorem getOfonoCallDetails_eq (type : String) (reply : Option OfonoProperties) :
    ofonoDBus.getOfonoCallDetails type reply =
      ((reply.bind fun properties => properties.historyCall? type).map
        (historyNoti ofonoDBus.findNameByNumber)).toList := by
  rcases reply with - | properties
  · rfl
  · simp only [getOfonoCallDetails, foldl_readCallProperty, historyInfo_number, Option.bind_some,
      OfonoProperties.historyCall?]
    split <;> rfl

theorem getListedCalls_eq (type : String) (details : Nat → String → Option OfonoProperties)
    (paths : List (Option String)) (count : Nat) (few : count ≤ maxHistoryItems) :
    ofonoDBus.getListedCalls type details count paths =
      ((((paths.take (maxHistoryItems - count)).zipIdx count).filterMap fun element =>
        (element.1.bind (details element.2)).bind fun properties =>
          properties.historyCall? type).map (historyNoti ofonoDBus.findNameByNumber)) := by
  induction paths generalizing count with
  | nil => simp [getListedCalls]
  | cons path paths ih =>
      unfold getListedCalls
      split
      · next full =>
          have none : maxHistoryItems - count = 0 := by omega
          simp [none]
      · next room =>
          have more : maxHistoryItems - count = (maxHistoryItems - (count + 1)) + 1 := by omega
          rw [ih (count + 1) (by omega), more, List.take_succ_cons, List.zipIdx_cons]
          rcases path with - | callPath
          · simp
          · simp only [getOfonoCallDetails_eq, List.filterMap_cons, Option.bind_some]
            cases (details count callPath).bind fun properties =>
              properties.historyCall? type with
            | none => rfl
            | some call => rfl

/-- A pull tells the first calls of the listing that have a number, in their order. -/
theorem getOfonoCallHistory_eq (type : String) (replies : HistoryReplies) :
    ofonoDBus.getOfonoCallHistory type replies =
      (replies.calls type).map (historyNoti ofonoDBus.findNameByNumber) := by
  rcases replies with ⟨- | paths, details⟩
  · rfl
  · exact getListedCalls_eq ofonoDBus type details paths 0 (Nat.zero_le _)

end OfonoDBus

/-- Every name is shown as the notifications before it say. -/
def NamesTold (sent : List HardwareNoti) : Prop :=
  ∀ before noti after, sent = before ++ noti :: after → noti.ShowsName (nameTold before)

theorem namesTold_nil : NamesTold [] := by
  intro before noti after split
  cases before <;> cases split

theorem namesTold_append {sent news : List HardwareNoti} (told : NamesTold sent)
    (later : ∀ before noti after, news = before ++ noti :: after →
      noti.ShowsName (nameTold (sent ++ before))) : NamesTold (sent ++ news) := by
  intro before noti after split
  rcases List.append_eq_append_iff.mp split with ⟨more, isBefore, isNews⟩ | ⟨more, isSent, rest⟩
  · rw [isBefore]
    exact later more noti after isNews
  · rcases more with - | ⟨first, more⟩
    · rw [List.append_nil] at isSent
      have shown := later [] noti after (by simpa using rest.symm)
      rw [List.append_nil, isSent] at shown
      exact shown
    · obtain ⟨rfl, rfl⟩ : noti = first ∧ after = more ++ news := by simpa using rest
      exact told before noti more isSent

namespace OfonoHost

/-- What a handler leaves and sends. -/
def heard (host : OfonoHost) (handled : OfonoDBus × List HardwareNoti) : OfonoHost where
  ofonoDBus := handled.1
  sent := host.sent ++ handled.2

/-- The commands of the notifications that only the handlers for oFono send. -/
def commands : List DBusCommand :=
  [.pbapPhonebookPullStartNoti, .pbapPhonebookPullNoti, .pbapSessionEndNoti,
    .callHistoryPullStartNoti, .callHistoryPullNoti, .incomingCallNoti, .outgoingCallNoti,
    .callStateChangedNoti, .callEndedNoti]

def handleEvent (host : OfonoHost) : OfonoEvent → Option OfonoHost
  | .signal signal calls => host.step (.signal signal calls)
  | .propertyChanged iface key value replies =>
      some (host.heard
        (BluetoothWorker.handleOfonoPropertyChanged host.ofonoDBus replies iface key value))
  | .propertiesChanged iface changes =>
      some (host.heard
        (BluetoothWorker.handleOfonoPropertiesChanged host.ofonoDBus iface changes))
  | .notify noti =>
      if noti.cmd ∈ commands then none else some { host with sent := host.sent ++ [noti] }

def worker : System OfonoHost OfonoEvent where
  init := {}
  step := handleEvent

/-- The phonebook holds the names that have been told, and no other name has been shown. -/
structure ShowsTold (host : OfonoHost) : Prop where
  mirrors : host.Mirrors
  told : NamesTold host.sent

/-- What is handled so is told with the right names, whatever has been sent before. -/
def Truthful (ofonoDBus : OfonoDBus) (handled : OfonoDBus × List HardwareNoti) : Prop :=
  ∀ sent, ShowsTold ⟨ofonoDBus, sent⟩ → ShowsTold ⟨handled.1, sent ++ handled.2⟩

variable {host next : OfonoHost} {ofonoDBus : OfonoDBus}

theorem Mirrors.nameTold (mirrors : host.Mirrors) :
    RaspberryPiService.nameTold host.sent = host.ofonoDBus.findNameByNumber := by
  funext number
  rw [OfonoDBus.findNameByNumber, mirrors number, RaspberryPiService.nameTold]

theorem truthful_nil : Truthful ofonoDBus (ofonoDBus, []) := by
  intro sent shows
  simpa using shows

/-- Two handlers one after the other. -/
theorem Truthful.trans {first second : OfonoDBus × List HardwareNoti}
    (honest : Truthful ofonoDBus first) (later : Truthful first.1 second) :
    Truthful ofonoDBus (second.1, first.2 ++ second.2) := by
  intro sent shows
  have both := later (sent ++ first.2) (honest sent shows)
  rwa [List.append_assoc] at both

/-- Notifications that leave the names alone are shown by the phonebook. -/
theorem truthful_of_quiet {left : OfonoDBus} {news : List HardwareNoti}
    (same : left.phonebook = ofonoDBus.phonebook)
    (quiet : ∀ noti ∈ news, noti.write? = none ∧ noti.ShowsName ofonoDBus.findNameByNumber) :
    Truthful ofonoDBus (left, news) := by
  intro sent shows
  have silent : ∀ some : List HardwareNoti, (∀ noti ∈ some, noti ∈ news) →
      some.filterMap HardwareNoti.write? = [] := by
    intro some among
    rw [List.filterMap_eq_nil_iff]
    exact fun noti member => (quiet noti (among noti member)).1
  refine ⟨?_, namesTold_append shows.told ?_⟩
  · simp only [Mirrors, List.filterMap_append, silent news (fun _ member => member),
      List.append_nil, same]
    exact shows.mirrors
  · intro before noti after split
    have isNews : news = before ++ noti :: after := split
    have unchanged : RaspberryPiService.nameTold (sent ++ before) =
        RaspberryPiService.nameTold sent := by
      funext number
      simp only [RaspberryPiService.nameTold, List.filterMap_append,
        silent before (fun _ member => by rw [isNews]; exact List.mem_append_left _ member),
        List.append_nil]
    rw [unchanged, shows.mirrors.nameTold]
    exact (quiet noti (by rw [isNews]; exact List.mem_append_right _ List.mem_cons_self)).2

/-- Notifications without names may change them. -/
theorem truthful_of_unnamed {handled : OfonoDBus × List HardwareNoti}
    (mirrored : ∀ sent, Mirrors ⟨ofonoDBus, sent⟩ → Mirrors ⟨handled.1, sent ++ handled.2⟩)
    (unnamed : ∀ noti ∈ handled.2, ∀ names, noti.ShowsName names) :
    Truthful ofonoDBus handled := by
  intro sent shows
  refine ⟨mirrored sent shows.mirrors, namesTold_append shows.told ?_⟩
  intro before noti after split
  apply unnamed
  rw [split]
  exact List.mem_append_right _ List.mem_cons_self

theorem truthful_syncAllOfonoContacts (sm me : PhonebookReplies) :
    Truthful ofonoDBus (ofonoDBus.syncAllOfonoContacts sm me) := by
  apply truthful_of_unnamed
  · exact fun sent mirrors => Mirrors.sync mirrors sm me
  · intro noti member names
    simp only [OfonoDBus.syncAllOfonoContacts_eq, List.mem_append, List.mem_cons, List.mem_map,
      List.not_mem_nil, or_false] at member
    rcases member with (rfl | ⟨entry, -, rfl⟩) | rfl <;> trivial

theorem showsName_historyNoti (names : String → String) (call : HistoryCall) :
    (historyNoti names call).ShowsName names := by
  simp [HardwareNoti.ShowsName, historyNoti, DBusDataInfo.get_set_of_ne]

/-- The calls of a sync of the history. -/
def syncedCalls (replies : String → HistoryReplies) : List HistoryCall :=
  (replies "dialed").calls "dialed" ++ (replies "received").calls "received" ++
    (replies "missed").calls "missed"

theorem syncAllOfonoCallHistory_eq (replies : String → HistoryReplies) :
    ofonoDBus.syncAllOfonoCallHistory replies =
      OfonoDBus.historyStartNoti ::
        (syncedCalls replies).map (historyNoti ofonoDBus.findNameByNumber) ++
          [OfonoDBus.historyEndNoti] := by
  simp only [OfonoDBus.syncAllOfonoCallHistory, OfonoDBus.getOfonoCallHistory_eq, syncedCalls,
    List.map_append, List.cons_append, List.append_assoc]

theorem truthful_syncAllOfonoCallHistory (replies : String → HistoryReplies) :
    Truthful ofonoDBus (ofonoDBus, ofonoDBus.syncAllOfonoCallHistory replies) := by
  apply truthful_of_quiet rfl
  intro noti member
  simp only [syncAllOfonoCallHistory_eq, List.mem_append, List.mem_cons, List.mem_map,
    List.not_mem_nil, or_false] at member
  rcases member with (rfl | ⟨call, -, rfl⟩) | rfl
  · exact ⟨rfl, trivial⟩
  · exact ⟨rfl, showsName_historyNoti _ call⟩
  · exact ⟨rfl, trivial⟩

theorem showsName_call (names : String → String) (command : CallNotiCommand) (isSuccess : Bool)
    {info : CallInfo} (named : info.name = if info.number = "" then "" else names info.number) :
    (CallNoti.call command isSuccess info).toHardwareNoti.ShowsName names := by
  cases command <;>
    simpa [HardwareNoti.ShowsName, CallNoti.toHardwareNoti, CallNotiCommand.dbusCommand,
      DBusDataInfo.get_set_of_ne] using named

/-- The properties of a call have the name for its number. -/
theorem name_getVoiceCallProperties (ofonoDBus : OfonoDBus) (calls : OfonoCalls)
    (callPath : String) :
    (ofonoDBus.getVoiceCallProperties calls callPath).name =
      if (ofonoDBus.getVoiceCallProperties calls callPath).number = "" then ""
      else ofonoDBus.findNameByNumber
        (ofonoDBus.getVoiceCallProperties calls callPath).number := by
  unfold OfonoDBus.getVoiceCallProperties
  cases calls.lookup callPath <;> rfl

theorem truthful_call {left : OfonoDBus} (same : left.phonebook = ofonoDBus.phonebook)
    (command : CallNotiCommand) (isSuccess : Bool) {info : CallInfo}
    (named : info.name =
      if info.number = "" then "" else ofonoDBus.findNameByNumber info.number) :
    Truthful ofonoDBus (left, [(CallNoti.call command isSuccess info).toHardwareNoti]) := by
  apply truthful_of_quiet same
  intro noti member
  obtain rfl := List.mem_singleton.mp member
  exact ⟨write?_call command isSuccess info, showsName_call _ command isSuccess named⟩

theorem truthful_signal (signal : OfonoSignal) (calls : OfonoCalls) :
    Truthful ofonoDBus ((BluetoothWorker.dispatchMessage ofonoDBus calls signal).1,
      ((BluetoothWorker.dispatchMessage ofonoDBus calls signal).2.map
        CallNoti.toHardwareNoti).toList) := by
  have silent : ∀ left : OfonoDBus, left.phonebook = ofonoDBus.phonebook →
      Truthful ofonoDBus (left, []) :=
    fun left same => truthful_of_quiet same (by simp)
  cases signal with
  | modemAdded modemPath => exact silent (ofonoDBus.setActiveModemPath modemPath) rfl
  | modemRemoved modemPath =>
      apply truthful_of_unnamed
      · exact fun sent mirrors => mirrors.handleSignal (.modemRemoved modemPath) calls
      · intro noti member names
        obtain rfl := List.mem_singleton.mp member
        trivial
  | callAdded callPath =>
      have named := name_getVoiceCallProperties (ofonoDBus.addActiveCallPath callPath) calls
        callPath
      simp only [BluetoothWorker.dispatchMessage, BluetoothWorker.handleCallAdded]
      split_ifs
      · exact silent (ofonoDBus.addActiveCallPath callPath) rfl
      · apply truthful_call
        · rfl
        · exact named
      · apply truthful_call
        · rfl
        · exact named
      · exact silent (ofonoDBus.addActiveCallPath callPath) rfl
  | callRemoved callPath =>
      simp only [BluetoothWorker.dispatchMessage, BluetoothWorker.handleCallRemoved]
      split_ifs
      · apply truthful_call <;> rfl
      · exact silent ofonoDBus rfl
  | propertyChanged callPath key =>
      have named := name_getVoiceCallProperties ofonoDBus calls callPath
      simp only [BluetoothWorker.dispatchMessage, BluetoothWorker.handleVoiceCallPropertyChanged]
      split_ifs
      · exact silent ofonoDBus rfl
      · exact silent ofonoDBus rfl
      · apply truthful_call
        · rfl
        · exact named
      · apply truthful_call
        · rfl
        · exact named

theorem truthful_handleModemChange (replies : OfonoReplies) (key : String)
    (value : OfonoChange) :
    Truthful ofonoDBus (BluetoothWorker.handleModemChange ofonoDBus replies key value) := by
  unfold BluetoothWorker.handleModemChange
  split
  · exact (truthful_syncAllOfonoContacts replies.sm replies.me).trans
      (truthful_syncAllOfonoCallHistory replies.history)
  · exact truthful_nil

theorem truthful_handleListedCalls (replies : OfonoReplies) (paths : List String) :
    Truthful ofonoDBus (BluetoothWorker.handleListedCalls replies ofonoDBus paths) := by
  induction paths generalizing ofonoDBus with
  | nil => exact truthful_nil
  | cons callPath paths ih =>
      have later := @ih (ofonoDBus.addActiveCallPath callPath)
      have named := name_getVoiceCallProperties (ofonoDBus.addActiveCallPath callPath)
        (replies.calls callPath) callPath
      simp only [BluetoothWorker.handleListedCalls]
      split_ifs
      · exact ih
      · exact (truthful_of_quiet rfl (by simp) :
          Truthful ofonoDBus (ofonoDBus.addActiveCallPath callPath, [])).trans later
      · refine Truthful.trans (truthful_call ?_ _ _ ?_) later
        · rfl
        · exact named

theorem truthful_handleChangedProperty (replies : OfonoReplies) (iface key : String)
    (value : OfonoChange) :
    Truthful ofonoDBus
      (BluetoothWorker.handleChangedProperty ofonoDBus replies iface key value) := by
  unfold BluetoothWorker.handleChangedProperty
  split
  · split
    · exact truthful_handleListedCalls replies _
    · exact truthful_nil
  · split
    · exact truthful_handleModemChange replies key value
    · split
      · split
        · exact truthful_syncAllOfonoContacts replies.sm replies.me
        · exact truthful_nil
      · split
        · split
          · exact truthful_syncAllOfonoCallHistory replies.history
          · exact truthful_nil
        · exact truthful_nil

theorem truthful_handleOfonoPropertiesChanged (iface : String)
    (changes : List (String × OfonoChange × OfonoReplies)) :
    Truthful ofonoDBus
      (BluetoothWorker.handleOfonoPropertiesChanged ofonoDBus iface changes) := by
  induction changes generalizing ofonoDBus with
  | nil => exact truthful_nil
  | cons change changes ih =>
      rcases change with ⟨key, value, replies⟩
      exact (truthful_handleChangedProperty replies iface key value).trans ih

theorem write?_of_other {noti : HardwareNoti} (other : noti.cmd ∉ commands) :
    noti.write? = none := by
  unfold HardwareNoti.write?
  split <;> simp_all [commands]

theorem showsName_of_other {noti : HardwareNoti} (other : noti.cmd ∉ commands)
    (names : String → String) : noti.ShowsName names := by
  unfold HardwareNoti.ShowsName
  split <;> simp_all [commands]

theorem ShowsTold.step {event : OfonoEvent} (shows : host.ShowsTold)
    (stepped : host.handleEvent event = some next) : next.ShowsTold := by
  cases event with
  | signal signal calls =>
      rw [step_signal stepped]
      exact truthful_signal signal calls host.sent shows
  | propertyChanged iface key value replies =>
      cases stepped
      simp only [heard, BluetoothWorker.handleOfonoPropertyChanged]
      split_ifs
      · exact truthful_handleModemChange replies key value host.sent shows
      · exact truthful_nil host.sent shows
  | propertiesChanged iface changes =>
      cases stepped
      exact truthful_handleOfonoPropertiesChanged iface changes host.sent shows
  | notify noti =>
      simp only [handleEvent, Option.ite_none_left_eq_some, Option.some.injEq] at stepped
      rcases stepped with ⟨other, rfl⟩
      refine truthful_of_quiet rfl ?_ host.sent shows
      intro sent member
      obtain rfl := List.mem_singleton.mp member
      exact ⟨write?_of_other other, showsName_of_other other _⟩

/--
Calls and items of the history are shown under the name that the contacts have which the
client has been told by then.
-/
theorem names_told (schedule : List OfonoEvent) (final : OfonoHost)
    (ran : worker.run schedule = some final) : NamesTold final.sent := by
  have initial : worker.init.ShowsTold := ⟨MapWrite.reflects_empty, namesTold_nil⟩
  have shows : final.ShowsTold := System.invariant_of_run ShowsTold initial
    (fun _ _ _ shows stepped => shows.step stepped) ran
  exact shows.told

end OfonoHost

/-- What a notification makes of the history that a client lists. -/
def HardwareNoti.historyAfter (calls : List HistoryCall) (noti : HardwareNoti) :
    List HistoryCall :=
  match noti.cmd with
  | .callHistoryPullStartNoti | .pbapSessionEndNoti => []
  | .callHistoryPullNoti =>
      calls ++ [⟨noti.info.get .callHistoryType, noti.info.get .callHistoryNumber,
        noti.info.get .callHistoryDatetime⟩]
  | _ => calls

/-- The history as the notifications tell it. -/
def historyTold (sent : List HardwareNoti) : List HistoryCall :=
  sent.foldl HardwareNoti.historyAfter []

open BluezDBus in
/-- The history that a change of a property makes the worker pull, if it does. -/
def OfonoReplies.pulled? (replies : OfonoReplies) (iface key : String) (value : OfonoChange) :
    Option (List HistoryCall) :=
  if (iface = ofonoModemInterface ∧ key = "Online" ∧ value = .boolean true) ∨
      (iface = ofonoCallHistoryInterface ∧
        (key = "DialedCount" ∨ key = "MissedCount" ∨ key = "ReceivedCount")) then
    some (OfonoHost.syncedCalls replies.history)
  else none

/-- The histories that there are after an event, the last one at the end. -/
def OfonoEvent.histories : OfonoEvent → List (List HistoryCall)
  | .signal (.modemRemoved _) _ => [[]]
  | .signal _ _ | .notify _ => []
  | .propertyChanged iface key value replies =>
      if iface = BluezDBus.ofonoModemInterface then (replies.pulled? iface key value).toList
      else []
  | .propertiesChanged iface changes =>
      changes.filterMap fun (key, value, replies) => replies.pulled? iface key value

namespace OfonoHost

variable {host next : OfonoHost} {ofonoDBus : OfonoDBus}

/-- Each of the histories has taken the place of the one before. -/
def Replaces (news : List HardwareNoti) (histories : List (List HistoryCall)) : Prop :=
  ∀ calls, news.foldl HardwareNoti.historyAfter calls = histories.getLastD calls

theorem Replaces.append {first second : List HardwareNoti}
    {earlier later : List (List HistoryCall)} (replaced : Replaces first earlier)
    (again : Replaces second later) : Replaces (first ++ second) (earlier ++ later) := by
  intro calls
  rw [List.foldl_append, replaced, again]
  rcases later.eq_nil_or_concat with rfl | ⟨rest, last, rfl⟩
  · simp
  · simp [List.getLastD_eq_getLast?]

theorem replaces_nil : Replaces [] [] := fun _ => rfl

/-- No notification is about the history. -/
theorem replaces_of_silent {news : List HardwareNoti}
    (silent : ∀ noti ∈ news, ∀ calls, noti.historyAfter calls = calls) : Replaces news [] := by
  intro calls
  induction news with
  | nil => rfl
  | cons noti news ih =>
      rw [List.foldl_cons, silent noti List.mem_cons_self]
      exact ih fun other member => silent other (List.mem_cons_of_mem noti member)

theorem historyAfter_historyNoti (names : String → String) (calls : List HistoryCall)
    (call : HistoryCall) : (historyNoti names call).historyAfter calls = calls ++ [call] := by
  simp [HardwareNoti.historyAfter, historyNoti, historyInfo, DBusDataInfo.get_set_of_ne]

theorem replaces_syncAllOfonoCallHistory (replies : String → HistoryReplies) :
    Replaces (ofonoDBus.syncAllOfonoCallHistory replies) [syncedCalls replies] := by
  have pulls : ∀ (names : String → String) (more calls : List HistoryCall),
      (more.map (historyNoti names)).foldl HardwareNoti.historyAfter calls = calls ++ more := by
    intro names more
    induction more with
    | nil => simp
    | cons call more ih =>
        intro calls
        rw [List.map_cons, List.foldl_cons, historyAfter_historyNoti, ih, List.append_assoc,
          List.singleton_append]
  intro calls
  simp only [syncAllOfonoCallHistory_eq, List.foldl_append, List.foldl_cons, pulls]
  rfl

theorem historyAfter_call (command : CallNotiCommand) (isSuccess : Bool) (info : CallInfo)
    (calls : List HistoryCall) :
    (CallNoti.call command isSuccess info).toHardwareNoti.historyAfter calls = calls := by
  cases command <;> rfl

theorem historyAfter_of_other {noti : HardwareNoti} (other : noti.cmd ∉ commands)
    (calls : List HistoryCall) : noti.historyAfter calls = calls := by
  unfold HardwareNoti.historyAfter
  split <;> simp_all [commands]

theorem replaces_syncAllOfonoContacts (sm me : PhonebookReplies) :
    Replaces (ofonoDBus.syncAllOfonoContacts sm me).2 [] := by
  apply replaces_of_silent
  intro noti member calls
  simp only [OfonoDBus.syncAllOfonoContacts_eq, List.mem_append, List.mem_cons, List.mem_map,
    List.not_mem_nil, or_false] at member
  rcases member with (rfl | ⟨entry, -, rfl⟩) | rfl <;> rfl

theorem replaces_signal (signal : OfonoSignal) (calls : OfonoCalls) :
    Replaces ((BluetoothWorker.dispatchMessage ofonoDBus calls signal).2.map
      CallNoti.toHardwareNoti).toList (OfonoEvent.signal signal calls).histories := by
  have told : ∀ (command : CallNotiCommand) (isSuccess : Bool) (info : CallInfo),
      Replaces [(CallNoti.call command isSuccess info).toHardwareNoti] [] := by
    intro command isSuccess info calls
    exact historyAfter_call command isSuccess info calls
  cases signal with
  | modemAdded modemPath => exact replaces_nil
  | modemRemoved modemPath => exact fun calls => rfl
  | callAdded callPath =>
      simp only [BluetoothWorker.dispatchMessage, BluetoothWorker.handleCallAdded]
      split_ifs
      · exact replaces_nil
      · exact told _ _ _
      · exact told _ _ _
      · exact replaces_nil
  | callRemoved callPath =>
      simp only [BluetoothWorker.dispatchMessage, BluetoothWorker.handleCallRemoved]
      split_ifs
      · exact told _ _ _
      · exact replaces_nil
  | propertyChanged callPath key =>
      simp only [BluetoothWorker.dispatchMessage, BluetoothWorker.handleVoiceCallPropertyChanged]
      split_ifs
      · exact replaces_nil
      · exact replaces_nil
      · exact told _ _ _
      · exact told _ _ _

theorem replaces_handleModemChange (replies : OfonoReplies) (key : String)
    (value : OfonoChange) :
    Replaces (BluetoothWorker.handleModemChange ofonoDBus replies key value).2
      (replies.pulled? BluezDBus.ofonoModemInterface key value).toList := by
  have notHistory : BluezDBus.ofonoModemInterface ≠ BluezDBus.ofonoCallHistoryInterface := by
    decide
  unfold BluetoothWorker.handleModemChange OfonoReplies.pulled?
  split
  · simpa using (replaces_syncAllOfonoContacts replies.sm replies.me).append
      (replaces_syncAllOfonoCallHistory replies.history)
  · next otherwise =>
      have neither : ¬ (key = "Online" ∧ value = .boolean true) :=
        fun both => otherwise both.1 both.2
      simpa [notHistory, neither] using replaces_nil

theorem replaces_handleListedCalls (replies : OfonoReplies) (paths : List String) :
    Replaces (BluetoothWorker.handleListedCalls replies ofonoDBus paths).2 [] := by
  apply replaces_of_silent
  induction paths generalizing ofonoDBus with
  | nil => simp [BluetoothWorker.handleListedCalls]
  | cons callPath paths ih =>
      have later := @ih (ofonoDBus.addActiveCallPath callPath)
      simp only [BluetoothWorker.handleListedCalls]
      split_ifs
      · exact ih
      · exact later
      · intro noti member calls
        rcases List.mem_cons.mp member with rfl | member
        · exact historyAfter_call _ _ _ calls
        · exact later noti member calls

theorem replaces_handleChangedProperty (replies : OfonoReplies) (iface key : String)
    (value : OfonoChange) :
    Replaces (BluetoothWorker.handleChangedProperty ofonoDBus replies iface key value).2
      (replies.pulled? iface key value).toList := by
  unfold BluetoothWorker.handleChangedProperty
  split
  · next isManager =>
      have nothing : replies.pulled? iface key value = none := by
        subst isManager
        exact if_neg (by simp [BluezDBus.ofonoVoiceCallManagerInterface,
          BluezDBus.ofonoModemInterface, BluezDBus.ofonoCallHistoryInterface])
      rw [nothing]
      split
      · exact replaces_handleListedCalls replies _
      · exact replaces_nil
  · split
    · next isModem =>
        subst isModem
        exact replaces_handleModemChange replies key value
    · next notModem =>
        split
        · next isPhonebook =>
            have nothing : replies.pulled? iface key value = none := by
              subst isPhonebook
              exact if_neg (by simp [BluezDBus.ofonoPhonebookInterface,
                BluezDBus.ofonoModemInterface, BluezDBus.ofonoCallHistoryInterface])
            rw [nothing]
            split
            · exact replaces_syncAllOfonoContacts replies.sm replies.me
            · exact replaces_nil
        · unfold OfonoReplies.pulled?
          split
          · next isHistory =>
              subst isHistory
              split
              · next counted =>
                  simpa [counted] using replaces_syncAllOfonoCallHistory replies.history
              · next uncounted => simpa [notModem, uncounted] using replaces_nil
          · next notHistory => simpa [notModem, notHistory] using replaces_nil

theorem replaces_handleOfonoPropertiesChanged (iface : String)
    (changes : List (String × OfonoChange × OfonoReplies)) :
    Replaces (BluetoothWorker.handleOfonoPropertiesChanged ofonoDBus iface changes).2
      (OfonoEvent.propertiesChanged iface changes).histories := by
  induction changes generalizing ofonoDBus with
  | nil => exact replaces_nil
  | cons change changes ih =>
      rcases change with ⟨key, value, replies⟩
      have split :
          (OfonoEvent.propertiesChanged iface ((key, value, replies) :: changes)).histories =
            (replies.pulled? iface key value).toList ++
              (OfonoEvent.propertiesChanged iface changes).histories := by
        simp only [OfonoEvent.histories, List.filterMap_cons]
        cases replies.pulled? iface key value <;> rfl
      rw [split]
      exact (replaces_handleChangedProperty replies iface key value).append ih

theorem replaces_handleEvent {event : OfonoEvent} (stepped : host.handleEvent event = some next) :
    ∃ news, next.sent = host.sent ++ news ∧ Replaces news event.histories := by
  cases event with
  | signal signal calls =>
      rw [step_signal stepped]
      exact ⟨_, rfl, replaces_signal signal calls⟩
  | propertyChanged iface key value replies =>
      cases stepped
      refine ⟨_, rfl, ?_⟩
      simp only [BluetoothWorker.handleOfonoPropertyChanged, OfonoEvent.histories]
      split_ifs with isModem
      · subst isModem
        exact replaces_handleModemChange replies key value
      · exact replaces_nil
  | propertiesChanged iface changes =>
      cases stepped
      exact ⟨_, rfl, replaces_handleOfonoPropertiesChanged iface changes⟩
  | notify noti =>
      simp only [handleEvent, Option.ite_none_left_eq_some, Option.some.injEq] at stepped
      rcases stepped with ⟨other, rfl⟩
      exact ⟨[noti], rfl, fun calls => historyAfter_of_other other calls⟩

theorem length_calls_le (replies : HistoryReplies) (type : String) :
    (replies.calls type).length ≤ OfonoDBus.maxHistoryItems := by
  calc (replies.calls type).length
      ≤ ((replies.history.getD []).take OfonoDBus.maxHistoryItems).zipIdx.length :=
        List.length_filterMap_le _ _
    _ ≤ OfonoDBus.maxHistoryItems := by
        rw [List.length_zipIdx, List.length_take]
        exact Nat.min_le_left _ _

theorem number_of_mem_calls {replies : HistoryReplies} {type : String} {call : HistoryCall}
    (member : call ∈ replies.calls type) : call.type = type ∧ call.number ≠ "" := by
  rcases List.mem_filterMap.mp member with ⟨element, -, found⟩
  rcases Option.bind_eq_some_iff.mp found with ⟨properties, -, isCall⟩
  simp only [OfonoProperties.historyCall?, Option.ite_none_right_eq_some,
    Option.some.injEq] at isCall
  rcases isCall with ⟨numbered, rfl⟩
  exact ⟨rfl, numbered⟩

/-- A history of the phone: at most fifty calls of each type, and each with its number. -/
structure IsHistory (calls : List HistoryCall) : Prop where
  few : ∀ type, (calls.filter (·.type = type)).length ≤ OfonoDBus.maxHistoryItems
  numbered : ∀ call ∈ calls, call.number ≠ ""

theorem filter_calls (replies : HistoryReplies) (type other : String) :
    ((replies.calls type).filter (·.type = other)).length ≤
      if type = other then OfonoDBus.maxHistoryItems else 0 := by
  split
  · exact (List.length_filter_le _ _).trans (length_calls_le replies type)
  · next differ =>
      rw [List.filter_eq_nil_iff.mpr]
      · exact Nat.le_refl 0
      · intro call member
        simpa [(number_of_mem_calls member).1] using differ

theorem isHistory_syncedCalls (replies : String → HistoryReplies) :
    IsHistory (syncedCalls replies) where
  few := by
    intro type
    have dialed := filter_calls (replies "dialed") "dialed" type
    have received := filter_calls (replies "received") "received" type
    have missed := filter_calls (replies "missed") "missed" type
    simp only [syncedCalls, List.filter_append, List.length_append]
    -- no two of the three are the same type
    by_cases isDialed : "dialed" = type
    · have notReceived : "received" ≠ type := by rw [← isDialed]; decide
      have notMissed : "missed" ≠ type := by rw [← isDialed]; decide
      rw [if_pos isDialed] at dialed
      rw [if_neg notReceived] at received
      rw [if_neg notMissed] at missed
      omega
    · rw [if_neg isDialed] at dialed
      by_cases isReceived : "received" = type
      · have notMissed : "missed" ≠ type := by rw [← isReceived]; decide
        rw [if_pos isReceived] at received
        rw [if_neg notMissed] at missed
        omega
      · rw [if_neg isReceived] at received
        split at missed <;> omega
  numbered := by
    intro call member
    simp only [syncedCalls, List.mem_append] at member
    rcases member with (member | member) | member <;> exact (number_of_mem_calls member).2

theorem isHistory_of_mem {event : OfonoEvent} {calls : List HistoryCall}
    (member : calls ∈ event.histories) : IsHistory calls := by
  have synced : ∀ {replies : OfonoReplies} {iface key : String} {value : OfonoChange},
      replies.pulled? iface key value = some calls → IsHistory calls := by
    intro replies iface key value pulled
    simp only [OfonoReplies.pulled?, Option.ite_none_right_eq_some, Option.some.injEq] at pulled
    rw [← pulled.2]
    exact isHistory_syncedCalls replies.history
  cases event with
  | signal signal _ =>
      cases signal <;> simp only [OfonoEvent.histories, List.not_mem_nil, List.mem_singleton]
        at member
      subst member
      exact ⟨by simp, by simp⟩
  | propertyChanged iface key value replies =>
      simp only [OfonoEvent.histories] at member
      split_ifs at member
      · exact synced (Option.mem_toList.mp member)
      · cases member
  | propertiesChanged iface changes =>
      rcases List.mem_filterMap.mp member with ⟨change, -, pulled⟩
      exact synced pulled
  | notify noti => cases member

theorem replaces_of_runFrom {schedule : List OfonoEvent} {final : OfonoHost}
    (ran : worker.runFrom host schedule = some final) :
    ∃ news, final.sent = host.sent ++ news ∧
      Replaces news (schedule.flatMap OfonoEvent.histories) := by
  induction schedule generalizing host with
  | nil =>
      cases ran
      exact ⟨[], (List.append_nil _).symm, replaces_nil⟩
  | cons event schedule ih =>
      rcases System.runFrom_cons_eq_some.mp ran with ⟨next, stepped, ran⟩
      rcases replaces_handleEvent stepped with ⟨first, isNext, replaced⟩
      rcases ih ran with ⟨later, isFinal, again⟩
      refine ⟨first ++ later, by rw [isFinal, isNext, List.append_assoc], ?_⟩
      rw [List.flatMap_cons]
      exact replaced.append again

/--
The client lists the calls of the latest pull in their order, however often the history has
been pulled before, and none after the modem has been removed.
-/
theorem history_told (schedule : List OfonoEvent) (final : OfonoHost)
    (ran : worker.run schedule = some final) :
    historyTold final.sent = (schedule.flatMap OfonoEvent.histories).getLastD [] ∧
      IsHistory (historyTold final.sent) := by
  rcases replaces_of_runFrom ran with ⟨news, isFinal, replaced⟩
  have told : historyTold final.sent = (schedule.flatMap OfonoEvent.histories).getLastD [] := by
    rw [isFinal]
    exact replaced []
  refine ⟨told, ?_⟩
  rw [told]
  rcases (schedule.flatMap OfonoEvent.histories).eq_nil_or_concat with empty | ⟨rest, last, split⟩
  · rw [empty]
    exact ⟨by simp, by simp⟩
  · have member : last ∈ schedule.flatMap OfonoEvent.histories := by simp [split]
    rcases List.mem_flatMap.mp member with ⟨event, -, member⟩
    rw [split, List.concat_eq_append, List.getLastD_concat]
    exact isHistory_of_mem member

/-- A missed call from the office. -/
def missedReplies : OfonoReplies where
  calls := fun _ => ∅
  sm := office
  me := unlisted
  history := fun type =>
    { history := if type = "missed" then some [some "/call/1"] else none
      details := fun _ _ => some [("LineIdentification", .string "0123")] }

/-- The modem goes online, and the missed call is pulled after the contacts. -/
def goOnline : List OfonoEvent :=
  [.propertyChanged BluezDBus.ofonoModemInterface "Online" (.boolean true) missedReplies]

theorem names_told_goOnline :
    ∃ final, worker.run goOnline = some final ∧ NamesTold final.sent ∧
      (final.sent.filter fun noti => noti.cmd = .callHistoryPullNoti).map (fun noti =>
        (noti.info.get .callHistoryNumber, noti.info.get .callHistoryName)) =
          [("0123", "Office")] := by
  refine ⟨_, rfl, names_told goOnline _ rfl, ?_⟩
  decide +kernel

theorem history_told_goOnline :
    ∃ final, worker.run goOnline = some final ∧
      historyTold final.sent = [⟨"missed", "0123", ""⟩] ∧ IsHistory (historyTold final.sent) := by
  rcases history_told goOnline _ rfl with ⟨told, isHistory⟩
  refine ⟨_, rfl, told.trans ?_, isHistory⟩
  decide +kernel

end OfonoHost

end RaspberryPiService
