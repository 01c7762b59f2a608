import RaspberryPiService.CoreManager.CommandSender

/-!
# Notifications on their way to the core manager

The other managers answer the core and tell it what happens with notifications: a command,
a flag for success, and texts. Each manager has a factory for the ones that it sends, all
of them to the core; it knows no message that is a command alone.
-/

namespace RaspberryPiService

def SignalAddress.coreManager : SignalAddress where
  objectPath := "/com/example/coremanager"
  interfaceName := "com.example.coremanager.interface"
  signalName := "CoreSignal"

/-- A message of one of the factories. -/
def SignalAddress.makeMsgNoti (address : SignalAddress) (memory : Memory) (cmd : DBusCommand)
    (isSuccess : Bool) (msgInfo : DBusDataInfo) : Except String DBusMessage :=
  ISenderFactory.makeMsgNotiInternal memory address.objectPath address.interfaceName
    address.signalName cmd isSuccess msgInfo

namespace HMSenderFactory

variable (memory : Memory) (cmd : DBusCommand) (isSuccess : Bool) (msgInfo : DBusDataInfo)

def makeMsgNotiUpdateTemperature : Except String DBusMessage :=
  SignalAddress.coreManager.makeMsgNoti memory cmd isSuccess msgInfo

def makeMsgNotiStartScanBTDevice : Except String DBusMessage :=
  SignalAddress.coreManager.makeMsgNoti memory cmd isSuccess msgInfo

def makeMsgNotiStopScanBTDevice : Except String DBusMessage :=
  SignalAddress.coreManager.makeMsgNoti memory cmd isSuccess msgInfo

def makeMsgNotiScanningBTDeviceFound : Except String DBusMessage :=
  SignalAddress.coreManager.makeMsgNoti memory cmd isSuccess msgInfo

def makeMsgNotiScanningBTDeviceDelete : Except String DBusMessage :=
  SignalAddress.coreManager.makeMsgNoti memory cmd isSuccess msgInfo

def makeMsgNotiBluetoothPowerOn : Except String DBusMessage :=
  SignalAddress.coreManager.makeMsgNoti memory cmd isSuccess msgInfo

def makeMsgNotiBluetoothPowerOff : Except String DBusMessage :=
  SignalAddress.coreManager.makeMsgNoti memory cmd isSuccess msgInfo

def makeMsgNotiBTDevicePropertyChange : Except String DBusMessage :=
  SignalAddress.coreManager.makeMsgNoti memory cmd isSuccess msgInfo

def makeMsgNotiPairBTDevice : Except String DBusMessage :=
  SignalAddress.coreManager.makeMsgNoti memory cmd isSuccess msgInfo

def makeMsgNotiUnpairBTDevice : Except String DBusMessage :=
  SignalAddress.coreManager.makeMsgNoti memory cmd isSuccess msgInfo

def makeMsgNotiConnectBTDevice : Except String DBusMessage :=
  SignalAddress.coreManager.makeMsgNoti memory cmd isSuccess msgInfo

def makeMsgNotiDisconnectBTDevice : Except String DBusMessage :=
  SignalAddress.coreManager.makeMsgNoti memory cmd isSuccess msgInfo

def makeMsgNotiBTDeviceRequestConfirmation : Except String DBusMessage :=
  SignalAddress.coreManager.makeMsgNoti memory cmd isSuccess msgInfo

def makeMsgNotiPBAPPhonebookPullStart : Except String DBusMessage :=
  SignalAddress.coreManager.makeMsgNoti memory cmd isSuccess msgInfo

def makeMsgNotiPBAPPhonebookPull : Except String DBusMessage :=
  SignalAddress.coreManager.makeMsgNoti memory cmd isSuccess msgInfo

def makeMsgNotiPBAPPhonebookPullEnd : Except String DBusMessage :=
  SignalAddress.coreManager.makeMsgNoti memory cmd isSuccess msgInfo

def makeMsgNotiCallHistoryPullStart : Except String DBusMessage :=
  SignalAddress.coreManager.makeMsgNoti memory cmd isSuccess msgInfo

def makeMsgNotiCallHistoryPull : Except String DBusMessage :=
  SignalAddress.coreManager.makeMsgNoti memory cmd isSuccess msgInfo

def makeMsgNotiCallHistoryPullEnd : Except String DBusMessage :=
  SignalAddress.coreManager.makeMsgNoti memory cmd isSuccess msgInfo

def makeMsgNotiPBAPSessionEnd : Except String DBusMessage :=
  SignalAddress.coreManager.makeMsgNoti memory cmd isSuccess msgInfo

def makeMsgNotiIncomingCall : Except String DBusMessage :=
  SignalAddress.coreManager.makeMsgNoti memory cmd isSuccess msgInfo

def makeMsgNotiOutgoingCall : Except String DBusMessage :=
  SignalAddress.coreManager.makeMsgNoti memory cmd isSuccess msgInfo

def makeMsgNotiCallStateChanged : Except String DBusMessage :=
  SignalAddress.coreManager.makeMsgNoti memory cmd isSuccess msgInfo

def makeMsgNotiCallEnded : Except String DBusMessage :=
  SignalAddress.coreManager.makeMsgNoti memory cmd isSuccess msgInfo

def makeMsgNotiDialCall : Except String DBusMessage :=
  SignalAddress.coreManager.makeMsgNoti memory cmd isSuccess msgInfo

def makeMsgNotiAnswerCall : Except String DBusMessage :=
  SignalAddress.coreManager.makeMsgNoti memory cmd isSuccess msgInfo

def makeMsgNotiHangupCall : Except String DBusMessage :=
  SignalAddress.coreManager.makeMsgNoti memory cmd isSuccess msgInfo

def makeMsgNoti : Except String DBusMessage :=
  match cmd with
  | .updateTemperatureNoti => makeMsgNotiUpdateTemperature memory cmd isSuccess msgInfo
  | .startScanBTDeviceNoti => makeMsgNotiStartScanBTDevice memory cmd isSuccess msgInfo
  | .stopScanBTDeviceNoti => makeMsgNotiStopScanBTDevice memory cmd isSuccess msgInfo
  | .scanningBTDeviceFoundNoti => makeMsgNotiScanningBTDeviceFound memory cmd isSuccess msgInfo
  | .scanningBTDeviceDeleteNoti => makeMsgNotiScanningBTDeviceDelete memory cmd isSuccess msgInfo
  | .bluetoothPowerOnNoti => makeMsgNotiBluetoothPowerOn memory cmd isSuccess msgInfo
  | .bluetoothPowerOffNoti => makeMsgNotiBluetoothPowerOff memory cmd isSuccess msgInfo
  | .btDevicePropertyChangeNoti => makeMsgNotiBTDevicePropertyChange memory cmd isSuccess msgInfo
  | .pairBTDeviceNoti => makeMsgNotiPairBTDevice memory cmd isSuccess msgInfo
  | .unpairBTDeviceNoti => makeMsgNotiUnpairBTDevice memory cmd isSuccess msgInfo
  | .connectBTDeviceNoti => makeMsgNotiConnectBTDevice memory cmd isSuccess msgInfo
  | .disconnectBTDeviceNoti => makeMsgNotiDisconnectBTDevice memory cmd isSuccess msgInfo
  | .btDeviceRequestConfirmationNoti =>
      makeMsgNotiBTDeviceRequestConfirmation memory cmd isSuccess msgInfo
  | .pbapPhonebookPullStartNoti => makeMsgNotiPBAPPhonebookPullStart memory cmd isSuccess msgInfo
  | .pbapPhonebookPullNoti => makeMsgNotiPBAPPhonebookPull memory cmd isSuccess msgInfo
  | .pbapPhonebookPullEndNoti => makeMsgNotiPBAPPhonebookPullEnd memory cmd isSuccess msgInfo
  | .callHistoryPullStartNoti => makeMsgNotiCallHistoryPullStart memory cmd isSuccess msgInfo
  | .callHistoryPullNoti => makeMsgNotiCallHistoryPull memory cmd isSuccess msgInfo
  | .callHistoryPullEndNoti => makeMsgNotiCallHistoryPullEnd memory cmd isSuccess msgInfo
  | .pbapSessionEndNoti => makeMsgNotiPBAPSessionEnd memory cmd isSuccess msgInfo
  | .incomingCallNoti => makeMsgNotiIncomingCall memory cmd isSuccess msgInfo
  | .outgoingCallNoti => makeMsgNotiOutgoingCall memory cmd isSuccess msgInfo
  | .callStateChangedNoti => makeMsgNotiCallStateChanged memory cmd isSuccess msgInfo
  | .callEndedNoti => makeMsgNotiCallEnded memory cmd isSuccess msgInfo
  | .dialCallNoti => makeMsgNotiDialCall memory cmd isSuccess msgInfo
  | .answerCallNoti => makeMsgNotiAnswerCall memory cmd isSuccess msgInfo
  | .hangupCallNoti => makeMsgNotiHangupCall memory cmd isSuccess msgInfo
  | _ => .error "HMSenderFactory makeMsgNoti Error: Unknown DBusCommand"

/-- The commands that the factory knows. -/
def commands : List DBusCommand :=
  [.updateTemperatureNoti, .startScanBTDeviceNoti, .stopScanBTDeviceNoti,
    .scanningBTDeviceFoundNoti, .scanningBTDeviceDeleteNoti, .bluetoothPowerOnNoti,
    .bluetoothPowerOffNoti, .btDevicePropertyChangeNoti, .pairBTDeviceNoti,
    .unpairBTDeviceNoti, .connectBTDeviceNoti, .disconnectBTDeviceNoti,
    .btDeviceRequestConfirmationNoti, .pbapPhonebookPullStartNoti, .pbapPhonebookPullNoti,
    .pbapPhonebookPullEndNoti, .callHistoryPullStartNoti, .callHistoryPullNoti,
    .callHistoryPullEndNoti, .pbapSessionEndNoti, .incomingCallNoti, .outgoingCallNoti,
    .callStateChangedNoti, .callEndedNoti, .dialCallNoti, .answerCallNoti, .hangupCallNoti]

variable {memory cmd isSuccess msgInfo}

theorem makeMsgNoti_of_mem (known : cmd ∈ commands) :
    makeMsgNoti memory cmd isSuccess msgInfo =
      SignalAddress.coreManager.makeMsgNoti memory cmd isSuccess msgInfo := by
  cases cmd <;> first | rfl | exact absurd known (by decide)

theorem makeMsgNoti_of_not_mem (unknown : cmd ∉ commands) :
    makeMsgNoti memory cmd isSuccess msgInfo =
      .error "HMSenderFactory makeMsgNoti Error: Unknown DBusCommand" := by
  cases cmd <;> first | rfl | exact absurd (by decide) unknown

end HMSenderFactory

namespace RMSenderFactory

variable (memory : Memory) (cmd : DBusCommand) (isSuccess : Bool) (msgInfo : DBusDataInfo)

def makeMsgNotiStartRecord : Except String DBusMessage :=
  SignalAddress.coreManager.makeMsgNoti memory cmd isSuccess msgInfo

def makeMsgNotiStopRecord : Except String DBusMessage :=
  SignalAddress.coreManager.makeMsgNoti memory cmd isSuccess msgInfo

def makeMsgNotiCancelRecord : Except String DBusMessage :=
  SignalAddress.coreManager.makeMsgNoti memory cmd isSuccess msgInfo

def makeMsgNotiFilterWavFile : Except String DBusMessage :=
  SignalAddress.coreManager.makeMsgNoti memory cmd isSuccess msgInfo

def makeMsgNoti : Except String DBusMessage :=
  match cmd with
  | .startRecordNoti => makeMsgNotiStartRecord memory cmd isSuccess msgInfo
  | .stopRecordNoti => makeMsgNotiStopRecord memory cmd isSuccess msgInfo
  | .cancelRecordNoti => makeMsgNotiCancelRecord memory cmd isSuccess msgInfo
  | .filterWavFileNoti => makeMsgNotiFilterWavFile memory cmd isSuccess msgInfo
  | _ => .error "RMSenderFactory makeMsgNoti Error: Unknown DBusCommand"

/-- The commands that the factory knows. -/
def commands : List DBusCommand :=
  [.startRecordNoti, .stopRecordNoti, .cancelRecordNoti, .filterWavFileNoti]

variable {memory cmd isSuccess msgInfo}

theorem makeMsgNoti_of_mem (known : cmd ∈ commands) :
    makeMsgNoti memory cmd isSuccess msgInfo =
      SignalAddress.coreManager.makeMsgNoti memory cmd isSuccess msgInfo := by
  cases cmd <;> first | rfl | exact absurd known (by decide)

theorem makeMsgNoti_of_not_mem (unknown : cmd ∉ commands) :
    makeMsgNoti memory cmd isSuccess msgInfo =
      .error "RMSenderFactory makeMsgNoti Error: Unknown DBusCommand" := by
  cases cmd <;> first | rfl | exact absurd (by decide) unknown

end RMSenderFactory

/-- The processes that send notifications, each with its own `msgMaker`. -/
inductive Notifier where
  | hardwareManager
  | recordManager
deriving DecidableEq

namespace Notifier

def makeMsgNoti (memory : Memory) (cmd : DBusCommand) (isSuccess : Bool)
    (msgInfo : DBusDataInfo) : Notifier → Except String DBusMessage
  | hardwareManager => HMSenderFactory.makeMsgNoti memory cmd isSuccess msgInfo
  | recordManager => RMSenderFactory.makeMsgNoti memory cmd isSuccess msgInfo

def commands : Notifier → List DBusCommand
  | hardwareManager => HMSenderFactory.commands
  | recordManager => RMSenderFactory.commands

/-- `DBusSenderBase::sendMessageNoti`, with the messages that reach the bus. -/
def sendMessageNoti (notifier : Notifier) (memory : Memory) (cmd : DBusCommand)
    (isSuccess : Bool) (dataInfo : DBusDataInfo) : List DBusMessage :=
  match notifier.makeMsgNoti memory cmd isSuccess dataInfo with
  | .ok msg => DBusSender.sendMessageInternal memory (5 + dbusDataMax) msg
  | .error _ => []

variable {notifier : Notifier} {memory : Memory} {cmd : DBusCommand} {isSuccess : Bool}
  {dataInfo : DBusDataInfo}

theorem makeMsgNoti_of_mem (known : cmd ∈ notifier.commands) :
    notifier.makeMsgNoti memory cmd isSuccess dataInfo =
      SignalAddress.coreManager.makeMsgNoti memory cmd isSuccess dataInfo := by
  cases notifier with
  | hardwareManager => exact HMSenderFactory.makeMsgNoti_of_mem known
  | recordManager => exact RMSenderFactory.makeMsgNoti_of_mem known

/-- Whatever is sent is a notification for the core that the factory knows. -/
theorem made_of_sent {msg : DBusMessage}
    (sent : msg ∈ notifier.sendMessageNoti memory cmd isSuccess dataInfo) :
    cmd ∈ notifier.commands ∧
      SignalAddress.coreManager.makeMsgNoti memory cmd isSuccess dataInfo = .ok msg := by
  unfold sendMessageNoti at sent
  split at sent
  · next built made =>
      have known : cmd ∈ notifier.commands := by
        by_contra unknown
        cases notifier with
        | hardwareManager =>
            rw [makeMsgNoti, HMSenderFactory.makeMsgNoti_of_not_mem unknown] at made
            cases made
        | recordManager =>
            rw [makeMsgNoti, RMSenderFactory.makeMsgNoti_of_not_mem unknown] at made
            cases made
      refine ⟨known, ?_⟩
      rw [← makeMsgNoti_of_mem known, made]
      unfold DBusSender.sendMessageInternal at sent
      split at sent
      · rw [List.mem_singleton.mp sent]
      · cases sent
  · cases sent

/-- With the memory for it, a notification is sent. -/
theorem exists_sent (granted : ∀ call < 6 + dbusDataMax, memory call)
    (known : cmd ∈ notifier.commands) :
    ∃ msg, notifier.sendMessageNoti memory cmd isSuccess dataInfo = [msg] := by
  obtain ⟨msg, built⟩ : ∃ msg,
      SignalAddress.coreManager.makeMsgNoti memory cmd isSuccess dataInfo = .ok msg :=
    ⟨_, ISenderFactory.makeMsgNotiInternal_eq_ok_iff.mpr
      ⟨fun call inside => granted call (by omega), rfl⟩⟩
  refine ⟨msg, ?_⟩
  rw [sendMessageNoti, makeMsgNoti_of_mem known, built]
  exact if_pos (granted _ (by omega))

end Notifier

end RaspberryPiService
