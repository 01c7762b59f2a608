import RaspberryPiService.AdapterAgreement
import RaspberryPiService.CallAgreement
import RaspberryPiService.ClientCommands
import RaspberryPiService.CommandAnswers
import RaspberryPiService.Common.EventLoop
import RaspberryPiService.CoreManager.ConfirmationTimers
import RaspberryPiService.CoreManager.DBThreadPool
import RaspberryPiService.CoreManager.Handlers
import RaspberryPiService.CoreManager.MainWorker
import RaspberryPiService.CoreManager.RecordIds
import RaspberryPiService.CoreManager.RecordList
import RaspberryPiService.CoreManager.RecordTable
import RaspberryPiService.CoreManager.RemoveRecord
import RaspberryPiService.CoreManager.SessionStreams
import RaspberryPiService.CoreManager.ShownFlags
import RaspberryPiService.CoreManager.ShownMessages
import RaspberryPiService.CoreManager.StateUpdates
import RaspberryPiService.CoreManager.TimerIds
import RaspberryPiService.CoreManager.TimerSleep
import RaspberryPiService.CoreManager.TimerThreads
import RaspberryPiService.CoreManager.WriteQueue
import RaspberryPiService.DeviceList
import RaspberryPiService.DisplayedTemperature
import RaspberryPiService.HardwareManager.ActiveModem
import RaspberryPiService.HardwareManager.AgentAnswers
import RaspberryPiService.HardwareManager.CallHistory
import RaspberryPiService.HardwareManager.CommandReplies
import RaspberryPiService.HardwareManager.DevicePaths
import RaspberryPiService.HardwareManager.DeviceProperties
import RaspberryPiService.HardwareManager.DeviceSignals
import RaspberryPiService.HardwareManager.MainWorker
import RaspberryPiService.NotificationSenders
import RaspberryPiService.PairingDecision
import RaspberryPiService.PairingWait
import RaspberryPiService.PlayableRecordings
import RaspberryPiService.RecordManager.CancelDiscards
import RaspberryPiService.RecordManager.FilterCleanup
import RaspberryPiService.RecordManager.RecordingNames
import RaspberryPiService.RecordManager.ReportedCopies
import RaspberryPiService.RecordManager.SessionFrames
import RaspberryPiService.RecordManager.StartAnswers
import RaspberryPiService.RecordManager.StopWakesWorker
import RaspberryPiService.RecordManager.WavBytes
import RaspberryPiService.RecordProtocol
import RaspberryPiService.RecordedFiles
import RaspberryPiService.ShownNotifications
import RaspberryPiService.SingleCall
import RaspberryPiService.Transition.BroadcastLog
import RaspberryPiService.Transition.Convergence
import RaspberryPiService.Transition.Publication
import RaspberryPiService.Transition.Refinement
