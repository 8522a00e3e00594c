import CallManager.CallIdentity
import CallManager.CallsReport
import CallManager.DeferredDial
import CallManager.Conference
import CallManager.VideoCall
import CallManager.AudioScene
import CallManager.CallStatusManager
import CallManager.CallUiConnection
import CallManager.Library.KeyedLog
import CallManager.NotificationChain
import CallManager.ConferenceBook
import CallManager.ConferenceActions
import CallManager.ConferenceLeave
import CallManager.ConferenceMembership
import CallManager.UserDeviceChoice
import CallManager.DialPolicy
import CallManager.AudioDeviceList
import CallManager.Library.Parcel
import CallManager.ReportTransport
import CallManager.VoipList
import CallManager.DistributedQuery
import CallManager.Library.Mutex
import CallManager.StoreLock
import CallManager.StoredCalls
import CallManager.DialSlot
import CallManager.AntiFraud
import CallManager.Library.Endless
import CallManager.PendingHangup
import CallManager.DistributedTeardown
import CallManager.DistributedPeers
import CallManager.RttSession
import CallManager.Library.Unicode
import CallManager.RttText
import CallManager.SuperPrivacy
import CallManager.InteroperableSlots
import CallManager.Library.SortedMap
import CallManager.VoiceAssistant
import CallManager.CallAttributeCodec
import CallManager.EmergencyCalls
import CallManager.RefreshedCall
import CallManager.EmergencyLocation
import CallManager.AntiFraudResults
import CallManager.AppRequests
import CallManager.AppReplies
import CallManager.CallStateReport
import CallManager.MuteChoice
import CallManager.DistributedDevices
import CallManager.SpamDetection
import CallManager.CallCommands
import CallManager.CallLog
import CallManager.CallLookups
import CallManager.AnswerArbitration
import CallManager.AnswerRequests
import CallManager.ModemReports
import CallManager.AutoUnhold
import CallManager.DialErrors
import CallManager.FailedDials
import CallManager.ArbitrationState
import CallManager.Library.LockOrder
import CallManager.AudioLocks
import CallManager.AudioLockOrder
import CallManager.Ringing
import CallManager.ChallengeTokens
import CallManager.CombineConference
import CallManager.VideoAnswers
import CallManager.CallControl
import CallManager.Library.StopLoop
import CallManager.BulkHangUp
import CallManager.DeferredAnswer
import CallManager.HangUpChoice
import CallManager.DeviceSwitch
import CallManager.PhoneNumber
import CallManager.RttReceive
import CallManager.AssistantText
import CallManager.CallRecords
import CallManager.CallTimes
import CallManager.HandsFreeState
import CallManager.CallbackCodec
import CallManager.DistributedAnswers
import CallManager.ImsRouting
import CallManager.LinkLoss
import CallManager.ConferenceCalls
import CallManager.Tones
import CallManager.CrsVolume
import CallManager.AppCallbacks
import CallManager.WatchAnswers
