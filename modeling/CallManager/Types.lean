import Mathlib.Data.Int.Notation
import Mathlib.Data.List.TakeWhile
import Mathlib.Data.Nat.Notation
import Mathlib.Tactic.Common

/-!
# Enumerations and result codes

The enumerations of `call_manager_base.h` and of `conference_base.h`, and the result codes
the modelled functions return.

In all modules a file of the source is cited by its name alone, which no other file of it
has, and `file:10-20` are its lines 10 to 20.
-/

namespace CallManager

/-- `CallType` (call_manager_base.h:119-148). -/
inductive CallType
  | cs | ims | ott | errCall | voip | satellite | bluetooth
  deriving DecidableEq, Repr, Inhabited

/-- `TelCallState` (call_manager_base.h:153-198). -/
inductive TelCallState
  | unknown | active | holding | dialing | alerting | incoming | waiting
  | disconnected | disconnecting | idle | answered
  deriving DecidableEq, Repr, Inhabited

/-- `TelConferenceState` (call_manager_base.h:203-224). -/
inductive TelConferenceState
  | idle | active | holding | disconnecting | disconnected
  deriving DecidableEq, Repr, Inhabited

/-- `ConferenceState` (conference_base.h:33-39). -/
inductive ConferenceState
  | idle | creating | holding | active | leaving
  deriving DecidableEq, Repr

/-- `CallRunningState` (call_manager_base.h, from line 301). -/
inductive CallRunningState
  | create | connecting | dialing | ringing | active | hold | ended | ending
  deriving DecidableEq, Repr, Inhabited

/-- `RttCallState` (call_manager_base.h:867-887). -/
inductive RttCallState
  | no | yes | remoteTty | remoteNotSupport
  deriving DecidableEq, Repr

/-- `VideoStateType` (call_manager_base.h:243-260). -/
inductive VideoStateType
  | voice | sendOnly | receiveOnly | video
  deriving DecidableEq, Repr, Inhabited

/-- `ImsCallMode` (call_manager_inner_type.h:396-402); `other` is any further value a request
    may carry. -/
inductive ImsCallMode
  | audioOnly | sendOnly | receiveOnly | sendReceive | videoPaused
  | other (mode : ℤ)
  deriving DecidableEq, Repr

/-- `VideoRequestResultType` (call_manager_inner_type.h:429-438). -/
inductive VideoRequestResultType
  | success | fail | invalid | timedOut | rejectedByRemote | upgradeCanceled
  | modifyDowngradeRtpOrRtcpTimeout | modifyDowngradeRtpAndRtcpTimeout
  deriving DecidableEq, Repr

/-- `AudioDeviceType` (call_manager_base.h:577-629). -/
inductive AudioDeviceType
  | earpiece | speaker | wiredHeadset | bluetoothSco | disable | unknown
  | distributedAutomotive | distributedPhone | distributedPad | distributedPc | nearlink
  | bluetoothHearingAid
  deriving DecidableEq, Repr

/-- The result codes of the modelled functions (call_manager_errors.h and the platform's own
    codes); `other` is any further code a platform interface may return. -/
inductive ErrorCode
  | telephonySuccess
  | telephonyError
  | telephonyErrFail
  | telephonyErrLocalPtrNull
  | telephonyErrMemsetFail
  | telephonyErrMemcpyFail
  | callErrPhoneNumberEmpty
  | callErrNumberOutOfRange
  | telephonyErrArgumentInvalid
  | telephonyErrPolicyDisabled
  | telephonyErrNoSimCard
  | telephonyErrAirplaneModeOn
  | telephonyErrNetworkNotInService
  | callErrUnknowDialType
  | callErrUnknowCallType
  | callErrDialFailed
  | callErrTransferCallAliveForbiddenDial
  | callErrInvalidSlotId
  | callErrInvalidCallId
  | callErrCallObjectIsNull
  | callErrNotNewState
  | callErrDialIsBusy
  | callErrPhoneCallAlreadyExists
  | callErrPhoneCallstateNotifyFailed
  | callErrPhoneTypeUnexpected
  | callErrCallCountsExceedLimit
  | callErrConferenceNotExists
  | callErrConferenceCallExceedLimit
  | callErrConferenceSeperateFailed
  | callErrConferenceCallIsNotActive
  | callErrTheCallIsNotInTheConference
  | callErrIllegalCallOperation
  | callErrCallState
  | callErrCallStateMismatchOperation
  | callErrCallIsNotOnHolding
  | callErrVideoIlleagalScenario
  | callErrVideoNotSupported
  | callErrVideoInProgress
  | callErrVideoIllegalMediaType
  | callErrAudioUnknownTone
  | callErrAudioTonePlayFailed
  | callErrAudioToneStopFailed
  | other (code : ℤ)
  deriving DecidableEq, Repr

/-- The fields of `VoipCallReportInfo` that tell VoIP calls apart (call_manager_info.h:85-100),
    with their initial values. -/
structure VoipCallReportInfo where
  voipCallId : String := ""
  voipBundleName : String := ""
  uid : ℤ := 0
  deriving DecidableEq, Repr, Inhabited

/-- The fields of `CallDetailInfo`, one call of a modem report, that the modelled functions use
    (call_manager_info.h:636-796). -/
structure CallDetailInfo where
  index : ℤ
  phoneNum : String
  accountId : ℤ
  callType : CallType
  callMode : VideoStateType
  state : TelCallState
  mpty : ℤ
  phoneOrWatch : ℤ
  antiFraudState : ℤ
  phoneIndex : ℤ
  voipCallInfo : VoipCallReportInfo
  deriving DecidableEq, Repr

/-- `CallDetailsInfo`, a modem report: the calls of one slot (call_manager_info.h:798-811). -/
structure CallDetailsInfo where
  callVec : List CallDetailInfo
  slotId : ℤ
  deriving DecidableEq, Repr

/-- `kMaxNumberLen` (call_manager_base.h:30). -/
def maxNumberLen : ℕ := 255

/-- A `std::string`: its bytes. -/
abbrev ByteString := List UInt8

/-- What a string leaves in a zeroed `char` array, read as a C string: its bytes
    up to the first zero. -/
def cString (s : ByteString) : ByteString := s.takeWhile fun c => c ≠ 0

theorem cString_append {s : ByteString} (h : 0 ∉ s) (rest : ByteString) :
    cString (s ++ rest) = s ++ cString rest := by
  refine List.takeWhile_append_of_pos fun c hc => ?_
  have hne : c ≠ 0 := fun h0 => h (h0 ▸ hc)
  simpa using hne

/-- What is written before the first zero is the C string. -/
theorem cString_append_zero {s : ByteString} (h : 0 ∉ s) (rest : ByteString) :
    cString (s ++ 0 :: rest) = s := by
  rw [cString_append h]
  simp [cString]

/-- A string without a zero is its C string. -/
theorem cString_of_notMem {s : ByteString} (h : 0 ∉ s) : cString s = s := by
  have happ := cString_append h []
  rwa [List.append_nil, show cString [] = [] from rfl, List.append_nil] at happ

theorem cString_cons_of_ne {c : UInt8} (hc : c ≠ 0) (s : ByteString) :
    cString (c :: s) = c :: cString s := by
  simp [cString, hc]

theorem cString_length_le (s : ByteString) : (cString s).length ≤ s.length :=
  (List.takeWhile_prefix _).length_le

theorem zero_notMem_cString (s : ByteString) : 0 ∉ cString s := fun h => by
  simpa using List.mem_takeWhile_imp h

/-- `ERR_ID` (call_manager_base.h:62). -/
def errId : ℤ := -1

end CallManager
