import CallManager.CallBase
import CallManager.StoredCalls
import Mathlib.Data.Finset.Basic
import Mathlib.Data.Finset.Dedup

/-!
# Whether a dial is admitted

`CallControlManager::CanDial` asks `CallPolicy::DialPolicy` and then
`CallPolicy::CanDialMulityCall` whether a number may be dialed: a chain of
checks, each in a function of its own. A number that has been recognised as an
emergency number (`isEcc`) is meant to pass all of them but those of the
request's own fields.

What the checks ask of the other services, and the build options they depend
on, is in `PolicyEnv`. The dialogs that go with a refusal are left out.

Results:
* `canDial_ecc_iff`: a well-formed emergency dial is admitted iff the
  enterprise policy admits its number, it adds no video call to an ongoing call
  without video call waiting, and the device is not a connected sink with a
  call.
* `blocked_emergency_number`: an emergency number on the block list is refused.
* `canDial_mono`: what is admitted as a normal dial is admitted as an emergency
  dial.
* `checkCallLimit_sound_iff`: what `CheckCallLimit` admits finds the line free iff
  its checks are compiled in and, for a voice dial, the last ringing call is no
  other than a carrier voice call if there is such a call ringing.
-/

namespace CallManager

/-! ## The state that the checks read -/

/-- `DialType` (call_manager_base.h:362-379). -/
inductive DialType
  | carrier | voiceMail | ott | bluetooth
  deriving DecidableEq, Repr

/-- `DialScene` (call_manager_base.h:265-278). -/
inductive DialScene
  | normal | privileged | emergency
  deriving DecidableEq, Repr

/-- The enumerator of a number. -/
def DialType.ofInt : ℤ → Option DialType
  | 0 => some .carrier
  | 1 => some .voiceMail
  | 2 => some .ott
  | 3 => some .bluetooth
  | _ => none

/-- The enumerator of a number. -/
def DialScene.ofInt : ℤ → Option DialScene
  | 0 => some .normal
  | 1 => some .privileged
  | 2 => some .emergency
  | _ => none

/-- The enumerator of a number (call_manager_base.h:119-148). -/
def CallType.ofInt : ℤ → Option CallType
  | 0 => some .cs
  | 1 => some .ims
  | 2 => some .ott
  | 3 => some .errCall
  | 4 => some .voip
  | 5 => some .satellite
  | 6 => some .bluetooth
  | _ => none

/-- The enumerator of a number (call_manager_base.h:243-260). -/
def VideoStateType.ofInt : ℤ → Option VideoStateType
  | 0 => some .voice
  | 1 => some .sendOnly
  | 2 => some .receiveOnly
  | 3 => some .video
  | _ => none

/-- The integers of a dial's `extras`. -/
structure DialExtras where
  dialType : ℤ
  accountId : ℤ
  callType : ℤ
  dialScene : ℤ
  videoState : ℤ
  deriving DecidableEq, Repr

/-- `EdmPolicyFlag` (edm_call_policy.h:25-29). -/
inductive EdmPolicyFlag
  | none | block | trust
  deriving DecidableEq, Repr

/-- `EdmCallPolicyList`. -/
structure EdmCallPolicyList where
  policyFlag : EdmPolicyFlag
  numberList : Finset String
  deriving DecidableEq

/-- `EdmCallPolicy`, the enterprise policy: its two lists (edm_call_policy.h:31-50). -/
structure EdmCallPolicy where
  dialingList : EdmCallPolicyList
  incomingList : EdmCallPolicyList
  deriving DecidableEq

/-- A stored call: what a call object has, whether it is an emergency call, and
    whether it has been transferred. -/
structure PolicyCall extends CallBase where
  emergencyState : Bool
  isTransferCall : Bool
  deriving DecidableEq, Repr

/-- `NetworkState`, as far as it is asked for. -/
structure NetworkState where
  isInService : Bool
  isRoaming : Bool
  deriving DecidableEq, Repr

/-- The state of the system that admits a dial: the build (`CALL_MANAGER_CALL_TRANSFER`,
    `SUPPORT_DSOFTBUS`, `CELLULAR_DATA_SUPPORT`), the enterprise policy with its system
    parameter, the calls, the slots, the privacy mode, the answers of the core service, and the
    distributed modem. `ipcConnectStubFail` is `TELEPHONY_ERR_IPC_CONNECT_STUB_FAIL`. -/
structure PolicyEnv where
  callTransfer : Bool
  supportDsoftbus : Bool
  cellularDataSupport : Bool
  telephonyCallDisable : Bool
  edmCallPolicy : EdmCallPolicy
  callObjectPtrList : List PolicyCall
  simSlotCount : ℤ
  ipcConnectStubFail : ℤ
  defaultVoiceSlotId : ℤ
  defaultDataSlotId : ℤ
  hasPrivacyManager : Bool
  canCallWithSuperPrivacyPolicy : Bool
  hasSimCard : ℤ → Bool
  airplaneMode : ErrorCode × Bool
  networkState : ℤ → Option NetworkState
  isImsRegistered : ℤ → Bool
  isCTSimCard : ℤ → Bool
  residentNetworkNumeric : ℤ → String
  simOperatorNumeric : ℤ → String
  videoCallWaiting : ℤ → Bool
  isDistributedConnected : Bool
  isSinkRole : Bool

/-! ## The enterprise policy -/

namespace EdmCallPolicy

/-- The policy of a new object. -/
def init : EdmCallPolicy where
  dialingList := ⟨.none, ∅⟩
  incomingList := ⟨.none, ∅⟩

/-- `MAX_COUNT` (edm_call_policy.cpp:28). -/
def maxCount : ℕ := 1000

/-- The flag and the numbers that `SetCallPolicy` gives a list. -/
def policyList (isTrustlist : Bool) (list : List String) : EdmCallPolicyList where
  policyFlag := if isTrustlist then .trust else .block
  numberList := list.toFinset

/-- `SetCallPolicy` (edm_call_policy.cpp:33-55). -/
def setCallPolicy (p : EdmCallPolicy) (isDialingTrustlist : Bool) (dialingList : List String)
    (isIncomingTrustlist : Bool) (incomingList : List String) : ErrorCode × EdmCallPolicy :=
  if maxCount < dialingList.length ∨ maxCount < incomingList.length then
    (.telephonyErrArgumentInvalid, p)
  else
    (.telephonySuccess,
      ⟨policyList isDialingTrustlist dialingList, policyList isIncomingTrustlist incomingList⟩)

/-- `IsCallEnable` (edm_call_policy.cpp:57-86), with the value of the system parameter. -/
def isCallEnable (telephonyCallDisable : Bool) (phoneNum : String) (list : EdmCallPolicyList) :
    Bool :=
  if telephonyCallDisable then false
  else
    match list.policyFlag with
    | .none => true
    | .block => list.numberList = ∅ ∨ phoneNum ∉ list.numberList
    | .trust => list.numberList = ∅ ∨ phoneNum ∈ list.numberList

end EdmCallPolicy

/-! ## The checks -/

namespace CallPolicy

variable (env : PolicyEnv)

/-- `CheckDialType` (call_policy.cpp:77-85). -/
def checkDialType (dialType : ℤ) : ErrorCode :=
  if DialType.ofInt dialType = none then .telephonyErrArgumentInvalid else .telephonySuccess

/-- `CheckMdmPolicy` with `IsDialingEnable` (call_policy.cpp:87-98, 630-633). -/
def checkMdmPolicy (phoneNum : String) : ErrorCode :=
  if EdmCallPolicy.isCallEnable env.telephonyCallDisable phoneNum env.edmCallPolicy.dialingList
  then .telephonySuccess
  else .telephonyErrPolicyDisabled

/-- `IsValidSlotId` (call_number_utils.cpp:169-175). -/
def isValidSlotId (slotId : ℤ) : Bool := 0 ≤ slotId ∧ slotId < env.simSlotCount

/-- `SelectAccountIdForCarrier` with `SelectAccountId`: the account id it leaves in the extras
    (call_policy.cpp:100-109, call_number_utils.cpp:240-260). -/
def selectAccountIdForCarrier (accountId dialType : ℤ) : ℤ :=
  if DialType.ofInt dialType = some .carrier then
    if isValidSlotId env accountId then accountId
    else if env.defaultVoiceSlotId ≠ env.ipcConnectStubFail ∧
        isValidSlotId env env.defaultVoiceSlotId then
      env.defaultVoiceSlotId
    else if env.cellularDataSupport ∧ env.defaultDataSlotId ≠ env.ipcConnectStubFail ∧
        isValidSlotId env env.defaultDataSlotId then
      env.defaultDataSlotId
    else 0
  else accountId

/-- `IsValidCallType` (call_policy.cpp:272-280). -/
def isValidCallType (callType : ℤ) : ErrorCode :=
  if CallType.ofInt callType ∈
      [some CallType.cs, some .ims, some .ott, some .satellite, some .bluetooth] then
    .telephonySuccess
  else .callErrUnknowCallType

/-- `ValidateCallType` (call_policy.cpp:111-117). -/
def validateCallType (callType : ℤ) : ErrorCode :=
  if isValidCallType callType ≠ .telephonySuccess then .telephonyErrArgumentInvalid
  else .telephonySuccess

/-- `ValidateDialScene` (call_policy.cpp:119-127). -/
def validateDialScene (dialScene : ℤ) : ErrorCode :=
  if DialScene.ofInt dialScene = none then .telephonyErrArgumentInvalid else .telephonySuccess

/-- `ValidateVideoState` (call_policy.cpp:129-136). -/
def validateVideoState (videoState : ℤ) : ErrorCode :=
  if VideoStateType.ofInt videoState ≠ some .voice ∧ VideoStateType.ofInt videoState ≠ some .video
  then .telephonyErrArgumentInvalid
  else .telephonySuccess

/-- `GetOneCallObject(callState)`. -/
def getOneCallObject : CallRunningState → Option PolicyCall :=
  StoredCalls.getOneCallObject (·.callRunningState) env.callObjectPtrList

/-- `IsVoiceCallValid` (call_policy.cpp:259-270). -/
def isVoiceCallValid (videoState : ℤ) : ErrorCode :=
  match getOneCallObject env .ringing with
  | some ringCall =>
    if VideoStateType.ofInt videoState = some .voice ∧ ringCall.videoState = .voice ∧
        ringCall.callType ≠ .voip then
      .callErrCallCountsExceedLimit
    else .telephonySuccess
  | none => .telephonySuccess

/-- `HasNewCall` (call_object_manager.cpp:291-307). -/
def hasNewCall : ErrorCode :=
  if ∃ it ∈ env.callObjectPtrList, it.callType ≠ .voip ∧
      (it.callRunningState ∈ [CallRunningState.create, .connecting, .dialing] ∨
        it.callType = .satellite) then
    .callErrCallCountsExceedLimit
  else .telephonySuccess

/-- `HasTransferCall` (call_object_manager.cpp:1202-1216). -/
def hasTransferCall : Bool := env.callObjectPtrList.any fun it => it.isTransferCall

/-- `HasEmergencyCall` (call_object_manager.cpp:450-461), which always succeeds. -/
def hasEmergencyCall : Bool := env.callObjectPtrList.any fun it => it.emergencyState

/-- `CheckCallLimit` (call_policy.cpp:138-159). -/
def checkCallLimit (isEcc : Bool) (videoState : ℤ) : ErrorCode :=
  if isEcc then .telephonySuccess
  else if env.callTransfer ∧ hasTransferCall env then .callErrTransferCallAliveForbiddenDial
  else if env.callTransfer ∧ (isVoiceCallValid env videoState ≠ .telephonySuccess ∨
      hasNewCall env ≠ .telephonySuccess) then
    .callErrCallCountsExceedLimit
  else if hasEmergencyCall env then .callErrCallCountsExceedLimit
  else .telephonySuccess

/-- `MCC_LEN`, `CHN_MCC` and `MC_MCC` (call_policy.h:32-34). -/
def mccLen : ℕ := 3

/-- `IsCtSimCardSwitchToChnOrMc` (call_policy.cpp:234-247). -/
def isCtSimCardSwitchToChnOrMc (slotId : ℤ) : Bool :=
  let regPlmn := (env.residentNetworkNumeric slotId).toList
  let simOperator := (env.simOperatorNumeric slotId).toList
  if regPlmn = [] ∨ simOperator = [] ∨ regPlmn.length < mccLen ∨ simOperator.length < mccLen then
    false
  else
    (regPlmn.take mccLen = ['4', '6', '0'] ∧ simOperator.take mccLen = ['4', '6', '0']) ∨
      (regPlmn.take mccLen = ['4', '5', '5'] ∧ simOperator.take mccLen = ['4', '5', '5'])

/-- `HasNormalCall` (call_policy.cpp:190-232). -/
def hasNormalCall (isEcc : Bool) (slotId : ℤ) (callType : Option CallType) : ErrorCode :=
  if isEcc ∨ callType = some .satellite ∨ callType = some .bluetooth then .telephonySuccess
  else if env.hasSimCard slotId = false then .telephonyErrNoSimCard
  else if env.airplaneMode = (.telephonySuccess, true) then .telephonyErrAirplaneModeOn
  else
    match env.networkState slotId with
    | none => .telephonyErrNetworkNotInService
    | some networkState =>
      if networkState.isInService = false then .telephonyErrNetworkNotInService
      else if env.isCTSimCard slotId ∧ networkState.isRoaming = false ∧
          env.isImsRegistered slotId = false ∧ isCtSimCardSwitchToChnOrMc env slotId then
        .callErrDialFailed
      else .telephonySuccess

/-- `SuperPrivacyMode` (call_policy.cpp:161-188). -/
def superPrivacyMode (extras : DialExtras) (isEcc : Bool) : ErrorCode :=
  let callType := CallType.ofInt extras.callType
  if isEcc then hasNormalCall env isEcc extras.accountId callType
  else if DialScene.ofInt extras.dialScene = some .emergency then
    hasNormalCall env isEcc extras.accountId callType
  else if env.hasPrivacyManager = false then hasNormalCall env isEcc extras.accountId callType
  else if env.canCallWithSuperPrivacyPolicy = false then .callErrDialFailed
  else hasNormalCall env isEcc extras.accountId callType

/-- `DialPolicy` (call_policy.cpp:39-75), with the extras it leaves. -/
def dialPolicy (number : String) (extras : DialExtras) (isEcc : Bool) : ErrorCode × DialExtras :=
  let ret := checkDialType extras.dialType
  if ret ≠ .telephonySuccess then (ret, extras)
  else
    let ret := checkMdmPolicy env number
    if ret ≠ .telephonySuccess then (ret, extras)
    else
      let accountId := selectAccountIdForCarrier env extras.accountId extras.dialType
      let extras := { extras with accountId := accountId }
      let ret := validateCallType extras.callType
      if ret ≠ .telephonySuccess then (ret, extras)
      else
        let ret := validateDialScene extras.dialScene
        if ret ≠ .telephonySuccess then (ret, extras)
        else
          let ret := validateVideoState extras.videoState
          if ret ≠ .telephonySuccess then (ret, extras)
          else
            let ret := checkCallLimit env isEcc extras.videoState
            if ret ≠ .telephonySuccess then (ret, extras)
            else (superPrivacyMode env extras isEcc, extras)

/-- `HasCellularCallExist` (call_object_manager.cpp:518-533). -/
def hasCellularCallExist : Bool :=
  env.callObjectPtrList.any fun it =>
    it.callType ∈ [CallType.cs, .ims, .satellite, .bluetooth] ∧
      it.callState ≠ .disconnected ∧ it.callState ≠ .disconnecting

/-- `HasVideoCall` (call_object_manager.cpp:602-612). -/
def hasVideoCall : Bool :=
  env.callObjectPtrList.any fun it => it.videoState = .video ∧ it.callType ≠ .voip

/-- `CanDialMulityCall` (call_policy.cpp:282-307). -/
def canDialMulityCall (extras : DialExtras) (isEcc : Bool) : ErrorCode :=
  let videoState := VideoStateType.ofInt extras.videoState
  let enabled := env.videoCallWaiting extras.accountId
  if enabled = false ∧ videoState = some .video ∧ hasCellularCallExist env then .callErrDialIsBusy
  else if enabled = false ∧ isEcc = false ∧ videoState = some .voice ∧ hasVideoCall env then
    .callErrDialIsBusy
  else if env.supportDsoftbus ∧ env.isDistributedConnected ∧ env.isSinkRole ∧
      hasCellularCallExist env then
    .callErrCallCountsExceedLimit
  else .telephonySuccess

end CallPolicy

/-- `CanDial` (call_control_manager.cpp:217-230). -/
def CallControlManager.canDial (env : PolicyEnv) (number : String) (extras : DialExtras)
    (isEcc : Bool) : ErrorCode :=
  let (ret, extras) := CallPolicy.dialPolicy env number extras isEcc
  if ret ≠ .telephonySuccess then ret
  else CallPolicy.canDialMulityCall env extras isEcc

/-! ## Specification -/

namespace CallPolicy

variable {env : PolicyEnv} {number : String} {extras : DialExtras} {isEcc : Bool}

/-- The request's own fields are well-formed. -/
structure ValidExtras (env : PolicyEnv) (extras : DialExtras) : Prop where
  dialType : checkDialType extras.dialType = .telephonySuccess
  callType : validateCallType extras.callType = .telephonySuccess
  dialScene : validateDialScene extras.dialScene = .telephonySuccess
  videoState : validateVideoState extras.videoState = .telephonySuccess
  accountId : isValidSlotId env extras.accountId = true

/-- A well-formed emergency dial is admitted. -/
def EccBypass (env : PolicyEnv) (number : String) (extras : DialExtras) : Prop :=
  ValidExtras env extras → CallControlManager.canDial env number extras true = .telephonySuccess

/-- What the checks demand of an emergency dial: that the enterprise policy
    admits the number, that a video call is not added to a call without video
    call waiting, and that no call is added to one on a connected sink. -/
structure EccAdmissible (env : PolicyEnv) (number : String) (extras : DialExtras) : Prop where
  mdm : EdmCallPolicy.isCallEnable env.telephonyCallDisable number env.edmCallPolicy.dialingList =
    true
  video : env.videoCallWaiting extras.accountId = true ∨
    VideoStateType.ofInt extras.videoState ≠ some .video ∨ hasCellularCallExist env = false
  sink : ¬ (env.supportDsoftbus = true ∧ env.isDistributedConnected = true ∧
    env.isSinkRole = true ∧ hasCellularCallExist env = true)

/-! ## The chain of checks -/

/-- The extras that `SelectAccountIdForCarrier` leaves. -/
def selected (env : PolicyEnv) (extras : DialExtras) : DialExtras :=
  { extras with accountId := selectAccountIdForCarrier env extras.accountId extras.dialType }

/-- A valid account id is left alone. -/
theorem selected_of_valid (h : isValidSlotId env extras.accountId = true) :
    selected env extras = extras := by
  unfold selected selectAccountIdForCarrier
  rw [if_pos h, ite_self]

/-- `DialPolicy` succeeds iff each of its checks does. -/
theorem dialPolicy_eq_success :
    (dialPolicy env number extras isEcc).1 = .telephonySuccess ↔
      checkDialType extras.dialType = .telephonySuccess ∧
        checkMdmPolicy env number = .telephonySuccess ∧
        validateCallType extras.callType = .telephonySuccess ∧
        validateDialScene extras.dialScene = .telephonySuccess ∧
        validateVideoState extras.videoState = .telephonySuccess ∧
        checkCallLimit env isEcc extras.videoState = .telephonySuccess ∧
        superPrivacyMode env (selected env extras) isEcc = .telephonySuccess := by
  unfold dialPolicy
  dsimp only
  split_ifs <;> simp_all [selected]

/-- When it succeeds, it has selected the account id. -/
theorem dialPolicy_extras
    (h : (dialPolicy env number extras isEcc).1 = .telephonySuccess) :
    (dialPolicy env number extras isEcc).2 = selected env extras := by
  obtain ⟨htype, hmdm, -⟩ := dialPolicy_eq_success.mp h
  unfold dialPolicy
  dsimp only
  rw [if_neg (by simpa using htype), if_neg (by simpa using hmdm)]
  split_ifs <;> rfl

theorem canDial_eq_success :
    CallControlManager.canDial env number extras isEcc = .telephonySuccess ↔
      (dialPolicy env number extras isEcc).1 = .telephonySuccess ∧
        canDialMulityCall env (selected env extras) isEcc = .telephonySuccess := by
  unfold CallControlManager.canDial
  dsimp only
  by_cases hret : (dialPolicy env number extras isEcc).1 = .telephonySuccess
  · rw [if_neg (by simpa using hret), dialPolicy_extras hret]
    simp [hret]
  · rw [if_pos hret]
    simp [hret]

/-! ## Emergency dials -/

/-- `CheckCallLimit` exempts emergency dials. -/
theorem checkCallLimit_ecc (videoState : ℤ) :
    checkCallLimit env true videoState = .telephonySuccess := rfl

/-- `SuperPrivacyMode`, with the checks of `HasNormalCall`, exempts emergency dials. -/
theorem superPrivacyMode_ecc : superPrivacyMode env extras true = .telephonySuccess := by
  unfold superPrivacyMode hasNormalCall
  rfl

theorem checkMdmPolicy_eq_success :
    checkMdmPolicy env number = .telephonySuccess ↔
      EdmCallPolicy.isCallEnable env.telephonyCallDisable number env.edmCallPolicy.dialingList =
        true := by
  unfold checkMdmPolicy
  split_ifs with h
  · exact iff_of_true rfl h
  · exact iff_of_false nofun h

/-- `CanDialMulityCall` exempts emergency dials from one of its three checks. -/
theorem canDialMulityCall_ecc :
    canDialMulityCall env extras true = .telephonySuccess ↔
      (env.videoCallWaiting extras.accountId = true ∨
        VideoStateType.ofInt extras.videoState ≠ some .video ∨ hasCellularCallExist env = false) ∧
      ¬ (env.supportDsoftbus = true ∧ env.isDistributedConnected = true ∧ env.isSinkRole = true ∧
        hasCellularCallExist env = true) := by
  unfold canDialMulityCall
  dsimp only
  split_ifs with hvideo hvoice hsink
  · exact iff_of_false nofun fun h => by simp_all
  · exact absurd hvoice.2.1 (by simp)
  · exact iff_of_false nofun fun h => h.2 hsink
  · refine iff_of_true rfl ⟨?_, hsink⟩
    by_contra hnot
    simp only [not_or, Bool.not_eq_true, Bool.not_eq_false, ne_eq, not_not] at hnot
    exact hvideo hnot

/-- **Main theorem.** A well-formed emergency dial is admitted iff the checks
    that do not exempt it are met. -/
theorem canDial_ecc_iff (env : PolicyEnv) (number : String) (extras : DialExtras)
    (hvalid : ValidExtras env extras) :
    CallControlManager.canDial env number extras true = .telephonySuccess ↔
      EccAdmissible env number extras := by
  rw [canDial_eq_success, dialPolicy_eq_success, selected_of_valid hvalid.accountId,
    canDialMulityCall_ecc, checkMdmPolicy_eq_success]
  constructor
  · rintro ⟨⟨-, hmdm, -⟩, hvideo, hsink⟩
    exact ⟨hmdm, hvideo, hsink⟩
  · rintro ⟨hmdm, hvideo, hsink⟩
    exact ⟨⟨hvalid.dialType, hmdm, hvalid.callType, hvalid.dialScene, hvalid.videoState,
      checkCallLimit_ecc _, superPrivacyMode_ecc⟩, hvideo, hsink⟩

/-- A phone with one slot and nothing out of the ordinary: no policy, no calls,
    in airplane mode and without a SIM card. -/
def phone : PolicyEnv where
  callTransfer := false
  supportDsoftbus := true
  cellularDataSupport := true
  telephonyCallDisable := false
  edmCallPolicy := EdmCallPolicy.init
  callObjectPtrList := []
  simSlotCount := 2
  ipcConnectStubFail := -1
  defaultVoiceSlotId := 0
  defaultDataSlotId := 0
  hasPrivacyManager := true
  canCallWithSuperPrivacyPolicy := false
  hasSimCard _ := false
  airplaneMode := (.telephonySuccess, true)
  networkState _ := none
  isImsRegistered _ := false
  isCTSimCard _ := false
  residentNetworkNumeric _ := ""
  simOperatorNumeric _ := ""
  videoCallWaiting _ := false
  isDistributedConnected := false
  isSinkRole := false

/-- A carrier dial of an emergency call on slot 0. -/
def emergencyExtras (videoState : ℤ) : DialExtras where
  dialType := 0
  accountId := 0
  callType := 1
  dialScene := 2
  videoState := videoState

/-- An emergency dial in airplane mode, without a SIM card and in a privacy
    mode that forbids calls. -/
theorem canDial_ecc_phone :
    ValidExtras phone (emergencyExtras 0) ∧
      (CallControlManager.canDial phone "112" (emergencyExtras 0) true = .telephonySuccess ↔
        EccAdmissible phone "112" (emergencyExtras 0)) :=
  have hvalid : ValidExtras phone (emergencyExtras 0) :=
    ⟨by decide, by decide, by decide, by decide, by decide⟩
  ⟨hvalid, canDial_ecc_iff phone "112" (emergencyExtras 0) hvalid⟩

/-- An active IMS call. -/
def activeCall : PolicyCall where
  callId := 1
  objectType := .ims
  callType := .ims
  accountNumber := "10086"
  callState := .active
  callRunningState := .active
  conferenceState := .idle
  slotId := 0
  index := 1
  phoneIndex := 0
  phoneOrWatch := 0
  videoState := .voice
  voipCallInfo := {}
  isNonVirtualCall := false
  emergencyState := false
  isTransferCall := false

/-- The system with `112` on the block list. -/
def blocked : PolicyEnv :=
  { phone with edmCallPolicy := (EdmCallPolicy.init.setCallPolicy false ["112"] false []).2 }

/-- The system with an active call. -/
def busy : PolicyEnv := { phone with callObjectPtrList := [activeCall] }

/-- The same as a connected sink. -/
def busySink : PolicyEnv := { busy with isDistributedConnected := true, isSinkRole := true }

/-- An emergency number on the block list is refused; so are a second call with
    video and a second call on a connected sink. -/
theorem blocked_emergency_number :
    ¬ EccBypass blocked "112" (emergencyExtras 0) ∧ ¬ EccBypass busy "112" (emergencyExtras 3) ∧
      ¬ EccBypass busySink "112" (emergencyExtras 0) := by
  refine ⟨fun h => ?_, fun h => ?_, fun h => ?_⟩
  · exact absurd (h ⟨by decide, by decide, by decide, by decide, by decide⟩) (by decide)
  · exact absurd (h ⟨by decide, by decide, by decide, by decide, by decide⟩) (by decide)
  · exact absurd (h ⟨by decide, by decide, by decide, by decide, by decide⟩) (by decide)

/-! ## Emergency and normal dials -/

/-- Every check that a normal dial passes, an emergency dial passes. -/
theorem canDial_mono
    (h : CallControlManager.canDial env number extras false = .telephonySuccess) :
    CallControlManager.canDial env number extras true = .telephonySuccess := by
  rw [canDial_eq_success, dialPolicy_eq_success] at h ⊢
  obtain ⟨⟨htype, hmdm, hcall, hscene, hvideo, -, -⟩, hmulti⟩ := h
  refine ⟨⟨htype, hmdm, hcall, hscene, hvideo, checkCallLimit_ecc _, superPrivacyMode_ecc⟩, ?_⟩
  unfold canDialMulityCall at hmulti ⊢
  dsimp only at hmulti ⊢
  split_ifs at hmulti with hbusy hvoice hsink
  rw [if_neg hbusy, if_neg (by simp), if_neg hsink]

/-! ## The line of a normal dial

`CheckCallLimit` is to keep a normal dial from a line that is taken. The checks
of `IsVoiceCallValid` and `HasNewCall` stand under the build option for the
transfer of calls, with which they have nothing to do. `IsVoiceCallValid` looks
at the last ringing call only, and a VoIP call or a video call may be that. -/

/-- A carrier call that is being set up, or a satellite call. -/
def IsNewCall (it : PolicyCall) : Prop :=
  it.callType ≠ .voip ∧
    (it.callRunningState ∈ [CallRunningState.create, .connecting, .dialing] ∨
      it.callType = .satellite)

/-- A carrier voice call that is ringing. -/
def IsRingingVoice (it : PolicyCall) : Prop :=
  it.callType ≠ .voip ∧ it.videoState = .voice ∧ it.callRunningState = .ringing

/-- A voice dial. -/
def IsVoiceDial (videoState : ℤ) : Prop := VideoStateType.ofInt videoState = some .voice

/-- The line is free for a normal dial. -/
structure LineIsFree (env : PolicyEnv) (videoState : ℤ) : Prop where
  noNewCall : ∀ it ∈ env.callObjectPtrList, ¬ IsNewCall it
  noEmergency : ∀ it ∈ env.callObjectPtrList, it.emergencyState = false
  noRinging : IsVoiceDial videoState → ∀ it ∈ env.callObjectPtrList, ¬ IsRingingVoice it

/-- A normal dial that `CheckCallLimit` admits finds the line free. -/
def LimitSound (env : PolicyEnv) (videoState : ℤ) : Prop :=
  checkCallLimit env false videoState = .telephonySuccess → LineIsFree env videoState

/-- If a carrier voice call is ringing, the last of all ringing calls is one. -/
def RingingShown (env : PolicyEnv) : Prop :=
  (∃ it ∈ env.callObjectPtrList, IsRingingVoice it) →
    ∀ ringCall, getOneCallObject env .ringing = some ringCall → IsRingingVoice ringCall

/-- There is an emergency call; or, with the transfer of calls, there is a
    transferred or a new call, or a voice dial is shown the voice call that rings;
    or, without it, no new call exists and no voice call rings on a voice dial. -/
def LimitGuarded (env : PolicyEnv) (videoState : ℤ) : Prop :=
  (∃ it ∈ env.callObjectPtrList, it.emergencyState = true) ∨
    if env.callTransfer = true then
      (∃ it ∈ env.callObjectPtrList, it.isTransferCall = true ∨ IsNewCall it) ∨
        (IsVoiceDial videoState → RingingShown env)
    else
      (∀ it ∈ env.callObjectPtrList, ¬ IsNewCall it) ∧
        (IsVoiceDial videoState → ∀ it ∈ env.callObjectPtrList, ¬ IsRingingVoice it)

theorem hasEmergencyCall_eq_false :
    hasEmergencyCall env = false ↔ ∀ it ∈ env.callObjectPtrList, it.emergencyState = false := by
  simp [hasEmergencyCall]

theorem hasNewCall_eq_success :
    hasNewCall env = .telephonySuccess ↔ ∀ it ∈ env.callObjectPtrList, ¬ IsNewCall it := by
  unfold hasNewCall
  split_ifs with h
  · obtain ⟨it, hmem, hnew⟩ := h
    exact iff_of_false nofun fun hnone => hnone it hmem hnew
  · exact iff_of_true rfl fun it hmem hnew => h ⟨it, hmem, hnew⟩

/-- What `IsVoiceCallValid` looks at. -/
theorem isVoiceCallValid_eq_success {videoState : ℤ} :
    isVoiceCallValid env videoState = .telephonySuccess ↔
      (IsVoiceDial videoState →
        ∀ ringCall, getOneCallObject env .ringing = some ringCall → ¬ IsRingingVoice ringCall) := by
  unfold isVoiceCallValid
  cases hcall : getOneCallObject env .ringing with
  | none => exact iff_of_true rfl fun _ ringCall h => nomatch h
  | some ringCall =>
    have hringing : ringCall.callRunningState = .ringing := by
      simpa using List.find?_some hcall
    dsimp only
    split_ifs with h
    · refine iff_of_false nofun fun hnone => ?_
      exact hnone h.1 ringCall rfl ⟨h.2.2, h.2.1, hringing⟩
    · refine iff_of_true rfl fun hvoice call hc hring => ?_
      obtain rfl := Option.some.inj hc
      exact h ⟨hvoice, hring.2.1, hring.1⟩

/-- A normal dial is admitted iff there is no emergency call and, with the
    transfer of calls, neither a transferred nor a new call and, on a voice dial,
    no voice call as the last ringing one. -/
theorem checkCallLimit_eq_success {videoState : ℤ} :
    checkCallLimit env false videoState = .telephonySuccess ↔
      (∀ it ∈ env.callObjectPtrList, it.emergencyState = false) ∧
        (env.callTransfer = true →
          (∀ it ∈ env.callObjectPtrList, it.isTransferCall = false) ∧
            isVoiceCallValid env videoState = .telephonySuccess ∧
            ∀ it ∈ env.callObjectPtrList, ¬ IsNewCall it) := by
  have htransfer : hasTransferCall env = false ↔
      ∀ it ∈ env.callObjectPtrList, it.isTransferCall = false := by
    simp [hasTransferCall]
  rw [← hasEmergencyCall_eq_false, ← htransfer, ← hasNewCall_eq_success]
  rw [checkCallLimit, if_neg Bool.false_ne_true]
  split_ifs with htransferred hlimit hemergency
  · refine iff_of_false nofun fun h => ?_
    exact absurd ((h.2 htransferred.1).1.symm.trans htransferred.2) (by decide)
  · refine iff_of_false nofun fun h => ?_
    obtain ⟨-, hvalid, hnew⟩ := h.2 hlimit.1
    exact hlimit.2.elim (fun hnot => hnot hvalid) fun hnot => hnot hnew
  · refine iff_of_false nofun fun h => ?_
    exact absurd (h.1.symm.trans hemergency) (by decide)
  · refine iff_of_true rfl ⟨by simpa using hemergency, fun hon => ?_⟩
    refine ⟨by simpa [hon] using htransferred, ?_⟩
    simpa [hon] using hlimit

/-- The last ringing call is a call of the list, and there is one if any call rings. -/
theorem exists_last_ringing {it : PolicyCall} (hmem : it ∈ env.callObjectPtrList)
    (hring : IsRingingVoice it) : ∃ ringCall, getOneCallObject env .ringing = some ringCall := by
  rw [← Option.isSome_iff_exists, getOneCallObject, StoredCalls.isSome_getOneCallObject]
  exact ⟨it, hmem, hring.2.2⟩

/-- What `CheckCallLimit` admits as a normal dial finds the line free iff the
    checks are compiled in and no other ringing call hides a voice call. -/
theorem checkCallLimit_sound_iff (env : PolicyEnv) (videoState : ℤ) :
    LimitSound env videoState ↔ LimitGuarded env videoState := by
  unfold LimitSound LimitGuarded
  rw [checkCallLimit_eq_success, isVoiceCallValid_eq_success]
  by_cases hemergency : ∃ it ∈ env.callObjectPtrList, it.emergencyState = true
  · obtain ⟨it, hmem, hecc⟩ := hemergency
    refine iff_of_true (fun h => ?_) (.inl ⟨it, hmem, hecc⟩)
    exact absurd ((h.1 it hmem).symm.trans hecc) (by decide)
  · have hnone : ∀ it ∈ env.callObjectPtrList, it.emergencyState = false := by
      intro it hmem
      exact Bool.eq_false_iff.mpr fun h => hemergency ⟨it, hmem, h⟩
    split_ifs with hon
    · constructor
      · intro h
        refine .inr (or_iff_not_imp_left.mpr fun hclear hvoice => ?_)
        push Not at hclear
        rintro ⟨it, hmem, hring⟩ ringCall hlast
        -- were the last ringing call not a voice call, the dial would be admitted
        by_contra hnot
        have hfree : LineIsFree env videoState := by
          refine h ⟨hnone, fun _ => ⟨fun c hc => ?_, fun _ call hcall => ?_, fun c hc => ?_⟩⟩
          · exact Bool.eq_false_iff.mpr (hclear c hc).1
          · obtain rfl := Option.some.inj (hlast.symm.trans hcall)
            exact hnot
          · exact (hclear c hc).2
        exact hfree.noRinging hvoice it hmem hring
      · rintro (hecc | ⟨it, hmem, hbusy⟩ | hshown)
        · exact absurd hecc hemergency
        · intro h
          obtain ⟨htransfer, -, hnew⟩ := h.2 hon
          rcases hbusy with htransferred | hnewCall
          · exact absurd ((htransfer it hmem).symm.trans htransferred) (by decide)
          · exact absurd hnewCall (hnew it hmem)
        · intro h
          obtain ⟨-, hvalid, hnew⟩ := h.2 hon
          refine ⟨hnew, hnone, fun hvoice it hmem hring => ?_⟩
          obtain ⟨ringCall, hlast⟩ := exists_last_ringing hmem hring
          exact hvalid hvoice ringCall hlast (hshown hvoice ⟨it, hmem, hring⟩ ringCall hlast)
    · constructor
      · intro h
        have hfree : LineIsFree env videoState := h ⟨hnone, fun h => absurd h hon⟩
        exact .inr ⟨hfree.noNewCall, hfree.noRinging⟩
      · rintro (hecc | ⟨hnew, hringing⟩)
        · exact absurd hecc hemergency
        · exact fun _ => ⟨hnew, hnone, hringing⟩

/-- A ringing voice call and, added after it, a ringing VoIP call, in a build with
    the transfer of calls. -/
def ringingBehindVoip : PolicyEnv :=
  { phone with
    callTransfer := true
    callObjectPtrList :=
      [{ activeCall with callState := .incoming, callRunningState := .ringing },
        { activeCall with
          callId := 10001, callType := .voip, callState := .incoming
          callRunningState := .ringing }] }

/-- A call that is being dialed, in a build without the transfer of calls. -/
def dialingAlready : PolicyEnv :=
  { phone with
    callObjectPtrList := [{ activeCall with callState := .dialing, callRunningState := .dialing }] }

/-- A voice dial is admitted while a voice call rings behind a VoIP call; without
    the transfer of calls a dial is admitted while another call is dialed. -/
theorem limit_admits_taken_line :
    ¬ LimitSound ringingBehindVoip 0 ∧ ¬ LimitSound dialingAlready 0 := by
  refine ⟨fun h => ?_, fun h => ?_⟩
  · exact (h (by decide)).noRinging rfl _ List.mem_cons_self ⟨by decide, rfl, rfl⟩
  · exact (h (by decide)).noNewCall _ List.mem_cons_self ⟨by decide, .inl (by decide)⟩

end CallPolicy

end CallManager
