import CallManager.CallObjectManager
import CallManager.DeferredDial
import CallManager.DialPolicy
import CallManager.StoredCalls
import CallManager.VoipList
import CallManager.Library.Mutex

/-!
# The lock of the call store

The static functions of `CallObjectManager` guard the call lists by
`listMutex_`, which is not recursive: a function that calls another one while
it holds the lock waits for itself. Here every public function is a program
over that lock, with the functions it calls while it holds it.

`IsNewCallAllowedCreate` collects the carrier calls by `GetCarrierCallList`
while it holds the lock. The task of `DelayedDisconnectCallConnectAbility`
disconnects the call UI while it holds the lock, and may come back to the list
by `CallConnectAbility::SetConnectingFlag`.

The calls' own mutexes and those of the conferences are held only around the
reading of one field and are left out, with the logs.

Results:
* `lockDiscipline_iff`: an operation started with no lock held returns with no
  lock held iff it does not ask for a new call while none is being set up, and
  the delayed disconnection is not disturbed.
* `handleDialingInfo_blocks`: an ordinary dial waits for itself unless a call is
  being set up.
* `isNewCallAllowedCreate_dial`: the answer to the question is the one the
  deferred dial's model has.
* `ordinary_dial_blocks`: asking for a new call with an empty store.
-/

namespace CallManager

open Mutex

/-! ## The store -/

/-- The two mutexes that come to be held together: `listMutex_` of
    `CallObjectManager` and `connectAbilityMutex_` of `CallConnectAbility`. -/
inductive StoreMutex
  | listMutex | connectAbilityMutex
  deriving DecidableEq, Repr

/-- `CallNumberUtils::RemovePostDialPhoneNumber` of the number of a call is this number. -/
def CallBase.HasNumber (c : CallBase) (phoneNumber : String) : Prop :=
  removePostDialPhoneNumber c.accountNumber.toUTF8.toList = phoneNumber.toUTF8.toList

instance (c : CallBase) (phoneNumber : String) : Decidable (c.HasNumber phoneNumber) :=
  inferInstanceAs (Decidable (_ = _))

/-- A call object with the further fields that the functions of the store read. -/
structure StoredCall extends PolicyCall where
  accountId : ℤ
  direction : CallDirection
  crsType : ℤ
  personalNotificationRingtone : String
  ringtonePath : String
  rttState : RttCallState
  isTransferCallAllow : Bool
  needSilentInDoNotDisturbMode : ℤ

/-- What the functions of the store are built with and ask of others: the build
    (`NOT_SUPPORT_MULTICALL`, `CALL_MANAGER_CALL_TRANSFER`, `SUPPORT_RTT_CALL`), the main call
    of the IMS conference, and how the report handler takes a report. -/
structure StoreLockEnv extends StoreEnv where
  notSupportMulticall : Bool
  callTransfer : Bool
  supportRttCall : Bool
  imsMainCall : ℤ
  updateCallReportInfo : CallDetailInfo → ErrorCode

/-- The static state of `CallObjectManager`, the call objects, and the reports it has handed on. -/
structure CallStore extends CallObjectManager where
  objects : Ref → StoredCall
  voip : VoipCalls
  dialCallInfo : CellularCallInfo
  reports : List CallDetailInfo

/-- `CallAttributeInfo` with the account. -/
structure StoredCallInfo extends CallAttributeInfo where
  accountId : ℤ := 0

namespace StoredCall

/-- `GetCallAttributeBaseInfo` (call_base.cpp, from line 162): a number that is too long leaves
    the rest as it was. -/
def getCallAttributeBaseInfo (c : StoredCall) (info : StoredCallInfo) : StoredCallInfo :=
  let number := c.accountNumber.toUTF8.toList
  if number.length > maxNumberLen then { info with accountNumber := [] }
  else
    { accountNumber := cString number
      callType := c.callType
      callId := c.callId
      callState := c.callState
      callDirection := c.direction
      accountId := c.accountId }

/-- `GetCallAttributeInfo` of the six classes: OTT calls have the base fields
    (ott_call.cpp:174-177), the others those of `GetCallAttributeCarrierInfo`
    (carrier_call.cpp:187-194), and VoIP and Bluetooth calls set the id again. -/
def getCallAttributeInfo (c : StoredCall) (info : StoredCallInfo) : StoredCallInfo :=
  let carrierInfo := c.getCallAttributeBaseInfo { info with accountId := c.slotId }
  match c.objectType with
  | .ott => c.getCallAttributeBaseInfo info
  | .voip | .bluetooth => { carrierInfo with callId := c.callId }
  | .cs | .ims | .satellite | .errCall => carrierInfo

/-- `IsTransferCallAndForbidden` (bluetooth_call.cpp:259-262). -/
def isTransferCallAndForbidden (c : StoredCall) : Bool :=
  c.isTransferCall && !c.isTransferCallAllow

/-- A call whose type has a modem behind it. -/
def IsCellular (c : StoredCall) : Prop := c.callType ∈ carrierTypes

instance (c : StoredCall) : Decidable c.IsCellular := inferInstanceAs (Decidable (_ ∈ _))

/-- A call that is being set up, for `IsNewCallAllowedCreate`. -/
def IsNew (c : StoredCall) : Prop :=
  c.callType ≠ .voip ∧ (c.callRunningState = .create ∨ c.callRunningState = .connecting ∨
    c.callRunningState = .dialing ∨ c.callRunningState = .ringing)

instance (c : StoredCall) : Decidable c.IsNew := by
  unfold IsNew
  infer_instance

/-- A VoIP call that is not to be counted. -/
def IsSkippedVoip (isIncludeVoipCall : Bool) (c : StoredCall) : Prop :=
  c.callType = .voip ∧ (isIncludeVoipCall = true → c.isNonVirtualCall = false)

instance (isIncludeVoipCall : Bool) (c : StoredCall) :
    Decidable (c.IsSkippedVoip isIncludeVoipCall) := by
  unfold IsSkippedVoip
  infer_instance

end StoredCall

/-- `RINGING_CALL_NUMBER_LEN` (common_type.h:27). -/
def ringingCallNumberLen : ℕ := 30

/-- `DIALING_CALL_NUMBER_LEN` (common_type.h:28). -/
def dialingCallNumberLen : ℕ := 30

/-- `VOIP_CALL_MINIMUM` (call_manager_base.h:66). -/
def voipCallMinimum : ℤ := 10000

/-- `CRS_TYPE` (call_object_manager.cpp:45). -/
def crsTypeVideo : ℤ := 2

/-- The information with every byte zero. -/
def zeroedInfo : StoredCallInfo where
  callType := .cs
  callState := .active
  callDirection := .callDirectionIn

/-- The report of `ReportCallDisconnected` (call_object_manager.cpp:1059-1078). -/
def disconnectedInfo (c : StoredCall) : CallDetailInfo where
  index := c.index
  phoneNum := c.accountNumber
  accountId := c.slotId
  callType := c.callType
  callMode := c.videoState
  state := .disconnected
  mpty := 0
  phoneOrWatch := 0
  antiFraudState := 0
  phoneIndex := 0
  voipCallInfo := {}

/-! ## Scans of the list -/

namespace CallStore

variable (m : CallStore)

/-- The fields of the call objects. -/
def calls (r : Ref) : CallBase := (m.objects r).toCallBase

/-- The first call that meets `p`. -/
def findCall (p : StoredCall → Bool) : Option Ref :=
  m.callObjectPtrList.find? fun it => p (m.objects it)

/-- The last call that meets `p`. -/
def findLastCall (p : StoredCall → Bool) : Option Ref :=
  m.callObjectPtrList.reverse.find? fun it => p (m.objects it)

/-- Whether some call meets `p`. -/
def anyCall (p : StoredCall → Bool) : Bool :=
  m.callObjectPtrList.any fun it => p (m.objects it)

/-- The number of the calls that meet `p`. -/
def countCalls (p : StoredCall → Bool) : ℕ :=
  m.callObjectPtrList.countP fun it => p (m.objects it)

/-- The ids of the calls that meet `p`. -/
def callIds (p : StoredCall → Bool) : List ℤ :=
  (m.callObjectPtrList.filter fun it => p (m.objects it)).map fun it => (m.objects it).callId

/-- `GetVoipCallInfoList` (call_object_manager.cpp:927-942), which takes no lock. -/
def voipCallInfos : List CallAttributeInfo :=
  if m.voip.voipCallInfo.state ∈ [TelCallState.dialing, .incoming, .idle, .alerting] then
    m.voip.voipCallObjectList.toList.map Prod.snd
  else []

/-- `GetActiveVoipCallInfo` (call_object_manager.cpp:181-192), which takes no lock. -/
def activeVoipCallInfo : CallAttributeInfo :=
  ((m.voip.voipCallObjectList.toList.map Prod.snd).find? fun info =>
    info.callState = .active).getD {}

/-- The loop of `GetForegroundCall` (call_object_manager.cpp:959-982): a ringing call ends it. -/
def foregroundCall (isIncludeVoipCall : Bool) (liveCall : Option Ref) : List Ref → Option Ref
  | [] => liveCall
  | it :: rest =>
    if isIncludeVoipCall = false ∧ (m.objects it).callType = .voip then
      foregroundCall isIncludeVoipCall liveCall rest
    else
      match (m.objects it).callState with
      | .waiting | .incoming => some it
      | .alerting | .dialing | .active | .holding =>
        foregroundCall isIncludeVoipCall (some it) rest
      | _ => foregroundCall isIncludeVoipCall liveCall rest

/-- The loop of `GetForegroundLiveCallByCallId` (call_object_manager.cpp:1129-1145): a ringing
    call does not end it. -/
def foregroundLiveCall (callId : ℤ) (liveCall : Option Ref) : List Ref → Option Ref
  | [] => liveCall
  | it :: rest =>
    if (m.objects it).callId = callId then
      match (m.objects it).callState with
      | .active | .alerting | .dialing => some it
      | .waiting | .incoming => foregroundLiveCall callId (some it) rest
      | _ => foregroundLiveCall callId liveCall rest
    else foregroundLiveCall callId liveCall rest

end CallStore

/-! ## The operations -/

/-- A function of the store. -/
abbrev StoreCode (α : Type) := Code StoreMutex CallStore α

namespace StoreCode

/-- A function that reads the store under `listMutex_`. -/
def reading {α : Type} (f : CallStore → α) : StoreCode α := lockGuard .listMutex (inspect f)

/-- A function that changes the store under `listMutex_`. -/
def writing {α : Type} (f : CallStore → α × CallStore) : StoreCode α :=
  lockGuard .listMutex (update f)

variable (env : StoreLockEnv)

/-- `ConnectAbilityIfNeed` (call_object_manager.cpp:86-99): what it reads is not used. -/
def connectAbilityIfNeed (call : Ref) : StoreCode Unit := do
  let forbidden ← inspect fun m =>
    env.callTransfer && (m.objects call).isTransferCallAndForbidden
  if forbidden then pure ()
  else
    let _info ← inspect fun m => (m.objects call).getCallAttributeInfo {}
    pure ()

/-- `AddOneCallObject` (lines 56-84). -/
def addOneCallObject (call : Option Ref) : StoreCode ErrorCode :=
  match call with
  | none => pure .telephonyErrLocalPtrNull
  | some call =>
    lockGuard .listMutex do
      let stored ← inspect fun m => m.anyCall fun it => it.callId = (m.objects call).callId
      if stored then pure .callErrPhoneCallAlreadyExists
      else
        connectAbilityIfNeed env call
        update fun m =>
          let out := m.toCallObjectManager.addOneCallObject m.calls env.toStoreEnv call
          (out.1, { m with toCallObjectManager := out.2 })

/-- `AddOneVoipCallObject` (lines 101-112). -/
def addOneVoipCallObject (info : CallAttributeInfo) : StoreCode ErrorCode :=
  writing fun m =>
    if info.callId ∈ m.voip.voipCallObjectList then (.callErrPhoneCallAlreadyExists, m)
    else (.telephonySuccess, { m with voip := m.voip.addOneVoipCallObject info })

/-- `DeleteOneVoipCallObject` (lines 114-123). -/
def deleteOneVoipCallObject (callId : ℤ) : StoreCode ErrorCode :=
  writing fun m =>
    (.telephonySuccess, { m with voip := m.voip.deleteOneVoipCallObject callId })

/-- `IsVoipCallExist()` (lines 125-131). -/
def isVoipCallExist : StoreCode Bool := reading fun m => m.voip.isVoipCallExist

/-- `IsVoipCallExist(callState, callId)` (lines 133-145): the id it finds. -/
def voipCallInState (callState : TelCallState) : StoreCode (Option ℤ) :=
  reading fun m => m.voip.voipCallInState callState

/-- `ClearVoipList` (lines 147-155), with `CallControlManager::SetVirtualCall`, which asks the
    audio framework. -/
def clearVoipList : StoreCode Unit :=
  writing fun m => ((), { m with voip := m.voip.clearVoipList })

/-- `UpdateOneVoipCallObjectByCallId` (lines 157-167). -/
def updateOneVoipCallObjectByCallId (callId : ℤ) (nextCallState : TelCallState) :
    StoreCode ErrorCode :=
  writing fun m =>
    if callId ∈ m.voip.voipCallObjectList then
      (.telephonySuccess,
        { m with voip := m.voip.updateOneVoipCallObjectByCallId callId nextCallState })
    else (.telephonyError, m)

/-- `GetVoipCallInfo` (lines 169-179). -/
def getVoipCallInfo : StoreCode CallAttributeInfo := reading fun m => m.voip.getVoipCallInfo

/-- `GetActiveVoipCallInfo` (lines 181-192). -/
def getActiveVoipCallInfo : StoreCode CallAttributeInfo :=
  inspect CallStore.activeVoipCallInfo

/-- `DelayedDisconnectCallConnectAbility` (lines 195-209) submits its task. -/
def delayedDisconnectCallConnectAbility : StoreCode Unit :=
  update fun m => ((), { m with delayedDisconnects := m.delayedDisconnects + 1 })

/-- What both `DeleteOneCallObject` do after taking a call off the list, with
    the lock held: without a call left, the listeners are taken down, and the
    lock is released before the delayed disconnection is submitted. -/
def deleted (deInit : Bool) : StoreCode Unit := do
  let isEmpty ← inspect fun m => m.callObjectPtrList.isEmpty
  if isEmpty then
    update fun m =>
      ((), { m with
        wiredHeadSet := if deInit then false else m.wiredHeadSet
        foldableListener := if env.isSmallFoldDevice then false else m.foldableListener })
    if env.shouldDisconnectService then
      release .listMutex
      delayedDisconnectCallConnectAbility
    else release .listMutex
  else release .listMutex

/-- `DeleteOneCallObject(callId)` (lines 211-234). -/
def deleteOneCallObject (callId : ℤ) : StoreCode ErrorCode := do
  acquire .listMutex
  update fun m =>
    ((), { m with
      callObjectPtrList := m.callObjectPtrList.eraseP fun it => (m.objects it).callId = callId })
  deleted env true
  pure .telephonySuccess

/-- `DeleteOneCallObject(call)` (lines 236-254), which takes every entry of the call off. -/
def deleteOneCallObjectByRef (call : Option Ref) : StoreCode Unit :=
  match call with
  | none => pure ()
  | some call => do
    acquire .listMutex
    update fun m =>
      ((), { m with callObjectPtrList := m.callObjectPtrList.filter fun it => it ≠ call })
    deleted env false

/-- `GetOneCallObject(callId)` (lines 256-268). -/
def getOneCallObject (callId : ℤ) : StoreCode (Option Ref) :=
  reading fun m => m.findCall fun it => it.callId = callId

/-- `GetOneCallObject(phoneNumber)` (lines 270-289). -/
def getOneCallObjectByNumber (phoneNumber : String) : StoreCode (Option Ref) :=
  if phoneNumber = "" then pure none
  else reading fun m => m.findCall fun it => it.HasNumber phoneNumber

/-- `HasNewCall` (lines 291-307). -/
def hasNewCall : StoreCode ErrorCode :=
  reading fun m =>
    if m.anyCall fun it => it.callType ≠ .voip ∧ (it.callRunningState = .create ∨
        it.callRunningState = .connecting ∨ it.callRunningState = .dialing ∨
        it.callType = .satellite) then .callErrCallCountsExceedLimit
    else .telephonySuccess

/-- `GetCarrierCallList` (lines 374-387). -/
def getCarrierCallList : StoreCode (List ℤ) :=
  reading fun m => m.callIds fun it => it.IsCellular

/-- One turn of the loop that `IsNewCallAllowedCreate` and `GetCurrentCallNum`
    have over the carrier calls: a conference counts by its main call. -/
def countCarrierCall (count : ℕ) (otherCallId : ℤ) : StoreCode ℕ := do
  let call ← getOneCallObject otherCallId
  match call with
  | none => pure count
  | some call =>
    let confState ← inspect fun m => (m.objects call).conferenceState
    if CountsAsCurrent confState env.imsMainCall otherCallId then pure (count + 1)
    else pure count

/-- `IsNewCallAllowedCreate` (lines 309-350): what `enabled` becomes. -/
def isNewCallAllowedCreate : StoreCode Bool :=
  lockGuard .listMutex do
    let hasNew ← inspect fun m => m.anyCall fun it => it.IsNew
    if hasNew then pure false
    else
      let callNum := if env.notSupportMulticall then 1 else 2
      let callIdList ← getCarrierCallList
      let count ← callIdList.foldlM (countCarrierCall env) 0
      pure (count < callNum)

/-- `GetCurrentCallNum` (lines 352-372). -/
def getCurrentCallNum : StoreCode ℕ := do
  let callIdList ← getCarrierCallList
  callIdList.foldlM (countCarrierCall env) 0

/-- `GetVoipCallNum` (lines 389-401). -/
def getVoipCallNum (isOnlyIncludeNonVirtualVoIP : Bool) : StoreCode ℕ :=
  reading fun m => m.countCalls fun it =>
    it.callType = .voip ∧ (isOnlyIncludeNonVirtualVoIP = true → it.isNonVirtualCall = true)

/-- `GetVoipCallList` (lines 403-414). -/
def getVoipCallList : StoreCode (List ℤ) :=
  reading fun m => m.callIds fun it => it.callType = .voip

/-- `HasRingingMaximum` (lines 416-431). -/
def hasRingingMaximum : StoreCode Bool :=
  reading fun m => ringingCallNumberLen ≤ m.countCalls fun it => it.callRunningState = .ringing

/-- `HasDialingMaximum` (lines 433-448), which counts the active calls. -/
def hasDialingMaximum : StoreCode Bool :=
  reading fun m => dialingCallNumberLen ≤ m.countCalls fun it => it.callRunningState = .active

/-- `HasEmergencyCall` (lines 450-461). -/
def hasEmergencyCall : StoreCode Bool := reading fun m => m.anyCall fun it => it.emergencyState

/-- `GetNewCallId` (lines 463-469). -/
def getNewCallId : StoreCode ℤ :=
  writing fun m =>
    let out := m.toCallObjectManager.getNewCallId
    (out.1, { m with toCallObjectManager := out.2 })

/-- `IsCallExist(callId)` (lines 471-482). -/
def isCallExist (callId : ℤ) : StoreCode Bool :=
  reading fun m => m.anyCall fun it => it.callId = callId

/-- `IsCallExist(phoneNumber)` (lines 484-500). -/
def isCallExistByNumber (phoneNumber : String) : StoreCode Bool :=
  if phoneNumber = "" then pure false
  else reading fun m => m.anyCall fun it => it.HasNumber phoneNumber

/-- `HasCallExist` (lines 502-510). -/
def hasCallExist : StoreCode Bool := reading fun m => !m.callObjectPtrList.isEmpty

/-- `GetAllCallList` (lines 512-516). -/
def getAllCallList : StoreCode (List Ref) := reading fun m => m.callObjectPtrList

/-- `HasCellularCallExist` (lines 518-533). -/
def hasCellularCallExist : StoreCode Bool :=
  reading fun m => m.anyCall fun it =>
    it.IsCellular ∧ it.callState ≠ .disconnected ∧ it.callState ≠ .disconnecting

/-- `HasVoipCallExist` (lines 535-545). -/
def hasVoipCallExist : StoreCode Bool := reading fun m => m.anyCall fun it => it.callType = .voip

/-- `HasOtherBtCallExist` (lines 547-560). -/
def hasOtherBtCallExist (callId : ℤ) : StoreCode Bool :=
  reading fun m => m.anyCall fun it => it.callId ≠ callId ∧ it.callType = .bluetooth

/-- `HasIncomingCallCrsType` (lines 562-573). -/
def hasIncomingCallCrsType : StoreCode Bool :=
  reading fun m => m.anyCall fun it =>
    it.callRunningState = .ringing ∧ it.crsType = crsTypeVideo

/-- `IsVideoRing` (lines 591-600). -/
def isVideoRing (personalNotificationRingtone ringtonePath : String) : Bool :=
  personalNotificationRingtone.utf8ByteSize > 4 ∧
      personalNotificationRingtone.endsWith ".mp4" = true ∨
    ringtonePath = "system_video_ring"

/-- `HasIncomingCallVideoRingType` (lines 575-589). -/
def hasIncomingCallVideoRingType : StoreCode Bool :=
  reading fun m => m.anyCall fun it =>
    it.callType ≠ .voip ∧ it.callRunningState = .ringing ∧
      isVideoRing it.personalNotificationRingtone it.ringtonePath = true

/-- `HasVideoCall` (lines 602-612). -/
def hasVideoCall : StoreCode Bool :=
  reading fun m => m.anyCall fun it => it.videoState = .video ∧ it.callType ≠ .voip

/-- `HasSatelliteCallExist` (lines 614-624). -/
def hasSatelliteCallExist : StoreCode Bool :=
  reading fun m => m.anyCall fun it => it.callType = .satellite

/-- `GetSatelliteCallList` (lines 626-637). -/
def getSatelliteCallList : StoreCode (List ℤ) :=
  reading fun m => m.callIds fun it => it.callType = .satellite

/-- `HasRingingCall` (lines 639-652). -/
def hasRingingCall : StoreCode Bool :=
  reading fun m => m.anyCall fun it => it.callRunningState = .ringing

/-- `HasHoldCall` (lines 654-667). -/
def hasHoldCall : StoreCode Bool :=
  reading fun m => m.anyCall fun it => it.callRunningState = .hold

/-- `GetCallState` (lines 669-681). -/
def getCallState (callId : ℤ) : StoreCode TelCallState :=
  reading fun m =>
    ((m.findCall fun it => it.callId = callId).map fun it => (m.objects it).callState).getD .idle

/-- `GetOneCallObject(callState)` (lines 683-693). -/
def getOneCallObjectInState (callState : CallRunningState) : StoreCode (Option Ref) :=
  reading fun m => m.findLastCall fun it => it.callRunningState = callState

/-- `GetOneCarrierCallObject` (lines 695-705). -/
def getOneCarrierCallObject (callState : CallRunningState) : StoreCode (Option Ref) :=
  reading fun m => m.findLastCall fun it =>
    it.callRunningState = callState ∧ it.callType ≠ .voip

/-- `GetOneCallObjectByIndex` (lines 707-717). -/
def getOneCallObjectByIndex (index : ℤ) : StoreCode (Option Ref) :=
  reading fun m => m.findCall fun it => it.index = index ∧ it.callType ≠ .voip

/-- `GetDialingCall` (lines 719-729). -/
def getDialingCall : StoreCode (Option Ref) :=
  reading fun m => m.findCall fun it => it.callState = .dialing

/-- `GetOneCallObjectByIndexAndSlotId` (lines 731-743). -/
def getOneCallObjectByIndexAndSlotId (index slotId : ℤ) : StoreCode (Option Ref) :=
  reading fun m => m.findCall fun it =>
    it.index = index ∧ it.slotId = slotId ∧ it.callType ≠ .voip

/-- `GetOneCallObjectByIndexSlotIdAndCallType` (lines 745-771). -/
def getOneCallObjectByIndexSlotIdAndCallType (index slotId : ℤ) (callType : CallType)
    (phoneIndex : ℤ) : StoreCode (Option Ref) :=
  reading fun m => m.toCallObjectManager.getOneCallObjectByIndexSlotIdAndCallType m.calls index
    slotId callType phoneIndex

/-- `GetOneCallObjectByVoipCallId` (lines 773-788). -/
def getOneCallObjectByVoipCallId (voipCallId bundleName : String) (uid : ℤ) :
    StoreCode (Option Ref) :=
  reading fun m => m.findCall fun it =>
    it.callType = .voip ∧ it.voipCallInfo = ⟨voipCallId, bundleName, uid⟩

/-- `IsCallExist(callType, callState)` (lines 790-801). -/
def isCallExistOfType (callType : CallType) (callState : TelCallState) : StoreCode Bool :=
  reading fun m => m.anyCall fun it => it.callType = callType ∧ it.callState = callState

/-- `IsCallExist(callState)` (lines 803-814). -/
def isCallExistInState (callState : TelCallState) : StoreCode Bool :=
  reading fun m => m.anyCall fun it => it.callState = callState

/-- `IsCallExist(callState, callId)` (lines 816-828): the id it finds. -/
def callIdInState (callState : TelCallState) : StoreCode (Option ℤ) :=
  reading fun m =>
    (m.findCall fun it => it.callState = callState).map fun it => (m.objects it).callId

/-- `IsConferenceCallExist` (lines 830-842): the id it finds. -/
def isConferenceCallExist (state : TelConferenceState) : StoreCode (Option ℤ) :=
  reading fun m =>
    (m.findCall fun it => it.conferenceState = state).map fun it => (m.objects it).callId

/-- `HasActivedCallExist` (lines 844-862): the id it finds. -/
def hasActivedCallExist (isIncludeVoipCall : Bool) : StoreCode (Option ℤ) :=
  lockGuard .listMutex do
    let call ← inspect fun m => m.findCall fun it =>
      it.callState = .active ∧
        (isIncludeVoipCall = true ∧ it.isNonVirtualCall = true ∨ it.callType ≠ .voip)
    match call with
    | some call => inspect fun m => some (m.objects call).callId
    | none =>
      let res ← getActiveVoipCallInfo
      pure (if voipCallMinimum ≤ res.callId then some res.callId else none)

/-- `GetCallNum` (lines 864-880). -/
def getCallNum (callState : TelCallState) (isIncludeVoipCall : Bool) : StoreCode ℕ :=
  reading fun m => m.countCalls fun it =>
    it.callState = callState ∧ ¬ it.IsSkippedVoip isIncludeVoipCall

/-- `GetCallNumber` (lines 882-898). -/
def getCallNumber (callState : TelCallState) (isIncludeVoipCall : Bool) : StoreCode String :=
  reading fun m =>
    ((m.findCall fun it => it.callState = callState ∧ ¬ it.IsSkippedVoip isIncludeVoipCall).map
      fun it => (m.objects it).accountNumber).getD ""

/-- `GetVoipCallInfoList` (lines 927-942). -/
def getVoipCallInfoList : StoreCode (List CallAttributeInfo) := inspect CallStore.voipCallInfos

/-- `GetCallInfoList` (lines 900-925), with the information zeroed for each call. -/
def getCallInfoList (slotId : ℤ) (isIncludeVoipCall : Bool) :
    StoreCode (List CallAttributeInfo) :=
  lockGuard .listMutex do
    let callVec ← inspect fun m =>
      (((m.callObjectPtrList.filter fun it =>
        ¬ (m.objects it).IsSkippedVoip isIncludeVoipCall).map fun it =>
          (m.objects it).getCallAttributeInfo zeroedInfo).filter fun info =>
            info.accountId = slotId ∧ info.callType ≠ .ott).map
        StoredCallInfo.toCallAttributeInfo
    let voipCallVec ← getVoipCallInfoList
    pure (callVec ++ voipCallVec)

/-- `UpdateOneCallObjectByCallId` (lines 944-953): every entry with the id. -/
def updateOneCallObjectByCallId (callId : ℤ) (nextCallState : TelCallState) : StoreCode Unit :=
  writing fun m =>
    let objects := fun r =>
      if r ∈ m.callObjectPtrList ∧ (m.objects r).callId = callId then
        { m.objects r with
          toCallBase := ((m.objects r).toCallBase.setTelCallState nextCallState).2 }
      else m.objects r
    ((), { m with objects := objects })

/-- `GetForegroundCall` (lines 955-984). -/
def getForegroundCall (isIncludeVoipCall : Bool) : StoreCode (Option Ref) :=
  reading fun m => m.foregroundCall isIncludeVoipCall none m.callObjectPtrList

/-- `GetForegroundLiveCall` (lines 986-1006). -/
def getForegroundLiveCall (isIncludeVoipCall : Bool) : StoreCode (Option Ref) :=
  reading fun m => m.findCall fun it =>
    (isIncludeVoipCall = true ∨ it.callType ≠ .voip) ∧
      it.callState ∈ [TelCallState.active, .alerting, .dialing]

/-- `GetIncomingCall` (lines 1008-1023). -/
def getIncomingCall (isIncludeVoipCall : Bool) : StoreCode (Option Ref) :=
  reading fun m => m.findCall fun it =>
    (isIncludeVoipCall = true ∨ it.callType ≠ .voip) ∧
      it.callState ∈ [TelCallState.incoming, .waiting]

/-- A call that is looked for only if there is none yet. -/
def orElse (call : Option Ref) (next : StoreCode (Option Ref)) : StoreCode (Option Ref) :=
  match call with
  | some call => pure (some call)
  | none => next

/-- `GetAudioLiveCall` (lines 1025-1041). -/
def getAudioLiveCall : StoreCode (Option Ref) := do
  let call ← getForegroundLiveCall false
  let call ← orElse call (getIncomingCall false)
  let call ← orElse call (getOneCarrierCallObject .hold)
  let call ← orElse call (getForegroundLiveCall true)
  orElse call (getIncomingCall true)

/-- `GetDialCallInfo` (lines 1043-1046). -/
def getDialCallInfo : StoreCode CellularCallInfo := inspect fun m => m.dialCallInfo

/-- `ReportCallDisconnected` (lines 1053-1081). -/
def reportCallDisconnected (call : Option Ref) : StoreCode ErrorCode :=
  match call with
  | none => pure .telephonyErrLocalPtrNull
  | some call => update fun m =>
    let c := m.objects call
    if c.accountNumber.utf8ByteSize > maxNumberLen then (.callErrNumberOutOfRange, m)
    else
      let callDetailInfo := disconnectedInfo c
      (env.updateCallReportInfo callDetailInfo, { m with reports := callDetailInfo :: m.reports })

/-- `DealFailDial` (lines 1048-1051). -/
def dealFailDial (call : Option Ref) : StoreCode ErrorCode := reportCallDisconnected env call

/-- `GetAllCallInfoList` (lines 1083-1108). -/
def getAllCallInfoList (isIncludeVoipCall : Bool) : StoreCode (List CallAttributeInfo) :=
  lockGuard .listMutex do
    let callVec ← inspect fun m =>
      (m.callObjectPtrList.filter fun it =>
        ¬ (m.objects it).IsSkippedVoip isIncludeVoipCall).map fun it =>
          ((m.objects it).getCallAttributeInfo {}).toCallAttributeInfo
    let voipCallVec ← getVoipCallInfoList
    pure (callVec ++ voipCallVec)

/-- `GetCallNumByRunningState` (lines 1110-1123). -/
def getCallNumByRunningState (callState : CallRunningState) : StoreCode ℕ :=
  reading fun m => m.countCalls fun it => it.callRunningState = callState

/-- `GetForegroundLiveCallByCallId` (lines 1125-1147). -/
def getForegroundLiveCallByCallId (callId : ℤ) : StoreCode (Option Ref) :=
  reading fun m => m.foregroundLiveCall callId none m.callObjectPtrList

/-- `IsNeedSilentInDoNotDisturbMode` (lines 1149-1165). -/
def isNeedSilentInDoNotDisturbMode : StoreCode Bool := do
  let foregroundCall ← getForegroundCall false
  match foregroundCall with
  | none => pure false
  | some call => inspect fun m =>
    (m.objects call).callState = .incoming ∧ (m.objects call).needSilentInDoNotDisturbMode = 1

/-- `HasBtCallWithDifferentNumber` (lines 1168-1180). -/
def hasBtCallWithDifferentNumber (accountNumber : String) : StoreCode Bool :=
  reading fun m => m.anyCall fun call =>
    call.accountNumber ≠ accountNumber ∧ call.callType = .bluetooth

/-- `HasRttCall` (lines 1183-1199). -/
def hasRttCall : StoreCode Bool :=
  if env.supportRttCall then
    reading fun m => m.anyCall fun call => call.callType = .ims ∧ call.rttState = .yes
  else pure false

/-- `HasTransferCall` (lines 1202-1216). -/
def hasTransferCall : StoreCode Bool := reading fun m => m.anyCall fun call => call.isTransferCall

/-- `HasNonTransferCall` (lines 1218-1232). -/
def hasNonTransferCall : StoreCode Bool :=
  reading fun m => m.anyCall fun call => !call.isTransferCall

/-- `GetIncomingBtTransferCall` (lines 1234-1247). -/
def getIncomingBtTransferCall : StoreCode (Option Ref) :=
  reading fun m => m.findCall fun call =>
    call.isTransferCall = true ∧ call.callState ∈ [TelCallState.incoming, .waiting]

/-- `GetOtherBtTransferCall` (lines 1249-1262). -/
def getOtherBtTransferCall (excludeCallId : ℤ) : StoreCode (Option Ref) :=
  reading fun m => m.findCall fun call =>
    call.isTransferCall = true ∧ call.callId ≠ excludeCallId

end StoreCode

/-! ## The delayed disconnection -/

/-- What the two flags are when `SetConnectingFlag` or `SetDisconnectingFlag` tests
    them, after it has set its own: other threads set them too. -/
structure FlagTest where
  isConnecting : Bool
  isDisconnecting : Bool
  deriving DecidableEq

/-- What one call of `ConnectAbility` finds: the flags, whether the call UI is
    connected, and whether the ability manager connects it. -/
structure ConnectRun where
  start : FlagTest
  isDisconnecting : Bool
  isConnected : Bool
  connects : Bool
  finish : FlagTest

/-- What one call of `DisconnectAbility` finds, `reconnectFirst` and `reconnectLast` if it comes
    to connect again: the flags, whether it waits for the connection successfully, whether there
    is a callback, and whether the ability manager disconnects it. -/
structure DisconnectRun where
  start : FlagTest
  reconnectFirst : ConnectRun
  isConnecting : Bool
  waitForConnectResult : Bool
  hasConnectCallback : Bool
  disconnects : Bool
  finish : FlagTest
  reconnectLast : ConnectRun

namespace StoreCode

/-- The test of `SetConnectingFlag` (call_connect_ability.cpp:110-122). What it does with the
    answer is left out: with `listMutex_` held it is given none. -/
def setConnectingFlag (t : FlagTest) : StoreCode Unit :=
  if t.isConnecting = false ∧ t.isDisconnecting = true then do
    let _exist ← hasCallExist
    pure ()
  else pure ()

/-- `ConnectAbility` (call_connect_ability.cpp:35-64). -/
def connectAbility (r : ConnectRun) : StoreCode Unit := do
  setConnectingFlag r.start
  if r.isDisconnecting then pure ()
  else if r.isConnected then setConnectingFlag r.finish
  else
    lockGuard .connectAbilityMutex
      (if r.connects then pure () else setConnectingFlag r.finish)

/-- The test of `SetDisconnectingFlag` (call_connect_ability.cpp:101-108). -/
def setDisconnectingFlag (t : FlagTest) (r : ConnectRun) : StoreCode Unit :=
  if t.isDisconnecting = false ∧ t.isConnecting = true then connectAbility r else pure ()

/-- `DisconnectAbility` (call_connect_ability.cpp:66-89). -/
def disconnectAbility (d : DisconnectRun) : StoreCode Unit := do
  setDisconnectingFlag d.start d.reconnectFirst
  if d.isConnecting then pure ()
  else if d.waitForConnectResult then
    lockGuard .connectAbilityMutex
      (if d.hasConnectCallback = true ∧ d.disconnects = false then
        setDisconnectingFlag d.finish d.reconnectLast
      else pure ())
  else setDisconnectingFlag d.finish d.reconnectLast

/-- The task that `DelayedDisconnectCallConnectAbility` submits
    (call_object_manager.cpp:198-207). -/
def delayedDisconnectTask (env : StoreLockEnv) (d : DisconnectRun) : StoreCode Unit :=
  lockGuard .listMutex do
    let isEmpty ← inspect fun m => m.callObjectPtrList.isEmpty
    if isEmpty = true ∧ env.shouldDisconnectService = true then disconnectAbility d else pure ()

end StoreCode

/-! ## Specification -/

/-- The public functions of `CallObjectManager` (call_object_manager.h:33-121), and the task
    that one of them submits. `IsVideoRing` does not see the store. -/
inductive StoreOperation
  | addOneCallObject (call : Option Ref)
  | addOneVoipCallObject (info : CallAttributeInfo)
  | delayedDisconnectCallConnectAbility
  | delayedDisconnectTask (d : DisconnectRun)
  | deleteOneCallObject (callId : ℤ)
  | deleteOneVoipCallObject (callId : ℤ)
  | deleteOneCallObjectByRef (call : Option Ref)
  | getOneCallObject (callId : ℤ)
  | getOneCallObjectByNumber (phoneNumber : String)
  | getOneCallObjectByIndex (index : ℤ)
  | getOneCallObjectByIndexAndSlotId (index slotId : ℤ)
  | getOneCallObjectByIndexSlotIdAndCallType (index slotId : ℤ) (callType : CallType)
    (phoneIndex : ℤ)
  | getOneCallObjectByVoipCallId (voipCallId bundleName : String) (uid : ℤ)
  | getDialingCall
  | updateOneCallObjectByCallId (callId : ℤ) (nextCallState : TelCallState)
  | updateOneVoipCallObjectByCallId (callId : ℤ) (nextCallState : TelCallState)
  | hasNewCall
  | isNewCallAllowedCreate
  | getCurrentCallNum
  | getCarrierCallList
  | getVoipCallNum (isOnlyIncludeNonVirtualVoIP : Bool)
  | getVoipCallList
  | hasRingingMaximum
  | hasDialingMaximum
  | hasEmergencyCall
  | getNewCallId
  | isCallExist (callId : ℤ)
  | isCallExistByNumber (phoneNumber : String)
  | hasCallExist
  | hasActivedCallExist (isIncludeVoipCall : Bool)
  | hasRingingCall
  | hasHoldCall
  | getCallState (callId : ℤ)
  | getOneCallObjectInState (callState : CallRunningState)
  | getOneCarrierCallObject (callState : CallRunningState)
  | isCallExistOfType (callType : CallType) (callState : TelCallState)
  | isCallExistInState (callState : TelCallState)
  | callIdInState (callState : TelCallState)
  | isConferenceCallExist (state : TelConferenceState)
  | getCallNum (callState : TelCallState) (isIncludeVoipCall : Bool)
  | getCallNumber (callState : TelCallState) (isIncludeVoipCall : Bool)
  | getVoipCallInfo
  | getActiveVoipCallInfo
  | clearVoipList
  | getCallInfoList (slotId : ℤ) (isIncludeVoipCall : Bool)
  | getForegroundCall (isIncludeVoipCall : Bool)
  | getForegroundLiveCall (isIncludeVoipCall : Bool)
  | getIncomingCall (isIncludeVoipCall : Bool)
  | getAudioLiveCall
  | getAllCallInfoList (isIncludeVoipCall : Bool)
  | getVoipCallInfoList
  | dealFailDial (call : Option Ref)
  | reportCallDisconnected (call : Option Ref)
  | hasVideoCall
  | getAllCallList
  | hasCellularCallExist
  | hasVoipCallExist
  | hasOtherBtCallExist (callId : ℤ)
  | isVoipCallExist
  | voipCallInState (callState : TelCallState)
  | hasIncomingCallCrsType
  | hasIncomingCallVideoRingType
  | getDialCallInfo
  | hasSatelliteCallExist
  | getSatelliteCallList
  | getCallNumByRunningState (callState : CallRunningState)
  | getForegroundLiveCallByCallId (callId : ℤ)
  | isNeedSilentInDoNotDisturbMode
  | hasRttCall
  | hasBtCallWithDifferentNumber (accountNumber : String)
  | hasNonTransferCall
  | getIncomingBtTransferCall
  | hasTransferCall
  | getOtherBtTransferCall (excludeCallId : ℤ)
  | connectAbilityIfNeed (call : Ref)

namespace StoreOperation

/-- A call of the operation, its result not used. -/
def code (env : StoreLockEnv) : StoreOperation → StoreCode Unit
  | .addOneCallObject call => discard (StoreCode.addOneCallObject env call)
  | .addOneVoipCallObject info => discard (StoreCode.addOneVoipCallObject info)
  | .delayedDisconnectCallConnectAbility => StoreCode.delayedDisconnectCallConnectAbility
  | .delayedDisconnectTask d => StoreCode.delayedDisconnectTask env d
  | .deleteOneCallObject callId => discard (StoreCode.deleteOneCallObject env callId)
  | .deleteOneVoipCallObject callId => discard (StoreCode.deleteOneVoipCallObject callId)
  | .deleteOneCallObjectByRef call => StoreCode.deleteOneCallObjectByRef env call
  | .getOneCallObject callId => discard (StoreCode.getOneCallObject callId)
  | .getOneCallObjectByNumber phoneNumber =>
    discard (StoreCode.getOneCallObjectByNumber phoneNumber)
  | .getOneCallObjectByIndex index => discard (StoreCode.getOneCallObjectByIndex index)
  | .getOneCallObjectByIndexAndSlotId index slotId =>
    discard (StoreCode.getOneCallObjectByIndexAndSlotId index slotId)
  | .getOneCallObjectByIndexSlotIdAndCallType index slotId callType phoneIndex =>
    discard (StoreCode.getOneCallObjectByIndexSlotIdAndCallType index slotId callType phoneIndex)
  | .getOneCallObjectByVoipCallId voipCallId bundleName uid =>
    discard (StoreCode.getOneCallObjectByVoipCallId voipCallId bundleName uid)
  | .getDialingCall => discard StoreCode.getDialingCall
  | .updateOneCallObjectByCallId callId nextCallState =>
    StoreCode.updateOneCallObjectByCallId callId nextCallState
  | .updateOneVoipCallObjectByCallId callId nextCallState =>
    discard (StoreCode.updateOneVoipCallObjectByCallId callId nextCallState)
  | .hasNewCall => discard StoreCode.hasNewCall
  | .isNewCallAllowedCreate => discard (StoreCode.isNewCallAllowedCreate env)
  | .getCurrentCallNum => discard (StoreCode.getCurrentCallNum env)
  | .getCarrierCallList => discard StoreCode.getCarrierCallList
  | .getVoipCallNum isOnlyIncludeNonVirtualVoIP =>
    discard (StoreCode.getVoipCallNum isOnlyIncludeNonVirtualVoIP)
  | .getVoipCallList => discard StoreCode.getVoipCallList
  | .hasRingingMaximum => discard StoreCode.hasRingingMaximum
  | .hasDialingMaximum => discard StoreCode.hasDialingMaximum
  | .hasEmergencyCall => discard StoreCode.hasEmergencyCall
  | .getNewCallId => discard StoreCode.getNewCallId
  | .isCallExist callId => discard (StoreCode.isCallExist callId)
  | .isCallExistByNumber phoneNumber => discard (StoreCode.isCallExistByNumber phoneNumber)
  | .hasCallExist => discard StoreCode.hasCallExist
  | .hasActivedCallExist isIncludeVoipCall =>
    discard (StoreCode.hasActivedCallExist isIncludeVoipCall)
  | .hasRingingCall => discard StoreCode.hasRingingCall
  | .hasHoldCall => discard StoreCode.hasHoldCall
  | .getCallState callId => discard (StoreCode.getCallState callId)
  | .getOneCallObjectInState callState => discard (StoreCode.getOneCallObjectInState callState)
  | .getOneCarrierCallObject callState => discard (StoreCode.getOneCarrierCallObject callState)
  | .isCallExistOfType callType callState =>
    discard (StoreCode.isCallExistOfType callType callState)
  | .isCallExistInState callState => discard (StoreCode.isCallExistInState callState)
  | .callIdInState callState => discard (StoreCode.callIdInState callState)
  | .isConferenceCallExist state => discard (StoreCode.isConferenceCallExist state)
  | .getCallNum callState isIncludeVoipCall =>
    discard (StoreCode.getCallNum callState isIncludeVoipCall)
  | .getCallNumber callState isIncludeVoipCall =>
    discard (StoreCode.getCallNumber callState isIncludeVoipCall)
  | .getVoipCallInfo => discard StoreCode.getVoipCallInfo
  | .getActiveVoipCallInfo => discard StoreCode.getActiveVoipCallInfo
  | .clearVoipList => StoreCode.clearVoipList
  | .getCallInfoList slotId isIncludeVoipCall =>
    discard (StoreCode.getCallInfoList slotId isIncludeVoipCall)
  | .getForegroundCall isIncludeVoipCall => discard (StoreCode.getForegroundCall isIncludeVoipCall)
  | .getForegroundLiveCall isIncludeVoipCall =>
    discard (StoreCode.getForegroundLiveCall isIncludeVoipCall)
  | .getIncomingCall isIncludeVoipCall => discard (StoreCode.getIncomingCall isIncludeVoipCall)
  | .getAudioLiveCall => discard StoreCode.getAudioLiveCall
  | .getAllCallInfoList isIncludeVoipCall =>
    discard (StoreCode.getAllCallInfoList isIncludeVoipCall)
  | .getVoipCallInfoList => discard StoreCode.getVoipCallInfoList
  | .dealFailDial call => discard (StoreCode.dealFailDial env call)
  | .reportCallDisconnected call => discard (StoreCode.reportCallDisconnected env call)
  | .hasVideoCall => discard StoreCode.hasVideoCall
  | .getAllCallList => discard StoreCode.getAllCallList
  | .hasCellularCallExist => discard StoreCode.hasCellularCallExist
  | .hasVoipCallExist => discard StoreCode.hasVoipCallExist
  | .hasOtherBtCallExist callId => discard (StoreCode.hasOtherBtCallExist callId)
  | .isVoipCallExist => discard StoreCode.isVoipCallExist
  | .voipCallInState callState => discard (StoreCode.voipCallInState callState)
  | .hasIncomingCallCrsType => discard StoreCode.hasIncomingCallCrsType
  | .hasIncomingCallVideoRingType => discard StoreCode.hasIncomingCallVideoRingType
  | .getDialCallInfo => discard StoreCode.getDialCallInfo
  | .hasSatelliteCallExist => discard StoreCode.hasSatelliteCallExist
  | .getSatelliteCallList => discard StoreCode.getSatelliteCallList
  | .getCallNumByRunningState callState => discard (StoreCode.getCallNumByRunningState callState)
  | .getForegroundLiveCallByCallId callId =>
    discard (StoreCode.getForegroundLiveCallByCallId callId)
  | .isNeedSilentInDoNotDisturbMode => discard StoreCode.isNeedSilentInDoNotDisturbMode
  | .hasRttCall => discard (StoreCode.hasRttCall env)
  | .hasBtCallWithDifferentNumber accountNumber =>
    discard (StoreCode.hasBtCallWithDifferentNumber accountNumber)
  | .hasNonTransferCall => discard StoreCode.hasNonTransferCall
  | .getIncomingBtTransferCall => discard StoreCode.getIncomingBtTransferCall
  | .hasTransferCall => discard StoreCode.hasTransferCall
  | .getOtherBtTransferCall excludeCallId =>
    discard (StoreCode.getOtherBtTransferCall excludeCallId)
  | .connectAbilityIfNeed call => StoreCode.connectAbilityIfNeed env call

end StoreOperation

/-- A call is being set up. -/
def CallStore.SettingUp (m : CallStore) : Prop :=
  ∃ it ∈ m.callObjectPtrList, (m.objects it).IsNew

/-- The test of `SetConnectingFlag` finds the connection done with and a disconnection begun. -/
def FlagTest.Overtaken (t : FlagTest) : Prop :=
  t.isConnecting = false ∧ t.isDisconnecting = true

/-- The test of `SetDisconnectingFlag` finds a connection asked for. -/
def FlagTest.Reconnects (t : FlagTest) : Prop :=
  t.isDisconnecting = false ∧ t.isConnecting = true

/-- A connection, made with `connectAbilityMutex_` held or not, that no other
    thread begins to undo, and that does not need the mutex if it is held. -/
def ConnectRun.Undisturbed (mutexHeld : Bool) (r : ConnectRun) : Prop :=
  ¬ r.start.Overtaken ∧ (r.isDisconnecting = false →
    (r.isConnected = true → ¬ r.finish.Overtaken) ∧
    (r.isConnected = false → mutexHeld = false ∧ (r.connects = false → ¬ r.finish.Overtaken)))

/-- A disconnection each of whose reconnections is undisturbed. -/
def DisconnectRun.Undisturbed (d : DisconnectRun) : Prop :=
  (d.start.Reconnects → d.reconnectFirst.Undisturbed false) ∧
    (d.isConnecting = false → d.finish.Reconnects →
      (d.waitForConnectResult = false → d.reconnectLast.Undisturbed false) ∧
      (d.waitForConnectResult = true → d.hasConnectCallback = true → d.disconnects = false →
        d.reconnectLast.Undisturbed true))

/-- The condition on an operation: a new call is asked for while one is being
    set up, and a delayed disconnection that takes place is undisturbed. -/
def StoreOperation.StepOk (env : StoreLockEnv) (m : CallStore) : StoreOperation → Prop
  | .isNewCallAllowedCreate => m.SettingUp
  | .delayedDisconnectTask d =>
    m.callObjectPtrList = [] → env.shouldDisconnectService = true → d.Undisturbed
  | _ => True

/-! ## The functions that return -/

namespace StoreCode

variable {env : StoreLockEnv} {held : List StoreMutex} {m : CallStore}

theorem returns_reading {α : Type} (f : CallStore → α) (m : CallStore) :
    Returns (reading f) [] m :=
  returns_lockGuard (by simp) (returns_inspect f _ m)

theorem returns_writing {α : Type} (f : CallStore → α × CallStore) (m : CallStore) :
    Returns (writing f) [] m :=
  returns_lockGuard (by simp) (returns_update f _ m)

theorem returns_connectAbilityIfNeed (call : Ref) (m : CallStore) :
    Returns (connectAbilityIfNeed env call) held m := by
  refine (returns_inspect _ held m).bind fun forbidden m' => ?_
  cases forbidden with
  | true => exact returns_pure () held m'
  | false => exact (returns_inspect _ held m').bind fun _ m'' => returns_pure () held m''

theorem returns_addOneCallObject (call : Option Ref) (m : CallStore) :
    Returns (addOneCallObject env call) [] m := by
  cases call with
  | none => exact returns_pure _ [] m
  | some call =>
    refine returns_lockGuard (by simp) ((returns_inspect _ _ m).bind fun stored m' => ?_)
    cases stored with
    | true => exact returns_pure _ _ m'
    | false =>
      exact (returns_connectAbilityIfNeed call m').bind fun _ m'' => returns_update _ _ m''

/-- After taking a call off the list, the lock is released on every path. -/
theorem deleted_releases (env : StoreLockEnv) (deInit : Bool) (m : CallStore) :
    ∃ m', deleted env deInit ⟨[.listMutex], m⟩ = some ((), ⟨[], m'⟩) := by
  unfold deleted
  change ∃ m',
    (if m.callObjectPtrList.isEmpty = true then _ else _ : StoreCode Unit) ⟨[.listMutex], m⟩ = _
  by_cases hempty : m.callObjectPtrList.isEmpty = true
  · rw [if_pos hempty]
    by_cases hdisconnect : env.shouldDisconnectService = true
    · rw [if_pos hdisconnect]
      exact ⟨_, rfl⟩
    · rw [if_neg hdisconnect]
      exact ⟨_, rfl⟩
  · rw [if_neg hempty]
    exact ⟨_, rfl⟩

theorem returns_deleteOneCallObject (callId : ℤ) (m : CallStore) :
    Returns (deleteOneCallObject env callId) [] m := by
  obtain ⟨m', hm'⟩ := deleted_releases env true
    { m with
      callObjectPtrList := m.callObjectPtrList.eraseP fun it => (m.objects it).callId = callId }
  refine ⟨.telephonySuccess, m', ?_⟩
  change (deleted env true ⟨[.listMutex], _⟩).bind (fun out => some (_, out.2)) = _
  rw [hm', Option.bind_some]

theorem returns_deleteOneCallObjectByRef (call : Option Ref) (m : CallStore) :
    Returns (deleteOneCallObjectByRef env call) [] m := by
  cases call with
  | none => exact returns_pure () [] m
  | some call =>
    obtain ⟨m', hm'⟩ := deleted_releases env false
      { m with callObjectPtrList := m.callObjectPtrList.filter fun it => it ≠ call }
    exact ⟨(), m', hm'⟩

theorem returns_countCarrierCall (count : ℕ) (otherCallId : ℤ) (m : CallStore) :
    Returns (countCarrierCall env count otherCallId) [] m := by
  refine (returns_reading _ m).bind fun call m' => ?_
  cases call with
  | none => exact returns_pure count [] m'
  | some call =>
    refine (returns_inspect _ [] m').bind fun confState m'' => ?_
    split_ifs
    all_goals exact returns_pure _ [] m''

theorem returns_getCurrentCallNum (m : CallStore) : Returns (getCurrentCallNum env) [] m :=
  (returns_reading _ m).bind fun callIdList m' =>
    returns_foldlM returns_countCarrierCall callIdList 0 m'

theorem returns_hasActivedCallExist (isIncludeVoipCall : Bool) (m : CallStore) :
    Returns (hasActivedCallExist isIncludeVoipCall) [] m := by
  refine returns_lockGuard (by simp) ((returns_inspect _ _ m).bind fun call m' => ?_)
  cases call with
  | some call => exact returns_inspect _ _ m'
  | none => exact (returns_inspect _ _ m').bind fun res m'' => returns_pure _ _ m''

/-- The two lists of call information are put together under one lock. -/
theorem returns_getCallInfoList (slotId : ℤ) (isIncludeVoipCall : Bool) (m : CallStore) :
    Returns (getCallInfoList slotId isIncludeVoipCall) [] m :=
  returns_lockGuard (by simp) ((returns_inspect _ _ m).bind fun _ m' =>
    (returns_inspect _ _ m').bind fun _ m'' => returns_pure _ _ m'')

theorem returns_getAllCallInfoList (isIncludeVoipCall : Bool) (m : CallStore) :
    Returns (getAllCallInfoList isIncludeVoipCall) [] m :=
  returns_lockGuard (by simp) ((returns_inspect _ _ m).bind fun _ m' =>
    (returns_inspect _ _ m').bind fun _ m'' => returns_pure _ _ m'')

theorem returns_orElse (call : Option Ref) {next : StoreCode (Option Ref)}
    (hnext : Returns next [] m) : Returns (orElse call next) [] m := by
  cases call with
  | some call => exact returns_pure _ [] m
  | none => exact hnext

/-- One lookup after the other, each with a lock of its own. -/
theorem returns_getAudioLiveCall (m : CallStore) : Returns getAudioLiveCall [] m := by
  refine (returns_reading _ m).bind fun call m => ?_
  refine (returns_orElse call (returns_reading _ m)).bind fun call m => ?_
  refine (returns_orElse call (returns_reading _ m)).bind fun call m => ?_
  refine (returns_orElse call (returns_reading _ m)).bind fun call m => ?_
  exact returns_orElse call (returns_reading _ m)

theorem returns_isNeedSilentInDoNotDisturbMode (m : CallStore) :
    Returns isNeedSilentInDoNotDisturbMode [] m := by
  refine (returns_reading _ m).bind fun foregroundCall m' => ?_
  cases foregroundCall with
  | none => exact returns_pure false [] m'
  | some call => exact returns_inspect _ [] m'

theorem returns_reportCallDisconnected (call : Option Ref) (m : CallStore) :
    Returns (reportCallDisconnected env call) [] m := by
  cases call with
  | none => exact returns_pure _ [] m
  | some call =>
    unfold reportCallDisconnected
    exact returns_update _ [] m

theorem returns_delayedDisconnectCallConnectAbility (m : CallStore) :
    Returns delayedDisconnectCallConnectAbility [] m := by
  unfold delayedDisconnectCallConnectAbility
  exact returns_update _ [] m

theorem returns_getOneCallObjectByNumber (phoneNumber : String) (m : CallStore) :
    Returns (getOneCallObjectByNumber phoneNumber) [] m := by
  unfold getOneCallObjectByNumber
  split_ifs
  · exact returns_pure none [] m
  · exact returns_reading _ m

theorem returns_isCallExistByNumber (phoneNumber : String) (m : CallStore) :
    Returns (isCallExistByNumber phoneNumber) [] m := by
  unfold isCallExistByNumber
  split_ifs
  · exact returns_pure false [] m
  · exact returns_reading _ m

theorem returns_hasRttCall (m : CallStore) : Returns (hasRttCall env) [] m := by
  unfold hasRttCall
  split_ifs
  · exact returns_reading _ m
  · exact returns_pure false [] m

/-! ## The functions that may block -/

/-- With `listMutex_` held, the test blocks if it comes to the list. -/
theorem returnsIff_setConnectingFlag (t : FlagTest) (hheld : StoreMutex.listMutex ∈ held)
    (m : CallStore) : ReturnsIff (setConnectingFlag t) held m (¬ t.Overtaken) := by
  refine (returnsIff_ite (P := False) (Q := True) (fun _ => ?_) fun _ => ?_).congr ?_
  · exact ((returnsIff_lockGuard_held _ hheld m).bind fun _ m' =>
      (returns_pure () held m').returnsIff).congr (by simp)
  · exact (returns_pure () held m).returnsIff
  · simp [FlagTest.Overtaken]

theorem returnsIff_connectAbility (mutexHeld : Bool) (r : ConnectRun)
    (hheld : StoreMutex.listMutex ∈ held)
    (hmutex : mutexHeld = true ↔ StoreMutex.connectAbilityMutex ∈ held) (m : CallStore) :
    ReturnsIff (connectAbility r) held m (r.Undisturbed mutexHeld) := by
  have hfinish := returnsIff_setConnectingFlag r.finish
    (List.mem_cons_of_mem .connectAbilityMutex hheld)
  have hguarded : ∀ m, ReturnsIff (lockGuard StoreMutex.connectAbilityMutex
      (if r.connects then pure () else setConnectingFlag r.finish)) held m
      (mutexHeld = false ∧ (r.connects = false → ¬ r.finish.Overtaken)) := by
    intro m
    cases mutexHeld with
    | true => exact (returnsIff_lockGuard_held _ (hmutex.mp rfl) m).congr (by simp)
    | false =>
      refine (ReturnsIff.lockGuard (fun h => by simpa using hmutex.mpr h)
        (returnsIff_ite (fun _ => (returns_pure () _ m).returnsIff) fun _ => hfinish m)).congr ?_
      simp
  refine ((returnsIff_setConnectingFlag r.start hheld m).bind fun _ m' =>
    returnsIff_ite (fun _ => (returns_pure () held m').returnsIff) fun _ =>
      returnsIff_ite (fun _ => returnsIff_setConnectingFlag r.finish hheld m') fun _ =>
        hguarded m').congr ?_
  simp [ConnectRun.Undisturbed]

theorem returnsIff_setDisconnectingFlag (mutexHeld : Bool) (t : FlagTest) (r : ConnectRun)
    (hheld : StoreMutex.listMutex ∈ held)
    (hmutex : mutexHeld = true ↔ StoreMutex.connectAbilityMutex ∈ held) (m : CallStore) :
    ReturnsIff (setDisconnectingFlag t r) held m (t.Reconnects → r.Undisturbed mutexHeld) := by
  refine (returnsIff_ite (fun _ => returnsIff_connectAbility mutexHeld r hheld hmutex m) fun _ =>
    (returns_pure () held m).returnsIff).congr ?_
  simp [FlagTest.Reconnects]

theorem returnsIff_disconnectAbility (d : DisconnectRun) (m : CallStore) :
    ReturnsIff (disconnectAbility d) [.listMutex] m d.Undisturbed := by
  have hfree : ∀ t r m, ReturnsIff (setDisconnectingFlag t r) [.listMutex] m
      (t.Reconnects → r.Undisturbed false) := fun t r m =>
    returnsIff_setDisconnectingFlag false t r (by simp) (by simp) m
  have hheld : ∀ m, ReturnsIff (setDisconnectingFlag d.finish d.reconnectLast)
      [.connectAbilityMutex, .listMutex] m
      (d.finish.Reconnects → d.reconnectLast.Undisturbed true) := fun m =>
    returnsIff_setDisconnectingFlag true _ _ (by simp) (by simp) m
  refine ((hfree d.start d.reconnectFirst m).bind fun _ m' =>
    returnsIff_ite (fun _ => (returns_pure () _ m').returnsIff) fun _ =>
      returnsIff_ite
        (fun _ => ReturnsIff.lockGuard (by simp)
          (returnsIff_ite (fun _ => hheld m') fun _ => (returns_pure () _ m').returnsIff))
        fun _ => hfree d.finish d.reconnectLast m').congr ?_
  simp only [DisconnectRun.Undisturbed]
  grind

theorem returnsIff_delayedDisconnectTask (d : DisconnectRun) (m : CallStore) :
    ReturnsIff (delayedDisconnectTask env d) [] m
      (m.callObjectPtrList = [] → env.shouldDisconnectService = true → d.Undisturbed) := by
  have hbody := returnsIff_ite
    (c := m.callObjectPtrList.isEmpty = true ∧ env.shouldDisconnectService = true)
    (fun _ => returnsIff_disconnectAbility d m)
    (fun _ => (returns_pure () [StoreMutex.listMutex] m).returnsIff)
  refine (ReturnsIff.lockGuard (by simp) (returnsIff_inspect_bind hbody)).congr ?_
  simp

theorem hasNew_iff (m : CallStore) : (m.anyCall fun it => it.IsNew) = true ↔ m.SettingUp := by
  simp [CallStore.anyCall, CallStore.SettingUp]

/-- Without a call being set up, the carrier calls are collected with the lock held. -/
theorem returnsIff_isNewCallAllowedCreate (m : CallStore) :
    ReturnsIff (isNewCallAllowedCreate env) [] m m.SettingUp := by
  have hcollect : ReturnsIff getCarrierCallList [.listMutex] m False :=
    returnsIff_lockGuard_held _ (by simp) m
  refine (ReturnsIff.lockGuard (by simp) (returnsIff_inspect_bind
    (P := (m.anyCall fun it => it.IsNew) = true) ?_)).congr (hasNew_iff m)
  exact (returnsIff_ite (fun _ => (returns_pure false _ m).returnsIff)
    fun _ => hcollect.false_bind _).congr (by simp)

end StoreCode

/-! ## The lock discipline -/

namespace StoreOperation

/-- **Lock discipline.** An operation that is started with no lock held never waits
    for a lock it holds, and ends with no lock held, iff its condition holds. -/
theorem lockDiscipline_iff (env : StoreLockEnv) (op : StoreOperation) (m : CallStore) :
    Returns (op.code env) [] m ↔ op.StepOk env m := by
  cases op with
  | isNewCallAllowedCreate => exact (StoreCode.returnsIff_isNewCallAllowedCreate m).discard.iff
  | delayedDisconnectTask d => exact (StoreCode.returnsIff_delayedDisconnectTask d m).iff
  | addOneCallObject call =>
    exact iff_of_true (StoreCode.returns_addOneCallObject call m).discard trivial
  | connectAbilityIfNeed call =>
    exact iff_of_true (StoreCode.returns_connectAbilityIfNeed call m) trivial
  | deleteOneCallObject callId =>
    exact iff_of_true (StoreCode.returns_deleteOneCallObject callId m).discard trivial
  | deleteOneCallObjectByRef call =>
    exact iff_of_true (StoreCode.returns_deleteOneCallObjectByRef call m) trivial
  | getCurrentCallNum =>
    exact iff_of_true (StoreCode.returns_getCurrentCallNum m).discard trivial
  | hasActivedCallExist isIncludeVoipCall =>
    exact iff_of_true (StoreCode.returns_hasActivedCallExist isIncludeVoipCall m).discard trivial
  | getCallInfoList slotId isIncludeVoipCall =>
    exact iff_of_true (StoreCode.returns_getCallInfoList slotId isIncludeVoipCall m).discard trivial
  | getAllCallInfoList isIncludeVoipCall =>
    exact iff_of_true (StoreCode.returns_getAllCallInfoList isIncludeVoipCall m).discard trivial
  | getAudioLiveCall =>
    exact iff_of_true (StoreCode.returns_getAudioLiveCall m).discard trivial
  | isNeedSilentInDoNotDisturbMode =>
    exact iff_of_true (StoreCode.returns_isNeedSilentInDoNotDisturbMode m).discard trivial
  | reportCallDisconnected call | dealFailDial call =>
    exact iff_of_true (StoreCode.returns_reportCallDisconnected call m).discard trivial
  | getOneCallObjectByNumber phoneNumber =>
    exact iff_of_true (StoreCode.returns_getOneCallObjectByNumber phoneNumber m).discard trivial
  | isCallExistByNumber phoneNumber =>
    exact iff_of_true (StoreCode.returns_isCallExistByNumber phoneNumber m).discard trivial
  | hasRttCall => exact iff_of_true (StoreCode.returns_hasRttCall m).discard trivial
  | getActiveVoipCallInfo | getVoipCallInfoList | getDialCallInfo =>
    exact iff_of_true (returns_inspect _ [] m).discard trivial
  | delayedDisconnectCallConnectAbility =>
    exact iff_of_true (StoreCode.returns_delayedDisconnectCallConnectAbility m) trivial
  | clearVoipList | updateOneCallObjectByCallId callId nextCallState =>
    exact iff_of_true (StoreCode.returns_writing _ m) trivial
  | addOneVoipCallObject info | deleteOneVoipCallObject callId | getNewCallId
  | updateOneVoipCallObjectByCallId callId nextCallState =>
    exact iff_of_true (StoreCode.returns_writing _ m).discard trivial
  | _ => exact iff_of_true (StoreCode.returns_reading _ m).discard trivial

end StoreOperation

/-! ## An ordinary dial -/

namespace StoreCode

/-- **What a dial is answered** is what the deferred dial's model has for the mutex as it is. -/
theorem isNewCallAllowedCreate_dial (env : StoreLockEnv) (m : CallStore) {dialEnv : DialEnv}
    (hnew : dialEnv.settingUp = m.anyCall fun it => it.IsNew) :
    (isNewCallAllowedCreate env ⟨[], m⟩).map Prod.fst =
      CallManager.isNewCallAllowedCreate .asWritten dialEnv := by
  unfold CallManager.isNewCallAllowedCreate
  by_cases hsetting : m.SettingUp
  · have hany : (m.anyCall fun it => it.IsNew) = true := (hasNew_iff m).mpr hsetting
    have hfalse : isNewCallAllowedCreate env ⟨[], m⟩ = some (false, ⟨[], m⟩) := by
      refine lockGuard_eq (by simp) ?_
      change (if (m.anyCall fun it => it.IsNew) = true then (pure false : StoreCode Bool) else _)
        ⟨[.listMutex], m⟩ = _
      rw [if_pos hany]
      rfl
    rw [hfalse, if_pos (hnew.trans hany), Option.map_some]
  · have hany : ¬ (m.anyCall fun it => it.IsNew) = true := fun h => hsetting ((hasNew_iff m).mp h)
    rw [hnew, if_neg hany]
    show (isNewCallAllowedCreate env ⟨[], m⟩).map Prod.fst = none
    rw [(returnsIff_isNewCallAllowedCreate m).blocks hsetting, Option.map_none]

/-- `HandleDialingInfo` (call_request_process.cpp:863-888), which holds no lock, with the two
    functions of dual SIM that it calls. -/
def handleDialingInfo (env : StoreLockEnv) (handleEccCallForDsda : StoreCode (ErrorCode × Bool))
    (isDsdsMode5 : Bool) (isDialCallForDsda : StoreCode ErrorCode) : StoreCode ErrorCode := do
  let (ret, isEcc) ← handleEccCallForDsda
  if ret ≠ .telephonySuccess then pure ret
  else if isEcc then pure .telephonySuccess
  else
    let canDial ← isNewCallAllowedCreate env
    if canDial = false then pure .callErrCallCountsExceedLimit
    else if isDsdsMode5 then isDialCallForDsda
    else pure .telephonySuccess

/-- A dial that is not an emergency dial never gets past the question whether a
    new call is allowed, unless a call is being set up. -/
theorem handleDialingInfo_blocks {env : StoreLockEnv}
    {handleEccCallForDsda : StoreCode (ErrorCode × Bool)} {m m' : CallStore}
    (hecc : handleEccCallForDsda ⟨[], m⟩ = some ((.telephonySuccess, false), ⟨[], m'⟩))
    (hnew : ¬ m'.SettingUp) (isDsdsMode5 : Bool) (isDialCallForDsda : StoreCode ErrorCode) :
    Blocks (handleDialingInfo env handleEccCallForDsda isDsdsMode5 isDialCallForDsda) [] m := by
  have hblocks : isNewCallAllowedCreate env ⟨[], m'⟩ = none :=
    (returnsIff_isNewCallAllowedCreate m').blocks hnew
  refine blocks_bind hecc ?_
  change (isNewCallAllowedCreate env ⟨[], m'⟩).bind _ = none
  rw [hblocks, Option.bind_none]

end StoreCode

namespace StoreOperation

/-- A store without calls. -/
def emptyStore : CallStore where
  toCallObjectManager := CallObjectManager.init
  objects := fun _ =>
    { toPolicyCall :=
        { toCallBase := default
          emergencyState := false
          isTransferCall := false }
      accountId := 0
      direction := .callDirectionUnknow
      crsType := 0
      personalNotificationRingtone := ""
      ringtonePath := ""
      rttState := .no
      isTransferCallAllow := false
      needSilentInDoNotDisturbMode := 0 }
  voip := ⟨∅, {}⟩
  dialCallInfo := {}
  reports := []

/-- A phone without any of the features of the build. -/
def phoneEnv : StoreLockEnv where
  isSmallFoldDevice := false
  shouldDisconnectService := false
  notSupportMulticall := false
  callTransfer := false
  supportRttCall := false
  imsMainCall := errId
  updateCallReportInfo := fun _ => .telephonySuccess

/-- **An ordinary dial with no call waits for itself.** -/
theorem ordinary_dial_blocks :
    ¬ Returns (code phoneEnv .isNewCallAllowedCreate) [] emptyStore := by
  have hnone : ¬ emptyStore.SettingUp := by
    simp [CallStore.SettingUp, emptyStore, CallObjectManager.init]
  exact ((StoreCode.returnsIff_isNewCallAllowedCreate emptyStore).discard.blocks hnone).not_returns

end StoreOperation

end CallManager
