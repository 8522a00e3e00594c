import CallManager.Library.Parcel
import CallManager.Library.Run
import Mathlib.Tactic.IntervalCases

/-!
# The way of a modem report

A modem report, `CallsReportInfo`, comes to the call manager in four stages.
`CallStatusCallbackProxy` packs it into a parcel, `CallStatusCallbackStub`
unpacks it, `CallStatusCallback` makes `CallDetailsInfo` of it, and
`ReportCallInfoHandler` copies that for the queue that hands it to
`CallStatusManager`.

Enumerations are the `int32_t` they are sent as, and an array of characters is
its bytes. The replies, the events for the system log, the bundle names, which
are empty, and the RTT state that the last stage also gives the call are left
out.

Results:
* `received_iff`: a report arrives as it was sent iff the device is set up, the
  report is not empty, and no call has a phone index or VoIP fields.
* `empty_report_lost`: an empty report does not arrive.
-/

namespace CallManager.ReportTransport

open MessageParcel

/-! ## Arrays of characters -/

/-- `char[size + 1]`. -/
structure CharArray (size : ℕ) where
  bytes : List UInt8
  length_eq : bytes.length = size + 1
  deriving DecidableEq, Repr

namespace CharArray

variable {size : ℕ}

/-- `{ 0 }`. -/
def zero (size : ℕ) : CharArray size := ⟨List.replicate (size + 1) 0, List.length_replicate⟩

/-- The C string in the array. -/
def text (a : CharArray size) : ByteString := cString a.bytes

/-- The array holds a C string. -/
def Terminated (a : CharArray size) : Prop := 0 ∈ a.bytes

/-- `memcpy_s` of all but the last character. -/
def memcpyS (dest src : CharArray size) : CharArray size where
  bytes := src.bytes.take size ++ dest.bytes.drop size
  length_eq := by simp [src.length_eq, dest.length_eq]

/-- `strncpy_s` of a C string: one that is too long leaves the empty string. -/
def strncpyS (dest : CharArray size) (src : ByteString) : CharArray size :=
  if h : src.length ≤ size then
    ⟨src ++ 0 :: dest.bytes.drop (src.length + 1), by
      simp only [List.length_append, List.length_cons, List.length_drop, dest.length_eq]
      omega⟩
  else
    ⟨0 :: dest.bytes.drop 1, by
      simp only [List.length_cons, List.length_drop, dest.length_eq]
      omega⟩

end CharArray

/-! ## The reports -/

/-- `TYPE_ERR_CALL` (call_manager_base.h:135). -/
def typeErrCall : Int32 := 3

/-- `TYPE_VOIP` (call_manager_base.h:139). -/
def typeVoip : Int32 := 4

/-- `CALL_STATUS_UNKNOWN` (call_manager_base.h:157). -/
def callStatusUnknown : Int32 := -1

/-- `FAILED_UNKNOWN` (call_manager_disconnected_details.h:358). -/
def failedUnknown : Int32 := 1279

/-- `VoipCallReportInfo`, with its initial values (call_manager_info.h:85-100). -/
structure VoipCallReportInfo where
  voipCallId : ByteString := []
  userName : ByteString := []
  userProfile : List UInt8 := []
  abilityName : ByteString := []
  extensionId : ByteString := []
  voipBundleName : ByteString := []
  showBannerForIncomingCall : Bool := true
  isConferenceCall : Bool := false
  isVoiceAnswerSupported : Bool := true
  isUserMuteRingToneAllowed : Bool := false
  isDialingAllowedDuringCarrierCall : Bool := false
  hasMicPermission : Bool := true
  isCapsuleSticky : Bool := false
  uid : Int32 := 0
  deriving DecidableEq, Repr

/-- `CallReportInfo` (call_manager_info.h:160-256), with its initial values. -/
structure CallReportInfo where
  index : Int32 := 0
  accountNum : CharArray maxNumberLen := .zero maxNumberLen
  accountId : Int32 := 0
  callType : Int32 := typeErrCall
  callMode : Int32 := 0
  state : Int32 := callStatusUnknown
  voiceDomain : Int32 := 0
  mpty : Int32 := 0
  crsType : Int32 := 0
  originalCallType : Int32 := 0
  voipCallInfo : VoipCallReportInfo := {}
  namePresentation : Int32 := 0
  name : ByteString := []
  reason : Int32 := failedUnknown
  message : ByteString := []
  newCallUseBox : Int32 := 0
  rttState : Int32 := 0
  rttChannelId : Int32 := -1
  imsDomain : Int32 := 0
  phoneIndex : Int32 := 0
  deriving DecidableEq, Repr

/-- `CallsReportInfo` (call_manager_info.h:261-270). -/
structure CallsReportInfo where
  callVec : List CallReportInfo
  slotId : Int32
  deriving DecidableEq, Repr

/-- `CallDetailInfo` (call_manager_info.h:636-793), with its initial values. -/
structure CallDetailInfo where
  index : Int32 := 0
  phoneNum : CharArray maxNumberLen := .zero maxNumberLen
  accountId : Int32 := 0
  callType : Int32 := typeErrCall
  callMode : Int32 := 0
  state : Int32 := callStatusUnknown
  voiceDomain : Int32 := 0
  mpty : Int32 := 0
  crsType : Int32 := 0
  originalCallType : Int32 := 0
  voipCallInfo : VoipCallReportInfo := {}
  name : ByteString := []
  namePresentation : Int32 := 0
  phoneOrWatch : Int32 := 0
  reason : Int32 := failedUnknown
  antiFraudState : Int32 := 0
  message : ByteString := []
  newCallUseBox : Int32 := 0
  rttState : Int32 := 0
  rttChannelId : Int32 := -1
  imsDomain : Int32 := 0
  phoneIndex : Int32 := 0
  deriving DecidableEq, Repr

/-- `CallDetailsInfo` (call_manager_info.h:798-811). -/
structure CallDetailsInfo where
  callVec : List CallDetailInfo
  slotId : Int32
  deriving DecidableEq, Repr

/-! ## The stages -/

/-- The descriptor of `ICallStatusCallback` (i_call_status_callback.h:352). -/
def descriptor : String := "OHOS.Telephony.ICallStatusCallback"

/-- `MAX_CALL_NUM` (call_status_callback_stub.cpp:26). -/
def maxCallNum : Int32 := 10

/-- The VoIP fields, as `PackUpdateCallsReportInfo` writes them. -/
def packVoipCallInfo (info : VoipCallReportInfo) : List ParcelItem :=
  [.string info.voipCallId, .string info.userName, .string info.abilityName,
    .string info.extensionId, .string info.voipBundleName, .bool info.showBannerForIncomingCall,
    .bool info.isConferenceCall, .bool info.isVoiceAnswerSupported,
    .bool info.isUserMuteRingToneAllowed, .bool info.isDialingAllowedDuringCarrierCall,
    .bool info.hasMicPermission, .bool info.isCapsuleSticky, .int32 info.uid,
    .uint8Vector info.userProfile]

/-- One call, as the loop of `PackUpdateCallsReportInfo` writes it. -/
def packCall (it : CallReportInfo) : List ParcelItem :=
  .int32 it.index :: .cString it.accountNum.text :: .int32 it.accountId :: .int32 it.callType ::
    .int32 it.callMode :: .int32 it.state :: .int32 it.voiceDomain :: .int32 it.mpty ::
    .int32 it.crsType :: .int32 it.originalCallType :: .int32 it.phoneIndex ::
    ((if it.callType = typeVoip then packVoipCallInfo it.voipCallInfo else []) ++
      [.string it.name, .int32 it.namePresentation, .int32 it.reason, .string it.message,
        .int32 it.newCallUseBox, .int32 it.rttState, .int32 it.rttChannelId, .int32 it.imsDomain])

/-- `PackUpdateCallsReportInfo` (call_status_callback_proxy.cpp:755-800). -/
def packUpdateCallsReportInfo (P : MessageParcel) (info : CallsReportInfo) : P.Parcel :=
  P.writeAll P.empty
    (.interfaceToken descriptor :: .int32 (Int32.ofNat info.callVec.length) ::
      (info.callVec.flatMap packCall ++ [.int32 info.slotId]))

section Stub

variable {P : MessageParcel}

/-- The VoIP fields, as `BuildCallReportInfo` reads them. -/
def readVoipCallInfo : P.Reader VoipCallReportInfo := do
  let voipCallId ← string
  let userName ← string
  let abilityName ← string
  let extensionId ← string
  let voipBundleName ← string
  let showBannerForIncomingCall ← bool
  let isConferenceCall ← bool
  let isVoiceAnswerSupported ← bool
  let isUserMuteRingToneAllowed ← bool
  let isDialingAllowedDuringCarrierCall ← bool
  let hasMicPermission ← bool
  let isCapsuleSticky ← bool
  let uid ← int32
  let userProfile ← uint8Vector
  return {
    voipCallId, userName, userProfile, abilityName, extensionId, voipBundleName,
    showBannerForIncomingCall, isConferenceCall, isVoiceAnswerSupported,
    isUserMuteRingToneAllowed, isDialingAllowedDuringCarrierCall, hasMicPermission,
    isCapsuleSticky, uid }

/-- The VoIP fields of a call, which only a VoIP call brings along. -/
def readVoipFields (callType : Int32) (voipCallInfo : VoipCallReportInfo) :
    P.Reader VoipCallReportInfo :=
  if callType = typeVoip then readVoipCallInfo else pure voipCallInfo

/-- `BuildCallReportInfo` (call_status_callback_stub.cpp:225-270): the fields of `parcelPtr` are
    read over. -/
def buildCallReportInfo (parcelPtr : CallReportInfo) : P.Reader CallReportInfo := do
  let index ← int32
  let accountNum ← chars
  let accountId ← int32
  let callType ← int32
  let callMode ← int32
  let state ← int32
  let voiceDomain ← int32
  let mpty ← int32
  let crsType ← int32
  let originalCallType ← int32
  let phoneIndex ← int32
  let voipCallInfo ← readVoipFields callType parcelPtr.voipCallInfo
  let name ← string
  let namePresentation ← int32
  let reason ← int32Into parcelPtr.reason
  let message ← string
  let newCallUseBox ← int32
  let rttState ← int32
  let rttChannelId ← int32
  let imsDomain ← int32
  return {
    index, accountNum := parcelPtr.accountNum.strncpyS accountNum, accountId, callType, callMode,
    state, voiceDomain, mpty, crsType, originalCallType, voipCallInfo, namePresentation, name,
    reason, message, newCallUseBox, rttState, rttChannelId, imsDomain, phoneIndex }

/-- The loop of `OnUpdateCallsReportInfo`, with one `parcelPtr` for all calls. -/
def readCalls : ℕ → CallReportInfo → P.Reader (List CallReportInfo)
  | 0, _ => pure []
  | n + 1, parcelPtr => do
    let parcelPtr ← buildCallReportInfo parcelPtr
    let callVec ← readCalls n parcelPtr
    return parcelPtr :: callVec

/-- `OnUpdateCallsReportInfo` (call_status_callback_stub.cpp:196-223): the report, or none for
    an invalid parameter. -/
def onUpdateCallsReportInfo : P.Reader (Option CallsReportInfo) := do
  let cnt ← int32
  if cnt ≤ 0 ∨ maxCallNum < cnt then
    return none
  else
    let callVec ← readCalls cnt.toNatClampNeg {}
    let slotId ← int32
    return some ⟨callVec, slotId⟩

/-- `OnRemoteRequest` (call_status_callback_stub.cpp:140-158) for `UPDATE_CALLS_INFO`. -/
def onRemoteRequest : P.Reader (Option CallsReportInfo) := do
  let remoteDescriptor ← interfaceToken
  if remoteDescriptor = descriptor then onUpdateCallsReportInfo else return none

end Stub

/-- The loop of `CallStatusCallback::UpdateCallsReportInfo`, on its one `detailInfo`. -/
def fillDetailInfo (detailInfo : CallDetailInfo) (it : CallReportInfo) : CallDetailInfo :=
  { detailInfo with
    callType := it.callType
    accountId := it.accountId
    index := it.index
    state := it.state
    callMode := it.callMode
    voiceDomain := it.voiceDomain
    mpty := it.mpty
    crsType := it.crsType
    originalCallType := it.originalCallType
    phoneNum := detailInfo.phoneNum.memcpyS it.accountNum
    name := it.name
    namePresentation := it.namePresentation
    reason := it.reason
    message := it.message
    newCallUseBox := it.newCallUseBox
    rttState := it.rttState
    rttChannelId := it.rttChannelId
    imsDomain := it.imsDomain }

/-- `CallStatusCallback::UpdateCallsReportInfo` (call_status_callback.cpp:122-171). -/
def callbackUpdateCallsReportInfo (info : CallsReportInfo) : CallDetailsInfo where
  callVec := Run.visited fillDetailInfo {} info.callVec
  slotId := info.slotId

/-- The loop of `BuildCallDetailsInfo`, on its one `callDetailInfo`. -/
def copyDetailInfo (callDetailInfo iter : CallDetailInfo) : CallDetailInfo :=
  { callDetailInfo with
    callType := iter.callType
    accountId := iter.accountId
    state := iter.state
    callMode := iter.callMode
    index := iter.index
    voiceDomain := iter.voiceDomain
    mpty := iter.mpty
    crsType := iter.crsType
    originalCallType := iter.originalCallType
    phoneNum := callDetailInfo.phoneNum.memcpyS iter.phoneNum
    name := iter.name
    namePresentation := iter.namePresentation
    reason := iter.reason
    message := iter.message
    newCallUseBox := iter.newCallUseBox
    rttState := iter.rttState
    rttChannelId := iter.rttChannelId
    imsDomain := iter.imsDomain }

/-- `BuildCallDetailsInfo` (report_call_info_handler.cpp:232-265). -/
def buildCallDetailsInfo (info : CallDetailsInfo) : CallDetailsInfo where
  callVec := Run.visited copyDetailInfo {} info.callVec
  slotId := info.slotId

/-- What `ReportCallInfoHandler` finds: whether it has the call status manager,
    and whether the device is provisioned and its setup complete. -/
structure HandlerEnv where
  hasCallStatusManager : Bool
  isDevProvisioned : Bool
  isOobeComplete : Bool

/-- `ReportCallInfoHandler::UpdateCallsReportInfo` (report_call_info_handler.cpp:267-304): what
    the queued task hands to `CallStatusManager`. -/
def handlerUpdateCallsReportInfo (env : HandlerEnv) (info : CallDetailsInfo) :
    Option CallDetailsInfo :=
  if env.hasCallStatusManager = false then none
  else if env.isDevProvisioned = false ∨ env.isOobeComplete = false then none
  else some (buildCallDetailsInfo info)

/-- The report from `CallStatusCallbackProxy::UpdateCallsReportInfo` to `CallStatusManager`. -/
def received (P : MessageParcel) (env : HandlerEnv) (info : CallsReportInfo) :
    Option CallDetailsInfo :=
  (onRemoteRequest (packUpdateCallsReportInfo P info)).1.bind fun callReportInfo =>
    handlerUpdateCallsReportInfo env (callbackUpdateCallsReportInfo callReportInfo)

/-! ## Specification -/

/-- What a call of a report says, sent or received. -/
structure CallFields where
  index : Int32
  number : ByteString
  accountId : Int32
  callType : Int32
  callMode : Int32
  state : Int32
  voiceDomain : Int32
  mpty : Int32
  crsType : Int32
  originalCallType : Int32
  phoneIndex : Int32
  voipCallInfo : VoipCallReportInfo
  name : ByteString
  namePresentation : Int32
  reason : Int32
  message : ByteString
  newCallUseBox : Int32
  rttState : Int32
  rttChannelId : Int32
  imsDomain : Int32
  deriving DecidableEq

/-- What a sent call says. -/
def CallReportInfo.fields (c : CallReportInfo) : CallFields :=
  { c with number := c.accountNum.text }

/-- What a received call says. -/
def CallDetailInfo.fields (d : CallDetailInfo) : CallFields :=
  { d with number := d.phoneNum.text }

/-- The report arrives, on its slot, with the calls in order. -/
def Arrives (P : MessageParcel) (env : HandlerEnv) (info : CallsReportInfo) : Prop :=
  ∃ details, received P env info = some details ∧ details.slotId = info.slotId ∧
    details.callVec.map CallDetailInfo.fields = info.callVec.map CallReportInfo.fields

/-! ## Arrays -/

namespace CharArray

variable {size : ℕ}

/-- A C string in its array: the text, the zero that ends it, and the rest. -/
theorem Terminated.split {a : CharArray size} (h : a.Terminated) :
    0 ∉ a.text ∧ ∃ rest, a.bytes = a.text ++ 0 :: rest := by
  obtain ⟨s, rest, hbytes, h0⟩ := List.eq_append_cons_of_mem h
  have htext : a.text = s := by rw [text, hbytes, cString_append_zero h0]
  rw [htext]
  exact ⟨h0, rest, hbytes⟩

theorem Terminated.length_text_le {a : CharArray size} (h : a.Terminated) :
    a.text.length ≤ size := by
  obtain ⟨-, rest, hbytes⟩ := h.split
  have hlen := a.length_eq
  rw [hbytes, List.length_append, List.length_cons] at hlen
  omega

theorem strncpyS_of_le {dest : CharArray size} {src : ByteString} (h : src.length ≤ size) :
    (dest.strncpyS src).bytes = src ++ 0 :: dest.bytes.drop (src.length + 1) := by
  rw [strncpyS, dif_pos h]

theorem text_strncpyS {dest : CharArray size} {src : ByteString} (h : src.length ≤ size)
    (h0 : 0 ∉ src) : (dest.strncpyS src).text = src := by
  rw [text, strncpyS_of_le h, cString_append_zero h0]

theorem terminated_strncpyS (dest : CharArray size) (src : ByteString) :
    (dest.strncpyS src).Terminated := by
  unfold Terminated strncpyS
  split
  · simp
  · simp

/-- The last character is zero. -/
def Closed (a : CharArray size) : Prop := a.bytes.drop size = [0]

theorem closed_zero : (zero size).Closed := by
  simp [Closed, zero]

theorem Closed.terminated {a : CharArray size} (h : a.Closed) : a.Terminated := by
  have hmem : (0 : UInt8) ∈ a.bytes.drop size := by
    rw [show a.bytes.drop size = [0] from h]
    exact List.mem_singleton_self 0
  exact List.mem_of_mem_drop hmem

theorem Closed.memcpyS {dest : CharArray size} (h : dest.Closed) (src : CharArray size) :
    (dest.memcpyS src).Closed := by
  have hlen : (src.bytes.take size).length = size := by
    rw [List.length_take, src.length_eq]
    omega
  rw [Closed, CharArray.memcpyS, List.drop_left' hlen]
  exact h

/-- A copy without the last character keeps the text: the character it leaves is
    the zero that ends the longest text. -/
theorem Closed.text_memcpyS {dest src : CharArray size} (h : dest.Closed) (hs : src.Terminated) :
    (dest.memcpyS src).text = src.text := by
  obtain ⟨h0, rest, hbytes⟩ := hs.split
  have hlen := hs.length_text_le
  have hcopy : (dest.memcpyS src).bytes = src.bytes.take size ++ [0] := by
    show src.bytes.take size ++ dest.bytes.drop size = _
    rw [show dest.bytes.drop size = [0] from h]
  have hzero : ∃ rest', src.bytes.take size ++ [0] = src.text ++ 0 :: rest' := by
    rw [hbytes, List.take_append, List.take_of_length_le hlen, List.append_assoc]
    cases hsize : size - src.text.length with
    | zero => exact ⟨[], by simp⟩
    | succ n => exact ⟨rest.take n ++ [0], by simp⟩
  obtain ⟨rest', hrest⟩ := hzero
  rw [text, hcopy, hrest, cString_append_zero h0]

end CharArray

/-! ## Unpacking what was packed -/

section Stub

variable {P : MessageParcel}

theorem reads_readVoipCallInfo (info : VoipCallReportInfo) :
    Reads (P := P) readVoipCallInfo (packVoipCallInfo info) info := by
  unfold readVoipCallInfo packVoipCallInfo
  refine .next (reads_string info.voipCallId) ?_
  refine .next (reads_string info.userName) ?_
  refine .next (reads_string info.abilityName) ?_
  refine .next (reads_string info.extensionId) ?_
  refine .next (reads_string info.voipBundleName) ?_
  refine .next (reads_bool info.showBannerForIncomingCall) ?_
  refine .next (reads_bool info.isConferenceCall) ?_
  refine .next (reads_bool info.isVoiceAnswerSupported) ?_
  refine .next (reads_bool info.isUserMuteRingToneAllowed) ?_
  refine .next (reads_bool info.isDialingAllowedDuringCarrierCall) ?_
  refine .next (reads_bool info.hasMicPermission) ?_
  refine .next (reads_bool info.isCapsuleSticky) ?_
  refine .next (reads_int32 info.uid) ?_
  refine .next (reads_uint8Vector info.userProfile) ?_
  exact .pure info

theorem reads_readVoipFields (it : CallReportInfo) (voipCallInfo : VoipCallReportInfo) :
    Reads (P := P) (readVoipFields it.callType voipCallInfo)
      (if it.callType = typeVoip then packVoipCallInfo it.voipCallInfo else [])
      (if it.callType = typeVoip then it.voipCallInfo else voipCallInfo) := by
  unfold readVoipFields
  by_cases h : it.callType = typeVoip
  · rw [if_pos h, if_pos h, if_pos h]
    exact reads_readVoipCallInfo it.voipCallInfo
  · rw [if_neg h, if_neg h, if_neg h]
    exact .pure voipCallInfo

/-- What unpacking a call makes of `parcelPtr`: the call, in its array, with the
    VoIP fields of the call before unless it is a VoIP call. -/
def unpacked (parcelPtr it : CallReportInfo) : CallReportInfo :=
  { it with
    accountNum := parcelPtr.accountNum.strncpyS it.accountNum.text
    voipCallInfo := if it.callType = typeVoip then it.voipCallInfo else parcelPtr.voipCallInfo }

theorem reads_buildCallReportInfo (parcelPtr it : CallReportInfo) :
    Reads (P := P) (buildCallReportInfo parcelPtr) (packCall it) (unpacked parcelPtr it) := by
  unfold buildCallReportInfo packCall
  refine .next (reads_int32 it.index) ?_
  refine .next (reads_chars it.accountNum.text) ?_
  refine .next (reads_int32 it.accountId) ?_
  refine .next (reads_int32 it.callType) ?_
  refine .next (reads_int32 it.callMode) ?_
  refine .next (reads_int32 it.state) ?_
  refine .next (reads_int32 it.voiceDomain) ?_
  refine .next (reads_int32 it.mpty) ?_
  refine .next (reads_int32 it.crsType) ?_
  refine .next (reads_int32 it.originalCallType) ?_
  refine .next (reads_int32 it.phoneIndex) ?_
  refine .bind (reads_readVoipFields it parcelPtr.voipCallInfo) ?_
  refine .next (reads_string it.name) ?_
  refine .next (reads_int32 it.namePresentation) ?_
  refine .next (reads_int32Into parcelPtr.reason it.reason) ?_
  refine .next (reads_string it.message) ?_
  refine .next (reads_int32 it.newCallUseBox) ?_
  refine .next (reads_int32 it.rttState) ?_
  refine .next (reads_int32 it.rttChannelId) ?_
  refine .next (reads_int32 it.imsDomain) ?_
  exact .pure _

/-- The loop reads the calls, each over the one before. -/
theorem reads_readCalls (callVec : List CallReportInfo) (parcelPtr : CallReportInfo) :
    Reads (P := P) (readCalls callVec.length parcelPtr) (callVec.flatMap packCall)
      (Run.visited unpacked parcelPtr callVec) := by
  induction callVec generalizing parcelPtr with
  | nil => exact .pure []
  | cons it callVec ih =>
    rw [List.flatMap_cons]
    refine .bind (reads_buildCallReportInfo parcelPtr it) ?_
    rw [← List.append_nil (callVec.flatMap packCall)]
    exact .bind (ih (unpacked parcelPtr it)) (.pure _)

/-- The stub accepts what the proxy packed of one to ten calls. -/
theorem reads_onRemoteRequest {info : CallsReportInfo} (hne : info.callVec ≠ [])
    (hlen : info.callVec.length ≤ 10) :
    Reads (P := P) onRemoteRequest
      (.interfaceToken descriptor :: .int32 (Int32.ofNat info.callVec.length) ::
        (info.callVec.flatMap packCall ++ [.int32 info.slotId]))
      (some ⟨Run.visited unpacked {} info.callVec, info.slotId⟩) := by
  have hpos : 0 < info.callVec.length := List.length_pos_iff.mpr hne
  have hcnt : ¬ (Int32.ofNat info.callVec.length ≤ 0 ∨
        maxCallNum < Int32.ofNat info.callVec.length) ∧
      (Int32.ofNat info.callVec.length).toNatClampNeg = info.callVec.length := by
    generalize info.callVec.length = n at hpos hlen
    interval_cases n <;> decide
  refine .next (reads_interfaceToken descriptor) ?_
  rw [if_pos rfl]
  refine .next (reads_int32 _) ?_
  rw [if_neg hcnt.1, hcnt.2]
  refine .bind (reads_readCalls info.callVec {}) ?_
  exact .next (reads_int32 info.slotId) (.pure _)

/-- The stub rejects a report without calls. -/
theorem reads_onRemoteRequest_nil :
    Reads (P := P) onRemoteRequest [.interfaceToken descriptor, .int32 0] none := by
  refine .next (reads_interfaceToken descriptor) ?_
  rw [if_pos rfl]
  refine .next (reads_int32 0) ?_
  rw [if_pos (by decide)]
  exact .pure none

end Stub

/-! ## The calls, stage by stage -/

/-- What is left of a call: everything but the phone index and the VoIP fields. -/
def CallFields.carried (f : CallFields) : CallFields :=
  { f with phoneIndex := 0, voipCallInfo := {} }

theorem unpacked_fields (callVec : List CallReportInfo)
    (h : ∀ it ∈ callVec, it.accountNum.Terminated) :
    (∀ c ∈ Run.visited unpacked {} callVec, c.accountNum.Terminated) ∧
      (Run.visited unpacked {} callVec).map (fun c => c.fields.carried) =
        callVec.map fun it => it.fields.carried := by
  refine Run.visited_spec (Q := fun it => it.accountNum.Terminated) (fun c it _ hit => ⟨?_, ?_⟩)
    CharArray.closed_zero.terminated h
  · exact CharArray.terminated_strncpyS c.accountNum it.accountNum.text
  · have htext : (c.accountNum.strncpyS it.accountNum.text).text = it.accountNum.text :=
      CharArray.text_strncpyS hit.length_text_le hit.split.1
    simp only [unpacked, CallReportInfo.fields, CallFields.carried, htext]

/-- A call that nothing but the fields of a report was filled into. -/
structure CallDetailInfo.Fresh (d : CallDetailInfo) : Prop where
  phoneNum : d.phoneNum.Closed
  phoneIndex : d.phoneIndex = 0
  voipCallInfo : d.voipCallInfo = {}

theorem fresh_default : ({} : CallDetailInfo).Fresh := ⟨CharArray.closed_zero, rfl, rfl⟩

theorem fillDetailInfo_fields (callVec : List CallReportInfo)
    (h : ∀ it ∈ callVec, it.accountNum.Terminated) :
    (∀ d ∈ Run.visited fillDetailInfo {} callVec, d.Fresh) ∧
      (Run.visited fillDetailInfo {} callVec).map CallDetailInfo.fields =
        callVec.map fun it => it.fields.carried := by
  refine Run.visited_spec (Q := fun it => it.accountNum.Terminated) (fun d it hd hit => ⟨?_, ?_⟩)
    fresh_default h
  · exact ⟨hd.phoneNum.memcpyS it.accountNum, hd.phoneIndex, hd.voipCallInfo⟩
  · have htext := hd.phoneNum.text_memcpyS hit
    simp only [fillDetailInfo, CallDetailInfo.fields, CallReportInfo.fields, CallFields.carried,
      htext, hd.phoneIndex, hd.voipCallInfo]

theorem copyDetailInfo_fields (callVec : List CallDetailInfo) (h : ∀ it ∈ callVec, it.Fresh) :
    (Run.visited copyDetailInfo {} callVec).map CallDetailInfo.fields =
      callVec.map CallDetailInfo.fields := by
  refine (Run.visited_spec (P := CallDetailInfo.Fresh) (Q := CallDetailInfo.Fresh)
    (fun d it hd hit => ⟨?_, ?_⟩) fresh_default h).2
  · exact ⟨hd.phoneNum.memcpyS it.phoneNum, hd.phoneIndex, hd.voipCallInfo⟩
  · have htext := hd.phoneNum.text_memcpyS hit.phoneNum.terminated
    simp only [copyDetailInfo, CallDetailInfo.fields, htext, hd.phoneIndex, hd.voipCallInfo,
      hit.phoneIndex, hit.voipCallInfo]

/-! ## The whole way -/

/-- What the stub makes of the report, from any parcels that keep their order. -/
theorem onRemoteRequest_pack (P : MessageParcel) {info : CallsReportInfo}
    (hlen : info.callVec.length ≤ 10) :
    (onRemoteRequest (packUpdateCallsReportInfo P info)).1 =
      if info.callVec = [] then none
      else some ⟨Run.visited unpacked {} info.callVec, info.slotId⟩ := by
  have hcontents : P.contents (packUpdateCallsReportInfo P info) =
      .interfaceToken descriptor :: .int32 (Int32.ofNat info.callVec.length) ::
        (info.callVec.flatMap packCall ++ [.int32 info.slotId]) := by
    rw [packUpdateCallsReportInfo, contents_writeAll, P.contents_empty, List.nil_append]
  by_cases hne : info.callVec = []
  · rw [if_pos hne]
    rw [hne] at hcontents
    exact (reads_onRemoteRequest_nil _ [.int32 info.slotId] hcontents).1
  · rw [if_neg hne]
    exact (reads_onRemoteRequest hne hlen _ [] (by rw [hcontents, List.append_nil])).1

/-- What `CallStatusManager` gets of a report of one to ten calls. -/
theorem callVec_received (info : CallsReportInfo)
    (hnum : ∀ c ∈ info.callVec, c.accountNum.Terminated) :
    (buildCallDetailsInfo (callbackUpdateCallsReportInfo
      ⟨Run.visited unpacked {} info.callVec, info.slotId⟩)).callVec.map CallDetailInfo.fields =
        info.callVec.map fun c => c.fields.carried := by
  obtain ⟨hterm, hunpacked⟩ := unpacked_fields info.callVec hnum
  obtain ⟨hfresh, hfilled⟩ := fillDetailInfo_fields _ hterm
  calc (buildCallDetailsInfo (callbackUpdateCallsReportInfo
        ⟨Run.visited unpacked {} info.callVec, info.slotId⟩)).callVec.map CallDetailInfo.fields
      = (Run.visited fillDetailInfo {} (Run.visited unpacked {} info.callVec)).map
          CallDetailInfo.fields := copyDetailInfo_fields _ hfresh
    _ = (Run.visited unpacked {} info.callVec).map fun c => c.fields.carried := hfilled
    _ = info.callVec.map fun c => c.fields.carried := hunpacked

/-- The device is set up, and the call status manager is there. -/
structure HandlerEnv.Ready (env : HandlerEnv) : Prop where
  hasCallStatusManager : env.hasCallStatusManager = true
  isDevProvisioned : env.isDevProvisioned = true
  isOobeComplete : env.isOobeComplete = true

theorem handlerUpdateCallsReportInfo_eq_some {env : HandlerEnv} {info details : CallDetailsInfo} :
    handlerUpdateCallsReportInfo env info = some details ↔
      env.Ready ∧ buildCallDetailsInfo info = details := by
  unfold handlerUpdateCallsReportInfo
  constructor
  · intro h
    split at h
    · contradiction
    · next hm =>
      split at h
      · contradiction
      · next hd =>
        have hmanager : env.hasCallStatusManager = true := by simpa using hm
        have hdevice : env.isDevProvisioned = true ∧ env.isOobeComplete = true := by
          simpa using hd
        exact ⟨⟨hmanager, hdevice.1, hdevice.2⟩, Option.some.inj h⟩
  · rintro ⟨⟨hm, hp, ho⟩, rfl⟩
    rw [if_neg (by simp [hm]), if_neg (by simp [hp, ho])]

theorem carried_eq_self (c : CallReportInfo) :
    c.fields.carried = c.fields ↔ c.phoneIndex = 0 ∧ c.voipCallInfo = {} := by
  constructor
  · intro h
    exact ⟨(congrArg CallFields.phoneIndex h).symm, (congrArg CallFields.voipCallInfo h).symm⟩
  · rintro ⟨hp, hv⟩
    simp only [CallReportInfo.fields, CallFields.carried, hp, hv]

/-- **Transport.** A report of at most ten calls, whose numbers end within their
    arrays, arrives as it was sent iff the device is set up, the report has a
    call, and every call has the initial phone index and VoIP fields. -/
theorem received_iff (P : MessageParcel) (env : HandlerEnv) (info : CallsReportInfo)
    (hlen : info.callVec.length ≤ 10) (hnum : ∀ c ∈ info.callVec, c.accountNum.Terminated) :
    Arrives P env info ↔
      env.Ready ∧ info.callVec ≠ [] ∧
        ∀ c ∈ info.callVec, c.phoneIndex = 0 ∧ c.voipCallInfo = {} := by
  have hsame : (info.callVec.map fun c => c.fields.carried) =
      info.callVec.map CallReportInfo.fields ↔
        ∀ c ∈ info.callVec, c.phoneIndex = 0 ∧ c.voipCallInfo = {} := by
    simp only [List.map_inj_left, carried_eq_self]
  unfold Arrives received
  rw [onRemoteRequest_pack P hlen]
  by_cases hne : info.callVec = []
  · rw [if_pos hne]
    simp [hne]
  · rw [if_neg hne, Option.bind_some]
    simp only [handlerUpdateCallsReportInfo_eq_some]
    constructor
    · rintro ⟨details, ⟨hready, rfl⟩, -, hfields⟩
      rw [callVec_received info hnum] at hfields
      exact ⟨hready, hne, hsame.mp hfields⟩
    · rintro ⟨hready, -, hcalls⟩
      refine ⟨_, ⟨hready, rfl⟩, rfl, ?_⟩
      rw [callVec_received info hnum]
      exact hsame.mpr hcalls

/-- A device that is set up. -/
def readyEnv : HandlerEnv := ⟨true, true, true⟩

/-- One incoming call of the number 9 arrives. -/
theorem received_incoming_call :
    Arrives queue readyEnv
      ⟨[{ index := 1, accountNum := (CharArray.zero maxNumberLen).strncpyS [57], state := 5 }], 0⟩ :=
  (received_iff queue readyEnv _ (by decide)
    (by simpa using CharArray.terminated_strncpyS _ _)).mpr
    ⟨⟨rfl, rfl, rfl⟩, by simp, by simp⟩

/-- A report without calls, which says that the last call of the slot is gone, is not received. -/
theorem empty_report_lost :
    ¬ ∀ (P : MessageParcel) (env : HandlerEnv) (info : CallsReportInfo), env.Ready →
      info.callVec.length ≤ 10 → (∀ c ∈ info.callVec, c.accountNum.Terminated) →
        Arrives P env info := by
  intro hall
  obtain ⟨details, hreceived, -⟩ :=
    hall queue readyEnv ⟨[], 0⟩ ⟨rfl, rfl, rfl⟩ (by decide) (by simp)
  have hlost : received queue readyEnv ⟨[], 0⟩ = none := by decide
  rw [hlost] at hreceived
  contradiction

end CallManager.ReportTransport
