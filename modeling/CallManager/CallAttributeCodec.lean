import CallManager.ReportTransport
import Mathlib.Data.List.Forall2

/-!
# The wire form of a call

`CallManagerUtils` of the call manager writes a call, `CallAttributeInfo`, to
the parcels of the applications, and `NativeCallManagerUtils` of their library
reads it. The answer to the query of the current calls is a count with that
many calls behind it.

Enumerations are the `int32_t` they are sent as, and `time_t` has 64 bits. The
fields that are not sent are left out.

Results:
* `callAttributeInfo_roundTrip`: a call, and a list of calls, is read as it was
  written, with `TYPE_VOICE` for the video state of a call that is reported as a
  voice call, and the VoIP fields of a VoIP call; nothing else is taken.
* `currentCallList_roundTrip`: the query answers with the current calls.
-/

namespace CallManager.CallAttributeCodec

open MessageParcel
open ReportTransport (CharArray packVoipCallInfo readVoipFields typeErrCall typeVoip
  callStatusUnknown)

/-! ## The calls -/

/-- `kMaxBundleNameLen` (call_manager_base.h:34). -/
def maxBundleNameLen : ℕ := 100

/-- `TYPE_VOICE` (call_manager_base.h:247). -/
def typeVoice : Int32 := 0

/-- `CALL_STATUS_INCOMING` (call_manager_base.h:177). -/
def callStatusIncoming : Int32 := 4

/-- `NumberMarkInfo`, with its initial values (call_manager_info.h:105-130). -/
structure NumberMarkInfo where
  markType : Int32 := -1
  markContent : CharArray maxNumberLen := .zero maxNumberLen
  markCount : Int32 := -1
  markSource : CharArray maxNumberLen := .zero maxNumberLen
  isCloud : Bool := false
  markDetails : CharArray maxNumberLen := .zero maxNumberLen
  deriving DecidableEq, Repr

/-- `CallAttributeInfo`, with its initial values (call_manager_info.h:275-449). -/
structure CallAttributeInfo where
  accountNumber : CharArray maxNumberLen := .zero maxNumberLen
  bundleName : CharArray maxBundleNameLen := .zero maxBundleNameLen
  speakerphoneOn : Bool := false
  accountId : Int32 := 0
  videoState : Int32 := typeVoice
  startTime : Int64 := 0
  isEcc : Bool := false
  callType : Int32 := typeErrCall
  callId : Int32 := 0
  callState : Int32 := callStatusUnknown
  conferenceState : Int32 := 0
  callBeginTime : Int64 := 0
  callEndTime : Int64 := 0
  ringBeginTime : Int64 := 0
  ringEndTime : Int64 := 0
  callDirection : Int32 := 2
  answerType : Int32 := 0
  index : Int32 := 0
  crsType : Int32 := 0
  originalCallType : Int32 := 0
  voipCallInfo : ReportTransport.VoipCallReportInfo := {}
  numberLocation : CharArray maxNumberLen := .zero maxNumberLen
  numberMarkInfo : NumberMarkInfo := {}
  extraParamsString : ByteString := []
  contactName : CharArray maxNumberLen := .zero maxNumberLen
  phoneOrWatch : Int32 := 0
  rttState : Int32 := 0
  isCustomAccessibility : Bool := false
  deriving DecidableEq, Repr

/-- A call of the store, with what the writer asks of it. -/
structure CallObject where
  callId : Int32
  isForcedReportVoiceCall : Bool

/-- `CallObjectManager::GetOneCallObject` (call_object_manager.cpp:256-268). -/
def getOneCallObject (callObjectPtrList : List CallObject) (callId : Int32) : Option CallObject :=
  callObjectPtrList.find? fun call => call.callId = callId

/-! ## The writer -/

section Writer

variable (callObjectPtrList : List CallObject)

/-- `CallManagerUtils::IsForcedReportVoiceCall` (call_manager_utils.cpp:32-42). -/
def isForcedReportVoiceCall (info : CallAttributeInfo) : Bool :=
  if info.callState ≠ callStatusIncoming then false
  else
    match getOneCallObject callObjectPtrList info.callId with
    | none => false
    | some call => call.isForcedReportVoiceCall

/-- `CallManagerUtils::WriteVoipCallInfo` (call_manager_utils.cpp:97-115). -/
def writeVoipCallInfo (info : CallAttributeInfo) : List ParcelItem :=
  if info.callType = typeVoip then packVoipCallInfo info.voipCallInfo else []

/-- `CallManagerUtils::WriteCallAttributeInfo` (call_manager_utils.cpp:44-77). -/
def writeCallAttributeInfo (info : CallAttributeInfo) : List ParcelItem :=
  .cString info.accountNumber.text :: .cString info.bundleName.text ::
    .bool info.speakerphoneOn :: .int32 info.accountId ::
    (if isForcedReportVoiceCall callObjectPtrList info then .int32 typeVoice
      else .int32 info.videoState) ::
    .int64 info.startTime :: .bool info.isEcc :: .int32 info.callType :: .int32 info.callId ::
    .int32 info.callState :: .int32 info.conferenceState :: .int64 info.callBeginTime ::
    .int64 info.callEndTime :: .int64 info.ringBeginTime :: .int64 info.ringEndTime ::
    .int32 info.callDirection :: .int32 info.answerType :: .int32 info.index ::
    .int32 info.crsType :: .int32 info.originalCallType :: .cString info.numberLocation.text ::
    .int32 info.numberMarkInfo.markType :: .cString info.numberMarkInfo.markContent.text ::
    .int32 info.numberMarkInfo.markCount :: .cString info.numberMarkInfo.markSource.text ::
    .bool info.numberMarkInfo.isCloud :: .cString info.numberMarkInfo.markDetails.text ::
    .cString info.contactName.text :: .string info.extraParamsString ::
    (writeVoipCallInfo info ++
      [.int32 info.phoneOrWatch, .int32 info.rttState, .bool info.isCustomAccessibility])

/-- `BluetoothCallStub::OnGetCurrentCallList` (bluetooth_call_stub.cpp:231-241). -/
def onGetCurrentCallList (P : MessageParcel) (callVec : List CallAttributeInfo) : P.Parcel :=
  P.writeAll P.empty
    (.int32 (Int32.ofNat callVec.length) ::
      callVec.flatMap (writeCallAttributeInfo callObjectPtrList))

end Writer

/-! ## The reader -/

section Reader

variable {P : MessageParcel}

/-- `NativeCallManagerUtils::ReadCallAttributeInfo` (native_call_manager_utils.cpp:25-96). -/
def readCallAttributeInfo : P.Reader CallAttributeInfo := do
  let info : CallAttributeInfo := {}
  let accountNumber ← chars
  let bundleName ← chars
  let speakerphoneOn ← bool
  let accountId ← int32
  let videoState ← int32
  let startTime ← int64
  let isEcc ← bool
  let callType ← int32
  let callId ← int32
  let callState ← int32
  let conferenceState ← int32
  let callBeginTime ← int64
  let callEndTime ← int64
  let ringBeginTime ← int64
  let ringEndTime ← int64
  let callDirection ← int32
  let answerType ← int32
  let index ← int32
  let crsType ← int32
  let originalCallType ← int32
  let numberLocation ← chars
  let markType ← int32
  let markContent ← chars
  let markCount ← int32
  let markSource ← chars
  let isCloud ← bool
  let markDetails ← chars
  let contactName ← chars
  let extraParamsString ← string
  let voipCallInfo ← readVoipFields callType info.voipCallInfo
  let phoneOrWatch ← int32
  let rttState ← int32
  let isCustomAccessibility ← bool
  return {
    accountNumber := info.accountNumber.strncpyS accountNumber
    bundleName := info.bundleName.strncpyS bundleName
    speakerphoneOn, accountId, videoState, startTime, isEcc, callType, callId, callState,
    conferenceState, callBeginTime, callEndTime, ringBeginTime, ringEndTime, callDirection,
    answerType, index, crsType, originalCallType, voipCallInfo
    numberLocation := info.numberLocation.strncpyS numberLocation
    numberMarkInfo := {
      markType, markCount, isCloud
      markContent := info.numberMarkInfo.markContent.strncpyS markContent
      markSource := info.numberMarkInfo.markSource.strncpyS markSource
      markDetails := info.numberMarkInfo.markDetails.strncpyS markDetails }
    contactName := info.contactName.strncpyS contactName
    extraParamsString, phoneOrWatch, rttState, isCustomAccessibility }

/-- `MAX_SIZE` (bluetooth_call_proxy.cpp:26). -/
def maxSize : Int32 := 10000

/-- `BluetoothCallProxy::GetCurrentCallList` (bluetooth_call_proxy.cpp:119-129), on the reply. -/
def getCurrentCallList : P.Reader (List CallAttributeInfo) := do
  let vecCnt ← int32
  if vecCnt ≤ 0 ∨ maxSize ≤ vecCnt then
    return []
  else
    readMany readCallAttributeInfo vecCnt.toNatClampNeg

end Reader

/-! ## Specification -/

namespace CallAttributeInfo

/-- Every array holds a C string. -/
structure Terminated (info : CallAttributeInfo) : Prop where
  accountNumber : info.accountNumber.Terminated
  bundleName : info.bundleName.Terminated
  numberLocation : info.numberLocation.Terminated
  markContent : info.numberMarkInfo.markContent.Terminated
  markSource : info.numberMarkInfo.markSource.Terminated
  markDetails : info.numberMarkInfo.markDetails.Terminated
  contactName : info.contactName.Terminated

/-- The same call, whatever stands in the arrays behind their texts. -/
structure Agree (a b : CallAttributeInfo) : Prop where
  accountNumber : a.accountNumber.text = b.accountNumber.text
  bundleName : a.bundleName.text = b.bundleName.text
  numberLocation : a.numberLocation.text = b.numberLocation.text
  markContent : a.numberMarkInfo.markContent.text = b.numberMarkInfo.markContent.text
  markSource : a.numberMarkInfo.markSource.text = b.numberMarkInfo.markSource.text
  markDetails : a.numberMarkInfo.markDetails.text = b.numberMarkInfo.markDetails.text
  contactName : a.contactName.text = b.contactName.text
  others : { a with
    accountNumber := b.accountNumber
    bundleName := b.bundleName
    numberLocation := b.numberLocation
    numberMarkInfo := { a.numberMarkInfo with
      markContent := b.numberMarkInfo.markContent
      markSource := b.numberMarkInfo.markSource
      markDetails := b.numberMarkInfo.markDetails }
    contactName := b.contactName } = b

/-- The call as it is to arrive: a voice call if it is reported as one, and the
    VoIP fields only of a VoIP call. -/
def reported (callObjectPtrList : List CallObject) (info : CallAttributeInfo) :
    CallAttributeInfo :=
  { info with
    videoState :=
      if isForcedReportVoiceCall callObjectPtrList info then typeVoice else info.videoState
    voipCallInfo := if info.callType = typeVoip then info.voipCallInfo else {} }

/-- The texts of a call in new arrays. -/
def copied (info : CallAttributeInfo) : CallAttributeInfo :=
  { info with
    accountNumber := (CharArray.zero maxNumberLen).strncpyS info.accountNumber.text
    bundleName := (CharArray.zero maxBundleNameLen).strncpyS info.bundleName.text
    numberLocation := (CharArray.zero maxNumberLen).strncpyS info.numberLocation.text
    numberMarkInfo := { info.numberMarkInfo with
      markContent := (CharArray.zero maxNumberLen).strncpyS info.numberMarkInfo.markContent.text
      markSource := (CharArray.zero maxNumberLen).strncpyS info.numberMarkInfo.markSource.text
      markDetails := (CharArray.zero maxNumberLen).strncpyS info.numberMarkInfo.markDetails.text }
    contactName := (CharArray.zero maxNumberLen).strncpyS info.contactName.text }

theorem Terminated.reported {callObjectPtrList : List CallObject} {info : CallAttributeInfo}
    (h : info.Terminated) : (info.reported callObjectPtrList).Terminated :=
  ⟨h.accountNumber, h.bundleName, h.numberLocation, h.markContent, h.markSource, h.markDetails,
    h.contactName⟩

/-- New arrays are long enough for the texts. -/
theorem Terminated.copied_agree {info : CallAttributeInfo} (h : info.Terminated) :
    info.copied.Agree info := by
  have htext : ∀ {size : ℕ} {a : CharArray size}, a.Terminated →
      ((CharArray.zero size).strncpyS a.text).text = a.text := fun ha =>
    CharArray.text_strncpyS ha.length_text_le ha.split.1
  exact {
    accountNumber := htext h.accountNumber
    bundleName := htext h.bundleName
    numberLocation := htext h.numberLocation
    markContent := htext h.markContent
    markSource := htext h.markSource
    markDetails := htext h.markDetails
    contactName := htext h.contactName
    others := rfl }

end CallAttributeInfo

/-! ## Reading what was written -/

variable {P : MessageParcel} {callObjectPtrList : List CallObject}

/-- The reader takes the items of the writer, one after the other. -/
theorem reads_readCallAttributeInfo (info : CallAttributeInfo) :
    Reads (P := P) readCallAttributeInfo (writeCallAttributeInfo callObjectPtrList info)
      (info.reported callObjectPtrList).copied := by
  have hvoip : Reads (P := P) (readVoipFields info.callType {}) (writeVoipCallInfo info)
      (info.reported callObjectPtrList).voipCallInfo :=
    ReportTransport.reads_readVoipFields
      { callType := info.callType, voipCallInfo := info.voipCallInfo } {}
  unfold readCallAttributeInfo writeCallAttributeInfo
  rw [← apply_ite ParcelItem.int32]
  refine .next (reads_chars info.accountNumber.text) ?_
  refine .next (reads_chars info.bundleName.text) ?_
  refine .next (reads_bool info.speakerphoneOn) ?_
  refine .next (reads_int32 info.accountId) ?_
  refine .next (reads_int32 (info.reported callObjectPtrList).videoState) ?_
  refine .next (reads_int64 info.startTime) ?_
  refine .next (reads_bool info.isEcc) ?_
  refine .next (reads_int32 info.callType) ?_
  refine .next (reads_int32 info.callId) ?_
  refine .next (reads_int32 info.callState) ?_
  refine .next (reads_int32 info.conferenceState) ?_
  refine .next (reads_int64 info.callBeginTime) ?_
  refine .next (reads_int64 info.callEndTime) ?_
  refine .next (reads_int64 info.ringBeginTime) ?_
  refine .next (reads_int64 info.ringEndTime) ?_
  refine .next (reads_int32 info.callDirection) ?_
  refine .next (reads_int32 info.answerType) ?_
  refine .next (reads_int32 info.index) ?_
  refine .next (reads_int32 info.crsType) ?_
  refine .next (reads_int32 info.originalCallType) ?_
  refine .next (reads_chars info.numberLocation.text) ?_
  refine .next (reads_int32 info.numberMarkInfo.markType) ?_
  refine .next (reads_chars info.numberMarkInfo.markContent.text) ?_
  refine .next (reads_int32 info.numberMarkInfo.markCount) ?_
  refine .next (reads_chars info.numberMarkInfo.markSource.text) ?_
  refine .next (reads_bool info.numberMarkInfo.isCloud) ?_
  refine .next (reads_chars info.numberMarkInfo.markDetails.text) ?_
  refine .next (reads_chars info.contactName.text) ?_
  refine .next (reads_string info.extraParamsString) ?_
  refine .bind hvoip ?_
  refine .next (reads_int32 info.phoneOrWatch) ?_
  refine .next (reads_int32 info.rttState) ?_
  refine .next (reads_bool info.isCustomAccessibility) ?_
  exact .pure _

/-- A list of calls, as it is read. -/
theorem agree_copied {infos : List CallAttributeInfo} (h : ∀ info ∈ infos, info.Terminated) :
    List.Forall₂ CallAttributeInfo.Agree
      (infos.map fun info => (info.reported callObjectPtrList).copied)
      (infos.map (CallAttributeInfo.reported callObjectPtrList)) := by
  rw [List.forall₂_map_left_iff, List.forall₂_map_right_iff, List.forall₂_same]
  exact fun info hi => (h info hi).reported.copied_agree

/-- The query reads the count, and then that many calls. -/
theorem reads_getCurrentCallList {callVec : List CallAttributeInfo}
    (hlen : callVec.length < 10000) :
    Reads (P := P) getCurrentCallList
      (.int32 (Int32.ofNat callVec.length) ::
        callVec.flatMap (writeCallAttributeInfo callObjectPtrList))
      (callVec.map fun info => (info.reported callObjectPtrList).copied) := by
  have hsmall : callVec.length < 2 ^ 31 := by omega
  have hcnt := Int32.toInt_ofNat_of_lt hsmall
  unfold getCurrentCallList
  refine .next (reads_int32 _) ?_
  by_cases hnil : callVec = []
  · subst hnil
    exact .pure []
  · have hpos : 0 < callVec.length := List.length_pos_iff.mpr hnil
    have hbounds : ¬ (Int32.ofNat callVec.length ≤ 0 ∨
        maxSize ≤ Int32.ofNat callVec.length) := by
      have hmax : maxSize.toInt = 10000 := by decide
      have hzero : (0 : Int32).toInt = 0 := by decide
      rw [Int32.le_iff_toInt_le, Int32.le_iff_toInt_le, hcnt, hmax, hzero]
      omega
    rw [if_neg hbounds, Int32.toNatClampNeg_ofNat_of_lt hsmall]
    exact reads_readMany fun info _ => reads_readCallAttributeInfo info

/-- **Round trip.** Of calls whose arrays hold C strings, each is read as it was written, and
    all of them, one behind the other, as the same list. Nothing else is taken from the parcel. -/
theorem callAttributeInfo_roundTrip (P : MessageParcel) (callObjectPtrList : List CallObject)
    (infos : List CallAttributeInfo) (h : ∀ info ∈ infos, info.Terminated) :
    (∀ info ∈ infos, ∃ info',
      Reads (P := P) readCallAttributeInfo (writeCallAttributeInfo callObjectPtrList info) info' ∧
        info'.Agree (info.reported callObjectPtrList)) ∧
      ∃ infos',
        Reads (P := P) (readMany readCallAttributeInfo infos.length)
          (infos.flatMap (writeCallAttributeInfo callObjectPtrList)) infos' ∧
        List.Forall₂ CallAttributeInfo.Agree infos'
          (infos.map (CallAttributeInfo.reported callObjectPtrList)) := by
  refine ⟨fun info hi => ⟨_, reads_readCallAttributeInfo info, (h info hi).reported.copied_agree⟩,
    _, reads_readMany fun info _ => reads_readCallAttributeInfo info, agree_copied h⟩

/-- A VoIP call and an incoming video call that is reported as a voice call. -/
theorem callAttributeInfo_roundTrip_two :
    ∃ infos', Reads (P := queue) (readMany readCallAttributeInfo 2)
      ([{ callType := typeVoip, voipCallInfo := { voipCallId := [49], uid := 7 } },
        { callId := 2, callState := callStatusIncoming, videoState := 3 }].flatMap
          (writeCallAttributeInfo [⟨2, true⟩])) infos' ∧
      List.Forall₂ CallAttributeInfo.Agree infos'
        [{ callType := typeVoip, voipCallInfo := { voipCallId := [49], uid := 7 } },
          { callId := 2, callState := callStatusIncoming }] := by
  have hzero : ∀ size, (CharArray.zero size).Terminated := fun _ =>
    CharArray.closed_zero.terminated
  exact (callAttributeInfo_roundTrip queue [⟨2, true⟩]
    [{ callType := typeVoip, voipCallInfo := { voipCallId := [49], uid := 7 } },
      { callId := 2, callState := callStatusIncoming, videoState := 3 }]
    (by
      intro info hi
      rcases List.mem_pair.mp hi with rfl | rfl
      · exact ⟨hzero _, hzero _, hzero _, hzero _, hzero _, hzero _, hzero _⟩
      · exact ⟨hzero _, hzero _, hzero _, hzero _, hzero _, hzero _, hzero _⟩)).2

/-- The query of the current calls answers with the calls, if they are fewer than `MAX_SIZE`. -/
theorem currentCallList_roundTrip (callVec : List CallAttributeInfo)
    (hlen : callVec.length < 10000) (h : ∀ info ∈ callVec, info.Terminated) :
    List.Forall₂ CallAttributeInfo.Agree
      (getCurrentCallList (onGetCurrentCallList callObjectPtrList P callVec)).1
      (callVec.map (CallAttributeInfo.reported callObjectPtrList)) := by
  have hcontents : P.contents (onGetCurrentCallList callObjectPtrList P callVec) =
      .int32 (Int32.ofNat callVec.length) ::
        callVec.flatMap (writeCallAttributeInfo callObjectPtrList) ++ [] := by
    rw [onGetCurrentCallList, contents_writeAll, P.contents_empty, List.nil_append,
      List.append_nil]
  have hvalue := (reads_getCurrentCallList hlen _ _ hcontents).1
  rw [hvalue]
  exact agree_copied h

end CallManager.CallAttributeCodec
