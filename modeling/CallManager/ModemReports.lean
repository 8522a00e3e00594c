import CallManager.AppRequests
import CallManager.ReportTransport

/-!
# The messages of the modem service

The cellular call service reports to the call manager over `ICallStatusCallback`.
`CallStatusCallbackProxy` writes the arguments of a method to a parcel and sends it
under the code of the method; `CallStatusCallbackStub` looks up the handler of the
code, reads the arguments, calls the method of `CallStatusCallback` and writes its
result to the reply.

The parcels are abstract (`EndingMessageParcel`): a value at the front is what the read
of its kind returns, and there is no number and no text where nothing is left. A
structure is sent as its memory, an enumeration as the `int32_t` it is cast to. The
RTT messages are those of a build that supports RTT. Failures to write are left out.

Results:
* `delivered_iff`: a method of `CallStatusCallback` is called with what was given to
  the proxy, and the proxy returns its result, iff the message is `Deliverable`.
* `onRemoteRequest_sound`: whatever is in the parcel, the method that is called is that
  of the code, and its arguments have passed the checks of the stub.

**Deviation.** The report of a single call is written without the fields from the name
on, and read with them; of a list of calls the VoIP fields of one call stay in the
calls after it that are not VoIP calls.
-/

namespace CallManager.ModemReports

open MessageParcel hiding queue
open FullMessageParcel hiding queue
open EndingMessageParcel hiding queue
open AppRequests (RawStruct)
open ReportTransport (CallReportInfo CallsReportInfo descriptor typeVoip packVoipCallInfo packCall
  buildCallReportInfo onUpdateCallsReportInfo readCalls unpacked)

/-! ## The messages -/

/-- `CellularCallEventInfo`: two enumerations (call_manager_info.h:59-69). -/
abbrev CellularCallEventInfo := RawStruct 8

/-- `CallWaitResponse`, `CallRestrictionResponse`, `ClipResponse` and `ClirResponse`: three
    numbers each (call_manager_inner_type.h:29-78, 214-228). -/
abbrev SupplementResponse := RawStruct 12

/-- `CallTransferResponse`: four numbers, the number of the call and six numbers
    (call_manager_inner_type.h:165-209). -/
abbrev CallTransferResponse := RawStruct 296

/-- `GetImsConfigResponse` and `GetImsFeatureValueResponse`: two numbers
    (call_manager_inner_type.h:252-275). -/
abbrev ImsResponse := RawStruct 8

/-- `CallModeReportInfo`: four numbers (call_manager_inner_type.h:495-510). -/
abbrev CallModeReportInfo := RawStruct 16

/-- `MmiCodeInfo`: the result, the message with the bytes that align what follows, four numbers,
    the number of the call and two numbers (call_manager_inner_type.h:119-160). -/
abbrev MmiCodeInfo := RawStruct 788

/-- `CallSessionReportInfo`: two numbers (call_manager_inner_type.h:703-712). -/
abbrev CallSessionReportInfo := RawStruct 8

/-- `PeerDimensionsReportInfo` and `CameraCapabilitiesReportInfo`: three numbers
    (call_manager_inner_type.h:744-802). -/
abbrev DimensionsReportInfo := RawStruct 12

/-- `VoipCallEventInfo` (voip_call_manager_info.h:351-372). -/
structure VoipCallEventInfo where
  voipCallId : ByteString
  bundleName : ByteString
  uid : Int32
  voipCallEvent : Int32
  errorReason : Int32
  deriving DecidableEq, Repr

/-- `ImsSuppExtReportInfo` (call_manager_inner_type.h:804-831). -/
structure ImsSuppExtReportInfo where
  slotId : Int32
  code : Int32
  callIndex : Int32
  deriving DecidableEq, Repr

/-- `RttEventInfo` (call_manager_inner_type.h:547-564). -/
structure RttEventInfo where
  callId : Int32
  eventType : Int32
  reason : Int32
  slotId : Int32
  deriving DecidableEq, Repr

/-- `RttErrorInfo` (call_manager_inner_type.h:607-629). -/
structure RttErrorInfo where
  callId : Int32
  operationType : Int32
  causeCode : Int32
  reasonText : ByteString
  slotId : Int32
  deriving DecidableEq, Repr

/-- The methods of `ICallStatusCallback` with their arguments (i_call_status_callback.h:38-352). -/
inductive ModemReport
  | updateCallReportInfo (info : CallReportInfo)
  | updateCallsReportInfo (info : CallsReportInfo)
  | updateDisconnectedCause (reason : Int32) (message : ByteString)
  | updateEventResultInfo (info : CellularCallEventInfo)
  | updateRBTPlayInfo (info : Int32)
  | updateGetWaitingResult (callWaitResponse : SupplementResponse)
  | updateSetWaitingResult (result : Int32)
  | updateGetRestrictionResult (callRestrictionResult : SupplementResponse)
  | updateSetRestrictionResult (result : Int32)
  | updateSetRestrictionPasswordResult (result : Int32)
  | updateGetTransferResult (callTransferResponse : CallTransferResponse)
  | updateSetTransferResult (result : Int32)
  | updateGetCallClipResult (clipResponse : SupplementResponse)
  | updateGetCallClirResult (clirResponse : SupplementResponse)
  | updateSetCallClirResult (result : Int32)
  | startRttResult (result : Int32)
  | stopRttResult (result : Int32)
  | getImsConfigResult (response : ImsResponse)
  | setImsConfigResult (result : Int32)
  | getImsFeatureValueResult (response : ImsResponse)
  | setImsFeatureValueResult (result : Int32)
  | receiveUpdateCallMediaModeRequest (response : CallModeReportInfo)
  | receiveUpdateCallMediaModeResponse (response : CallModeReportInfo)
  | inviteToConferenceResult (result : Int32)
  | startDtmfResult (result : Int32)
  | stopDtmfResult (result : Int32)
  | sendUssdResult (result : Int32)
  | sendMmiCodeResult (info : MmiCodeInfo)
  | getImsCallDataResult (result : Int32)
  | closeUnFinishedUssdResult (result : Int32)
  | reportPostDialChar (c : ByteString)
  | reportPostDialDelay (str : ByteString)
  | updateVoipEventInfo (info : VoipCallEventInfo)
  | handleCallSessionEventChanged (eventOptions : CallSessionReportInfo)
  | handlePeerDimensionsChanged (dimensionsDetail : DimensionsReportInfo)
  | handleCallDataUsageChanged (result : Int64)
  | handleCameraCapabilitiesChanged (cameraCapabilities : DimensionsReportInfo)
  | handleImsSuppExtChanged (suppExtInfo : ImsSuppExtReportInfo)
  | reportCallProcedureEvents (callId procedureJsonStr : ByteString)
  | handleRttEvtChanged (rttEventInfo : RttEventInfo)
  | handleRttErrReport (rttErrorInfo : RttErrorInfo)

/-- `CallStatusInterfaceCode` (call_status_callback_ipc_interface_code.h:22-68). -/
inductive InterfaceCode
  | updateCallInfo | updateCallsInfo | updateDisconnectedCause | updateEventResultInfo
  | updateRbtPlayInfo | updateGetWaiting | updateSetWaiting | updateGetRestriction
  | updateSetRestriction | updateGetTransfer | updateSetTransfer | updateGetCallClip
  | updateGetCallClir | updateSetCallClir | getImsSwitchStatus | setImsSwitchStatus
  | updateStartrttStatus | updateStoprttStatus | updateRttEventStatus | updateRttErrInfo
  | getImsConfig | setImsConfig | getImsFeatureValue | setImsFeatureValue | getLteEnhanceMode
  | setLteEnhanceMode | receiveUpdateMediaModeResponse | inviteToConference | startDtmf | stopDtmf
  | sendUssd | getImsCallData | mmiCodeInfoResponse | closeUnfinishedUssd
  | updateSetRestrictionPwd | postDialChar | postDialDelay | callSessionEvent
  | peerDimensionChange | callDataUsage | cameraCapbilitiesChange
  | receiveUpdateMediaModeRequest | updateVoipEventInfo | imsSuppExtChange
  | voipReportCallProcedureEvents
  deriving DecidableEq, Repr

/-! ## The proxy -/

/-- `MAX_PROCEDURE_JSON_SIZE`, the same on both sides. -/
def maxProcedureJsonSize : ℕ := 2000

namespace ModemReport

/-- The code that the method of the proxy sends (call_status_callback_proxy.cpp:40-860). -/
def code : ModemReport → InterfaceCode
  | updateCallReportInfo _ => .updateCallInfo
  | updateCallsReportInfo _ => .updateCallsInfo
  | updateDisconnectedCause _ _ => .updateDisconnectedCause
  | updateEventResultInfo _ => .updateEventResultInfo
  | updateRBTPlayInfo _ => .updateRbtPlayInfo
  | updateGetWaitingResult _ => .updateGetWaiting
  | updateSetWaitingResult _ => .updateSetWaiting
  | updateGetRestrictionResult _ => .updateGetRestriction
  | updateSetRestrictionResult _ => .updateSetRestriction
  | updateSetRestrictionPasswordResult _ => .updateSetRestrictionPwd
  | updateGetTransferResult _ => .updateGetTransfer
  | updateSetTransferResult _ => .updateSetTransfer
  | updateGetCallClipResult _ => .updateGetCallClip
  | updateGetCallClirResult _ => .updateGetCallClir
  | updateSetCallClirResult _ => .updateSetCallClir
  | startRttResult _ => .updateStartrttStatus
  | stopRttResult _ => .updateStoprttStatus
  | getImsConfigResult _ => .getImsConfig
  | setImsConfigResult _ => .setImsConfig
  | getImsFeatureValueResult _ => .getImsFeatureValue
  | setImsFeatureValueResult _ => .setImsFeatureValue
  | receiveUpdateCallMediaModeRequest _ => .receiveUpdateMediaModeRequest
  | receiveUpdateCallMediaModeResponse _ => .receiveUpdateMediaModeResponse
  | inviteToConferenceResult _ => .inviteToConference
  | startDtmfResult _ => .startDtmf
  | stopDtmfResult _ => .stopDtmf
  | sendUssdResult _ => .sendUssd
  | sendMmiCodeResult _ => .mmiCodeInfoResponse
  | getImsCallDataResult _ => .getImsCallData
  | closeUnFinishedUssdResult _ => .closeUnfinishedUssd
  | reportPostDialChar _ => .postDialChar
  | reportPostDialDelay _ => .postDialDelay
  | updateVoipEventInfo _ => .updateVoipEventInfo
  | handleCallSessionEventChanged _ => .callSessionEvent
  | handlePeerDimensionsChanged _ => .peerDimensionChange
  | handleCallDataUsageChanged _ => .callDataUsage
  | handleCameraCapabilitiesChanged _ => .cameraCapbilitiesChange
  | handleImsSuppExtChanged _ => .imsSuppExtChange
  | reportCallProcedureEvents _ _ => .voipReportCallProcedureEvents
  | handleRttEvtChanged _ => .updateRttEventStatus
  | handleRttErrReport _ => .updateRttErrInfo

/-- One call, as `UpdateCallReportInfo` writes it. -/
def writtenCall (info : CallReportInfo) : List ParcelItem :=
  .int32 info.index :: .cString info.accountNum.text :: .int32 info.accountId ::
    .int32 info.callType :: .int32 info.callMode :: .int32 info.state :: .int32 info.voiceDomain ::
    .int32 info.mpty :: .int32 info.crsType :: .int32 info.originalCallType ::
    .int32 info.phoneIndex ::
    (if info.callType = typeVoip then packVoipCallInfo info.voipCallInfo else [])

/-- A structure: its size and its memory. -/
def writtenRawData {size : ℕ} (info : RawStruct size) : List ParcelItem :=
  [.int32 (Int32.ofNat size), .rawData info.bytes]

/-- What the method writes after the interface token (call_status_callback_proxy.cpp:40-860). -/
def written : ModemReport → List ParcelItem
  | updateCallReportInfo info => writtenCall info
  | updateCallsReportInfo info =>
    .int32 (Int32.ofNat info.callVec.length) ::
      (info.callVec.flatMap packCall ++ [.int32 info.slotId])
  | updateDisconnectedCause reason message => [.int32 reason, .string message]
  | updateEventResultInfo info => writtenRawData info
  | updateRBTPlayInfo info => [.int32 info]
  | updateGetWaitingResult info | updateGetRestrictionResult info | updateGetCallClipResult info
  | updateGetCallClirResult info => writtenRawData info
  | updateSetWaitingResult result | updateSetRestrictionResult result
  | updateSetRestrictionPasswordResult result | updateSetTransferResult result
  | updateSetCallClirResult result | startRttResult result | stopRttResult result
  | setImsConfigResult result | setImsFeatureValueResult result | inviteToConferenceResult result
  | startDtmfResult result | stopDtmfResult result | sendUssdResult result
  | getImsCallDataResult result | closeUnFinishedUssdResult result => [.int32 result]
  | updateGetTransferResult info => writtenRawData info
  | getImsConfigResult info | getImsFeatureValueResult info => writtenRawData info
  | receiveUpdateCallMediaModeRequest info | receiveUpdateCallMediaModeResponse info =>
    writtenRawData info
  | sendMmiCodeResult info => writtenRawData info
  | reportPostDialChar text | reportPostDialDelay text => [.string text]
  | updateVoipEventInfo info =>
    [.string info.voipCallId, .string info.bundleName, .int32 info.uid, .int32 info.voipCallEvent,
      .int32 info.errorReason]
  | handleCallSessionEventChanged info => writtenRawData info
  | handlePeerDimensionsChanged info | handleCameraCapabilitiesChanged info => writtenRawData info
  | handleCallDataUsageChanged result => [.int64 result]
  | handleImsSuppExtChanged info => [.int32 info.slotId, .int32 info.code, .int32 info.callIndex]
  | reportCallProcedureEvents callId procedureJsonStr =>
    [.string callId, .string procedureJsonStr]
  | handleRttEvtChanged info =>
    [.int32 info.callId, .int32 info.eventType, .int32 info.reason, .int32 info.slotId]
  | handleRttErrReport info =>
    [.int32 info.callId, .int32 info.causeCode, .int32 info.operationType, .string info.reasonText,
      .int32 info.slotId]

/-- The check of the proxy, which only `ReportCallProcedureEvents` has. -/
def proxyRefuses : ModemReport → Bool
  | reportCallProcedureEvents _ procedureJsonStr => maxProcedureJsonSize < procedureJsonStr.length
  | _ => false

/-- What the proxy sends. -/
def request (m : ModemReport) : List ParcelItem := .interfaceToken descriptor :: m.written

end ModemReport

/-! ## The stub -/

/-- The codes that the stub returns without a call. -/
inductive Refusal
  | fail | argumentInvalid | localPtrNull | descriptorMismatch | unknownCode
  deriving DecidableEq, Repr

/-- What a handler does with the arguments: it returns, or it calls the method. -/
inductive Handled
  | refused (refusal : Refusal)
  | calls (m : ModemReport)

/-- A handler, up to the call. -/
abbrev Handler (P : EndingMessageParcel) := Reader P.toMessageParcel Handled

/-- `MAX_LEN` (call_status_callback_stub.cpp:25). -/
def maxLen : Int32 := 100000

/-- `IMS_SUPP_EXT_CODE_MIN`, `IMS_SUPP_EXT_CODE_MAX` and `IMS_SUPP_EXT_CODE_SPECIAL`
    (call_status_callback_stub.cpp:27-29). -/
def imsSuppExtCodeMin : Int32 := 0

@[inherit_doc imsSuppExtCodeMin] def imsSuppExtCodeMax : Int32 := 10

@[inherit_doc imsSuppExtCodeMin] def imsSuppExtCodeSpecial : Int32 := 22

/-- The check of `OnImsSuppExtChange`. -/
def RefusesCode (code : Int32) : Prop :=
  code < imsSuppExtCodeMin ∨ (imsSuppExtCodeMax < code ∧ code ≠ imsSuppExtCodeSpecial)

instance : DecidablePred RefusesCode := fun _ => inferInstanceAs (Decidable (_ ∨ _))

section Stub

variable {P : EndingMessageParcel}

/-- The handlers that read one number, `OnUpdateSetWaitingResult` and its like. -/
def onInt32 (call : Int32 → ModemReport) : Handler P := do
  let result ← int32
  return .calls (call result)

/-- The handlers that read one text, `OnPostDialNextChar` and `OnReportPostDialDelay`. -/
def onString (call : ByteString → ModemReport) : Handler P := do
  let text ← string
  return .calls (call text)

/-- The handlers that read a structure, `OnUpdateEventReport` and its like: the length
    that was sent has to be enough for it. -/
def onRawData (size : ℕ) (call : RawStruct size → ModemReport) : Handler P := do
  let len ← int32
  if len < Int32.ofNat size ∨ maxLen ≤ len then return .refused .argumentInvalid
  else
    let data ← rawData len.toNatClampNeg
    match data with
    | none => return .refused .localPtrNull
    | some bytes =>
      if h : size ≤ bytes.length then
        return .calls (call ⟨bytes.take size, List.length_take_of_le h⟩)
      else return .refused .localPtrNull

/-- `OnUpdateCallReportInfo` (call_status_callback_stub.cpp:180-194). -/
def onUpdateCallReportInfo : Handler P := do
  let info ← buildCallReportInfo {}
  return .calls (.updateCallReportInfo info)

/-- `OnUpdateCallsReportInfo` (call_status_callback_stub.cpp:196-223). -/
def onUpdateCallsReport : Handler P := do
  let info ← onUpdateCallsReportInfo
  match info with
  | none => return .refused .argumentInvalid
  | some callReportInfo => return .calls (.updateCallsReportInfo callReportInfo)

/-- `OnUpdateDisconnectedCause` (call_status_callback_stub.cpp:272-287). -/
def onUpdateDisconnectedCause : Handler P := do
  let reason ← int32
  let message ← string
  return .calls (.updateDisconnectedCause reason message)

/-- `OnCallDataUsageChange` (call_status_callback_stub.cpp:886-899). -/
def onCallDataUsageChange : Handler P := do
  let result ← int64
  return .calls (.handleCallDataUsageChanged result)

/-- `OnImsSuppExtChange` (call_status_callback_stub.cpp:925-946). -/
def onImsSuppExtChange : Handler P := do
  let slotId ← int32
  let code ← int32
  if RefusesCode code then return .refused .argumentInvalid
  else
    let callIndex ← int32
    return .calls (.handleImsSuppExtChanged ⟨slotId, code, callIndex⟩)

/-- `OnUpdateVoipEventInfo` (call_status_callback_stub.cpp:948-966). -/
def onUpdateVoipEventInfo : Handler P := do
  let voipCallId ← string
  let bundleName ← string
  let uid ← int32
  let voipCallEvent ← int32
  let errorReason ← int32
  return .calls (.updateVoipEventInfo ⟨voipCallId, bundleName, uid, voipCallEvent, errorReason⟩)

/-- `OnReportCallProcedureEvents` (call_status_callback_stub.cpp:160-178). -/
def onReportCallProcedureEvents : Handler P := do
  let callId ← string
  let procedureJsonStr ← string
  if maxProcedureJsonSize < procedureJsonStr.length then return .refused .fail
  else return .calls (.reportCallProcedureEvents callId procedureJsonStr)

/-- `OnHandleRttEvtChanged` (call_status_callback_stub.cpp:969-987). -/
def onHandleRttEvtChanged : Handler P := do
  let callId ← int32
  let eventType ← int32
  let reason ← int32
  let slotId ← int32
  return .calls (.handleRttEvtChanged ⟨callId, eventType, reason, slotId⟩)

/-- `OnHandleRttErrReport` (call_status_callback_stub.cpp:989-1007). -/
def onHandleRttErrReport : Handler P := do
  let callId ← int32
  let causeCode ← int32
  let operationType ← int32
  let reasonText ← string
  let slotId ← int32
  return .calls (.handleRttErrReport ⟨callId, operationType, causeCode, reasonText, slotId⟩)

/-- `memberFuncMap_` (call_status_callback_stub.cpp:43-138). -/
def memberFunc : InterfaceCode → Option (Handler P)
  | .updateCallInfo => some onUpdateCallReportInfo
  | .updateCallsInfo => some onUpdateCallsReport
  | .updateDisconnectedCause => some onUpdateDisconnectedCause
  | .updateEventResultInfo => some (onRawData 8 .updateEventResultInfo)
  | .updateRbtPlayInfo => some (onInt32 .updateRBTPlayInfo)
  | .startDtmf => some (onInt32 .startDtmfResult)
  | .stopDtmf => some (onInt32 .stopDtmfResult)
  | .receiveUpdateMediaModeResponse => some (onRawData 16 .receiveUpdateCallMediaModeResponse)
  | .receiveUpdateMediaModeRequest => some (onRawData 16 .receiveUpdateCallMediaModeRequest)
  | .updateStartrttStatus => some (onInt32 .startRttResult)
  | .updateStoprttStatus => some (onInt32 .stopRttResult)
  | .inviteToConference => some (onInt32 .inviteToConferenceResult)
  | .mmiCodeInfoResponse => some (onRawData 788 .sendMmiCodeResult)
  | .closeUnfinishedUssd => some (onInt32 .closeUnFinishedUssdResult)
  | .postDialChar => some (onString .reportPostDialChar)
  | .postDialDelay => some (onString .reportPostDialDelay)
  | .callSessionEvent => some (onRawData 8 .handleCallSessionEventChanged)
  | .peerDimensionChange => some (onRawData 12 .handlePeerDimensionsChanged)
  | .callDataUsage => some onCallDataUsageChange
  | .voipReportCallProcedureEvents => some onReportCallProcedureEvents
  | .sendUssd => some (onInt32 .sendUssdResult)
  | .updateGetWaiting => some (onRawData 12 .updateGetWaitingResult)
  | .updateSetWaiting => some (onInt32 .updateSetWaitingResult)
  | .updateGetRestriction => some (onRawData 12 .updateGetRestrictionResult)
  | .updateSetRestriction => some (onInt32 .updateSetRestrictionResult)
  | .updateSetRestrictionPwd => some (onInt32 .updateSetRestrictionPasswordResult)
  | .updateGetTransfer => some (onRawData 296 .updateGetTransferResult)
  | .updateSetTransfer => some (onInt32 .updateSetTransferResult)
  | .updateGetCallClip => some (onRawData 12 .updateGetCallClipResult)
  | .updateGetCallClir => some (onRawData 12 .updateGetCallClirResult)
  | .updateSetCallClir => some (onInt32 .updateSetCallClirResult)
  | .imsSuppExtChange => some onImsSuppExtChange
  | .getImsCallData => some (onInt32 .getImsCallDataResult)
  | .getImsConfig => some (onRawData 8 .getImsConfigResult)
  | .setImsConfig => some (onInt32 .setImsConfigResult)
  | .getImsFeatureValue => some (onRawData 8 .getImsFeatureValueResult)
  | .setImsFeatureValue => some (onInt32 .setImsFeatureValueResult)
  | .cameraCapbilitiesChange => some (onRawData 12 .handleCameraCapabilitiesChanged)
  | .updateVoipEventInfo => some onUpdateVoipEventInfo
  | .updateRttEventStatus => some onHandleRttEvtChanged
  | .updateRttErrInfo => some onHandleRttErrReport
  | .getImsSwitchStatus | .setImsSwitchStatus | .getLteEnhanceMode | .setLteEnhanceMode => none

/-- `OnRemoteRequest` (call_status_callback_stub.cpp:140-158). -/
def onRemoteRequest (code : InterfaceCode) : Handler P := do
  let remoteDescriptor ← interfaceToken
  if descriptor ≠ remoteDescriptor then return .refused .descriptorMismatch
  else (memberFunc code).getD (return .refused .unknownCode)

end Stub

/-! ## A call of the proxy -/

/-- What the method of the proxy returns: the result in the reply, or a code of its own. -/
inductive Returned
  | result (result : Int32)
  | ipcConnectStubFail
  | fail
  deriving DecidableEq, Repr

/-- A call of the proxy: the method of `CallStatusCallback` that is called, if one is, and what
    the proxy returns. `service` is what the methods return. A handler that refuses returns an
    error, with which `SendRequest` fails (call_status_callback_proxy.cpp:40-860). -/
def proxyCall (P : EndingMessageParcel) (service : ModemReport → Int32) (m : ModemReport) :
    Option ModemReport × Returned :=
  if m.proxyRefuses then (none, .fail)
  else
    match (onRemoteRequest (P := P) m.code (P.writeAll P.empty m.request)).1 with
    | .refused _ => (none, .ipcConnectStubFail)
    | .calls m' =>
      let reply := P.write P.empty (.int32 (service m'))
      (some m', .result (int32 (P := P.toMessageParcel) reply).1)

/-! ## Specification -/

/-- What a message says: a number of a call is the text in its array. -/
inductive Said
  | call (fields : ReportTransport.CallFields)
  | calls (slotId : Int32) (fields : List ReportTransport.CallFields)
  | other (m : ModemReport)

namespace ModemReport

@[inherit_doc Said] def said : ModemReport → Said
  | updateCallReportInfo info => .call info.fields
  | updateCallsReportInfo info => .calls info.slotId (info.callVec.map CallReportInfo.fields)
  | m => .other m

/-- The numbers of the calls end within their arrays. -/
def Terminated : ModemReport → Prop
  | updateCallReportInfo info => info.accountNum.Terminated
  | updateCallsReportInfo info => ∀ it ∈ info.callVec, it.accountNum.Terminated
  | _ => True

/-- The fields that `UpdateCallReportInfo` does not write are what the stub makes of nothing. -/
structure TailIsBlank (info : CallReportInfo) : Prop where
  voipCallInfo : info.callType ≠ typeVoip → info.voipCallInfo = {}
  name : info.name = []
  namePresentation : info.namePresentation = 0
  reason : info.reason = ReportTransport.failedUnknown
  message : info.message = []
  newCallUseBox : info.newCallUseBox = 0
  rttState : info.rttState = 0
  rttChannelId : info.rttChannelId = 0
  imsDomain : info.imsDomain = 0

/-- The VoIP fields of a call that is not a VoIP call are those of the last VoIP call before it. -/
def VoipFieldsFollow : ReportTransport.VoipCallReportInfo → List CallReportInfo → Prop
  | _, [] => True
  | voipCallInfo, it :: rest =>
    (it.callType ≠ typeVoip → it.voipCallInfo = voipCallInfo) ∧
      VoipFieldsFollow it.voipCallInfo rest

/-- The messages that reach the service as they are. -/
def Deliverable : ModemReport → Prop
  | updateCallReportInfo info => TailIsBlank info
  | updateCallsReportInfo info =>
    info.callVec ≠ [] ∧ info.callVec.length ≤ 10 ∧ VoipFieldsFollow {} info.callVec
  | handleImsSuppExtChanged info => ¬ RefusesCode info.code
  | reportCallProcedureEvents _ procedureJsonStr =>
    procedureJsonStr.length ≤ maxProcedureJsonSize
  | _ => True

/-- What the stub has checked of the arguments of a method. -/
def Checked : ModemReport → Prop
  | updateCallReportInfo info => info.accountNum.Terminated
  | updateCallsReportInfo info =>
    info.callVec ≠ [] ∧ info.callVec.length ≤ 10 ∧ ∀ it ∈ info.callVec, it.accountNum.Terminated
  | handleImsSuppExtChanged info => ¬ RefusesCode info.code
  | reportCallProcedureEvents _ procedureJsonStr =>
    procedureJsonStr.length ≤ maxProcedureJsonSize
  | _ => True

end ModemReport

/-- The method is called with what was given to the proxy, and the proxy returns its result. -/
def Delivered (P : EndingMessageParcel) (service : ModemReport → Int32) (m : ModemReport) :
    Prop :=
  ∃ m', proxyCall P service m = (some m', .result (service m')) ∧ m'.said = m.said

/-! ## What the handlers read -/

section Handlers

variable {P : EndingMessageParcel}

theorem reads_onInt32 (call : Int32 → ModemReport) (result : Int32) :
    Reads (P := P.toMessageParcel) (onInt32 (P := P) call) [.int32 result] (.calls (call result)) :=
  .next (reads_int32 result) (.pure _)

theorem reads_onString (call : ByteString → ModemReport) (text : ByteString) :
    Reads (P := P.toMessageParcel) (onString (P := P) call) [.string text] (.calls (call text)) :=
  .next (reads_string text) (.pure _)

/-- A size that the check of the stub lets pass. -/
def FitsLen (size : ℕ) : Prop :=
  Int32.ofNat size < maxLen ∧ (Int32.ofNat size).toNatClampNeg = size

instance (size : ℕ) : Decidable (FitsLen size) := inferInstanceAs (Decidable (_ ∧ _))

theorem reads_onRawData {size : ℕ} (hsize : FitsLen size) (call : RawStruct size → ModemReport)
    (info : RawStruct size) :
    Reads (P := P.toMessageParcel) (onRawData (P := P) size call)
      (ModemReport.writtenRawData info) (.calls (call info)) := by
  refine .next (reads_int32 _) ?_
  have hpass : ¬ (Int32.ofNat size < Int32.ofNat size ∨ maxLen ≤ Int32.ofNat size) := by
    rintro (h | h)
    · exact Int32.lt_irrefl h
    · exact Int32.not_le.mpr hsize.1 h
  rw [if_neg hpass, hsize.2]
  refine .next (reads_rawData info.length_eq) ?_
  dsimp only
  have hbytes : info.bytes.take size = info.bytes :=
    List.take_of_length_le info.length_eq.le
  have hinfo : (⟨info.bytes.take size, List.length_take_of_le info.length_eq.ge⟩ :
      RawStruct size) = info := by
    cases info
    simp only [AppRequests.RawStruct.mk.injEq]
    exact hbytes
  rw [dif_pos info.length_eq.ge, hinfo]
  exact .pure _

/-- What the stub makes of a single call, whose fields from the name on are not there. -/
def withBlankTail (info : CallReportInfo) : CallReportInfo :=
  { unpacked {} info with
    name := []
    namePresentation := 0
    reason := ReportTransport.failedUnknown
    message := []
    newCallUseBox := 0
    rttState := 0
    rttChannelId := 0
    imsDomain := 0 }

theorem readsAll_onUpdateCallReportInfo (info : CallReportInfo) :
    ReadsAll (P := P.toMessageParcel) (onUpdateCallReportInfo (P := P))
      (ModemReport.writtenCall info) (.calls (.updateCallReportInfo (withBlankTail info))) := by
  have hbuild : ReadsAll (P := P.toMessageParcel) (buildCallReportInfo {})
      (ModemReport.writtenCall info) (withBlankTail info) := by
    unfold buildCallReportInfo ModemReport.writtenCall
    refine .next (reads_int32 info.index) ?_
    refine .next (reads_chars info.accountNum.text) ?_
    refine .next (reads_int32 info.accountId) ?_
    refine .next (reads_int32 info.callType) ?_
    refine .next (reads_int32 info.callMode) ?_
    refine .next (reads_int32 info.state) ?_
    refine .next (reads_int32 info.voiceDomain) ?_
    refine .next (reads_int32 info.mpty) ?_
    refine .next (reads_int32 info.crsType) ?_
    refine .next (reads_int32 info.originalCallType) ?_
    refine .next (reads_int32 info.phoneIndex) ?_
    refine .bind (ReportTransport.reads_readVoipFields info {}).all ?_
    refine .bind readsAll_string_nil ?_
    refine .bind readsAll_int32_nil ?_
    refine .bind (readsAll_int32Into_nil _) ?_
    refine .bind readsAll_string_nil ?_
    refine .bind readsAll_int32_nil ?_
    refine .bind readsAll_int32_nil ?_
    refine .bind readsAll_int32_nil ?_
    refine .bind readsAll_int32_nil ?_
    exact .pure _
  exact .bind hbuild (.pure _)

/-- A list of one to ten calls is read as it was written. -/
theorem reads_onUpdateCallsReport {info : CallsReportInfo} (hne : info.callVec ≠ [])
    (hlen : info.callVec.length ≤ 10) :
    Reads (P := P.toMessageParcel) (onUpdateCallsReport (P := P))
      (.int32 (Int32.ofNat info.callVec.length) ::
        (info.callVec.flatMap packCall ++ [.int32 info.slotId]))
      (.calls (.updateCallsReportInfo ⟨Run.visited unpacked {} info.callVec, info.slotId⟩)) := by
  have hpos : 0 < info.callVec.length := List.length_pos_iff.mpr hne
  have hcnt : ¬ (Int32.ofNat info.callVec.length ≤ 0 ∨
        ReportTransport.maxCallNum < Int32.ofNat info.callVec.length) ∧
      (Int32.ofNat info.callVec.length).toNatClampNeg = info.callVec.length := by
    generalize info.callVec.length = n at hpos hlen
    interval_cases n <;> decide
  have hread : Reads (P := P.toMessageParcel) onUpdateCallsReportInfo
      (.int32 (Int32.ofNat info.callVec.length) ::
        (info.callVec.flatMap packCall ++ [.int32 info.slotId]))
      (some ⟨Run.visited unpacked {} info.callVec, info.slotId⟩) := by
    refine .next (reads_int32 _) ?_
    rw [if_neg hcnt.1, hcnt.2]
    refine .bind (ReportTransport.reads_readCalls info.callVec {}) ?_
    exact .next (reads_int32 info.slotId) (.pure _)
  have hcall := Reads.bind hread (f := fun info : Option CallsReportInfo =>
    (match info with
      | none => Pure.pure (.refused .argumentInvalid)
      | some callReportInfo => Pure.pure (.calls (.updateCallsReportInfo callReportInfo)) :
      Reader P.toMessageParcel Handled)) (.pure _)
  rw [List.append_nil] at hcall
  exact hcall

/-- The checks of both sides let the message pass. -/
def Accepted : ModemReport → Prop
  | .updateCallsReportInfo info => info.callVec ≠ [] ∧ info.callVec.length ≤ 10
  | .handleImsSuppExtChanged info => ¬ RefusesCode info.code
  | .reportCallProcedureEvents _ procedureJsonStr =>
    procedureJsonStr.length ≤ maxProcedureJsonSize
  | _ => True

/-- What the method is called with. -/
def received : ModemReport → ModemReport
  | .updateCallReportInfo info => .updateCallReportInfo (withBlankTail info)
  | .updateCallsReportInfo info =>
    .updateCallsReportInfo ⟨Run.visited unpacked {} info.callVec, info.slotId⟩
  | m => m

/-- The handler of the code reads what the proxy wrote. -/
theorem memberFunc_accepted {m : ModemReport} (h : Accepted m) :
    ∃ handler : Handler P, memberFunc m.code = some handler ∧
      ReadsAll (P := P.toMessageParcel) handler m.written (.calls (received m)) := by
  cases m with
  | updateCallReportInfo info => exact ⟨_, rfl, readsAll_onUpdateCallReportInfo info⟩
  | updateCallsReportInfo info => exact ⟨_, rfl, (reads_onUpdateCallsReport h.1 h.2).all⟩
  | updateDisconnectedCause reason message =>
    exact ⟨_, rfl, .next (reads_int32 _) (.next (reads_string _) (.pure _))⟩
  | updateSetWaitingResult result | updateRBTPlayInfo result | updateSetRestrictionResult result
  | updateSetRestrictionPasswordResult result | updateSetTransferResult result
  | updateSetCallClirResult result | startRttResult result | stopRttResult result
  | setImsConfigResult result | setImsFeatureValueResult result
  | inviteToConferenceResult result | startDtmfResult result | stopDtmfResult result
  | sendUssdResult result | getImsCallDataResult result | closeUnFinishedUssdResult result =>
    exact ⟨_, rfl, (reads_onInt32 _ result).all⟩
  | reportPostDialChar text | reportPostDialDelay text =>
    exact ⟨_, rfl, (reads_onString _ text).all⟩
  | updateEventResultInfo info | updateGetWaitingResult info | updateGetRestrictionResult info
  | updateGetTransferResult info | updateGetCallClipResult info | updateGetCallClirResult info
  | getImsConfigResult info | getImsFeatureValueResult info
  | receiveUpdateCallMediaModeRequest info | receiveUpdateCallMediaModeResponse info
  | sendMmiCodeResult info | handleCallSessionEventChanged info
  | handlePeerDimensionsChanged info | handleCameraCapabilitiesChanged info =>
    exact ⟨_, rfl, (reads_onRawData (by decide) _ info).all⟩
  | updateVoipEventInfo info =>
    exact ⟨_, rfl, .next (reads_string _) (.next (reads_string _) (.next (reads_int32 _)
      (.next (reads_int32 _) (.next (reads_int32 _) (.pure _)))))⟩
  | handleCallDataUsageChanged result => exact ⟨_, rfl, .next (reads_int64 _) (.pure _)⟩
  | handleImsSuppExtChanged info =>
    refine ⟨_, rfl, .next (reads_int32 _) (.next (reads_int32 _) ?_)⟩
    rw [if_neg h]
    exact .next (reads_int32 _) (.pure _)
  | reportCallProcedureEvents callId procedureJsonStr =>
    refine ⟨_, rfl, .next (reads_string _) (.next (reads_string _) ?_)⟩
    rw [if_neg (Nat.not_lt.mpr h)]
    exact .pure _
  | handleRttEvtChanged info =>
    exact ⟨_, rfl, .next (reads_int32 _) (.next (reads_int32 _) (.next (reads_int32 _)
      (.next (reads_int32 _) (.pure _))))⟩
  | handleRttErrReport info =>
    exact ⟨_, rfl, .next (reads_int32 _) (.next (reads_int32 _) (.next (reads_int32 _)
      (.next (reads_string _) (.next (reads_int32 _) (.pure _)))))⟩

/-! ### Whatever is in the parcel -/

/-- What is called is the method of the code, with checked arguments. -/
def CallsOnly (code : InterfaceCode) (handled : Handled) : Prop :=
  ∀ m, handled = .calls m → m.code = code ∧ m.Checked

theorem callsOnly_refused (code : InterfaceCode) (refusal : Refusal) :
    CallsOnly code (.refused refusal) :=
  fun _ h => nomatch h

theorem callsOnly_calls {m : ModemReport} (h : m.Checked) : CallsOnly m.code (.calls m) := by
  rintro _ ⟨⟩
  exact ⟨rfl, h⟩

theorem returns_onInt32 {call : Int32 → ModemReport} {code : InterfaceCode}
    (h : ∀ result, CallsOnly code (.calls (call result))) :
    Returns (P := P.toMessageParcel) (onInt32 (P := P) call) (CallsOnly code) :=
  .next fun result => .pure (h result)

theorem returns_onString {call : ByteString → ModemReport} {code : InterfaceCode}
    (h : ∀ text, CallsOnly code (.calls (call text))) :
    Returns (P := P.toMessageParcel) (onString (P := P) call) (CallsOnly code) :=
  .next fun text => .pure (h text)

theorem returns_onRawData {size : ℕ} {call : RawStruct size → ModemReport} {code : InterfaceCode}
    (h : ∀ info, CallsOnly code (.calls (call info))) :
    Returns (P := P.toMessageParcel) (onRawData (P := P) size call) (CallsOnly code) := by
  refine .next fun len => ?_
  split_ifs
  · exact .pure (callsOnly_refused code _)
  · refine .next fun data => ?_
    cases data with
    | none => exact .pure (callsOnly_refused code _)
    | some bytes =>
      dsimp only
      split_ifs
      · exact .pure (h _)
      · exact .pure (callsOnly_refused code _)

/-- The number of a call that is read ends within its array. -/
theorem returns_buildCallReportInfo (parcelPtr : CallReportInfo) :
    Returns (P := P.toMessageParcel) (buildCallReportInfo parcelPtr) (·.accountNum.Terminated) :=
  fun _ => ReportTransport.CharArray.terminated_strncpyS parcelPtr.accountNum _

/-- The loop reads as many calls as it is told to. -/
theorem returns_readCalls (n : ℕ) (parcelPtr : CallReportInfo) :
    Returns (P := P.toMessageParcel) (readCalls n parcelPtr) fun callVec =>
      callVec.length = n ∧ ∀ it ∈ callVec, it.accountNum.Terminated := by
  induction n generalizing parcelPtr with
  | zero => exact .pure ⟨rfl, fun _ h => nomatch h⟩
  | succ n ih =>
    refine .bind (returns_buildCallReportInfo parcelPtr) fun it hit => ?_
    refine .bind (ih it) fun callVec hcallVec => .pure ⟨?_, ?_⟩
    · rw [List.length_cons, hcallVec.1]
    · exact List.forall_mem_cons.mpr ⟨hit, hcallVec.2⟩

/-- A list of calls that is accepted has one to ten calls. -/
theorem returns_onUpdateCallsReportInfo :
    Returns (P := P.toMessageParcel) onUpdateCallsReportInfo fun report =>
      ∀ info ∈ report, (ModemReport.updateCallsReportInfo info).Checked := by
  refine .next fun cnt => ?_
  split_ifs with hcnt
  · exact .pure fun _ h => nomatch h
  · refine .bind (returns_readCalls cnt.toNatClampNeg {}) fun callVec hcallVec => ?_
    refine .next fun slotId => .pure ?_
    rintro _ ⟨⟩
    have hpos : ¬ cnt.toInt ≤ 0 := fun h => hcnt (.inl (Int32.le_iff_toInt_le.mpr h))
    have hmax : ¬ 10 < cnt.toInt := fun h => hcnt (.inr (Int32.lt_iff_toInt_lt.mpr h))
    have hlength : callVec.length = cnt.toInt.toNat := hcallVec.1
    have hone : 0 < callVec.length := by omega
    have hten : callVec.length ≤ 10 := by omega
    exact ⟨List.length_pos_iff.mp hone, hten, hcallVec.2⟩

/-- The handler of a code calls the method of the code. -/
theorem returns_memberFunc {code : InterfaceCode} {handler : Handler P}
    (h : memberFunc code = some handler) :
    Returns (P := P.toMessageParcel) handler (CallsOnly code) := by
  cases code with
  | updateCallInfo =>
    cases h
    exact .bind (returns_buildCallReportInfo {}) fun info hinfo =>
      .pure (callsOnly_calls (m := .updateCallReportInfo info) hinfo)
  | updateCallsInfo =>
    cases h
    refine .bind returns_onUpdateCallsReportInfo fun report hreport => ?_
    cases report with
    | none => exact .pure (callsOnly_refused _ _)
    | some info => exact .pure (callsOnly_calls (hreport info rfl))
  | updateDisconnectedCause =>
    cases h
    exact .next fun reason => .next fun message =>
      .pure (callsOnly_calls (m := .updateDisconnectedCause reason message) trivial)
  | callDataUsage =>
    cases h
    exact .next fun result =>
      .pure (callsOnly_calls (m := .handleCallDataUsageChanged result) trivial)
  | imsSuppExtChange =>
    cases h
    refine .next fun slotId => .next fun code => ?_
    split_ifs with hcode
    · exact .pure (callsOnly_refused _ _)
    · exact .next fun callIndex => .pure
        (callsOnly_calls (m := .handleImsSuppExtChanged ⟨slotId, code, callIndex⟩) hcode)
  | updateVoipEventInfo =>
    cases h
    exact .next fun _ => .next fun _ => .next fun _ => .next fun _ => .next fun _ =>
      .pure (callsOnly_calls (m := .updateVoipEventInfo _) trivial)
  | voipReportCallProcedureEvents =>
    cases h
    refine .next fun callId => .next fun procedureJsonStr => ?_
    split_ifs with hlong
    · exact .pure (callsOnly_refused _ _)
    · exact .pure (callsOnly_calls (m := .reportCallProcedureEvents callId procedureJsonStr)
        (Nat.not_lt.mp hlong))
  | updateRttEventStatus =>
    cases h
    exact .next fun _ => .next fun _ => .next fun _ => .next fun _ =>
      .pure (callsOnly_calls (m := .handleRttEvtChanged _) trivial)
  | updateRttErrInfo =>
    cases h
    exact .next fun _ => .next fun _ => .next fun _ => .next fun _ => .next fun _ =>
      .pure (callsOnly_calls (m := .handleRttErrReport _) trivial)
  | postDialChar | postDialDelay =>
    cases h
    exact returns_onString fun _ => fun _ => by rintro ⟨⟩; exact ⟨rfl, trivial⟩
  | updateEventResultInfo | updateGetWaiting | updateGetRestriction | updateGetTransfer
  | updateGetCallClip | updateGetCallClir | getImsConfig | getImsFeatureValue
  | receiveUpdateMediaModeRequest | receiveUpdateMediaModeResponse | mmiCodeInfoResponse
  | callSessionEvent | peerDimensionChange | cameraCapbilitiesChange =>
    cases h
    exact returns_onRawData fun _ => fun _ => by rintro ⟨⟩; exact ⟨rfl, trivial⟩
  | getImsSwitchStatus | setImsSwitchStatus | getLteEnhanceMode | setLteEnhanceMode => cases h
  | _ =>
    cases h
    exact returns_onInt32 fun _ => fun _ => by rintro ⟨⟩; exact ⟨rfl, trivial⟩

end Handlers

/-! ## What reaches the service -/

section Numbers

open ReportTransport

/-- A single call keeps what it says iff the fields that are not written are blank. -/
theorem fields_withBlankTail {info : CallReportInfo} (h : info.accountNum.Terminated) :
    (withBlankTail info).fields = info.fields ↔ ModemReport.TailIsBlank info := by
  have htext : ((CharArray.zero maxNumberLen).strncpyS info.accountNum.text).text =
      info.accountNum.text := CharArray.text_strncpyS h.length_text_le h.split.1
  constructor
  · intro heq
    simp only [CallReportInfo.fields, withBlankTail, unpacked, CallFields.mk.injEq] at heq
    obtain ⟨-, -, -, -, -, -, -, -, -, -, -, hvoip, hname, hpresentation, hreason, hmessage, hbox,
      hrtt, hchannel, hdomain⟩ := heq
    refine ⟨fun hne => ?_, hname.symm, hpresentation.symm, hreason.symm, hmessage.symm, hbox.symm,
      hrtt.symm, hchannel.symm, hdomain.symm⟩
    rw [if_neg hne] at hvoip
    exact hvoip.symm
  · intro hblank
    simp only [CallReportInfo.fields, withBlankTail, unpacked, htext, CallFields.mk.injEq, true_and]
    refine ⟨?_, hblank.name.symm, hblank.namePresentation.symm, hblank.reason.symm,
      hblank.message.symm, hblank.newCallUseBox.symm, hblank.rttState.symm,
      hblank.rttChannelId.symm, hblank.imsDomain.symm⟩
    split_ifs with hvoip
    · rfl
    · exact (hblank.voipCallInfo hvoip).symm

/-- The calls of a list keep what they say iff their VoIP fields follow. -/
theorem fields_visited (callVec : List CallReportInfo) (parcelPtr : CallReportInfo)
    (h : ∀ it ∈ callVec, it.accountNum.Terminated) :
    (Run.visited unpacked parcelPtr callVec).map CallReportInfo.fields =
        callVec.map CallReportInfo.fields ↔
      ModemReport.VoipFieldsFollow parcelPtr.voipCallInfo callVec := by
  induction callVec generalizing parcelPtr with
  | nil => exact iff_of_true rfl trivial
  | cons it rest ih =>
    obtain ⟨hit, hrest⟩ := List.forall_mem_cons.mp h
    have htext : (parcelPtr.accountNum.strncpyS it.accountNum.text).text = it.accountNum.text :=
      CharArray.text_strncpyS hit.length_text_le hit.split.1
    have hhead : (unpacked parcelPtr it).fields = it.fields ↔
        (it.callType ≠ typeVoip → it.voipCallInfo = parcelPtr.voipCallInfo) := by
      simp only [CallReportInfo.fields, unpacked, htext, CallFields.mk.injEq, true_and, and_true]
      by_cases hvoip : it.callType = typeVoip
      · simp [hvoip]
      · simp [hvoip, eq_comm]
    rw [List.map_cons, Run.visited, List.map_cons, List.cons.injEq, hhead, ih _ hrest]
    refine and_congr_right fun hvoip => ?_
    have hsame : (unpacked parcelPtr it).voipCallInfo = it.voipCallInfo := by
      unfold unpacked
      split_ifs with htype
      · rfl
      · exact (hvoip htype).symm
    rw [hsame]

end Numbers

/-- What a message says is received iff it is deliverable. -/
theorem said_received_iff {m : ModemReport} (hm : m.Terminated) :
    Accepted m ∧ (received m).said = m.said ↔ m.Deliverable := by
  cases m with
  | updateCallReportInfo info =>
    have hfields := fields_withBlankTail hm
    exact (and_iff_right trivial).trans (Said.call.injEq _ _ ▸ hfields)
  | updateCallsReportInfo info =>
    have hfields := fields_visited info.callVec {} hm
    refine and_assoc.trans (and_congr_right fun _ => and_congr_right fun _ => ?_)
    refine Iff.trans (iff_of_eq (Said.calls.injEq _ _ _ _)) ((and_iff_right rfl).trans hfields)
  | handleImsSuppExtChanged info => exact and_iff_left rfl
  | reportCallProcedureEvents callId procedureJsonStr => exact and_iff_left rfl
  | _ => exact iff_of_true ⟨trivial, rfl⟩ trivial

/-- A message that says what a checked one says passes the checks. -/
theorem accepted_of_said {m m' : ModemReport} (hsaid : m'.said = m.said) (h : m'.Checked) :
    Accepted m := by
  have hother : m.said = .other m → m' = m := by
    intro hm
    rw [hm] at hsaid
    cases m' <;> first | exact Said.other.inj hsaid | cases hsaid
  cases m with
  | updateCallsReportInfo info =>
    have hcalls : ∃ info', m' = .updateCallsReportInfo info' := by
      cases m' <;> first | exact ⟨_, rfl⟩ | cases hsaid
    obtain ⟨info', rfl⟩ := hcalls
    have hmap := (Said.calls.inj hsaid).2
    have hlength : info'.callVec.length = info.callVec.length := by
      simpa using congrArg List.length hmap
    have hpos := List.length_pos_iff.mpr h.1
    exact ⟨List.length_pos_iff.mp (hlength ▸ hpos), hlength ▸ h.2.1⟩
  | handleImsSuppExtChanged info =>
    obtain rfl := hother rfl
    exact h
  | reportCallProcedureEvents callId procedureJsonStr =>
    obtain rfl := hother rfl
    exact h
  | _ => trivial

/-- The stub calls the method of the code. -/
theorem returns_onRemoteRequest (P : EndingMessageParcel) (code : InterfaceCode) :
    Returns (P := P.toMessageParcel) (onRemoteRequest (P := P) code) (CallsOnly code) := by
  refine .next fun remoteDescriptor => ?_
  split_ifs
  · exact .pure (callsOnly_refused _ _)
  · cases hfunc : memberFunc (P := P) code with
    | none => exact .pure (callsOnly_refused _ _)
    | some handler => exact returns_memberFunc hfunc

/-! ## Main results -/

/-- **Safety.** Whatever is in the parcel, the method that is called is that of the code, with
    arguments that have passed the checks, and none is called under a foreign descriptor. -/
theorem onRemoteRequest_sound (P : EndingMessageParcel) (code : InterfaceCode) (p : P.Parcel) :
    CallsOnly code (onRemoteRequest (P := P) code p).1 ∧
      ((interfaceToken (P := P.toMessageParcel) p).1 = descriptor ∨
        (onRemoteRequest (P := P) code p).1 = .refused .descriptorMismatch) := by
  refine ⟨returns_onRemoteRequest P code p, ?_⟩
  by_cases hdescriptor : (interfaceToken (P := P.toMessageParcel) p).1 = descriptor
  · exact .inl hdescriptor
  · have hrun : onRemoteRequest (P := P) code p =
        (if descriptor ≠ (interfaceToken (P := P.toMessageParcel) p).1 then
          Pure.pure (.refused .descriptorMismatch)
        else (memberFunc code).getD (Pure.pure (.refused .unknownCode)) : Handler P)
          (interfaceToken (P := P.toMessageParcel) p).2 := rfl
    rw [hrun, if_pos (Ne.symm hdescriptor)]
    exact .inr rfl

/-- A message that passes the checks is received, and its result is returned. -/
theorem proxyCall_accepted (P : EndingMessageParcel) (service : ModemReport → Int32)
    {m : ModemReport} (h : Accepted m) :
    proxyCall P service m = (some (received m), .result (service (received m))) := by
  have hproxy : m.proxyRefuses = false := by
    cases m with
    | reportCallProcedureEvents callId procedureJsonStr =>
      exact decide_eq_false (Nat.not_lt.mpr h)
    | _ => rfl
  obtain ⟨handler, hhandler, hreads⟩ := memberFunc_accepted (P := P) h
  have hrequest : ReadsAll (P := P.toMessageParcel) (onRemoteRequest (P := P) m.code) m.request
      (.calls (received m)) := by
    refine .next (reads_interfaceToken descriptor) ?_
    rw [if_neg (not_not.mpr rfl), hhandler]
    exact hreads
  have hcontents : P.contents (P.writeAll P.empty m.request) = m.request := by
    rw [contents_writeAll, P.contents_empty, List.nil_append]
  have hreply : P.contents (P.write P.empty (.int32 (service (received m)))) =
      [.int32 (service (received m))] := by
    rw [P.contents_write, P.contents_empty, List.nil_append]
  rw [proxyCall, if_neg (by simp [hproxy]), (hrequest _ hcontents).1]
  dsimp only
  rw [((reads_int32 (P := P.toMessageParcel) _).all _ hreply).1]

/-- What the service is called with has passed the checks of the stub. -/
theorem checked_of_proxyCall {P : EndingMessageParcel} {service : ModemReport → Int32}
    {m m' : ModemReport} (h : (proxyCall P service m).1 = some m') : m'.Checked := by
  unfold proxyCall at h
  split_ifs at h
  cases hcalls : (onRemoteRequest (P := P) m.code (P.writeAll P.empty m.request)).1 with
  | refused refusal =>
    rw [hcalls] at h
    exact nomatch h
  | calls sent =>
    rw [hcalls] at h
    obtain rfl := Option.some.inj h
    exact (returns_onRemoteRequest P m.code _ sent hcalls).2

/-- **Delivery.** A message whose numbers end within their arrays is delivered, and the
    result of the service comes back, iff it is `Deliverable`. -/
theorem delivered_iff (P : EndingMessageParcel) (service : ModemReport → Int32) (m : ModemReport)
    (hm : m.Terminated) : Delivered P service m ↔ m.Deliverable := by
  rw [← said_received_iff hm]
  constructor
  · rintro ⟨m', hcall, hsaid⟩
    have haccepted := accepted_of_said hsaid (checked_of_proxyCall (congrArg Prod.fst hcall))
    refine ⟨haccepted, ?_⟩
    rw [proxyCall_accepted P service haccepted] at hcall
    rw [Option.some.inj (congrArg Prod.fst hcall)]
    exact hsaid
  · rintro ⟨haccepted, hsaid⟩
    exact ⟨_, proxyCall_accepted P service haccepted, hsaid⟩

/-- The report of one incoming call of the number 9, without a name. -/
def incomingReport : CallReportInfo where
  index := 1
  accountNum := (ReportTransport.CharArray.zero maxNumberLen).strncpyS [57]
  state := 5
  rttChannelId := 0

theorem delivered_incoming_call :
    Delivered EndingMessageParcel.queue (fun _ => 7) (.updateCallReportInfo incomingReport) :=
  (delivered_iff EndingMessageParcel.queue (fun _ => 7) (.updateCallReportInfo incomingReport)
    (ReportTransport.CharArray.terminated_strncpyS _ _)).mpr ⟨fun _ => rfl, rfl, rfl, rfl, rfl, rfl, rfl, rfl, rfl⟩

end CallManager.ModemReports
