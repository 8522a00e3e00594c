import CallManager.AppRequests

/-!
# Results, audio devices and OTT requests for the applications

`CallAbilityCallbackProxy` writes the results of asynchronous operations, the audio
devices and the requests to an OTT application to a parcel, and
`CallAbilityCallbackStub` in the application reads them and hands them over. Which
values are written, and which are read, is decided by the id of the report or of the
request, in a `switch` of its own on each side; `CallStatusCallback` and
`OTTCallConnection` decide which values there are.

A text that is put to a map is a `std::string` without its array. Parcels return what
was written in its order, and zero or the empty string where nothing is left. Failures
to write are left out.

Specification (`RoundTrips`): the application is handed what was given to the proxy,
every key with its value and no other key.

Results:
* `roundTrips_iff`: what `CallStatusCallback` reports is handed over unless it is the
  answer to a query of call forwarding; audio devices unless there are none; an OTT
  request iff its map has exactly the keys that are sent.
* `ottRequest_roundTrips_iff`: of the OTT requests that are made, only that to dial.
* `no_reply_timer_lost`: a forwarding after 20 seconds without an answer is handed over
  with the time 0.
-/

namespace CallManager.CallbackCodec

open AppRequests (PacMap)
open MessageParcel hiding queue
open FullMessageParcel hiding queue

/-! ## What is reported -/

/-- `CallResultReportId` (call_manager_base.h:805-829). -/
inductive CallResultReportId
  | startDtmf | stopDtmf | sendUssd | getImsCallData | getCallWaiting | setCallWaiting
  | getCallRestriction | setCallRestriction | getCallTransfer | setCallTransfer | getCallClip
  | getCallClir | setCallClir | startRtt | stopRtt | getImsConfig | setImsConfig
  | getImsFeatureValue | setImsFeatureValue | inviteToConference | updateMediaMode
  | closeUnfinishedUssd | setCallRestrictionPwd
  deriving DecidableEq, Repr

/-- The ids in their order. -/
def CallResultReportId.all : List CallResultReportId :=
  [.startDtmf, .stopDtmf, .sendUssd, .getImsCallData, .getCallWaiting, .setCallWaiting,
    .getCallRestriction, .setCallRestriction, .getCallTransfer, .setCallTransfer, .getCallClip,
    .getCallClir, .setCallClir, .startRtt, .stopRtt, .getImsConfig, .setImsConfig,
    .getImsFeatureValue, .setImsFeatureValue, .inviteToConference, .updateMediaMode,
    .closeUnfinishedUssd, .setCallRestrictionPwd]

/-- The id as a number. -/
def CallResultReportId.code (reportId : CallResultReportId) : Int32 :=
  .ofNat (all.idxOf reportId)

/-- The id of a number, if it has one. -/
def CallResultReportId.ofCode (code : Int32) : Option CallResultReportId :=
  all.find? fun reportId => reportId.code = code

/-- `OttCallRequestId` (call_manager_inner_type.h:918-931). -/
inductive OttCallRequestId
  | dial | hangUp | reject | answer | hold | unHold | switch | combineConference
  | separateConference | kickOutConference | inviteToConference | updateCallMediaMode
  deriving DecidableEq, Repr

/-- The ids in their order. -/
def OttCallRequestId.all : List OttCallRequestId :=
  [.dial, .hangUp, .reject, .answer, .hold, .unHold, .switch, .combineConference,
    .separateConference, .kickOutConference, .inviteToConference, .updateCallMediaMode]

/-- The id as a number. -/
def OttCallRequestId.code (requestId : OttCallRequestId) : Int32 :=
  .ofNat (all.idxOf requestId)

/-- The id of a number, if it has one. -/
def OttCallRequestId.ofCode (code : Int32) : Option OttCallRequestId :=
  all.find? fun requestId => requestId.code = code

/-- `AudioDeviceInfo` (call_manager_inner_type.h:1029-1051). -/
structure AudioDeviceInfo where
  audioDeviceList : List AppRequests.AudioDevice
  currentAudioDevice : AppRequests.AudioDevice
  isMuted : Bool
  callId : Int32
  isMicDisabled : Bool
  deriving DecidableEq, Repr

/-- What the proxy is given. -/
inductive CallbackMessage
  | onReportAsyncResults (reportId : CallResultReportId) (resultInfo : PacMap)
  | onReportAudioDeviceChange (info : AudioDeviceInfo)
  | onOttCallRequest (requestId : OttCallRequestId) (info : PacMap)

/-- What the application is handed: an id is the number that was read. -/
inductive HandedOver
  | onReportAsyncResults (reportId : Int32) (resultInfo : PacMap)
  | onReportAudioDeviceChange (info : AudioDeviceInfo)
  | onOttCallRequest (requestId : Int32) (info : PacMap)

/-- `CallManagerCallAbilityInterfaceCode`, the codes of the three messages. -/
inductive InterfaceCode
  | updateCallAsyncResultRequest | updateAudioDeviceChangeResultRequest | reportOttCallRequest
  deriving DecidableEq, Repr

/-! ## The results that are reported -/

/-- `CallWaitResponse` (call_manager_inner_type.h:29-42). -/
structure CallWaitResponse where
  result : Int32
  status : Int32
  classCw : Int32

/-- `CallRestrictionResponse` (call_manager_inner_type.h:214-228). -/
structure CallRestrictionResponse where
  result : Int32
  status : Int32
  classCw : Int32

/-- `CallTransferResponse` (call_manager_inner_type.h:165-209). The number is the C string in
    its array. -/
structure CallTransferResponse where
  result : Int32
  status : Int32
  classx : Int32
  type : Int32
  number : ByteString
  reason : Int32
  time : Int32
  startHour : Int32
  startMinute : Int32
  endHour : Int32
  endMinute : Int32

/-- `ClipResponse` (call_manager_inner_type.h:47-60). -/
structure ClipResponse where
  result : Int32
  action : Int32
  clipStat : Int32

/-- `ClirResponse` (call_manager_inner_type.h:65-78). -/
structure ClirResponse where
  result : Int32
  action : Int32
  clirStat : Int32

/-- `GetImsConfigResponse` (call_manager_inner_type.h:252-261). -/
structure GetImsConfigResponse where
  result : Int32
  value : Int32

/-- `GetImsFeatureValueResponse` (call_manager_inner_type.h:266-275). -/
structure GetImsFeatureValueResponse where
  result : Int32
  value : Int32

namespace CallStatusCallback

/-- The report of a result alone. -/
def reportResult (reportId : CallResultReportId) (result : Int32) : CallResultReportId × PacMap :=
  (reportId, PacMap.empty.putIntValue "result" result)

/-- `CallStatusCallback::StartDtmfResult` (call_status_callback.cpp:220-227). -/
def startDtmfResult (result : Int32) : CallResultReportId × PacMap :=
  reportResult .startDtmf result

/-- `CallStatusCallback::StopDtmfResult` (call_status_callback.cpp:229-236). -/
def stopDtmfResult (result : Int32) : CallResultReportId × PacMap :=
  reportResult .stopDtmf result

/-- `CallStatusCallback::SendUssdResult` (call_status_callback.cpp:238-245). -/
def sendUssdResult (result : Int32) : CallResultReportId × PacMap :=
  reportResult .sendUssd result

/-- `CallStatusCallback::GetImsCallDataResult` (call_status_callback.cpp:273-280). -/
def getImsCallDataResult (result : Int32) : CallResultReportId × PacMap :=
  reportResult .getImsCallData result

/-- `CallStatusCallback::UpdateSetWaitingResult` (call_status_callback.cpp:295-303). -/
def updateSetWaitingResult (result : Int32) : CallResultReportId × PacMap :=
  reportResult .setCallWaiting result

/-- `CallStatusCallback::UpdateSetRestrictionResult` (call_status_callback.cpp:317-324). -/
def updateSetRestrictionResult (result : Int32) : CallResultReportId × PacMap :=
  reportResult .setCallRestriction result

/-- `CallStatusCallback::UpdateSetRestrictionPasswordResult` (call_status_callback.cpp:326-333). -/
def updateSetRestrictionPasswordResult (result : Int32) : CallResultReportId × PacMap :=
  reportResult .setCallRestrictionPwd result

/-- `CallStatusCallback::UpdateSetTransferResult` (call_status_callback.cpp:353-360). -/
def updateSetTransferResult (result : Int32) : CallResultReportId × PacMap :=
  reportResult .setCallTransfer result

/-- `CallStatusCallback::UpdateSetCallClirResult` (call_status_callback.cpp:386-393). -/
def updateSetCallClirResult (result : Int32) : CallResultReportId × PacMap :=
  reportResult .setCallClir result

/-- `CallStatusCallback::StartRttResult` (call_status_callback.cpp:395-402). -/
def startRttResult (result : Int32) : CallResultReportId × PacMap :=
  reportResult .startRtt result

/-- `CallStatusCallback::StopRttResult` (call_status_callback.cpp:404-411). -/
def stopRttResult (result : Int32) : CallResultReportId × PacMap :=
  reportResult .stopRtt result

/-- `CallStatusCallback::SetImsConfigResult` (call_status_callback.cpp:423-430). -/
def setImsConfigResult (result : Int32) : CallResultReportId × PacMap :=
  reportResult .setImsConfig result

/-- `CallStatusCallback::SetImsFeatureValueResult` (call_status_callback.cpp:442-449). -/
def setImsFeatureValueResult (result : Int32) : CallResultReportId × PacMap :=
  reportResult .setImsFeatureValue result

/-- `CallStatusCallback::InviteToConferenceResult` (call_status_callback.cpp:505-512). -/
def inviteToConferenceResult (result : Int32) : CallResultReportId × PacMap :=
  reportResult .inviteToConference result

/-- `CallStatusCallback::CloseUnFinishedUssdResult` (call_status_callback.cpp:514-521). -/
def closeUnFinishedUssdResult (result : Int32) : CallResultReportId × PacMap :=
  reportResult .closeUnfinishedUssd result

/-- `CallStatusCallback::UpdateGetWaitingResult` (call_status_callback.cpp:282-293). -/
def updateGetWaitingResult (response : CallWaitResponse) : CallResultReportId × PacMap :=
  (.getCallWaiting,
    ((PacMap.empty.putIntValue "result" response.result).putIntValue "status"
      response.status).putIntValue "classCw" response.classCw)

/-- `CallStatusCallback::UpdateGetRestrictionResult` (call_status_callback.cpp:305-315). -/
def updateGetRestrictionResult (result : CallRestrictionResponse) : CallResultReportId × PacMap :=
  (.getCallRestriction,
    ((PacMap.empty.putIntValue "result" result.result).putIntValue "status"
      result.status).putIntValue "classCw" result.classCw)

/-- `CallStatusCallback::UpdateGetTransferResult` (call_status_callback.cpp:335-351). -/
def updateGetTransferResult (response : CallTransferResponse) : CallResultReportId × PacMap :=
  let resultInfo := PacMap.empty.putIntValue "result" response.result
  let resultInfo := resultInfo.putIntValue "status" response.status
  let resultInfo := resultInfo.putIntValue "classx" response.classx
  let resultInfo := resultInfo.putStringValue "number" response.number
  let resultInfo := resultInfo.putIntValue "type" response.type
  let resultInfo := resultInfo.putIntValue "reason" response.reason
  let resultInfo := resultInfo.putIntValue "time" response.time
  let resultInfo := resultInfo.putIntValue "startHour" response.startHour
  let resultInfo := resultInfo.putIntValue "startMinute" response.startMinute
  let resultInfo := resultInfo.putIntValue "endHour" response.endHour
  (.getCallTransfer, resultInfo.putIntValue "endMinute" response.endMinute)

/-- `CallStatusCallback::UpdateGetCallClipResult` (call_status_callback.cpp:362-372). -/
def updateGetCallClipResult (clipResponse : ClipResponse) : CallResultReportId × PacMap :=
  (.getCallClip,
    ((PacMap.empty.putIntValue "result" clipResponse.result).putIntValue "action"
      clipResponse.action).putIntValue "clipStat" clipResponse.clipStat)

/-- `CallStatusCallback::UpdateGetCallClirResult` (call_status_callback.cpp:374-384). -/
def updateGetCallClirResult (clirResponse : ClirResponse) : CallResultReportId × PacMap :=
  (.getCallClir,
    ((PacMap.empty.putIntValue "result" clirResponse.result).putIntValue "action"
      clirResponse.action).putIntValue "clirStat" clirResponse.clirStat)

/-- `CallStatusCallback::GetImsConfigResult` (call_status_callback.cpp:413-421). -/
def getImsConfigResult (response : GetImsConfigResponse) : CallResultReportId × PacMap :=
  (.getImsConfig,
    (PacMap.empty.putIntValue "result" response.result).putIntValue "value" response.value)

/-- `CallStatusCallback::GetImsFeatureValueResult` (call_status_callback.cpp:432-440). -/
def getImsFeatureValueResult (response : GetImsFeatureValueResponse) :
    CallResultReportId × PacMap :=
  (.getImsFeatureValue,
    (PacMap.empty.putIntValue "result" response.result).putIntValue "value" response.value)

/-- What `CallStatusCallback` reports. -/
inductive Reports : CallResultReportId × PacMap → Prop
  | startDtmfResult (result : Int32) : Reports (CallStatusCallback.startDtmfResult result)
  | stopDtmfResult (result : Int32) : Reports (CallStatusCallback.stopDtmfResult result)
  | sendUssdResult (result : Int32) : Reports (CallStatusCallback.sendUssdResult result)
  | getImsCallDataResult (result : Int32) : Reports (CallStatusCallback.getImsCallDataResult result)
  | updateSetWaitingResult (result : Int32) :
    Reports (CallStatusCallback.updateSetWaitingResult result)
  | updateSetRestrictionResult (result : Int32) :
    Reports (CallStatusCallback.updateSetRestrictionResult result)
  | updateSetRestrictionPasswordResult (result : Int32) :
    Reports (CallStatusCallback.updateSetRestrictionPasswordResult result)
  | updateSetTransferResult (result : Int32) :
    Reports (CallStatusCallback.updateSetTransferResult result)
  | updateSetCallClirResult (result : Int32) :
    Reports (CallStatusCallback.updateSetCallClirResult result)
  | startRttResult (result : Int32) : Reports (CallStatusCallback.startRttResult result)
  | stopRttResult (result : Int32) : Reports (CallStatusCallback.stopRttResult result)
  | setImsConfigResult (result : Int32) : Reports (CallStatusCallback.setImsConfigResult result)
  | setImsFeatureValueResult (result : Int32) :
    Reports (CallStatusCallback.setImsFeatureValueResult result)
  | inviteToConferenceResult (result : Int32) :
    Reports (CallStatusCallback.inviteToConferenceResult result)
  | closeUnFinishedUssdResult (result : Int32) :
    Reports (CallStatusCallback.closeUnFinishedUssdResult result)
  | updateGetWaitingResult (response : CallWaitResponse) :
    Reports (CallStatusCallback.updateGetWaitingResult response)
  | updateGetRestrictionResult (response : CallRestrictionResponse) :
    Reports (CallStatusCallback.updateGetRestrictionResult response)
  | updateGetTransferResult (response : CallTransferResponse) :
    Reports (CallStatusCallback.updateGetTransferResult response)
  | updateGetCallClipResult (response : ClipResponse) :
    Reports (CallStatusCallback.updateGetCallClipResult response)
  | updateGetCallClirResult (response : ClirResponse) :
    Reports (CallStatusCallback.updateGetCallClirResult response)
  | getImsConfigResult (response : GetImsConfigResponse) :
    Reports (CallStatusCallback.getImsConfigResult response)
  | getImsFeatureValueResult (response : GetImsFeatureValueResponse) :
    Reports (CallStatusCallback.getImsFeatureValueResult response)

end CallStatusCallback

/-! ## The OTT requests that are made -/

/-- `OttCallRequestInfo` (call_manager_inner_type.h:936-949). The texts are the C strings in
    their arrays. -/
structure OttCallRequestInfo where
  phoneNum : ByteString
  bundleName : ByteString
  videoState : Int32

namespace OTTCallConnection

/-- `OTTCallConnection::PackCellularCallInfo` (ott_call_connection.cpp:127-134). -/
def packCellularCallInfo (requestInfo : OttCallRequestInfo) : PacMap :=
  ((PacMap.empty.putStringValue "phoneNum" requestInfo.phoneNum).putStringValue "bundleName"
    requestInfo.bundleName).putIntValue "videoState" requestInfo.videoState

/-- The requests that carry the call alone (ott_call_connection.cpp:24-95). -/
def callRequests : List OttCallRequestId :=
  [.answer, .hangUp, .reject, .hold, .unHold, .switch, .combineConference, .separateConference,
    .kickOutConference]

/-- `OTTCallConnection::InviteToConference` (ott_call_connection.cpp:97-116): the last number
    that is not empty stays, and no list is an error. -/
def inviteToConference (requestInfo : OttCallRequestInfo) (numberList : List ByteString) :
    Option PacMap :=
  if numberList = [] then none
  else
    let info :=
      (packCellularCallInfo requestInfo).putIntValue "listCnt" (.ofNat numberList.length)
    some (numberList.foldl
      (fun info number => if number ≠ [] then info.putStringValue "number" number else info) info)

/-- `OTTCallConnection::UpdateImsCallMode` (ott_call_connection.cpp:118-125). -/
def updateImsCallMode (requestInfo : OttCallRequestInfo) (mode : Int32) : PacMap :=
  (packCellularCallInfo requestInfo).putIntValue "callMediaMode" mode

end OTTCallConnection

/-- `CallRequestProcess::OttDialProcess` (call_request_process.cpp:952-966). -/
def ottDialProcess (number bundleName : ByteString) (videoState : Int32) : PacMap :=
  ((PacMap.empty.putStringValue "phoneNumber" number).putStringValue "bundleName"
    bundleName).putIntValue "videoState" videoState

/-- The requests that are made. -/
inductive OttRequests : OttCallRequestId → PacMap → Prop
  | dial (number bundleName : ByteString) (videoState : Int32) :
    OttRequests .dial (ottDialProcess number bundleName videoState)
  | call {requestId : OttCallRequestId} (h : requestId ∈ OTTCallConnection.callRequests)
    (requestInfo : OttCallRequestInfo) :
    OttRequests requestId (OTTCallConnection.packCellularCallInfo requestInfo)
  | invite {requestInfo : OttCallRequestInfo} {numberList : List ByteString} {info : PacMap}
    (h : OTTCallConnection.inviteToConference requestInfo numberList = some info) :
    OttRequests .inviteToConference info
  | updateMode (requestInfo : OttCallRequestInfo) (mode : Int32) :
    OttRequests .updateCallMediaMode (OTTCallConnection.updateImsCallMode requestInfo mode)

/-! ## The proxy -/

/-- The values that `PackDataParcel` writes for an id. -/
def packResults (resultInfo : PacMap) : CallResultReportId → List ParcelItem
  | .getCallWaiting | .getCallRestriction =>
    [.int32 (resultInfo.getIntValue "status"), .int32 (resultInfo.getIntValue "classCw")]
  | .getCallTransfer =>
    [.int32 (resultInfo.getIntValue "status"), .int32 (resultInfo.getIntValue "classx"),
      .string (resultInfo.getStringValue "number"), .int32 (resultInfo.getIntValue "type"),
      .int32 (resultInfo.getIntValue "reason")]
  | .getCallClip =>
    [.int32 (resultInfo.getIntValue "action"), .int32 (resultInfo.getIntValue "clipStat")]
  | .getCallClir =>
    [.int32 (resultInfo.getIntValue "action"), .int32 (resultInfo.getIntValue "clirStat")]
  | .getImsConfig | .getImsFeatureValue => [.int32 (resultInfo.getIntValue "value")]
  | _ => []

/-- `CallAbilityCallbackProxy::PackDataParcel` (call_ability_callback_proxy.cpp:154-187). -/
def packDataParcel (reportId : CallResultReportId) (resultInfo : PacMap) : List ParcelItem :=
  .int32 reportId.code :: .int32 (resultInfo.getIntValue "result") ::
    packResults resultInfo reportId

/-- `CallAbilityCallbackProxy::OnReportAudioDeviceChange`
    (call_ability_callback_proxy.cpp:221-246). -/
def packAudioDeviceChange (info : AudioDeviceInfo) : List ParcelItem :=
  .int32 (.ofNat info.audioDeviceList.length) ::
    ((info.audioDeviceList.flatMap fun audioDevice => [.rawData audioDevice.bytes]) ++
      [.rawData info.currentAudioDevice.bytes, .bool info.isMuted, .int32 info.callId,
        .bool info.isMicDisabled])

/-- The values that `OnOttCallRequest` writes for an id. -/
def packRequest (info : PacMap) : OttCallRequestId → List ParcelItem
  | .inviteToConference =>
    if 0 < info.getIntValue "listCnt" then [.string (info.getStringValue "number")] else []
  | .updateCallMediaMode => [.int32 (info.getIntValue "callMediaMode")]
  | _ => []

/-- `CallAbilityCallbackProxy::OnOttCallRequest` (call_ability_callback_proxy.cpp:189-219). -/
def packOttCallRequest (requestId : OttCallRequestId) (info : PacMap) : List ParcelItem :=
  .int32 requestId.code :: .string (info.getStringValue "phoneNumber") ::
    .string (info.getStringValue "bundleName") :: .int32 (info.getIntValue "videoState") ::
    packRequest info requestId

namespace CallbackMessage

/-- The code that the proxy sends. -/
def code : CallbackMessage → InterfaceCode
  | onReportAsyncResults _ _ => .updateCallAsyncResultRequest
  | onReportAudioDeviceChange _ => .updateAudioDeviceChangeResultRequest
  | onOttCallRequest _ _ => .reportOttCallRequest

/-- What the proxy writes after the descriptor. -/
def written : CallbackMessage → List ParcelItem
  | onReportAsyncResults reportId resultInfo => packDataParcel reportId resultInfo
  | onReportAudioDeviceChange info => packAudioDeviceChange info
  | onOttCallRequest requestId info => packOttCallRequest requestId info

end CallbackMessage

/-- `GetDescriptor`. -/
def descriptor : String := "OHOS.Telephony.ICallAbilityCallback"

/-! ## The stub -/

/-- `MAX_LEN` (call_ability_callback_stub.cpp:26). -/
def maxLen : ℕ := 100000

section Stub

variable {P : FullMessageParcel}

/-- The values that `OnUpdateAysncResults` reads for an id. -/
def readResults (resultInfo : PacMap) :
    Option CallResultReportId → Reader P.toMessageParcel PacMap
  | some .getCallWaiting | some .getCallRestriction => do
    let resultInfo := resultInfo.putIntValue "status" (← int32)
    return resultInfo.putIntValue "classCw" (← int32)
  | some .getCallTransfer => do
    let resultInfo := resultInfo.putIntValue "status" (← int32)
    let resultInfo := resultInfo.putIntValue "classx" (← int32)
    let resultInfo := resultInfo.putStringValue "number" (← string)
    let resultInfo := resultInfo.putIntValue "type" (← int32)
    let resultInfo := resultInfo.putIntValue "reason" (← int32)
    return resultInfo.putIntValue "time" (← int32)
  | some .getCallClip => do
    let resultInfo := resultInfo.putIntValue "action" (← int32)
    return resultInfo.putIntValue "clipStat" (← int32)
  | some .getCallClir => do
    let resultInfo := resultInfo.putIntValue "action" (← int32)
    return resultInfo.putIntValue "clirStat" (← int32)
  | some .getImsConfig | some .getImsFeatureValue => do
    return resultInfo.putIntValue "value" (← int32)
  | _ => return resultInfo

/-- `CallAbilityCallbackStub::OnUpdateAysncResults` (call_ability_callback_stub.cpp:165-210). -/
def onUpdateAysncResults : Reader P.toMessageParcel (Option HandedOver) := do
  let reportId ← int32
  let resultInfo := PacMap.empty.putIntValue "result" (← int32)
  let resultInfo ← readResults resultInfo (CallResultReportId.ofCode reportId)
  return some (.onReportAsyncResults reportId resultInfo)

/-- `ReadRawData` of an `AudioDevice`, none for the null pointer. -/
def readAudioDevice : Reader P.toMessageParcel (Option AppRequests.AudioDevice) := do
  let audioDevicePtr ← rawData 296
  match audioDevicePtr with
  | none => return none
  | some bytes => return if h : bytes.length = 296 then some ⟨bytes, h⟩ else none

/-- The loop of `OnUpdateAudioDeviceChange` while it fills the list. -/
def readAudioDevices : ℕ → Reader P.toMessageParcel (Option (List AppRequests.AudioDevice))
  | 0 => return some []
  | n + 1 => do
    let audioDevice ← readAudioDevice
    match audioDevice with
    | none => return none
    | some audioDevice => do
      let rest ← readAudioDevices n
      return rest.map fun rest => audioDevice :: rest

/-- `CallAbilityCallbackStub::OnUpdateAudioDeviceChange`
    (call_ability_callback_stub.cpp:238-277), none if it refuses the parcel. The last turn of
    its loop reads the current device. -/
def onUpdateAudioDeviceChange : Reader P.toMessageParcel (Option HandedOver) := do
  let len ← int32
  if len ≤ 0 ∨ .ofNat maxLen ≤ len then return none
  else
    let audioDeviceList ← readAudioDevices len.toNatClampNeg
    match audioDeviceList with
    | none => return none
    | some audioDeviceList => do
      let currentAudioDevice ← readAudioDevice
      match currentAudioDevice with
      | none => return none
      | some currentAudioDevice => do
        let isMuted ← bool
        let callId ← int32
        let isMicDisabled ← bool
        return some (.onReportAudioDeviceChange
          { audioDeviceList, currentAudioDevice, isMuted, callId, isMicDisabled })

/-- The values that `OnUpdateOttCallRequest` reads for an id. -/
def readRequest (resultInfo : PacMap) : Option OttCallRequestId → Reader P.toMessageParcel PacMap
  | some .inviteToConference => do
    return resultInfo.putStringValue "number" (← string)
  | some .updateCallMediaMode => do
    return resultInfo.putIntValue "callMediaMode" (← int32)
  | _ => return resultInfo

/-- `CallAbilityCallbackStub::OnUpdateOttCallRequest` (call_ability_callback_stub.cpp:279-306). -/
def onUpdateOttCallRequest : Reader P.toMessageParcel (Option HandedOver) := do
  let requestId ← int32
  let resultInfo := PacMap.empty.putStringValue "phoneNumber" (← string)
  let resultInfo := resultInfo.putStringValue "bundleName" (← string)
  let resultInfo := resultInfo.putIntValue "videoState" (← int32)
  let resultInfo ← readRequest resultInfo (OttCallRequestId.ofCode requestId)
  return some (.onOttCallRequest requestId resultInfo)

/-- `memberFuncMap_` (call_ability_callback_stub.cpp:28-73). -/
def memberFunc : InterfaceCode → Reader P.toMessageParcel (Option HandedOver)
  | .updateCallAsyncResultRequest => onUpdateAysncResults
  | .updateAudioDeviceChangeResultRequest => onUpdateAudioDeviceChange
  | .reportOttCallRequest => onUpdateOttCallRequest

/-- `CallAbilityCallbackStub::OnRemoteRequest` (call_ability_callback_stub.cpp:75-94). -/
def onRemoteRequest (code : InterfaceCode) : Reader P.toMessageParcel (Option HandedOver) := do
  let remoteDescriptor ← interfaceToken
  if descriptor ≠ remoteDescriptor then return none else memberFunc code

end Stub

/-! ## Specification -/

namespace CallbackMessage

/-- What the application should be handed. -/
def handedOver : CallbackMessage → HandedOver
  | onReportAsyncResults reportId resultInfo => .onReportAsyncResults reportId.code resultInfo
  | onReportAudioDeviceChange info => .onReportAudioDeviceChange info
  | onOttCallRequest requestId info => .onOttCallRequest requestId.code info

/-- The stub hands over what the proxy was given. -/
def RoundTrips (P : EndingMessageParcel) (m : CallbackMessage) : Prop :=
  (onRemoteRequest (P := P.toFullMessageParcel) m.code
    (P.writeAll P.empty (.interfaceToken descriptor :: m.written))).1 = some m.handedOver

/-- What is given to the proxy: the results of `CallStatusCallback`, audio devices below the
    limit of the stub, and any map for a request. -/
def Given : CallbackMessage → Prop
  | onReportAsyncResults reportId resultInfo => CallStatusCallback.Reports (reportId, resultInfo)
  | onReportAudioDeviceChange info => info.audioDeviceList.length < maxLen
  | onOttCallRequest _ _ => True

end CallbackMessage

/-- The keys of the numbers that are sent with a request. -/
def OttCallRequestId.intKeys (requestId : OttCallRequestId) : List String :=
  "videoState" :: if requestId = .updateCallMediaMode then ["callMediaMode"] else []

/-- The keys of the texts that are sent with a request. -/
def OttCallRequestId.stringKeys (requestId : OttCallRequestId) : List String :=
  "phoneNumber" :: "bundleName" :: if requestId = .inviteToConference then ["number"] else []

/-- A map with the keys that are sent and no other. An invitation is sent without a number
    then, since it has no "listCnt". -/
structure HasKeys (requestId : OttCallRequestId) (info : PacMap) : Prop where
  int : ∀ key, (info.intValues key).isSome ↔ key ∈ requestId.intKeys
  boolean : ∀ key, info.booleanValues key = none
  string : ∀ key, (info.stringValues key).isSome ↔ key ∈ requestId.stringKeys
  number : requestId = .inviteToConference → info.stringValues "number" = some []

/-- What arrives as it was given. -/
def CallbackMessage.Carried : CallbackMessage → Prop
  | onReportAsyncResults reportId _ => reportId ≠ .getCallTransfer
  | onReportAudioDeviceChange info => info.audioDeviceList ≠ []
  | onOttCallRequest requestId info => HasKeys requestId info

/-! ## What the stub reads -/

@[simp] theorem CallResultReportId.ofCode_code (reportId : CallResultReportId) :
    ofCode reportId.code = some reportId := by
  cases reportId <;> decide

@[simp] theorem OttCallRequestId.ofCode_code (requestId : OttCallRequestId) :
    ofCode requestId.code = some requestId := by
  cases requestId <;> decide

/-- The results that arrive. -/
def arrivedResults (reportId : CallResultReportId) (m : PacMap) : PacMap :=
  let r := PacMap.empty.putIntValue "result" (m.getIntValue "result")
  match reportId with
  | .getCallWaiting | .getCallRestriction =>
    (r.putIntValue "status" (m.getIntValue "status")).putIntValue "classCw"
      (m.getIntValue "classCw")
  | .getCallTransfer =>
    (((((r.putIntValue "status" (m.getIntValue "status")).putIntValue "classx"
      (m.getIntValue "classx")).putStringValue "number" (m.getStringValue "number")).putIntValue
        "type" (m.getIntValue "type")).putIntValue "reason"
          (m.getIntValue "reason")).putIntValue "time" 0
  | .getCallClip =>
    (r.putIntValue "action" (m.getIntValue "action")).putIntValue "clipStat"
      (m.getIntValue "clipStat")
  | .getCallClir =>
    (r.putIntValue "action" (m.getIntValue "action")).putIntValue "clirStat"
      (m.getIntValue "clirStat")
  | .getImsConfig | .getImsFeatureValue => r.putIntValue "value" (m.getIntValue "value")
  | _ => r

/-- The request that arrives. -/
def arrivedRequest (requestId : OttCallRequestId) (m : PacMap) : PacMap :=
  let r := ((PacMap.empty.putStringValue "phoneNumber"
    (m.getStringValue "phoneNumber")).putStringValue "bundleName"
      (m.getStringValue "bundleName")).putIntValue "videoState" (m.getIntValue "videoState")
  match requestId with
  | .inviteToConference =>
    r.putStringValue "number"
      (if 0 < m.getIntValue "listCnt" then m.getStringValue "number" else [])
  | .updateCallMediaMode => r.putIntValue "callMediaMode" (m.getIntValue "callMediaMode")
  | _ => r

section Reads

variable {P : EndingMessageParcel}

open EndingMessageParcel (readsAll_int32_nil readsAll_string_nil)

/-- The time of a forwarding is read where nothing is left. -/
theorem readsAll_readResults (m : PacMap) (reportId : CallResultReportId) :
    ReadsAll (P := P.toMessageParcel)
      (readResults (PacMap.empty.putIntValue "result" (m.getIntValue "result")) (some reportId))
      (packResults m reportId) (arrivedResults reportId m) := by
  cases reportId
  case getCallWaiting | getCallRestriction | getCallClip | getCallClir =>
    refine .next (reads_int32 _) ?_
    exact .next (reads_int32 _) (.pure _)
  case getImsConfig | getImsFeatureValue => exact .next (reads_int32 _) (.pure _)
  case getCallTransfer =>
    refine .next (reads_int32 _) ?_
    refine .next (reads_int32 _) ?_
    refine .next (reads_string _) ?_
    refine .next (reads_int32 _) ?_
    refine .next (reads_int32 _) ?_
    exact .bind readsAll_int32_nil (.pure _)
  all_goals exact .pure _

theorem readsAll_onUpdateAysncResults (reportId : CallResultReportId) (m : PacMap) :
    ReadsAll (P := P.toMessageParcel) onUpdateAysncResults (packDataParcel reportId m)
      (some (.onReportAsyncResults reportId.code (arrivedResults reportId m))) := by
  refine .next (reads_int32 _) (.next (reads_int32 _) ?_)
  rw [CallResultReportId.ofCode_code]
  exact .bind (readsAll_readResults m reportId) (.pure _)

/-- The number of an invitation is read where nothing is left, if it is not sent. -/
theorem readsAll_readRequest (m : PacMap) (requestId : OttCallRequestId) :
    ReadsAll (P := P.toMessageParcel)
      (readRequest (((PacMap.empty.putStringValue "phoneNumber"
        (m.getStringValue "phoneNumber")).putStringValue "bundleName"
          (m.getStringValue "bundleName")).putIntValue "videoState"
            (m.getIntValue "videoState")) (some requestId))
      (packRequest m requestId) (arrivedRequest requestId m) := by
  cases requestId
  case inviteToConference =>
    unfold packRequest arrivedRequest
    dsimp only
    split_ifs
    · exact .next (reads_string _) (.pure _)
    · exact .bind readsAll_string_nil (.pure _)
  case updateCallMediaMode => exact .next (reads_int32 _) (.pure _)
  all_goals exact .pure _

theorem readsAll_onUpdateOttCallRequest (requestId : OttCallRequestId) (m : PacMap) :
    ReadsAll (P := P.toMessageParcel) onUpdateOttCallRequest (packOttCallRequest requestId m)
      (some (.onOttCallRequest requestId.code (arrivedRequest requestId m))) := by
  refine .next (reads_int32 _) ?_
  refine .next (reads_string _) ?_
  refine .next (reads_string _) ?_
  refine .next (reads_int32 _) ?_
  rw [OttCallRequestId.ofCode_code]
  exact .bind (readsAll_readRequest m requestId) (.pure _)

theorem reads_readAudioDevice (audioDevice : AppRequests.AudioDevice) :
    Reads (P := P.toMessageParcel) readAudioDevice [.rawData audioDevice.bytes]
      (some audioDevice) := by
  refine .next (reads_rawData audioDevice.length_eq) ?_
  dsimp only
  rw [dif_pos audioDevice.length_eq]
  exact .pure _

theorem reads_readAudioDevices (audioDeviceList : List AppRequests.AudioDevice) :
    Reads (P := P.toMessageParcel) (readAudioDevices audioDeviceList.length)
      (audioDeviceList.flatMap fun audioDevice => [.rawData audioDevice.bytes])
      (some audioDeviceList) := by
  induction audioDeviceList with
  | nil => exact .pure _
  | cons audioDevice audioDeviceList ih =>
    refine .next (reads_readAudioDevice audioDevice) ?_
    have hrest := Reads.bind ih
      (f := fun rest => Pure.pure (rest.map fun rest => audioDevice :: rest)) (.pure _)
    rw [List.append_nil] at hrest
    exact hrest

/-- A length below the limit of the stub is read as it is. -/
theorem length_accepted_iff {n : ℕ} (hlt : n < maxLen) :
    ¬ (Int32.ofNat n ≤ 0 ∨ .ofNat maxLen ≤ Int32.ofNat n) ↔ n ≠ 0 := by
  have hsmall : n < 2 ^ 31 := by unfold maxLen at hlt; omega
  have hn := Int32.toInt_ofNat_of_lt hsmall
  have hmax : (Int32.ofNat maxLen).toInt = 100000 := by decide
  have hzero : (0 : Int32).toInt = 0 := by decide
  unfold maxLen at hlt
  rw [Int32.le_iff_toInt_le, Int32.le_iff_toInt_le, hn, hmax, hzero]
  omega

/-- Audio devices are read if there are any. -/
theorem readsAll_onUpdateAudioDeviceChange {info : AudioDeviceInfo}
    (hlt : info.audioDeviceList.length < maxLen) (hne : info.audioDeviceList ≠ []) :
    ReadsAll (P := P.toMessageParcel) onUpdateAudioDeviceChange (packAudioDeviceChange info)
      (some (.onReportAudioDeviceChange info)) := by
  have hsmall : info.audioDeviceList.length < 2 ^ 31 := by unfold maxLen at hlt; omega
  have hlen : info.audioDeviceList.length ≠ 0 := mt List.length_eq_zero_iff.mp hne
  refine .next (reads_int32 _) ?_
  rw [if_neg ((length_accepted_iff hlt).mpr hlen), Int32.toNatClampNeg_ofNat_of_lt hsmall]
  refine (Reads.bind (reads_readAudioDevices info.audioDeviceList) ?_).all
  refine .next (reads_readAudioDevice _) ?_
  refine .next (reads_bool _) ?_
  refine .next (reads_int32 _) ?_
  exact .next (reads_bool _) (.pure _)

/-- The stub refuses an empty list, whatever is behind it. -/
theorem onUpdateAudioDeviceChange_nil {p : P.Parcel} {rest : List ParcelItem}
    (hp : P.contents p = .int32 0 :: rest) :
    (onUpdateAudioDeviceChange (P := P.toFullMessageParcel) p).1 = none := by
  obtain ⟨hv, -⟩ := reads_int32 (P := P.toMessageParcel) 0 p rest hp
  show ((if (int32 p).1 ≤ 0 ∨ Int32.ofNat maxLen ≤ (int32 p).1 then _ else _ :
    Reader P.toMessageParcel (Option HandedOver)) (int32 p).2).1 = none
  rw [hv, if_pos (.inl (by decide))]
  rfl

/-- Behind its descriptor a parcel is read by the function of its code. -/
theorem onRemoteRequest_eq (code : InterfaceCode) {p : P.Parcel} {items : List ParcelItem}
    (hp : P.contents p = .interfaceToken descriptor :: items) :
    ∃ q, P.contents q = items ∧
      onRemoteRequest (P := P.toFullMessageParcel) code p = memberFunc code q := by
  obtain ⟨hv, hc⟩ := reads_interfaceToken (P := P.toMessageParcel) descriptor p items hp
  refine ⟨(interfaceToken p).2, hc, ?_⟩
  show (if descriptor ≠ (interfaceToken p).1 then _ else memberFunc code :
    Reader P.toMessageParcel (Option HandedOver)) (interfaceToken p).2 = _
  rw [hv, if_neg (not_not.mpr rfl)]

end Reads

/-! ## Round trips -/

section RoundTrips

variable (P : EndingMessageParcel)

/-- The stub reads what was written after the descriptor. -/
theorem roundTrips_iff_memberFunc (m : CallbackMessage) :
    ∃ q, P.contents q = m.written ∧ (m.RoundTrips P ↔
      (memberFunc (P := P.toFullMessageParcel) m.code q).1 = some m.handedOver) := by
  have hsent : P.contents (P.writeAll P.empty (.interfaceToken descriptor :: m.written)) =
      .interfaceToken descriptor :: m.written := by
    rw [contents_writeAll, P.contents_empty, List.nil_append]
  obtain ⟨q, hq, hrun⟩ := onRemoteRequest_eq m.code hsent
  refine ⟨q, hq, ?_⟩
  unfold CallbackMessage.RoundTrips
  rw [hrun]

theorem asyncResults_roundTrips_iff (reportId : CallResultReportId) (m : PacMap) :
    (CallbackMessage.onReportAsyncResults reportId m).RoundTrips P ↔
      arrivedResults reportId m = m := by
  obtain ⟨q, hq, hiff⟩ := roundTrips_iff_memberFunc P (.onReportAsyncResults reportId m)
  have hread := (readsAll_onUpdateAysncResults reportId m q hq).1
  rw [hiff]
  unfold memberFunc CallbackMessage.code CallbackMessage.handedOver
  rw [hread]
  simp

theorem ottCallRequest_roundTrips_iff (requestId : OttCallRequestId) (m : PacMap) :
    (CallbackMessage.onOttCallRequest requestId m).RoundTrips P ↔
      arrivedRequest requestId m = m := by
  obtain ⟨q, hq, hiff⟩ := roundTrips_iff_memberFunc P (.onOttCallRequest requestId m)
  have hread := (readsAll_onUpdateOttCallRequest requestId m q hq).1
  rw [hiff]
  unfold memberFunc CallbackMessage.code CallbackMessage.handedOver
  rw [hread]
  simp

theorem audioDevices_roundTrips_iff {info : AudioDeviceInfo}
    (hlt : info.audioDeviceList.length < maxLen) :
    (CallbackMessage.onReportAudioDeviceChange info).RoundTrips P ↔ info.audioDeviceList ≠ [] := by
  obtain ⟨q, hq, hiff⟩ := roundTrips_iff_memberFunc P (.onReportAudioDeviceChange info)
  rw [hiff]
  by_cases hnil : info.audioDeviceList = []
  · have hlen : CallbackMessage.written (.onReportAudioDeviceChange info) =
        .int32 0 :: (packAudioDeviceChange info).tail := by
      simp [CallbackMessage.written, packAudioDeviceChange, hnil]
    have hread := onUpdateAudioDeviceChange_nil (hq.trans hlen)
    refine iff_of_false ?_ fun h => h hnil
    unfold memberFunc CallbackMessage.code
    rw [hread]
    simp
  · exact iff_of_true (readsAll_onUpdateAudioDeviceChange hlt hnil q hq).1 hnil

end RoundTrips

/-! ## Maps -/

section Maps

variable (m : PacMap) (key : String)

@[simp] theorem getIntValue_putIntValue_self (value : Int32) :
    (m.putIntValue key value).getIntValue key = value := by
  simp [PacMap.putIntValue, PacMap.getIntValue]

@[simp] theorem getIntValue_putIntValue_of_ne {key key' : String} (h : key ≠ key')
    (value : Int32) : (m.putIntValue key value).getIntValue key' = m.getIntValue key' := by
  simp [PacMap.putIntValue, PacMap.getIntValue, Function.update_of_ne h.symm]

end Maps

/-- Every result of `CallStatusCallback` arrives, but for the answer to a query of call
    forwarding. -/
theorem CallStatusCallback.Reports.arrived_iff {reportId : CallResultReportId} {m : PacMap}
    (h : Reports (reportId, m)) : arrivedResults reportId m = m ↔ reportId ≠ .getCallTransfer := by
  cases h
  case updateGetTransferResult response =>
    refine iff_of_false (fun heq => ?_) (by simp)
    have hhour := congrArg (fun m => m.intValues "startHour") heq
    simp [arrivedResults, PacMap.putIntValue, PacMap.putStringValue, PacMap.empty] at hhour
  all_goals exact iff_of_true (by simp [arrivedResults]) (by decide)

theorem arrivedRequest_intValues (requestId : OttCallRequestId) (m : PacMap) (key : String) :
    (arrivedRequest requestId m).intValues key =
      if key ∈ requestId.intKeys then some (m.getIntValue key) else none := by
  cases requestId <;>
    simp only [arrivedRequest, PacMap.putIntValue, PacMap.putStringValue, PacMap.empty,
      OttCallRequestId.intKeys, Function.update_apply] <;>
    grind

/-- The text that arrives for a key: no number of an invitation without "listCnt". -/
def arrivedText (requestId : OttCallRequestId) (m : PacMap) (key : String) : ByteString :=
  if requestId = .inviteToConference ∧ key = "number" ∧ ¬ 0 < m.getIntValue "listCnt" then []
  else m.getStringValue key

theorem arrivedRequest_stringValues (requestId : OttCallRequestId) (m : PacMap) (key : String) :
    (arrivedRequest requestId m).stringValues key =
      if key ∈ requestId.stringKeys then some (arrivedText requestId m key) else none := by
  cases requestId <;>
    simp only [arrivedRequest, PacMap.putIntValue, PacMap.putStringValue, PacMap.empty,
      OttCallRequestId.stringKeys, arrivedText, Function.update_apply] <;>
    grind

theorem arrivedRequest_booleanValues (requestId : OttCallRequestId) (m : PacMap) (key : String) :
    (arrivedRequest requestId m).booleanValues key = none := by
  cases requestId <;> rfl

theorem isSome_ite {α : Type} {p : Prop} [Decidable p] (a : α) :
    (if p then some a else none).isSome ↔ p := by
  by_cases h : p <;> simp [h]

/-- A value that is there is what `Get…Value` returns. -/
theorem some_getD_of_isSome {α : Type} {o : Option α} (h : o.isSome) (d : α) :
    some (o.getD d) = o := by
  obtain ⟨a, rfl⟩ := Option.isSome_iff_exists.mp h
  rfl

/-- A request arrives as it was iff its map has the keys that are sent. -/
theorem arrivedRequest_iff (requestId : OttCallRequestId) (m : PacMap) :
    arrivedRequest requestId m = m ↔ HasKeys requestId m := by
  have hint := arrivedRequest_intValues requestId m
  have hstring := arrivedRequest_stringValues requestId m
  have hboolean := arrivedRequest_booleanValues requestId m
  constructor
  · intro heq
    rw [heq] at hint hstring hboolean
    have hkeys : ∀ key, (m.intValues key).isSome ↔ key ∈ requestId.intKeys := by
      intro key
      rw [hint key, isSome_ite]
    refine ⟨hkeys, hboolean, ?_, ?_⟩
    · intro key
      rw [hstring key, isSome_ite]
    · rintro rfl
      have hcnt : m.intValues "listCnt" = none := by
        rw [hint, if_neg (by decide)]
      have hzero : ¬ 0 < m.getIntValue "listCnt" := by
        unfold PacMap.getIntValue
        rw [hcnt]
        decide
      rw [hstring, if_pos (by decide), arrivedText, if_pos ⟨rfl, rfl, hzero⟩]
  · intro h
    have hi : (arrivedRequest requestId m).intValues = m.intValues := by
      funext key
      rw [hint]
      by_cases hmem : key ∈ requestId.intKeys
      · rw [if_pos hmem]
        exact some_getD_of_isSome ((h.int key).mpr hmem) 0
      · rw [if_neg hmem, Option.not_isSome_iff_eq_none.mp (mt (h.int key).mp hmem)]
    have hb : (arrivedRequest requestId m).booleanValues = m.booleanValues := by
      funext key
      rw [hboolean, h.boolean]
    have hs : (arrivedRequest requestId m).stringValues = m.stringValues := by
      funext key
      rw [hstring]
      by_cases hmem : key ∈ requestId.stringKeys
      · rw [if_pos hmem, arrivedText]
        split_ifs with hnumber
        · rw [hnumber.2.1, h.number hnumber.1]
        · exact some_getD_of_isSome ((h.string key).mpr hmem) []
      · rw [if_neg hmem, Option.not_isSome_iff_eq_none.mp (mt (h.string key).mp hmem)]
    cases hm : arrivedRequest requestId m
    rw [hm] at hi hb hs
    cases m
    congr

/-! ## Main results -/

/-- **Callback codecs.** What is given to the proxy is handed over by the stub iff it is no
    answer to a query of call forwarding, or a list of audio devices that is not empty, or a
    request with the keys that are sent. -/
theorem roundTrips_iff (P : EndingMessageParcel) (m : CallbackMessage) (h : m.Given) :
    m.RoundTrips P ↔ m.Carried := by
  cases m with
  | onReportAsyncResults reportId resultInfo =>
    rw [asyncResults_roundTrips_iff]
    exact CallStatusCallback.Reports.arrived_iff h
  | onReportAudioDeviceChange info => exact audioDevices_roundTrips_iff P h
  | onOttCallRequest requestId info =>
    rw [ottCallRequest_roundTrips_iff]
    exact arrivedRequest_iff requestId info

/-- The answer to a query of call waiting is handed over. -/
theorem waiting_handedOver :
    (CallbackMessage.onReportAsyncResults
      (CallStatusCallback.updateGetWaitingResult ⟨0, 1, 1⟩).1
      (CallStatusCallback.updateGetWaitingResult ⟨0, 1, 1⟩).2).RoundTrips .queue :=
  (roundTrips_iff .queue (.onReportAsyncResults .getCallWaiting _)
    (.updateGetWaitingResult ⟨0, 1, 1⟩)).mpr
    (show CallResultReportId.getCallWaiting ≠ .getCallTransfer by decide)

/-- A forwarding to "1" after 20 seconds without an answer. -/
def noReplyTransfer : CallTransferResponse where
  result := 0
  status := 1
  classx := 1
  type := 129
  number := [0x31]
  reason := 2
  time := 20
  startHour := -1
  startMinute := -1
  endHour := -1
  endMinute := -1

/-- The 20 seconds of a forwarding are not sent, and read as zero. -/
theorem no_reply_timer_lost :
    ¬ ∀ (P : EndingMessageParcel) (m : CallbackMessage), m.Given → m.RoundTrips P := by
  intro h
  have hround := h .queue (.onReportAsyncResults .getCallTransfer
    (CallStatusCallback.updateGetTransferResult noReplyTransfer).2)
    (.updateGetTransferResult noReplyTransfer)
  rw [asyncResults_roundTrips_iff] at hround
  have htime := congrArg (fun m => m.intValues "time") hround
  revert htime
  decide

/-- The key under which `OTTCallConnection` puts the number is not sent. -/
theorem arrivedRequest_ne_of_phoneNum {requestId : OttCallRequestId} {m : PacMap}
    {number : ByteString} (h : m.stringValues "phoneNum" = some number) :
    arrivedRequest requestId m ≠ m := by
  intro heq
  have hkey := ((arrivedRequest_iff requestId m).mp heq).string "phoneNum"
  have hmem : "phoneNum" ∈ requestId.stringKeys := hkey.mp (by rw [h]; rfl)
  revert hmem
  cases requestId <;> decide

theorem OTTCallConnection.packCellularCallInfo_phoneNum (requestInfo : OttCallRequestInfo) :
    (packCellularCallInfo requestInfo).stringValues "phoneNum" = some requestInfo.phoneNum := by
  simp [packCellularCallInfo, PacMap.putStringValue, PacMap.putIntValue]

theorem foldl_number_phoneNum (numberList : List ByteString) (m : PacMap) :
    (numberList.foldl (fun info number =>
      if number ≠ [] then info.putStringValue "number" number else info) m).stringValues
        "phoneNum" = m.stringValues "phoneNum" := by
  induction numberList generalizing m with
  | nil => rfl
  | cons number numberList ih =>
    rw [List.foldl_cons, ih]
    split_ifs
    · simp [PacMap.putStringValue]
    · rfl

/-- The numbers of an invitation leave the number of the call. -/
theorem OTTCallConnection.inviteToConference_phoneNum {requestInfo : OttCallRequestInfo}
    {numberList : List ByteString} {info : PacMap}
    (h : inviteToConference requestInfo numberList = some info) :
    info.stringValues "phoneNum" = some requestInfo.phoneNum := by
  unfold inviteToConference at h
  split_ifs at h
  rw [Option.some.injEq] at h
  rw [← h, foldl_number_phoneNum]
  exact packCellularCallInfo_phoneNum requestInfo

/-- Of the requests that are made only that to dial is handed over: the others have the
    number under the key "phoneNum", and it is not sent. -/
theorem ottRequest_roundTrips_iff (P : EndingMessageParcel) {requestId : OttCallRequestId}
    {info : PacMap} (h : OttRequests requestId info) :
    (CallbackMessage.onOttCallRequest requestId info).RoundTrips P ↔ requestId = .dial := by
  rw [ottCallRequest_roundTrips_iff]
  cases h with
  | dial number bundleName videoState =>
    exact iff_of_true (by simp [arrivedRequest, ottDialProcess, PacMap.getStringValue,
      PacMap.getIntValue, PacMap.putStringValue, PacMap.putIntValue]) rfl
  | call hcall requestInfo =>
    refine iff_of_false (arrivedRequest_ne_of_phoneNum
      (OTTCallConnection.packCellularCallInfo_phoneNum requestInfo)) ?_
    rintro rfl
    exact absurd hcall (by decide)
  | invite hinvite =>
    exact iff_of_false (arrivedRequest_ne_of_phoneNum
      (OTTCallConnection.inviteToConference_phoneNum hinvite)) (by decide)
  | updateMode requestInfo mode =>
    exact iff_of_false (arrivedRequest_ne_of_phoneNum
      (OTTCallConnection.packCellularCallInfo_phoneNum requestInfo)) (by decide)

end CallManager.CallbackCodec
