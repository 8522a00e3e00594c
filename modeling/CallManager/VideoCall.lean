import CallManager.Types
import CallManager.Library.Run
import Mathlib.Logic.Function.Basic

/-!
# Video negotiation of an IMS call

An `IMSCall` holds five `VideoCallState` objects, one for each mode, and a
pointer to the installed one. Each object keeps an update status of its own:
whether a request of this side waits for the network, or one of the other side
for the application. A negotiation that ends switches to the object of the new
mode and clears the status of the old one; a modem report with another
`callMode` switches too, and clears nothing.

Specification: only the installed object has a status other than
`STATUS_NONE`, and a request that arrives while no negotiation is outstanding
is not refused for the sake of an older one. Whether a negotiation is
outstanding is kept beside the call, by `outstandingAfter`: from the step that
records the request to the answer, or to the switch that overtakes it.

Results:
* `negotiationOk_iff`: a run meets the specification iff each of its steps
  meets the condition `OpOk`.
* `voice_modify_to_video_outstanding`: in such a run `IsVoiceModifyToVideo`
  holds only while a request of this side is outstanding.
* `refresh_leaves_request`: a report during an upgrade leaves the request
  behind, and a later upgrade is dropped for it.
-/

namespace CallManager

/-! ## Model -/

/-- The values of `VideoUpdateStatus` that are ever set (video_call_state.h:29-35). -/
inductive VideoUpdateStatus
  | none | sendRequest | recvRequest
  deriving DecidableEq, Repr

/-- The subclasses of `VideoCallState`; `videoStateMap_` has one object of each. -/
inductive VideoState
  | audioOnly | send | receive | sendReceive | pause
  deriving DecidableEq, Repr

/-- `videoStateMap_.find(mode)`. -/
def ImsCallMode.videoState : ImsCallMode → Option VideoState
  | .audioOnly => some .audioOnly
  | .sendOnly => some .send
  | .receiveOnly => some .receive
  | .sendReceive => some .sendReceive
  | .videoPaused => some .pause
  | .other _ => none

/-- The mode whose object `AssignVideoCallState` installs (ims_call.cpp:81-100). -/
def VideoStateType.videoState : VideoStateType → VideoState
  | .voice => .audioOnly
  | .sendOnly => .send
  | .receiveOnly => .receive
  | .video => .sendReceive

/-- The fields of `IMSCall` that the negotiation uses. `updateStatus` is the
    `updateStatus_` of each object of `videoStateMap_`. -/
structure IMSCall where
  callId : ℤ
  callState : TelCallState
  videoStateType : VideoStateType
  isInitialized : Bool
  videoCallState : Option VideoState
  updateStatus : VideoState → VideoUpdateStatus

/-- `CallModeReportInfo`, as far as the call reads it. -/
structure CallModeReportInfo where
  result : VideoRequestResultType
  callMode : ImsCallMode
  deriving DecidableEq, Repr

/-- `CallMediaModeInfo`, as the call fills it. -/
structure CallMediaModeInfo where
  callId : ℤ
  isRequestInfo : Bool
  result : VideoRequestResultType
  callMode : ImsCallMode
  deriving DecidableEq, Repr

/-- What an object hands to its call: a request or a response for the network
    or a report for the applications. -/
inductive Dispatch
  | updateRequest (mode : ImsCallMode)
  | updateResponse (mode : ImsCallMode)
  | reportVideoCallInfo (info : CallMediaModeInfo)
  deriving DecidableEq, Repr

/-- The codes the network and the report proxy return. -/
structure Network where
  request : ErrorCode
  response : ErrorCode
  report : ErrorCode
  deriving DecidableEq, Repr

/-- What a function returns, what it dispatches, and the call after it. -/
structure VideoOutcome where
  ret : ErrorCode
  sent : List Dispatch
  call : IMSCall

namespace IMSCall

/-- The constructor, for a call in state `callState` with the mode `videoStateType`
    (ims_call.cpp:29-33). -/
def create (callId : ℤ) (callState : TelCallState) (videoStateType : VideoStateType) : IMSCall where
  callId := callId
  callState := callState
  videoStateType := videoStateType
  isInitialized := false
  videoCallState := none
  updateStatus := fun _ => .none

/-- `SetVideoUpdateStatus` of the object `v` (video_call_state.cpp:40-44). -/
def setVideoUpdateStatus (c : IMSCall) (v : VideoState) (status : VideoUpdateStatus) : IMSCall :=
  { c with updateStatus := Function.update c.updateStatus v status }

/-- `IMSCall::SwitchVideoState` (ims_call.cpp:448-458). `VideoCallState::SwitchCallVideoState`
    adds a null check of the call, which is alive while it runs. -/
def switchVideoState (c : IMSCall) (mode : ImsCallMode) : IMSCall :=
  { c with videoCallState := some (mode.videoState.getD .audioOnly) }

/-- `IMSCall::IsSupportVideoCall` (ims_call.cpp:460-471; without `ABILITY_CONFIG_SUPPORT`). -/
def isSupportVideoCall (c : IMSCall) : Bool := c.callState ≠ .incoming

@[simp] theorem setVideoUpdateStatus_updateStatus (c : IMSCall) (v : VideoState)
    (status : VideoUpdateStatus) :
    (c.setVideoUpdateStatus v status).updateStatus = Function.update c.updateStatus v status := rfl

@[simp] theorem setVideoUpdateStatus_videoCallState (c : IMSCall) (v : VideoState)
    (status : VideoUpdateStatus) :
    (c.setVideoUpdateStatus v status).videoCallState = c.videoCallState := rfl

@[simp] theorem switchVideoState_updateStatus (c : IMSCall) (mode : ImsCallMode) :
    (c.switchVideoState mode).updateStatus = c.updateStatus := rfl

@[simp] theorem switchVideoState_videoCallState (c : IMSCall) (mode : ImsCallMode) :
    (c.switchVideoState mode).videoCallState = some (mode.videoState.getD .audioOnly) := rfl

/-! ### The objects' functions -/

/-- A request for `mode` that takes effect as soon as it is sent: the same
    lines in four of the objects. -/
def requestAndSwitch (v : VideoState) (net : Network) (c : IMSCall) (mode : ImsCallMode) :
    VideoOutcome :=
  if net.request ≠ .telephonySuccess then ⟨net.request, [.updateRequest mode], c⟩
  else
    ⟨.telephonySuccess, [.updateRequest mode],
      (c.switchVideoState mode).setVideoUpdateStatus v .none⟩

/-- `AudioOnlyState::SendUpdateCallMediaModeRequest` (video_call_state.cpp:107-142). -/
def AudioOnlyState.sendUpdateCallMediaModeRequest (net : Network) (c : IMSCall)
    (mode : ImsCallMode) : VideoOutcome :=
  match mode with
  | .sendOnly | .receiveOnly => ⟨.telephonySuccess, [], c⟩
  | .audioOnly | .videoPaused => ⟨.callErrVideoIlleagalScenario, [], c⟩
  | .sendReceive =>
    if ¬ c.isSupportVideoCall then ⟨.callErrVideoNotSupported, [], c⟩
    else if c.updateStatus .audioOnly ≠ .none then ⟨.callErrVideoInProgress, [], c⟩
    else if net.request ≠ .telephonySuccess then ⟨net.request, [.updateRequest mode], c⟩
    else
      ⟨.telephonySuccess, [.updateRequest mode], c.setVideoUpdateStatus .audioOnly .sendRequest⟩
  | .other _ => ⟨.callErrVideoIllegalMediaType, [], c⟩

/-- `AudioOnlyState::RecieveUpdateCallMediaModeRequest` (video_call_state.cpp:144-188). -/
def AudioOnlyState.recieveUpdateCallMediaModeRequest (_net : Network) (c : IMSCall)
    (info : CallMediaModeInfo) : VideoOutcome :=
  match info.callMode with
  | .audioOnly | .videoPaused => ⟨.callErrVideoIlleagalScenario, [], c⟩
  | .receiveOnly =>
    if c.updateStatus .audioOnly ≠ .none then ⟨.callErrVideoInProgress, [], c⟩
    else
      ⟨.telephonySuccess, [.reportVideoCallInfo info],
        c.setVideoUpdateStatus .audioOnly .recvRequest⟩
  | .sendOnly => ⟨.telephonySuccess, [], c⟩
  | .sendReceive =>
    if ¬ c.isSupportVideoCall then
      ⟨.callErrVideoIlleagalScenario, [.updateResponse .audioOnly], c⟩
    else if c.updateStatus .audioOnly ≠ .none then ⟨.callErrVideoInProgress, [], c⟩
    else
      ⟨.telephonySuccess, [.reportVideoCallInfo info],
        c.setVideoUpdateStatus .audioOnly .recvRequest⟩
  | .other _ => ⟨.callErrVideoIllegalMediaType, [], c⟩

/-- `AudioOnlyState::SendUpdateCallMediaModeResponse` (video_call_state.cpp:190-239). -/
def AudioOnlyState.sendUpdateCallMediaModeResponse (_net : Network) (c : IMSCall)
    (mode : ImsCallMode) : VideoOutcome :=
  match mode with
  | .audioOnly =>
    if ¬ c.isSupportVideoCall then
      ⟨.callErrVideoIlleagalScenario, [.updateResponse .audioOnly], c⟩
    else if c.updateStatus .audioOnly ≠ .recvRequest then ⟨.callErrVideoInProgress, [], c⟩
    else
      ⟨.telephonySuccess, [.updateResponse .audioOnly], c.setVideoUpdateStatus .audioOnly .none⟩
  | .videoPaused => ⟨.callErrVideoIlleagalScenario, [], c⟩
  | .sendOnly => ⟨.telephonySuccess, [], c⟩
  | .receiveOnly | .sendReceive =>
    if ¬ c.isSupportVideoCall then
      ⟨.callErrVideoIlleagalScenario, [.updateResponse .audioOnly], c⟩
    else if c.updateStatus .audioOnly ≠ .recvRequest then ⟨.callErrVideoInProgress, [], c⟩
    else
      ⟨.telephonySuccess, [.updateResponse .sendReceive],
        (c.switchVideoState .sendReceive).setVideoUpdateStatus .audioOnly .none⟩
  | .other _ => ⟨.callErrVideoIllegalMediaType, [], c⟩

/-- `AudioOnlyState::ReceiveUpdateCallMediaModeResponse` (video_call_state.cpp:241-276). -/
def AudioOnlyState.receiveUpdateCallMediaModeResponse (_net : Network) (c : IMSCall)
    (info : CallMediaModeInfo) : VideoOutcome :=
  match info.callMode with
  | .sendReceive =>
    if c.updateStatus .audioOnly ≠ .sendRequest then ⟨.callErrVideoIlleagalScenario, [], c⟩
    else
      ⟨.telephonySuccess, [.reportVideoCallInfo info],
        (c.switchVideoState .sendReceive).setVideoUpdateStatus .audioOnly .none⟩
  | .audioOnly =>
    ⟨.telephonySuccess, [.reportVideoCallInfo info], c.setVideoUpdateStatus .audioOnly .none⟩
  | .receiveOnly =>
    if c.updateStatus .audioOnly ≠ .recvRequest then ⟨.callErrVideoIlleagalScenario, [], c⟩
    else
      ⟨.telephonySuccess, [.reportVideoCallInfo info],
        (c.switchVideoState .receiveOnly).setVideoUpdateStatus .audioOnly .none⟩
  | .sendOnly | .videoPaused | .other _ => ⟨.telephonySuccess, [], c⟩

/-- `VideoSendState::SendUpdateCallMediaModeRequest` (video_call_state.cpp:280-311). -/
def VideoSendState.sendUpdateCallMediaModeRequest (net : Network) (c : IMSCall)
    (mode : ImsCallMode) : VideoOutcome :=
  match mode with
  | .audioOnly | .videoPaused => requestAndSwitch .send net c mode
  | .receiveOnly | .sendOnly | .sendReceive => ⟨.callErrVideoInProgress, [], c⟩
  | .other _ => ⟨.callErrVideoIllegalMediaType, [], c⟩

/-- `VideoSendState::RecieveUpdateCallMediaModeRequest` (video_call_state.cpp:313-346). -/
def VideoSendState.recieveUpdateCallMediaModeRequest (_net : Network) (c : IMSCall)
    (info : CallMediaModeInfo) : VideoOutcome :=
  match info.callMode with
  | .audioOnly | .videoPaused =>
    ⟨.telephonySuccess, [], (c.switchVideoState info.callMode).setVideoUpdateStatus .send .none⟩
  | .receiveOnly => ⟨.callErrVideoIlleagalScenario, [], c⟩
  | .sendOnly | .sendReceive =>
    ⟨if c.updateStatus .send ≠ .none then .callErrVideoInProgress else .telephonySuccess, [], c⟩
  | .other _ => ⟨.callErrVideoIllegalMediaType, [], c⟩

/-- `VideoSendState::SendUpdateCallMediaModeResponse` (video_call_state.cpp:348-352). -/
def VideoSendState.sendUpdateCallMediaModeResponse (_net : Network) (c : IMSCall)
    (_mode : ImsCallMode) : VideoOutcome :=
  ⟨.telephonySuccess, [], c⟩

/-- `VideoSendState::ReceiveUpdateCallMediaModeResponse` (video_call_state.cpp:354-403). It
    clears the status of `AudioOnlyState` after an upgrade. -/
def VideoSendState.receiveUpdateCallMediaModeResponse (net : Network) (c : IMSCall)
    (info : CallMediaModeInfo) : VideoOutcome :=
  match info.callMode with
  | .audioOnly | .videoPaused =>
    ⟨.telephonySuccess, [], (c.switchVideoState info.callMode).setVideoUpdateStatus .send .none⟩
  | .sendOnly | .receiveOnly =>
    ⟨if c.updateStatus .send ≠ .none then .callErrVideoInProgress else .telephonySuccess, [], c⟩
  | .sendReceive =>
    if net.response ≠ .telephonySuccess then ⟨net.response, [.updateResponse .sendReceive], c⟩
    else
      ⟨.telephonySuccess, [.updateResponse .sendReceive],
        (c.switchVideoState info.callMode).setVideoUpdateStatus .audioOnly .none⟩
  | .other _ => ⟨.callErrVideoIllegalMediaType, [], c⟩

/-- `VideoReceiveState::SendUpdateCallMediaModeRequest` (video_call_state.cpp:407-441). -/
def VideoReceiveState.sendUpdateCallMediaModeRequest (net : Network) (c : IMSCall)
    (mode : ImsCallMode) : VideoOutcome :=
  match mode with
  | .audioOnly | .videoPaused => requestAndSwitch .receive net c mode
  | .sendOnly | .receiveOnly | .sendReceive =>
    ⟨if c.updateStatus .receive ≠ .none then .callErrVideoInProgress else .telephonySuccess, [], c⟩
  | .other _ => ⟨.callErrVideoIllegalMediaType, [], c⟩

/-- `VideoReceiveState::RecieveUpdateCallMediaModeRequest` (video_call_state.cpp:443-476). A
    request during a negotiation is reported all the same. -/
def VideoReceiveState.recieveUpdateCallMediaModeRequest (_net : Network) (c : IMSCall)
    (info : CallMediaModeInfo) : VideoOutcome :=
  match info.callMode with
  | .audioOnly | .videoPaused =>
    ⟨.telephonySuccess, [.reportVideoCallInfo info],
      (c.switchVideoState info.callMode).setVideoUpdateStatus .receive .none⟩
  | .sendOnly => ⟨.telephonySuccess, [], c⟩
  | .receiveOnly | .sendReceive =>
    ⟨if c.updateStatus .receive ≠ .none then .callErrVideoInProgress else .telephonySuccess,
      [.reportVideoCallInfo info], c.setVideoUpdateStatus .receive .recvRequest⟩
  | .other _ => ⟨.callErrVideoIllegalMediaType, [], c⟩

/-- `VideoReceiveState::SendUpdateCallMediaModeResponse` (video_call_state.cpp:478-520). -/
def VideoReceiveState.sendUpdateCallMediaModeResponse (_net : Network) (c : IMSCall)
    (mode : ImsCallMode) : VideoOutcome :=
  match mode with
  | .audioOnly | .videoPaused =>
    ⟨.telephonySuccess, [], (c.switchVideoState mode).setVideoUpdateStatus .receive .none⟩
  | .sendOnly => ⟨.telephonySuccess, [], c⟩
  | .receiveOnly =>
    if c.updateStatus .receive ≠ .recvRequest then ⟨.callErrVideoIlleagalScenario, [], c⟩
    else
      ⟨.telephonySuccess, [.updateResponse .receiveOnly], c.setVideoUpdateStatus .receive .none⟩
  | .sendReceive =>
    if c.updateStatus .receive ≠ .recvRequest then ⟨.callErrVideoIlleagalScenario, [], c⟩
    else
      ⟨.telephonySuccess, [.updateResponse .sendReceive],
        (c.setVideoUpdateStatus .receive .none).switchVideoState mode⟩
  | .other _ => ⟨.callErrVideoIllegalMediaType, [], c⟩

/-- `VideoReceiveState::ReceiveUpdateCallMediaModeResponse` (video_call_state.cpp:522-552). -/
def VideoReceiveState.receiveUpdateCallMediaModeResponse (_net : Network) (c : IMSCall)
    (info : CallMediaModeInfo) : VideoOutcome :=
  match info.callMode with
  | .audioOnly | .sendReceive | .videoPaused =>
    ⟨.telephonySuccess, [.reportVideoCallInfo info],
      (c.switchVideoState info.callMode).setVideoUpdateStatus .receive .none⟩
  | .sendOnly => ⟨.telephonySuccess, [], c⟩
  | .receiveOnly =>
    ⟨.telephonySuccess, [.reportVideoCallInfo info],
      if c.updateStatus .receive ≠ .none then c.setVideoUpdateStatus .receive .none else c⟩
  | .other _ => ⟨.callErrVideoIllegalMediaType, [], c⟩

/-- `VideoSendReceiveState::SendUpdateCallMediaModeRequest` (video_call_state.cpp:556-592). -/
def VideoSendReceiveState.sendUpdateCallMediaModeRequest (net : Network) (c : IMSCall)
    (mode : ImsCallMode) : VideoOutcome :=
  match mode with
  | .audioOnly | .videoPaused => requestAndSwitch .sendReceive net c mode
  | .sendOnly | .receiveOnly => ⟨net.request, [.updateRequest mode], c⟩
  | .sendReceive => ⟨.callErrVideoIlleagalScenario, [], c⟩
  | .other _ => ⟨.callErrVideoIllegalMediaType, [], c⟩

/-- `VideoSendReceiveState::RecieveUpdateCallMediaModeRequest` (video_call_state.cpp:594-635). -/
def VideoSendReceiveState.recieveUpdateCallMediaModeRequest (_net : Network) (c : IMSCall)
    (info : CallMediaModeInfo) : VideoOutcome :=
  match info.callMode with
  | .audioOnly =>
    let status := c.updateStatus .sendReceive
    let c := c.switchVideoState info.callMode
    ⟨.telephonySuccess, [.reportVideoCallInfo info],
      if status ≠ .none then c.setVideoUpdateStatus .sendReceive .none else c⟩
  | .videoPaused | .sendOnly => ⟨.telephonySuccess, [], c⟩
  | .receiveOnly =>
    if c.updateStatus .sendReceive ≠ .none then ⟨.callErrVideoInProgress, [], c⟩
    else
      ⟨.telephonySuccess, [.reportVideoCallInfo info],
        c.setVideoUpdateStatus .sendReceive .recvRequest⟩
  | .sendReceive =>
    ⟨.telephonySuccess, [.reportVideoCallInfo info],
      c.setVideoUpdateStatus .sendReceive .recvRequest⟩
  | .other _ => ⟨.callErrVideoIllegalMediaType, [], c⟩

/-- `VideoSendReceiveState::SendUpdateCallMediaModeResponse` (video_call_state.cpp:637-641). -/
def VideoSendReceiveState.sendUpdateCallMediaModeResponse (_net : Network) (c : IMSCall)
    (_mode : ImsCallMode) : VideoOutcome :=
  ⟨.telephonySuccess, [], c⟩

/-- `VideoSendReceiveState::ReceiveUpdateCallMediaModeResponse` (video_call_state.cpp:643-676). -/
def VideoSendReceiveState.receiveUpdateCallMediaModeResponse (net : Network) (c : IMSCall)
    (info : CallMediaModeInfo) : VideoOutcome :=
  match info.callMode with
  | .receiveOnly =>
    if c.updateStatus .sendReceive ≠ .recvRequest then ⟨.callErrVideoIlleagalScenario, [], c⟩
    else
      ⟨.telephonySuccess, [.reportVideoCallInfo info],
        (c.switchVideoState info.callMode).setVideoUpdateStatus .sendReceive .none⟩
  | .sendReceive =>
    if c.updateStatus .sendReceive ≠ .recvRequest then ⟨.callErrVideoIlleagalScenario, [], c⟩
    else ⟨net.report, [.reportVideoCallInfo info], c.setVideoUpdateStatus .sendReceive .none⟩
  | .audioOnly | .sendOnly | .videoPaused | .other _ => ⟨.callErrVideoIllegalMediaType, [], c⟩

/-- `VideoPauseState::SendUpdateCallMediaModeRequest` (video_call_state.cpp:680-714). -/
def VideoPauseState.sendUpdateCallMediaModeRequest (net : Network) (c : IMSCall)
    (mode : ImsCallMode) : VideoOutcome :=
  match mode with
  | .audioOnly | .sendReceive => requestAndSwitch .pause net c mode
  | .sendOnly | .receiveOnly => ⟨net.request, [.updateRequest mode], c⟩
  | .videoPaused => ⟨.callErrVideoIlleagalScenario, [], c⟩
  | .other _ => ⟨.callErrVideoIllegalMediaType, [], c⟩

/-- `VideoPauseState::RecieveUpdateCallMediaModeRequest` (video_call_state.cpp:716-745). -/
def VideoPauseState.recieveUpdateCallMediaModeRequest (_net : Network) (c : IMSCall)
    (info : CallMediaModeInfo) : VideoOutcome :=
  match info.callMode with
  | .audioOnly | .sendReceive =>
    ⟨.telephonySuccess, [.reportVideoCallInfo info],
      (c.switchVideoState info.callMode).setVideoUpdateStatus .pause .none⟩
  | .sendOnly | .receiveOnly => ⟨.telephonySuccess, [], c⟩
  | .videoPaused => ⟨.callErrVideoIlleagalScenario, [], c⟩
  | .other _ => ⟨.callErrVideoIllegalMediaType, [], c⟩

/-- `VideoPauseState::SendUpdateCallMediaModeResponse` (video_call_state.cpp:747-751). -/
def VideoPauseState.sendUpdateCallMediaModeResponse (_net : Network) (c : IMSCall)
    (_mode : ImsCallMode) : VideoOutcome :=
  ⟨.telephonySuccess, [], c⟩

/-- `VideoPauseState::ReceiveUpdateCallMediaModeResponse` (video_call_state.cpp:753-757). -/
def VideoPauseState.receiveUpdateCallMediaModeResponse (_net : Network) (c : IMSCall)
    (_info : CallMediaModeInfo) : VideoOutcome :=
  ⟨.telephonySuccess, [], c⟩

/-! ### The virtual calls -/

/-- The call of `SendUpdateCallMediaModeRequest` on the object `v`. -/
def VideoState.sendUpdateCallMediaModeRequest (v : VideoState) :
    Network → IMSCall → ImsCallMode → VideoOutcome :=
  match v with
  | .audioOnly => AudioOnlyState.sendUpdateCallMediaModeRequest
  | .send => VideoSendState.sendUpdateCallMediaModeRequest
  | .receive => VideoReceiveState.sendUpdateCallMediaModeRequest
  | .sendReceive => VideoSendReceiveState.sendUpdateCallMediaModeRequest
  | .pause => VideoPauseState.sendUpdateCallMediaModeRequest

/-- The call of `RecieveUpdateCallMediaModeRequest` on the object `v`. -/
def VideoState.recieveUpdateCallMediaModeRequest (v : VideoState) :
    Network → IMSCall → CallMediaModeInfo → VideoOutcome :=
  match v with
  | .audioOnly => AudioOnlyState.recieveUpdateCallMediaModeRequest
  | .send => VideoSendState.recieveUpdateCallMediaModeRequest
  | .receive => VideoReceiveState.recieveUpdateCallMediaModeRequest
  | .sendReceive => VideoSendReceiveState.recieveUpdateCallMediaModeRequest
  | .pause => VideoPauseState.recieveUpdateCallMediaModeRequest

/-- The call of `SendUpdateCallMediaModeResponse` on the object `v`. -/
def VideoState.sendUpdateCallMediaModeResponse (v : VideoState) :
    Network → IMSCall → ImsCallMode → VideoOutcome :=
  match v with
  | .audioOnly => AudioOnlyState.sendUpdateCallMediaModeResponse
  | .send => VideoSendState.sendUpdateCallMediaModeResponse
  | .receive => VideoReceiveState.sendUpdateCallMediaModeResponse
  | .sendReceive => VideoSendReceiveState.sendUpdateCallMediaModeResponse
  | .pause => VideoPauseState.sendUpdateCallMediaModeResponse

/-- The call of `ReceiveUpdateCallMediaModeResponse` on the object `v`. -/
def VideoState.receiveUpdateCallMediaModeResponse (v : VideoState) :
    Network → IMSCall → CallMediaModeInfo → VideoOutcome :=
  match v with
  | .audioOnly => AudioOnlyState.receiveUpdateCallMediaModeResponse
  | .send => VideoSendState.receiveUpdateCallMediaModeResponse
  | .receive => VideoReceiveState.receiveUpdateCallMediaModeResponse
  | .sendReceive => VideoSendReceiveState.receiveUpdateCallMediaModeResponse
  | .pause => VideoPauseState.receiveUpdateCallMediaModeResponse

/-! ### The call's functions -/

/-- `IMSCall::UpdateImsCallMode` (ims_call.cpp:271-290). While a request of this side waits it
    returns success and does nothing. -/
def updateImsCallMode (net : Network) (c : IMSCall) (mode : ImsCallMode) : VideoOutcome :=
  if c.callState ≠ .active then ⟨.callErrCallState, [], c⟩
  else
    match c.videoCallState with
    | none => ⟨.telephonyErrLocalPtrNull, [], c⟩
    | some v =>
      match c.updateStatus v with
      | .none => VideoState.sendUpdateCallMediaModeRequest v net c mode
      | .recvRequest => VideoState.sendUpdateCallMediaModeResponse v net c mode
      | .sendRequest => ⟨.telephonySuccess, [], c⟩

/-- `IMSCall::RecieveUpdateCallMediaModeRequest` (ims_call.cpp:332-346). -/
def recieveUpdateCallMediaModeRequest (net : Network) (c : IMSCall)
    (response : CallModeReportInfo) : VideoOutcome :=
  match c.videoCallState with
  | none => ⟨.telephonyErrLocalPtrNull, [], c⟩
  | some v =>
    VideoState.recieveUpdateCallMediaModeRequest v net c
      ⟨c.callId, true, response.result, response.callMode⟩

/-- `IMSCall::ReceiveUpdateCallMediaModeResponse` (ims_call.cpp:348-366). A request that failed
    counts as answered with the mode for audio only. -/
def receiveUpdateCallMediaModeResponse (net : Network) (c : IMSCall)
    (response : CallModeReportInfo) : VideoOutcome :=
  match c.videoCallState with
  | none => ⟨.telephonyErrLocalPtrNull, [], c⟩
  | some v =>
    let mode := if response.result = .success then response.callMode else .audioOnly
    VideoState.receiveUpdateCallMediaModeResponse v net c
      ⟨c.callId, false, response.result, mode⟩

/-- `IMSCall::AssignVideoCallState` (ims_call.cpp:81-100). -/
def assignVideoCallState (c : IMSCall) (type : VideoStateType) : IMSCall :=
  { c with videoCallState := some type.videoState }

/-- `IMSCall::InitVideoCall` (ims_call.cpp:37-79). The first call creates the objects, with the
    status `STATUS_NONE`. -/
def initVideoCall (c : IMSCall) : IMSCall :=
  if c.isInitialized then c.assignVideoCallState c.videoStateType
  else
    let c := { c with updateStatus := fun _ => .none }
    { c.assignVideoCallState c.videoStateType with isInitialized := true }

/-- `CallBase::SetVideoStateType` (call_base.cpp:445-449). -/
def setVideoStateType (c : IMSCall) (type : VideoStateType) : IMSCall :=
  { c with videoStateType := type }

/-- `CallStatusManager::RefreshCallIfNecessary` on an IMS call that stays one, as far as it
    concerns the negotiation (call_status_manager.cpp:1860-1867). -/
def refreshCallIfNecessary (c : IMSCall) (callMode : VideoStateType) : IMSCall :=
  if c.videoStateType ≠ callMode then (c.setVideoStateType callMode).initVideoCall else c

/-- `IMSCall::IsVoiceModifyToVideo` (ims_call.cpp:483-490). -/
def isVoiceModifyToVideo (c : IMSCall) : Bool :=
  match c.videoCallState with
  | none => false
  | some v => c.updateStatus v = .sendRequest

end IMSCall

/-! ## Specification -/

/-- The side whose request a negotiation is about. -/
inductive Party
  | localSide | remoteSide
  deriving DecidableEq, Repr

/-- The side whose request a status records. -/
def VideoUpdateStatus.party : VideoUpdateStatus → Option Party
  | .none => Option.none
  | .sendRequest => some .localSide
  | .recvRequest => some .remoteSide

/-- A request for `mode` asks for video. -/
def ImsCallMode.IsUpgrade (mode : ImsCallMode) : Prop :=
  mode = .sendOnly ∨ mode = .receiveOnly ∨ mode = .sendReceive

instance (mode : ImsCallMode) : Decidable mode.IsUpgrade := by
  unfold ImsCallMode.IsUpgrade; infer_instance

/-- The message asks one of the sides for another mode. -/
def Dispatch.isRequest : Dispatch → Bool
  | .updateRequest _ => true
  | .updateResponse _ => false
  | .reportVideoCallInfo info => info.isRequestInfo

namespace IMSCall

/-- The side whose request the installed object records. -/
def pending (c : IMSCall) : Option Party := c.videoCallState.bind fun v => (c.updateStatus v).party

/-- Only the installed object has a status other than `STATUS_NONE`. -/
def OnlyInstalledPending (c : IMSCall) : Prop :=
  ∀ v, c.updateStatus v ≠ .none → c.videoCallState = some v

/-- The call with every status cleared: what it would be if no object remembered a request. -/
def cleared (c : IMSCall) : IMSCall := { c with updateStatus := fun _ => .none }

/-- A request of this side for `mode` is sent if no object remembers a
    request, and is not sent now. -/
def LocalRefused (net : Network) (c : IMSCall) (mode : ImsCallMode) : Prop :=
  .updateRequest mode ∈ (updateImsCallMode net c.cleared mode).sent ∧
    .updateRequest mode ∉ (updateImsCallMode net c mode).sent

/-- A request of the other side is refused with `CALL_ERR_VIDEO_IN_PROGRESS`,
    and would not be if no object remembered a request. -/
def RemoteRefused (net : Network) (c : IMSCall) (response : CallModeReportInfo) : Prop :=
  (recieveUpdateCallMediaModeRequest net c response).ret = .callErrVideoInProgress ∧
    (recieveUpdateCallMediaModeRequest net c.cleared response).ret ≠ .callErrVideoInProgress

/-- Some upgrade request, of one side or the other, is refused for a request
    that an object remembers. -/
def RefusesUpgrade (c : IMSCall) : Prop :=
  ∃ net, (∃ mode : ImsCallMode, mode.IsUpgrade ∧ LocalRefused net c mode) ∨
    ∃ response : CallModeReportInfo, response.callMode.IsUpgrade ∧ RemoteRefused net c response

end IMSCall

/-- What can happen to the call: a request of the application, an event of the
    network, an initialisation, a report with a mode, a change of its state. -/
inductive VideoOp
  | updateImsCallMode (net : Network) (mode : ImsCallMode)
  | recieveUpdateCallMediaModeRequest (net : Network) (response : CallModeReportInfo)
  | receiveUpdateCallMediaModeResponse (net : Network) (response : CallModeReportInfo)
  | initVideoCall
  | refreshCallIfNecessary (callMode : VideoStateType)
  | setTelCallState (state : TelCallState)
  deriving DecidableEq, Repr

/-- One operation on the call. -/
def VideoOp.apply (c : IMSCall) : VideoOp → VideoOutcome
  | .updateImsCallMode net mode => c.updateImsCallMode net mode
  | .recieveUpdateCallMediaModeRequest net response =>
    c.recieveUpdateCallMediaModeRequest net response
  | .receiveUpdateCallMediaModeResponse net response =>
    c.receiveUpdateCallMediaModeResponse net response
  | .initVideoCall => ⟨.telephonySuccess, [], c.initVideoCall⟩
  | .refreshCallIfNecessary callMode => ⟨.telephonySuccess, [], c.refreshCallIfNecessary callMode⟩
  | .setTelCallState state => ⟨.telephonySuccess, [], { c with callState := state }⟩

/-- A request, an answer or an event of the network. -/
def VideoOp.IsNegotiation : VideoOp → Prop
  | .initVideoCall | .refreshCallIfNecessary _ | .setTelCallState _ => False
  | _ => True

/-- The operation answers the outstanding request of a side: any response of the network answers
    one of this side, and a call of the application that succeeds answers one of the other side. -/
def VideoOp.answers (op : VideoOp) (ret : ErrorCode) : Party → Bool
  | .localSide =>
    match op with
    | .receiveUpdateCallMediaModeResponse _ _ => true
    | _ => false
  | .remoteSide =>
    match op with
    | .updateImsCallMode _ _ => ret = .telephonySuccess
    | _ => false

/-- The call, and the side whose request is outstanding. -/
structure Negotiation where
  call : IMSCall
  outstanding : Option Party

namespace Negotiation

/-- A call just created. -/
def create (callId : ℤ) (callState : TelCallState) (videoStateType : VideoStateType) :
    Negotiation :=
  ⟨.create callId callState videoStateType, none⟩

/-- The side whose request is outstanding after an operation: a request that
    was sent or reported and that the installed object records is outstanding
    until it is answered, or until its object is no longer the installed one. -/
def outstandingAfter (s : Negotiation) (op : VideoOp) (out : VideoOutcome) : Option Party :=
  if out.call.videoCallState ≠ s.call.videoCallState ∨ out.call.pending = none then none
  else if out.sent.any Dispatch.isRequest then out.call.pending
  else s.outstanding.filter fun p => ¬ op.answers out.ret p

/-- The state after an operation with the outcome `out`. -/
def after (s : Negotiation) (op : VideoOp) (out : VideoOutcome) : Negotiation :=
  ⟨out.call, s.outstandingAfter op out⟩

/-- One operation. -/
def step (s : Negotiation) (op : VideoOp) : Negotiation := s.after op (op.apply s.call)

/-- The specification: only the installed object remembers a request, and
    while no negotiation is outstanding no upgrade is refused for one. -/
def Ok (s : Negotiation) : Prop :=
  s.call.OnlyInstalledPending ∧ (s.outstanding = none → ¬ s.call.RefusesUpgrade)

/-- An answer that the object `v` takes for one and does nothing about. -/
def ignoresAnswer (v : VideoState) (mode : ImsCallMode) : Prop :=
  v = .sendReceive ∨ mode = .sendOnly

/-- The condition on a step.

    * An initialisation installs another object only while no request is
      recorded.
    * A response to a request of this side that succeeded is for the mode
      asked for or for audio only.
    * The application does not answer with a mode, or in a state, in which the
      answer is ignored. -/
def OpOk (s : Negotiation) : VideoOp → Prop
  | .initVideoCall =>
    s.call.pending = none ∨ s.call.videoCallState = some s.call.videoStateType.videoState
  | .refreshCallIfNecessary callMode =>
    callMode = s.call.videoStateType ∨ s.call.pending = none ∨
      s.call.videoCallState = some callMode.videoState
  | .receiveUpdateCallMediaModeResponse _ response =>
    s.call.pending = some .localSide → response.result = .success →
      response.callMode = .sendReceive ∨ response.callMode = .audioOnly
  | .updateImsCallMode _ mode =>
    s.call.pending = some .remoteSide → s.call.callState = .active →
      ∀ v, s.call.videoCallState = some v → ¬ ignoresAnswer v mode
  | _ => True

/-! ## What one operation does -/

/-- What a function of the object `v` does to its call: nothing, set the
    status of `v`, or install another object and clear the status of `v`. A
    status other than `STATUS_NONE` comes with a request. -/
inductive Effect (v : VideoState) (c : IMSCall) : VideoOutcome → Prop
  | keeps (ret : ErrorCode) (sent : List Dispatch)
      (hsent : c.updateStatus v ≠ .none → sent.any Dispatch.isRequest = false) :
      Effect v c ⟨ret, sent, c⟩
  | clears (ret : ErrorCode) (sent : List Dispatch) :
      Effect v c ⟨ret, sent, c.setVideoUpdateStatus v .none⟩
  | records (ret : ErrorCode) (sent : List Dispatch) (status : VideoUpdateStatus)
      (hstatus : status ≠ .none) (hlocal : status = .sendRequest → v = .audioOnly)
      (hv : v ≠ .send ∧ v ≠ .pause) (hsent : sent.any Dispatch.isRequest = true) :
      Effect v c ⟨ret, sent, c.setVideoUpdateStatus v status⟩
  | switches (ret : ErrorCode) (sent : List Dispatch) (call : IMSCall) (w : VideoState)
      (hw : w ≠ v) (hcall : call.videoCallState = some w) (hinit : call.isInitialized = c.isInitialized)
      (hstatus : ∀ u, call.updateStatus u = c.updateStatus u ∨ call.updateStatus u = .none)
      (hclear : v ≠ .send → call.updateStatus v = .none) :
      Effect v c ⟨ret, sent, call⟩

variable {v : VideoState} {net : Network} {c : IMSCall}

theorem Effect.switch_clear (ret : ErrorCode) (sent : List Dispatch) {mode : ImsCallMode}
    (hmode : mode.videoState.getD .audioOnly ≠ v) :
    Effect v c ⟨ret, sent, (c.switchVideoState mode).setVideoUpdateStatus v .none⟩ := by
  refine .switches _ _ _ _ hmode rfl rfl (fun u => ?_) fun _ => by simp
  by_cases hu : u = v <;> simp [hu]

theorem requestAndSwitch_effect {mode : ImsCallMode} (hmode : mode.videoState.getD .audioOnly ≠ v)
    (hnone : c.updateStatus v = .none) : Effect v c (IMSCall.requestAndSwitch v net c mode) := by
  unfold IMSCall.requestAndSwitch
  split
  · exact .keeps _ _ fun h => absurd hnone h
  · exact .switch_clear _ _ hmode

theorem sendRequest_effect (mode : ImsCallMode) (hnone : c.updateStatus v = .none) :
    Effect v c (IMSCall.VideoState.sendUpdateCallMediaModeRequest v net c mode) := by
  have hkeeps : ∀ ret sent, Effect v c ⟨ret, sent, c⟩ := fun ret sent =>
    .keeps ret sent fun h => absurd hnone h
  cases v with
  | audioOnly =>
    cases mode <;> simp only [IMSCall.VideoState.sendUpdateCallMediaModeRequest,
      IMSCall.AudioOnlyState.sendUpdateCallMediaModeRequest]
    case sendReceive =>
      split_ifs
      · exact hkeeps _ _
      · exact hkeeps _ _
      · exact .records _ _ .sendRequest (by decide) (fun _ => rfl) (by decide) rfl
      · exact hkeeps _ _
    all_goals exact hkeeps _ _
  | send =>
    cases mode <;> simp only [IMSCall.VideoState.sendUpdateCallMediaModeRequest,
      IMSCall.VideoSendState.sendUpdateCallMediaModeRequest]
    case audioOnly | videoPaused => exact requestAndSwitch_effect (by decide) hnone
    all_goals exact hkeeps _ _
  | receive =>
    cases mode <;> simp only [IMSCall.VideoState.sendUpdateCallMediaModeRequest,
      IMSCall.VideoReceiveState.sendUpdateCallMediaModeRequest]
    case audioOnly | videoPaused => exact requestAndSwitch_effect (by decide) hnone
    all_goals exact hkeeps _ _
  | sendReceive =>
    cases mode <;> simp only [IMSCall.VideoState.sendUpdateCallMediaModeRequest,
      IMSCall.VideoSendReceiveState.sendUpdateCallMediaModeRequest]
    case audioOnly | videoPaused => exact requestAndSwitch_effect (by decide) hnone
    all_goals exact hkeeps _ _
  | pause =>
    cases mode <;> simp only [IMSCall.VideoState.sendUpdateCallMediaModeRequest,
      IMSCall.VideoPauseState.sendUpdateCallMediaModeRequest]
    case audioOnly | sendReceive => exact requestAndSwitch_effect (by decide) hnone
    all_goals exact hkeeps _ _

theorem recieveRequest_effect (info : CallMediaModeInfo) (hinfo : info.isRequestInfo = true) :
    Effect v c (IMSCall.VideoState.recieveUpdateCallMediaModeRequest v net c info) := by
  have hkeeps : ∀ ret, Effect v c ⟨ret, [], c⟩ := fun ret => .keeps ret [] fun _ => rfl
  have hrecv : ∀ ret, v ≠ .send ∧ v ≠ .pause → Effect v c
      ⟨ret, [.reportVideoCallInfo info], c.setVideoUpdateStatus v .recvRequest⟩ := fun ret hv =>
    .records ret _ .recvRequest (by decide) (fun h => nomatch h) hv
      (by simpa [Dispatch.isRequest] using hinfo)
  cases v with
  | audioOnly =>
    simp only [IMSCall.VideoState.recieveUpdateCallMediaModeRequest,
      IMSCall.AudioOnlyState.recieveUpdateCallMediaModeRequest]
    cases info.callMode with
    | receiveOnly =>
      dsimp only
      split_ifs
      · exact hkeeps _
      · exact hrecv _ (by decide)
    | sendReceive =>
      dsimp only
      split_ifs
      · exact hkeeps _
      · exact hrecv _ (by decide)
      · exact .keeps _ _ fun _ => rfl
    | _ => exact hkeeps _
  | send =>
    simp only [IMSCall.VideoState.recieveUpdateCallMediaModeRequest,
      IMSCall.VideoSendState.recieveUpdateCallMediaModeRequest]
    cases info.callMode with
    | audioOnly | videoPaused => exact .switch_clear _ _ (by decide)
    | _ => exact hkeeps _
  | receive =>
    simp only [IMSCall.VideoState.recieveUpdateCallMediaModeRequest,
      IMSCall.VideoReceiveState.recieveUpdateCallMediaModeRequest]
    cases info.callMode with
    | audioOnly | videoPaused => exact .switch_clear _ _ (by decide)
    | receiveOnly | sendReceive => exact hrecv _ (by decide)
    | _ => exact hkeeps _
  | sendReceive =>
    simp only [IMSCall.VideoState.recieveUpdateCallMediaModeRequest,
      IMSCall.VideoSendReceiveState.recieveUpdateCallMediaModeRequest]
    cases info.callMode with
    | audioOnly =>
      dsimp only
      split_ifs with hnone
      · exact .switch_clear _ _ (by decide)
      · exact .switches _ _ _ .audioOnly (by decide) rfl rfl (fun u => .inl rfl) fun _ => not_not.mp hnone
    | receiveOnly =>
      dsimp only
      split_ifs
      · exact hkeeps _
      · exact hrecv _ (by decide)
    | sendReceive => exact hrecv _ (by decide)
    | _ => exact hkeeps _
  | pause =>
    simp only [IMSCall.VideoState.recieveUpdateCallMediaModeRequest,
      IMSCall.VideoPauseState.recieveUpdateCallMediaModeRequest]
    cases info.callMode with
    | audioOnly | sendReceive => exact .switch_clear _ _ (by decide)
    | _ => exact hkeeps _

theorem sendResponse_effect (mode : ImsCallMode) :
    Effect v c (IMSCall.VideoState.sendUpdateCallMediaModeResponse v net c mode) := by
  have hkeeps : ∀ ret, Effect v c ⟨ret, [], c⟩ := fun ret => .keeps ret [] fun _ => rfl
  cases v with
  | audioOnly =>
    cases mode with
    | audioOnly =>
      simp only [IMSCall.VideoState.sendUpdateCallMediaModeResponse,
        IMSCall.AudioOnlyState.sendUpdateCallMediaModeResponse]
      split_ifs
      · exact hkeeps _
      · exact .clears _ _
      · exact .keeps _ _ fun _ => rfl
    | receiveOnly | sendReceive =>
      simp only [IMSCall.VideoState.sendUpdateCallMediaModeResponse,
        IMSCall.AudioOnlyState.sendUpdateCallMediaModeResponse]
      split_ifs
      · exact hkeeps _
      · exact .switch_clear _ _ (by decide)
      · exact .keeps _ _ fun _ => rfl
    | _ => exact hkeeps _
  | receive =>
    cases mode with
    | audioOnly | videoPaused => exact .switch_clear _ _ (by decide)
    | receiveOnly =>
      simp only [IMSCall.VideoState.sendUpdateCallMediaModeResponse,
        IMSCall.VideoReceiveState.sendUpdateCallMediaModeResponse]
      split_ifs
      · exact hkeeps _
      · exact .clears _ _
    | sendReceive =>
      simp only [IMSCall.VideoState.sendUpdateCallMediaModeResponse,
        IMSCall.VideoReceiveState.sendUpdateCallMediaModeResponse]
      split_ifs
      · exact hkeeps _
      · exact .switch_clear _ _ (by decide)
    | _ => exact hkeeps _
  | send | sendReceive | pause => exact hkeeps _

theorem receiveResponse_effect (info : CallMediaModeInfo) (hinfo : info.isRequestInfo = false) :
    Effect v c (IMSCall.VideoState.receiveUpdateCallMediaModeResponse v net c info) := by
  have hkeeps : ∀ ret, Effect v c ⟨ret, [], c⟩ := fun ret => .keeps ret [] fun _ => rfl
  cases v with
  | audioOnly =>
    simp only [IMSCall.VideoState.receiveUpdateCallMediaModeResponse,
      IMSCall.AudioOnlyState.receiveUpdateCallMediaModeResponse]
    cases info.callMode with
    | audioOnly => exact .clears _ _
    | sendReceive | receiveOnly =>
      dsimp only
      split_ifs
      · exact hkeeps _
      · exact .switch_clear _ _ (by decide)
    | _ => exact hkeeps _
  | send =>
    simp only [IMSCall.VideoState.receiveUpdateCallMediaModeResponse,
      IMSCall.VideoSendState.receiveUpdateCallMediaModeResponse]
    cases info.callMode with
    | audioOnly | videoPaused => exact .switch_clear _ _ (by decide)
    | sendReceive =>
      dsimp only
      split_ifs
      · exact .keeps _ _ fun _ => rfl
      · -- the status cleared is that of the object for audio only
        refine .switches _ _ _ .sendReceive (by decide) rfl rfl (fun u => ?_) fun h => absurd rfl h
        by_cases hu : u = .audioOnly <;> simp [hu]
    | _ => exact hkeeps _
  | receive =>
    simp only [IMSCall.VideoState.receiveUpdateCallMediaModeResponse,
      IMSCall.VideoReceiveState.receiveUpdateCallMediaModeResponse]
    cases info.callMode with
    | audioOnly | sendReceive | videoPaused => exact .switch_clear _ _ (by decide)
    | receiveOnly =>
      dsimp only
      split_ifs
      · exact .clears _ _
      · exact .keeps _ _ fun _ => by simpa [Dispatch.isRequest] using hinfo
    | _ => exact hkeeps _
  | sendReceive =>
    simp only [IMSCall.VideoState.receiveUpdateCallMediaModeResponse,
      IMSCall.VideoSendReceiveState.receiveUpdateCallMediaModeResponse]
    cases info.callMode with
    | receiveOnly =>
      dsimp only
      split_ifs
      · exact hkeeps _
      · exact .switch_clear _ _ (by decide)
    | sendReceive =>
      dsimp only
      split_ifs
      · exact hkeeps _
      · exact .clears _ _
    | _ => exact hkeeps _
  | pause => exact hkeeps _

/-! ## What an operation leaves -/

theorem pending_of_installed (hv : c.videoCallState = some v) :
    c.pending = (c.updateStatus v).party := by
  simp [IMSCall.pending, hv]

theorem party_eq_none {status : VideoUpdateStatus} : status.party = none ↔ status = .none := by
  cases status <;> simp [VideoUpdateStatus.party]

theorem pending_eq_none_of_installed (hv : c.videoCallState = some v) :
    c.pending = none ↔ c.updateStatus v = .none := by
  rw [pending_of_installed hv, party_eq_none]

theorem pending_eq_some {p : Party} (h : c.pending = some p) :
    ∃ v, c.videoCallState = some v ∧ (c.updateStatus v).party = some p :=
  Option.bind_eq_some_iff.mp h

theorem updateStatus_eq_recvRequest {status : VideoUpdateStatus}
    (h : status.party = some .remoteSide) : status = .recvRequest := by
  cases status <;> simp_all [VideoUpdateStatus.party]

theorem updateStatus_eq_sendRequest {status : VideoUpdateStatus}
    (h : status.party = some .localSide) : status = .sendRequest := by
  cases status <;> simp_all [VideoUpdateStatus.party]

/-- What holds in every state, whatever the steps do. -/
structure Inv (s : Negotiation) : Prop where
  fresh : s.call.videoCallState = none → ∀ v, s.call.updateStatus v = .none
  created : s.call.isInitialized = false → s.call.videoCallState = none
  silent : s.call.updateStatus .send = .none ∧ s.call.updateStatus .pause = .none
  asks : ∀ v, s.call.updateStatus v = .sendRequest → v = .audioOnly
  recorded : ∀ p, s.outstanding = some p → s.call.pending = some p

variable {s : Negotiation} {op : VideoOp} {out : VideoOutcome}

theorem Effect.installed (h : Effect v c out) (hv : c.videoCallState = some v) :
    ∃ w, out.call.videoCallState = some w := by
  cases h with
  | switches _ _ _ w _ hcall => exact ⟨w, hcall⟩
  | _ => exact ⟨v, hv⟩

theorem Effect.isInitialized_eq (h : Effect v c out) :
    out.call.isInitialized = c.isInitialized := by
  cases h with
  | switches _ _ _ _ _ _ hinit => exact hinit
  | _ => rfl

/-- A status that the function leaves is an older one or its own. -/
theorem Effect.updateStatus_eq (h : Effect v c out) (u : VideoState) :
    out.call.updateStatus u = .none ∨ out.call.updateStatus u = c.updateStatus u ∨
      (u = v ∧ v ≠ .send ∧ v ≠ .pause ∧
        (out.call.updateStatus u = .sendRequest → v = .audioOnly)) := by
  cases h with
  | keeps => exact .inr (.inl rfl)
  | clears =>
    by_cases hu : u = v
    · exact .inl (by simp [hu])
    · exact .inr (.inl (by simp [hu]))
  | records _ _ status _ hlocal hv =>
    by_cases hu : u = v
    · exact .inr (.inr ⟨hu, hv.1, hv.2, by simpa [hu] using hlocal⟩)
    · exact .inr (.inl (by simp [hu]))
  | switches _ _ _ _ _ _ _ hstatus =>
    rcases hstatus u with h | h
    · exact .inr (.inl h)
    · exact .inl h

theorem outstandingAfter_recorded
    (hkeep : out.call.videoCallState = s.call.videoCallState → out.call.pending ≠ none →
      out.sent.any Dispatch.isRequest = false → out.call.pending = s.call.pending)
    (hrec : ∀ p, s.outstanding = some p → s.call.pending = some p) (p : Party)
    (h : s.outstandingAfter op out = some p) : out.call.pending = some p := by
  unfold outstandingAfter at h
  split_ifs at h with hswitch hsent
  · exact h
  · rw [not_or, not_not] at hswitch
    rw [hkeep hswitch.1 hswitch.2 (by simpa using hsent)]
    exact hrec p (Option.filter_eq_some_iff.mp h).1

theorem Effect.pending_eq (h : Effect v s.call out) (hv : s.call.videoCallState = some v)
    (hswitch : out.call.videoCallState = s.call.videoCallState) (hsome : out.call.pending ≠ none)
    (hsent : out.sent.any Dispatch.isRequest = false) : out.call.pending = s.call.pending := by
  cases h with
  | keeps => rfl
  | clears =>
    refine absurd ?_ hsome
    rw [pending_eq_none_of_installed (v := v) (by simpa using hv)]
    simp
  | records _ _ _ _ _ _ hreq => exact absurd (hsent.symm.trans hreq) (by decide)
  | switches _ _ _ w hw hcall =>
    rw [hcall, hv] at hswitch
    exact absurd (Option.some.inj hswitch) hw

/-- An object for sending or pausing still has no status. -/
theorem Effect.silent (h : Effect v c out)
    (hc : c.updateStatus .send = .none ∧ c.updateStatus .pause = .none) :
    out.call.updateStatus .send = .none ∧ out.call.updateStatus .pause = .none := by
  constructor
  · rcases h.updateStatus_eq .send with h | h | ⟨rfl, h, -⟩
    · exact h
    · exact h.trans hc.1
    · exact absurd rfl h
  · rcases h.updateStatus_eq .pause with h | h | ⟨rfl, -, h, -⟩
    · exact h
    · exact h.trans hc.2
    · exact absurd rfl h

/-- Only the object for audio still asks. -/
theorem Effect.asks (h : Effect v c out)
    (hc : ∀ u, c.updateStatus u = .sendRequest → u = .audioOnly) (u : VideoState)
    (hu : out.call.updateStatus u = .sendRequest) : u = .audioOnly := by
  rcases h.updateStatus_eq u with h | h | ⟨rfl, -, -, h⟩
  · exact absurd (h.symm.trans hu) (by decide)
  · exact hc u (h.symm.trans hu)
  · exact h hu

theorem inv_of_effect (hI : Inv s) (hv : s.call.videoCallState = some v)
    (h : Effect v s.call out) : Inv (s.after op out) where
  fresh hnone := by
    obtain ⟨w, hw⟩ := h.installed hv
    exact absurd (hw.symm.trans hnone) (by simp)
  created hinit := by
    have hnone := hI.created (h.isInitialized_eq.symm.trans hinit)
    exact absurd (hv.symm.trans hnone) (by simp)
  silent := h.silent hI.silent
  asks := h.asks hI.asks
  recorded := outstandingAfter_recorded (h.pending_eq hv) hI.recorded

/-- An operation that dispatches nothing and leaves the statuses, or clears all
    of them, keeps the invariant. -/
theorem inv_of_statuses (hI : Inv s)
    (hstatus : out.call.updateStatus = s.call.updateStatus ∨
      out.call.updateStatus = fun _ => .none)
    (hinstalled : out.call.videoCallState = s.call.videoCallState ∨
      ∃ w, out.call.videoCallState = some w)
    (hinit : out.call.isInitialized = false → out.call.videoCallState = none) :
    Inv (s.after op out) := by
  have hmono : ∀ u, out.call.updateStatus u = .none ∨
      out.call.updateStatus u = s.call.updateStatus u := fun u => by
    rcases hstatus with h | h
    · exact .inr (congrFun h u)
    · exact .inl (congrFun h u)
  refine ⟨fun hnone v => ?_, hinit, ⟨?_, ?_⟩, fun v hv => ?_, ?_⟩
  · rcases hmono v with h | h
    · exact h
    · rcases hinstalled with h' | ⟨w, h'⟩
      · exact h.trans (hI.fresh (h'.symm.trans hnone) v)
      · exact absurd (h'.symm.trans hnone) (by simp)
  · exact (hmono .send).elim id (·.trans hI.silent.1)
  · exact (hmono .pause).elim id (·.trans hI.silent.2)
  · exact (hmono v).elim (fun h => absurd (h.symm.trans hv) (by decide)) fun h =>
      hI.asks v (h.symm.trans hv)
  · refine outstandingAfter_recorded (fun hswitch hsome _ => ?_) hI.recorded
    rcases hstatus with h | h
    · simp only [IMSCall.pending, hswitch, h]
    · refine absurd ?_ hsome
      simp only [IMSCall.pending, h]
      cases out.call.videoCallState <;> rfl

theorem updateImsCallMode_effect (mode : ImsCallMode) (hv : c.videoCallState = some v) :
    Effect v c (c.updateImsCallMode net mode) := by
  simp only [IMSCall.updateImsCallMode, hv]
  split
  · exact .keeps _ _ fun _ => rfl
  · cases hstatus : c.updateStatus v with
    | none => exact sendRequest_effect mode hstatus
    | recvRequest => exact sendResponse_effect mode
    | sendRequest => exact .keeps _ _ fun _ => rfl

theorem recieveUpdateCallMediaModeRequest_effect (response : CallModeReportInfo)
    (hv : c.videoCallState = some v) :
    Effect v c (c.recieveUpdateCallMediaModeRequest net response) := by
  simp only [IMSCall.recieveUpdateCallMediaModeRequest, hv]
  exact recieveRequest_effect _ rfl

theorem receiveUpdateCallMediaModeResponse_effect (response : CallModeReportInfo)
    (hv : c.videoCallState = some v) :
    Effect v c (c.receiveUpdateCallMediaModeResponse net response) := by
  simp only [IMSCall.receiveUpdateCallMediaModeResponse, hv]
  exact receiveResponse_effect _ rfl

theorem apply_effect (hop : op.IsNegotiation) (hv : c.videoCallState = some v) :
    Effect v c (op.apply c) := by
  cases op with
  | updateImsCallMode net mode => exact updateImsCallMode_effect mode hv
  | recieveUpdateCallMediaModeRequest net response =>
    exact recieveUpdateCallMediaModeRequest_effect response hv
  | receiveUpdateCallMediaModeResponse net response =>
    exact receiveUpdateCallMediaModeResponse_effect response hv
  | initVideoCall | refreshCallIfNecessary _ | setTelCallState _ => exact hop.elim

theorem apply_of_not_installed (hop : op.IsNegotiation) (hv : c.videoCallState = none) :
    (op.apply c).call = c := by
  cases op with
  | updateImsCallMode net mode =>
    simp only [VideoOp.apply, IMSCall.updateImsCallMode, hv]
    split <;> rfl
  | recieveUpdateCallMediaModeRequest net response =>
    simp only [VideoOp.apply, IMSCall.recieveUpdateCallMediaModeRequest, hv]
  | receiveUpdateCallMediaModeResponse net response =>
    simp only [VideoOp.apply, IMSCall.receiveUpdateCallMediaModeResponse, hv]
  | initVideoCall | refreshCallIfNecessary _ | setTelCallState _ => exact hop.elim

@[simp] theorem initVideoCall_videoCallState (c : IMSCall) :
    c.initVideoCall.videoCallState = some c.videoStateType.videoState := by
  unfold IMSCall.initVideoCall
  split <;> rfl

@[simp] theorem initVideoCall_isInitialized (c : IMSCall) :
    c.initVideoCall.isInitialized = true := by
  unfold IMSCall.initVideoCall
  split
  · assumption
  · rfl

theorem initVideoCall_updateStatus (c : IMSCall) :
    c.initVideoCall.updateStatus = c.updateStatus ∨
      (c.initVideoCall.updateStatus = fun _ => .none) := by
  unfold IMSCall.initVideoCall
  split
  · exact .inl rfl
  · exact .inr rfl

theorem inv_step (s : Negotiation) (op : VideoOp) (hI : Inv s) : Inv (s.step op) := by
  by_cases hop : op.IsNegotiation
  · cases hv : s.call.videoCallState with
    | none =>
      have hcall := apply_of_not_installed hop hv
      exact inv_of_statuses hI (.inl (by rw [hcall])) (.inl (by rw [hcall]))
        (by rw [hcall]; exact hI.created)
    | some v => exact inv_of_effect hI hv (apply_effect hop hv)
  · cases op with
    | initVideoCall =>
      exact inv_of_statuses hI (initVideoCall_updateStatus _)
        (.inr ⟨_, initVideoCall_videoCallState _⟩)
        fun h => absurd ((initVideoCall_isInitialized _).symm.trans h) (by decide)
    | refreshCallIfNecessary callMode =>
      show Inv (s.after _ ⟨_, _, s.call.refreshCallIfNecessary callMode⟩)
      by_cases h : s.call.videoStateType = callMode
      · have hcall : s.call.refreshCallIfNecessary callMode = s.call := if_neg (not_not.mpr h)
        rw [hcall]
        apply inv_of_statuses hI
        · exact .inl rfl
        · exact .inl rfl
        · exact hI.created
      · rw [IMSCall.refreshCallIfNecessary, if_pos h]
        apply inv_of_statuses hI
        · exact initVideoCall_updateStatus _
        · exact .inr ⟨_, initVideoCall_videoCallState _⟩
        · intro hinit
          exact absurd ((initVideoCall_isInitialized _).symm.trans hinit) (by decide)
    | setTelCallState state => exact inv_of_statuses hI (.inl rfl) (.inl rfl) hI.created
    | _ => exact absurd trivial hop

theorem inv_create (callId : ℤ) (callState : TelCallState) (videoStateType : VideoStateType) :
    Inv (create callId callState videoStateType) :=
  ⟨fun _ _ => rfl, fun _ => rfl, ⟨rfl, rfl⟩, fun _ h => (nomatch h), fun _ h => nomatch h⟩

/-! ## When an upgrade is refused -/

/-- Without a recorded request the call treats an upgrade as if no object
    remembered one: a function reads the status of its own object only. -/
theorem updateImsCallMode_cleared (mode : ImsCallMode) (hnone : c.pending = none) :
    (c.cleared.updateImsCallMode net mode).sent = (c.updateImsCallMode net mode).sent := by
  cases hv : c.videoCallState with
  | none =>
    simp only [IMSCall.updateImsCallMode, IMSCall.cleared, hv]
    split <;> rfl
  | some v =>
    rw [pending_eq_none_of_installed hv] at hnone
    simp only [IMSCall.updateImsCallMode, IMSCall.cleared, hv, hnone]
    split
    · rfl
    · cases v <;> cases mode <;>
        simp [IMSCall.VideoState.sendUpdateCallMediaModeRequest,
          IMSCall.AudioOnlyState.sendUpdateCallMediaModeRequest,
          IMSCall.VideoSendState.sendUpdateCallMediaModeRequest,
          IMSCall.VideoReceiveState.sendUpdateCallMediaModeRequest,
          IMSCall.VideoSendReceiveState.sendUpdateCallMediaModeRequest,
          IMSCall.VideoPauseState.sendUpdateCallMediaModeRequest,
          IMSCall.requestAndSwitch, IMSCall.isSupportVideoCall, hnone] <;>
        split_ifs <;> rfl

theorem recieveRequest_cleared (response : CallModeReportInfo) (hnone : c.pending = none) :
    (c.cleared.recieveUpdateCallMediaModeRequest net response).ret =
      (c.recieveUpdateCallMediaModeRequest net response).ret := by
  cases hv : c.videoCallState with
  | none => simp [IMSCall.recieveUpdateCallMediaModeRequest, IMSCall.cleared, hv]
  | some v =>
    rw [pending_eq_none_of_installed hv] at hnone
    obtain ⟨result, mode⟩ := response
    simp only [IMSCall.recieveUpdateCallMediaModeRequest, IMSCall.cleared, hv]
    cases v <;> cases mode <;>
      simp [IMSCall.VideoState.recieveUpdateCallMediaModeRequest,
        IMSCall.AudioOnlyState.recieveUpdateCallMediaModeRequest,
        IMSCall.VideoSendState.recieveUpdateCallMediaModeRequest,
        IMSCall.VideoReceiveState.recieveUpdateCallMediaModeRequest,
        IMSCall.VideoSendReceiveState.recieveUpdateCallMediaModeRequest,
        IMSCall.VideoPauseState.recieveUpdateCallMediaModeRequest,
        IMSCall.isSupportVideoCall, hnone]
    split_ifs <;> rfl

theorem refusesUpgrade_iff (hI : Inv s) : s.call.RefusesUpgrade ↔ s.call.pending ≠ none := by
  constructor
  · rintro ⟨net, ⟨mode, -, hsent, hnot⟩ | ⟨response, -, hret, hnot⟩⟩ hnone
    · rw [updateImsCallMode_cleared mode hnone] at hsent
      exact hnot hsent
    · rw [recieveRequest_cleared response hnone] at hnot
      exact hnot hret
  · intro hsome
    obtain ⟨p, hp⟩ := Option.ne_none_iff_exists'.mp hsome
    obtain ⟨v, hv, -⟩ := pending_eq_some hp
    rw [Ne, pending_eq_none_of_installed hv] at hsome
    -- every object that can remember a request refuses another for receiving
    refine ⟨⟨.telephonySuccess, .telephonySuccess, .telephonySuccess⟩,
      .inr ⟨⟨.success, .receiveOnly⟩, .inr (.inl rfl), ?_⟩⟩
    cases v with
    | send => exact absurd hI.silent.1 hsome
    | pause => exact absurd hI.silent.2 hsome
    | audioOnly =>
      simp [IMSCall.RemoteRefused, IMSCall.recieveUpdateCallMediaModeRequest, IMSCall.cleared, hv,
        IMSCall.VideoState.recieveUpdateCallMediaModeRequest,
        IMSCall.AudioOnlyState.recieveUpdateCallMediaModeRequest, hsome]
    | receive =>
      simp [IMSCall.RemoteRefused, IMSCall.recieveUpdateCallMediaModeRequest, IMSCall.cleared, hv,
        IMSCall.VideoState.recieveUpdateCallMediaModeRequest,
        IMSCall.VideoReceiveState.recieveUpdateCallMediaModeRequest, hsome]
    | sendReceive =>
      simp [IMSCall.RemoteRefused, IMSCall.recieveUpdateCallMediaModeRequest, IMSCall.cleared, hv,
        IMSCall.VideoState.recieveUpdateCallMediaModeRequest,
        IMSCall.VideoSendReceiveState.recieveUpdateCallMediaModeRequest, hsome]

theorem ok_iff (hI : Inv s) :
    s.Ok ↔ s.call.OnlyInstalledPending ∧ (s.outstanding = none → s.call.pending = none) := by
  simp only [Ok, refusesUpgrade_iff hI, not_not]

/-- In a state that meets the specification a recorded request is outstanding. -/
theorem outstanding_of_pending (hI : Inv s) (hok : s.Ok) {p : Party}
    (hp : s.call.pending = some p) : s.outstanding = some p := by
  cases ho : s.outstanding with
  | none => exact absurd (((ok_iff hI).mp hok).2 ho) (by simp [hp])
  | some q =>
    rw [hI.recorded q ho] at hp
    exact hp

/-! ## The exact condition -/

theorem updateStatus_of_not_installed (hc : c.OnlyInstalledPending)
    (hv : c.videoCallState = some v) {u : VideoState} (hu : u ≠ v) : c.updateStatus u = .none := by
  by_contra hne
  exact hu (Option.some.inj ((hc u hne).symm.trans hv))

theorem Effect.onlyInstalledPending (h : Effect v c out) (hv : c.videoCallState = some v)
    (hsend : c.updateStatus .send = .none) (hc : c.OnlyInstalledPending) :
    out.call.OnlyInstalledPending := by
  intro u hu
  cases h with
  | keeps => exact hc u hu
  | clears =>
    by_cases huv : u = v
    · exact absurd (by simp [huv]) hu
    · exact absurd (by simpa [huv] using updateStatus_of_not_installed hc hv huv) hu
  | records =>
    by_cases huv : u = v
    · rw [huv]; exact hv
    · exact absurd (by simpa [huv] using updateStatus_of_not_installed hc hv huv) hu
  | switches _ _ call w _ hcall _ hstatus hclear =>
    refine absurd ?_ hu
    rcases hstatus u with h | h
    · by_cases huv : u = v
      · by_cases hvs : v = .send
        · rw [h, huv, hvs]; exact hsend
        · rw [huv]; exact hclear hvs
      · exact h.trans (updateStatus_of_not_installed hc hv huv)
    · exact h

/-- What a function of the installed object leaves unmarked: no request, or
    the recorded request it was meant to answer. -/
theorem Effect.pending_cases (h : Effect v s.call out) (hv : s.call.videoCallState = some v)
    (hI : Inv s) (hok : s.Ok) (hnone : s.outstandingAfter op out = none) :
    out.call.pending = none ∨
      (out.call = s.call ∧ ∃ p, s.call.pending = some p ∧ op.answers out.ret p = true) := by
  cases h with
  | keeps ret sent hsent =>
    cases hp : s.call.pending with
    | none => exact .inl rfl
    | some p =>
      right
      refine ⟨rfl, p, rfl, ?_⟩
      have hout := outstanding_of_pending hI hok hp
      have hv' : s.call.updateStatus v ≠ .none := fun h => by
        rw [← pending_eq_none_of_installed hv, hp] at h
        exact nomatch h
      by_contra hans
      simp [outstandingAfter, hp, hsent hv', hout, hans] at hnone
  | clears =>
    left
    rw [pending_eq_none_of_installed (v := v) (by simpa using hv)]
    simp
  | records ret sent status hstatus hlocal hv' hsent =>
    exfalso
    have hp : (s.call.setVideoUpdateStatus v status).pending ≠ none := by
      rw [Ne, pending_eq_none_of_installed (v := v) (by simpa using hv)]
      simpa using hstatus
    simp only [outstandingAfter, hsent, IMSCall.setVideoUpdateStatus_videoCallState, ne_eq,
      not_true_eq_false, false_or, hp, if_false, if_true] at hnone
  | switches _ _ call w hw hcall _ hstatus =>
    left
    rw [pending_eq_none_of_installed hcall]
    rcases hstatus w with h | h
    · exact h.trans (updateStatus_of_not_installed hok.1 hv hw)
    · exact h

theorem sendResponse_ignored {mode : ImsCallMode} (h : ignoresAnswer v mode) :
    IMSCall.VideoState.sendUpdateCallMediaModeResponse v net c mode =
      ⟨.telephonySuccess, [], c⟩ := by
  rcases h with rfl | rfl
  · rfl
  · cases v <;> rfl

theorem sendResponse_taken {mode : ImsCallMode} (hactive : c.callState = .active)
    (hrecv : c.updateStatus v = .recvRequest) (hv : v ≠ .send ∧ v ≠ .pause)
    (hret : (IMSCall.VideoState.sendUpdateCallMediaModeResponse v net c mode).ret =
      .telephonySuccess)
    (hcall : (IMSCall.VideoState.sendUpdateCallMediaModeResponse v net c mode).call = c) :
    ignoresAnswer v mode := by
  have hclear : ∀ c' : IMSCall, c' = c → c'.updateStatus v = .none → False := fun c' h hnone => by
    rw [h, hrecv] at hnone
    exact nomatch hnone
  have hsupport : c.isSupportVideoCall = true := by simp [IMSCall.isSupportVideoCall, hactive]
  cases v with
  | send => exact absurd rfl hv.1
  | pause => exact absurd rfl hv.2
  | sendReceive => exact .inl rfl
  | audioOnly =>
    cases mode with
    | sendOnly => exact .inr rfl
    | videoPaused | other => exact nomatch hret
    | audioOnly | receiveOnly | sendReceive =>
      simp only [IMSCall.VideoState.sendUpdateCallMediaModeResponse,
        IMSCall.AudioOnlyState.sendUpdateCallMediaModeResponse, hsupport, hrecv, not_true_eq_false,
        ne_eq, if_false] at hcall
      exact (hclear _ hcall (by simp)).elim
  | receive =>
    cases mode with
    | sendOnly => exact .inr rfl
    | other => exact nomatch hret
    | audioOnly | videoPaused | receiveOnly | sendReceive =>
      simp only [IMSCall.VideoState.sendUpdateCallMediaModeResponse,
        IMSCall.VideoReceiveState.sendUpdateCallMediaModeResponse, hrecv, not_true_eq_false,
        ne_eq, if_false] at hcall
      exact (hclear _ hcall (by simp)).elim

/-- A response to a request of this side is acted on iff it is for both
    directions or for audio only. -/
theorem receiveResponse_keeps {info : CallMediaModeInfo}
    (hsend : c.updateStatus .audioOnly = .sendRequest) :
    (IMSCall.VideoState.receiveUpdateCallMediaModeResponse .audioOnly net c info).call = c ↔
      ¬ (info.callMode = .sendReceive ∨ info.callMode = .audioOnly) := by
  have hclear : ∀ c' : IMSCall, c'.updateStatus .audioOnly = .none → c' ≠ c := fun c' hnone h => by
    rw [h, hsend] at hnone
    exact nomatch hnone
  simp only [IMSCall.VideoState.receiveUpdateCallMediaModeResponse,
    IMSCall.AudioOnlyState.receiveUpdateCallMediaModeResponse]
  cases info.callMode with
  | audioOnly | sendReceive =>
    simp only [hsend, ne_eq, not_true_eq_false, if_false, or_true, true_or, iff_false]
    exact hclear _ (by simp)
  | _ => simp [hsend]

theorem answered_outstanding (hI : Inv s) (hok : s.Ok) {p : Party} (hp : s.call.pending = some p)
    (hcall : out.call = s.call) (hsent : out.sent = []) (hans : op.answers out.ret p = true) :
    ¬ (s.after op out).Ok := by
  intro h
  have hI' : Inv (s.after op out) := by
    apply inv_of_statuses hI
    · exact .inl (by rw [hcall])
    · exact .inl (by rw [hcall])
    · rw [hcall]
      exact hI.created
  have hnone : s.outstandingAfter op out = none := by
    simp [outstandingAfter, hcall, hsent, hp, outstanding_of_pending hI hok hp, hans]
  have hpend := ((ok_iff hI').mp h).2 hnone
  simp only [after, hcall, hp] at hpend
  exact nomatch hpend

theorem ok_of_effect (hI : Inv s) (hok : s.Ok) (hv : s.call.videoCallState = some v)
    (h : Effect v s.call out)
    (hans : ∀ p, out.call = s.call → s.call.pending = some p → op.answers out.ret p = false) :
    (s.after op out).Ok := by
  rw [ok_iff (inv_of_effect hI hv h)]
  refine ⟨h.onlyInstalledPending hv hI.silent.1 hok.1, fun hnone => ?_⟩
  rcases h.pending_cases hv hI hok hnone with hp | ⟨hcall, p, hp, ha⟩
  · exact hp
  · exact absurd (ha.symm.trans (hans p hcall hp)) (by decide)

/-- Without a recorded request neither an operation that keeps the statuses nor
    one that clears them all leaves one behind. -/
theorem ok_of_no_status (hI' : Inv (s.after op out))
    (hstatus : ∀ v, out.call.updateStatus v = .none) : (s.after op out).Ok := by
  rw [ok_iff hI']
  refine ⟨fun v hv => absurd (hstatus v) hv, fun _ => ?_⟩
  show out.call.pending = none
  cases hv : out.call.videoCallState with
  | none => simp [IMSCall.pending, hv]
  | some v => rw [pending_eq_none_of_installed hv, hstatus v]

theorem ok_of_not_installed (hI : Inv s) (hv : s.call.videoCallState = none)
    (hop : op.IsNegotiation) : (s.step op).Ok := by
  refine ok_of_no_status (inv_step s op hI) ?_
  rw [apply_of_not_installed hop hv]
  exact hI.fresh hv

theorem no_status_of_pending (hok : s.Ok) (hp : s.call.pending = none)
    (v : VideoState) : s.call.updateStatus v = .none := by
  by_contra hne
  have hv := hok.1 v hne
  exact hne ((pending_eq_none_of_installed hv).mp hp)

theorem ok_updateImsCallMode_iff (hI : Inv s) (hok : s.Ok) (mode : ImsCallMode) :
    (s.step (.updateImsCallMode net mode)).Ok ↔ s.OpOk (.updateImsCallMode net mode) := by
  constructor
  · intro h hp hactive v hv hign
    have hrecv : s.call.updateStatus v = .recvRequest := by
      rw [pending_of_installed hv] at hp
      exact updateStatus_eq_recvRequest hp
    have hout : VideoOp.apply s.call (.updateImsCallMode net mode) =
        ⟨.telephonySuccess, [], s.call⟩ := by
      simp only [VideoOp.apply, IMSCall.updateImsCallMode, hactive, hv, hrecv, ne_eq,
        not_true_eq_false, if_false]
      exact sendResponse_ignored hign
    rw [step, hout] at h
    exact answered_outstanding hI hok hp rfl rfl rfl h
  · intro hop
    cases hv : s.call.videoCallState with
    | none => exact ok_of_not_installed hI hv trivial
    | some v =>
      show (s.after _ (s.call.updateImsCallMode net mode)).Ok
      apply ok_of_effect hI hok hv (updateImsCallMode_effect mode hv)
      intro p hcall hp
      cases p with
      | localSide => rfl
      | remoteSide =>
        have hrecv : s.call.updateStatus v = .recvRequest := by
          rw [pending_of_installed hv] at hp
          exact updateStatus_eq_recvRequest hp
        have hnot : v ≠ .send ∧ v ≠ .pause := by
          refine ⟨fun h => ?_, fun h => ?_⟩
          · rw [h, hI.silent.1] at hrecv
            exact nomatch hrecv
          · rw [h, hI.silent.2] at hrecv
            exact nomatch hrecv
        by_contra hans
        rw [Bool.not_eq_false] at hans
        replace hans := of_decide_eq_true hans
        by_cases hactive : s.call.callState = .active
        · simp only [IMSCall.updateImsCallMode, hactive, hv, hrecv, ne_eq, not_true_eq_false,
            if_false] at hans hcall
          exact hop hp hactive v hv (sendResponse_taken hactive hrecv hnot hans hcall)
        · simp only [IMSCall.updateImsCallMode, ne_eq, hactive, not_false_eq_true, if_true] at hans
          exact nomatch hans

theorem ok_recieveUpdateCallMediaModeRequest (hI : Inv s) (hok : s.Ok)
    (response : CallModeReportInfo) :
    (s.step (.recieveUpdateCallMediaModeRequest net response)).Ok := by
  cases hv : s.call.videoCallState with
  | none => exact ok_of_not_installed hI hv trivial
  | some v =>
    refine ok_of_effect hI hok hv (recieveUpdateCallMediaModeRequest_effect response hv) ?_
    intro p _ _
    cases p <;> rfl

theorem ok_receiveUpdateCallMediaModeResponse_iff (hI : Inv s) (hok : s.Ok)
    (response : CallModeReportInfo) :
    (s.step (.receiveUpdateCallMediaModeResponse net response)).Ok ↔
      s.OpOk (.receiveUpdateCallMediaModeResponse net response) := by
  have hmode : ∀ v, s.call.videoCallState = some v → (s.call.updateStatus v).party = some .localSide →
      s.call.videoCallState = some .audioOnly ∧ s.call.updateStatus .audioOnly = .sendRequest := by
    intro v hv hp
    have hsend := updateStatus_eq_sendRequest hp
    rw [hI.asks v hsend] at hv hsend
    exact ⟨hv, hsend⟩
  constructor
  · intro h hp hres
    obtain ⟨v, hv, hparty⟩ := pending_eq_some hp
    obtain ⟨haudio, hsend⟩ := hmode v hv hparty
    by_contra hne
    have hcall : (VideoOp.apply s.call (.receiveUpdateCallMediaModeResponse net response)).call =
        s.call := by
      simp only [VideoOp.apply, IMSCall.receiveUpdateCallMediaModeResponse, haudio, hres, if_true]
      exact (receiveResponse_keeps hsend).mpr hne
    have hsent : (VideoOp.apply s.call (.receiveUpdateCallMediaModeResponse net response)).sent =
        [] := by
      obtain ⟨result, mode⟩ := response
      simp only [VideoOp.apply, IMSCall.receiveUpdateCallMediaModeResponse, haudio,
        IMSCall.VideoState.receiveUpdateCallMediaModeResponse,
        IMSCall.AudioOnlyState.receiveUpdateCallMediaModeResponse, hsend]
      cases mode <;> simp_all
    exact answered_outstanding hI hok hp hcall hsent rfl h
  · intro hop
    cases hv : s.call.videoCallState with
    | none => exact ok_of_not_installed hI hv trivial
    | some v =>
      show (s.after _ (s.call.receiveUpdateCallMediaModeResponse net response)).Ok
      apply ok_of_effect hI hok hv (receiveUpdateCallMediaModeResponse_effect response hv)
      intro p hcall hp
      cases p with
      | remoteSide => rfl
      | localSide =>
        rw [pending_of_installed hv] at hp
        obtain ⟨haudio, hsend⟩ := hmode v hv hp
        have hpend : s.call.pending = some .localSide := by rw [pending_of_installed hv, hp]
        simp only [IMSCall.receiveUpdateCallMediaModeResponse, haudio] at hcall
        rw [receiveResponse_keeps hsend] at hcall
        refine absurd ?_ hcall
        by_cases hres : response.result = .success
        · simpa [hres] using hop hpend hres
        · simp [hres]

/-- An operation that leaves the statuses and the installed object, and
    answers nothing, leaves what is outstanding. -/
theorem ok_of_same (hI : Inv s) (hok : s.Ok) (hI' : Inv (s.after op out)) (hsent : out.sent = [])
    (hstatus : out.call.updateStatus = s.call.updateStatus)
    (hinstalled : out.call.videoCallState = s.call.videoCallState)
    (hans : ∀ p, op.answers out.ret p = false) : (s.after op out).Ok := by
  have hpend : out.call.pending = s.call.pending := by
    simp only [IMSCall.pending, hstatus, hinstalled]
  rw [ok_iff hI']
  constructor
  · intro v hv
    show out.call.videoCallState = some v
    rw [hinstalled]
    exact hok.1 v (by rw [← hstatus]; exact hv)
  · intro hnone
    show out.call.pending = none
    rw [hpend]
    by_contra hsome
    obtain ⟨p, hp⟩ := Option.ne_none_iff_exists'.mp hsome
    have hout := outstanding_of_pending hI hok hp
    simp [after, outstandingAfter, hinstalled, hpend, hp, hsent, hout, hans] at hnone

theorem ok_initVideoCall_iff (hI : Inv s) (hok : s.Ok) (type : VideoStateType)
    (hsent : out.sent = []) (hcall : out.call = (s.call.setVideoStateType type).initVideoCall)
    (hans : ∀ p, op.answers out.ret p = false) :
    (s.after op out).Ok ↔ s.call.pending = none ∨ s.call.videoCallState = some type.videoState := by
  have hinstalled : out.call.videoCallState = some type.videoState := by
    rw [hcall, initVideoCall_videoCallState]
    rfl
  have hstatus : out.call.updateStatus = s.call.updateStatus ∨
      out.call.updateStatus = fun _ => .none := by
    rw [hcall]
    exact initVideoCall_updateStatus _
  have hI' : Inv (s.after op out) := by
    apply inv_of_statuses hI hstatus (.inr ⟨_, hinstalled⟩)
    rw [hcall, initVideoCall_isInitialized]
    exact fun h => nomatch h
  -- the first initialisation has nothing to leave behind
  have hkept : s.call.pending ≠ none → out.call.updateStatus = s.call.updateStatus := by
    intro hsome
    obtain ⟨p, hp⟩ := Option.ne_none_iff_exists'.mp hsome
    obtain ⟨v, hv, -⟩ := pending_eq_some hp
    have hinit : s.call.isInitialized = true := by
      by_contra h
      rw [Bool.not_eq_true] at h
      exact absurd (hv.symm.trans (hI.created h)) (by simp)
    rw [hcall, IMSCall.initVideoCall, if_pos (by exact hinit)]
    rfl
  constructor
  · intro h
    by_cases hp : s.call.pending = none
    · exact .inl hp
    · right
      obtain ⟨p, hp'⟩ := Option.ne_none_iff_exists'.mp hp
      obtain ⟨v, hv, -⟩ := pending_eq_some hp'
      have hne : out.call.updateStatus v ≠ .none := by
        rw [hkept hp]
        exact fun h => hp ((pending_eq_none_of_installed hv).mpr h)
      rw [hv, ← hinstalled]
      exact (h.1 v hne).symm
  · intro h
    by_cases hp : s.call.pending = none
    · refine ok_of_no_status hI' fun v => ?_
      rcases hstatus with h | h
      · rw [h]; exact no_status_of_pending hok hp v
      · rw [h]
    · have hsame := h.resolve_left hp
      exact ok_of_same hI hok hI' hsent (hkept hp) (hinstalled.trans hsame.symm) hans

theorem ok_step_iff (s : Negotiation) (op : VideoOp) (hI : Inv s) (hok : s.Ok) :
    (s.step op).Ok ↔ s.OpOk op := by
  cases op with
  | updateImsCallMode net mode => exact ok_updateImsCallMode_iff hI hok mode
  | recieveUpdateCallMediaModeRequest net response =>
    exact iff_of_true (ok_recieveUpdateCallMediaModeRequest hI hok response) trivial
  | receiveUpdateCallMediaModeResponse net response =>
    exact ok_receiveUpdateCallMediaModeResponse_iff hI hok response
  | initVideoCall =>
    exact ok_initVideoCall_iff hI hok s.call.videoStateType rfl rfl fun p => by cases p <;> rfl
  | refreshCallIfNecessary callMode =>
    have hI' := inv_step s (.refreshCallIfNecessary callMode) hI
    simp only [OpOk]
    by_cases h : callMode = s.call.videoStateType
    · have hcall : s.call.refreshCallIfNecessary callMode = s.call := if_neg (not_not.mpr h.symm)
      refine iff_of_true (ok_of_same hI hok hI' rfl ?_ ?_ fun p => by cases p <;> rfl) (.inl h)
      · exact congrArg IMSCall.updateStatus hcall
      · exact congrArg IMSCall.videoCallState hcall
    · rw [or_iff_right h]
      refine ok_initVideoCall_iff hI hok callMode rfl ?_ fun p => by cases p <;> rfl
      exact if_pos fun h' => h h'.symm
  | setTelCallState state =>
    refine iff_of_true ?_ trivial
    exact ok_of_same hI hok (inv_step s _ hI) rfl rfl rfl fun p => by cases p <;> rfl

theorem ok_create (callId : ℤ) (callState : TelCallState) (videoStateType : VideoStateType) :
    (create callId callState videoStateType).Ok := by
  rw [ok_iff (inv_create callId callState videoStateType)]
  exact ⟨fun v h => absurd rfl h, fun _ => rfl⟩

/-! ## Main results -/

/-- **The negotiation over a run.** For every sequence of requests, network events and
    initialisations of a call, in every state only the installed object remembers a request and
    no upgrade is refused for one that was answered or overtaken, iff every step meets `OpOk`. -/
theorem negotiationOk_iff (callId : ℤ) (callState : TelCallState)
    (videoStateType : VideoStateType) (ops : List VideoOp) :
    Run.StatesMeet step Ok (create callId callState videoStateType) ops ↔
      Run.StepsMeet step OpOk (create callId callState videoStateType) ops :=
  Run.statesMeet_iff_stepsMeet_of_invariant inv_step ok_step_iff ops
    (inv_create callId callState videoStateType) (ok_create callId callState videoStateType)

/-- In such a run another call's answer does not hang this one up for an upgrade that is over. -/
theorem voice_modify_to_video_outstanding (callId : ℤ) (callState : TelCallState)
    (videoStateType : VideoStateType) (ops : List VideoOp)
    (h : Run.StepsMeet step OpOk (create callId callState videoStateType) ops) :
    Run.StatesMeet step
      (fun s => s.call.isVoiceModifyToVideo = true → s.outstanding = some .localSide)
      (create callId callState videoStateType) ops := by
  have hrun : Run.StatesMeet step (fun s => Inv s ∧ s.Ok) (create callId callState videoStateType)
      ops := by
    refine Run.statesMeet_of_stepsMeet (fun s op hs hop => ?_) ⟨inv_create _ _ _, ok_create _ _ _⟩ h
    exact ⟨inv_step s op hs.1, (ok_step_iff s op hs.1 hs.2).mpr hop⟩
  refine hrun.mono fun s hs hvoice => ?_
  refine outstanding_of_pending hs.1 hs.2 ?_
  unfold IMSCall.isVoiceModifyToVideo at hvoice
  split at hvoice
  · exact nomatch hvoice
  · rename_i v hv
    rw [pending_of_installed hv, of_decide_eq_true hvoice]
    rfl

/-- The network that takes every message. -/
def reachable : Network := ⟨.telephonySuccess, .telephonySuccess, .telephonySuccess⟩

/-- A voice call asks for video, and a report with the mode of a video call
    overtakes the request; a second report is back at voice. -/
def overtakenUpgrade : List VideoOp :=
  [.initVideoCall, .updateImsCallMode reachable .sendReceive, .refreshCallIfNecessary .video,
    .refreshCallIfNecessary .voice]

/-- The overtaken request is left on the object for audio only, which a report
    installs again: the next upgrade is not sent. -/
theorem refresh_leaves_request :
    ¬ Run.StatesMeet step Ok (create 1 .active .voice) overtakenUpgrade ∧
      (Run.run step (create 1 .active .voice) overtakenUpgrade).outstanding = none ∧
      IMSCall.LocalRefused reachable
        (Run.run step (create 1 .active .voice) overtakenUpgrade).call .sendReceive := by
  refine ⟨fun h => ?_, by decide, by decide, by decide⟩
  have h := h.2.2.2.1.1 .audioOnly (by decide)
  revert h
  decide

end Negotiation

end CallManager
