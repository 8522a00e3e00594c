import CallManager.VideoCall

/-!
# Answering video requests

A request of the other side that is reported to the applications leaves the status
`STATUS_RECV_REQUEST` on the installed object. `UpdateImsCallMode` hands the mode of
an application to that object: as its answer if a request is pending, and as a
request of this side if none is.

Specification: while a reported request is pending, the next `UpdateImsCallMode`
that refuses it (audio only) or accepts it (both directions) sends exactly one
response and leaves no request pending; and every `UpdateImsCallMode` that succeeds
has sent exactly one message to the modem.

The object for both directions ignores every answer, and the one for receiving
ignores a refusal: both succeed, send nothing, and the one for both directions
stays in the status. Three branches of requests and two of answers succeed without
a message too, and so does every call while a request of this side is unanswered.

Results:
* `answered_iff`: the calls of a run are as specified iff each of them meets `Taken`.
* `refusal_ignored`: a request to receive only during a video call, and its refusal.
-/

namespace CallManager.VideoAnswers

/-! ## Specification -/

/-- The message is a request or a response for the modem. -/
def toModem : Dispatch → Bool
  | .updateRequest _ | .updateResponse _ => true
  | .reportVideoCallInfo _ => false

/-- The message is a response for the modem. -/
def isResponse : Dispatch → Bool
  | .updateResponse _ => true
  | _ => false

/-- The message reports a request of the other side to the applications. -/
def reportsRequest : Dispatch → Bool
  | .reportVideoCallInfo info => info.isRequestInfo
  | _ => false

/-- The objects of `videoStateMap_`. -/
def objects : List VideoState := [.audioOnly, .send, .receive, .sendReceive, .pause]

/-- A request of the other side is pending: an object has its status. -/
def remotePending (c : IMSCall) : Bool := objects.any fun v => c.updateStatus v = .recvRequest

/-- The call, and whether a request of the other side that is still pending has been
    reported to the applications. -/
structure Asked where
  call : IMSCall
  reported : Bool

/-- One operation. -/
def step (s : Asked) (op : VideoOp) : Asked :=
  let out := op.apply s.call
  ⟨out.call, remotePending out.call && (s.reported || out.sent.any reportsRequest)⟩

/-- A call with the mode of an answer sends exactly one response, and no request is
    pending after it. -/
def AnswersRequest (out : VideoOutcome) : Prop :=
  out.sent.countP isResponse = 1 ∧ remotePending out.call = false

/-- A call that succeeds has sent exactly one message to the modem. -/
def SuccessSends (out : VideoOutcome) : Prop :=
  out.ret = .telephonySuccess → out.sent.countP toModem = 1

/-- What one call of `UpdateImsCallMode` is to do. -/
def Answered (s : Asked) : VideoOp → Prop
  | .updateImsCallMode net mode =>
    let out := s.call.updateImsCallMode net mode
    (s.reported = true → mode = .audioOnly ∨ mode = .sendReceive → AnswersRequest out) ∧
      SuccessSends out
  | _ => True

/-- An object with the status `status` acts on a mode of the application: it sends a
    message, or refuses the mode. -/
def ActsOn (v : VideoState) (mode : ImsCallMode) : VideoUpdateStatus → Prop
  | .none =>
    ¬ (v = .audioOnly ∧ (mode = .sendOnly ∨ mode = .receiveOnly)) ∧
      ¬ (v = .receive ∧ mode.IsUpgrade)
  | .sendRequest => False
  | .recvRequest =>
    v ≠ .sendReceive ∧ mode ≠ .sendOnly ∧
      ¬ (v = .receive ∧ (mode = .audioOnly ∨ mode = .videoPaused))

instance (v : VideoState) (mode : ImsCallMode) (status : VideoUpdateStatus) :
    Decidable (ActsOn v mode status) := by
  cases status <;> unfold ActsOn <;> infer_instance

/-- The condition on a call of `UpdateImsCallMode`: the installed object acts on the mode. -/
def Taken (s : Asked) : VideoOp → Prop
  | .updateImsCallMode _ mode =>
    match s.call.videoCallState with
    | none => True
    | some v => ActsOn v mode (s.call.updateStatus v)
  | _ => True

instance (s : Asked) (op : VideoOp) : Decidable (Taken s op) := by
  unfold Taken
  split
  · split <;> infer_instance
  · infer_instance

/-! ## What every operation keeps -/

/-- An active call in order: only the installed object has a status, an object for
    sending or pausing never has one, and only the one for audio asks. -/
structure Orderly (c : IMSCall) : Prop where
  active : c.callState = .active
  installed : c.OnlyInstalledPending
  silent : c.updateStatus .send = .none ∧ c.updateStatus .pause = .none
  asks : ∀ v, c.updateStatus v = .sendRequest → v = .audioOnly

/-- An active call that has just been initialised is in order. -/
theorem orderly_initVideoCall (callId : ℤ) (type : VideoStateType) :
    Orderly (IMSCall.create callId .active type).initVideoCall :=
  ⟨rfl, fun _ h => absurd rfl h, ⟨rfl, rfl⟩, fun _ h => by cases h⟩

open Negotiation (Effect)

variable {v : VideoState} {net : Network} {c : IMSCall} {out : VideoOutcome}

/-- What every function of an object leaves: the state of the call, and no new request
    of the other side that is not reported. -/
structure Frame (c : IMSCall) (out : VideoOutcome) : Prop where
  callState : out.call.callState = c.callState
  reported : ∀ u, out.call.updateStatus u = .recvRequest →
    c.updateStatus u = .recvRequest ∨ out.sent.any reportsRequest = true

theorem Frame.keeps (ret : ErrorCode) (sent : List Dispatch) : Frame c ⟨ret, sent, c⟩ :=
  ⟨rfl, fun _ => .inl⟩

/-- A function that leaves the statuses or sets one to another value. -/
theorem Frame.sets {ret : ErrorCode} {sent : List Dispatch} {call : IMSCall}
    {status : VideoUpdateStatus} (hstate : call.callState = c.callState)
    (hcall : call.updateStatus = Function.update c.updateStatus v status)
    (hstatus : status ≠ .recvRequest) : Frame c ⟨ret, sent, call⟩ := by
  refine ⟨hstate, fun u hu => .inl ?_⟩
  change call.updateStatus u = _ at hu
  rw [hcall] at hu
  by_cases huv : u = v
  · subst huv
    rw [Function.update_self] at hu
    exact absurd hu hstatus
  · rw [Function.update_of_ne huv] at hu
    exact hu

theorem Frame.reports {ret : ErrorCode} {call : IMSCall} {info : CallMediaModeInfo}
    (hstate : call.callState = c.callState) (hinfo : info.isRequestInfo = true) :
    Frame c ⟨ret, [.reportVideoCallInfo info], call⟩ :=
  ⟨hstate, fun _ _ => .inr (by simpa [reportsRequest] using hinfo)⟩

theorem frame_sendRequest (mode : ImsCallMode) :
    Frame c (IMSCall.VideoState.sendUpdateCallMediaModeRequest v net c mode) := by
  cases v <;> cases mode <;>
    simp only [IMSCall.VideoState.sendUpdateCallMediaModeRequest,
      IMSCall.AudioOnlyState.sendUpdateCallMediaModeRequest,
      IMSCall.VideoSendState.sendUpdateCallMediaModeRequest,
      IMSCall.VideoReceiveState.sendUpdateCallMediaModeRequest,
      IMSCall.VideoSendReceiveState.sendUpdateCallMediaModeRequest,
      IMSCall.VideoPauseState.sendUpdateCallMediaModeRequest, IMSCall.requestAndSwitch]
  all_goals try split_ifs
  all_goals first
    | exact .keeps _ _
    | exact .sets rfl rfl (by decide)

theorem frame_sendResponse (mode : ImsCallMode) :
    Frame c (IMSCall.VideoState.sendUpdateCallMediaModeResponse v net c mode) := by
  cases v <;> cases mode <;>
    simp only [IMSCall.VideoState.sendUpdateCallMediaModeResponse,
      IMSCall.AudioOnlyState.sendUpdateCallMediaModeResponse,
      IMSCall.VideoSendState.sendUpdateCallMediaModeResponse,
      IMSCall.VideoReceiveState.sendUpdateCallMediaModeResponse,
      IMSCall.VideoSendReceiveState.sendUpdateCallMediaModeResponse,
      IMSCall.VideoPauseState.sendUpdateCallMediaModeResponse]
  all_goals try split_ifs
  all_goals first
    | exact .keeps _ _
    | exact .sets rfl rfl (by decide)

theorem frame_recieveRequest {info : CallMediaModeInfo} (hinfo : info.isRequestInfo = true) :
    Frame c (IMSCall.VideoState.recieveUpdateCallMediaModeRequest v net c info) := by
  obtain ⟨callId, isRequest, result, mode⟩ := info
  cases v <;> cases mode <;>
    simp only [IMSCall.VideoState.recieveUpdateCallMediaModeRequest,
      IMSCall.AudioOnlyState.recieveUpdateCallMediaModeRequest,
      IMSCall.VideoSendState.recieveUpdateCallMediaModeRequest,
      IMSCall.VideoReceiveState.recieveUpdateCallMediaModeRequest,
      IMSCall.VideoSendReceiveState.recieveUpdateCallMediaModeRequest,
      IMSCall.VideoPauseState.recieveUpdateCallMediaModeRequest]
  all_goals try split_ifs
  all_goals first
    | exact .keeps _ _
    | exact .reports rfl hinfo
    | exact .sets rfl rfl (by decide)

theorem frame_receiveResponse {info : CallMediaModeInfo} :
    Frame c (IMSCall.VideoState.receiveUpdateCallMediaModeResponse v net c info) := by
  obtain ⟨callId, isRequest, result, mode⟩ := info
  cases v <;> cases mode <;>
    simp only [IMSCall.VideoState.receiveUpdateCallMediaModeResponse,
      IMSCall.AudioOnlyState.receiveUpdateCallMediaModeResponse,
      IMSCall.VideoSendState.receiveUpdateCallMediaModeResponse,
      IMSCall.VideoReceiveState.receiveUpdateCallMediaModeResponse,
      IMSCall.VideoSendReceiveState.receiveUpdateCallMediaModeResponse,
      IMSCall.VideoPauseState.receiveUpdateCallMediaModeResponse]
  all_goals try split_ifs
  all_goals first
    | exact .keeps _ _
    | exact .sets rfl rfl (by decide)

theorem frame_apply {op : VideoOp} (hop : op.IsNegotiation) : Frame c (op.apply c) := by
  cases op with
  | updateImsCallMode net mode =>
    unfold VideoOp.apply IMSCall.updateImsCallMode
    dsimp only
    by_cases hactive : c.callState ≠ .active
    · rw [if_pos hactive]
      exact .keeps _ _
    rw [if_neg hactive]
    cases c.videoCallState with
    | none => exact .keeps _ _
    | some v =>
      dsimp only
      cases c.updateStatus v with
      | none => exact frame_sendRequest mode
      | recvRequest => exact frame_sendResponse mode
      | sendRequest => exact .keeps _ _
  | recieveUpdateCallMediaModeRequest net response =>
    unfold VideoOp.apply IMSCall.recieveUpdateCallMediaModeRequest
    dsimp only
    cases c.videoCallState with
    | none => exact .keeps _ _
    | some v => exact frame_recieveRequest rfl
  | receiveUpdateCallMediaModeResponse net response =>
    unfold VideoOp.apply IMSCall.receiveUpdateCallMediaModeResponse
    dsimp only
    cases c.videoCallState with
    | none => exact .keeps _ _
    | some v => exact frame_receiveResponse
  | initVideoCall | refreshCallIfNecessary _ | setTelCallState _ => exact hop.elim

theorem remotePending_iff : remotePending c = true ↔ ∃ v, c.updateStatus v = .recvRequest := by
  unfold remotePending
  rw [List.any_eq_true]
  refine ⟨fun ⟨v, _, h⟩ => ⟨v, of_decide_eq_true h⟩, fun ⟨v, h⟩ => ⟨v, ?_, decide_eq_true h⟩⟩
  cases v <;> decide

/-- An operation keeps a call in order. -/
theorem Orderly.apply {op : VideoOp} (hop : op.IsNegotiation) (h : Orderly c) :
    Orderly (op.apply c).call := by
  cases hv : c.videoCallState with
  | none =>
    rw [Negotiation.apply_of_not_installed hop hv]
    exact h
  | some v =>
    have heffect := Negotiation.apply_effect hop hv
    exact ⟨(frame_apply hop).callState.trans h.active,
      heffect.onlyInstalledPending hv h.silent.1 h.installed, heffect.silent h.silent,
      heffect.asks h.asks⟩

/-- The state of a run: the call is in order, and a pending request has been reported. -/
structure Inv (s : Asked) : Prop where
  orderly : Orderly s.call
  reported : s.reported = remotePending s.call

theorem inv_step (s : Asked) (op : VideoOp) (hop : op.IsNegotiation) (h : Inv s) :
    Inv (step s op) := by
  refine ⟨h.orderly.apply hop, ?_⟩
  unfold step
  dsimp only
  rw [Bool.and_eq_left_iff_imp, h.reported, Bool.or_eq_true, remotePending_iff, remotePending_iff]
  rintro ⟨u, hu⟩
  exact ((frame_apply hop).reported u hu).imp_left fun hold => ⟨u, hold⟩

/-! ## One call of `UpdateImsCallMode` -/

/-- In a call in order a request is pending iff the installed object has its status. -/
theorem remotePending_of_installed (h : c.OnlyInstalledPending) (hv : c.videoCallState = some v) :
    remotePending c = true ↔ c.updateStatus v = .recvRequest := by
  rw [remotePending_iff]
  refine ⟨fun ⟨u, hu⟩ => ?_, fun hrecv => ⟨v, hrecv⟩⟩
  have hinstalled := h u (by rw [hu]; decide)
  rw [Option.some.inj (hv.symm.trans hinstalled)]
  exact hu

theorem not_remotePending_of_none (h : c.OnlyInstalledPending) (hv : c.videoCallState = none) :
    remotePending c = false := by
  rw [Bool.eq_false_iff, Ne, remotePending_iff]
  rintro ⟨u, hu⟩
  exact Option.some_ne_none u ((h u (by rw [hu]; decide)).symm.trans hv)

/-- A call whose installed object's status is cleared has no request pending. -/
theorem not_remotePending_of_clear (h : c.OnlyInstalledPending) (hv : c.videoCallState = some v)
    {call : IMSCall} (hcall : call.updateStatus = Function.update c.updateStatus v .none) :
    remotePending call = false := by
  rw [Bool.eq_false_iff, Ne, remotePending_iff]
  rintro ⟨u, hu⟩
  rw [hcall] at hu
  by_cases huv : u = v
  · rw [huv, Function.update_self] at hu
    exact absurd hu (by decide)
  · rw [Function.update_of_ne huv, Negotiation.updateStatus_of_not_installed h hv huv] at hu
    exact absurd hu (by decide)

/-- A request that succeeds has been sent, except in the branches that do nothing. -/
theorem successSends_sendRequest_iff (hnone : c.updateStatus v = .none) (mode : ImsCallMode) :
    SuccessSends (IMSCall.VideoState.sendUpdateCallMediaModeRequest v net c mode) ↔
      ActsOn v mode .none := by
  have hswitch : ∀ mode, SuccessSends (IMSCall.requestAndSwitch v net c mode) := by
    intro mode
    unfold IMSCall.requestAndSwitch
    split_ifs <;> exact fun _ => rfl
  cases v <;> cases mode <;>
    simp only [IMSCall.VideoState.sendUpdateCallMediaModeRequest,
      IMSCall.AudioOnlyState.sendUpdateCallMediaModeRequest,
      IMSCall.VideoSendState.sendUpdateCallMediaModeRequest,
      IMSCall.VideoReceiveState.sendUpdateCallMediaModeRequest,
      IMSCall.VideoSendReceiveState.sendUpdateCallMediaModeRequest,
      IMSCall.VideoPauseState.sendUpdateCallMediaModeRequest, ActsOn, ImsCallMode.IsUpgrade,
      hswitch]
  all_goals try split_ifs
  all_goals simp_all [SuccessSends, toModem]

/-- A pending request is answered, and no answer succeeds without being sent, except in
    the branches that ignore the answer. -/
theorem answered_sendResponse_iff (h : Orderly c) (hv : c.videoCallState = some v)
    (hrecv : c.updateStatus v = .recvRequest) (mode : ImsCallMode) :
    ((mode = .audioOnly ∨ mode = .sendReceive →
        AnswersRequest (IMSCall.VideoState.sendUpdateCallMediaModeResponse v net c mode)) ∧
      SuccessSends (IMSCall.VideoState.sendUpdateCallMediaModeResponse v net c mode)) ↔
      ActsOn v mode .recvRequest := by
  have hsupport : c.isSupportVideoCall = true := by simp [IMSCall.isSupportVideoCall, h.active]
  have hclear : ∀ (mode : ImsCallMode) (call : IMSCall),
      call.updateStatus = Function.update c.updateStatus v .none →
        AnswersRequest ⟨.telephonySuccess, [.updateResponse mode], call⟩ :=
    fun mode call hcall => ⟨rfl, not_remotePending_of_clear h.installed hv hcall⟩
  have hsent : ∀ (mode : ImsCallMode) (call : IMSCall),
      SuccessSends ⟨.telephonySuccess, [.updateResponse mode], call⟩ := fun _ _ _ => rfl
  have hsilent : ∀ call : IMSCall, ¬ SuccessSends ⟨.telephonySuccess, [], call⟩ :=
    fun _ hsends => absurd (hsends rfl) Nat.zero_ne_one
  cases v with
  | send => exact absurd (hrecv.symm.trans h.silent.1) (by decide)
  | pause => exact absurd (hrecv.symm.trans h.silent.2) (by decide)
  | sendReceive => exact iff_of_false (fun h => hsilent c h.2) fun hacts => hacts.1 rfl
  | audioOnly =>
    cases mode with
    | audioOnly | receiveOnly | sendReceive =>
      simp only [IMSCall.VideoState.sendUpdateCallMediaModeResponse,
        IMSCall.AudioOnlyState.sendUpdateCallMediaModeResponse, hsupport, hrecv,
        not_true_eq_false, ne_eq, if_false]
      exact iff_of_true ⟨fun _ => hclear _ _ rfl, hsent _ _⟩ (by decide)
    | sendOnly => exact iff_of_false (fun h => hsilent c h.2) fun hacts => hacts.2.1 rfl
    | videoPaused =>
      exact iff_of_true ⟨fun h => absurd h (by decide), fun h => by cases h⟩ (by decide)
    | other =>
      exact iff_of_true ⟨fun h => absurd h (by simp), fun h => by cases h⟩ (by simp [ActsOn])
  | receive =>
    cases mode with
    | audioOnly | videoPaused =>
      exact iff_of_false (fun h => hsilent _ h.2) (by decide)
    | sendOnly => exact iff_of_false (fun h => hsilent c h.2) fun hacts => hacts.2.1 rfl
    | receiveOnly | sendReceive =>
      simp only [IMSCall.VideoState.sendUpdateCallMediaModeResponse,
        IMSCall.VideoReceiveState.sendUpdateCallMediaModeResponse, hrecv, not_true_eq_false, ne_eq,
        if_false]
      exact iff_of_true ⟨fun _ => hclear _ _ rfl, hsent _ _⟩ (by decide)
    | other =>
      exact iff_of_true ⟨fun h => absurd h (by simp), fun h => by cases h⟩ (by simp [ActsOn])

/-- **One step.** A call of `UpdateImsCallMode` is as specified iff the installed object
    acts on the mode. -/
theorem answered_iff_taken (s : Asked) (op : VideoOp) (h : Inv s) :
    Answered s op ↔ Taken s op := by
  cases op with
  | updateImsCallMode net mode =>
    unfold Answered Taken IMSCall.updateImsCallMode
    dsimp only
    rw [if_neg (not_not.mpr h.orderly.active), h.reported]
    cases hv : s.call.videoCallState with
    | none =>
      rw [not_remotePending_of_none h.orderly.installed hv]
      exact iff_of_true ⟨fun h => (by cases h), fun h => by cases h⟩ trivial
    | some v =>
      dsimp only
      have hpending := remotePending_of_installed h.orderly.installed hv
      cases hstatus : s.call.updateStatus v with
      | none =>
        rw [← @successSends_sendRequest_iff v net s.call hstatus mode]
        refine and_iff_right fun hrep => ?_
        exact absurd (hstatus.symm.trans (hpending.mp hrep)) (by decide)
      | recvRequest =>
        rw [← @answered_sendResponse_iff v net s.call h.orderly hv hstatus mode]
        exact and_congr_left' (forall_prop_of_true (hpending.mpr hstatus))
      | sendRequest => exact iff_of_false (fun hsends => absurd (hsends.2 rfl) Nat.zero_ne_one) id
  | _ => exact Iff.rfl

/-! ## Runs -/

/-- **Answering video requests.** In every run of calls of `UpdateImsCallMode`, requests
    and responses of the other side, from an active call in order, each refusal or
    acceptance of a reported request that is pending sends exactly one response and
    leaves none pending, and each call that succeeds has sent exactly one message, iff
    the installed object acts on the mode of each call. -/
theorem answered_iff (c : IMSCall) (h : Orderly c) (ops : List VideoOp)
    (hops : ∀ op ∈ ops, op.IsNegotiation) :
    Run.StepsMeet step Answered ⟨c, remotePending c⟩ ops ↔
      Run.StepsMeet step Taken ⟨c, remotePending c⟩ ops :=
  Run.stepsMeet_iff_of_ops (I := Inv) inv_step (fun s op _ => answered_iff_taken s op) ops hops
    ⟨h, rfl⟩

/-- A modem that accepts whatever it is asked. -/
def accepting : Network := ⟨.telephonySuccess, .telephonySuccess, .telephonySuccess⟩

/-- A request of the other side that is accepted, and the downgrade of this side. -/
def acceptedOps : List VideoOp :=
  [.recieveUpdateCallMediaModeRequest accepting ⟨.success, .sendReceive⟩,
    .updateImsCallMode accepting .sendReceive, .updateImsCallMode accepting .audioOnly]

theorem request_accepted :
    Run.StepsMeet step Answered ⟨(IMSCall.create 1 .active .voice).initVideoCall, false⟩
      acceptedOps :=
  (answered_iff _ (orderly_initVideoCall 1 .voice) acceptedOps
    (by simp [acceptedOps, VideoOp.IsNegotiation])).mpr (by decide)

/-- A request during a video call to receive only, and its refusal. -/
def refusedOps : List VideoOp :=
  [.recieveUpdateCallMediaModeRequest accepting ⟨.success, .receiveOnly⟩,
    .updateImsCallMode accepting .audioOnly]

/-- The object for both directions ignores the refusal: nothing is sent, and the request
    stays pending. -/
theorem refusal_ignored :
    ¬ ∀ (c : IMSCall), Orderly c → ∀ ops : List VideoOp, (∀ op ∈ ops, op.IsNegotiation) →
      Run.StepsMeet step Answered ⟨c, remotePending c⟩ ops := by
  intro hall
  have hcall : Orderly (IMSCall.create 1 .active .video).initVideoCall :=
    ⟨rfl, fun _ h => absurd rfl h, ⟨rfl, rfl⟩, fun _ h => by cases h⟩
  obtain ⟨-, ⟨hanswers, -⟩, -⟩ := hall _ hcall refusedOps
    (by simp [refusedOps, VideoOp.IsNegotiation])
  exact absurd (hanswers rfl (.inl rfl)).1 (by decide)

end CallManager.VideoAnswers
