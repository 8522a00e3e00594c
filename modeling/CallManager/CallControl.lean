import CallManager.CallCommands
import CallManager.CallLookups
import CallManager.CallStateReport
import CallManager.Library.StopLoop
import CallManager.VideoCall

/-!
# Answering, rejecting and hanging up

`CallControlManager` serves the requests of the applications: it looks the call up,
asks `CallPolicy` whether the request is allowed, and hands it to the request
handler. Three functions end several calls at once, and stop at the first that
fails. A request to answer that comes while a VoIP call goes on is kept in a slot,
and made when the VoIP state becomes idle.

`Init` sets the request handler and the notification of missed calls before any
request, so they are there. What the handler returns is an input. Reports for
statistics, the flash light and the preloading of the call UI are left out.

The repository demands that a policy is asked before anything is changed, sent or
shown. `RejectCall` keeps to it, but it marks and publishes the ringing call that was
added last, whichever call it was asked to reject. `AnswerCall` does not: the call is
marked, its video state is set, the answer is notified and other calls are ended
before `AnswerCallPolicy` is asked.

Results:
* `rejectsOnly_iff`: an accepted call is rejected, marked and published, and no
  other one, iff it is the last ringing call and the handler takes the request.
* `policyFirst_iff`: an answer that the policy refuses has no effect iff no call rings
  or there is no call with the id.
-/

namespace CallManager.CallControl

open CallLookups (voipCallMinimum)
open CallStateReport (CallStateToApp)

/-! ## Model -/

/-- `RejectType` (call_manager_info.h:975-984). -/
inductive RejectType
  | normal | missedCall
  deriving DecidableEq, Repr

/-- A stored call, with what the requests read and write. `GetNewCallId` counts from
    1, and an incoming or waiting call is in the running state of a ringing one. The
    video state is a number, as the applications give it. -/
structure ControlCall where
  callId : ℤ
  callType : CallType
  callState : TelCallState
  callRunningState : CallRunningState
  videoState : ℤ
  videoCallState : Option VideoState
  isInitialized : Bool
  isAnswered : Bool
  rejectType : RejectType
  numbered : callId ≠ CallLookups.invalidCallId
  rings : callState = .incoming ∨ callState = .waiting → callRunningState = .ringing
  deriving DecidableEq

/-- The calls, in the order they were added. -/
abbrev CallStore := OrderedMap ControlCall.callId

/-- A request as `CallRequestHandler` gets it. -/
inductive ControlRequest
  | answerCall (callId videoState : ℤ) (isRTT : Bool)
  | rejectCall (callId : ℤ)
  | hangUpCall (callId : ℤ)
  deriving DecidableEq, Repr

/-- The events of `sendEventToVoip`. -/
inductive VoipEvent
  | answer | reject | hangUp
  deriving DecidableEq, Repr

/-- What a function sends, shows or notifies. -/
inductive ControlEvent
  | request (r : ControlRequest)
  | setPendingHangup (callId : ℤ)
  | sendEventToVoip (e : VoipEvent)
  | publishMissedCallEvent (callId : ℤ)
  | muteRinger
  | dialogConnectAnswerPrivacyModeExtension (callId videoState : ℤ)
  | notifyCallStateUpdated (callId : ℤ) (priorState nextState : TelCallState)
  deriving DecidableEq, Repr

/-- What the functions find outside the store: whether `voipCallObjectList_` has an
    entry, what the handler returns, whether a dial of a call is pending, and what
    `CanCallWithSuperPrivacyPolicy` says. -/
structure ControlEnv where
  isVoipCallExist : Bool
  handler : ControlRequest → ErrorCode
  hasPendingMo : ℤ → Bool
  canCallWithSuperPrivacyPolicy : Bool

/-- What a function returns, and what it has sent. -/
structure Requested where
  ret : ErrorCode
  sent : List ControlEvent

namespace CallStore

variable (calls : CallStore)

/-- `GetOneCallObject(callState)`. -/
def getOneCallObject : CallRunningState → Option ControlCall :=
  StoredCalls.getOneCallObject (·.callRunningState) calls.entries

/-- `GetCallState(callId)` (call_object_manager.cpp:669-681). -/
def getCallState (callId : ℤ) : TelCallState :=
  match calls.lookup callId with
  | none => .idle
  | some it => it.callState

end CallStore

/-- `RejectCallPolicy` (call_policy.cpp:348-360), which is also the second half of
    `AnswerCallPolicy`. -/
def rejectCallPolicy (calls : CallStore) (callId : ℤ) : ErrorCode :=
  if ¬ calls.Mem callId then .telephonyErrArgumentInvalid
  else if CallStore.getCallState calls callId ≠ .incoming ∧
      CallStore.getCallState calls callId ≠ .waiting then
    .callErrIllegalCallOperation
  else .telephonySuccess

/-- `AnswerCallPolicy` (call_policy.cpp:329-346). -/
def answerCallPolicy (calls : CallStore) (callId videoState : ℤ) : ErrorCode :=
  if videoState ≠ VideoStateType.voice.number ∧ videoState ≠ VideoStateType.video.number then
    .telephonyErrArgumentInvalid
  else rejectCallPolicy calls callId

/-- `HangUpPolicy` (call_policy.cpp:390-403). -/
def hangUpPolicy (calls : CallStore) (callId : ℤ) : ErrorCode :=
  if ¬ calls.Mem callId then .telephonyErrArgumentInvalid
  else if CallStore.getCallState calls callId ∈
      [TelCallState.idle, .disconnecting, .disconnected] then
    .callErrIllegalCallOperation
  else .telephonySuccess

section Requests

variable (env : ControlEnv) (calls : CallStore)

/-- `callRunningStateVec` of `HangUpCall` (call_control_manager.cpp:452-456). -/
def callRunningStateVec : List CallRunningState := [.active, .dialing, .connecting, .hold]

/-- The id that `HangUpCall` uses: for the invalid one that of the last call in the
    first of these states that has one. -/
def hungUpId (callId : ℤ) : ℤ :=
  if callId = CallLookups.invalidCallId then
    match callRunningStateVec.findSome? (CallStore.getOneCallObject calls) with
    | none => CallLookups.invalidCallId
    | some call => call.callId
  else callId

/-- `HangUpCall` (call_control_manager.cpp:449-500). -/
def hangUpCall (callId : ℤ) : Requested :=
  let callId := hungUpId calls callId
  if callId = CallLookups.invalidCallId then ⟨.telephonyErrArgumentInvalid, []⟩
  else if hangUpPolicy calls callId ≠ .telephonySuccess then
    if voipCallMinimum ≤ callId ∧ env.isVoipCallExist then
      ⟨.telephonySuccess, [.sendEventToVoip .hangUp]⟩
    else ⟨hangUpPolicy calls callId, []⟩
  else if env.hasPendingMo callId then ⟨.telephonySuccess, [.setPendingHangup callId]⟩
  else ⟨env.handler (.hangUpCall callId), [.request (.hangUpCall callId)]⟩

/-- `SetRejectType` of a stored call. -/
def setRejectType (callId : ℤ) (rejectType : RejectType) : CallStore :=
  calls.modify callId (fun it => { it with rejectType }) fun _ => rfl

/-- `RejectCall` (call_control_manager.cpp:403-447). -/
def rejectCall (callId : ℤ) (rejectType : RejectType) : Requested × CallStore :=
  match CallStore.getOneCallObject calls .ringing with
  | none => (⟨.telephonyErrLocalPtrNull, []⟩, calls)
  | some call =>
    let callId := if callId = CallLookups.invalidCallId then call.callId else callId
    if rejectCallPolicy calls callId ≠ .telephonySuccess then
      if voipCallMinimum ≤ callId ∧ env.isVoipCallExist then
        (⟨.telephonySuccess, [.sendEventToVoip .reject]⟩, calls)
      else (⟨rejectCallPolicy calls callId, []⟩, calls)
    else
      let ret := env.handler (.rejectCall callId)
      if ret ≠ .telephonySuccess then (⟨ret, [.request (.rejectCall callId)]⟩, calls)
      else if rejectType = .missedCall then
        (⟨.telephonySuccess,
            [.request (.rejectCall callId), .publishMissedCallEvent call.callId]⟩,
          setRejectType calls call.callId rejectType)
      else (⟨.telephonySuccess, [.request (.rejectCall callId)]⟩, calls)

end Requests

/-! ### Ending several calls -/

/-- A turn of a loop over calls: the call object and the store as the turn finds
    them. Other threads may have changed both since the list was made. -/
structure Turn where
  call : ControlCall
  calls : CallStore

/-- The turns over the calls of a store that does not change meanwhile. -/
def turnsOf (calls : CallStore) (list : List ControlCall) : List Turn := list.map (⟨·, calls⟩)

/-- What a turn of the loops comes to: what the request returns, or nothing for a null
    call that is dereferenced, and what it sends. -/
abbrev TurnResult := Option ErrorCode × List ControlEvent

/-- The result of a request is that of the turn. -/
def Requested.turn (r : Requested) : TurnResult := (some r.ret, r.sent)

/-- The loops go on after a success. -/
def GoesOn (ret : Option ErrorCode) : Prop := ret = some .telephonySuccess

instance (ret : Option ErrorCode) : Decidable (GoesOn ret) :=
  inferInstanceAs (Decidable (ret = some .telephonySuccess))

/-- The loops of the three functions. -/
def requestLoop (turn : Turn → TurnResult) (turns : List Turn) : TurnResult :=
  StopLoop.stopLoop GoesOn turn (some .telephonySuccess) turns

section Bulk

variable (env : ControlEnv)

/-- A turn of the loop of `SetVoIPCallState` (call_control_manager.cpp:1500-1505). -/
def hangUpTurn (t : Turn) : TurnResult := (hangUpCall env t.calls t.call.callId).turn

/-- `RejectCall` of a conflicting VoIP call, with the text for it. -/
def rejectConflict (calls : CallStore) (callId : ℤ) : TurnResult :=
  (rejectCall env calls callId .normal).1.turn

/-- A turn of the loop of `HangUpVoipCall` (call_control_manager.cpp:1739-1761). -/
def hangUpVoipTurn (t : Turn) : TurnResult :=
  if t.call.callType ≠ .voip then (some .telephonySuccess, [])
  else if t.call.callState = .active then (some .telephonySuccess, [])
  else if t.call.callState = .incoming then rejectConflict env t.calls t.call.callId
  else hangUpTurn env t

/-- A turn of the loop of `CarrierAndVoipConflictProcess` (call_control_manager.cpp:383-396):
    the call is looked up again, and read without a test. -/
def conflictTurn (t : Turn) : TurnResult :=
  match t.calls.lookup t.call.callId with
  | none => (none, [])
  | some voipCall =>
    if voipCall.callState = .incoming then rejectConflict env t.calls t.call.callId
    else if voipCall.callState = .dialing then hangUpTurn env t
    else (some .telephonySuccess, [])

/-- `HangUpVoipCall` (call_control_manager.cpp:1736-1763). -/
def hangUpVoipCall (turns : List Turn) : TurnResult := requestLoop (hangUpVoipTurn env) turns

/-- The types of the calls that conflict with VoIP calls. -/
def IsCarrier (call : ControlCall) : Prop :=
  call.callType = .cs ∨ call.callType = .ims ∨ call.callType = .satellite

instance (call : ControlCall) : Decidable (IsCarrier call) :=
  inferInstanceAs (Decidable (_ ∨ _ ∨ _))

/-- The calls that `GetVoipCallList` lists (call_object_manager.cpp:403-414). -/
def voipCalls (calls : CallStore) : List ControlCall :=
  calls.entries.filter fun it => it.callType = .voip

/-- `CarrierAndVoipConflictProcess` (call_control_manager.cpp:365-401), with the turns over the
    VoIP calls. -/
def carrierAndVoipConflictProcess (calls : CallStore) (callId : ℤ) (callState : TelCallState)
    (turns : List Turn) : TurnResult :=
  if callState ≠ .answered then (some .telephonySuccess, [])
  else
    match calls.lookup callId with
    | none => (some .telephonyErrLocalPtrNull, [])
    | some call =>
      if IsCarrier call then requestLoop (conflictTurn env) turns
      else (some .telephonySuccess, [])

end Bulk

/-! ### Answering -/

/-- `AnsweredCallQueue` (call_control_manager.h:290-294). -/
structure AnsweredCallQueue where
  hasCall : Bool
  callId : ℤ
  videoState : ℤ
  deriving DecidableEq, Repr

/-- The state of `CallControlManager`. -/
structure ControlWorld where
  calls : CallStore
  voIPCallState : CallStateToApp
  answeredCallQueue : AnsweredCallQueue

/-- What a function returns, what it has sent, and the state after it. -/
structure ControlOutcome where
  ret : ErrorCode
  sent : List ControlEvent
  world : ControlWorld

section Answer

variable (env : ControlEnv) (calls : CallStore)

/-- `GetRingCall` (call_control_manager.cpp:253-267). -/
def getRingCall (callId : ℤ) : Option ControlCall :=
  match CallStore.getOneCallObject calls .ringing with
  | none => none
  | some call => calls.lookup (if callId = CallLookups.invalidCallId then call.callId else callId)

/-- `SetAnsweredCall(true)` of a stored call. -/
def setAnsweredCall (callId : ℤ) : CallStore :=
  calls.modify callId (fun it => { it with isAnswered := true }) fun _ => rfl

/-- The object that `AssignVideoCallState` installs for a video state (ims_call.cpp:81-100). -/
def assignedVideoCallState (videoState : ℤ) : VideoState :=
  if videoState = VideoStateType.sendOnly.number then .send
  else if videoState = VideoStateType.receiveOnly.number then .receive
  else if videoState = VideoStateType.video.number then .sendReceive
  else .audioOnly

/-- `SetVideoStateType` and `InitVideoCall` of a stored call. -/
def initVideoCall (callId videoState : ℤ) : CallStore :=
  calls.modify callId (fun it =>
    { it with
      videoState
      videoCallState := some (assignedVideoCallState videoState)
      isInitialized := true }) fun _ => rfl

/-- `AnswerHandlerForSatelliteOrVideoCall` (call_control_manager.cpp:344-363): the requests and
    the calls after it. -/
def answerHandlerForSatelliteOrVideoCall (call : ControlCall) (videoState : ℤ) :
    List ControlEvent × CallStore :=
  if call.callType = .ims then
    ([], if videoState ≠ call.videoState then initVideoCall calls call.callId videoState else calls)
  else if call.callType = .satellite then
    match CallStore.getOneCallObject calls .active with
    | none => ([], calls)
    | some foregroundSatelliteCall =>
      ([.request (.hangUpCall foregroundSatelliteCall.callId)], calls)
  else ([], calls)

/-- What `AnswerCall` sends to the other calls, and notifies, before it asks the policy. -/
def sentBeforePolicy (call : ControlCall) (videoState : ℤ) : List ControlEvent × CallStore :=
  let (sent, calls) := answerHandlerForSatelliteOrVideoCall calls call videoState
  let conflicts := carrierAndVoipConflictProcess env calls call.callId .answered
    (turnsOf calls (voipCalls calls))
  (sent ++ [.notifyCallStateUpdated call.callId .incoming .answered] ++ conflicts.2, calls)

/-- `AnswerCall` (call_control_manager.cpp:269-312; without `NOT_SUPPORT_MULTICALL` and
    `CALL_MANAGER_CALL_TRANSFER`). -/
def answerCall (w : ControlWorld) (callId videoState : ℤ) (isRTT : Bool) : ControlOutcome :=
  match getRingCall w.calls callId with
  | none => ⟨.telephonyErrLocalPtrNull, [], w⟩
  | some call =>
    let ringCallId := call.callId
    let calls := setAnsweredCall w.calls ringCallId
    if env.canCallWithSuperPrivacyPolicy = false then
      ⟨.telephonySuccess,
        [.muteRinger, .dialogConnectAnswerPrivacyModeExtension ringCallId videoState],
        { w with calls }⟩
    else
      let (sent, calls) := sentBeforePolicy env calls call videoState
      if w.voIPCallState ≠ .idle ∧ call.callType ≠ .voip then
        ⟨.telephonySuccess, sent,
          { w with calls, answeredCallQueue := ⟨true, ringCallId, videoState⟩ }⟩
      else if answerCallPolicy calls ringCallId videoState ≠ .telephonySuccess then
        if env.isVoipCallExist then
          ⟨.telephonySuccess, sent ++ [.sendEventToVoip .answer], { w with calls }⟩
        else ⟨answerCallPolicy calls ringCallId videoState, sent, { w with calls }⟩
      else
        ⟨env.handler (.answerCall ringCallId videoState isRTT),
          sent ++ [.request (.answerCall ringCallId videoState isRTT)], { w with calls }⟩

/-- `SetVoIPCallState` (call_control_manager.cpp:1486-1518), with the turns over all calls that
    the first two of its branches take. -/
def setVoIPCallState (w : ControlWorld) (state : CallStateToApp) (turns : List Turn) :
    Option ErrorCode × List ControlEvent × ControlWorld :=
  let w := { w with voIPCallState := state }
  match state with
  | .answered =>
    let r := requestLoop (hangUpTurn env) turns
    (r.1, r.2, w)
  | .offhook => (some .telephonySuccess, (hangUpVoipCall env turns).2, w)
  | .idle =>
    if w.answeredCallQueue.hasCall then
      let queue := w.answeredCallQueue
      let r := answerCall env { w with answeredCallQueue := { queue with hasCall := false } }
        queue.callId queue.videoState false
      (some r.ret, r.sent, r.world)
    else (some .telephonySuccess, [], w)
  | .unknown | .ringing => (some .telephonySuccess, [], w)

end Answer

/-! ## Specification -/

/-- The event is a request to the handler. -/
def ControlEvent.isRequest : ControlEvent → Bool
  | .request _ => true
  | _ => false

/-- The event publishes a missed call. -/
def ControlEvent.isMissedCall : ControlEvent → Bool
  | .publishMissedCallEvent _ => true
  | _ => false

/-- The call with the id is rejected, marked and published as missed, and no other one. -/
structure RejectsOnly (calls : CallStore) (callId : ℤ) (out : Requested × CallStore) : Prop where
  rejected : out.1.sent.filter ControlEvent.isRequest = [.request (.rejectCall callId)]
  published : out.1.sent.filter ControlEvent.isMissedCall = [.publishMissedCallEvent callId]
  marked : out.2 = setRejectType calls callId .missedCall

/-- The id that `AnswerCall` answers. -/
def answeredId (calls : CallStore) (callId : ℤ) : ℤ :=
  if callId = CallLookups.invalidCallId then
    match CallStore.getOneCallObject calls .ringing with
    | none => CallLookups.invalidCallId
    | some call => call.callId
  else callId

/-- `AnswerCallPolicy` refuses the answer. -/
def RefusesAnswer (calls : CallStore) (callId videoState : ℤ) : Prop :=
  answerCallPolicy calls (answeredId calls callId) videoState ≠ .telephonySuccess

instance (calls : CallStore) (callId videoState : ℤ) :
    Decidable (RefusesAnswer calls callId videoState) := inferInstanceAs (Decidable (_ ≠ _))

/-- A request has no effect: nothing is sent, shown or notified, and the state is what it was. -/
structure NoEffect (w : ControlWorld) (out : ControlOutcome) : Prop where
  sent : out.sent = []
  world : out.world = w

/-- An answer that the policy refuses has no effect. -/
def PolicyFirst (w : ControlWorld) (callId videoState : ℤ) (out : ControlOutcome) : Prop :=
  RefusesAnswer w.calls callId videoState → NoEffect w out

/-! ## The policies -/

variable {env : ControlEnv} {calls : CallStore} {callId : ℤ}

/-- A call that may be rejected or answered is stored and rings. -/
theorem rejectCallPolicy_success_iff :
    rejectCallPolicy calls callId = .telephonySuccess ↔
      ∃ it, calls.lookup callId = some it ∧
        (it.callState = .incoming ∨ it.callState = .waiting) := by
  have hmem := OrderedMap.mem_iff_lookup calls callId
  unfold rejectCallPolicy CallStore.getCallState
  cases hlookup : calls.lookup callId with
  | none =>
    have hnot : ¬ calls.Mem callId := fun h => by simpa [hlookup] using hmem.mp h
    rw [if_pos hnot]
    refine iff_of_false (fun h => by cases h) ?_
    rintro ⟨_, h, -⟩
    cases h
  | some it =>
    rw [if_neg (not_not.mpr (hmem.mpr (by rw [hlookup]; rfl)))]
    dsimp only
    by_cases hstate : it.callState = .incoming ∨ it.callState = .waiting
    · rw [if_neg fun h => hstate.elim h.1 h.2]
      exact iff_of_true rfl ⟨it, rfl, hstate⟩
    · rw [if_pos (not_or.mp hstate)]
      refine iff_of_false (fun h => by cases h) ?_
      rintro ⟨_, heq, h⟩
      cases heq
      exact hstate h

/-- A call that may be rejected is found in the running state of a ringing one, maybe
    beside others. -/
theorem exists_ringing (h : rejectCallPolicy calls callId = .telephonySuccess) :
    callId ≠ CallLookups.invalidCallId ∧
      ∃ call, CallStore.getOneCallObject calls .ringing = some call := by
  obtain ⟨it, hit, hstate⟩ := rejectCallPolicy_success_iff.mp h
  obtain ⟨hmem, hid⟩ := OrderedMap.lookup_spec hit
  refine ⟨hid ▸ it.numbered, Option.isSome_iff_exists.mp ?_⟩
  rw [CallStore.getOneCallObject, StoredCalls.isSome_getOneCallObject]
  exact ⟨it, hmem, it.rings hstate⟩

/-! ## Rejecting a call -/

/-- `RejectCall` of an accepted call: the request goes out for it, and the marks are
    those of the last ringing call. -/
theorem rejectCall_accepted (h : rejectCallPolicy calls callId = .telephonySuccess)
    {call : ControlCall} (hcall : CallStore.getOneCallObject calls .ringing = some call) :
    rejectCall env calls callId .missedCall =
      if env.handler (.rejectCall callId) = .telephonySuccess then
        (⟨.telephonySuccess,
            [.request (.rejectCall callId), .publishMissedCallEvent call.callId]⟩,
          setRejectType calls call.callId .missedCall)
      else (⟨env.handler (.rejectCall callId), [.request (.rejectCall callId)]⟩, calls) := by
  unfold rejectCall
  rw [hcall]
  dsimp only
  rw [if_neg (exists_ringing h).1, if_neg (not_not.mpr h), if_pos rfl, ite_not]

/-- **Rejecting a call.** A call that the policy accepts is rejected, marked and published
    as missed, and no other one, iff the handler takes the request and the call is the
    ringing one that was added last. -/
theorem rejectsOnly_iff (env : ControlEnv) (calls : CallStore) (callId : ℤ)
    (h : rejectCallPolicy calls callId = .telephonySuccess) :
    RejectsOnly calls callId (rejectCall env calls callId .missedCall) ↔
      env.handler (.rejectCall callId) = .telephonySuccess ∧
        (CallStore.getOneCallObject calls .ringing).map (·.callId) = some callId := by
  obtain ⟨-, call, hcall⟩ := exists_ringing h
  rw [rejectCall_accepted h hcall, hcall]
  by_cases htaken : env.handler (.rejectCall callId) = .telephonySuccess
  · rw [if_pos htaken, and_iff_right htaken, Option.map_some, Option.some.injEq]
    constructor
    · intro hrejects
      have hpublished := hrejects.published
      simp only [List.filter_cons, ControlEvent.isMissedCall] at hpublished
      simpa using hpublished
    · rintro rfl
      exact ⟨rfl, rfl, rfl⟩
  · rw [if_neg htaken]
    refine iff_of_false (fun hrejects => ?_) fun hboth => htaken hboth.1
    exact absurd hrejects.published nofun

/-- A handler that takes every request, and no VoIP call. -/
def takingEnv : ControlEnv where
  isVoipCallExist := false
  handler := fun _ => .telephonySuccess
  hasPendingMo := fun _ => false
  canCallWithSuperPrivacyPolicy := true

/-- The running state that belongs to a call state. -/
def runningStateOf : TelCallState → CallRunningState
  | .incoming | .waiting => .ringing
  | .dialing | .alerting => .dialing
  | .active => .active
  | .holding => .hold
  | .disconnecting => .ending
  | .disconnected => .ended
  | .unknown | .idle | .answered => .create

theorem runningStateOf_ringing {callState : TelCallState}
    (h : callState = .incoming ∨ callState = .waiting) : runningStateOf callState = .ringing := by
  rcases h with rfl | rfl <;> rfl

theorem succ_numbered (n : ℕ) : (n : ℤ) + 1 ≠ CallLookups.invalidCallId := by
  unfold CallLookups.invalidCallId
  omega

/-- The call with the id after `n`, in a state. -/
def callIn (callType : CallType) (n : ℕ) (callState : TelCallState) : ControlCall where
  callId := n + 1
  callType := callType
  callState := callState
  callRunningState := runningStateOf callState
  videoState := 0
  videoCallState := none
  isInitialized := false
  isAnswered := false
  rejectType := .normal
  numbered := succ_numbered n
  rings := runningStateOf_ringing

theorem twoCalls_nodup (first second : CallType × TelCallState) :
    ([callIn first.1 0 first.2, callIn second.1 1 second.2].map (·.callId)).Nodup := by
  show ([1, 2] : List ℤ).Nodup
  decide

/-- Two calls with the ids 1 and 2, the second of them added later. -/
def twoCalls (first second : CallType × TelCallState) : CallStore where
  entries := [callIn first.1 0 first.2, callIn second.1 1 second.2]
  nodup := twoCalls_nodup first second

/-- Two calls ring. -/
def twoRinging : CallStore := twoCalls (.ims, .incoming) (.ims, .incoming)

theorem last_ringing_rejected :
    RejectsOnly twoRinging 2 (rejectCall takingEnv twoRinging 2 .missedCall) :=
  (rejectsOnly_iff takingEnv twoRinging 2 (by decide)).mpr ⟨rfl, rfl⟩

/-- The first one is rejected, and the second one is marked and published. -/
theorem first_ringing_not_published :
    ¬ ∀ (env : ControlEnv) (calls : CallStore) (callId : ℤ),
      rejectCallPolicy calls callId = .telephonySuccess →
      env.handler (.rejectCall callId) = .telephonySuccess →
        RejectsOnly calls callId (rejectCall env calls callId .missedCall) := by
  intro hall
  have hpublished := (hall takingEnv twoRinging 1 (by decide) rfl).published
  exact absurd hpublished (by decide)

/-! ## An answer that is refused -/

/-- An answer of a call that is found sends, shows or notifies something. -/
theorem answerCall_sent_ne_nil {w : ControlWorld} {call : ControlCall}
    (hcall : getRingCall w.calls callId = some call) (videoState : ℤ) (isRTT : Bool) :
    (answerCall env w callId videoState isRTT).sent ≠ [] := by
  have hnotified : ∀ calls, (sentBeforePolicy env calls call videoState).1 ≠ [] := by
    intro calls
    unfold sentBeforePolicy
    simp
  unfold answerCall
  rw [hcall]
  dsimp only
  by_cases hprivacy : env.canCallWithSuperPrivacyPolicy = false
  · rw [if_pos hprivacy]
    nofun
  rw [if_neg hprivacy]
  split_ifs
  · exact hnotified _
  · exact List.append_ne_nil_of_left_ne_nil (hnotified _) _
  · exact hnotified _
  · exact List.append_ne_nil_of_left_ne_nil (hnotified _) _

/-- **An answer that is refused.** `AnswerCall` has no effect on an answer that the policy
    refuses iff the policy accepts the answer after all, or no call rings, or there is no
    call with the id. -/
theorem policyFirst_iff (env : ControlEnv) (w : ControlWorld) (callId videoState : ℤ)
    (isRTT : Bool) :
    PolicyFirst w callId videoState (answerCall env w callId videoState isRTT) ↔
      (RefusesAnswer w.calls callId videoState → getRingCall w.calls callId = none) := by
  refine imp_congr_right fun _ => ⟨fun hno => ?_, fun hnone => ?_⟩
  · cases hcall : getRingCall w.calls callId with
    | none => rfl
    | some call => exact absurd hno.sent (answerCall_sent_ne_nil hcall videoState isRTT)
  · unfold answerCall
    rw [hnone]
    exact ⟨rfl, rfl⟩

/-- A call on hold beside one that rings. -/
def heldBesideRinging : ControlWorld where
  calls := twoCalls (.ims, .holding) (.ims, .incoming)
  voIPCallState := .idle
  answeredCallQueue := ⟨false, 0, 0⟩

/-- The answer of the held call is notified, and then refused. -/
theorem held_call_notified :
    ¬ ∀ (env : ControlEnv) (w : ControlWorld) (callId videoState : ℤ) (isRTT : Bool),
      PolicyFirst w callId videoState (answerCall env w callId videoState isRTT) := by
  intro hall
  have hno := hall takingEnv heldBesideRinging 1 0 false (by decide)
  exact absurd hno.sent (by decide)

end CallManager.CallControl
