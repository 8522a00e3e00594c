import CallManager.CallCommands
import CallManager.Library.Run
import CallManager.StoredCalls

/-!
# Answering on a device with one call

A device that is built with `NOT_SUPPORT_MULTICALL` has one call at a time. When the
user answers a call beside another one, `HangUpOtherCall` asks for the end of the
others, sets `autoAnswerState_` of the call, and `AnswerCall` returns; each time a call
has ended, `AnswerPendingCall` takes the first ringing call of the list that has the
mark, and answers it. That is an `AnswerCall` again, so while there are other calls the
mark is set again. A Bluetooth call is answered at once, and so is any call that the
operator lets stand beside others.

Specification: what the user chose last, a call and a video state, is kept beside the
state until the call is answered or does not ring any more. The ringing call with the
mark is that call, and then there is another call, whose end brings the answer
(`Marked`). A call is answered only if it is the choice, with the video state that was
asked for, and a call is hung up or rejected only if it is not (`Serves`).

A mark is taken back by nothing but the answer; it is lost when `RefreshCall` replaces
the object. The answer that waited is made with the video state that the call has, not
with the one that the user asked for, and is refused if that is a one-way video. **A
second choice while one waits may lose both calls**: when the active call ends, the first
marked call is taken and the others are rejected, the one that the user chose among them,
and the first was rejected before for the second.

In the super privacy mode a dialog comes instead of the answer, and beside a VoIP call it
is put into `AnsweredCallQueue_`; then nothing marks the call, and the answer that comes
later is one more answer here. A call rings iff its state is INCOMING or WAITING. What the
requests do is told by later reports and, where `AnswerRequest` has marks of its own, by
`setAutoAnswerState`.

Results:
* `choice_served_iff`: a run is as specified iff no second choice is made while one
  waits, no answer that need not wait is kept back, no marked call comes back to ringing,
  no mark is set or taken back by others, the chosen call is not replaced and keeps
  another call beside it, and when its turn comes it has the video state asked for and
  nothing keeps the answer back.
* `choice_answered`: in such a run, the chosen call is answered when the last call beside
  it has ended.
-/

namespace CallManager.WatchAnswers

/-! ## Model -/

/-- A stored call, as far as the functions below read it. The video state is a number: a cast
    gives the call the one that it is answered with. -/
structure WatchCall where
  callId : ℕ
  callType : CallType
  slotId : ℤ
  accountNumber : String
  callState : TelCallState
  conferenceState : TelConferenceState
  videoState : ℤ
  autoAnswerState : Bool
  isRtt : Bool
  isTransferCall : Bool
  deriving DecidableEq, Repr

/-- The stored calls, by their ids. -/
abbrev Calls := OrderedMap WatchCall.callId

/-- What is asked for a call. -/
inductive Request
  | answerCall (callId : ℕ) (videoState : ℤ)
  | hangUpCall (callId : ℕ)
  | rejectCall (callId : ℕ)
  deriving DecidableEq, Repr

/-- The call is INCOMING or WAITING. -/
def Rings (it : WatchCall) : Prop := it.callState = .incoming ∨ it.callState = .waiting

instance (it : WatchCall) : Decidable (Rings it) := inferInstanceAs (Decidable (_ ∨ _))

/-- What an answer finds: the operator's configuration, whether the device is built with
    `CALL_MANAGER_CALL_TRANSFER`, whether the super privacy mode is on, whether
    `VoIPCallState_` is idle, and whether a request to end a VoIP call succeeds. -/
structure Surroundings where
  supportMultiCalls : ℤ → Bool
  callTransfer : Bool
  superPrivacyMode : Bool
  voipIdle : Bool
  requestOk : ℕ → Bool

section Model

variable (env : Surroundings) (mainCallId : Option ℕ) (calls : Calls)

/-- `GetCurrentCallNum` (call_object_manager.cpp:352-372). -/
def getCurrentCallNum : ℕ :=
  StoredCalls.getCurrentCallNum WatchCall.callType WatchCall.conferenceState
    (fun it => some it.callId) mainCallId calls.entries

/-- `HasBtCallWithDifferentNumber` (call_object_manager.cpp:1167-1181). -/
def HasBtCallWithDifferentNumber (accountNumber : String) : Prop :=
  ∃ call ∈ calls.entries, call.accountNumber ≠ accountNumber ∧ call.callType = .bluetooth

/-- `HasRttCall` (call_object_manager.cpp:1183-1199). -/
def HasRttCall : Prop := ∃ call ∈ calls.entries, call.callType = .ims ∧ call.isRtt = true

instance (accountNumber : String) : Decidable (HasBtCallWithDifferentNumber calls accountNumber) :=
  inferInstanceAs (Decidable (∃ call ∈ _, _))

instance : Decidable (HasRttCall calls) := inferInstanceAs (Decidable (∃ call ∈ _, _))

/-- `SetAutoAnswerState` of a stored call (call_base.cpp:372-377). -/
def setAutoAnswerState (callId : ℕ) (flag : Bool) : Calls :=
  calls.modify callId (fun it => { it with autoAnswerState := flag }) fun _ => rfl

/-- A turn of the loop of `HangUpOtherCallByAnswerCallID`. -/
def endRequest (answerCall call : WatchCall) : List Request :=
  if call.callId = answerCall.callId then []
  else if call.callState ∈ [TelCallState.active, .dialing, .alerting, .holding] then
    [.hangUpCall call.callId]
  else if Rings call ∧ answerCall.accountNumber ≠ call.accountNumber then
    [.rejectCall call.callId]
  else []

/-- `HangUpOtherCallByAnswerCallID` of a ringing call (call_control_manager.cpp:2192-2230). -/
def hangUpOtherCallByAnswerCallID (answerCall : WatchCall) (autoAnswerState : Bool) :
    List Request × Calls :=
  (calls.entries.flatMap (endRequest answerCall),
    setAutoAnswerState calls answerCall.callId autoAnswerState)

/-- The other calls must be ended before this one is answered. -/
def MustEndOthers (answerCall : WatchCall) : Prop :=
  env.supportMultiCalls answerCall.slotId = false ∨
    HasBtCallWithDifferentNumber calls answerCall.accountNumber ∨ HasRttCall calls

instance (answerCall : WatchCall) : Decidable (MustEndOthers env calls answerCall) :=
  inferInstanceAs (Decidable (_ ∨ _))

/-- `HangUpOtherCall`: whether the answer must wait (call_control_manager.cpp:2161-2190). -/
def hangUpOtherCall (answerCallId : Option ℕ) : Bool × List Request × Calls :=
  if getCurrentCallNum mainCallId calls ≤ 1 then (false, [], calls)
  else
    match answerCallId.bind calls.lookup with
    | none => (false, [], calls)
    | some answerCall =>
      if ¬ Rings answerCall then (false, [], calls)
      else if answerCall.callType = .bluetooth then
        (false, hangUpOtherCallByAnswerCallID calls answerCall false)
      else if (answerCall.callType = .cs ∨ answerCall.callType = .ims) ∧
          MustEndOthers env calls answerCall then
        (true, hangUpOtherCallByAnswerCallID calls answerCall true)
      else (false, [], calls)

/-- `GetRingCall` (call_control_manager.cpp:254-268); no id is `INVALID_CALLID`. -/
def getRingCall (callId : Option ℕ) : Option WatchCall :=
  match calls.entries.reverse.find? (Rings ·) with
  | none => none
  | some call => calls.lookup (callId.getD call.callId)

/-- `GetOtherBtTransferCall` (call_object_manager.cpp:1249-1262). -/
def getOtherBtTransferCall (excludeCallId : Option ℕ) : Option WatchCall :=
  calls.entries.find? fun call => call.isTransferCall = true ∧ some call.callId ≠ excludeCallId

/-- `ProcessTransferCall` (call_control_manager.cpp:681-701). -/
def processTransferCall (callId : Option ℕ) : List Request :=
  match getOtherBtTransferCall calls callId with
  | none => []
  | some call =>
    if call.callState = .incoming then [.rejectCall call.callId] else [.hangUpCall call.callId]

/-- What `AnswerHandlerForSatelliteOrVideoCall` ends (call_control_manager.cpp:355-361). -/
def hangUpForegroundCall (call : WatchCall) : List Request :=
  if call.callType = .satellite then
    match calls.entries.reverse.find? (·.callState = .active) with
    | none => []
    | some foregroundSatelliteCall => [.hangUpCall foregroundSatelliteCall.callId]
  else []

/-- `SetVideoStateType` of a stored call. -/
def setVideoStateType (callId : ℕ) (videoState : ℤ) : Calls :=
  calls.modify callId (fun it => { it with videoState := videoState }) fun _ => rfl

/-- `AnswerHandlerForSatelliteOrVideoCall` (call_control_manager.cpp:344-363). -/
def answerHandlerForSatelliteOrVideoCall (call : WatchCall) (videoState : ℤ) :
    List Request × Calls :=
  (hangUpForegroundCall calls call,
    if call.callType = .ims ∧ videoState ≠ call.videoState then
      setVideoStateType calls call.callId videoState
    else calls)

/-- The loop of `CarrierAndVoipConflictProcess`, which stops at a request that fails. -/
def endVoipCalls : List WatchCall → List Request
  | [] => []
  | voipCall :: voipCalls =>
    if voipCall.callState = .incoming then
      .rejectCall voipCall.callId ::
        if env.requestOk voipCall.callId then endVoipCalls voipCalls else []
    else if voipCall.callState = .dialing then
      .hangUpCall voipCall.callId ::
        if env.requestOk voipCall.callId then endVoipCalls voipCalls else []
    else endVoipCalls voipCalls

/-- `CarrierAndVoipConflictProcess` (call_control_manager.cpp:365-401). -/
def carrierAndVoipConflictProcess (call : WatchCall) : List Request :=
  if call.callType = .cs ∨ call.callType = .ims ∨ call.callType = .satellite then
    endVoipCalls env (calls.entries.filter (·.callType = .voip))
  else []

/-- The video state is one that a call is answered with. -/
def IsAnswerState (videoState : ℤ) : Prop :=
  videoState = VideoStateType.voice.number ∨ videoState = VideoStateType.video.number

instance (videoState : ℤ) : Decidable (IsAnswerState videoState) :=
  inferInstanceAs (Decidable (_ ∨ _))

/-- `AnswerCallPolicy` accepts the call (call_policy.cpp:329-346). -/
def AnswerCallPolicy (call : WatchCall) (videoState : ℤ) : Prop :=
  IsAnswerState videoState ∧ Rings call

instance (call : WatchCall) (videoState : ℤ) : Decidable (AnswerCallPolicy call videoState) :=
  inferInstanceAs (Decidable (_ ∧ _))

/-- `AnswerCall` once the call is found (call_control_manager.cpp:282-311): in the super privacy
    mode a dialog asks the user, and beside a VoIP call the answer is put into
    `AnsweredCallQueue_`. -/
def answerRingCall (callId : Option ℕ) (call : WatchCall) (videoState : ℤ) :
    List Request × Calls :=
  let requests := if env.callTransfer then processTransferCall calls callId else []
  if env.superPrivacyMode then (requests, calls)
  else
    let (ended, calls) := answerHandlerForSatelliteOrVideoCall calls call videoState
    let requests := requests ++ ended ++ carrierAndVoipConflictProcess env calls call
    if env.voipIdle = false ∧ call.callType ≠ .voip then (requests, calls)
    else if AnswerCallPolicy call videoState then
      (requests ++ [.answerCall call.callId videoState], calls)
    else (requests, calls)

/-- `AnswerCall` (call_control_manager.cpp:269-311). -/
def answerCall (callId : Option ℕ) (videoState : ℤ) : List Request × Calls :=
  match hangUpOtherCall env mainCallId calls callId with
  | (true, requests, calls) => (requests, calls)
  | (false, requests, calls) =>
    match getRingCall calls callId with
    | none => (requests, calls)
    | some call =>
      (requests ++ (answerRingCall env calls callId call videoState).1,
        (answerRingCall env calls callId call videoState).2)

/-- The test of `AnswerPendingCall`. -/
def IsPending (call : WatchCall) : Prop := Rings call ∧ call.autoAnswerState = true

instance (call : WatchCall) : Decidable (IsPending call) := inferInstanceAs (Decidable (_ ∧ _))

/-- `AnswerPendingCall` (call_status_manager.cpp:2683-2716). -/
def answerPendingCall : List Request × Calls :=
  match calls.entries.find? (IsPending ·) with
  | none => ([], calls)
  | some call =>
    answerCall env mainCallId (setAutoAnswerState calls call.callId false) (some call.callId)
      call.videoState

end Model

/-- What the device is told: an answer (of the user, or the one that the dialog of the super
    privacy mode or `AnsweredCallQueue_` brings later), a mark of `AnswerRequest`, a new
    call, a report of a call, with its type or with another one (`RefreshCall`), a change
    of a conference, the end of a call, and that of a VoIP call. -/
inductive WatchOp
  | answerCall (env : Surroundings) (callId : Option ℕ) (videoState : ℤ)
  | setAutoAnswerState (callId : ℕ) (flag : Bool)
  | addOneCallObject (call : WatchCall)
  | report (callId : ℕ) (callState : TelCallState) (videoState : ℤ) (isRtt : Bool)
  | refreshCall (callId : ℕ) (callType : {t : CallType // t ∈ carrierTypes})
      (isTransferCall : Bool)
  | setTelConferenceState (callId : ℕ) (conferenceState : TelConferenceState)
  | setMainCall (mainCallId : Option ℕ)
  | disconnected (env : Surroundings) (callId : ℕ)
  | voipDisconnected (callId : ℕ)

/-- `SetTelConferenceState` of a stored call. -/
def setTelConferenceState (calls : Calls) (callId : ℕ) (conferenceState : TelConferenceState) :
    Calls :=
  calls.modify callId (fun it => { it with conferenceState := conferenceState }) fun _ => rfl

/-- What is asked for, and the stored calls, after a step. A new object has no mark, and that of
    `RefreshCall` is put at the end of the list, with the old id and conference state
    (call_status_manager.cpp:1884-1926, 1450-1474 and 1597-1600). -/
def after (mainCallId : Option ℕ) (calls : Calls) : WatchOp → List Request × Calls
  | .answerCall env callId videoState => answerCall env mainCallId calls callId videoState
  | .setAutoAnswerState callId flag => ([], setAutoAnswerState calls callId flag)
  | .addOneCallObject call => ([], calls.insert { call with autoAnswerState := false })
  | .report callId callState videoState isRtt =>
    ([], calls.modify callId (fun it => { it with
      callState := callState
      videoState := videoState
      isRtt := isRtt }) fun _ => rfl)
  | .refreshCall callId callType isTransferCall =>
    match calls.lookup callId with
    | none => ([], calls)
    | some it =>
      ([], (calls.erase callId).insert { it with
        callType := callType
        autoAnswerState := false
        isTransferCall := isTransferCall })
  | .setTelConferenceState callId conferenceState =>
    ([], setTelConferenceState calls callId conferenceState)
  | .setMainCall _ => ([], calls)
  | .disconnected env callId =>
    if calls.Mem callId then answerPendingCall env mainCallId (calls.erase callId)
    else ([], calls)
  | .voipDisconnected callId =>
    match calls.lookup callId with
    | some it => ([], if it.callType = .voip then calls.erase callId else calls)
    | none => ([], calls)

/-- The main call of the IMS conference after a step. -/
def mainCallAfter (mainCallId : Option ℕ) : WatchOp → Option ℕ
  | .setMainCall mainCallId => mainCallId
  | .answerCall _ _ _ | .setAutoAnswerState _ _ | .addOneCallObject _ | .report _ _ _ _
  | .refreshCall _ _ _ | .setTelConferenceState _ _ | .disconnected _ _
  | .voipDisconnected _ => mainCallId

/-! ## Specification -/

/-- The call that `AnswerCall` finds, if it rings. -/
def requested (calls : Calls) (callId : Option ℕ) : Option ℕ :=
  (getRingCall calls callId).bind fun call => if Rings call then some call.callId else none

/-- A call with the id rings. -/
def Ringing (calls : Calls) (callId : ℕ) : Prop :=
  ∃ it ∈ calls.entries, it.callId = callId ∧ Rings it

/-- A call with the id rings and has the mark. -/
def Pending (calls : Calls) (callId : ℕ) : Prop :=
  ∃ it ∈ calls.entries, it.callId = callId ∧ IsPending it

instance (calls : Calls) (callId : ℕ) : Decidable (Ringing calls callId) :=
  inferInstanceAs (Decidable (∃ it ∈ _, _))

instance (calls : Calls) (callId : ℕ) : Decidable (Pending calls callId) :=
  inferInstanceAs (Decidable (∃ it ∈ _, _))

/-- The stored calls, the main call of the IMS conference, and what the user chose last: a
    call and its video state. -/
structure WatchRun where
  calls : Calls
  mainCallId : Option ℕ
  choice : Option (ℕ × ℤ)

/-- The user's choice when a step is taken. -/
def chosen (r : WatchRun) : WatchOp → Option (ℕ × ℤ)
  | .answerCall _ callId videoState =>
    match requested r.calls callId with
    | some id => some (id, videoState)
    | none => r.choice
  | _ => r.choice

/-- The id of a call that is answered. -/
def Request.answered : Request → Option ℕ
  | .answerCall callId _ => some callId
  | .hangUpCall _ | .rejectCall _ => none

/-- The id of a call that is hung up or rejected. -/
def Request.ended : Request → Option ℕ
  | .answerCall _ _ => none
  | .hangUpCall callId | .rejectCall callId => some callId

/-- The choice that stays: the call is not answered, and rings. -/
def remaining (requests : List Request) (calls : Calls) (choice : Option (ℕ × ℤ)) :
    Option (ℕ × ℤ) :=
  choice.filter fun p => Ringing calls p.1 ∧ p.1 ∉ requests.filterMap Request.answered

/-- A step, with the user's choice. -/
def step (r : WatchRun) (op : WatchOp) : WatchRun where
  calls := (after r.mainCallId r.calls op).2
  mainCallId := mainCallAfter r.mainCallId op
  choice :=
    remaining (after r.mainCallId r.calls op).1 (after r.mainCallId r.calls op).2 (chosen r op)

/-- A mark is set for calls of the modem only. -/
def Typed (calls : Calls) : Prop :=
  ∀ it ∈ calls.entries, it.autoAnswerState = true → it.callType = .cs ∨ it.callType = .ims

/-- The ringing call with the mark is the user's choice, and another call will end before
    it is answered. -/
structure Marked (r : WatchRun) : Prop where
  marks : ∀ callId, Pending r.calls callId ↔ ∃ videoState, r.choice = some (callId, videoState)
  behind : r.choice ≠ none → 1 < getCurrentCallNum r.mainCallId r.calls
  typed : Typed r.calls

/-- What is asked for serves the choice. -/
structure Serves (choice : Option (ℕ × ℤ)) (requests : List Request) : Prop where
  answers : ∀ callId videoState, .answerCall callId videoState ∈ requests →
    choice = some (callId, videoState)
  ends : ∀ callId, .hangUpCall callId ∈ requests ∨ .rejectCall callId ∈ requests →
    ∃ p, choice = some p ∧ callId ≠ p.1

/-- The answer of the call must wait. -/
def Waits (env : Surroundings) (mainCallId : Option ℕ) (calls : Calls) (answerCall : WatchCall) :
    Prop :=
  1 < getCurrentCallNum mainCallId calls ∧ Rings answerCall ∧
    (answerCall.callType = .cs ∨ answerCall.callType = .ims) ∧
    MustEndOthers env calls answerCall

instance (env : Surroundings) (mainCallId : Option ℕ) (calls : Calls) (answerCall : WatchCall) :
    Decidable (Waits env mainCallId calls answerCall) :=
  inferInstanceAs (Decidable (_ ∧ _))

/-- Neither the super privacy mode nor a VoIP call keeps the answer back. -/
def GoesOn (env : Surroundings) (call : WatchCall) : Prop :=
  env.superPrivacyMode = false ∧ (env.voipIdle = true ∨ call.callType = .voip)

instance (env : Surroundings) (call : WatchCall) : Decidable (GoesOn env call) :=
  inferInstanceAs (Decidable (_ ∧ _))

/-- The calls that are ended for an answer that need not wait: another transferred call, the
    foreground call for a satellite call, and VoIP calls for a carrier call. -/
def endedFor (env : Surroundings) (calls : Calls) (callId : Option ℕ) (call : WatchCall) :
    List Request :=
  (if env.callTransfer then processTransferCall calls callId else []) ++
    if env.superPrivacyMode then []
    else hangUpForegroundCall calls call ++ carrierAndVoipConflictProcess env calls call

/-- An answer that need not wait and finds `call`: if it rings, it is not the transferred
    call that is ended for it, and the answer is made and no choice waits, or it is kept
    back or refused and is that of the call that waits. If it does not ring, no call is
    ended for it but others than a choice. -/
def AnswerOk (env : Surroundings) (r : WatchRun) (callId : Option ℕ) (videoState : ℤ) :
    Option WatchCall → Prop
  | none => True
  | some call =>
    if Rings call then
      (∀ q ∈ endedFor env r.calls callId call, q.ended ≠ some call.callId) ∧
        if IsAnswerState videoState ∧ GoesOn env call then r.choice = none
        else ∃ videoState, r.choice = some (call.callId, videoState)
    else ∀ q ∈ endedFor env r.calls callId call, ∃ p, r.choice = some p ∧ q.ended ≠ some p.1

/-- What a step must meet: an answer that must wait is that of the call that waits
    already, if one does, and any other answer is `AnswerOk`; no mark is set but that of the
    choice, for a CS or IMS call, and that is not taken back; no call but the choice rings
    again with a mark; the choice is not replaced; a change of a conference leaves
    another call beside it; and if it need not wait any more, it has the video state asked
    for, and nothing keeps the answer back. -/
def StepOk (r : WatchRun) : WatchOp → Prop
  | .answerCall env callId videoState =>
    match callId.bind r.calls.lookup with
    | some it =>
      if Waits env r.mainCallId r.calls it then ∀ p, r.choice = some p → p.1 = it.callId
      else AnswerOk env r callId videoState (getRingCall r.calls callId)
    | none => AnswerOk env r callId videoState (getRingCall r.calls callId)
  | .setAutoAnswerState callId true =>
    ∀ it ∈ r.calls.entries, it.callId = callId → (it.callType = .cs ∨ it.callType = .ims) ∧
      (Rings it → ∃ videoState, r.choice = some (callId, videoState))
  | .setAutoAnswerState callId false => ∀ p, r.choice = some p → p.1 ≠ callId
  | .report callId callState _ _ =>
    callState = .incoming ∨ callState = .waiting →
      ∀ it ∈ r.calls.entries, it.callId = callId → it.autoAnswerState = true →
        ∃ videoState, r.choice = some (callId, videoState)
  | .refreshCall callId _ _ => ∀ p, r.choice = some p → p.1 ≠ callId
  | .setTelConferenceState callId conferenceState =>
    r.choice ≠ none →
      1 < getCurrentCallNum r.mainCallId (setTelConferenceState r.calls callId conferenceState)
  | .setMainCall mainCallId => r.choice ≠ none → 1 < getCurrentCallNum mainCallId r.calls
  | .disconnected env callId =>
    ∀ p, r.choice = some p → p.1 ≠ callId → r.calls.Mem callId →
      ∀ it ∈ r.calls.entries, it.callId = p.1 →
        ¬ Waits env r.mainCallId (r.calls.erase callId) it →
          it.videoState = p.2 ∧ IsAnswerState p.2 ∧ GoesOn env it
  | .addOneCallObject _ | .voipDisconnected _ => True

/-- When the end of a call leaves the chosen one alone, it is answered. -/
def Answered (r : WatchRun) : WatchOp → Prop
  | .disconnected env callId =>
    ∀ p, r.choice = some p → p.1 ≠ callId → r.calls.Mem callId →
      getCurrentCallNum r.mainCallId (after r.mainCallId r.calls (.disconnected env callId)).2 ≤ 1 →
        .answerCall p.1 p.2 ∈ (after r.mainCallId r.calls (.disconnected env callId)).1
  | .answerCall _ _ _ | .setAutoAnswerState _ _ | .addOneCallObject _ | .report _ _ _ _
  | .refreshCall _ _ _ | .setTelConferenceState _ _ | .setMainCall _
  | .voipDisconnected _ => True

/-! ## Proofs -/

section Calls

variable {mainCallId : Option ℕ} {calls : Calls} {callId id : ℕ}

theorem ringing_of_mem {it : WatchCall} (hmem : it ∈ calls.entries) (h : Rings it) :
    Ringing calls it.callId :=
  ⟨it, hmem, rfl, h⟩

theorem Pending.ringing (h : Pending calls id) : Ringing calls id := by
  obtain ⟨it, hmem, hid, hring, -⟩ := h
  exact ⟨it, hmem, hid, hring⟩

theorem Ringing.mem (h : Ringing calls id) : calls.Mem id := by
  obtain ⟨it, hmem, hid, -⟩ := h
  exact ⟨it, hmem, hid⟩

theorem ringing_erase : Ringing (calls.erase callId) id ↔ id ≠ callId ∧ Ringing calls id :=
  OrderedMap.exists_entry_erase

theorem pending_erase : Pending (calls.erase callId) id ↔ id ≠ callId ∧ Pending calls id :=
  OrderedMap.exists_entry_erase

theorem ringing_setAutoAnswerState (flag : Bool) :
    Ringing (setAutoAnswerState calls callId flag) id ↔ Ringing calls id := by
  unfold Ringing setAutoAnswerState
  rw [OrderedMap.exists_entry_modify]
  refine exists_congr fun it => and_congr_right fun _ => and_congr_right fun _ => ?_
  split_ifs <;> rfl

theorem pending_setAutoAnswerState_true :
    Pending (setAutoAnswerState calls callId true) id ↔
      (id = callId ∧ Ringing calls callId) ∨ Pending calls id := by
  unfold Pending setAutoAnswerState
  rw [OrderedMap.exists_entry_modify]
  by_cases h : id = callId
  · subst h
    simp only [if_true, true_and]
    constructor
    · rintro ⟨it, hmem, hid, hpending⟩
      exact Or.inl ⟨it, hmem, hid, hpending.1⟩
    · rintro (⟨it, hmem, hid, hring⟩ | ⟨it, hmem, hid, hpending⟩)
      · exact ⟨it, hmem, hid, hring, rfl⟩
      · exact ⟨it, hmem, hid, hpending.1, rfl⟩
  · simp only [h, if_false, false_and, false_or]

theorem pending_setAutoAnswerState_false :
    Pending (setAutoAnswerState calls callId false) id ↔ id ≠ callId ∧ Pending calls id := by
  unfold Pending setAutoAnswerState
  rw [OrderedMap.exists_entry_modify]
  by_cases h : id = callId
  · simp [h, IsPending]
  · simp only [h, if_false, ne_eq, not_false_eq_true, true_and]

/-- A change that leaves the types and the conferences alone leaves the number of calls alone. -/
theorem getCurrentCallNum_modify {f : WatchCall → WatchCall}
    (hf : ∀ it, (f it).callId = it.callId) (htype : ∀ it, (f it).callType = it.callType)
    (hconference : ∀ it, (f it).conferenceState = it.conferenceState) :
    getCurrentCallNum mainCallId (calls.modify callId f hf) =
      getCurrentCallNum mainCallId calls := by
  refine StoredCalls.getCurrentCallNum_map fun it _ => ?_
  split_ifs
  · simp only [StoredCalls.IsCurrent, hf, htype, hconference]
  · exact Iff.rfl

theorem getCurrentCallNum_setAutoAnswerState (flag : Bool) :
    getCurrentCallNum mainCallId (setAutoAnswerState calls callId flag) =
      getCurrentCallNum mainCallId calls :=
  getCurrentCallNum_modify _ (fun _ => rfl) fun _ => rfl

/-- What a new call without a mark changes. -/
theorem pending_insert {it : WatchCall} (h : it.autoAnswerState = false) :
    Pending (calls.insert it) id ↔ Pending calls id := by
  unfold Pending
  by_cases hmem : calls.Mem it.callId
  · rw [OrderedMap.entries_insert_of_mem hmem]
  · rw [OrderedMap.entries_insert_of_not_mem hmem]
    simp [or_and_right, exists_or, IsPending, h]

theorem ringing_insert_of_ringing {it : WatchCall} (h : Ringing calls id) :
    Ringing (calls.insert it) id := by
  obtain ⟨call, hmem, hcall⟩ := h
  exact ⟨call, OrderedMap.mem_entries_insert it hmem, hcall⟩

theorem getCurrentCallNum_le_insert (it : WatchCall) :
    getCurrentCallNum mainCallId calls ≤ getCurrentCallNum mainCallId (calls.insert it) := by
  simp only [getCurrentCallNum, StoredCalls.getCurrentCallNum_eq_countP]
  by_cases hmem : calls.Mem it.callId
  · rw [OrderedMap.entries_insert_of_mem hmem]
  · rw [OrderedMap.entries_insert_of_not_mem hmem, List.countP_append]
    omega

end Calls

/-! ### What an answer asks for -/

section Answers

variable {env : Surroundings} {mainCallId : Option ℕ} {calls : Calls} {callId : Option ℕ}
  {it : WatchCall}

/-- The second store has the marked and the ringing calls of the first, and as many. -/
structure SameMarks (calls calls' : Calls) : Prop where
  pending : ∀ id, Pending calls' id ↔ Pending calls id
  ringing : ∀ id, Ringing calls' id ↔ Ringing calls id
  number : ∀ mainCallId, getCurrentCallNum mainCallId calls' = getCurrentCallNum mainCallId calls
  typed : Typed calls → Typed calls'

theorem SameMarks.refl (calls : Calls) : SameMarks calls calls :=
  ⟨fun _ => Iff.rfl, fun _ => Iff.rfl, fun _ => rfl, id⟩

theorem SameMarks.trans {calls' calls'' : Calls} (h : SameMarks calls calls')
    (h' : SameMarks calls' calls'') : SameMarks calls calls'' where
  pending id := (h'.pending id).trans (h.pending id)
  ringing id := (h'.ringing id).trans (h.ringing id)
  number mainCallId := (h'.number mainCallId).trans (h.number mainCallId)
  typed htyped := h'.typed (h.typed htyped)

theorem sameMarks_setVideoStateType (id : ℕ) (videoState : ℤ) :
    SameMarks calls (setVideoStateType calls id videoState) where
  pending _ := by
    unfold Pending setVideoStateType
    rw [OrderedMap.exists_entry_modify]
    refine exists_congr fun it => and_congr_right fun _ => and_congr_right fun _ => ?_
    split_ifs <;> rfl
  ringing _ := by
    unfold Ringing setVideoStateType
    rw [OrderedMap.exists_entry_modify]
    refine exists_congr fun it => and_congr_right fun _ => and_congr_right fun _ => ?_
    split_ifs <;> rfl
  number _ := getCurrentCallNum_modify _ (fun _ => rfl) fun _ => rfl
  typed htyped it hmem hmark := by
    obtain ⟨call, hcall, rfl⟩ := List.mem_map.mp hmem
    split_ifs at hmark ⊢ <;> exact htyped call hcall hmark

theorem typed_setAutoAnswerState {id : ℕ} {flag : Bool} (h : Typed calls)
    (hflag : flag = true → ∀ it ∈ calls.entries, it.callId = id →
      it.callType = .cs ∨ it.callType = .ims) : Typed (setAutoAnswerState calls id flag) := by
  intro it hmem hmark
  obtain ⟨call, hcall, rfl⟩ := List.mem_map.mp hmem
  split_ifs at hmark ⊢ with hid
  · exact hflag hmark call hcall hid
  · exact h call hcall hmark

/-- The mark of a Bluetooth call is not there, so taking it back changes nothing. -/
theorem sameMarks_bluetooth (htyped : Typed calls) (hmem : it ∈ calls.entries)
    (hbt : it.callType = .bluetooth) :
    SameMarks calls (setAutoAnswerState calls it.callId false) where
  pending id := by
    rw [pending_setAutoAnswerState_false]
    refine and_iff_right_of_imp fun ⟨call, hcall, hid, hpending⟩ hne => ?_
    obtain rfl := OrderedMap.eq_of_key_eq hcall hmem (hid.trans hne)
    rcases htyped call hcall hpending.2 with h | h <;> rw [hbt] at h <;> cases h
  ringing _ := ringing_setAutoAnswerState false
  number _ := getCurrentCallNum_setAutoAnswerState false
  typed h := typed_setAutoAnswerState h fun hflag => by cases hflag

theorem hangUpOtherCall_of_waits (hit : callId.bind calls.lookup = some it)
    (h : Waits env mainCallId calls it) :
    hangUpOtherCall env mainCallId calls callId =
      (true, hangUpOtherCallByAnswerCallID calls it true) := by
  obtain ⟨hnum, hring, htype, hmust⟩ := h
  have hbt : it.callType ≠ .bluetooth := by
    rcases htype with h | h <;> rw [h] <;> decide
  unfold hangUpOtherCall
  rw [if_neg (by omega), hit]
  simp only
  rw [if_neg (not_not.mpr hring), if_neg hbt, if_pos ⟨htype, hmust⟩]

/-- Without a call that must wait, nothing is done, or a Bluetooth call ends the others. -/
theorem hangUpOtherCall_of_not_waits
    (h : ∀ it, callId.bind calls.lookup = some it → ¬ Waits env mainCallId calls it) :
    hangUpOtherCall env mainCallId calls callId = (false, [], calls) ∨
      ∃ it, callId.bind calls.lookup = some it ∧ Rings it ∧ it.callType = .bluetooth ∧
        hangUpOtherCall env mainCallId calls callId =
          (false, hangUpOtherCallByAnswerCallID calls it false) := by
  unfold hangUpOtherCall
  by_cases hnum : getCurrentCallNum mainCallId calls ≤ 1
  · exact Or.inl (if_pos hnum)
  rw [if_neg hnum]
  cases hit : callId.bind calls.lookup with
  | none => exact Or.inl rfl
  | some it =>
    by_cases hring : Rings it
    · by_cases hbt : it.callType = .bluetooth
      · refine Or.inr ⟨it, rfl, hring, hbt, ?_⟩
        simp only
        rw [if_neg (not_not.mpr hring), if_pos hbt]
      · refine Or.inl ?_
        simp only
        rw [if_neg (not_not.mpr hring), if_neg hbt, if_neg]
        intro hmust
        exact h it hit ⟨by omega, hring, hmust⟩
    · refine Or.inl ?_
      simp only
      rw [if_pos hring]

/-- The ringing call is looked up by its own id. -/
theorem getRingCall_of_rings (hmem : it ∈ calls.entries) (hring : Rings it) :
    getRingCall calls (some it.callId) = some it := by
  have hsome : (calls.entries.reverse.find? (Rings ·)).isSome := by
    rw [List.find?_isSome]
    exact ⟨it, List.mem_reverse.mpr hmem, decide_eq_true hring⟩
  obtain ⟨call, hcall⟩ := Option.isSome_iff_exists.mp hsome
  have hlookup : calls.lookup it.callId = some it := OrderedMap.lookup_key hmem
  simp [getRingCall, hcall, hlookup]

theorem requested_of_rings (hmem : it ∈ calls.entries) (hring : Rings it) :
    requested calls (some it.callId) = some it.callId := by
  simp [requested, getRingCall_of_rings hmem hring, hring]

/-- A call that is requested rings. -/
theorem ringing_of_requested {id : ℕ} (h : requested calls callId = some id) :
    Ringing calls id := by
  unfold requested at h
  obtain ⟨call, hfound, hid⟩ := Option.bind_eq_some_iff.mp h
  split_ifs at hid with hring
  obtain rfl := Option.some.inj hid
  unfold getRingCall at hfound
  split at hfound
  · cases hfound
  · exact ringing_of_mem (OrderedMap.lookup_spec hfound).1 hring

variable {videoState : ℤ}

/-! #### The calls that are ended for an answer -/

/-- A change of the calls that the ends of calls do not see. -/
def Unseen (f : WatchCall → WatchCall) : Prop :=
  ∀ it, (f it).callId = it.callId ∧ (f it).callType = it.callType ∧
    (f it).callState = it.callState ∧ (f it).isTransferCall = it.isTransferCall

variable {f : WatchCall → WatchCall} {calls' : Calls}

theorem endVoipCalls_map (hf : Unseen f) (l : List WatchCall) :
    endVoipCalls env (l.map f) = endVoipCalls env l := by
  induction l with
  | nil => rfl
  | cons call l ih =>
    obtain ⟨hid, -, hstate, -⟩ := hf call
    simp only [List.map_cons, endVoipCalls, hid, hstate, ih]

theorem carrierAndVoipConflictProcess_map (hf : Unseen f)
    (hcalls : calls'.entries = calls.entries.map f) :
    carrierAndVoipConflictProcess env calls' it = carrierAndVoipConflictProcess env calls it := by
  have hvoip : (fun call : WatchCall => decide (call.callType = .voip)) ∘ f =
      fun call => decide (call.callType = .voip) := by
    funext call
    simp only [Function.comp_apply, (hf call).2.1]
  unfold carrierAndVoipConflictProcess
  rw [hcalls, List.filter_map, hvoip, endVoipCalls_map hf]

theorem endedFor_map (hf : Unseen f) (hcalls : calls'.entries = calls.entries.map f) :
    endedFor env calls' callId it = endedFor env calls callId it := by
  have htransfer : processTransferCall calls' callId = processTransferCall calls callId := by
    have hfind : getOtherBtTransferCall calls' callId =
        (getOtherBtTransferCall calls callId).map f := by
      unfold getOtherBtTransferCall
      rw [hcalls, List.find?_map]
      congr 2
      funext call
      simp only [Function.comp_apply, (hf call).1, (hf call).2.2.2]
    unfold processTransferCall
    rw [hfind]
    cases getOtherBtTransferCall calls callId with
    | none => rfl
    | some call => simp only [Option.map_some, (hf call).1, (hf call).2.2.1]
  have hforeground : hangUpForegroundCall calls' it = hangUpForegroundCall calls it := by
    have hfind : calls'.entries.reverse.find? (·.callState = .active) =
        (calls.entries.reverse.find? (·.callState = .active)).map f := by
      rw [hcalls, ← List.map_reverse, List.find?_map]
      congr 2
      funext call
      simp only [Function.comp_apply, (hf call).2.2.1]
    unfold hangUpForegroundCall
    rw [hfind]
    cases calls.entries.reverse.find? (·.callState = .active) with
    | none => rfl
    | some call => simp only [Option.map_some, (hf call).1]
  unfold endedFor
  rw [htransfer, hforeground, carrierAndVoipConflictProcess_map hf hcalls]

theorem mem_endVoipCalls {q : Request} {l : List WatchCall} (h : q ∈ endVoipCalls env l) :
    ∃ call ∈ l, q = .hangUpCall call.callId ∨ q = .rejectCall call.callId := by
  induction l with
  | nil => cases h
  | cons call l ih =>
    have hrest (hq : q ∈ endVoipCalls env l) : ∃ other ∈ call :: l,
        q = .hangUpCall other.callId ∨ q = .rejectCall other.callId := by
      obtain ⟨other, hother, hq⟩ := ih hq
      exact ⟨other, List.mem_cons_of_mem _ hother, hq⟩
    unfold endVoipCalls at h
    split_ifs at h
    · rcases List.mem_cons.mp h with rfl | h
      · exact ⟨call, List.mem_cons_self, .inr rfl⟩
      · exact hrest h
    · exact ⟨call, List.mem_cons_self, .inr (List.mem_singleton.mp h)⟩
    · rcases List.mem_cons.mp h with rfl | h
      · exact ⟨call, List.mem_cons_self, .inl rfl⟩
      · exact hrest h
    · exact ⟨call, List.mem_cons_self, .inl (List.mem_singleton.mp h)⟩
    · exact hrest h

/-- What is ended for an answer: a transferred call, an active one for a satellite call, or a
    VoIP call for a carrier call. -/
theorem mem_endedFor {q : Request} (h : q ∈ endedFor env calls callId it) :
    ∃ call ∈ calls.entries, (q = .hangUpCall call.callId ∨ q = .rejectCall call.callId) ∧
      (some call.callId ≠ callId ∨ call.callState = .active ∨
        call.callType = .voip ∧ it.callType ≠ .voip) := by
  unfold endedFor at h
  rcases List.mem_append.mp h with h | h
  · split_ifs at h
    · unfold processTransferCall at h
      split at h
      · cases h
      · rename_i call hfind
        have hcall := List.find?_some hfind
        simp only [decide_eq_true_eq] at hcall
        refine ⟨call, List.mem_of_find?_eq_some hfind, ?_, .inl hcall.2⟩
        split_ifs at h
        · exact .inr (List.mem_singleton.mp h)
        · exact .inl (List.mem_singleton.mp h)
    · cases h
  · split_ifs at h
    · cases h
    · rcases List.mem_append.mp h with h | h
      · unfold hangUpForegroundCall at h
        split_ifs at h
        · split at h
          · cases h
          · rename_i call hfind
            have hcall := List.find?_some hfind
            simp only [decide_eq_true_eq] at hcall
            exact ⟨call, List.mem_reverse.mp (List.mem_of_find?_eq_some hfind),
              .inl (List.mem_singleton.mp h), .inr (.inl hcall)⟩
        · cases h
      · unfold carrierAndVoipConflictProcess at h
        split_ifs at h with htype
        · obtain ⟨call, hcall, hq⟩ := mem_endVoipCalls h
          obtain ⟨hmem, hvoip⟩ := List.mem_filter.mp hcall
          refine ⟨call, hmem, hq, .inr (.inr ⟨by simpa using hvoip, ?_⟩)⟩
          rcases htype with h | h | h <;> rw [h] <;> decide
        · cases h

/-- The call that is looked for by its own id is not ended. -/
theorem endedFor_ne (hmem : it ∈ calls.entries) (hring : Rings it) {q : Request}
    (h : q ∈ endedFor env calls (some it.callId) it) : q.ended ≠ some it.callId := by
  obtain ⟨call, hcall, hq, hne⟩ := mem_endedFor h
  have hended : q.ended = some call.callId := by rcases hq with rfl | rfl <;> rfl
  rw [hended]
  intro hid
  obtain rfl := OrderedMap.eq_of_key_eq hcall hmem (Option.some.inj hid)
  rcases hne with hne | hactive | ⟨hvoip, hne⟩
  · exact hne rfl
  · rcases hring with h | h <;> rw [hactive] at h <;> cases h
  · exact hne hvoip

theorem answered_endedFor {q : Request} (h : q ∈ endedFor env calls callId it) :
    q.answered = none := by
  obtain ⟨call, -, hq, -⟩ := mem_endedFor h
  rcases hq with rfl | rfl <;> rfl

/-- What an answer that need not wait asks for, once the call is found. -/
def answers (env : Surroundings) (calls : Calls) (callId : Option ℕ) (videoState : ℤ) :
    Option WatchCall → List Request
  | none => []
  | some call =>
    endedFor env calls callId call ++
      if IsAnswerState videoState ∧ GoesOn env call ∧ Rings call then
        [.answerCall call.callId videoState]
      else []

/-- The end of `AnswerCall`, once the other calls have been seen to. -/
theorem answerRingCall_spec (env : Surroundings) (calls : Calls) (callId : Option ℕ)
    (videoState : ℤ) (call : WatchCall) :
    (answerRingCall env calls callId call videoState).1 =
        answers env calls callId videoState (some call) ∧
      SameMarks calls (answerRingCall env calls callId call videoState).2 := by
  set handled := answerHandlerForSatelliteOrVideoCall calls call videoState with hhandled
  have hsame : SameMarks calls handled.2 ∧
      carrierAndVoipConflictProcess env handled.2 call =
        carrierAndVoipConflictProcess env calls call := by
    simp only [hhandled, answerHandlerForSatelliteOrVideoCall]
    split_ifs
    · refine ⟨sameMarks_setVideoStateType _ _, carrierAndVoipConflictProcess_map ?_ rfl⟩
      intro it
      dsimp only
      split_ifs <;> exact ⟨rfl, rfl, rfl, rfl⟩
    · exact ⟨SameMarks.refl calls, rfl⟩
  have hended : handled.1 = hangUpForegroundCall calls call := rfl
  unfold answerRingCall answers endedFor
  cases hprivacy : env.superPrivacyMode with
  | true => simp [GoesOn, hprivacy, SameMarks.refl]
  | false =>
    simp only [Bool.false_eq_true, if_false]
    rw [← hhandled, hended, hsame.2]
    by_cases hvoip : env.voipIdle = false ∧ call.callType ≠ .voip
    · rw [if_pos hvoip]
      refine ⟨?_, hsame.1⟩
      simp [GoesOn, hvoip]
    · rw [if_neg hvoip]
      have hgoes : GoesOn env call := by
        refine ⟨hprivacy, ?_⟩
        cases hidle : env.voipIdle <;> simp_all
      have hiff : AnswerCallPolicy call videoState ↔
          IsAnswerState videoState ∧ GoesOn env call ∧ Rings call := by
        simp [AnswerCallPolicy, hgoes]
      by_cases hpolicy : AnswerCallPolicy call videoState
      · rw [if_pos hpolicy]
        refine ⟨?_, hsame.1⟩
        simp [List.append_assoc, hiff.mp hpolicy]
      · rw [if_neg hpolicy]
        refine ⟨?_, hsame.1⟩
        rw [hiff] at hpolicy
        rw [if_neg hpolicy, List.append_nil, List.append_assoc]

theorem getRingCall_setAutoAnswerState {id : ℕ} (flag : Bool) :
    getRingCall (setAutoAnswerState calls id flag) callId = (getRingCall calls callId).map
      fun it => if it.callId = id then { it with autoAnswerState := flag } else it := by
  have hfind : (setAutoAnswerState calls id flag).entries.reverse.find? (Rings ·) =
      (calls.entries.reverse.find? (Rings ·)).map fun it =>
        if it.callId = id then { it with autoAnswerState := flag } else it := by
    unfold setAutoAnswerState OrderedMap.modify
    rw [← List.map_reverse, List.find?_map]
    congr 2
    funext it
    show decide (Rings (if it.callId = id then _ else it)) = _
    split_ifs <;> rfl
  have hkeep : ∀ it : WatchCall,
      (if it.callId = id then { it with autoAnswerState := flag } else it).callId = it.callId := by
    intro it
    split_ifs <;> rfl
  unfold getRingCall
  rw [hfind]
  cases calls.entries.reverse.find? (Rings ·) with
  | none => rfl
  | some call =>
    simp only [Option.map_some, hkeep]
    unfold setAutoAnswerState
    rw [OrderedMap.lookup_modify]
    cases hlookup : calls.lookup (callId.getD call.callId) with
    | none => split_ifs <;> rfl
    | some it =>
      have hid := (OrderedMap.lookup_spec hlookup).2
      by_cases h : callId.getD call.callId = id
      · simp [h, hid]
      · simp [h, hid]

/-- The mark of a call changes nothing of what an answer asks for. -/
theorem answers_setAutoAnswerState (id : ℕ) (flag : Bool) :
    answers env (setAutoAnswerState calls id flag) callId videoState
        (getRingCall (setAutoAnswerState calls id flag) callId) =
      answers env calls callId videoState (getRingCall calls callId) := by
  rw [getRingCall_setAutoAnswerState]
  cases getRingCall calls callId with
  | none => rfl
  | some call =>
    have hended : endedFor env (setAutoAnswerState calls id flag) callId call =
        endedFor env calls callId call := by
      refine endedFor_map ?_ rfl
      intro it
      dsimp only
      split_ifs <;> exact ⟨rfl, rfl, rfl, rfl⟩
    simp only [Option.map_some, answers]
    rw [← hended]
    by_cases hid : call.callId = id
    · rw [if_pos hid]
      rfl
    · rw [if_neg hid]

/-- The end of `AnswerCall`, once it is seen whether the call must wait. -/
theorem goOn_spec (env : Surroundings) (calls : Calls) (callId : Option ℕ) (videoState : ℤ)
    (requests : List Request) : ∃ calls',
    (match getRingCall calls callId with
    | none => (requests, calls)
    | some call =>
      (requests ++ (answerRingCall env calls callId call videoState).1,
        (answerRingCall env calls callId call videoState).2)) =
        (requests ++ answers env calls callId videoState (getRingCall calls callId), calls') ∧
      SameMarks calls calls' := by
  cases getRingCall calls callId with
  | none => exact ⟨calls, by simp [answers], SameMarks.refl calls⟩
  | some call =>
    obtain ⟨hrequests, hsame⟩ := answerRingCall_spec env calls callId videoState call
    exact ⟨_, by simp only [hrequests], hsame⟩

/-- Requests that answer none, and end no call but others than the one of the request. -/
def EndsFor (callId : Option ℕ) (requests : List Request) : Prop :=
  ∀ q ∈ requests, q.answered = none ∧ ∀ id, q = .hangUpCall id ∨ q = .rejectCall id →
    ∃ c, callId = some c ∧ id ≠ c

theorem EndsFor.filterMap_answered {id : Option ℕ} {requests : List Request}
    (h : EndsFor id requests) : requests.filterMap Request.answered = [] := by
  rw [List.filterMap_eq_nil_iff]
  intro q hq
  exact (h q hq).1

theorem EndsFor.eq_nil {requests : List Request} (h : EndsFor none requests) : requests = [] := by
  cases requests with
  | nil => rfl
  | cons q rest =>
    obtain ⟨hanswered, hends⟩ := h q List.mem_cons_self
    cases q with
    | answerCall id videoState => cases hanswered
    | hangUpCall id =>
      obtain ⟨c, hc, -⟩ := hends id (Or.inl rfl)
      cases hc
    | rejectCall id =>
      obtain ⟨c, hc, -⟩ := hends id (Or.inr rfl)
      cases hc

theorem endsFor_endRequests (calls : Calls) (it : WatchCall) :
    EndsFor (some it.callId) (calls.entries.flatMap (endRequest it)) := by
  intro q hq
  obtain ⟨call, -, hcall⟩ := List.mem_flatMap.mp hq
  unfold endRequest at hcall
  split_ifs at hcall with hid <;> simp only [List.mem_singleton, List.not_mem_nil] at hcall
  · subst hcall
    refine ⟨rfl, fun id h => ⟨it.callId, rfl, ?_⟩⟩
    rcases h with h | h
    · exact Request.hangUpCall.inj h ▸ hid
    · cases h
  · subst hcall
    refine ⟨rfl, fun id h => ⟨it.callId, rfl, ?_⟩⟩
    rcases h with h | h
    · cases h
    · exact Request.rejectCall.inj h ▸ hid

/-- The lookup of a request is by the id that it has. -/
theorem eq_some_of_bind_lookup (h : callId.bind calls.lookup = some it) :
    callId = some it.callId ∧ it ∈ calls.entries := by
  obtain ⟨id, rfl, hlookup⟩ := Option.bind_eq_some_iff.mp h
  obtain ⟨hmem, hid⟩ := OrderedMap.lookup_spec hlookup
  exact ⟨congrArg some hid.symm, hmem⟩

/-- An answer that must wait sets the mark, and asks for the end of the others. -/
theorem answerCall_of_waits (hit : callId.bind calls.lookup = some it)
    (h : Waits env mainCallId calls it) :
    answerCall env mainCallId calls callId videoState =
      (calls.entries.flatMap (endRequest it), setAutoAnswerState calls it.callId true) := by
  unfold answerCall
  rw [hangUpOtherCall_of_waits hit h]
  rfl

/-- An answer that need not wait is made, if it can be, and leaves the marks alone. -/
theorem answerCall_of_not_waits (htyped : Typed calls)
    (h : ∀ it, callId.bind calls.lookup = some it → ¬ Waits env mainCallId calls it) :
    ∃ ends calls', answerCall env mainCallId calls callId videoState =
        (ends ++ answers env calls callId videoState (getRingCall calls callId), calls') ∧
      SameMarks calls calls' ∧ EndsFor (requested calls callId) ends := by
  rcases hangUpOtherCall_of_not_waits h with hnone | ⟨it, hit, hring, hbt, hends⟩
  · obtain ⟨calls', hcalls', hsame⟩ := goOn_spec env calls callId videoState []
    refine ⟨[], calls', ?_, hsame, fun q hq => absurd hq List.not_mem_nil⟩
    unfold answerCall
    rw [hnone]
    exact hcalls'
  · obtain ⟨rfl, hmem⟩ := eq_some_of_bind_lookup hit
    obtain ⟨calls', hcalls', hsame⟩ := goOn_spec env
      (setAutoAnswerState calls it.callId false) (some it.callId) videoState
      (calls.entries.flatMap (endRequest it))
    refine ⟨calls.entries.flatMap (endRequest it), calls', ?_,
      (sameMarks_bluetooth htyped hmem hbt).trans hsame, ?_⟩
    · unfold answerCall
      rw [hends, ← answers_setAutoAnswerState it.callId false]
      exact hcalls'
    · rw [requested_of_rings hmem hring]
      exact endsFor_endRequests calls it

theorem ringing_answerCall (htyped : Typed calls) {id : ℕ} :
    Ringing (answerCall env mainCallId calls callId videoState).2 id ↔ Ringing calls id := by
  by_cases hwaits : ∃ it, callId.bind calls.lookup = some it ∧ Waits env mainCallId calls it
  · obtain ⟨it, hit, hwaits⟩ := hwaits
    rw [answerCall_of_waits hit hwaits]
    exact ringing_setAutoAnswerState true
  · obtain ⟨ends, calls', hanswer, hsame, -⟩ : ∃ ends calls',
        answerCall env mainCallId calls callId videoState =
          (ends ++ answers env calls callId videoState (getRingCall calls callId), calls') ∧
        SameMarks calls calls' ∧ EndsFor (requested calls callId) ends :=
      answerCall_of_not_waits htyped fun it hit h => hwaits ⟨it, hit, h⟩
    rw [hanswer]
    exact hsame.ringing id

/-- No call stops ringing when the marked one has its turn. -/
theorem ringing_answerPendingCall (htyped : Typed calls) {id : ℕ} :
    Ringing (answerPendingCall env mainCallId calls).2 id ↔ Ringing calls id := by
  unfold answerPendingCall
  cases calls.entries.find? (IsPending ·) with
  | none => exact Iff.rfl
  | some call =>
    have htyped' : Typed (setAutoAnswerState calls call.callId false) :=
      typed_setAutoAnswerState htyped fun h => by cases h
    exact (ringing_answerCall htyped').trans (ringing_setAutoAnswerState false)

/-- Whether the answer must wait does not hang on the marks. -/
theorem waits_setAutoAnswerState {id : ℕ} {flag flag' : Bool} :
    Waits env mainCallId (setAutoAnswerState calls id flag)
      { it with autoAnswerState := flag' } ↔ Waits env mainCallId calls it := by
  have hbt : HasBtCallWithDifferentNumber (setAutoAnswerState calls id flag) it.accountNumber ↔
      HasBtCallWithDifferentNumber calls it.accountNumber := by
    simp only [HasBtCallWithDifferentNumber, setAutoAnswerState, OrderedMap.modify,
      List.mem_map, exists_exists_and_eq_and]
    refine exists_congr fun call => and_congr_right fun _ => ?_
    split_ifs <;> rfl
  have hrtt : HasRttCall (setAutoAnswerState calls id flag) ↔ HasRttCall calls := by
    simp only [HasRttCall, setAutoAnswerState, OrderedMap.modify, List.mem_map,
      exists_exists_and_eq_and]
    refine exists_congr fun call => and_congr_right fun _ => ?_
    split_ifs <;> rfl
  unfold Waits MustEndOthers
  rw [getCurrentCallNum_setAutoAnswerState, hbt, hrtt]
  rfl

end Answers

/-! ### One step -/

section Steps

variable {r : WatchRun} {mainCallId : Option ℕ} {calls calls' : Calls} {requests : List Request}
  {choice : Option (ℕ × ℤ)}

/-- The choice stays if nothing is answered and the call rings. -/
theorem remaining_eq (hring : ∀ p, choice = some p → Ringing calls p.1)
    (hanswered : requests.filterMap Request.answered = []) :
    remaining requests calls choice = choice := by
  unfold remaining
  cases choice with
  | none => rfl
  | some p => simp [hring p rfl, hanswered]

theorem Marked.ringing (h : Marked r) (p : ℕ × ℤ) (hp : r.choice = some p) :
    Ringing r.calls p.1 :=
  ((h.marks p.1).mpr ⟨p.2, hp⟩).ringing

theorem Marked.of_sameMarks (h : Marked r) (hsame : SameMarks r.calls calls') :
    Marked ⟨calls', r.mainCallId, r.choice⟩ where
  marks callId := (hsame.pending callId).trans (h.marks callId)
  behind hne := by
    show 1 < getCurrentCallNum r.mainCallId calls'
    rw [hsame.number]
    exact h.behind hne
  typed := hsame.typed h.typed

/-- The choice is that of a marked call alone. -/
theorem Marked.choice_eq_none_iff (h : Marked r) :
    r.choice = none ↔ ∀ callId, ¬ Pending r.calls callId := by
  constructor
  · intro hnone callId hpending
    obtain ⟨videoState, hchoice⟩ := (h.marks callId).mp hpending
    rw [hnone] at hchoice
    cases hchoice
  · intro hnone
    cases hchoice : r.choice with
    | none => rfl
    | some p => exact absurd ((h.marks p.1).mpr ⟨p.2, hchoice⟩) (hnone p.1)

/-- Without a mark, there must be no choice. -/
theorem marked_iff_of_not_pending (hnone : ∀ callId, ¬ Pending calls callId)
    (htyped : Typed calls) : Marked ⟨calls, mainCallId, choice⟩ ↔ choice = none := by
  constructor
  · intro hmarked
    exact hmarked.choice_eq_none_iff.mpr hnone
  · rintro rfl
    refine ⟨fun callId => iff_of_false (hnone callId) ?_, fun hne => absurd rfl hne, htyped⟩
    rintro ⟨videoState, hchoice⟩
    cases hchoice

theorem serves_nil (choice : Option (ℕ × ℤ)) : Serves choice [] where
  answers _ _ h := absurd h List.not_mem_nil
  ends _ h := by rcases h with h | h <;> exact absurd h List.not_mem_nil

/-- To ask for the end of other calls serves the choice. -/
theorem serves_of_endsFor {id : ℕ} {videoState : ℤ} (h : EndsFor (some id) requests) :
    Serves (some (id, videoState)) requests where
  answers callId v hmem := by
    have hanswered := (h _ hmem).1
    cases hanswered
  ends callId hmem := by
    rcases hmem with hmem | hmem
    · obtain ⟨c, hc, hne⟩ := (h _ hmem).2 callId (Or.inl rfl)
      exact ⟨_, rfl, Option.some.inj hc ▸ hne⟩
    · obtain ⟨c, hc, hne⟩ := (h _ hmem).2 callId (Or.inr rfl)
      exact ⟨_, rfl, Option.some.inj hc ▸ hne⟩

/-- So does an answer of the choice, with its video state. -/
theorem serves_append_answer_iff {id : ℕ} {v videoState : ℤ} (h : EndsFor (some id) requests) :
    Serves (some (id, v)) (requests ++ [.answerCall id videoState]) ↔ videoState = v := by
  constructor
  · intro hserves
    have hv := hserves.answers id videoState (List.mem_append_right _ List.mem_cons_self)
    exact (Prod.mk.inj (Option.some.inj hv)).2.symm
  · rintro rfl
    have hserves : Serves (some (id, videoState)) requests := serves_of_endsFor h
    refine ⟨fun callId v hmem => ?_, fun callId hmem => hserves.ends callId (by simpa using hmem)⟩
    rcases List.mem_append.mp hmem with hmem | hmem
    · exact hserves.answers callId v hmem
    · rw [List.mem_singleton] at hmem
      cases hmem
      rfl

/-- The step is as specified. -/
def Kept (r : WatchRun) (op : WatchOp) : Prop :=
  Marked (step r op) ∧ Serves (chosen r op) (after r.mainCallId r.calls op).1

variable {env : Surroundings} {callId : Option ℕ} {videoState : ℤ} {it : WatchCall}

/-- A step of the same run, by what it asks for and what it leaves. -/
theorem kept_iff_of_eq {op : WatchOp} {choice left : Option (ℕ × ℤ)}
    (hafter : after r.mainCallId r.calls op = (requests, calls')) (hchosen : chosen r op = choice)
    (hremaining : remaining requests calls' choice = left) :
    Kept r op ↔ Marked ⟨calls', mainCallAfter r.mainCallId op, left⟩ ∧ Serves choice requests := by
  unfold Kept step
  rw [hafter, hchosen, hremaining]

/-- The mark that is set for an answer that must wait, if no other call has one. -/
theorem marked_of_waits (htyped : Typed calls) (hmem : it ∈ calls.entries)
    (hwaits : Waits env mainCallId calls it) (hother : ∀ id, Pending calls id → id = it.callId) :
    Marked ⟨setAutoAnswerState calls it.callId true, mainCallId,
      some (it.callId, videoState)⟩ := by
  obtain ⟨hnumber, hring, htype, -⟩ := hwaits
  refine ⟨fun id => ?_, fun _ => ?_, ?_⟩
  · show Pending (setAutoAnswerState calls it.callId true) id ↔ _
    rw [pending_setAutoAnswerState_true]
    constructor
    · rintro (⟨rfl, -⟩ | hpending)
      · exact ⟨videoState, rfl⟩
      · obtain rfl := hother id hpending
        exact ⟨videoState, rfl⟩
    · rintro ⟨v, hv⟩
      obtain ⟨rfl, -⟩ := Prod.mk.inj (Option.some.inj hv)
      exact Or.inl ⟨rfl, ringing_of_mem hmem hring⟩
  · show 1 < getCurrentCallNum mainCallId (setAutoAnswerState calls it.callId true)
    rw [getCurrentCallNum_setAutoAnswerState]
    exact hnumber
  · refine typed_setAutoAnswerState htyped fun _ call hcall hid => ?_
    obtain rfl := OrderedMap.eq_of_key_eq hcall hmem hid
    exact htype

/-- The end of `AnswerCall` for the choice: it is answered, or stays. -/
theorem kept_answers_iff {op : WatchOp} {v : ℤ} {goes : Prop} [Decidable goes]
    (hafter : after r.mainCallId r.calls op =
      (requests ++ (if goes then [.answerCall it.callId videoState] else []), calls'))
    (hchosen : chosen r op = some (it.callId, v)) (hends : EndsFor (some it.callId) requests)
    (hring : Ringing calls' it.callId) :
    Kept r op ↔
      if goes then Marked ⟨calls', mainCallAfter r.mainCallId op, none⟩ ∧ videoState = v
      else Marked ⟨calls', mainCallAfter r.mainCallId op, some (it.callId, v)⟩ := by
  split_ifs with hgoes
  · rw [if_pos hgoes] at hafter
    have hremaining : remaining (requests ++ [.answerCall it.callId videoState]) calls'
        (some (it.callId, v)) = none := by
      simp [remaining, Option.filter, hends.filterMap_answered, Request.answered]
    rw [kept_iff_of_eq hafter hchosen hremaining, serves_append_answer_iff hends]
  · rw [if_neg hgoes, List.append_nil] at hafter
    have hremaining : remaining requests calls' (some (it.callId, v)) = some (it.callId, v) := by
      refine remaining_eq (fun p hp => ?_) hends.filterMap_answered
      obtain rfl := Option.some.inj hp
      exact hring
    rw [kept_iff_of_eq hafter hchosen hremaining]
    exact and_iff_left (serves_of_endsFor hends)

theorem chosen_answerCall :
    chosen r (.answerCall env callId videoState) =
      match requested r.calls callId with
      | some id => some (id, videoState)
      | none => r.choice := rfl

/-- **An answer that must wait.** -/
theorem kept_answerCall_waits_iff (hr : Marked r) (hit : callId.bind r.calls.lookup = some it)
    (hwaits : Waits env r.mainCallId r.calls it) :
    Kept r (.answerCall env callId videoState) ↔
      ∀ p, r.choice = some p → p.1 = it.callId := by
  obtain ⟨rfl, hmem⟩ := eq_some_of_bind_lookup hit
  have hrequested := requested_of_rings hmem hwaits.2.1
  have hends : EndsFor (some it.callId) (r.calls.entries.flatMap (endRequest it)) :=
    endsFor_endRequests r.calls it
  have hafter : after r.mainCallId r.calls (.answerCall env (some it.callId) videoState) =
      (r.calls.entries.flatMap (endRequest it), setAutoAnswerState r.calls it.callId true) :=
    answerCall_of_waits hit hwaits
  have hchosen : chosen r (.answerCall env (some it.callId) videoState) =
      some (it.callId, videoState) := by rw [chosen_answerCall, hrequested]
  rw [kept_iff_of_eq hafter hchosen (remaining_eq (by
    intro p hp
    obtain rfl := Option.some.inj hp
    exact (ringing_setAutoAnswerState true).mpr (ringing_of_mem hmem hwaits.2.1))
    hends.filterMap_answered)]
  constructor
  · rintro ⟨hmarked, -⟩ p hp
    have hpending : Pending r.calls p.1 := (hr.marks p.1).mpr ⟨p.2, hp⟩
    obtain ⟨v, hv⟩ := (hmarked.marks p.1).mp (pending_setAutoAnswerState_true.mpr (Or.inr hpending))
    exact (congrArg Prod.fst (Option.some.inj hv)).symm
  · intro hchoice
    refine ⟨marked_of_waits hr.typed hmem hwaits fun id hpending => ?_, serves_of_endsFor hends⟩
    obtain ⟨v, hv⟩ := (hr.marks id).mp hpending
    exact hchoice _ hv

/-- What is ended for a choice is another call. -/
theorem Serves.ended {q : Request} {id : ℕ} (h : Serves choice requests) (hq : q ∈ requests)
    (hid : q.ended = some id) : ∃ p, choice = some p ∧ id ≠ p.1 := by
  cases q with
  | answerCall callId v => cases hid
  | hangUpCall callId =>
    obtain rfl := Option.some.inj hid
    exact h.ends callId (.inl hq)
  | rejectCall callId =>
    obtain rfl := Option.some.inj hid
    exact h.ends callId (.inr hq)

theorem Request.ended_of_not_answered {q : Request} (h : q.answered = none) :
    ∃ id, q.ended = some id := by
  cases q with
  | answerCall callId v => cases h
  | hangUpCall callId => exact ⟨callId, rfl⟩
  | rejectCall callId => exact ⟨callId, rfl⟩

/-- To end calls serves a choice iff there is one, and it is not ended. -/
theorem serves_iff_of_not_answered (h : ∀ q ∈ requests, q.answered = none) :
    Serves choice requests ↔ ∀ q ∈ requests, ∃ p, choice = some p ∧ q.ended ≠ some p.1 := by
  constructor
  · intro hserves q hq
    obtain ⟨id, hid⟩ := Request.ended_of_not_answered (h q hq)
    obtain ⟨p, hp, hne⟩ := hserves.ended hq hid
    exact ⟨p, hp, fun heq => hne (Option.some.inj (hid.symm.trans heq))⟩
  · intro hends
    refine ⟨fun callId v hmem => ?_, fun callId hmem => ?_⟩
    · have hnone := h _ hmem
      cases hnone
    · rcases hmem with hmem | hmem <;> obtain ⟨p, hp, hne⟩ := hends _ hmem <;>
        exact ⟨p, hp, fun heq => hne (congrArg some heq)⟩

theorem EndsFor.append_endedFor {ends : List Request} {callId : Option ℕ}
    (hends : EndsFor (some it.callId) ends)
    (hended : ∀ q ∈ endedFor env calls callId it, q.ended ≠ some it.callId) :
    EndsFor (some it.callId) (ends ++ endedFor env calls callId it) := by
  intro q hq
  rcases List.mem_append.mp hq with hq | hq
  · exact hends q hq
  · refine ⟨answered_endedFor hq, fun id h => ⟨it.callId, rfl, fun hid => hended q hq ?_⟩⟩
    rcases h with rfl | rfl <;> exact congrArg some hid

section AnswerOf

variable {ends : List Request} (hr : Marked r)
  (hafter : after r.mainCallId r.calls (.answerCall env callId videoState) =
    (ends ++ answers env r.calls callId videoState (some it), calls'))
  (hsame : SameMarks r.calls calls') (hends : EndsFor (requested r.calls callId) ends)
  (hfound : getRingCall r.calls callId = some it)

include hr hafter hsame hends hfound

/-- An answer that finds a ringing call. -/
theorem kept_answerCall_of_rings_iff (hrings : Rings it) :
    Kept r (.answerCall env callId videoState) ↔ AnswerOk env r callId videoState (some it) := by
  have hrequested : requested r.calls callId = some it.callId := by
    simp [requested, hfound, hrings]
  rw [hrequested] at hends
  have hchosen : chosen r (.answerCall env callId videoState) = some (it.callId, videoState) := by
    rw [chosen_answerCall, hrequested]
  simp only [AnswerOk, if_pos hrings]
  by_cases hended : ∀ q ∈ endedFor env r.calls callId it, q.ended ≠ some it.callId
  · rw [and_iff_right hended]
    simp only [answers, hrings, and_true, ← List.append_assoc] at hafter
    rw [kept_answers_iff hafter hchosen (hends.append_endedFor hended)
      ((hsame.ringing it.callId).mpr (ringing_of_requested hrequested))]
    split_ifs with hgoes
    · rw [and_iff_left rfl]
      constructor
      · intro hmarked
        rw [hr.choice_eq_none_iff]
        intro c hc
        exact hmarked.choice_eq_none_iff.mp rfl c ((hsame.pending c).mpr hc)
      · intro hnone
        have hmarked := hr.of_sameMarks hsame
        rwa [hnone] at hmarked
    · constructor
      · intro hmarked
        exact (hr.marks it.callId).mp ((hsame.pending it.callId).mp
          ((hmarked.marks it.callId).mpr ⟨videoState, rfl⟩))
      · rintro ⟨v, hv⟩
        refine ⟨fun c => ?_, fun _ => ?_, hsame.typed hr.typed⟩
        · rw [hsame.pending c, hr.marks c, hv]
          simp
        · show 1 < getCurrentCallNum r.mainCallId calls'
          rw [hsame.number]
          exact hr.behind (by rw [hv]; simp)
  · refine iff_of_false ?_ fun hok => hended hok.1
    rintro ⟨-, hserves⟩
    rw [hafter, hchosen] at hserves
    push Not at hended
    obtain ⟨q, hq, hid⟩ := hended
    have hmem : q ∈ ends ++ answers env r.calls callId videoState (some it) :=
      List.mem_append_right _ (List.mem_append_left _ hq)
    obtain ⟨p, hp, hne⟩ := hserves.ended hmem hid
    exact hne (congrArg Prod.fst (Option.some.inj hp))

/-- An answer that finds a call that does not ring: it is of no choice, and only ends calls. -/
theorem kept_answerCall_of_not_rings_iff (hrings : ¬ Rings it) :
    Kept r (.answerCall env callId videoState) ↔ AnswerOk env r callId videoState (some it) := by
  have hrequested : requested r.calls callId = none := by simp [requested, hfound, hrings]
  rw [hrequested] at hends
  have hchosen : chosen r (.answerCall env callId videoState) = r.choice := by
    rw [chosen_answerCall, hrequested]
  simp only [hends.eq_nil, answers, hrings, and_false, if_false, List.nil_append,
    List.append_nil] at hafter
  have hring (p : ℕ × ℤ) (hp : r.choice = some p) : Ringing calls' p.1 :=
    (hsame.ringing p.1).mpr (hr.ringing p hp)
  have hanswered : (endedFor env r.calls callId it).filterMap Request.answered = [] := by
    rw [List.filterMap_eq_nil_iff]
    exact fun q hq => answered_endedFor hq
  rw [kept_iff_of_eq hafter hchosen (remaining_eq hring hanswered)]
  simp only [AnswerOk, if_neg hrings]
  refine Iff.trans (and_iff_right (hr.of_sameMarks hsame)) ?_
  exact serves_iff_of_not_answered fun q hq => answered_endedFor hq

end AnswerOf

/-- **An answer that need not wait.** -/
theorem kept_answerCall_iff (hr : Marked r)
    (h : ∀ it, callId.bind r.calls.lookup = some it → ¬ Waits env r.mainCallId r.calls it) :
    Kept r (.answerCall env callId videoState) ↔
      AnswerOk env r callId videoState (getRingCall r.calls callId) := by
  obtain ⟨ends, calls', hafter, hsame, hends⟩ : ∃ ends calls',
      after r.mainCallId r.calls (.answerCall env callId videoState) =
        (ends ++ answers env r.calls callId videoState (getRingCall r.calls callId), calls') ∧
      SameMarks r.calls calls' ∧ EndsFor (requested r.calls callId) ends :=
    answerCall_of_not_waits hr.typed h
  cases hfound : getRingCall r.calls callId with
  | none =>
    have hrequested : requested r.calls callId = none := by simp [requested, hfound]
    rw [hrequested] at hends
    rw [hfound, hends.eq_nil] at hafter
    have hchosen : chosen r (.answerCall env callId videoState) = r.choice := by
      rw [chosen_answerCall, hrequested]
    have hring (p : ℕ × ℤ) (hp : r.choice = some p) : Ringing calls' p.1 :=
      (hsame.ringing p.1).mpr (hr.ringing p hp)
    rw [kept_iff_of_eq hafter hchosen (remaining_eq hring rfl)]
    exact iff_of_true ⟨hr.of_sameMarks hsame, serves_nil _⟩ trivial
  | some it =>
    rw [hfound] at hafter
    by_cases hrings : Rings it
    · exact kept_answerCall_of_rings_iff hr hafter hsame hends hfound hrings
    · exact kept_answerCall_of_not_rings_iff hr hafter hsame hends hfound hrings

theorem remaining_nil_eq_some_iff {p : ℕ × ℤ} :
    remaining [] calls choice = some p ↔ choice = some p ∧ Ringing calls p.1 := by
  unfold remaining
  rw [Option.filter_eq_some_iff]
  simp

/-- A step that asks for nothing is as specified iff it leaves the marks right. -/
theorem kept_silent_iff {op : WatchOp} (hafter : after r.mainCallId r.calls op = ([], calls'))
    (hchosen : chosen r op = r.choice) :
    Kept r op ↔ Marked ⟨calls', mainCallAfter r.mainCallId op, remaining [] calls' r.choice⟩ := by
  rw [kept_iff_of_eq hafter hchosen rfl]
  exact and_iff_left (serves_nil _)

/-- If the choice goes on ringing with the same marks, another call must stay beside it. -/
theorem kept_silent_iff_of_ringing {op : WatchOp} (hr : Marked r)
    (hafter : after r.mainCallId r.calls op = ([], calls')) (hchosen : chosen r op = r.choice)
    (hpending : ∀ id, Pending calls' id ↔ Pending r.calls id)
    (hring : ∀ p, r.choice = some p → Ringing calls' p.1) (htyped : Typed calls') :
    Kept r op ↔
      (r.choice ≠ none → 1 < getCurrentCallNum (mainCallAfter r.mainCallId op) calls') := by
  rw [kept_silent_iff hafter hchosen, remaining_eq hring rfl]
  refine ⟨fun hmarked => hmarked.behind, fun hnumber => ⟨fun id => ?_, hnumber, htyped⟩⟩
  exact (hpending id).trans (hr.marks id)

theorem kept_silent_of_ringing {op : WatchOp} (hr : Marked r)
    (hafter : after r.mainCallId r.calls op = ([], calls')) (hchosen : chosen r op = r.choice)
    (hpending : ∀ id, Pending calls' id ↔ Pending r.calls id)
    (hring : ∀ p, r.choice = some p → Ringing calls' p.1)
    (hnumber : getCurrentCallNum r.mainCallId r.calls ≤
      getCurrentCallNum (mainCallAfter r.mainCallId op) calls') (htyped : Typed calls') :
    Kept r op :=
  (kept_silent_iff_of_ringing hr hafter hchosen hpending hring htyped).mpr fun hne =>
    lt_of_lt_of_le (hr.behind hne) hnumber

theorem typed_insert {call : WatchCall} (h : Typed calls) (hmark : call.autoAnswerState = false) :
    Typed (calls.insert call) := by
  intro it hmem hit
  by_cases hin : calls.Mem call.callId
  · rw [OrderedMap.entries_insert_of_mem hin] at hmem
    exact h it hmem hit
  · rw [OrderedMap.entries_insert_of_not_mem hin] at hmem
    rcases List.mem_append.mp hmem with hmem | hmem
    · exact h it hmem hit
    · rw [List.mem_singleton.mp hmem, hmark] at hit
      cases hit

theorem typed_erase {id : ℕ} (h : Typed calls) : Typed (calls.erase id) := by
  intro it hmem
  exact h it (List.mem_of_mem_filter hmem)

/-- **A mark of another function.** -/
theorem kept_setAutoAnswerState_true_iff (hr : Marked r) {id : ℕ} :
    Kept r (.setAutoAnswerState id true) ↔
      ∀ it ∈ r.calls.entries, it.callId = id → (it.callType = .cs ∨ it.callType = .ims) ∧
        (Rings it → ∃ v, r.choice = some (id, v)) := by
  have hring (p : ℕ × ℤ) (hp : r.choice = some p) :
      Ringing (setAutoAnswerState r.calls id true) p.1 :=
    (ringing_setAutoAnswerState true).mpr (hr.ringing p hp)
  refine (kept_silent_iff rfl rfl).trans ?_
  rw [remaining_eq hring rfl]
  constructor
  · intro hmarked it hmem hid
    subst hid
    have hmem' : { it with autoAnswerState := true } ∈
        (setAutoAnswerState r.calls it.callId true).entries :=
      List.mem_map.mpr ⟨it, hmem, if_pos rfl⟩
    refine ⟨hmarked.typed { it with autoAnswerState := true } hmem' rfl, fun hrings => ?_⟩
    exact (hmarked.marks it.callId).mp (pending_setAutoAnswerState_true.mpr
      (.inl ⟨rfl, ringing_of_mem hmem hrings⟩))
  · intro hok
    refine ⟨fun c => ?_, fun hne => ?_, ?_⟩
    · show Pending (setAutoAnswerState r.calls id true) c ↔ _
      rw [pending_setAutoAnswerState_true, ← hr.marks c]
      refine or_iff_right_of_imp ?_
      rintro ⟨rfl, it, hmem, hid, hrings⟩
      exact (hr.marks c).mpr ((hok it hmem hid).2 hrings)
    · show 1 < getCurrentCallNum r.mainCallId (setAutoAnswerState r.calls id true)
      rw [getCurrentCallNum_setAutoAnswerState]
      exact hr.behind hne
    · exact typed_setAutoAnswerState hr.typed fun _ it hmem hid => (hok it hmem hid).1

theorem kept_setAutoAnswerState_false_iff (hr : Marked r) {id : ℕ} :
    Kept r (.setAutoAnswerState id false) ↔ ∀ p, r.choice = some p → p.1 ≠ id := by
  have hring (p : ℕ × ℤ) (hp : r.choice = some p) :
      Ringing (setAutoAnswerState r.calls id false) p.1 :=
    (ringing_setAutoAnswerState false).mpr (hr.ringing p hp)
  refine (kept_silent_iff rfl rfl).trans ?_
  rw [remaining_eq hring rfl]
  constructor
  · intro hmarked p hp
    exact (pending_setAutoAnswerState_false.mp ((hmarked.marks p.1).mpr ⟨p.2, hp⟩)).1
  · intro hok
    refine ⟨fun c => ?_, fun hne => ?_, ?_⟩
    · show Pending (setAutoAnswerState r.calls id false) c ↔ _
      rw [pending_setAutoAnswerState_false, hr.marks c]
      refine and_iff_right_of_imp ?_
      rintro ⟨v, hv⟩
      exact hok _ hv
    · show 1 < getCurrentCallNum r.mainCallId (setAutoAnswerState r.calls id false)
      rw [getCurrentCallNum_setAutoAnswerState]
      exact hr.behind hne
    · exact typed_setAutoAnswerState hr.typed fun h => by cases h

/-- **A new call.** -/
theorem kept_addOneCallObject (hr : Marked r) (call : WatchCall) :
    Kept r (.addOneCallObject call) :=
  kept_silent_of_ringing hr rfl rfl (fun _ => pending_insert rfl)
    (fun p hp => ringing_insert_of_ringing (hr.ringing p hp)) (getCurrentCallNum_le_insert _)
    (typed_insert hr.typed rfl)

/-- **A report of a call.** -/
theorem kept_report_iff (hr : Marked r) {id : ℕ} {callState : TelCallState}
    {videoState : ℤ} {isRtt : Bool} :
    Kept r (.report id callState videoState isRtt) ↔
      (callState = .incoming ∨ callState = .waiting →
        ∀ it ∈ r.calls.entries, it.callId = id → it.autoAnswerState = true →
          ∃ v, r.choice = some (id, v)) := by
  set f : WatchCall → WatchCall := fun it => { it with
    callState := callState
    videoState := videoState
    isRtt := isRtt } with hf
  have hkey : ∀ it, (f it).callId = it.callId := fun _ => rfl
  have hsame : ∀ c, c ≠ id → ∀ P : WatchCall → Prop,
      (∃ it ∈ (r.calls.modify id f hkey).entries, it.callId = c ∧ P it) ↔
        ∃ it ∈ r.calls.entries, it.callId = c ∧ P it := by
    intro c hne P
    simp only [OrderedMap.exists_entry_modify, if_neg hne]
  have hown : ∀ P : WatchCall → Prop,
      (∃ it ∈ (r.calls.modify id f hkey).entries, it.callId = id ∧ P it) ↔
        ∃ it ∈ r.calls.entries, it.callId = id ∧ P (f it) := by
    intro P
    simp only [OrderedMap.exists_entry_modify, if_true]
  have hafter : after r.mainCallId r.calls (.report id callState videoState isRtt) =
      ([], r.calls.modify id f hkey) := rfl
  rw [kept_silent_iff hafter rfl]
  constructor
  · intro hmarked hstate it hmem hid hmark
    have hpending : Pending (r.calls.modify id f hkey) id :=
      (hown IsPending).mpr ⟨it, hmem, hid, hstate, hmark⟩
    obtain ⟨v, hv⟩ := (hmarked.marks id).mp hpending
    exact ⟨v, (remaining_nil_eq_some_iff.mp hv).1⟩
  · intro hok
    refine ⟨fun c => ?_, fun hne => ?_, ?_⟩
    · simp only [remaining_nil_eq_some_iff]
      by_cases hc : c = id
      · subst hc
        constructor
        · intro hpending
          obtain ⟨it, hmem, hid, hstate, hmark⟩ := (hown IsPending).mp hpending
          obtain ⟨v, hv⟩ := hok hstate it hmem hid hmark
          exact ⟨v, hv, hpending.ringing⟩
        · rintro ⟨v, hv, hring⟩
          obtain ⟨it, hmem, hid, -, hmark⟩ := (hr.marks c).mpr ⟨v, hv⟩
          obtain ⟨_, -, -, hstate⟩ := (hown Rings).mp hring
          exact (hown IsPending).mpr ⟨it, hmem, hid, hstate, hmark⟩
      · have hpending : Pending (r.calls.modify id f hkey) c ↔ Pending r.calls c :=
          hsame c hc IsPending
        have hring : Ringing (r.calls.modify id f hkey) c ↔ Ringing r.calls c := hsame c hc Rings
        rw [hpending, hr.marks c]
        refine exists_congr fun v => ⟨fun hv => ⟨hv, ?_⟩, fun hv => hv.1⟩
        exact hring.mpr (hr.ringing _ hv)
    · show 1 < getCurrentCallNum r.mainCallId (r.calls.modify id f hkey)
      rw [getCurrentCallNum_modify hkey (fun _ => rfl) fun _ => rfl]
      refine hr.behind fun hnone => hne ?_
      show remaining [] _ r.choice = none
      rw [hnone]
      rfl
    · intro it hmem hmark
      obtain ⟨call, hcall, rfl⟩ := List.mem_map.mp hmem
      split_ifs at hmark ⊢ <;> exact hr.typed call hcall hmark

/-- To replace a call by one of the modem does not make the calls fewer. -/
theorem getCurrentCallNum_le_replace (call : WatchCall) (hmem : it ∈ calls.entries)
    (hid : call.callId = it.callId) (htype : call.callType ∈ carrierTypes)
    (hconference : call.conferenceState = it.conferenceState) :
    getCurrentCallNum mainCallId calls ≤
      getCurrentCallNum mainCallId ((calls.erase it.callId).insert call) := by
  have hfree : ¬ (calls.erase it.callId).Mem call.callId := by
    rw [OrderedMap.mem_erase, hid]
    exact fun h => h.1 rfl
  simp only [getCurrentCallNum, StoredCalls.getCurrentCallNum_eq_countP]
  set p : WatchCall → Bool := fun it => StoredCalls.IsCurrent WatchCall.callType
    WatchCall.conferenceState (fun it => some it.callId) mainCallId it with hp
  have hcounts : p it = true → p call = true := by
    intro h
    have hcounts : StoredCalls.IsCurrent WatchCall.callType WatchCall.conferenceState
        (fun it => some it.callId) mainCallId it := by simpa [hp] using h
    have hcall : StoredCalls.IsCurrent WatchCall.callType WatchCall.conferenceState
        (fun it => some it.callId) mainCallId call := by
      refine ⟨htype, ?_⟩
      show CountsAsCurrent call.conferenceState mainCallId (some call.callId)
      rw [hconference, hid]
      exact hcounts.2
    simpa [hp] using hcall
  -- the calls are those with another id, and the one replaced
  have hsplit := calls.entries.countP_eq_countP_filter_add p (·.callId ≠ it.callId)
  have hone : (calls.entries.filter fun a => !decide (a.callId ≠ it.callId)) = [it] := by
    simpa using OrderedMap.filter_key hmem
  rw [hone, List.countP_singleton] at hsplit
  rw [OrderedMap.entries_insert_of_not_mem hfree, List.countP_append, List.countP_singleton,
    OrderedMap.entries_erase, hsplit]
  refine Nat.add_le_add_left ?_ _
  split_ifs with hit hcall
  · exact le_rfl
  · exact absurd (hcounts hit) hcall
  · exact Nat.zero_le _
  · exact le_rfl

/-- **A call that gets another object.** -/
theorem kept_refreshCall_iff (hr : Marked r) {id : ℕ}
    {callType : {t : CallType // t ∈ carrierTypes}} {isTransferCall : Bool} :
    Kept r (.refreshCall id callType isTransferCall) ↔ ∀ p, r.choice = some p → p.1 ≠ id := by
  cases hlookup : r.calls.lookup id with
  | none =>
    have hafter : after r.mainCallId r.calls (.refreshCall id callType isTransferCall) =
        ([], r.calls) := by
      simp only [after, hlookup]
    refine iff_of_true (kept_silent_of_ringing hr hafter rfl (fun _ => Iff.rfl) hr.ringing le_rfl
      hr.typed) fun p hp hid => ?_
    have hmem := (hr.ringing p hp).mem
    rw [hid, OrderedMap.mem_iff_lookup, hlookup] at hmem
    cases hmem
  | some it =>
    obtain ⟨hin, hid⟩ := OrderedMap.lookup_spec hlookup
    set call : WatchCall := { it with
      callType := callType
      autoAnswerState := false
      isTransferCall := isTransferCall } with hcall
    have hafter : after r.mainCallId r.calls (.refreshCall id callType isTransferCall) =
        ([], (r.calls.erase id).insert call) := by
      simp only [after, hlookup, hcall]
    have hpending : ∀ c, Pending ((r.calls.erase id).insert call) c ↔
        c ≠ id ∧ Pending r.calls c := fun c => (pending_insert rfl).trans pending_erase
    constructor
    · intro hkept p hp heq
      rw [kept_silent_iff hafter rfl] at hkept
      have hring : Ringing ((r.calls.erase id).insert call) p.1 := by
        obtain ⟨other, hother, hotherid, hrings⟩ := hr.ringing p hp
        obtain rfl := OrderedMap.eq_of_key_eq hother hin (hotherid.trans (heq.trans hid.symm))
        have hfree : ¬ (r.calls.erase id).Mem call.callId := by
          rw [OrderedMap.mem_erase]
          exact fun h => h.1 hid
        refine ⟨call, ?_, hotherid, hrings⟩
        rw [OrderedMap.entries_insert_of_not_mem hfree]
        exact List.mem_append_right _ List.mem_cons_self
      have hmarked := (hkept.marks p.1).mpr ⟨p.2, remaining_nil_eq_some_iff.mpr ⟨hp, hring⟩⟩
      exact ((hpending p.1).mp hmarked).1 heq
    · intro hok
      refine kept_silent_of_ringing hr hafter rfl (fun c => ?_) (fun p hp => ?_)
        (hid ▸ getCurrentCallNum_le_replace call hin rfl callType.2 rfl)
        (typed_insert (typed_erase hr.typed) rfl)
      · rw [hpending c]
        refine and_iff_right_of_imp fun hc => ?_
        obtain ⟨v, hv⟩ := (hr.marks c).mp hc
        exact hok _ hv
      · exact ringing_insert_of_ringing (ringing_erase.mpr ⟨hok p hp, hr.ringing p hp⟩)

theorem kept_setTelConferenceState_iff (hr : Marked r) {id : ℕ}
    {conferenceState : TelConferenceState} :
    Kept r (.setTelConferenceState id conferenceState) ↔
      (r.choice ≠ none →
        1 < getCurrentCallNum r.mainCallId (setTelConferenceState r.calls id conferenceState)) := by
  have hsame (P : WatchCall → Prop)
      (hP : ∀ it, P { it with conferenceState := conferenceState } ↔ P it) (c : ℕ) :
      (∃ it ∈ (setTelConferenceState r.calls id conferenceState).entries, it.callId = c ∧ P it) ↔
        ∃ it ∈ r.calls.entries, it.callId = c ∧ P it := by
    unfold setTelConferenceState
    rw [OrderedMap.exists_entry_modify]
    refine exists_congr fun it => and_congr_right fun _ => and_congr_right fun _ => ?_
    split_ifs
    · exact hP it
    · exact Iff.rfl
  refine kept_silent_iff_of_ringing hr rfl rfl (hsame IsPending fun _ => Iff.rfl)
    (fun p hp => (hsame Rings (fun _ => Iff.rfl) p.1).mpr (hr.ringing p hp)) ?_
  intro it hmem hmark
  obtain ⟨call, hcall, rfl⟩ := List.mem_map.mp hmem
  split_ifs at hmark ⊢ <;> exact hr.typed call hcall hmark

/-- **The end of a VoIP call.** -/
theorem kept_voipDisconnected (hr : Marked r) (id : ℕ) : Kept r (.voipDisconnected id) := by
  have hsame : after r.mainCallId r.calls (.voipDisconnected id) = ([], r.calls) →
      Kept r (.voipDisconnected id) := fun hafter =>
    kept_silent_of_ringing hr hafter rfl (fun _ => Iff.rfl) hr.ringing le_rfl hr.typed
  cases hlookup : r.calls.lookup id with
  | none => exact hsame (by simp only [after, hlookup])
  | some it =>
    by_cases hvoip : it.callType = .voip
    · obtain ⟨hin, hid⟩ := OrderedMap.lookup_spec hlookup
      have hafter : after r.mainCallId r.calls (.voipDisconnected id) = ([], r.calls.erase id) := by
        simp only [after, hlookup, if_pos hvoip]
      have hother : ∀ c, Pending r.calls c → c ≠ id := by
        rintro c ⟨call, hmem, hc, -, hmark⟩ rfl
        obtain rfl := OrderedMap.eq_of_key_eq hmem hin (hc.trans hid.symm)
        rcases hr.typed call hmem hmark with h | h <;> rw [hvoip] at h <;> cases h
      refine kept_silent_of_ringing hr hafter rfl (fun c => ?_) (fun p hp => ?_) ?_
        (typed_erase hr.typed)
      · rw [pending_erase]
        exact and_iff_right_of_imp (hother c)
      · exact ringing_erase.mpr ⟨hother _ ((hr.marks p.1).mpr ⟨p.2, hp⟩), hr.ringing p hp⟩
      · show getCurrentCallNum r.mainCallId r.calls ≤
          getCurrentCallNum r.mainCallId (r.calls.erase id)
        simp only [getCurrentCallNum, StoredCalls.getCurrentCallNum_eq_countP,
          OrderedMap.entries_erase, List.countP_filter]
        refine le_of_eq (List.countP_congr fun call hmem => ?_)
        by_cases heq : call.callId = id
        · obtain rfl := OrderedMap.eq_of_key_eq hmem hin (heq.trans hid.symm)
          simp [hvoip, carrierTypes, StoredCalls.IsCurrent]
        · simp [heq]
    · exact hsame (by simp only [after, hlookup, if_neg hvoip])

/-- A call whose mark was taken back is marked again, if it must still wait. -/
theorem kept_of_turn_waits {id : ℕ} {v : ℤ} (htyped : Typed calls)
    (hunmarked : ∀ c, ¬ Pending calls c) (hmem : it ∈ calls.entries)
    (hafter : after r.mainCallId r.calls (.disconnected env id) =
      answerCall env r.mainCallId calls (some it.callId) videoState)
    (hchosen : r.choice = some (it.callId, v)) (hwaits : Waits env r.mainCallId calls it) :
    Kept r (.disconnected env id) := by
  have hlookup : (some it.callId).bind calls.lookup = some it := OrderedMap.lookup_key hmem
  have hmarked : Marked ⟨setAutoAnswerState calls it.callId true, r.mainCallId,
      some (it.callId, v)⟩ :=
    marked_of_waits htyped hmem hwaits fun c hc => absurd hc (hunmarked c)
  have hends : EndsFor (some it.callId) (calls.entries.flatMap (endRequest it)) :=
    endsFor_endRequests calls it
  rw [kept_iff_of_eq (hafter.trans (answerCall_of_waits hlookup hwaits)) hchosen
    (remaining_eq hmarked.ringing hends.filterMap_answered)]
  exact ⟨hmarked, serves_of_endsFor hends⟩

/-- If it need not wait, it must be answered, and as the user chose. -/
theorem kept_turn_iff (it : WatchCall) {id : ℕ} {v : ℤ} (htyped : Typed calls)
    (hunmarked : ∀ c, ¬ Pending calls c) (hmem : it ∈ calls.entries) (hring : Rings it)
    (hafter : after r.mainCallId r.calls (.disconnected env id) =
      answerCall env r.mainCallId calls (some it.callId) videoState)
    (hchosen : r.choice = some (it.callId, v)) (hwaits : ¬ Waits env r.mainCallId calls it) :
    Kept r (.disconnected env id) ↔ videoState = v ∧ IsAnswerState v ∧ GoesOn env it := by
  obtain ⟨ends, calls', hanswer, hsame, hends⟩ : ∃ ends calls',
      answerCall env r.mainCallId calls (some it.callId) videoState =
        (ends ++ answers env calls (some it.callId) videoState
          (getRingCall calls (some it.callId)), calls') ∧
      SameMarks calls calls' ∧ EndsFor (requested calls (some it.callId)) ends := by
    refine answerCall_of_not_waits htyped fun other hother => ?_
    obtain rfl := Option.some.inj ((OrderedMap.lookup_key hmem).symm.trans hother)
    exact hwaits
  rw [requested_of_rings hmem hring] at hends
  rw [getRingCall_of_rings hmem hring] at hanswer
  simp only [answers, hring, and_true, ← List.append_assoc] at hanswer
  have hmarked : ∀ {left}, Marked ⟨calls', r.mainCallId, left⟩ ↔ left = none :=
    marked_iff_of_not_pending (fun c hc => hunmarked c ((hsame.pending c).mp hc))
      (hsame.typed htyped)
  rw [kept_answers_iff (hafter.trans hanswer) hchosen
    (hends.append_endedFor fun q => endedFor_ne hmem hring)
    ((hsame.ringing it.callId).mpr (ringing_of_mem hmem hring))]
  split_ifs with hgoes
  · refine (and_congr_left fun _ => hmarked).trans ?_
    rw [and_iff_right rfl]
    exact ⟨fun h => ⟨h, h ▸ hgoes.1, hgoes.2⟩, fun h => h.1⟩
  · refine hmarked.trans (iff_of_false (fun h => by cases h) ?_)
    rintro ⟨rfl, h⟩
    exact hgoes h

/-- The turn of the marked call, once another call has ended. -/
theorem kept_pending_iff (hr : Marked r) {id : ℕ} {v : ℤ} {call : WatchCall}
    (hid : r.calls.Mem id) (hchoice : r.choice = some (call.callId, v))
    (hfind : (r.calls.erase id).entries.find? (IsPending ·) = some call) :
    Kept r (.disconnected env id) ↔
      (¬ Waits env r.mainCallId (r.calls.erase id) call →
        call.videoState = v ∧ IsAnswerState v ∧ GoesOn env call) := by
  have hmem : call ∈ (r.calls.erase id).entries := List.mem_of_find?_eq_some hfind
  have hpending : IsPending call := by simpa using List.find?_some hfind
  -- the mark is taken back before `AnswerCall` is called
  set calls₀ : Calls := setAutoAnswerState (r.calls.erase id) call.callId false with hcalls₀
  set call₀ : WatchCall := { call with autoAnswerState := false } with hcall₀
  have hmem₀ : call₀ ∈ calls₀.entries := by
    refine (OrderedMap.lookup_spec (k := call.callId) ?_).1
    rw [hcalls₀, setAutoAnswerState, OrderedMap.lookup_modify, if_pos rfl,
      OrderedMap.lookup_key hmem]
    rfl
  have hunmarked : ∀ c, ¬ Pending calls₀ c := by
    intro c hc
    obtain ⟨hne, hpending⟩ := pending_setAutoAnswerState_false.mp hc
    obtain ⟨w, hw⟩ := (hr.marks c).mp (pending_erase.mp hpending).2
    rw [hchoice] at hw
    exact hne (congrArg Prod.fst (Option.some.inj hw)).symm
  have htyped : Typed calls₀ := typed_setAutoAnswerState (typed_erase hr.typed) fun h => by cases h
  have hafter : after r.mainCallId r.calls (.disconnected env id) =
      answerCall env r.mainCallId calls₀ (some call₀.callId) call₀.videoState := by
    simp only [after, if_pos hid, answerPendingCall, hfind, hcalls₀, hcall₀]
  have hwaits₀ : Waits env r.mainCallId calls₀ call₀ ↔
      Waits env r.mainCallId (r.calls.erase id) call := waits_setAutoAnswerState
  by_cases hwaits : Waits env r.mainCallId (r.calls.erase id) call
  · exact iff_of_true (kept_of_turn_waits htyped hunmarked hmem₀ hafter hchoice
      (hwaits₀.mpr hwaits)) fun h => absurd hwaits h
  · rw [imp_iff_right hwaits]
    exact kept_turn_iff call₀ htyped hunmarked hmem₀ hpending.1 hafter hchoice
      (mt hwaits₀.mp hwaits)

/-- **The end of a call.** -/
theorem kept_disconnected_iff (hr : Marked r) {id : ℕ} :
    Kept r (.disconnected env id) ↔
      ∀ p, r.choice = some p → p.1 ≠ id → r.calls.Mem id →
        ∀ it ∈ r.calls.entries, it.callId = p.1 →
          ¬ Waits env r.mainCallId (r.calls.erase id) it →
            it.videoState = p.2 ∧ IsAnswerState p.2 ∧ GoesOn env it := by
  by_cases hid : r.calls.Mem id
  · cases hfind : (r.calls.erase id).entries.find? (IsPending ·) with
    | none =>
      have hnone : ∀ c, ¬ Pending (r.calls.erase id) c := by
        rintro c ⟨it, hmem, -, hpending⟩
        exact List.find?_eq_none.mp hfind it hmem (decide_eq_true hpending)
      have hown : ∀ p, r.choice = some p → p.1 = id := by
        intro p hp
        by_contra hne
        exact hnone p.1 (pending_erase.mpr ⟨hne, (hr.marks p.1).mpr ⟨p.2, hp⟩⟩)
      have hafter : after r.mainCallId r.calls (.disconnected env id) =
          ([], r.calls.erase id) := by
        simp only [after, if_pos hid, answerPendingCall, hfind]
      refine iff_of_true ?_ fun p hp hne => absurd (hown p hp) hne
      rw [kept_silent_iff hafter rfl, marked_iff_of_not_pending hnone (typed_erase hr.typed),
        Option.eq_none_iff_forall_ne_some]
      intro p hp
      obtain ⟨hchoice, hring⟩ := remaining_nil_eq_some_iff.mp hp
      exact (ringing_erase.mp hring).1 (hown p hchoice)
    | some call =>
      have hmem : call ∈ r.calls.entries :=
        List.mem_of_mem_filter (List.mem_of_find?_eq_some hfind)
      have hpending : Pending r.calls call.callId :=
        ⟨call, hmem, rfl, by simpa using List.find?_some hfind⟩
      have hne : call.callId ≠ id := by
        have hin := List.mem_of_find?_eq_some hfind
        rw [OrderedMap.entries_erase, List.mem_filter] at hin
        simpa using hin.2
      obtain ⟨v, hv⟩ := (hr.marks call.callId).mp hpending
      rw [kept_pending_iff hr hid hv hfind]
      constructor
      · intro h p hp _ _ it hit hkey
        obtain rfl := Option.some.inj (hv.symm.trans hp)
        obtain rfl := OrderedMap.eq_of_key_eq hit hmem hkey
        exact h
      · intro h
        exact h _ hv hne hid call hmem rfl
  · have hafter : after r.mainCallId r.calls (.disconnected env id) = ([], r.calls) := by
      simp only [after, if_neg hid]
    refine iff_of_true (kept_silent_of_ringing hr hafter rfl (fun _ => Iff.rfl) hr.ringing le_rfl
      hr.typed) fun _ _ _ hmem => absurd hmem hid

/-- **One step.** -/
theorem kept_iff_stepOk (hr : Marked r) (op : WatchOp) : Kept r op ↔ StepOk r op := by
  cases op with
  | answerCall env callId videoState =>
    cases hit : callId.bind r.calls.lookup with
    | none =>
      simp only [StepOk, hit]
      refine kept_answerCall_iff hr fun it h => ?_
      rw [hit] at h
      cases h
    | some it =>
      by_cases hwaits : Waits env r.mainCallId r.calls it
      · simp only [StepOk, hit, if_pos hwaits]
        exact kept_answerCall_waits_iff hr hit hwaits
      · simp only [StepOk, hit, if_neg hwaits]
        refine kept_answerCall_iff hr fun other h => ?_
        obtain rfl := Option.some.inj (hit.symm.trans h)
        exact hwaits
  | setAutoAnswerState callId flag =>
    cases flag with
    | false => exact kept_setAutoAnswerState_false_iff hr
    | true => exact kept_setAutoAnswerState_true_iff hr
  | addOneCallObject call => exact iff_of_true (kept_addOneCallObject hr call) trivial
  | report callId callState videoState isRtt => exact kept_report_iff hr
  | refreshCall callId callType isTransferCall => exact kept_refreshCall_iff hr
  | setTelConferenceState callId conferenceState => exact kept_setTelConferenceState_iff hr
  | setMainCall mainCallId =>
    exact kept_silent_iff_of_ringing hr rfl rfl (fun _ => Iff.rfl) hr.ringing hr.typed
  | disconnected env callId => exact kept_disconnected_iff hr
  | voipDisconnected callId => exact iff_of_true (kept_voipDisconnected hr callId) trivial

/-- **The choice is answered when it is left alone.** -/
theorem answered_of_kept (hr : Marked r) {op : WatchOp} (hkept : Kept r op) : Answered r op := by
  cases op with
  | disconnected env id =>
    intro p hp hne hid halone
    obtain ⟨hmarked, hserves⟩ := hkept
    have hring : Ringing (after r.mainCallId r.calls (.disconnected env id)).2 p.1 := by
      simp only [after, if_pos hid]
      rw [ringing_answerPendingCall (typed_erase hr.typed), ringing_erase]
      exact ⟨hne, hr.ringing p hp⟩
    by_contra hnot
    -- then the choice stays, and another call must be there
    have hanswered : p.1 ∉ (after r.mainCallId r.calls (.disconnected env id)).1.filterMap
        Request.answered := by
      intro hin
      obtain ⟨q, hq, hanswers⟩ := List.mem_filterMap.mp hin
      cases q with
      | answerCall callId v =>
        obtain rfl := Option.some.inj ((hserves.answers callId v hq).symm.trans hp)
        exact hnot hq
      | hangUpCall callId => cases hanswers
      | rejectCall callId => cases hanswers
    have hleft : (step r (.disconnected env id)).choice = some p := by
      show remaining _ _ r.choice = some p
      rw [hp, remaining, Option.filter_eq_some_iff]
      exact ⟨rfl, decide_eq_true ⟨hring, hanswered⟩⟩
    have hbehind := hmarked.behind (by rw [hleft]; simp)
    exact absurd hbehind (not_lt.mpr halone)
  | answerCall | setAutoAnswerState | addOneCallObject | report | refreshCall
  | setTelConferenceState | setMainCall | voipDisconnected => trivial

end Steps

/-! ### The whole run -/

/-- No call is stored, and none is chosen. -/
def start : WatchRun := ⟨OrderedMap.empty _, none, none⟩

theorem marked_start : Marked start := by
  refine (marked_iff_of_not_pending ?_ ?_).mpr rfl
  · rintro callId ⟨it, hmem, -⟩
    cases hmem
  · intro it hmem
    cases hmem

/-- **The user's choice is served** in a run iff every step of it is as `StepOk` says. -/
theorem choice_served_iff (ops : List WatchOp) :
    Run.StatesMeet step Marked start ops ∧
        Run.StepsMeet step (fun r op => Serves (chosen r op) (after r.mainCallId r.calls op).1)
          start ops ↔
      Run.StepsMeet step StepOk start ops := by
  refine Run.statesMeet_and_stepsMeet_iff (fun r op hr => ?_) ops marked_start
  exact kept_iff_stepOk hr op

/-- **The answer comes.** In such a run, the call that the user chose is answered when the
    last call beside it has ended. -/
theorem choice_answered (ops : List WatchOp) (h : Run.StepsMeet step StepOk start ops) :
    Run.StepsMeet step Answered start ops := by
  refine h.of_invariant (fun r op hr hok => ?_) marked_start
  have hkept : Kept r op := (kept_iff_stepOk hr op).mpr hok
  exact ⟨hkept.1, answered_of_kept hr hkept⟩

/-- The operator lets no two calls stand, and nothing keeps an answer back. -/
def oneCall : Surroundings := ⟨fun _ => false, true, false, true, fun _ => true⟩

/-- A voice call of the CS network. -/
def voiceCall (callId : ℕ) (accountNumber : String) (callState : TelCallState) : WatchCall :=
  ⟨callId, .cs, 0, accountNumber, callState, .idle, 0, false, false, false⟩

/-- A VoIP call rings beside an active call and one that waits; the user answers that one, and
    the active call ends. -/
def waitingRun : List WatchOp :=
  [.addOneCallObject (voiceCall 1 "1" .active),
    .addOneCallObject (voiceCall 2 "2" .waiting),
    .addOneCallObject { voiceCall 3 "3" .incoming with callType := .voip },
    .answerCall oneCall (some 2) 0,
    .disconnected oneCall 1]

theorem waitingRun_answered :
    Run.StepsMeet step StepOk start waitingRun ∧ Run.StepsMeet step Answered start waitingRun := by
  have hok : Run.StepsMeet step StepOk start waitingRun := by
    refine ⟨trivial, trivial, trivial, ?_, ?_, trivial⟩
    · intro p hp
      cases hp
    · intro p hp _ _
      obtain rfl : (2, 0) = p := Option.some.inj hp
      decide +kernel
  exact ⟨hok, choice_answered waitingRun hok⟩

/-- Two calls wait beside an active one, and the user answers the one, then the other. -/
example :
    let r := Run.run step start [
      .addOneCallObject (voiceCall 1 "1" .active),
      .addOneCallObject (voiceCall 2 "2" .waiting),
      .addOneCallObject (voiceCall 3 "3" .waiting),
      .answerCall oneCall (some 2) 0,
      .answerCall oneCall (some 3) 0]
    (after none r.calls (.answerCall oneCall (some 3) 0)).1 = [.hangUpCall 1, .rejectCall 2] ∧
      r.choice = some (3, 0) ∧
      (after none r.calls (.disconnected oneCall 1)).1 = [.rejectCall 3] := by decide +kernel

end CallManager.WatchAnswers
