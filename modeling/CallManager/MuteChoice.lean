import CallManager.AudioScene
import CallManager.CallBase
import CallManager.Library.OrderedMap
import Mathlib.Data.Finset.Max

/-!
# The mute choice of a call

Whether a call is muted is kept in three places: the call object's `isMuted_`, the
platform's microphone, and `AudioControlManager::frontCall_`, the object whose choice
the microphone follows. After every notification `UpdateForegroundLiveCall` takes the
foreground call of the sets, puts its object into `frontCall_` if this has another id,
and sets the microphone. `SetMute` writes to the object of `frontCall_`.

The object behind an id can change: a report of another call type makes `RefreshCall`
replace it, with the old one's choice. `frontCall_` keeps the old object then, unless
that one had the index of a dial that waits for its index (`INIT_INDEX`) and the new
one has another.

Specification: after a notification that leaves a call in the foreground that is
active, dialing or alerting, `frontCall_` is its stored object, and if the platform
accepted what it was asked the microphone has that object's choice (`FrontRight`).
`SetMute` gives the choice to the foreground call and to no other; a report gives none,
not even when it replaces the object, and a new call is not muted (`ChoicesRight`).
Without calls the microphone is not muted (`Unmuted`).

Of a call the id, the index, the type, the state and the choice are kept; the sets are
those of `AudioScene`. No call is an emergency call and none is of VoIP, so
`HasEmergency` is false. The tones and the Bluetooth headset's parameter are left out.

Results:
* `mute_follows`: the specification holds throughout a run whose steps meet `Follows`.
* `mute_lost`: a call that the user muted is not muted any more when it comes back
  from hold, since a report had changed its type.
-/

namespace CallManager

/-- The first call of a set, as `*begin()` of a `std::set`. -/
def firstOf (calls : Finset ℤ) : Option ℤ :=
  if h : calls.Nonempty then some (calls.min' h) else none

/-- `INVALID_CALLID`. -/
def invalidCallId : ℤ := -1

/-- `CallStateProcessor::GetAudioForegroundLiveCall` (call_state_processor.cpp:207-223). -/
def CallStateProcessor.getAudioForegroundLiveCall (p : CallStateProcessor) : ℤ :=
  (firstOf p.activeCalls).or ((firstOf p.dialingCalls).or ((firstOf p.alertingCalls).or
    ((firstOf p.incomingCalls).or (firstOf p.holdingCalls)))) |>.getD invalidCallId

namespace MuteChoice

/-! ## Model -/

/-- The fields of a CS or IMS call object that decide about its mute choice. -/
structure CallObject where
  callId : ℤ
  callIndex : ℤ
  callType : CallType
  callState : TelCallState
  isMuted : Bool
  carrier : callType = .cs ∨ callType = .ims
  deriving DecidableEq

instance : Inhabited CallObject := ⟨⟨0, 0, .cs, .idle, false, .inl rfl⟩⟩

/-- An entry of `callObjectPtrList_`: an object, and the id it has. -/
structure StoredRef where
  callId : ℤ
  ref : Ref
  deriving DecidableEq, Repr

/-- The call store, the audio control's sets, `frontCall_` and the platform's
    microphone. `callId` is the id given last. -/
structure MuteWorld where
  objects : Ref → CallObject
  nextRef : Ref
  callId : ℤ
  calls : OrderedMap StoredRef.callId
  control : AudioControl
  frontCall : Option Ref
  microphoneMute : Bool

/-- The codes of `SetMute`. -/
inductive SetMuteResult
  | telephonySuccess | callErrAudioSettingMuteFailed | telephonyErrLocalPtrNull
  deriving DecidableEq, Repr

/-- The states of a call that speaks, or is about to. -/
def Speaks (state : TelCallState) : Prop :=
  state = .active ∨ state = .dialing ∨ state = .alerting

instance (state : TelCallState) : Decidable (Speaks state) := by unfold Speaks; infer_instance

namespace MuteWorld

/-- The state the process starts with. -/
def init : MuteWorld where
  objects := fun _ => default
  nextRef := 0
  callId := 0
  calls := OrderedMap.empty _
  control := .init
  frontCall := none
  microphoneMute := false

/-- `CallObjectManager::GetOneCallObject(callId)`. -/
def getOneCallObject (w : MuteWorld) (callId : ℤ) : Option Ref :=
  (w.calls.lookup callId).map StoredRef.ref

/-- `CallControlManager::HasCall`, that is `HasCellularCallExist`
    (call_object_manager.cpp:518-533). -/
def hasCall (w : MuteWorld) : Bool :=
  w.calls.entries.any fun it =>
    (w.objects it.ref).callState ≠ .disconnected ∧ (w.objects it.ref).callState ≠ .disconnecting

/-- `CallObjectManager::IsCallExist(callType, callState)` (call_object_manager.cpp:790-801). -/
def isCallExist (w : MuteWorld) (callType : CallType) (callState : TelCallState) : Bool :=
  w.calls.entries.any fun it =>
    (w.objects it.ref).callType = callType ∧ (w.objects it.ref).callState = callState

/-- A call object changes. -/
def modify (w : MuteWorld) (call : Ref) (f : CallObject → CallObject) : MuteWorld :=
  { w with objects := Function.update w.objects call (f (w.objects call)) }

/-- `CallBase::SetMicPhoneState`. -/
def setMicPhoneState (w : MuteWorld) (call : Ref) (isMuted : Bool) : MuteWorld :=
  w.modify call fun c => { c with isMuted := isMuted }

/-- `AudioProxy::SetMicrophoneMute` (audio_proxy.cpp:244-255), which the platform accepts or
    not. -/
def setMicrophoneMute (w : MuteWorld) (mute accepts : Bool) : Bool × MuteWorld :=
  if accepts then (true, { w with microphoneMute := mute }) else (false, w)

/-- `AudioControlManager::SetMute` (audio_control_manager.cpp:1345-1383). -/
def setMute (w : MuteWorld) (isMute accepts : Bool) : SetMuteResult × MuteWorld :=
  if w.hasCall = false then (.callErrAudioSettingMuteFailed, w)
  else
    match w.frontCall with
    | none => (.telephonyErrLocalPtrNull, w)
    | some currentCall =>
      if w.isCallExist .bluetooth .active then
        (.telephonySuccess, w.setMicPhoneState currentCall isMute)
      else
        match w.setMicrophoneMute isMute accepts with
        | (false, w) => (.callErrAudioSettingMuteFailed, w)
        | (true, w) => (.telephonySuccess, w.setMicPhoneState currentCall w.microphoneMute)

/-- The lines 116-124 of `UpdateForegroundLiveCall`: `frontCall_` for a call in the foreground. -/
def updateFrontCall (w : MuteWorld) (liveCall : Ref) : Ref :=
  match w.frontCall with
  | none => liveCall
  | some frontCall =>
    if (w.objects frontCall).callId ≠ (w.objects liveCall).callId ∨
        ((w.objects frontCall).callIndex = 0 ∧ (w.objects liveCall).callIndex ≠ 0) then liveCall
    else frontCall

/-- `UpdateForegroundLiveCall` (audio_control_manager.cpp:98-145), without the tones of a
    waiting call. -/
def updateForegroundLiveCall (w : MuteWorld) (accepts : Bool) : MuteWorld :=
  let callId := w.control.processor.getAudioForegroundLiveCall
  if callId = invalidCallId then ({ w with frontCall := none }.setMicrophoneMute false accepts).2
  else
    match w.getOneCallObject callId with
    | none => w
    | some liveCall =>
      if Speaks (w.objects liveCall).callState then
        let frontCall := w.updateFrontCall liveCall
        let w := { w with frontCall := some frontCall }
        let frontCallMute := (w.objects frontCall).isMuted
        if frontCallMute ≠ w.microphoneMute then (w.setMute frontCallMute accepts).2 else w
      else w

/-- `AudioControlManager::CallStateUpdated` (audio_control_manager.cpp:170-205). -/
def callStateUpdated (w : MuteWorld) (call : Ref) (priorState nextState : TelCallState)
    (accepts : Bool) : MuteWorld :=
  let c := w.objects call
  { w with control := w.control.callStateUpdated c.callType c.callId priorState nextState }
    |>.updateForegroundLiveCall accepts

/-- `CallStatusManager::UpdateCallState` (call_status_manager.cpp:1788-1828). -/
def updateCallState (w : MuteWorld) (call : Ref) (nextState : TelCallState) (accepts : Bool) :
    MuteWorld :=
  let priorState := (w.objects call).callState
  (w.modify call fun c => { c with callState := nextState }).callStateUpdated call priorState
    nextState accepts

/-- `CreateNewCall` and `AddOneCallObject`: a new object under a new id. -/
def createNewCall (w : MuteWorld) (c : CallObject) : MuteWorld :=
  { w with
    objects := Function.update w.objects w.nextRef { c with callId := w.callId + 1 }
    nextRef := w.nextRef + 1
    callId := w.callId + 1
    calls := w.calls.insert ⟨w.callId + 1, w.nextRef⟩ }

/-- `RefreshCall` (call_status_manager.cpp:1884-1925): a new object with the choice and the
    state of the old one takes its place and its id. No user has answered the new object. -/
def refreshCall (w : MuteWorld) (call : Ref) (newCall : CallObject) : MuteWorld :=
  { w with
    objects := Function.update w.objects w.nextRef newCall
    nextRef := w.nextRef + 1
    callId := w.callId + 1
    calls := (w.calls.erase (w.objects call).callId).insert ⟨(w.objects call).callId, w.nextRef⟩
    control :=
      { w.control with
        answeredByPhone := w.control.answeredByPhone.erase (w.objects call).callId } }

/-- `RefreshCallIfNecessary` (call_status_manager.cpp:1860-1882), for a report of another type. -/
def refreshCallIfNecessary (w : MuteWorld) (call : Ref) (callType : CallType)
    (carrier : callType = .cs ∨ callType = .ims) : Ref × MuteWorld :=
  if (w.objects call).callType = callType then (call, w)
  else
    (w.nextRef, w.refreshCall call { w.objects call with callType := callType, carrier := carrier })

/-- `DeleteOneCallObject`. -/
def deleteOneCallObject (w : MuteWorld) (callId : ℤ) : MuteWorld :=
  { w with calls := w.calls.erase callId }

end MuteWorld

/-- A call type a report of the modem has here. -/
abbrev CarrierType := {t : CallType // t = .cs ∨ t = .ims}

/-- What happens: reports of calls, the notice that the user answered one, and `SetMute`.
    `accepts` is the platform's answer, should it be asked to mute the microphone. -/
inductive MuteOp
  /-- A report of a new call. -/
  | created (callIndex : ℤ) (callType : CarrierType) (callState : TelCallState) (accepts : Bool)
  /-- A report of a call's state. -/
  | updated (callId : ℤ) (callType : CarrierType) (nextState : TelCallState) (accepts : Bool)
  /-- A report of a call that dials, which is not notified (`UpdateDialingCallInfo`,
      call_status_manager.cpp:926-954). -/
  | dialingUpdated (callId : ℤ) (callIndex : ℤ) (callType : CarrierType)
  /-- A report that a call has ended. -/
  | ended (callId : ℤ) (callType : CarrierType) (accepts : Bool)
  /-- `AnswerCall`. -/
  | answered (callId : ℤ) (accepts : Bool)
  /-- `SetMute`. -/
  | setMute (isMute accepts : Bool)

namespace MuteWorld

/-- One step of a run. As in `AudioScene`, a call starts in one of the start states, ends
    once, and is answered while it rings. -/
def step (w : MuteWorld) : MuteOp → MuteWorld
  | .created callIndex callType callState accepts =>
    if callState ∈ AudioWorld.startStates then
      (w.createNewCall ⟨0, callIndex, callType, callState, false, callType.2⟩).updateCallState
        w.nextRef callState accepts
    else w
  | .updated callId callType nextState accepts =>
    match w.getOneCallObject callId with
    | none => w
    | some call =>
      if nextState = .disconnected ∨ nextState = .answered then w
      else
        let (call, w) := w.refreshCallIfNecessary call callType callType.2
        w.updateCallState call nextState accepts
  | .dialingUpdated callId callIndex callType =>
    match w.getOneCallObject callId with
    | none => w
    | some call =>
      if (w.objects call).callState ≠ .dialing ∨ callIndex ≤ 0 then w
      else
        let (call, w) := w.refreshCallIfNecessary call callType callType.2
        w.modify call fun c => { c with callIndex := callIndex }
  | .ended callId callType accepts =>
    match w.getOneCallObject callId with
    | none => w
    | some call =>
      let (call, w) := w.refreshCallIfNecessary call callType callType.2
      (w.updateCallState call .disconnected accepts).deleteOneCallObject callId
  | .answered callId accepts =>
    match w.getOneCallObject callId with
    | none => w
    | some call =>
      if (w.objects call).callState = .incoming ∨ (w.objects call).callState = .waiting then
        w.callStateUpdated call .incoming .answered accepts
      else w
  | .setMute isMute accepts => (w.setMute isMute accepts).2

/-! ## Specification -/

/-- The stored object of the foreground call, if that speaks. -/
def foregroundCall (w : MuteWorld) : Option Ref :=
  (w.getOneCallObject w.control.processor.getAudioForegroundLiveCall).filter fun call =>
    Speaks (w.objects call).callState

/-- The mute choice of the call stored under an id. -/
def choice (w : MuteWorld) (callId : ℤ) : Option Bool :=
  (w.getOneCallObject callId).map fun call => (w.objects call).isMuted

/-- The id of the call that `SetMute` is for: that in the foreground, and when that does
    not speak, the last one that did. -/
def target (w : MuteWorld) : Option ℤ :=
  (w.foregroundCall.or w.frontCall).map fun call => (w.objects call).callId

end MuteWorld

open MuteWorld

/-- The platform accepts. -/
def MuteOp.accepts : MuteOp → Bool
  | .created _ _ _ accepts | .updated _ _ _ accepts | .ended _ _ accepts | .answered _ accepts
  | .setMute _ accepts => accepts
  | .dialingUpdated _ _ _ => false

/-- The operation notifies the audio control of a call. -/
def Notifies (w : MuteWorld) : MuteOp → Prop
  | .created _ _ callState _ => callState ∈ AudioWorld.startStates
  | .updated callId _ nextState _ =>
    (w.getOneCallObject callId).isSome ∧ nextState ≠ .disconnected ∧ nextState ≠ .answered
  | .ended callId _ _ => (w.getOneCallObject callId).isSome
  | .answered callId _ =>
    ∃ call, w.getOneCallObject callId = some call ∧
      ((w.objects call).callState = .incoming ∨ (w.objects call).callState = .waiting)
  | .dialingUpdated _ _ _ | .setMute _ _ => False

/-- After a notification that leaves a speaking call in the foreground, `frontCall_` is
    its stored object, and the microphone has its choice if the platform accepted. -/
def FrontRight (w : MuteWorld) (op : MuteOp) : Prop :=
  Notifies w op → ∀ call ∈ (w.step op).foregroundCall,
    (w.step op).frontCall = some call ∧
      (op.accepts = true → (w.step op).microphoneMute = ((w.step op).objects call).isMuted)

/-- `SetMute` gives the call it is for the choice, if it succeeds, and changes no other
    choice. A report changes none, and a new call is not muted. -/
def ChoicesRight (w : MuteWorld) : MuteOp → Prop
  | .setMute isMute accepts => ∀ callId,
    (w.step (.setMute isMute accepts)).choice callId =
      if (w.setMute isMute accepts).1 = .telephonySuccess ∧ w.target = some callId then
        (w.choice callId).map fun _ => isMute
      else w.choice callId
  | op => ∀ callId, ∀ muted ∈ (w.step op).choice callId, muted = (w.choice callId).getD false

/-- Without calls the microphone is not muted. -/
def Unmuted (w : MuteWorld) : Prop := w.calls.entries = [] → w.microphoneMute = false

/-! ## The condition -/

namespace MuteWorld

/-- The user has answered the call, which the sets hold as active before it is. -/
def AnsweredBeforeActive (w : MuteWorld) (call : Ref) : Prop :=
  let c := w.objects call
  c.callId ∈ w.control.answeredByPhone ∧ c.callId ∈ w.control.processor.activeCalls ∧
    c.callState ≠ .active

/-- `RefreshCall` does not replace the object of `frontCall_`. -/
def KeepsFront (w : MuteWorld) (call : Ref) : Prop := w.frontCall ≠ some call

end MuteWorld

/-- The condition on a step. A report that gives a call another type does not meet the object of
    `frontCall_`, unless it ends the call, or gives its index to a call that was dialed without;
    and it does not meet a call that the user answered and that is not active before the report
    or by it. Between such a dialing report and the next notification `SetMute` does not
    succeed. The platform accepts to unmute after the last call, or is not muted. -/
def Follows (w : MuteWorld) : MuteOp → Prop
  | .updated callId callType nextState _ =>
    ∀ call ∈ w.getOneCallObject callId, (w.objects call).callType ≠ callType.1 →
      w.KeepsFront call ∧ (w.AnsweredBeforeActive call → nextState = .active)
  | .dialingUpdated callId _ callType =>
    ∀ call ∈ w.getOneCallObject callId, (w.objects call).callType ≠ callType.1 →
      (w.KeepsFront call ∨ (w.objects call).callIndex = 0) ∧ ¬ w.AnsweredBeforeActive call
  | .ended callId callType accepts =>
    ∀ call ∈ w.getOneCallObject callId,
      ((w.objects call).callType ≠ callType.1 → ¬ w.AnsweredBeforeActive call) ∧
        (accepts = false → w.microphoneMute = false ∨ ∃ it ∈ w.calls.entries, it.callId ≠ callId)
  | .setMute _ accepts => accepts = true → ∀ frontCall ∈ w.frontCall,
    ∀ call ∈ w.getOneCallObject (w.objects frontCall).callId, call = frontCall
  | .created _ _ _ _ | .answered _ _ => True

/-! ## The foreground call of the sets -/

theorem firstOf_eq_none_iff {calls : Finset ℤ} : firstOf calls = none ↔ calls = ∅ := by
  unfold firstOf
  split_ifs with h
  · simp [h.ne_empty]
  · simpa using h

theorem mem_of_firstOf {calls : Finset ℤ} {callId : ℤ} (h : firstOf calls = some callId) :
    callId ∈ calls := by
  unfold firstOf at h
  split_ifs at h with hne
  cases h
  exact calls.min'_mem hne

/-- The foreground call is in a set, or there is none since the sets are empty. -/
theorem getAudioForegroundLiveCall_cases (p : CallStateProcessor) :
    (∃ k, p.getAudioForegroundLiveCall ∈ p.calls k) ∨
      (p.getAudioForegroundLiveCall = invalidCallId ∧ ∀ k, p.calls k = ∅) := by
  unfold CallStateProcessor.getAudioForegroundLiveCall
  cases hactive : firstOf p.activeCalls with
  | some callId => exact .inl ⟨.active, mem_of_firstOf hactive⟩
  | none =>
  cases hdialing : firstOf p.dialingCalls with
  | some callId => exact .inl ⟨.dialing, mem_of_firstOf hdialing⟩
  | none =>
  cases halerting : firstOf p.alertingCalls with
  | some callId => exact .inl ⟨.alerting, mem_of_firstOf halerting⟩
  | none =>
  cases hincoming : firstOf p.incomingCalls with
  | some callId => exact .inl ⟨.incoming, mem_of_firstOf hincoming⟩
  | none =>
  cases hholding : firstOf p.holdingCalls with
  | some callId => exact .inl ⟨.holding, mem_of_firstOf hholding⟩
  | none =>
    refine .inr ⟨rfl, fun k => ?_⟩
    cases k with
    | active => exact firstOf_eq_none_iff.mp hactive
    | dialing => exact firstOf_eq_none_iff.mp hdialing
    | alerting => exact firstOf_eq_none_iff.mp halerting
    | incoming => exact firstOf_eq_none_iff.mp hincoming
    | holding => exact firstOf_eq_none_iff.mp hholding

/-! ## The sets -/

/-- The sets hold calls of the given states only, none of them disconnected: each in the
    set of its state, or among the active ones, if it was answered. -/
def SetsFollow (c : AudioControl) (state : ℤ → Option TelCallState) : Prop :=
  ∀ k callId, callId ∈ c.processor.calls k → ∃ st, state callId = some st ∧ st ≠ .disconnected ∧
    (st.callSet = some k ∨ (k = .active ∧ callId ∈ c.answeredByPhone))

section SetsFollow

variable {c : AudioControl} {state : ℤ → Option TelCallState} {callType : CallType} {callId : ℤ}
  {prior next : TelCallState}

/-- The sets follow an update, if they held its call where its prior state belongs, or
    among the active ones since it was answered or is active by the update. -/
theorem setsFollow_updated (hnext : next ≠ .answered)
    (hothers : ∀ k x, x ≠ callId → x ∈ c.processor.calls k →
      ∃ st, state x = some st ∧ st ≠ .disconnected ∧
        (st.callSet = some k ∨ (k = .active ∧ x ∈ c.answeredByPhone)))
    (hown : ∀ k, callId ∈ c.processor.calls k →
      prior.callSet = some k ∨ (k = .active ∧ (callId ∈ c.answeredByPhone ∨ next = .active))) :
    SetsFollow (c.handleCallStateUpdated callType callId prior next)
      (Function.update state callId (some next)) := by
  intro k x hx
  by_cases hid : x = callId
  · subst hid
    refine ⟨next, Function.update_self .., ?_⟩
    have hset : next.callSet = some k → next ≠ .disconnected ∧ (next.callSet = some k ∨
        (k = .active ∧ x ∈ (c.handleCallStateUpdated callType x prior next).answeredByPhone)) :=
      fun h => ⟨AudioWorld.ne_disconnected_of_callSet h, .inl h⟩
    rcases AudioControl.callId_mem_handleCallStateUpdated (fun h => absurd h hnext) hx with
      h | ⟨h, -⟩ | ⟨hin, hprior, hdisc⟩
    · exact hset h
    · exact absurd h hnext
    · rcases hown k hin with h | ⟨hk, hans | hact⟩
      · exact hset (hprior h ▸ h)
      · exact ⟨fun h => hdisc hans h hk, .inr ⟨hk, AudioControl.answeredByPhone_subset hans⟩⟩
      · exact hset (by rw [hact, hk]; rfl)
  · obtain ⟨st, hst, hlive, hset⟩ :=
      hothers k x hid (AudioControl.mem_calls_handleCallStateUpdated_of_ne hid hx)
    refine ⟨st, by rwa [Function.update_of_ne hid], hlive, hset.imp_right fun h => ⟨h.1, ?_⟩⟩
    exact AudioControl.answeredByPhone_subset h.2

/-- The sets follow the notice that a ringing call was answered. -/
theorem setsFollow_answered {st : TelCallState} (hst : state callId = some st)
    (hringing : st = .incoming ∨ st = .waiting) (h : SetsFollow c state) :
    SetsFollow (c.handleCallStateUpdated callType callId .incoming .answered) state := by
  intro k x hx
  by_cases hid : x = callId
  · subst hid
    have hlive : st ≠ .disconnected := by
      rintro rfl
      exact absurd hringing (by decide)
    refine ⟨st, hst, hlive, ?_⟩
    rcases AudioControl.callId_mem_handleCallStateUpdated (fun _ => rfl) hx with
      h' | ⟨-, hk, hans⟩ | ⟨hin, hprior, -⟩
    · exact nomatch h'
    · exact .inr ⟨hk, hans⟩
    · obtain ⟨st', hst', -, hset | ⟨hk, hans⟩⟩ := h k x hin
      · cases hst.symm.trans hst'
        have hincoming : st.callSet = some .incoming := by
          rcases hringing with h | h <;> rw [h] <;> rfl
        cases hincoming.symm.trans hset
        exact nomatch hprior rfl
      · exact .inr ⟨hk, AudioControl.answeredByPhone_subset hans⟩
  · obtain ⟨st', hst', hlive, hset⟩ :=
      h k x (AudioControl.mem_calls_handleCallStateUpdated_of_ne hid hx)
    refine ⟨st', hst', hlive, hset.imp_right fun h => ⟨h.1, ?_⟩⟩
    exact AudioControl.answeredByPhone_subset h.2

end SetsFollow

namespace MuteWorld

variable {w : MuteWorld}

/-- The state of the call stored under an id. -/
def stateOf (w : MuteWorld) (callId : ℤ) : Option TelCallState :=
  (w.getOneCallObject callId).map fun call => (w.objects call).callState

/-- What holds of the store, the ids and the references between the steps, and between
    what a step does. -/
structure Stored (w : MuteWorld) : Prop where
  counter : 0 ≤ w.callId
  ids : ∀ callId call, w.getOneCallObject callId = some call →
    (w.objects call).callId = callId ∧ 0 < callId ∧ callId ≤ w.callId ∧ call < w.nextRef
  front : ∀ call ∈ w.frontCall, call < w.nextRef ∧ (w.objects call).callId ≤ w.callId

/-- `frontCall_` is the stored object of its call, or its object dialed without an index
    and the stored one has got one. -/
def Current (w : MuteWorld) : Prop :=
  ∀ front ∈ w.frontCall, ∀ call, w.getOneCallObject (w.objects front).callId = some call →
    (w.objects call).callState ≠ .disconnected →
      call = front ∨ ((w.objects front).callIndex = 0 ∧ (w.objects call).callIndex ≠ 0)

/-- The invariant of the runs. -/
structure Sound (w : MuteWorld) : Prop extends Stored w where
  sets : SetsFollow w.control w.stateOf
  current : w.Current
  foreground : ∀ call ∈ w.foregroundCall,
    ∃ front ∈ w.frontCall, (w.objects front).callId = (w.objects call).callId

/-! ## The foreground call -/

theorem mem_of_getOneCallObject {callId : ℤ} {call : Ref}
    (h : w.getOneCallObject callId = some call) : ⟨callId, call⟩ ∈ w.calls.entries := by
  obtain ⟨it, hit, rfl⟩ := Option.map_eq_some_iff.mp h
  have hid : it.callId = callId := by simpa using List.find?_some hit
  rw [← hid]
  exact List.mem_of_find?_eq_some hit

theorem foregroundCall_eq_some {call : Ref} :
    w.foregroundCall = some call ↔
      w.getOneCallObject w.control.processor.getAudioForegroundLiveCall = some call ∧
        Speaks (w.objects call).callState := by
  simp [foregroundCall, Option.filter_eq_some_iff]

/-- No call is of Bluetooth. -/
theorem isCallExist_bluetooth (callState : TelCallState) :
    w.isCallExist .bluetooth callState = false := by
  simp only [isCallExist, List.any_eq_false, decide_eq_true_eq]
  rintro it - ⟨htype, -⟩
  rcases (w.objects it.ref).carrier with h | h <;> simp [h] at htype

theorem hasCall_of_speaks {callId : ℤ} {call : Ref} (h : w.getOneCallObject callId = some call)
    (hspeaks : Speaks (w.objects call).callState) : w.hasCall = true := by
  simp only [hasCall, List.any_eq_true, decide_eq_true_eq]
  refine ⟨_, mem_of_getOneCallObject h, ?_⟩
  unfold Speaks at hspeaks
  constructor <;> rintro hstate <;> simp_all

/-- `SetMute`, where no call is of Bluetooth. -/
theorem setMute_eq (isMute accepts : Bool) :
    w.setMute isMute accepts =
      if w.hasCall = false then (.callErrAudioSettingMuteFailed, w)
      else
        match w.frontCall with
        | none => (.telephonyErrLocalPtrNull, w)
        | some front =>
          if accepts then
            (.telephonySuccess, { w with microphoneMute := isMute }.setMicPhoneState front isMute)
          else (.callErrAudioSettingMuteFailed, w) := by
  unfold setMute
  rw [isCallExist_bluetooth]
  cases accepts <;> rfl

/-- `SetMute` without a call, without `frontCall_` or refused by the platform fails, and
    changes nothing. -/
theorem setMute_failed {isMute accepts : Bool}
    (h : w.hasCall = false ∨ w.frontCall = none ∨ accepts = false) :
    (w.setMute isMute accepts).1 ≠ .telephonySuccess ∧ (w.setMute isMute accepts).2 = w := by
  rw [setMute_eq]
  by_cases hcall : w.hasCall = false
  · rw [if_pos hcall]
    exact ⟨nofun, rfl⟩
  rw [if_neg hcall]
  cases hfront : w.frontCall with
  | none => exact ⟨nofun, rfl⟩
  | some front =>
    obtain rfl : accepts = false := by simpa [hcall, hfront] using h
    exact ⟨nofun, rfl⟩

/-- `SetMute` that the platform accepts. -/
theorem setMute_accepted {front : Ref} (hfront : w.frontCall = some front)
    (hcall : w.hasCall ≠ false) (isMute : Bool) :
    w.setMute isMute true =
      (.telephonySuccess, { w with microphoneMute := isMute }.setMicPhoneState front isMute) := by
  simp [setMute_eq, hcall, hfront]

/-- To set the microphone to the choice of `frontCall_` changes nothing else. -/
theorem setMute_own {front : Ref} (hfront : w.frontCall = some front) (hcall : w.hasCall = true)
    (accepts : Bool) :
    (w.setMute (w.objects front).isMuted accepts).2 =
      { w with
        microphoneMute := if accepts then (w.objects front).isMuted else w.microphoneMute } := by
  cases accepts with
  | false => exact (setMute_failed (.inr (.inr rfl))).2
  | true => simp [setMute_eq, hcall, hfront, setMicPhoneState, modify]

/-- What `UpdateForegroundLiveCall` makes of `frontCall_` and of the microphone: it follows a
    call that speaks, leaves both alone for one that does not, and resets both without a call. -/
inductive FollowedBy (w : MuteWorld) (accepts : Bool) : Option Ref → Bool → Prop
  | speaks (call : Ref) (mute : Bool) (hcall : w.foregroundCall = some call)
      (hmute : accepts = true → mute = (w.objects (w.updateFrontCall call)).isMuted) :
      FollowedBy w accepts (some (w.updateFrontCall call)) mute
  | quiet (hcall : w.foregroundCall = none)
      (hsome : ¬ ∀ k, w.control.processor.calls k = ∅) :
      FollowedBy w accepts w.frontCall w.microphoneMute
  | empty (mute : Bool) (hempty : ∀ k, w.control.processor.calls k = ∅)
      (hcall : w.foregroundCall = none)
      (hmute : accepts = true ∨ w.microphoneMute = false → mute = false) :
      FollowedBy w accepts none mute

theorem updateForegroundLiveCall_followed (hw : w.Stored) (hsets : SetsFollow w.control w.stateOf)
    (accepts : Bool) :
    ∃ front mute, w.FollowedBy accepts front mute ∧
      w.updateForegroundLiveCall accepts =
        { w with frontCall := front, microphoneMute := mute } := by
  unfold updateForegroundLiveCall
  dsimp only
  have hinvalid : w.getOneCallObject invalidCallId = none := by
    cases h : w.getOneCallObject invalidCallId with
    | none => rfl
    | some call => exact absurd (hw.ids _ _ h).2.1 (by decide)
  split_ifs with hid
  · have hempty : ∀ k, w.control.processor.calls k = ∅ := by
      rcases getAudioForegroundLiveCall_cases w.control.processor with ⟨k, hk⟩ | ⟨-, h⟩
      · obtain ⟨st, hst, -⟩ := hsets k _ hk
        rw [hid, stateOf, hinvalid] at hst
        exact nomatch hst
      · exact h
    have hcall : w.foregroundCall = none := by rw [foregroundCall, hid, hinvalid]; rfl
    refine ⟨none, if accepts then false else w.microphoneMute, .empty _ hempty hcall ?_, ?_⟩
    · rintro (h | h) <;> simp [h]
    · cases accepts <;> rfl
  have hsome : ¬ ∀ k, w.control.processor.calls k = ∅ := by
    rcases getAudioForegroundLiveCall_cases w.control.processor with ⟨k, hk⟩ | ⟨h, -⟩
    · exact fun h => absurd (h k ▸ hk) (Finset.notMem_empty _)
    · exact absurd h hid
  cases hlive : w.getOneCallObject w.control.processor.getAudioForegroundLiveCall with
  | none =>
    have hcall : w.foregroundCall = none := by rw [foregroundCall, hlive]; rfl
    exact ⟨_, _, .quiet hcall hsome, rfl⟩
  | some call =>
    dsimp only
    split_ifs with hspeaks hmute
    · have hcall := foregroundCall_eq_some.mpr ⟨hlive, hspeaks⟩
      set front := w.updateFrontCall call
      refine ⟨some front,
        if accepts then (w.objects front).isMuted else w.microphoneMute,
        .speaks call _ hcall ?_, ?_⟩
      · rintro rfl
        rfl
      · have hhas : ({ w with frontCall := some front } : MuteWorld).hasCall = true :=
          hasCall_of_speaks hlive hspeaks
        exact setMute_own rfl hhas accepts
    · have hcall := foregroundCall_eq_some.mpr ⟨hlive, hspeaks⟩
      refine ⟨some (w.updateFrontCall call), w.microphoneMute, .speaks call _ hcall ?_, rfl⟩
      exact fun _ => (not_ne_iff.mp hmute).symm
    · have hcall : w.foregroundCall = none := by
        rw [foregroundCall, hlive]
        simp [hspeaks]
      exact ⟨_, _, .quiet hcall hsome, rfl⟩

/-! ## A notification -/

/-- `frontCall_` becomes the stored object of a call that speaks. -/
theorem updateFrontCall_eq (hw : w.Stored) (hcurrent : w.Current) {call : Ref}
    (hcall : w.foregroundCall = some call) : w.updateFrontCall call = call := by
  obtain ⟨hlive, hspeaks⟩ := foregroundCall_eq_some.mp hcall
  unfold updateFrontCall
  split
  · rfl
  rename_i front hfront
  split_ifs with h
  · rfl
  push Not at h
  have hstored : w.getOneCallObject (w.objects front).callId = some call := by
    rw [h.1, (hw.ids _ _ hlive).1, hlive]
  have hstate : (w.objects call).callState ≠ .disconnected := by
    rintro hstate
    rw [hstate] at hspeaks
    exact absurd hspeaks (by decide)
  rcases hcurrent front hfront call hstored hstate with heq | ⟨hzero, hindex⟩
  · exact heq.symm
  · exact absurd (h.2 hzero) hindex

/-- What a notification that the platform `accepts` leaves behind. -/
structure Notified (w w' : MuteWorld) (accepts : Bool) : Prop where
  sound : w'.Sound
  objects : w'.objects = w.objects
  calls : w'.calls = w.calls
  control : w'.control = w.control
  right : ∀ call ∈ w'.foregroundCall,
    w'.frontCall = some call ∧
      (accepts = true → w'.microphoneMute = (w'.objects call).isMuted)
  unmuted : (∀ k, w.control.processor.calls k = ∅) →
    accepts = true ∨ w.microphoneMute = false → w'.microphoneMute = false

theorem notified (hw : w.Stored) (hsets : SetsFollow w.control w.stateOf)
    (hcurrent : w.Current) (accepts : Bool) :
    w.Notified (w.updateForegroundLiveCall accepts) accepts := by
  obtain ⟨front, mute, hfollowed, heq⟩ := updateForegroundLiveCall_followed hw hsets accepts
  rw [heq]
  cases hfollowed with
  | speaks call mute hcall hmute =>
    have hlive := (foregroundCall_eq_some.mp hcall).1
    have hid := hw.ids _ _ hlive
    rw [updateFrontCall_eq hw hcurrent hcall] at hmute ⊢
    refine ⟨⟨⟨hw.counter, hw.ids, ?_⟩, hsets, ?_, ?_⟩, rfl, rfl, rfl, ?_, ?_⟩
    · rintro front ⟨⟩
      exact ⟨hid.2.2.2, hid.1 ▸ hid.2.2.1⟩
    · rintro front ⟨⟩ other hother -
      refine .inl ?_
      have hstored : w.getOneCallObject (w.objects call).callId = some other := hother
      rw [hid.1, hlive] at hstored
      exact (Option.some.inj hstored).symm
    · rintro other hother
      refine ⟨call, rfl, ?_⟩
      rw [Option.some.inj (hcall.symm.trans hother)]
    · intro other hother
      obtain rfl := Option.some.inj (hcall.symm.trans hother)
      exact ⟨rfl, hmute⟩
    · intro hempty
      rcases getAudioForegroundLiveCall_cases w.control.processor with ⟨k, hk⟩ | ⟨hinvalid, -⟩
      · exact absurd (hempty k ▸ hk) (Finset.notMem_empty _)
      · rw [hinvalid] at hid
        exact absurd hid.2.1 (by decide)
  | quiet hcall hsome =>
    have hnone : ∀ call, w.foregroundCall ≠ some call := by simp [hcall]
    exact ⟨⟨⟨hw.counter, hw.ids, hw.front⟩, hsets, hcurrent, fun call h => absurd h (hnone call)⟩,
      rfl, rfl, rfl, fun call h => absurd h (hnone call), fun h => absurd h hsome⟩
  | empty mute hempty hcall hmute =>
    have hnone : ∀ call, w.foregroundCall ≠ some call := by simp [hcall]
    exact ⟨⟨⟨hw.counter, hw.ids, nofun⟩, hsets, nofun, fun call h => absurd h (hnone call)⟩,
      rfl, rfl, rfl, fun call h => absurd h (hnone call), fun _ => hmute⟩

/-! ## A replaced object -/

/-- What `RefreshCallIfNecessary` does for the call stored under `callId`. -/
structure Refreshed (w : MuteWorld) (callId : ℤ) (call : Ref) (w' : MuteWorld) (call' : Ref) :
    Prop where
  stored : w'.Stored
  get : ∀ x, w'.getOneCallObject x = if x = callId then some call' else w.getOneCallObject x
  old : ∀ r < w.nextRef, w'.objects r = w.objects r
  callId_eq : (w'.objects call').callId = callId
  callIndex_eq : (w'.objects call').callIndex = (w.objects call).callIndex
  callState_eq : (w'.objects call').callState = (w.objects call).callState
  isMuted_eq : (w'.objects call').isMuted = (w.objects call).isMuted
  frontCall_eq : w'.frontCall = w.frontCall
  microphoneMute_eq : w'.microphoneMute = w.microphoneMute
  processor_eq : w'.control.processor = w.control.processor
  answered : ∀ x, x ≠ callId → x ∈ w.control.answeredByPhone → x ∈ w'.control.answeredByPhone
  others : (∃ it ∈ w.calls.entries, it.callId ≠ callId) →
    ∃ it ∈ w'.calls.entries, it.callId ≠ callId
  same : call' = call ∧ w' = w ∨ call' = w.nextRef

theorem refreshCallIfNecessary_refreshed (hw : w.Stored) {callId : ℤ} {call : Ref}
    (hcall : w.getOneCallObject callId = some call) (callType : CallType)
    (carrier : callType = .cs ∨ callType = .ims) :
    w.Refreshed callId call (w.refreshCallIfNecessary call callType carrier).2
      (w.refreshCallIfNecessary call callType carrier).1 := by
  unfold refreshCallIfNecessary
  have hid := hw.ids callId call hcall
  split_ifs with htype
  · exact ⟨hw, fun x => by split_ifs with h <;> simp [h, hcall], fun _ _ => rfl, hid.1, rfl, rfl,
      rfl, rfl, rfl, rfl, fun _ _ h => h, id, .inl ⟨rfl, rfl⟩⟩
  dsimp only
  set newCall : CallObject := { w.objects call with callType := callType, carrier := carrier }
  have hmem : ¬ (w.calls.erase (w.objects call).callId).Mem
      (StoredRef.mk (w.objects call).callId w.nextRef).callId := by
    rw [OrderedMap.mem_erase]
    exact fun h => h.1 rfl
  have hget : ∀ x, (w.refreshCall call newCall).getOneCallObject x =
      if x = callId then some w.nextRef else w.getOneCallObject x := by
    intro x
    show ((OrderedMap.insert _ _).lookup x).map _ = _
    rw [OrderedMap.lookup_insert hmem, OrderedMap.lookup_erase, hid.1]
    by_cases h : x = callId
    · simp [h]
    · simp [h, Ne.symm h, getOneCallObject]
  have hold : ∀ r < w.nextRef, (w.refreshCall call newCall).objects r = w.objects r :=
    fun r hr => Function.update_of_ne (ne_of_lt hr) ..
  have hnew : (w.refreshCall call newCall).objects w.nextRef = newCall := Function.update_self ..
  refine ⟨⟨?_, ?_, ?_⟩, hget, hold, ?_, ?_, ?_, ?_, rfl, rfl, rfl, ?_, ?_, .inr rfl⟩
  · exact Int.le_add_one hw.counter
  · intro x r hr
    rw [hget] at hr
    split_ifs at hr with h
    · cases hr
      rw [hnew, h]
      exact ⟨hid.1, hid.2.1, Int.le_add_one hid.2.2.1, Nat.lt_succ_self _⟩
    · obtain ⟨h1, h2, h3, h4⟩ := hw.ids x r hr
      rw [hold r h4]
      exact ⟨h1, h2, Int.le_add_one h3, Nat.lt_succ_of_lt h4⟩
  · intro front hfront
    obtain ⟨h1, h2⟩ := hw.front front hfront
    rw [hold front h1]
    exact ⟨Nat.lt_succ_of_lt h1, Int.le_add_one h2⟩
  · rw [hnew]; exact hid.1
  · rw [hnew]
  · rw [hnew]
  · rw [hnew]
  · intro x hx hmem
    rw [← hid.1] at hx
    exact Finset.mem_erase.mpr ⟨hx, hmem⟩
  · rintro ⟨it, hit, hne⟩
    refine ⟨it, ?_, hne⟩
    have hne' : it.callId ≠ (w.objects call).callId := by rwa [hid.1]
    exact OrderedMap.mem_entries_insert _ (OrderedMap.mem_entries_erase hit hne')

/-! ## A new state -/

/-- `UpdateCallState` up to `UpdateForegroundLiveCall`: the state and the sets change. -/
def changeState (w : MuteWorld) (call : Ref) (nextState : TelCallState) : MuteWorld :=
  let c := w.objects call
  { w.modify call fun c => { c with callState := nextState } with
    control := w.control.callStateUpdated c.callType c.callId c.callState nextState }

theorem updateCallState_eq (w : MuteWorld) (call : Ref) (nextState : TelCallState)
    (accepts : Bool) :
    w.updateCallState call nextState accepts =
      (w.changeState call nextState).updateForegroundLiveCall accepts := by
  simp [updateCallState, changeState, callStateUpdated, modify]

theorem callStateUpdated_control (c : AudioControl) (o : CallObject) (callId : ℤ)
    (prior next : TelCallState) :
    c.callStateUpdated o.callType callId prior next =
      c.handleCallStateUpdated o.callType callId prior next := by
  refine if_neg ?_
  rcases o.carrier with h | h <;> simp [h]

/-- A field that the change leaves alone. -/
theorem modify_field {α : Type} {call : Ref} {f : CallObject → CallObject} (g : CallObject → α)
    (hf : ∀ c, g (f c) = g c) (r : Ref) : g ((w.modify call f).objects r) = g (w.objects r) := by
  by_cases h : r = call
  · subst h
    simp [modify, hf]
  · simp [modify, h]

/-- To change a call object's other fields keeps the store. -/
theorem Stored.modify (hw : w.Stored) {call : Ref} {f : CallObject → CallObject}
    (hf : ∀ c, (f c).callId = c.callId) : (w.modify call f).Stored := by
  have hid : ∀ r, ((w.modify call f).objects r).callId = (w.objects r).callId :=
    modify_field CallObject.callId hf
  exact ⟨hw.counter, fun x r hr => by rw [hid]; exact hw.ids x r hr,
    fun front hfront => by rw [hid]; exact hw.front front hfront⟩

section ChangeState

variable {callId : ℤ} {call : Ref} (hw : w.Stored) (hcall : w.getOneCallObject callId = some call)
  (nextState : TelCallState)

theorem changeState_objects_of_ne {r : Ref} (h : r ≠ call) :
    (w.changeState call nextState).objects r = w.objects r := Function.update_of_ne h ..

theorem changeState_objects_self :
    (w.changeState call nextState).objects call =
      { w.objects call with callState := nextState } := Function.update_self ..

/-- Nothing but the state of the call differs. -/
theorem changeState_objects (r : Ref) :
    ((w.changeState call nextState).objects r).callId = (w.objects r).callId ∧
      ((w.changeState call nextState).objects r).callIndex = (w.objects r).callIndex ∧
      ((w.changeState call nextState).objects r).isMuted = (w.objects r).isMuted := by
  by_cases h : r = call
  · rw [h, changeState_objects_self]
    exact ⟨rfl, rfl, rfl⟩
  · rw [changeState_objects_of_ne nextState h]
    exact ⟨rfl, rfl, rfl⟩

theorem changeState_choice (x : ℤ) : (w.changeState call nextState).choice x = w.choice x := by
  show (w.getOneCallObject x).map _ = (w.getOneCallObject x).map _
  congr 1
  funext r
  exact (changeState_objects nextState r).2.2

include hw

theorem changeState_stored : (w.changeState call nextState).Stored := by
  have h : (w.modify call fun c => { c with callState := nextState }).Stored :=
    hw.modify fun _ => rfl
  exact ⟨h.counter, h.ids, h.front⟩

include hcall

theorem changeState_stateOf :
    (w.changeState call nextState).stateOf =
      Function.update w.stateOf callId (some nextState) := by
  funext x
  show (w.getOneCallObject x).map
    (fun r => ((w.changeState call nextState).objects r).callState) = _
  by_cases h : x = callId
  · rw [h, hcall, Function.update_self, Option.map_some, changeState_objects_self]
  · rw [Function.update_of_ne h]
    cases hx : w.getOneCallObject x with
    | none => simp [stateOf, hx]
    | some r =>
      have hne : r ≠ call := by
        rintro rfl
        exact h ((hw.ids _ _ hx).1.symm.trans (hw.ids _ _ hcall).1)
      simp [stateOf, hx, changeState_objects_of_ne nextState hne]

/-- The notification of a new state, where the sets held the call as its prior state has
    it, or as active if it was answered or is active now. -/
theorem updateCallState_notified (accepts : Bool) (hnext : nextState ≠ .answered)
    (hothers : ∀ k x, x ≠ callId → x ∈ w.control.processor.calls k →
      ∃ st, w.stateOf x = some st ∧ st ≠ .disconnected ∧
        (st.callSet = some k ∨ (k = .active ∧ x ∈ w.control.answeredByPhone)))
    (hown : ∀ k, callId ∈ w.control.processor.calls k →
      (w.objects call).callState.callSet = some k ∨
        (k = .active ∧ (callId ∈ w.control.answeredByPhone ∨ nextState = .active)))
    (hcurrent : (w.changeState call nextState).Current) :
    (w.changeState call nextState).Notified (w.updateCallState call nextState accepts) accepts := by
  rw [updateCallState_eq]
  refine notified (changeState_stored hw nextState) ?_ hcurrent accepts
  rw [changeState_stateOf hw hcall]
  show SetsFollow (w.control.callStateUpdated _ _ _ _) _
  rw [callStateUpdated_control, (hw.ids _ _ hcall).1]
  exact setsFollow_updated hnext hothers hown

end ChangeState

/-! ## Steps -/

/-- No stored call has ended. -/
def Live (w : MuteWorld) : Prop :=
  ∀ callId call, w.getOneCallObject callId = some call → (w.objects call).callState ≠ .disconnected

/-- What a step keeps, and what is right about it. -/
structure StepRight (w : MuteWorld) (op : MuteOp) : Prop where
  sound : (w.step op).Sound
  live : (w.step op).Live
  front : FrontRight w op
  choices : ChoicesRight w op
  unmuted : Unmuted (w.step op)

section Refreshed

variable {w' : MuteWorld} {callId : ℤ} {call call' : Ref} (hw : w.Sound) (hlive : w.Live)
  (hcall : w.getOneCallObject callId = some call) (hr : w.Refreshed callId call w' call')
include hr

theorem Refreshed.get_self : w'.getOneCallObject callId = some call' := by
  rw [hr.get, if_pos rfl]

include hw hcall

theorem Refreshed.choice_eq (x : ℤ) : w'.choice x = w.choice x := by
  unfold choice
  rw [hr.get]
  split_ifs with h
  · rw [h, hcall, Option.map_some, Option.map_some, hr.isMuted_eq]
  · cases hx : w.getOneCallObject x with
    | none => rfl
    | some r => rw [Option.map_some, Option.map_some, hr.old r (hw.ids x r hx).2.2.2]

theorem Refreshed.stateOf_eq (x : ℤ) : w'.stateOf x = w.stateOf x := by
  unfold stateOf
  rw [hr.get]
  split_ifs with h
  · rw [h, hcall, Option.map_some, Option.map_some, hr.callState_eq]
  · cases hx : w.getOneCallObject x with
    | none => rfl
    | some r => rw [Option.map_some, Option.map_some, hr.old r (hw.ids x r hx).2.2.2]

/-- The other calls are where the sets had them. -/
theorem Refreshed.setsOthers (k : CallSet) (x : ℤ) (hx : x ≠ callId)
    (hmem : x ∈ w'.control.processor.calls k) :
    ∃ st, w'.stateOf x = some st ∧ st ≠ .disconnected ∧
      (st.callSet = some k ∨ (k = .active ∧ x ∈ w'.control.answeredByPhone)) := by
  rw [hr.processor_eq] at hmem
  obtain ⟨st, hst, hne, hset⟩ := hw.sets k x hmem
  exact ⟨st, by rw [hr.stateOf_eq hw hcall, hst], hne,
    hset.imp_right fun h => ⟨h.1, hr.answered x hx h.2⟩⟩

/-- The call is in the set of its state, or among the active ones if it was answered,
    which a new object does not know of. -/
theorem Refreshed.setsOwn {Active : Prop}
    (hanswered : call' = w.nextRef → w.AnsweredBeforeActive call → Active) (k : CallSet)
    (hmem : callId ∈ w'.control.processor.calls k) :
    (w'.objects call').callState.callSet = some k ∨
      (k = .active ∧ (callId ∈ w'.control.answeredByPhone ∨ Active)) := by
  rw [hr.processor_eq] at hmem
  obtain ⟨st, hst, -, hset⟩ := hw.sets k callId hmem
  have hstate : st = (w.objects call).callState := by
    rw [stateOf, hcall] at hst
    exact (Option.some.inj hst).symm
  rw [hr.callState_eq, ← hstate]
  rcases hset with h | ⟨hk, hans⟩
  · exact .inl h
  rcases hr.same with ⟨-, rfl⟩ | hnew
  · exact .inr ⟨hk, .inl hans⟩
  by_cases hactive : st = .active
  · exact .inl (by rw [hactive, hk]; rfl)
  subst hk
  refine .inr ⟨rfl, .inr (hanswered hnew ?_)⟩
  show (w.objects call).callId ∈ _ ∧ (w.objects call).callId ∈ _ ∧ _ ≠ _
  rw [(hw.ids _ _ hcall).1, ← hstate]
  exact ⟨hans, hmem, hactive⟩

include hlive

/-- `frontCall_` stays current under a change of the call, unless the object it has is
    replaced, matters still, and had its index. -/
theorem Refreshed.current {w2 : MuteWorld} (hget : w2.getOneCallObject = w'.getOneCallObject)
    (hfront : w2.frontCall = w'.frontCall)
    (hothers : ∀ r, r ≠ call' → w2.objects r = w'.objects r)
    (hid : (w2.objects call').callId = callId)
    (hindex : (w2.objects call').callIndex = (w.objects call).callIndex ∨
      (w2.objects call').callIndex ≠ 0)
    (hkeeps : call' = w.nextRef → (w2.objects call').callState ≠ .disconnected →
      w.frontCall ≠ some call ∨
        ((w.objects call).callIndex = 0 ∧ (w2.objects call').callIndex ≠ 0)) :
    w2.Current := by
  intro front hf r hr2 hstate
  rw [hfront, hr.frontCall_eq] at hf
  have hlt := (hw.front front hf).1
  have hcallId := hw.ids _ _ hcall
  -- an object from before the step other than the call's is as it was
  have hkept : ∀ x < w.nextRef, x ≠ call → w2.objects x = w.objects x := by
    intro x hx hne
    rcases hr.same with ⟨rfl, -⟩ | hnew
    · rw [hothers x hne, hr.old x hx]
    · rw [hothers x (hnew ▸ hx.ne), hr.old x hx]
  have hfid : (w2.objects front).callId = (w.objects front).callId := by
    by_cases h : front = call
    · rcases hr.same with ⟨heq, -⟩ | hnew
      · rw [h, ← heq, hid, heq, hcallId.1]
      · rw [hothers front (hnew ▸ hlt.ne), hr.old front hlt]
    · rw [hkept front hlt h]
  rw [hget, hr.get, hfid] at hr2
  split_ifs at hr2 with hsame
  · cases hr2
    have hstored : w.getOneCallObject (w.objects front).callId = some call := by rw [hsame, hcall]
    have hcur := hw.current front hf call hstored (hlive _ _ hcall)
    rcases hr.same with ⟨heq, -⟩ | hnew
    · by_cases h : front = call
      · exact .inl (heq.trans h.symm)
      · rcases hcur with h' | ⟨hzero, hne⟩
        · exact absurd h'.symm h
        · refine .inr ⟨by rw [hkept front hlt h, hzero], ?_⟩
          rcases hindex with hi | hi
          · rwa [hi]
          · exact hi
    · have hfobj : (w2.objects front).callIndex = (w.objects front).callIndex := by
        rw [hothers front (hnew ▸ hlt.ne), hr.old front hlt]
      refine .inr ?_
      rw [hfobj]
      rcases hkeeps hnew hstate with hne | ⟨hzero, hne⟩
      · rcases hcur with h | ⟨hzero, hne'⟩
        · exact absurd (h ▸ hf) hne
        · exact ⟨hzero, hindex.elim (fun hi => hi ▸ hne') id⟩
      · rcases hcur with h | ⟨-, hne'⟩
        · exact ⟨h ▸ hzero, hne⟩
        · exact absurd hzero hne'
  · have hrid := hw.ids _ _ hr2
    have hrne : r ≠ call := fun h => hsame (hrid.1.symm.trans (h ▸ hcallId.1))
    have hfne : front ≠ call := fun h => hsame (h ▸ hcallId.1)
    rw [hkept r hrid.2.2.2 hrne] at hstate
    rw [hkept front hlt hfne, hkept r hrid.2.2.2 hrne]
    exact hw.current front hf r hr2 hstate

theorem Refreshed.current_changeState {nextState : TelCallState}
    (hkeeps : call' = w.nextRef → nextState ≠ .disconnected → w.frontCall ≠ some call) :
    (w'.changeState call' nextState).Current := by
  have hobj : ((w'.changeState call' nextState).objects call').callId = _ ∧ _ :=
    changeState_objects nextState call'
  refine hr.current hw hlive hcall rfl rfl
    (fun r h => changeState_objects_of_ne nextState h) ?_ (.inl ?_) ?_
  · rw [hobj.1, hr.callId_eq]
  · rw [hobj.2.1, hr.callIndex_eq]
  · intro h hstate
    rw [changeState_objects_self] at hstate
    exact .inl (hkeeps h hstate)

omit hcall in
/-- The other calls are live as before. -/
theorem Refreshed.live_others (nextState : TelCallState) {x : ℤ} {r : Ref} (hx : x ≠ callId)
    (hget : w'.getOneCallObject x = some r) :
    ((w'.changeState call' nextState).objects r).callState ≠ .disconnected := by
  have hne : r ≠ call' := by
    rintro rfl
    exact hx ((hr.stored.ids _ _ hget).1.symm.trans hr.callId_eq)
  rw [changeState_objects_of_ne nextState hne]
  rw [hr.get, if_neg hx] at hget
  rw [hr.old r (hw.ids x r hget).2.2.2]
  exact hlive x r hget

omit hcall in
theorem Refreshed.live_changeState {nextState : TelCallState} (hnext : nextState ≠ .disconnected) :
    (w'.changeState call' nextState).Live := by
  intro x r hx
  have hget : w'.getOneCallObject x = some r := hx
  by_cases hid : x = callId
  · rw [hid, hr.get_self] at hget
    cases hget
    rwa [changeState_objects_self]
  · exact hr.live_others hw hlive nextState hid hget

end Refreshed

/-- The object is a new one only if the report has another type. -/
theorem refreshCallIfNecessary_new (hw : w.Stored) {callId : ℤ} {call : Ref}
    (hcall : w.getOneCallObject callId = some call) (callType : CarrierType)
    (h : (w.refreshCallIfNecessary call callType.1 callType.2).1 = w.nextRef) :
    (w.objects call).callType ≠ callType.1 := by
  intro htype
  rw [refreshCallIfNecessary, if_pos htype] at h
  exact absurd h (hw.ids _ _ hcall).2.2.2.ne

theorem entries_ne_nil {callId : ℤ} {call : Ref} (h : w.getOneCallObject callId = some call) :
    w.calls.entries ≠ [] :=
  List.ne_nil_of_mem (mem_of_getOneCallObject h)

/-- The operation is not a request of the user. -/
def Report : MuteOp → Prop
  | .setMute _ _ => False
  | _ => True

theorem choicesRight_report {op : MuteOp} (hop : Report op)
    (h : ∀ callId, ∀ muted ∈ (w.step op).choice callId, muted = (w.choice callId).getD false) :
    ChoicesRight w op := by
  cases op with
  | setMute isMute accepts => exact hop.elim
  | _ => exact h

/-- An operation that does nothing is right. -/
theorem stepRight_of_same {op : MuteOp} (hop : Report op) (hstep : w.step op = w)
    (hno : ¬ Notifies w op) (hw : w.Sound) (hlive : w.Live) (hunmuted : Unmuted w) :
    w.StepRight op where
  sound := by rwa [hstep]
  live := by rwa [hstep]
  front := fun h => absurd h hno
  choices := by
    refine choicesRight_report hop fun callId muted hmuted => ?_
    rw [hstep] at hmuted
    rw [hmuted]
    rfl
  unmuted := by rwa [hstep]

/-- A step that ends with a notification is right, if what comes before keeps the choices
    and no call is left that has ended. -/
theorem stepRight_of_notified {op : MuteOp} (hop : Report op) {w1 : MuteWorld}
    (hn : w1.Notified (w.step op) op.accepts) (hlive : w1.Live)
    (hchoices : ∀ callId, ∀ muted ∈ w1.choice callId, muted = (w.choice callId).getD false)
    (hne : w1.calls.entries ≠ []) : w.StepRight op where
  sound := hn.sound
  live := by
    intro callId call hcall
    rw [hn.objects]
    refine hlive callId call ?_
    rwa [getOneCallObject, hn.calls] at hcall
  front := fun _ => hn.right
  choices := by
    refine choicesRight_report hop fun callId => ?_
    have h : (w.step op).choice callId = w1.choice callId := by
      rw [choice, getOneCallObject, hn.calls, hn.objects, choice, getOneCallObject]
    rw [h]
    exact hchoices callId
  unmuted := fun h => absurd (hn.calls ▸ h) hne

theorem choice_getD (x : ℤ) : ∀ muted ∈ w.choice x, muted = (w.choice x).getD false := by
  rintro muted hmuted
  rw [hmuted]
  rfl

@[simp] theorem frontCall_delete (w : MuteWorld) (callId : ℤ) :
    (w.deleteOneCallObject callId).frontCall = w.frontCall := rfl

@[simp] theorem microphoneMute_delete (w : MuteWorld) (callId : ℤ) :
    (w.deleteOneCallObject callId).microphoneMute = w.microphoneMute := rfl

@[simp] theorem objects_delete (w : MuteWorld) (callId : ℤ) :
    (w.deleteOneCallObject callId).objects = w.objects := rfl

theorem getOneCallObject_delete (w : MuteWorld) (callId x : ℤ) :
    (w.deleteOneCallObject callId).getOneCallObject x =
      if x = callId then none else w.getOneCallObject x := by
  show ((w.calls.erase callId).lookup x).map _ = _
  rw [OrderedMap.lookup_erase]
  split_ifs <;> rfl

/-- A deleted call was stored. -/
theorem getOneCallObject_of_delete {callId x : ℤ} {call : Ref}
    (h : (w.deleteOneCallObject callId).getOneCallObject x = some call) :
    x ≠ callId ∧ w.getOneCallObject x = some call := by
  rw [getOneCallObject_delete] at h
  split_ifs at h with hid
  exact ⟨hid, h⟩

theorem foregroundCall_of_delete {callId : ℤ} {call : Ref}
    (h : (w.deleteOneCallObject callId).foregroundCall = some call) :
    w.foregroundCall = some call := by
  obtain ⟨hget, hspeaks⟩ := foregroundCall_eq_some.mp h
  exact foregroundCall_eq_some.mpr ⟨(getOneCallObject_of_delete hget).2, hspeaks⟩

/-- A call that has ended is in no set, so it can be deleted. -/
theorem Sound.delete (hw : w.Sound) {callId : ℤ} (hdisc : w.stateOf callId = some .disconnected) :
    (w.deleteOneCallObject callId).Sound where
  counter := hw.counter
  ids := fun x call h => hw.ids x call (getOneCallObject_of_delete h).2
  front := hw.front
  sets := by
    intro k x hx
    obtain ⟨st, hst, hne, hset⟩ := hw.sets k x hx
    have hid : x ≠ callId := by
      rintro rfl
      exact hne (Option.some.inj (hst.symm.trans hdisc))
    refine ⟨st, ?_, hne, hset⟩
    rw [stateOf, getOneCallObject_delete, if_neg hid]
    exact hst
  current := fun front hfront call h hstate =>
    hw.current front hfront call (getOneCallObject_of_delete h).2 hstate
  foreground := fun call h => hw.foreground call (foregroundCall_of_delete h)

/-- Once the last call has ended the sets are empty. -/
theorem Sound.sets_empty (hw : w.Sound) {callId : ℤ}
    (hdisc : w.stateOf callId = some .disconnected)
    (hentries : (w.deleteOneCallObject callId).calls.entries = []) (k : CallSet) :
    w.control.processor.calls k = ∅ := by
  refine Finset.eq_empty_of_forall_notMem fun x hx => ?_
  obtain ⟨st, hst, -⟩ := (hw.delete hdisc).sets k x hx
  obtain ⟨call, hcall, -⟩ := Option.map_eq_some_iff.mp hst
  exact entries_ne_nil hcall hentries

/-- The next id is new. -/
theorem getOneCallObject_fresh (hw : w.Stored) : w.getOneCallObject (w.callId + 1) = none := by
  cases h : w.getOneCallObject (w.callId + 1) with
  | none => rfl
  | some call =>
    have hle := (hw.ids _ _ h).2.2.1
    omega

theorem getOneCallObject_createNewCall (hw : w.Stored) (c : CallObject) (x : ℤ) :
    (w.createNewCall c).getOneCallObject x =
      if x = w.callId + 1 then some w.nextRef else w.getOneCallObject x := by
  have hmem : ¬ w.calls.Mem (StoredRef.mk (w.callId + 1) w.nextRef).callId := by
    have hfresh := getOneCallObject_fresh hw
    rw [getOneCallObject, Option.map_eq_none_iff] at hfresh
    rw [OrderedMap.mem_iff_lookup, hfresh]
    simp
  show ((w.calls.insert _).lookup x).map _ = _
  rw [OrderedMap.lookup_insert hmem]
  by_cases h : x = w.callId + 1
  · simp [h]
  · simp [h, Ne.symm h, getOneCallObject]

theorem createNewCall_stored (hw : w.Stored) (c : CallObject) : (w.createNewCall c).Stored := by
  have hold : ∀ r < w.nextRef, (w.createNewCall c).objects r = w.objects r :=
    fun r hr => Function.update_of_ne hr.ne ..
  have hnew : (w.createNewCall c).objects w.nextRef = { c with callId := w.callId + 1 } :=
    Function.update_self ..
  have hcounter := hw.counter
  refine ⟨?_, ?_, ?_⟩
  · show 0 ≤ w.callId + 1
    omega
  · intro x r hr
    rw [getOneCallObject_createNewCall hw] at hr
    show _ ∧ 0 < x ∧ x ≤ w.callId + 1 ∧ r < w.nextRef + 1
    split_ifs at hr with h
    · cases hr
      rw [hnew, h]
      exact ⟨rfl, by omega, le_rfl, Nat.lt_succ_self _⟩
    · obtain ⟨h1, h2, h3, h4⟩ := hw.ids x r hr
      rw [hold r h4]
      exact ⟨h1, h2, by omega, Nat.lt_succ_of_lt h4⟩
  · intro front hfront
    obtain ⟨h1, h2⟩ := hw.front front hfront
    rw [hold front h1]
    exact ⟨Nat.lt_succ_of_lt h1, Int.le_add_one h2⟩

theorem modify_stateOf {call : Ref} {f : CallObject → CallObject}
    (hf : ∀ c, (f c).callState = c.callState) : (w.modify call f).stateOf = w.stateOf := by
  funext x
  show (w.getOneCallObject x).map _ = (w.getOneCallObject x).map _
  simp only [modify_field CallObject.callState hf]

theorem modify_foregroundCall {call : Ref} {f : CallObject → CallObject}
    (hf : ∀ c, (f c).callState = c.callState) :
    (w.modify call f).foregroundCall = w.foregroundCall := by
  show (w.getOneCallObject _).filter _ = (w.getOneCallObject _).filter _
  simp only [modify_field CallObject.callState hf]
  rfl

/-- The mute choice of an object is no part of the invariant. -/
theorem Sound.setMicPhoneState (hw : w.Sound) (call : Ref) (isMuted : Bool) :
    (w.setMicPhoneState call isMuted).Sound := by
  have hstate : ∀ r, ((w.setMicPhoneState call isMuted).objects r).callState =
      (w.objects r).callState := modify_field CallObject.callState fun _ => rfl
  have hid : ∀ r, ((w.setMicPhoneState call isMuted).objects r).callId =
      (w.objects r).callId := modify_field CallObject.callId fun _ => rfl
  have hindex : ∀ r, ((w.setMicPhoneState call isMuted).objects r).callIndex =
      (w.objects r).callIndex := modify_field CallObject.callIndex fun _ => rfl
  have hstates : (w.setMicPhoneState call isMuted).stateOf = w.stateOf :=
    modify_stateOf fun _ => rfl
  have hforeground : (w.setMicPhoneState call isMuted).foregroundCall = w.foregroundCall :=
    modify_foregroundCall fun _ => rfl
  refine ⟨hw.toStored.modify fun _ => rfl, ?_, ?_, ?_⟩
  · rw [hstates]
    exact hw.sets
  · intro front hfront r hr hr'
    rw [hid] at hr
    rw [hstate] at hr'
    rw [hindex, hindex]
    exact hw.current front hfront r hr hr'
  · intro r hr
    rw [hforeground] at hr
    obtain ⟨front, hfront, heq⟩ := hw.foreground r hr
    exact ⟨front, hfront, by rw [hid, hid, heq]⟩

section Steps

variable (hw : w.Sound) (hlive : w.Live) (hunmuted : Unmuted w)
include hw hlive hunmuted

theorem stepRight_created (callIndex : ℤ) (callType : CarrierType) (callState : TelCallState)
    (accepts : Bool) : w.StepRight (.created callIndex callType callState accepts) := by
  by_cases hstart : callState ∈ AudioWorld.startStates
  swap
  · refine stepRight_of_same trivial ?_ (fun h => hstart h) hw hlive hunmuted
    simp [step, hstart]
  obtain ⟨hdisc, hans⟩ : callState ≠ .disconnected ∧ callState ≠ .answered := by
    constructor <;> rintro rfl <;> exact absurd hstart (by decide)
  set newCall : CallObject := ⟨0, callIndex, callType, callState, false, callType.2⟩
  have hstep : w.step (.created callIndex callType callState accepts) =
      (w.createNewCall newCall).updateCallState w.nextRef callState accepts := by
    simp [step, hstart, newCall]
  have hfresh := getOneCallObject_fresh hw.toStored
  have hget := getOneCallObject_createNewCall hw.toStored newCall
  have hself : (w.createNewCall newCall).getOneCallObject (w.callId + 1) = some w.nextRef := by
    rw [hget, if_pos rfl]
  have hold : ∀ r < w.nextRef, (w.createNewCall newCall).objects r = w.objects r :=
    fun r hr => Function.update_of_ne hr.ne ..
  have hn := updateCallState_notified (createNewCall_stored hw.toStored newCall) hself callState
    accepts hans ?_ ?_ ?_
  · rw [← hstep] at hn
    refine stepRight_of_notified trivial hn ?_ ?_
      (entries_ne_nil (w := w.createNewCall newCall) hself)
    · intro x r hx
      have hx' : (w.createNewCall newCall).getOneCallObject x = some r := hx
      rw [hget] at hx'
      split_ifs at hx' with hid
      · cases hx'
        rwa [changeState_objects_self]
      · have hlt := (hw.ids x r hx').2.2.2
        rw [changeState_objects_of_ne callState hlt.ne, hold r hlt]
        exact hlive x r hx'
    · intro x
      rw [changeState_choice]
      by_cases hid : x = w.callId + 1
      · rw [hid, choice, hself, choice, hfresh]
        simp [createNewCall, newCall]
      · have hx : (w.createNewCall newCall).choice x = w.choice x := by
          rw [choice, choice, hget, if_neg hid]
          cases hx : w.getOneCallObject x with
          | none => rfl
          | some r => rw [Option.map_some, Option.map_some, hold r (hw.ids x r hx).2.2.2]
        rw [hx]
        exact choice_getD x
  · intro k x hid hx
    obtain ⟨st, hst, hset⟩ := hw.sets k x hx
    refine ⟨st, ?_, hset⟩
    obtain ⟨r, hr, hst⟩ := Option.map_eq_some_iff.mp hst
    rw [stateOf, hget, if_neg hid, hr, Option.map_some, hold r (hw.ids x r hr).2.2.2, hst]
  · intro k hk
    obtain ⟨st, hst, -⟩ := hw.sets k _ hk
    rw [stateOf, hfresh] at hst
    exact nomatch hst
  · intro front hfront r hr hstate
    have hf := hw.front front hfront
    have hobj := changeState_objects_of_ne (w := w.createNewCall newCall) callState hf.1.ne
    rw [hobj, hold front hf.1] at hr ⊢
    have hr' : (w.createNewCall newCall).getOneCallObject (w.objects front).callId = some r := hr
    have hid : (w.objects front).callId ≠ w.callId + 1 := by
      have hle := hf.2
      omega
    rw [hget, if_neg hid] at hr'
    have hlt := (hw.ids _ _ hr').2.2.2
    rw [changeState_objects_of_ne callState hlt.ne, hold r hlt] at hstate ⊢
    exact hw.current front hfront r hr' hstate

theorem stepRight_updated (callId : ℤ) (callType : CarrierType) (nextState : TelCallState)
    (accepts : Bool) (hfollows : Follows w (.updated callId callType nextState accepts)) :
    w.StepRight (.updated callId callType nextState accepts) := by
  cases hcall : w.getOneCallObject callId with
  | none =>
    refine stepRight_of_same trivial ?_ ?_ hw hlive hunmuted
    · simp [step, hcall]
    · simp [Notifies, hcall]
  | some call =>
    by_cases hrefused : nextState = .disconnected ∨ nextState = .answered
    · refine stepRight_of_same trivial ?_ ?_ hw hlive hunmuted
      · simp [step, hcall, hrefused]
      · rintro ⟨-, h1, h2⟩
        exact hrefused.elim h1 h2
    obtain ⟨hdisc, hans⟩ := not_or.mp hrefused
    have hr := refreshCallIfNecessary_refreshed hw.toStored hcall callType.1 callType.2
    have hstep : w.step (.updated callId callType nextState accepts) =
        (w.refreshCallIfNecessary call callType.1 callType.2).2.updateCallState
          (w.refreshCallIfNecessary call callType.1 callType.2).1 nextState accepts := by
      simp [step, hcall, hrefused]
    have hnew := refreshCallIfNecessary_new hw.toStored hcall callType
    generalize (w.refreshCallIfNecessary call callType.1 callType.2).2 = w' at hr hstep
    generalize (w.refreshCallIfNecessary call callType.1 callType.2).1 = call' at hr hstep hnew
    have hcurrent : (w'.changeState call' nextState).Current :=
      hr.current_changeState hw hlive hcall fun h _ => (hfollows call hcall (hnew h)).1
    have hn := updateCallState_notified hr.stored hr.get_self nextState accepts hans
      (hr.setsOthers hw hcall)
      (hr.setsOwn hw hcall fun h => (hfollows call hcall (hnew h)).2) hcurrent
    rw [← hstep] at hn
    refine stepRight_of_notified trivial hn (hr.live_changeState hw hlive hdisc) ?_ ?_
    · intro x
      rw [changeState_choice, hr.choice_eq hw hcall]
      exact choice_getD x
    · exact entries_ne_nil (w := w') hr.get_self

theorem stepRight_dialingUpdated (callId callIndex : ℤ) (callType : CarrierType)
    (hfollows : Follows w (.dialingUpdated callId callIndex callType)) :
    w.StepRight (.dialingUpdated callId callIndex callType) := by
  cases hcall : w.getOneCallObject callId with
  | none =>
    refine stepRight_of_same trivial ?_ id hw hlive hunmuted
    simp [step, hcall]
  | some call =>
    by_cases hrefused : (w.objects call).callState ≠ .dialing ∨ callIndex ≤ 0
    · refine stepRight_of_same trivial ?_ id hw hlive hunmuted
      simp [step, hcall, hrefused]
    obtain ⟨hdialing, hindex⟩ := not_or.mp hrefused
    have hr := refreshCallIfNecessary_refreshed hw.toStored hcall callType.1 callType.2
    have hstep : w.step (.dialingUpdated callId callIndex callType) =
        (w.refreshCallIfNecessary call callType.1 callType.2).2.modify
          (w.refreshCallIfNecessary call callType.1 callType.2).1
            fun c => { c with callIndex := callIndex } := by
      simp [step, hcall, hrefused]
    have hnew := refreshCallIfNecessary_new hw.toStored hcall callType
    generalize (w.refreshCallIfNecessary call callType.1 callType.2).2 = w' at hr hstep
    generalize (w.refreshCallIfNecessary call callType.1 callType.2).1 = call' at hr hstep hnew
    set f : CallObject → CallObject := fun c => { c with callIndex := callIndex }
    have hself : ((w'.modify call' f).objects call') = f (w'.objects call') :=
      Function.update_self ..
    have hcond : call' = w.nextRef → _ := fun h => hfollows call hcall (hnew h)
    have hstate : (w'.modify call' f).stateOf = w.stateOf := by
      rw [modify_stateOf (f := f) fun _ => rfl]
      exact funext (hr.stateOf_eq hw hcall)
    have hobj : ∀ x r, (w'.modify call' f).getOneCallObject x = some r →
        ∃ r', w.getOneCallObject x = some r' ∧
          ((w'.modify call' f).objects r).callState = (w.objects r').callState := by
      intro x r hx
      have hst : (w'.modify call' f).stateOf x =
          some ((w'.modify call' f).objects r).callState := by
        rw [stateOf, hx]
        rfl
      rw [hstate] at hst
      obtain ⟨r', hr', heq⟩ := Option.map_eq_some_iff.mp hst
      exact ⟨r', hr', heq.symm⟩
    have hchoice : ∀ x, (w'.modify call' f).choice x = w.choice x := by
      intro x
      rw [← hr.choice_eq hw hcall]
      show (w'.getOneCallObject x).map _ = (w'.getOneCallObject x).map _
      simp only [modify_field CallObject.isMuted (f := f) fun _ => rfl]
    refine ⟨?_, ?_, nofun, choicesRight_report trivial ?_, ?_⟩
    · rw [hstep]
      refine ⟨hr.stored.modify fun _ => rfl, ?_, ?_, ?_⟩
      · rw [hstate]
        intro k x hx
        have hx' : x ∈ w.control.processor.calls k := hr.processor_eq ▸ hx
        by_cases hid : x = callId
        · subst hid
          have hdialing' : (w.objects call).callState = .dialing := not_ne_iff.mp hdialing
          refine ⟨.dialing, by rw [stateOf, hcall, Option.map_some, hdialing'], by decide, ?_⟩
          have hown := hr.setsOwn hw hcall (fun h hans => (hcond h).2 hans) k hx
          rw [hr.callState_eq, hdialing'] at hown
          exact hown.imp_right fun h => ⟨h.1, h.2.resolve_right id⟩
        · obtain ⟨st, hst, hne, hset⟩ := hw.sets k x hx'
          exact ⟨st, hst, hne, hset.imp_right fun h => ⟨h.1, hr.answered x hid h.2⟩⟩
      · refine hr.current hw hlive hcall rfl rfl (fun r h => Function.update_of_ne h ..) ?_ ?_ ?_
        · rw [hself]
          exact hr.callId_eq
        · rw [hself]
          exact .inr fun h => hindex (le_of_eq h)
        · intro h _
          rw [hself]
          exact (hcond h).1.imp_right fun hzero => ⟨hzero, fun h => hindex (le_of_eq h)⟩
      · intro r hforeground
        obtain ⟨hx, hspeaks⟩ := foregroundCall_eq_some.mp hforeground
        obtain ⟨r', hr', heq⟩ := hobj _ r hx
        have hprocessor : (w'.modify call' f).control.processor = w.control.processor :=
          hr.processor_eq
        rw [hprocessor] at hx hr'
        rw [heq] at hspeaks
        obtain ⟨front, hfront, hid⟩ := hw.foreground r' (foregroundCall_eq_some.mpr ⟨hr', hspeaks⟩)
        refine ⟨front, hr.frontCall_eq ▸ hfront, ?_⟩
        have hstored : (w'.modify call' f).Stored := hr.stored.modify fun _ => rfl
        have hfid : ((w'.modify call' f).objects front).callId = (w'.objects front).callId :=
          modify_field (f := f) CallObject.callId (fun _ => rfl) front
        rw [(hstored.ids _ _ hx).1, hfid, hr.old front (hw.front front hfront).1, hid]
        exact (hw.ids _ _ hr').1
    · rw [hstep]
      intro x r hx
      obtain ⟨r', hr', heq⟩ := hobj x r hx
      rw [heq]
      exact hlive x r' hr'
    · intro x
      rw [hstep, hchoice]
      exact choice_getD x
    · rw [hstep]
      exact fun h => absurd h (entries_ne_nil (w := w') hr.get_self)

theorem stepRight_ended (callId : ℤ) (callType : CarrierType) (accepts : Bool)
    (hfollows : Follows w (.ended callId callType accepts)) :
    w.StepRight (.ended callId callType accepts) := by
  cases hcall : w.getOneCallObject callId with
  | none =>
    refine stepRight_of_same trivial ?_ ?_ hw hlive hunmuted
    · simp [step, hcall]
    · simp [Notifies, hcall]
  | some call =>
    have hr := refreshCallIfNecessary_refreshed hw.toStored hcall callType.1 callType.2
    have hstep : w.step (.ended callId callType accepts) =
        ((w.refreshCallIfNecessary call callType.1 callType.2).2.updateCallState
          (w.refreshCallIfNecessary call callType.1 callType.2).1 .disconnected
            accepts).deleteOneCallObject callId := by
      simp [step, hcall]
    have hnew := refreshCallIfNecessary_new hw.toStored hcall callType
    generalize (w.refreshCallIfNecessary call callType.1 callType.2).2 = w' at hr hstep
    generalize (w.refreshCallIfNecessary call callType.1 callType.2).1 = call' at hr hstep hnew
    have hcurrent : (w'.changeState call' .disconnected).Current :=
      hr.current_changeState hw hlive hcall fun _ h => absurd rfl h
    have hn := updateCallState_notified hr.stored hr.get_self .disconnected accepts (by decide)
      (hr.setsOthers hw hcall)
      (hr.setsOwn hw hcall fun h hans => absurd hans ((hfollows call hcall).1 (hnew h))) hcurrent
    have hget : ∀ x, (w'.updateCallState call' .disconnected accepts).getOneCallObject x =
        w'.getOneCallObject x := fun x => by rw [getOneCallObject, hn.calls]; rfl
    have hdisc : (w'.updateCallState call' .disconnected accepts).stateOf callId =
        some .disconnected := by
      rw [stateOf, hget, hr.get_self, hn.objects, Option.map_some, changeState_objects_self]
    set w2 := w'.updateCallState call' .disconnected accepts
    refine ⟨?_, ?_, ?_, ?_, ?_⟩
    · rw [hstep]
      exact hn.sound.delete hdisc
    · rw [hstep]
      intro x r hx
      obtain ⟨hid, hx⟩ := getOneCallObject_of_delete hx
      rw [hget] at hx
      show (w2.objects r).callState ≠ _
      rw [hn.objects]
      exact hr.live_others hw hlive .disconnected hid hx
    · rintro - call2 hcall2
      rw [hstep] at hcall2 ⊢
      rw [frontCall_delete, microphoneMute_delete, objects_delete]
      exact hn.right call2 (foregroundCall_of_delete hcall2)
    · refine choicesRight_report trivial fun x muted hmuted => ?_
      rw [hstep, choice] at hmuted
      obtain ⟨r, hx, hmuted⟩ := Option.map_eq_some_iff.mp hmuted
      obtain ⟨-, hx⟩ := getOneCallObject_of_delete hx
      refine choice_getD x muted ?_
      have hchoice : (w'.changeState call' .disconnected).choice x = w'.choice x :=
        changeState_choice .disconnected x
      rw [hr.choice_eq hw hcall] at hchoice
      rw [← hchoice, choice]
      rw [hget] at hx
      have hx' : (w'.changeState call' .disconnected).getOneCallObject x = some r := hx
      rw [hx', ← hn.objects]
      exact congrArg some hmuted
    · rw [hstep]
      intro hentries
      rw [microphoneMute_delete]
      refine hn.unmuted (fun k => ?_) ?_
      · rw [← hn.control]
        exact hn.sound.sets_empty hdisc hentries k
      · by_contra hno
        obtain ⟨hrefused, hmuted⟩ := not_or.mp hno
        have hmute : w.microphoneMute ≠ false := hr.microphoneMute_eq ▸ hmuted
        have hothers := ((hfollows call hcall).2 (by simpa using hrefused)).resolve_left hmute
        obtain ⟨it, hit, hne⟩ := hr.others hothers
        have hkept : it ∈ (w2.deleteOneCallObject callId).calls.entries := by
          refine OrderedMap.mem_entries_erase ?_ hne
          rw [hn.calls]
          exact hit
        rw [hentries] at hkept
        exact absurd hkept List.not_mem_nil

theorem stepRight_answered (callId : ℤ) (accepts : Bool) :
    w.StepRight (.answered callId accepts) := by
  cases hcall : w.getOneCallObject callId with
  | none =>
    refine stepRight_of_same trivial ?_ ?_ hw hlive hunmuted
    · simp [step, hcall]
    · simp [Notifies, hcall]
  | some call =>
    by_cases hringing : (w.objects call).callState = .incoming ∨
        (w.objects call).callState = .waiting
    · have hst : w.stateOf callId = some (w.objects call).callState := by
        rw [stateOf, hcall]
        rfl
      set w1 : MuteWorld :=
        { w with
          control := w.control.handleCallStateUpdated (w.objects call).callType callId .incoming
            .answered }
      have hstep : w.step (.answered callId accepts) = w1.updateForegroundLiveCall accepts := by
        simp only [step, hcall, if_pos hringing, callStateUpdated, callStateUpdated_control,
          (hw.ids _ _ hcall).1]
        rfl
      have hn : w1.Notified (w.step (.answered callId accepts)) accepts := by
        rw [hstep]
        exact notified (w := w1) ⟨hw.counter, hw.ids, hw.front⟩
          (setsFollow_answered hst hringing hw.sets) hw.current accepts
      exact stepRight_of_notified trivial hn hlive (fun x => choice_getD x)
        (entries_ne_nil (w := w) hcall)
    · refine stepRight_of_same trivial ?_ ?_ hw hlive hunmuted
      · simp [step, hcall, hringing]
      · rintro ⟨call', hcall', h⟩
        rw [hcall] at hcall'
        cases hcall'
        exact hringing h

theorem stepRight_setMute (isMute accepts : Bool) (hfollows : Follows w (.setMute isMute accepts)) :
    w.StepRight (.setMute isMute accepts) := by
  by_cases hfails : w.hasCall = false ∨ w.frontCall = none ∨ accepts = false
  · have hfailed : (w.setMute isMute accepts).1 ≠ .telephonySuccess := (setMute_failed hfails).1
    have hstep' : w.step (.setMute isMute accepts) = w := (setMute_failed hfails).2
    refine ⟨by rwa [hstep'], by rwa [hstep'], nofun, fun x => ?_, by rwa [hstep']⟩
    rw [hstep', if_neg fun h => hfailed h.1]
  push Not at hfails
  obtain ⟨hhas, hsome, haccepts⟩ := hfails
  obtain ⟨front, hfront⟩ := Option.ne_none_iff_exists'.mp hsome
  obtain rfl : accepts = true := by simpa using haccepts
  have hset := setMute_accepted hfront hhas isMute
  have hsuccess : (w.setMute isMute true).1 = .telephonySuccess := by rw [hset]
  set muted : MuteWorld := { w with microphoneMute := isMute }
  have hstep : w.step (.setMute isMute true) = muted.setMicPhoneState front isMute := by
    show (w.setMute isMute true).2 = _
    rw [hset]
  have htarget : w.target = some (w.objects front).callId := by
    unfold target
    cases hcall : w.foregroundCall with
    | none => rw [Option.none_or, hfront, Option.map_some]
    | some call =>
      obtain ⟨front', hfront', heq⟩ := hw.foreground call hcall
      cases hfront.symm.trans hfront'
      rw [Option.some_or, Option.map_some, heq]
  refine ⟨?_, ?_, nofun, fun x => ?_, ?_⟩
  · rw [hstep]
    exact Sound.setMicPhoneState (w := muted)
      ⟨⟨hw.counter, hw.ids, hw.front⟩, hw.sets, hw.current, hw.foreground⟩ front isMute
  · rw [hstep]
    intro x r hx
    have hstate : ((muted.setMicPhoneState front isMute).objects r).callState =
        (w.objects r).callState :=
      modify_field (w := muted) (f := fun c => { c with isMuted := isMute }) CallObject.callState
        (fun _ => rfl) r
    rw [hstate]
    exact hlive x r hx
  · have hget : (w.step (.setMute isMute true)).getOneCallObject x = w.getOneCallObject x := by
      rw [hstep]
      rfl
    rw [choice, hget, htarget, hstep]
    cases hx : w.getOneCallObject x with
    | none => simp [choice, hx]
    | some r =>
      rw [Option.map_some]
      by_cases hid : (w.objects front).callId = x
      · have hr : r = front := hfollows rfl front hfront r (by rw [hid]; exact hx)
        rw [if_pos ⟨hsuccess, by rw [hid]⟩, choice, hx, hr]
        simp [setMicPhoneState, modify]
      · have hne : r ≠ front := fun h => hid (h ▸ (hw.ids x r hx).1)
        rw [if_neg fun h => hid (Option.some.inj h.2), choice, hx]
        simp [setMicPhoneState, modify, hne, muted]
  · rw [hstep]
    intro hentries
    have hnone : w.calls.entries = [] := hentries
    simp [hasCall, hnone] at hhas

/-- **One step.** A step that meets the condition is right. -/
theorem stepRight (op : MuteOp) (hfollows : Follows w op) : w.StepRight op := by
  cases op with
  | created callIndex callType callState accepts =>
    exact stepRight_created hw hlive hunmuted callIndex callType callState accepts
  | updated callId callType nextState accepts =>
    exact stepRight_updated hw hlive hunmuted callId callType nextState accepts hfollows
  | dialingUpdated callId callIndex callType =>
    exact stepRight_dialingUpdated hw hlive hunmuted callId callIndex callType hfollows
  | ended callId callType accepts =>
    exact stepRight_ended hw hlive hunmuted callId callType accepts hfollows
  | answered callId accepts => exact stepRight_answered hw hlive hunmuted callId accepts
  | setMute isMute accepts => exact stepRight_setMute hw hlive hunmuted isMute accepts hfollows

end Steps

theorem init_sound : init.Sound where
  counter := le_rfl
  ids := nofun
  front := nofun
  sets := fun k callId h => by cases k <;> exact absurd h (Finset.notMem_empty callId)
  current := nofun
  foreground := nofun

theorem init_live : init.Live := nofun

end MuteWorld

open Run

/-- **The mute choice follows the call.** In a run whose steps meet `Follows`, after every
    notification `frontCall_` and the microphone are those of the speaking foreground
    call, every `SetMute` is for that call alone, no report changes a choice, and without
    calls the microphone is not muted. -/
theorem mute_follows (ops : List MuteOp) (h : StepsMeet step Follows init ops) :
    StatesMeet step Unmuted init ops ∧
      StepsMeet step (fun w op => FrontRight w op ∧ ChoicesRight w op) init ops := by
  have hkept : ∀ w op, (w.Sound ∧ w.Live ∧ Unmuted w) → Follows w op →
      (w.step op).Sound ∧ (w.step op).Live ∧ Unmuted (w.step op) := by
    rintro w op ⟨hw, hlive, hunmuted⟩ hfollows
    have hright := stepRight hw hlive hunmuted op hfollows
    exact ⟨hright.sound, hright.live, hright.unmuted⟩
  have hinit : init.Sound ∧ init.Live ∧ Unmuted init := ⟨init_sound, init_live, fun _ => rfl⟩
  constructor
  · exact (statesMeet_of_stepsMeet hkept hinit h).mono fun w hw => hw.2.2
  · refine StepsMeet.of_invariant (fun w op hw hfollows => ⟨hkept w op hw hfollows, ?_⟩) hinit h
    have hright := stepRight hw.1 hw.2.1 hw.2.2 op hfollows
    exact ⟨hright.front, hright.choices⟩

instance (w : MuteWorld) (call : Ref) : Decidable (w.AnsweredBeforeActive call) := by
  unfold AnsweredBeforeActive
  infer_instance

instance (w : MuteWorld) (call : Ref) : Decidable (w.KeepsFront call) := by
  unfold KeepsFront
  infer_instance

instance (w : MuteWorld) (op : MuteOp) : Decidable (Follows w op) := by
  cases op <;> unfold Follows <;> infer_instance

/-- A report of a CS or an IMS call. -/
def cs : CarrierType := ⟨.cs, .inl rfl⟩

def ims : CarrierType := ⟨.ims, .inr rfl⟩

/-- A call that the user mutes is held for another, which ends, and comes back. -/
def heldAndResumed : List MuteOp :=
  [.created 1 ims .active true, .setMute true true, .updated 1 ims .holding true,
    .created 2 ims .active true, .ended 2 ims true, .updated 1 ims .active true]

theorem mute_follows_held :
    StepsMeet step (fun w op => FrontRight w op ∧ ChoicesRight w op) init heldAndResumed ∧
      (run step init heldAndResumed).microphoneMute = true :=
  ⟨(mute_follows heldAndResumed (by decide +kernel)).2, by decide +kernel⟩

/-- The same call, which becomes a CS call before the user mutes it. -/
def convertedAndResumed : List MuteOp :=
  [.created 1 ims .active true, .updated 1 cs .active true, .setMute true true,
    .updated 1 cs .holding true, .created 2 cs .active true, .ended 2 cs true,
    .updated 1 cs .active true]

/-- The report leaves the old object in `frontCall_`, which takes the user's choice: the
    call is not muted any more when it comes back. -/
theorem mute_lost :
    ¬ StepsMeet step (fun w op => FrontRight w op ∧ ChoicesRight w op) init convertedAndResumed ∧
      (run step init convertedAndResumed).choice 1 = some false ∧
      (run step init convertedAndResumed).microphoneMute = false := by
  refine ⟨?_, by decide +kernel, by decide +kernel⟩
  rintro ⟨-, ⟨hfront, -⟩, -⟩
  have hcall := hfront ⟨by decide +kernel, by decide, by decide⟩ 1 (by decide +kernel)
  exact absurd hcall.1 (by decide +kernel)

end MuteChoice

end CallManager
