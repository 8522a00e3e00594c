import CallManager.CallCommands

/-!
# Answering beside calls on the other slot

With two slots in use, `HoldOrDisconnectedCall` has to make room before an
incoming call is answered. It goes through the other carrier calls, and for each
one it calls one of four branch functions, by the number of waiting calls. They
hold or hang up the call they are called for, they hang up "the" held call, which
each of them looks up anew, or they answer the incoming call.

No command changes a state before the modem reports, so all turns of the loop see
the same calls. What one turn leaves to the next are two flags, the flag for the
conference and the static flag for DSDA, and the incoming call's auto-answer
state. The first makes sure that one call at most is held. Nothing of the kind
guards the hang-up of the held call, nor the answer that `HandleDsdaIncomingCall`
gives in the turn of each held or disconnecting call of the other slot.

Results:
* `holdOrDisconnectedCall_iff`: one run sends each call one command at most iff no
  two turns conflict, that is, iff no two of them hang up the held call, and none
  that answers at once comes after one that has answered.
* `held_call_hung_up_twice`: with an active and a held call on the other slot, the
  held call is hung up twice.
-/

namespace CallManager

namespace CallRequestProcess

open LiveWorld

/-! ## Model -/

/-- What changes in a run: the auto-answer state of the incoming call, `flagForConference`, the
    static `g_flagForDsda` (call_request_process.cpp:38), and the commands of the run. -/
structure AnswerRun where
  autoAnswerState : Bool
  flagForConference : Bool
  flagForDsda : Bool
  commands : List CallCommand
  deriving DecidableEq, Repr

namespace AnswerRun

variable (r : AnswerRun)

/-- `HangUpCall` of a call. -/
def hangUpCall (call : LiveCall) : AnswerRun :=
  { r with commands := r.commands ++ [.hangUpCall call.callId] }

/-- `HoldCall` of a call, with the flag that is set after it. -/
def holdCall (call : LiveCall) : AnswerRun :=
  { r with
    commands := r.commands ++ [.holdCall call.callId]
    flagForConference := true }

/-- `AnswerCall` of the incoming call and `SetAutoAnswerState(false)`. -/
def answerCall (incomingCall : LiveCall) (videoState : ℤ) : AnswerRun :=
  { r with
    commands := r.commands ++ [.answerCall incomingCall.callId videoState]
    autoAnswerState := false }

end AnswerRun

/-- A call that is dialing or alerting. -/
def IsOutgoing (call : LiveCall) : Prop := call.callState = .dialing ∨ call.callState = .alerting

instance (call : LiveCall) : Decidable (IsOutgoing call) := inferInstanceAs (Decidable (_ ∨ _))

/-- A call that is active and no call has been held in this run. -/
def MayHold (call : LiveCall) (r : AnswerRun) : Prop :=
  call.callRunningState = .active ∧ r.flagForConference = false

instance (call : LiveCall) (r : AnswerRun) : Decidable (MayHold call r) :=
  inferInstanceAs (Decidable (_ ∧ _))

variable (w : LiveWorld) (incomingCall : LiveCall) (slotId : ℤ)

/-- `HandleCallWaitingNumZero` (call_request_process.cpp:447-491). -/
def handleCallWaitingNumZero (activeCallNum : ℕ) (call : LiveCall) (r : AnswerRun) : AnswerRun :=
  match w.getOneCallObjectByState .hold with
  | some holdCall =>
    let r :=
      if IsOutgoing call then r.hangUpCall call
      else if 0 < activeCallNum then r.hangUpCall holdCall
      else r
    if MayHold call r then r.holdCall call else r
  | none =>
    if IsOutgoing call then r.hangUpCall call
    else if MayHold call r then
      if call.isVoiceModifyToVideo then r.hangUpCall call else r.holdCall call
    else if r.autoAnswerState = true ∧ (call.callState = .incoming ∨ call.callState = .waiting) then
      r.answerCall incomingCall incomingCall.videoState.number
    else r

/-- `IsCallExist(callType, callState)` (call_object_manager.cpp:790-801). -/
def isCallExist (callType : CallType) (callState : TelCallState) : Bool :=
  w.calls.entries.any fun it => it.callType = callType ∧ it.callState = callState

/-- `HandleCallWaitingNumOneNext` (call_request_process.cpp:413-445). -/
def handleCallWaitingNumOneNext (call holdCall : LiveCall) (r : AnswerRun) : AnswerRun :=
  let activeCallNum := w.getCallNum .active
  let dialingCallNum := w.getCallNum .dialing
  let alertingCallNum := w.getCallNum .alerting
  let r :=
    if IsOutgoing call then r.hangUpCall call
    else if 0 < activeCallNum then { r.hangUpCall holdCall with flagForDsda := true }
    else r
  if MayHold call r then
    if isCallExist w call.callType .incoming = true ∧ call.slotId ≠ slotId then r.hangUpCall call
    else r.holdCall call
  else if activeCallNum = 0 ∧ r.autoAnswerState = true ∧ alertingCallNum = 0 ∧
      dialingCallNum = 0 then
    r.answerCall incomingCall incomingCall.videoState.number
  else r

/-- `HandleCallWaitingNumOne` (call_request_process.cpp:382-411). -/
def handleCallWaitingNumOne (activeCallNum : ℕ) (call : LiveCall) (r : AnswerRun) : AnswerRun :=
  match w.getOneCallObjectByState .hold with
  | some holdCall => handleCallWaitingNumOneNext w incomingCall slotId call holdCall r
  | none =>
    if w.getCurrentCallNum = 2 then handleCallWaitingNumZero w incomingCall activeCallNum call r
    else if MayHold call r then
      if call.slotId ≠ slotId ∧ r.flagForDsda = true then
        { r.holdCall call with flagForDsda := false }
      else if call.slotId ≠ slotId then r.hangUpCall call
      else r.holdCall call
    else r

/-- `HandleCallWaitingNumTwo` (call_request_process.cpp:354-380). -/
def handleCallWaitingNumTwo (activeCallNum : ℕ) (call : LiveCall) (r : AnswerRun) : AnswerRun :=
  if w.getCurrentCallNum = 3 then
    handleCallWaitingNumOne w incomingCall slotId activeCallNum call r
  else
    let r :=
      match w.getOneCallObjectByState .hold with
      | some holdCall => r.hangUpCall holdCall
      | none => r
    if MayHold call r then
      if call.slotId = slotId then r.holdCall call else r.hangUpCall call
    else r

/-- The test of `HandleDsdaIncomingCall` (call_request_process.cpp:321-339): the call is held or
    disconnecting, and no call is active, alerting, dialing or answered. -/
def IsLeftAside (activeCallNum : ℕ) (call : LiveCall) : Prop :=
  (call.callState = .disconnecting ∨ call.callState = .holding) ∧
    (activeCallNum = 0 ∧ w.getCallNum .alerting = 0 ∧ w.getCallNum .dialing = 0 ∧
      w.getCallNum .answered = 0)

instance (activeCallNum : ℕ) (call : LiveCall) : Decidable (IsLeftAside w activeCallNum call) :=
  inferInstanceAs (Decidable (_ ∧ _))

/-- One turn of the loop of `HoldOrDisconnectedCall`, with `HandleDsdaIncomingCall`. -/
def turn (videoState : ℤ) (activeCallNum waitingCallNum : ℕ) (call : LiveCall) (r : AnswerRun) :
    AnswerRun :=
  if IsLeftAside w activeCallNum call then
    if call.slotId ≠ slotId then r.answerCall incomingCall videoState else r
  else if 1 < waitingCallNum ∨ w.getCurrentCallNum = 4 then
    handleCallWaitingNumTwo w incomingCall slotId activeCallNum call r
  else if waitingCallNum = 1 then
    handleCallWaitingNumOne w incomingCall slotId activeCallNum call r
  else handleCallWaitingNumZero w incomingCall activeCallNum call r

/-- The loop of `HoldOrDisconnectedCall`. -/
def answerLoop (videoState : ℤ) (activeCallNum waitingCallNum : ℕ) : List ℤ → AnswerRun → AnswerRun
  | [], r => r
  | otherCallId :: rest, r =>
    match w.getOneCallObject otherCallId with
    | none => answerLoop videoState activeCallNum waitingCallNum rest r
    | some call =>
      if call.callId ≠ incomingCall.callId then
        answerLoop videoState activeCallNum waitingCallNum rest
          (turn w incomingCall slotId videoState activeCallNum waitingCallNum call r)
      else answerLoop videoState activeCallNum waitingCallNum rest r

/-- `HoldOrDisconnectedCall`, with the value of `g_flagForDsda` before
    (call_request_process.cpp:273-319). -/
def holdOrDisconnectedCall (callId videoState : ℤ) (flagForDsda : Bool) : AnswerRun :=
  match w.getOneCallObject callId with
  | none => ⟨false, false, flagForDsda, []⟩
  | some incomingCall =>
    let r : AnswerRun := ⟨incomingCall.autoAnswerState, false, flagForDsda, []⟩
    if w.isExistCallOtherSlot w.getCarrierCallList slotId then r.answerCall incomingCall videoState
    else
      answerLoop w incomingCall slotId videoState (w.getCallNum .active) (w.getCallNum .waiting)
        w.getCarrierCallList r

/-! ## Specification -/

/-- An `AnswerCall` to the call. -/
def IsAnswerTo (callId : ℤ) : CallCommand → Bool
  | .answerCall id _ => id = callId
  | .rejectCall _ | .hangUpCall _ | .holdCall _ | .unHoldCall _ => false

/-- A `HoldCall`. -/
def IsHold : CallCommand → Bool
  | .holdCall _ => true
  | .answerCall _ _ | .rejectCall _ | .hangUpCall _ | .unHoldCall _ => false

/-- A `HoldCall` or a `HangUpCall` to the call. -/
def ClearsCall (callId : ℤ) : CallCommand → Bool
  | .holdCall id | .hangUpCall id => id = callId
  | .answerCall _ _ | .rejectCall _ | .unHoldCall _ => false

/-- What one run may send: one answer to the incoming call at most and no other command to it,
    one `HoldCall` at most, and to each call one `HoldCall` or `HangUpCall` at most. -/
structure SendsOnce (incomingId : ℤ) (commands : List CallCommand) : Prop where
  answer : commands.countP (IsAnswerTo incomingId) ≤ 1
  spared : commands.countP (ClearsCall incomingId) = 0
  hold : commands.countP IsHold ≤ 1
  once : ∀ callId, commands.countP (ClearsCall callId) ≤ 1

/-- The two branches of `HandleCallWaitingNumTwo` that do not go on to
    `HandleCallWaitingNumOne`: more than one call is waiting or there are four
    calls, and there are not three. -/
def ManyWaiting : Prop :=
  (1 < w.getCallNum .waiting ∨ w.getCurrentCallNum = 4) ∧ w.getCurrentCallNum ≠ 3

instance : Decidable (ManyWaiting w) := inferInstanceAs (Decidable (_ ∧ _))

/-- The turn of the call hangs up the held call. -/
def HangsUpHeld (call : LiveCall) : Prop :=
  (w.getOneCallObjectByState .hold).isSome ∧ ¬ IsLeftAside w (w.getCallNum .active) call ∧
    (ManyWaiting w ∨ (0 < w.getCallNum .active ∧ ¬ IsOutgoing call))

instance (call : LiveCall) : Decidable (HangsUpHeld w call) := inferInstanceAs (Decidable (_ ∧ _))

/-- The turn of the call answers the incoming call, whatever its auto-answer state. -/
def AnswersAtOnce (call : LiveCall) : Prop :=
  IsLeftAside w (w.getCallNum .active) call ∧ call.slotId ≠ slotId

instance (call : LiveCall) : Decidable (AnswersAtOnce w slotId call) :=
  inferInstanceAs (Decidable (_ ∧ _))

/-- The turn of the call answers the incoming call if its auto-answer state is set. -/
def AnswersIfAuto (call : LiveCall) : Prop :=
  ¬ IsLeftAside w (w.getCallNum .active) call ∧ ¬ ManyWaiting w ∧
    if (w.getOneCallObjectByState .hold).isSome then
      0 < w.getCallNum .waiting ∧ w.getCallNum .active = 0 ∧ w.getCallNum .alerting = 0 ∧
        w.getCallNum .dialing = 0
    else
      (w.getCallNum .waiting = 0 ∨ w.getCurrentCallNum = 2) ∧
        (call.callState = .incoming ∨ call.callState = .waiting)

instance (call : LiveCall) : Decidable (AnswersIfAuto w call) :=
  inferInstanceAs (Decidable (_ ∧ _))

/-- The turns of two calls, the first before the second, conflict: both hang up the
    held call, or the second answers at once after the first has answered. -/
def Conflict (first second : LiveCall) : Prop :=
  (HangsUpHeld w first ∧ HangsUpHeld w second) ∨
    (AnswersAtOnce w slotId second ∧
      (AnswersAtOnce w slotId first ∨
        (incomingCall.autoAnswerState = true ∧ AnswersIfAuto w first)))

/-- The carrier calls other than the incoming call, in the order of their turns. -/
def otherCalls : List LiveCall :=
  w.carrierCalls.filter fun call => call.callId ≠ incomingCall.callId

/-- All carrier calls are on the slot, or no two turns conflict. -/
def NoConflict : Prop :=
  OnOneSlot w slotId ∨
    (otherCalls w incomingCall).Pairwise fun first second =>
      ¬ Conflict w incomingCall slotId first second

/-! ## What one turn does -/

/-- What a turn sends to its own call, with the conference flag before and after it. -/
inductive Own (call : LiveCall) : Bool → List CallCommand → Bool → Prop
  | nothing (flag : Bool) : Own call flag [] flag
  | hangUp (flag : Bool) : call.callRunningState ≠ .hold →
      Own call flag [.hangUpCall call.callId] flag
  | hold : call.callRunningState ≠ .hold → Own call false [.holdCall call.callId] true

/-- What a turn sends to the incoming call: an answer iff `answers`. -/
inductive Answer (incomingCall : LiveCall) (answers : Prop) : List CallCommand → Prop
  | sent (videoState : ℤ) : answers →
      Answer incomingCall answers [.answerCall incomingCall.callId videoState]
  | none : ¬ answers → Answer incomingCall answers []

/-- A turn hangs up `held`, then sends at most one command to its own call, and
    answers the incoming call iff `answers`. -/
structure Effect (incomingCall call : LiveCall) (held : Option LiveCall) (answers : Prop)
    (r r' : AnswerRun) : Prop where
  commands : ∃ own answer, Own call r.flagForConference own r'.flagForConference ∧
    Answer incomingCall answers answer ∧
    r'.commands = r.commands ++ (held.toList.map (.hangUpCall ·.callId) ++ (own ++ answer))
  auto : r'.autoAnswerState = true ↔ r.autoAnswerState = true ∧ ¬ answers

namespace Effect

variable {w incomingCall slotId} {call : LiveCall} {held : Option LiveCall} {answers : Prop}
  {r r' : AnswerRun}

theorem nothing (h : ¬ answers) : Effect incomingCall call none answers r r :=
  ⟨⟨[], [], .nothing _, .none h, by simp⟩, by simp [h]⟩

theorem hangUp (hrun : call.callRunningState ≠ .hold) (h : ¬ answers) :
    Effect incomingCall call none answers r (r.hangUpCall call) :=
  ⟨⟨_, [], .hangUp _ hrun, .none h, by simp [AnswerRun.hangUpCall]⟩,
    by simp [AnswerRun.hangUpCall, h]⟩

/-- A call may be held if it is active and none has been held. -/
theorem hold (hmay : MayHold call r) (h : ¬ answers) :
    Effect incomingCall call none answers r (r.holdCall call) := by
  have hrun : call.callRunningState ≠ .hold := by
    rw [hmay.1]
    exact fun h => nomatch h
  refine ⟨⟨[.holdCall call.callId], [], ?_, .none h, by simp [AnswerRun.holdCall]⟩,
    by simp [AnswerRun.holdCall, h]⟩
  rw [hmay.2]
  exact .hold hrun

theorem answer (videoState : ℤ) (h : answers) :
    Effect incomingCall call none answers r (r.answerCall incomingCall videoState) :=
  ⟨⟨[], _, .nothing _, .sent videoState h, by simp [AnswerRun.answerCall]⟩,
    by simp [AnswerRun.answerCall, h]⟩

/-- The held call is hung up before the rest of the turn. -/
theorem after_hangUp {holdCall : LiveCall} (flagForDsda : Bool)
    (h : Effect incomingCall call none answers
      { r.hangUpCall holdCall with flagForDsda := flagForDsda } r') :
    Effect incomingCall call (some holdCall) answers r r' := by
  obtain ⟨own, answer, hown, hanswer, hcommands⟩ := h.commands
  refine ⟨⟨own, answer, hown, hanswer, ?_⟩, h.auto⟩
  rw [hcommands]
  simp [AnswerRun.hangUpCall]

/-- The static flag is not part of the effect. -/
theorem setDsda (flagForDsda : Bool) (h : Effect incomingCall call held answers r r') :
    Effect incomingCall call held answers r { r' with flagForDsda := flagForDsda } :=
  ⟨h.commands, h.auto⟩

theorem congr {answers' : Prop} (h : Effect incomingCall call held answers r r')
    (hiff : answers ↔ answers') : Effect incomingCall call held answers' r r' := by
  rwa [← propext hiff]

end Effect

variable {w incomingCall slotId} {call : LiveCall} {r : AnswerRun}

theorem IsOutgoing.not_hold (h : IsOutgoing call) : call.callRunningState ≠ .hold := by
  intro hrun
  have hstate := call.inStep.hold hrun
  rcases h with h | h <;> exact nomatch h.symm.trans hstate

theorem IsOutgoing.not_mayHold (h : IsOutgoing call) : ¬ MayHold call r := by
  intro hmay
  have hstate := call.inStep.active hmay.1
  rcases h with h | h <;> exact nomatch h.symm.trans hstate

theorem MayHold.not_hold (h : MayHold call r) : call.callRunningState ≠ .hold := by
  rw [h.1]
  exact fun h => nomatch h

/-- A carrier call counts. -/
theorem getCallNum_pos {callState : TelCallState} (hmem : call ∈ w.carrierCalls)
    (hstate : call.callState = callState) : 0 < w.getCallNum callState := by
  obtain ⟨hentry, hcarrier⟩ := mem_carrierCalls.mp hmem
  refine Nat.pos_of_ne_zero fun hzero => ?_
  exact ne_of_getCallNum_eq_zero hzero hentry hcarrier.ne_voip hstate

theorem IsOutgoing.getCallNum (hmem : call ∈ w.carrierCalls) (h : IsOutgoing call) :
    ¬ (w.getCallNum .alerting = 0 ∧ w.getCallNum .dialing = 0) := by
  rintro ⟨halerting, hdialing⟩
  rcases h with h | h
  · exact absurd (getCallNum_pos hmem h) (by omega)
  · exact absurd (getCallNum_pos hmem h) (by omega)

theorem MayHold.getCallNum (hmem : call ∈ w.carrierCalls) (h : MayHold call r) :
    0 < w.getCallNum .active :=
  getCallNum_pos hmem (call.inStep.active h.1)

/-- `HandleCallWaitingNumZero` beside a held call. -/
theorem handleCallWaitingNumZero_hold {holdCall : LiveCall}
    (hhold : w.getOneCallObjectByState .hold = some holdCall) :
    Effect incomingCall call
      (if 0 < w.getCallNum .active ∧ ¬ IsOutgoing call then some holdCall else none) False r
      (handleCallWaitingNumZero w incomingCall (w.getCallNum .active) call r) := by
  unfold handleCallWaitingNumZero
  rw [hhold]
  dsimp only
  by_cases hout : IsOutgoing call
  · rw [if_pos hout, if_neg hout.not_mayHold, if_neg fun h => h.2 hout]
    exact .hangUp hout.not_hold id
  · rw [if_neg hout]
    by_cases hactive : 0 < w.getCallNum .active
    · rw [if_pos hactive, if_pos ⟨hactive, hout⟩]
      refine .after_hangUp r.flagForDsda ?_
      split_ifs with hmay
      · exact .hold hmay id
      · exact .nothing id
    · rw [if_neg hactive, if_neg fun h => hactive h.1]
      split_ifs with hmay
      · exact .hold hmay id
      · exact .nothing id

/-- `HandleCallWaitingNumZero` without a held call. -/
theorem handleCallWaitingNumZero_none (activeCallNum : ℕ)
    (hhold : w.getOneCallObjectByState .hold = none) :
    Effect incomingCall call none
      (r.autoAnswerState = true ∧ (call.callState = .incoming ∨ call.callState = .waiting)) r
      (handleCallWaitingNumZero w incomingCall activeCallNum call r) := by
  unfold handleCallWaitingNumZero
  rw [hhold]
  dsimp only
  by_cases hout : IsOutgoing call
  · rw [if_pos hout]
    refine .hangUp hout.not_hold fun h => ?_
    rcases hout with hstate | hstate <;> rw [hstate] at h <;> simp at h
  · rw [if_neg hout]
    by_cases hmay : MayHold call r
    · have hno : ¬ (r.autoAnswerState = true ∧
          (call.callState = .incoming ∨ call.callState = .waiting)) := by
        rw [call.inStep.active hmay.1]
        simp
      rw [if_pos hmay]
      split_ifs
      · exact .hangUp hmay.not_hold hno
      · exact .hold hmay hno
    · rw [if_neg hmay]
      split_ifs with hanswer
      · exact .answer _ hanswer
      · exact .nothing hanswer

/-- `HandleCallWaitingNumOneNext`. -/
theorem handleCallWaitingNumOneNext_effect (holdCall : LiveCall) (hmem : call ∈ w.carrierCalls) :
    Effect incomingCall call
      (if 0 < w.getCallNum .active ∧ ¬ IsOutgoing call then some holdCall else none)
      (r.autoAnswerState = true ∧ w.getCallNum .active = 0 ∧ w.getCallNum .alerting = 0 ∧
        w.getCallNum .dialing = 0) r
      (handleCallWaitingNumOneNext w incomingCall slotId call holdCall r) := by
  unfold handleCallWaitingNumOneNext
  dsimp only
  by_cases hout : IsOutgoing call
  · have hcount := hout.getCallNum hmem
    rw [if_pos hout, if_neg hout.not_mayHold, if_neg fun h => h.2 hout,
      if_neg fun h => hcount ⟨h.2.2.1, h.2.2.2⟩]
    exact .hangUp hout.not_hold fun h => hcount ⟨h.2.2.1, h.2.2.2⟩
  · rw [if_neg hout]
    by_cases hactive : 0 < w.getCallNum .active
    · have hzero : w.getCallNum .active ≠ 0 := by omega
      rw [if_pos hactive, if_pos ⟨hactive, hout⟩]
      refine .after_hangUp true ?_
      have hsame : MayHold call { r.hangUpCall holdCall with flagForDsda := true } ↔
          MayHold call r := Iff.rfl
      by_cases hmay : MayHold call r
      · rw [if_pos (hsame.mpr hmay)]
        split_ifs
        · exact .hangUp hmay.not_hold fun h => hzero h.2.1
        · exact .hold hmay fun h => hzero h.2.1
      · rw [if_neg fun h => hmay (hsame.mp h), if_neg fun h => hzero h.1]
        exact .nothing fun h => hzero h.2.1
    · have hmay : ¬ MayHold call r := fun h => hactive (h.getCallNum hmem)
      rw [if_neg hactive, if_neg fun h => hactive h.1, if_neg hmay]
      split_ifs with hanswer
      · exact .answer _ ⟨hanswer.2.1, hanswer.1, hanswer.2.2⟩
      · exact .nothing fun h => hanswer ⟨h.2.1, h.1, h.2.2⟩

/-- `HandleCallWaitingNumOne` without a held call. -/
theorem handleCallWaitingNumOne_none (hhold : w.getOneCallObjectByState .hold = none) :
    Effect incomingCall call none
      (w.getCurrentCallNum = 2 ∧ r.autoAnswerState = true ∧
        (call.callState = .incoming ∨ call.callState = .waiting)) r
      (handleCallWaitingNumOne w incomingCall slotId (w.getCallNum .active) call r) := by
  unfold handleCallWaitingNumOne
  rw [hhold]
  dsimp only
  by_cases htwo : w.getCurrentCallNum = 2
  · rw [if_pos htwo]
    exact (handleCallWaitingNumZero_none _ hhold).congr (and_iff_right htwo).symm
  · rw [if_neg htwo]
    split_ifs with hmay
    · exact .setDsda false (.hold hmay fun h => htwo h.1)
    · exact .hangUp hmay.not_hold fun h => htwo h.1
    · exact .hold hmay fun h => htwo h.1
    · exact .nothing fun h => htwo h.1

/-- `HandleCallWaitingNumTwo`, if it does not go on to `HandleCallWaitingNumOne`. -/
theorem handleCallWaitingNumTwo_effect (hthree : w.getCurrentCallNum ≠ 3) (activeCallNum : ℕ) :
    Effect incomingCall call (w.getOneCallObjectByState .hold) False r
      (handleCallWaitingNumTwo w incomingCall slotId activeCallNum call r) := by
  unfold handleCallWaitingNumTwo
  rw [if_neg hthree]
  cases w.getOneCallObjectByState .hold with
  | none =>
    dsimp only
    split_ifs with hmay
    · exact .hold hmay id
    · exact .hangUp hmay.not_hold id
    · exact .nothing id
  | some holdCall =>
    dsimp only
    refine .after_hangUp r.flagForDsda ?_
    split_ifs with hmay
    · exact .hold hmay id
    · exact .hangUp hmay.not_hold id
    · exact .nothing id

/-- Which branch function takes the turn. -/
theorem turn_of_not_many {videoState : ℤ}
    (haside : ¬ IsLeftAside w (w.getCallNum .active) call) (hmany : ¬ ManyWaiting w) :
    turn w incomingCall slotId videoState (w.getCallNum .active) (w.getCallNum .waiting) call r =
      if 0 < w.getCallNum .waiting then
        handleCallWaitingNumOne w incomingCall slotId (w.getCallNum .active) call r
      else handleCallWaitingNumZero w incomingCall (w.getCallNum .active) call r := by
  unfold ManyWaiting at hmany
  rw [turn, if_neg haside]
  by_cases hwaiting : 1 < w.getCallNum .waiting ∨ w.getCurrentCallNum = 4
  · have hthree : w.getCurrentCallNum = 3 := by
      by_contra hne
      exact hmany ⟨hwaiting, hne⟩
    have hpos : 0 < w.getCallNum .waiting := by omega
    rw [if_pos hwaiting, if_pos hpos, handleCallWaitingNumTwo, if_pos hthree]
  · rw [if_neg hwaiting]
    have hone : w.getCallNum .waiting = 1 ↔ 0 < w.getCallNum .waiting := by omega
    rw [if_congr hone rfl rfl]

/-- One turn of a carrier call. -/
theorem turn_effect (incomingCall : LiveCall) (slotId videoState : ℤ) (r : AnswerRun)
    (hmem : call ∈ w.carrierCalls) :
    Effect incomingCall call
      (if HangsUpHeld w call then w.getOneCallObjectByState .hold else none)
      (AnswersAtOnce w slotId call ∨ (r.autoAnswerState = true ∧ AnswersIfAuto w call)) r
      (turn w incomingCall slotId videoState (w.getCallNum .active) (w.getCallNum .waiting) call
        r) := by
  by_cases haside : IsLeftAside w (w.getCallNum .active) call
  · -- the turn of a held or disconnecting call on a quiet line
    rw [turn, if_pos haside, if_neg fun h : HangsUpHeld w call => h.2.1 haside]
    have hauto : ¬ AnswersIfAuto w call := fun h => h.1 haside
    split_ifs with hslot
    · exact .answer _ (.inl ⟨haside, hslot⟩)
    · exact .nothing fun h => h.elim (fun honce => hslot honce.2) fun h => hauto h.2
  · have honce : ¬ AnswersAtOnce w slotId call := fun h => haside h.1
    by_cases hmany : ManyWaiting w
    · have hauto : ¬ AnswersIfAuto w call := fun h => h.2.1 hmany
      have hheld : (if HangsUpHeld w call then w.getOneCallObjectByState .hold else none) =
          w.getOneCallObjectByState .hold := by
        cases hhold : w.getOneCallObjectByState .hold with
        | none => exact ite_self _
        | some holdCall =>
          rw [if_pos (show HangsUpHeld w call from ⟨by rw [hhold]; rfl, haside, .inl hmany⟩)]
      rw [turn, if_neg haside, if_pos hmany.1, hheld]
      exact (handleCallWaitingNumTwo_effect hmany.2 _).congr (by simp [honce, hauto])
    · rw [turn_of_not_many haside hmany]
      have hanswers : AnswersAtOnce w slotId call ∨
            (r.autoAnswerState = true ∧ AnswersIfAuto w call) ↔
          r.autoAnswerState = true ∧ AnswersIfAuto w call := or_iff_right honce
      have hauto : AnswersIfAuto w call ↔
          if (w.getOneCallObjectByState .hold).isSome then
            0 < w.getCallNum .waiting ∧ w.getCallNum .active = 0 ∧ w.getCallNum .alerting = 0 ∧
              w.getCallNum .dialing = 0
          else
            (w.getCallNum .waiting = 0 ∨ w.getCurrentCallNum = 2) ∧
              (call.callState = .incoming ∨ call.callState = .waiting) := by
        unfold AnswersIfAuto
        rw [and_iff_right haside, and_iff_right hmany]
      rw [hanswers, hauto]
      cases hhold : w.getOneCallObjectByState .hold with
      | none =>
        rw [Option.isSome_none, if_neg Bool.false_ne_true, ite_self]
        split_ifs with hwaiting
        · refine (handleCallWaitingNumOne_none hhold).congr ?_
          have hpos : w.getCallNum .waiting ≠ 0 := by omega
          rw [or_iff_right hpos, and_left_comm]
        · refine (handleCallWaitingNumZero_none _ hhold).congr ?_
          have hzero : w.getCallNum .waiting = 0 := by omega
          rw [and_iff_right (Or.inl hzero)]
      | some holdCall =>
        have hheld : HangsUpHeld w call ↔ 0 < w.getCallNum .active ∧ ¬ IsOutgoing call := by
          unfold HangsUpHeld
          rw [hhold, or_iff_right hmany]
          exact ⟨fun h => h.2.2, fun h => ⟨rfl, haside, h⟩⟩
        rw [Option.isSome_some, if_pos rfl, if_congr hheld rfl rfl]
        by_cases hwaiting : 0 < w.getCallNum .waiting
        · have hone : handleCallWaitingNumOne w incomingCall slotId (w.getCallNum .active) call r =
              handleCallWaitingNumOneNext w incomingCall slotId call holdCall r := by
            rw [handleCallWaitingNumOne, hhold]
          rw [if_pos hwaiting, hone]
          refine (handleCallWaitingNumOneNext_effect holdCall hmem).congr ?_
          rw [and_iff_right hwaiting]
        · rw [if_neg hwaiting]
          refine (handleCallWaitingNumZero_hold hhold).congr ?_
          exact iff_of_false id fun h => hwaiting h.2.1

/-! ## Counting along the list -/

/-- The loop goes through the calls of the list other than the incoming call. -/
theorem answerLoop_eq (videoState : ℤ) (activeCallNum waitingCallNum : ℕ) {l : List LiveCall}
    (hl : ∀ call ∈ l, call ∈ w.calls.entries) (r : AnswerRun) :
    answerLoop w incomingCall slotId videoState activeCallNum waitingCallNum (l.map (·.callId)) r =
      (l.filter fun call => call.callId ≠ incomingCall.callId).foldl
        (fun r call =>
          turn w incomingCall slotId videoState activeCallNum waitingCallNum call r) r := by
  induction l generalizing r with
  | nil => rfl
  | cons call rest ih =>
    have hrest := fun r => ih (fun c hc => hl c (List.mem_cons_of_mem _ hc)) r
    rw [List.map_cons, answerLoop, getOneCallObject_of_mem (hl call List.mem_cons_self)]
    dsimp only
    by_cases hne : call.callId ≠ incomingCall.callId
    · rw [if_pos hne, hrest, List.filter_cons_of_pos (by simpa using hne), List.foldl_cons]
    · rw [if_neg hne, hrest, List.filter_cons_of_neg (by simpa using hne)]

section Scan

variable {α : Type*} (p q : α → Prop) [DecidablePred p] [DecidablePred q]

/-- Along a list, how often a step takes place that an element takes by itself
    (`p`) or takes if it has not taken place yet (`q`). -/
def stepsTaken : Bool → List α → ℕ
  | _, [] => 0
  | pending, a :: rest =>
    if p a ∨ (pending = true ∧ q a) then stepsTaken false rest + 1 else stepsTaken pending rest

variable {p q}

/-- Once the step is no longer pending, only the elements that take it by themselves count. -/
theorem stepsTaken_false (l : List α) : stepsTaken p q false l = l.countP (p ·) := by
  induction l with
  | nil => rfl
  | cons a rest ih =>
    rw [stepsTaken, ih, List.countP_cons]
    by_cases ha : p a
    · simp [ha]
    · simp [ha]

/-- The step is taken at most once iff no element takes it by itself after one
    that has taken it. -/
theorem stepsTaken_le_one (pending : Bool) (l : List α) :
    stepsTaken p q pending l ≤ 1 ↔
      l.Pairwise fun a b => ¬ (p b ∧ (p a ∨ (pending = true ∧ q a))) := by
  induction l with
  | nil => simp [stepsTaken]
  | cons a rest ih =>
    rw [stepsTaken, List.pairwise_cons]
    split_ifs with ha
    · rw [stepsTaken_false]
      have hnone : rest.countP (p ·) + 1 ≤ 1 ↔ ∀ b ∈ rest, ¬ p b := by
        have hzero : rest.countP (p ·) + 1 ≤ 1 ↔ rest.countP (p ·) = 0 := by omega
        rw [hzero, List.countP_eq_zero]
        simp
      rw [hnone]
      constructor
      · intro h
        refine ⟨fun b hb hpair => h b hb hpair.1, ?_⟩
        exact List.pairwise_of_forall_mem_list fun x _ y hy hpair => h y hy hpair.1
      · exact fun h b hb hpb => h.1 b hb ⟨hpb, ha⟩
    · rw [ih, and_iff_right fun b _ hpair => ha hpair.2]

theorem countP_le_one (l : List α) :
    l.countP (p ·) ≤ 1 ↔ l.Pairwise fun a b => ¬ (p a ∧ p b) := by
  rw [← stepsTaken_false (q := p), stepsTaken_le_one]
  simp [and_comm]

end Scan

/-! ### The commands of one turn -/

theorem Own.countP_answer {flag flag' : Bool} {own : List CallCommand} (h : Own call flag own flag')
    (callId : ℤ) : own.countP (IsAnswerTo callId) = 0 := by
  cases h <;> rfl

theorem Own.countP_hold {flag flag' : Bool} {own : List CallCommand} (h : Own call flag own flag') :
    own.countP IsHold + flag.toNat = flag'.toNat := by
  cases h with
  | nothing => exact Nat.zero_add _
  | hangUp => exact Nat.zero_add _
  | hold => rfl

theorem Own.countP_clears {flag flag' : Bool} {own : List CallCommand} (h : Own call flag own flag')
    (callId : ℤ) : own.countP (ClearsCall callId) ≤
      if call.callId = callId ∧ call.callRunningState ≠ .hold then 1 else 0 := by
  cases h with
  | nothing => exact Nat.zero_le _
  | hangUp _ hrun => by_cases hid : call.callId = callId <;> simp [ClearsCall, hid, hrun]
  | hold hrun => by_cases hid : call.callId = callId <;> simp [ClearsCall, hid, hrun]

theorem Answer.countP_answer {answers : Prop} [Decidable answers] {answer : List CallCommand}
    (h : Answer incomingCall answers answer) :
    answer.countP (IsAnswerTo incomingCall.callId) = if answers then 1 else 0 := by
  cases h with
  | sent videoState hanswers =>
    rw [if_pos hanswers]
    simp [IsAnswerTo]
  | none hanswers =>
    rw [if_neg hanswers]
    rfl

theorem countP_clears_hangUp (held : Option LiveCall) (callId : ℤ) :
    (held.toList.map (CallCommand.hangUpCall ·.callId)).countP (ClearsCall callId) =
      if held.map (·.callId) = some callId then 1 else 0 := by
  cases held with
  | none => rfl
  | some holdCall => by_cases hid : holdCall.callId = callId <;> simp [ClearsCall, hid]

namespace Effect

variable {held : Option LiveCall} {answers : Prop} {r' : AnswerRun}

theorem countP_answer [Decidable answers] (h : Effect incomingCall call held answers r r') :
    r'.commands.countP (IsAnswerTo incomingCall.callId) =
      r.commands.countP (IsAnswerTo incomingCall.callId) + if answers then 1 else 0 := by
  obtain ⟨own, answer, hown, hanswer, hcommands⟩ := h.commands
  have hheld : (held.toList.map (CallCommand.hangUpCall ·.callId)).countP
      (IsAnswerTo incomingCall.callId) = 0 := by
    cases held <;> rfl
  rw [hcommands, List.countP_append, List.countP_append, List.countP_append, hheld,
    hown.countP_answer, hanswer.countP_answer]
  omega

/-- A `HoldCall` is sent exactly when the conference flag is raised. -/
theorem countP_hold (h : Effect incomingCall call held answers r r') :
    r'.commands.countP IsHold + r.flagForConference.toNat =
      r.commands.countP IsHold + r'.flagForConference.toNat := by
  obtain ⟨own, answer, hown, hanswer, hcommands⟩ := h.commands
  have hheld : (held.toList.map (CallCommand.hangUpCall ·.callId)).countP IsHold = 0 := by
    cases held <;> rfl
  have hanswerCount : answer.countP IsHold = 0 := by
    cases hanswer <;> rfl
  have hownCount := hown.countP_hold
  rw [hcommands, List.countP_append, List.countP_append, List.countP_append, hheld, hanswerCount]
  omega

/-- A call is cleared by its own turn, once at most and not if it is held, and by
    each turn that hangs it up as the held call. -/
theorem countP_clears (h : Effect incomingCall call held answers r r') (callId : ℤ) :
    ∃ own, own ≤ (if call.callId = callId ∧ call.callRunningState ≠ .hold then 1 else 0) ∧
      r'.commands.countP (ClearsCall callId) = r.commands.countP (ClearsCall callId) +
        (if held.map (·.callId) = some callId then 1 else 0) + own := by
  obtain ⟨own, answer, hown, hanswer, hcommands⟩ := h.commands
  refine ⟨own.countP (ClearsCall callId), hown.countP_clears callId, ?_⟩
  have hanswerCount : answer.countP (ClearsCall callId) = 0 := by
    cases hanswer <;> rfl
  rw [hcommands, List.countP_append, List.countP_append, List.countP_append,
    countP_clears_hangUp, hanswerCount]
  omega

end Effect

/-! ### The commands of a run -/

section Turns

variable (w incomingCall slotId)

/-- The turns of the calls `l`, one after the other. -/
def runTurns (videoState : ℤ) (l : List LiveCall) (r : AnswerRun) : AnswerRun :=
  l.foldl (fun r call =>
    turn w incomingCall slotId videoState (w.getCallNum .active) (w.getCallNum .waiting) call r) r

end Turns

variable {l : List LiveCall}

theorem runTurns_answer (incomingCall : LiveCall) (slotId videoState : ℤ)
    (hl : ∀ call ∈ l, call ∈ w.carrierCalls) (r : AnswerRun) :
    (runTurns w incomingCall slotId videoState l r).commands.countP
        (IsAnswerTo incomingCall.callId) =
      r.commands.countP (IsAnswerTo incomingCall.callId) +
        stepsTaken (AnswersAtOnce w slotId) (AnswersIfAuto w) r.autoAnswerState l := by
  induction l generalizing r with
  | nil => rfl
  | cons call rest ih =>
    have heffect := turn_effect incomingCall slotId videoState r (hl call List.mem_cons_self)
    have hrest := fun r => ih (fun c hc => hl c (List.mem_cons_of_mem _ hc)) r
    rw [runTurns, List.foldl_cons, ← runTurns, hrest, heffect.countP_answer, stepsTaken]
    have hauto := heffect.auto
    split_ifs with hanswers
    · have hfalse : (turn w incomingCall slotId videoState (w.getCallNum .active)
          (w.getCallNum .waiting) call r).autoAnswerState = false :=
        Bool.eq_false_iff.mpr fun h => (hauto.mp h).2 hanswers
      rw [hfalse]
      omega
    · have hsame : (turn w incomingCall slotId videoState (w.getCallNum .active)
          (w.getCallNum .waiting) call r).autoAnswerState = r.autoAnswerState :=
        Bool.eq_iff_iff.mpr (hauto.trans (and_iff_left hanswers))
      rw [hsame, Nat.add_zero]

theorem runTurns_hold (incomingCall : LiveCall) (slotId videoState : ℤ)
    (hl : ∀ call ∈ l, call ∈ w.carrierCalls) (r : AnswerRun) :
    (runTurns w incomingCall slotId videoState l r).commands.countP IsHold +
        r.flagForConference.toNat =
      r.commands.countP IsHold +
        (runTurns w incomingCall slotId videoState l r).flagForConference.toNat := by
  induction l generalizing r with
  | nil => rfl
  | cons call rest ih =>
    have hstep :=
      (turn_effect incomingCall slotId videoState r (hl call List.mem_cons_self)).countP_hold
    have hrest := ih (fun c hc => hl c (List.mem_cons_of_mem _ hc))
      (turn w incomingCall slotId videoState (w.getCallNum .active) (w.getCallNum .waiting) call r)
    rw [runTurns, List.foldl_cons, ← runTurns]
    omega

/-- The call with the id is the one that `GetOneCallObject(HOLD)` returns. -/
def IsTheHeldCall (w : LiveWorld) (callId : ℤ) : Prop :=
  (w.getOneCallObjectByState .hold).map (·.callId) = some callId

instance (w : LiveWorld) (callId : ℤ) : Decidable (IsTheHeldCall w callId) :=
  inferInstanceAs (Decidable (_ = _))

theorem runTurns_clears (incomingCall : LiveCall) (slotId videoState : ℤ)
    (hl : ∀ call ∈ l, call ∈ w.carrierCalls) (callId : ℤ) (r : AnswerRun) :
    ∃ own, own ≤ l.countP (fun call => call.callId = callId ∧ call.callRunningState ≠ .hold) ∧
      (runTurns w incomingCall slotId videoState l r).commands.countP (ClearsCall callId) =
        r.commands.countP (ClearsCall callId) +
          (if IsTheHeldCall w callId then l.countP (HangsUpHeld w ·) else 0) + own := by
  induction l generalizing r with
  | nil => exact ⟨0, Nat.zero_le _, by simp [runTurns]⟩
  | cons call rest ih =>
    obtain ⟨own, hown, hstep⟩ := (turn_effect incomingCall slotId videoState r
      (hl call List.mem_cons_self)).countP_clears callId
    obtain ⟨owns, howns, hrest⟩ := ih (fun c hc => hl c (List.mem_cons_of_mem _ hc))
      (turn w incomingCall slotId videoState (w.getCallNum .active) (w.getCallNum .waiting) call r)
    refine ⟨own + owns, ?_, ?_⟩
    · rw [List.countP_cons]
      simp only [decide_eq_true_eq]
      omega
    · rw [runTurns, List.foldl_cons, ← runTurns, hrest, hstep, List.countP_cons]
      simp only [decide_eq_true_eq]
      have hheld : (if (if HangsUpHeld w call then w.getOneCallObjectByState .hold
            else none).map (·.callId) = some callId then 1 else 0) =
          if IsTheHeldCall w callId ∧ HangsUpHeld w call then 1 else 0 := by
        by_cases hhangs : HangsUpHeld w call
        · rw [if_pos hhangs]
          exact if_congr (and_iff_left hhangs).symm rfl rfl
        · rw [if_neg hhangs, Option.map_none, if_neg (fun h => nomatch h),
            if_neg fun h => hhangs h.2]
      rw [hheld]
      by_cases hthe : IsTheHeldCall w callId
      · simp only [hthe, true_and, if_true]
        omega
      · simp only [hthe, false_and, if_false]
        omega

/-! ## The whole run -/

theorem mem_otherCalls {call : LiveCall} :
    call ∈ otherCalls w incomingCall ↔
      call ∈ w.carrierCalls ∧ call.callId ≠ incomingCall.callId := by
  simp [otherCalls]

/-- The held call is a stored call in the running state of that name. -/
theorem isTheHeldCall_spec {callId : ℤ} (h : IsTheHeldCall w callId) :
    ∃ holdCall ∈ w.calls.entries, holdCall.callId = callId ∧ holdCall.callRunningState = .hold := by
  obtain ⟨holdCall, hhold, hid⟩ := Option.map_eq_some_iff.mp h
  refine ⟨holdCall, List.mem_reverse.mp (List.mem_of_find?_eq_some hhold), hid, ?_⟩
  simpa using List.find?_some hhold

/-- The calls of an id are one call, so that they have one turn of their own, and
    none if it is the held call. -/
theorem countP_otherCalls_le (w : LiveWorld) (incomingCall : LiveCall) (callId : ℤ) :
    (otherCalls w incomingCall).countP
        (fun call => call.callId = callId ∧ call.callRunningState ≠ .hold) ≤
      if IsTheHeldCall w callId ∨ callId = incomingCall.callId then 0 else 1 := by
  split_ifs with h
  · refine Nat.le_zero.mpr (List.countP_eq_zero.mpr fun call hcall hcount => ?_)
    obtain ⟨hid, hrun⟩ : call.callId = callId ∧ call.callRunningState ≠ .hold := by
      simpa using hcount
    obtain ⟨hmem, hne⟩ := mem_otherCalls.mp hcall
    rcases h with h | h
    · obtain ⟨holdCall, hentry, hheld, hhold⟩ := isTheHeldCall_spec h
      have heq : call = holdCall :=
        OrderedMap.eq_of_key_eq (mem_carrierCalls.mp hmem).1 hentry (hid.trans hheld.symm)
      rw [heq] at hrun
      exact hrun hhold
    · exact hne (hid.trans h)
  · rw [countP_le_one]
    have hnodup : ((otherCalls w incomingCall).map (·.callId)).Nodup :=
      nodup_carrierCalls.sublist (List.filter_sublist.map _)
    refine (List.pairwise_map.mp hnodup).imp fun hne hboth => ?_
    exact hne (hboth.1.1.trans hboth.2.1.symm)

/-- Turns that send what they may are turns without a conflict. -/
theorem pairwise_not_conflict {l : List LiveCall} :
    (l.Pairwise fun first second => ¬ Conflict w incomingCall slotId first second) ↔
      (l.Pairwise fun first second => ¬ (HangsUpHeld w first ∧ HangsUpHeld w second)) ∧
        l.Pairwise fun first second => ¬ (AnswersAtOnce w slotId second ∧
          (AnswersAtOnce w slotId first ∨
            (incomingCall.autoAnswerState = true ∧ AnswersIfAuto w first))) := by
  rw [← List.pairwise_and_iff]
  unfold Conflict
  simp only [not_or]

/-- Without a held call no turn hangs it up. -/
theorem countP_hangsUpHeld_le_one {l : List LiveCall}
    (h : ∀ callId, IsTheHeldCall w callId → l.countP (HangsUpHeld w ·) ≤ 1) :
    l.countP (HangsUpHeld w ·) ≤ 1 := by
  cases hhold : w.getOneCallObjectByState .hold with
  | none =>
    have hnone : l.countP (HangsUpHeld w ·) = 0 := by
      refine List.countP_eq_zero.mpr fun call _ hcount => ?_
      have hhangs : HangsUpHeld w call := by simpa using hcount
      have hsome := hhangs.1
      rw [hhold] at hsome
      exact nomatch hsome
    omega
  | some holdCall => exact h holdCall.callId (by rw [IsTheHeldCall, hhold]; rfl)

/-- A run of turns from the start sends what it may iff no two turns conflict. -/
theorem runTurns_sendsOnce_iff (videoState : ℤ) (flagForDsda : Bool)
    (hincoming : incomingCall ∈ w.calls.entries)
    (hring : incomingCall.callRunningState = .ringing) :
    SendsOnce incomingCall.callId
        (runTurns w incomingCall slotId videoState (otherCalls w incomingCall)
          ⟨incomingCall.autoAnswerState, false, flagForDsda, []⟩).commands ↔
      (otherCalls w incomingCall).Pairwise fun first second =>
        ¬ Conflict w incomingCall slotId first second := by
  have hl : ∀ call ∈ otherCalls w incomingCall, call ∈ w.carrierCalls :=
    fun call hcall => (mem_otherCalls.mp hcall).1
  have hanswer := runTurns_answer incomingCall slotId videoState hl
    ⟨incomingCall.autoAnswerState, false, flagForDsda, []⟩
  have hhold := runTurns_hold incomingCall slotId videoState hl
    ⟨incomingCall.autoAnswerState, false, flagForDsda, []⟩
  have hclears := fun callId => runTurns_clears incomingCall slotId videoState hl callId
    ⟨incomingCall.autoAnswerState, false, flagForDsda, []⟩
  generalize runTurns w incomingCall slotId videoState (otherCalls w incomingCall)
    ⟨incomingCall.autoAnswerState, false, flagForDsda, []⟩ = r at hanswer hhold hclears ⊢
  simp only [List.countP_nil, Nat.zero_add, Bool.toNat_false, Nat.add_zero] at hanswer hhold hclears
  -- the incoming call is not the held call
  have hspared : ¬ IsTheHeldCall w incomingCall.callId := by
    intro h
    obtain ⟨holdCall, hentry, hid, hrun⟩ := isTheHeldCall_spec h
    obtain rfl := OrderedMap.eq_of_key_eq hentry hincoming hid
    exact nomatch hring.symm.trans hrun
  rw [pairwise_not_conflict, ← countP_le_one, ← stepsTaken_le_one]
  constructor
  · intro h
    refine ⟨countP_hangsUpHeld_le_one fun callId hheld => ?_, hanswer ▸ h.answer⟩
    obtain ⟨own, -, hcount⟩ := hclears callId
    have honce := h.once callId
    rw [hcount, if_pos hheld] at honce
    omega
  · rintro ⟨hheldOnce, hansweredOnce⟩
    refine ⟨hanswer ▸ hansweredOnce, ?_, ?_, fun callId => ?_⟩
    · obtain ⟨own, hown, hcount⟩ := hclears incomingCall.callId
      have hle := countP_otherCalls_le w incomingCall incomingCall.callId
      rw [if_pos (.inr rfl)] at hle
      rw [hcount, if_neg hspared]
      omega
    · rw [hhold]
      exact Bool.toNat_le _
    · obtain ⟨own, hown, hcount⟩ := hclears callId
      have hle := countP_otherCalls_le w incomingCall callId
      rw [hcount]
      split_ifs with hheld
      · rw [if_pos (.inl hheld)] at hle
        omega
      · have hone :
            (if IsTheHeldCall w callId ∨ callId = incomingCall.callId then 0 else 1) ≤ 1 := by
          split_ifs <;> omega
        omega

/-- A single answer is what a run may send. -/
theorem sendsOnce_answer (callId videoState : ℤ) :
    SendsOnce callId [.answerCall callId videoState] := by
  refine ⟨?_, rfl, Nat.zero_le _, fun _ => Nat.zero_le _⟩
  simp [IsAnswerTo]

/-- One run of `HoldOrDisconnectedCall` for a ringing call sends each call what it
    may iff all carrier calls are on one slot or no two turns conflict. -/
theorem holdOrDisconnectedCall_iff (w : LiveWorld) (slotId callId videoState : ℤ)
    (flagForDsda : Bool) (incomingCall : LiveCall)
    (hcall : w.getOneCallObject callId = some incomingCall)
    (hring : incomingCall.callRunningState = .ringing) :
    SendsOnce callId (holdOrDisconnectedCall w slotId callId videoState flagForDsda).commands ↔
      NoConflict w incomingCall slotId := by
  obtain ⟨hincoming, rfl⟩ := getOneCallObject_spec hcall
  rw [holdOrDisconnectedCall, hcall]
  dsimp only
  by_cases hslot : OnOneSlot w slotId
  · rw [if_pos ((isExistCallOtherSlot_iff slotId).mpr hslot)]
    exact iff_of_true (sendsOnce_answer _ _) (.inl hslot)
  · rw [if_neg fun h => hslot ((isExistCallOtherSlot_iff slotId).mp h), getCarrierCallList,
      answerLoop_eq videoState _ _ fun call hmem => (mem_carrierCalls.mp hmem).1]
    refine (runTurns_sendsOnce_iff videoState flagForDsda hincoming hring).trans ?_
    exact (or_iff_right hslot).symm

theorem imsCall_active_inStep (callId slotId : ℤ) :
    (imsCall callId slotId .active .active).InStep :=
  ⟨fun _ => rfl, (fun h => nomatch h)⟩

theorem imsCall_disconnecting_inStep (callId slotId : ℤ) :
    (imsCall callId slotId .disconnecting .ending).InStep :=
  ⟨(fun h => nomatch h), (fun h => nomatch h)⟩

/-- A ringing call on slot 0. -/
def ringingCall : LiveCall := liveCall (imsCall 1 0 .incoming .ringing) (imsCall_ringing_inStep 1 0)

/-- An active call on slot 1. -/
def activeCall : LiveCall := liveCall (imsCall 2 1 .active .active) (imsCall_active_inStep 2 1)

/-- A held call on slot 1. -/
def otherHeldCall : LiveCall := liveCall (imsCall 3 1 .holding .hold) (imsCall_held_inStep 3 1)

/-- A disconnecting call on slot 1. -/
def disconnectingCall : LiveCall :=
  liveCall (imsCall 4 1 .disconnecting .ending) (imsCall_disconnecting_inStep 4 1)

theorem ringing_active_held_nodup :
    ([ringingCall, activeCall, otherHeldCall].map (·.callId)).Nodup := by decide

theorem ringing_held_disconnecting_nodup :
    ([ringingCall, otherHeldCall, disconnectingCall].map (·.callId)).Nodup := by decide

/-- A call rings beside an active and a held call on the other slot. -/
def besideActiveAndHeld : LiveWorld where
  calls := ⟨[ringingCall, activeCall, otherHeldCall], ringing_active_held_nodup⟩
  imsMainCall := -1
  csMainCall := -1
  commands := []

/-- A call rings beside a held and a disconnecting call on the other slot. -/
def besideHeldAndEnding : LiveWorld where
  calls := ⟨[ringingCall, otherHeldCall, disconnectingCall], ringing_held_disconnecting_nodup⟩
  imsMainCall := -1
  csMainCall := -1
  commands := []

/-- The ringing call is answered beside an active and a held call. -/
theorem holdOrDisconnectedCall_besideActiveAndHeld :
    besideActiveAndHeld.getOneCallObject 1 = some ringingCall ∧
      ringingCall.callRunningState = .ringing ∧
      (SendsOnce 1 (holdOrDisconnectedCall besideActiveAndHeld 0 1 0 false).commands ↔
        NoConflict besideActiveAndHeld ringingCall 0) :=
  have hcall : besideActiveAndHeld.getOneCallObject 1 = some ringingCall := rfl
  have hring : ringingCall.callRunningState = .ringing := rfl
  ⟨hcall, hring,
    holdOrDisconnectedCall_iff besideActiveAndHeld 0 1 0 false ringingCall hcall hring⟩

/-- The held call is hung up in its own turn and in that of the active call; beside
    a held and a disconnecting call, the ringing call is answered twice. -/
theorem held_call_hung_up_twice :
    ¬ SendsOnce 1 (holdOrDisconnectedCall besideActiveAndHeld 0 1 0 false).commands ∧
      ¬ SendsOnce 1 (holdOrDisconnectedCall besideHeldAndEnding 0 1 0 false).commands := by
  have hcommands : (holdOrDisconnectedCall besideActiveAndHeld 0 1 0 false).commands =
      [.hangUpCall 3, .holdCall 2, .hangUpCall 3] := by decide
  have hanswers : (holdOrDisconnectedCall besideHeldAndEnding 0 1 0 false).commands =
      [.answerCall 1 0, .answerCall 1 0] := by decide
  refine ⟨fun h => ?_, fun h => ?_⟩
  · rw [hcommands] at h
    exact absurd (h.once 3) (by decide)
  · rw [hanswers] at h
    exact absurd h.answer (by decide)

end CallRequestProcess

end CallManager
