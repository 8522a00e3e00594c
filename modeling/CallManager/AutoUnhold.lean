import CallManager.CallCommands

/-!
# What follows a call that has ended

When a call has ended, the status manager brings another one to the front: it
unholds a held call, or it answers a ringing call that was to be answered
automatically. `HandleHoldCallOrAutoAnswerCall` has a place for each: before the
ended call is deleted, the held call of its own slot is unheld; after that, in DSDA
mode, `AutoHandleForDsda` answers a call and `AutoUnHoldForDsda` unholds a call of
the other slot, and in the other modes `AutoAnswer` answers a call.

Each place has a guard of its own, which counts calls in some of the states. The
first does not count DIALING, the guard of `AutoUnHoldForDsda` does not count
ALERTING, and none asks whether a place before it has sent something.

Results:
* `handleHoldCallOrAutoAnswerCall_iff`: one call at most is brought to the front,
  and only on a quiet line, iff the guards do not overlap and what they do not
  count is not there.
* `voice_answer_then_unhold`: in DSDA mode a ringing voice call is answered and a
  held call is unheld.
-/

namespace CallManager

namespace AutoUnhold

open LiveWorld

/-! ## Model -/

/-- The modes of `GetDsdsMode`. -/
inductive DsdsMode
  | v2 | v3 | v5Dsda | v5Tdm
  deriving DecidableEq, Repr

/-- The build option `NOT_SUPPORT_MULTICALL` and the mode of the device. -/
structure AutoEnv where
  notSupportMulticall : Bool
  dsdsMode : DsdsMode
  deriving DecidableEq, Repr

/-- `DSDS_MODE_V5_DSDA` or `DSDS_MODE_V5_TDM`. -/
def AutoEnv.IsDsda (env : AutoEnv) : Prop := env.dsdsMode = .v5Dsda ∨ env.dsdsMode = .v5Tdm

instance (env : AutoEnv) : Decidable env.IsDsda := inferInstanceAs (Decidable (_ ∨ _))

variable (w : LiveWorld)

/-- `IsCanUnHold` (call_status_manager.cpp:1638-1648). -/
def IsCanUnHold (activeCallNum waitingCallNum size : ℕ) : Prop :=
  w.getCallNum .answered = 0 ∧ w.getCallNum .incoming = 0 ∧ (size = 0 ∨ size = 1) ∧
    activeCallNum = 0 ∧ waitingCallNum = 0 ∧ w.getCallNum .alerting = 0

instance (activeCallNum waitingCallNum size : ℕ) :
    Decidable (IsCanUnHold w activeCallNum waitingCallNum size) :=
  inferInstanceAs (Decidable (_ ∧ _))

/-- A ringing call that is to be answered automatically. -/
def IsToBeAnswered (ringCall : LiveCall) : Prop :=
  ringCall.callRunningState = .ringing ∧ ringCall.autoAnswerState = true

instance (ringCall : LiveCall) : Decidable (IsToBeAnswered ringCall) :=
  inferInstanceAs (Decidable (_ ∧ _))

/-- The guard of `AutoAnswer`. -/
def MayAutoAnswer (activeCallNum waitingCallNum : ℕ) : Prop :=
  activeCallNum = 0 ∧ waitingCallNum = 0 ∧ w.getCallNum .holding = 0 ∧
    w.getCallNum .dialing = 0 ∧ w.getCallNum .alerting = 0

instance (activeCallNum waitingCallNum : ℕ) :
    Decidable (MayAutoAnswer w activeCallNum waitingCallNum) :=
  inferInstanceAs (Decidable (_ ∧ _))

/-- `AutoAnswer` (call_status_manager.cpp:1744-1769); with `waitingCallNum = 0` it is
    `AutoAnswerForVideoCall`. -/
def autoAnswer (activeCallNum waitingCallNum : ℕ) : LiveWorld :=
  if MayAutoAnswer w activeCallNum waitingCallNum then
    match w.carrierCalls.find? (IsToBeAnswered ·) with
    | some ringingCall =>
      (w.setAutoAnswerState ringingCall.callId false).send
        (.answerCall ringingCall.callId ringingCall.answerVideoState)
    | none => w
  else w

/-- `AutoAnswerForVoiceCall` (call_status_manager.cpp:1722-1737). -/
def autoAnswerForVoiceCall (ringCall : LiveCall) (slotId : ℤ) (continueAnswer : Bool) : LiveWorld :=
  let w :=
    if continueAnswer = true ∨ slotId ≠ ringCall.slotId then
      w.send (.answerCall ringCall.callId ringCall.answerVideoState)
    else w
  w.setAutoAnswerState ringCall.callId false

/-- The call that `AutoUnHoldForDsda` unholds: a held call of the other slot that may be unheld. -/
def IsToBeUnheld (canSwitchCallState : Bool) (priorState : TelCallState) (activeCallNum : ℕ)
    (slotId : ℤ) (otherCall : LiveCall) : Prop :=
  (slotId ≠ otherCall.slotId ∧ otherCall.callState = .holding ∧ otherCall.canUnHoldState = true ∧
    activeCallNum = 0 ∧ w.getCallNum .waiting = 0 ∧ w.getCallNum .dialing = 0 ∧
    w.StandsAlone otherCall) ∧
  (priorState = .disconnecting ∨ (canSwitchCallState = false ∧ w.getCurrentCallNum = 2))

instance (canSwitchCallState : Bool) (priorState : TelCallState) (activeCallNum : ℕ) (slotId : ℤ)
    (otherCall : LiveCall) :
    Decidable (IsToBeUnheld w canSwitchCallState priorState activeCallNum slotId otherCall) :=
  inferInstanceAs (Decidable (_ ∧ _))

/-- `SetCanUnHoldState(true)` of the held calls. -/
def allowUnHold : LiveWorld :=
  (w.carrierCalls.filter (·.callState = .holding)).foldl
    (fun w holdCall => w.setCanUnHoldState holdCall.callId true) w

/-- `AutoUnHoldForDsda` (call_status_manager.cpp:1680-1720). -/
def autoUnHoldForDsda (canSwitchCallState : Bool) (priorState : TelCallState) (activeCallNum : ℕ)
    (slotId : ℤ) : LiveWorld :=
  match w.carrierCalls.find?
    (IsToBeUnheld w canSwitchCallState priorState activeCallNum slotId ·) with
  | some otherCall => w.send (.unHoldCall otherCall.callId)
  | none => if w.getCurrentCallNum = 2 then allowUnHold w else w

/-- The call at which the loop of `AutoHandleForDsda` stops. -/
def IsHandledForDsda (activeCallNum : ℕ) (ringCall : LiveCall) : Prop :=
  ringCall.autoAnswerState = true ∧
    (ringCall.videoState = .video ∨
      (w.getCallNum .dialing = 0 ∧ w.getCallNum .alerting = 0 ∧ activeCallNum = 0 ∧
        ringCall.callRunningState = .ringing))

instance (activeCallNum : ℕ) (ringCall : LiveCall) :
    Decidable (IsHandledForDsda w activeCallNum ringCall) :=
  inferInstanceAs (Decidable (_ ∧ _))

/-- `AutoHandleForDsda` (call_status_manager.cpp:1650-1678). -/
def autoHandleForDsda (canSwitchCallState : Bool) (priorState : TelCallState) (activeCallNum : ℕ)
    (slotId : ℤ) (continueAnswer : Bool) : LiveWorld :=
  let w :=
    match w.carrierCalls.find? (IsHandledForDsda w activeCallNum ·) with
    | some ringCall =>
      if ringCall.videoState = .video then autoAnswer w activeCallNum 0
      else autoAnswerForVoiceCall w ringCall slotId continueAnswer
    | none => w
  autoUnHoldForDsda w canSwitchCallState priorState activeCallNum slotId

/-- The test of `AutoAnswerVideoCallForNotDsda` for one call. -/
def IsVideoAnswer (disconnectedCall ringCall : LiveCall) : Prop :=
  ringCall.autoAnswerState = true ∧
    (ringCall.videoState = .video ∨ disconnectedCall.videoState = .video)

instance (disconnectedCall ringCall : LiveCall) :
    Decidable (IsVideoAnswer disconnectedCall ringCall) :=
  inferInstanceAs (Decidable (_ ∧ _))

/-- An incoming or waiting call that is to be answered automatically. -/
def IsPending (call : LiveCall) : Prop :=
  (call.callState = .incoming ∨ call.callState = .waiting) ∧ call.autoAnswerState = true

instance (call : LiveCall) : Decidable (IsPending call) := inferInstanceAs (Decidable (_ ∧ _))

/-- `AnswerPendingCall`, as far as its request to answer (call_status_manager.cpp:2683-2716). -/
def answerPendingCall : LiveWorld :=
  match w.calls.entries.find? (IsPending ·) with
  | some call =>
    (w.setAutoAnswerState call.callId false).send (.answerCall call.callId call.videoState.number)
  | none => w

/-- `HandleHoldCallOrAutoAnswerCall` after the deletion of the call, with
    `AutoAnswerVideoCallForNotDsda` (call_status_manager.cpp:1599-1636). -/
def afterDeletion (env : AutoEnv) (call : LiveCall) (activeCallNum waitingCallNum : ℕ)
    (priorState : TelCallState) : LiveWorld :=
  if env.notSupportMulticall then answerPendingCall w
  else if env.IsDsda then
    autoHandleForDsda w call.canSwitchCallState priorState activeCallNum call.slotId true
  else if ∃ ringCall ∈ w.carrierCalls, IsVideoAnswer call ringCall then
    autoAnswer w activeCallNum 0
  else if env.dsdsMode = .v3 then autoAnswer w activeCallNum waitingCallNum
  else w

/-- The held call that is unheld before the deletion. -/
def IsOwnHeld (call : LiveCall) (size : ℕ) (previousState : CallRunningState)
    (priorState : TelCallState) (holdCall : LiveCall) : Prop :=
  (previousState ≠ .hold ∧ previousState ≠ .active ∧ priorState = .disconnecting) ∧
    IsCanUnHold w (w.getCallNum .active) (w.getCallNum .waiting) size ∧
    holdCall.canUnHoldState = true ∧ holdCall.slotId = call.slotId

instance (call : LiveCall) (size : ℕ) (previousState : CallRunningState)
    (priorState : TelCallState) (holdCall : LiveCall) :
    Decidable (IsOwnHeld w call size previousState priorState holdCall) :=
  inferInstanceAs (Decidable (_ ∧ _))

/-- `DeleteOneCallObject(callId)`, as far as the list (call_object_manager.cpp:211-236). -/
def deleteOneCallObject (callId : ℤ) : LiveWorld := { w with calls := w.calls.erase callId }

/-- `HandleHoldCallOrAutoAnswerCall` before the deletion. -/
def unHoldOwn (call : LiveCall) (size : ℕ) (previousState : CallRunningState)
    (priorState : TelCallState) : LiveWorld :=
  match w.getOneCallObjectByState .hold with
  | some holdCall =>
    if IsOwnHeld w call size previousState priorState holdCall then
      w.send (.unHoldCall holdCall.callId)
    else w
  | none => w

/-- `HandleHoldCallOrAutoAnswerCall` (call_status_manager.cpp:1574-1617). -/
def handleHoldCallOrAutoAnswerCall (env : AutoEnv) (call : LiveCall) (size : ℕ)
    (previousState : CallRunningState) (priorState : TelCallState) : LiveWorld :=
  let activeCallNum := w.getCallNum .active
  let waitingCallNum := w.getCallNum .waiting
  let w := unHoldOwn w call size previousState priorState
  afterDeletion (deleteOneCallObject w call.callId) env call activeCallNum waitingCallNum priorState

/-! ## Specification -/

/-- An `UnHoldCall` or an `AnswerCall`. -/
def IsResume : CallCommand → Bool
  | .unHoldCall _ | .answerCall _ _ => true
  | .rejectCall _ | .hangUpCall _ | .holdCall _ => false

/-- No non-VoIP call that remains is in the state. -/
def NoneRemains (call : LiveCall) (callState : TelCallState) : Prop :=
  ∀ it ∈ w.calls.entries, it.callId ≠ call.callId → it.callType ≠ .voip → it.callState ≠ callState

/-- No non-VoIP call that remains is active, dialing or alerting. -/
def LineQuiet (call : LiveCall) : Prop :=
  NoneRemains w call .active ∧ NoneRemains w call .dialing ∧ NoneRemains w call .alerting

/-- One call at most is brought to the front, and only on a quiet line. -/
def OneForeground (call : LiveCall) (w' : LiveWorld) : Prop :=
  ∃ sent, w'.commands = w.commands ++ sent ∧ sent.countP IsResume ≤ 1 ∧
    (0 < sent.countP IsResume → LineQuiet w call)

/-! ### What each place sends -/

/-- The held call of the same slot is unheld. -/
def UnholdsOwn (call : LiveCall) (size : ℕ) (previousState : CallRunningState)
    (priorState : TelCallState) : Prop :=
  ∃ holdCall, w.getOneCallObjectByState .hold = some holdCall ∧
    IsOwnHeld w call size previousState priorState holdCall

/-- A held call of the other slot is unheld. -/
def UnholdsOther (env : AutoEnv) (call : LiveCall) (activeCallNum : ℕ) (priorState : TelCallState) :
    Prop :=
  env.notSupportMulticall = false ∧ env.IsDsda ∧ ∃ otherCall ∈ w.carrierCalls,
    IsToBeUnheld w call.canSwitchCallState priorState activeCallNum call.slotId otherCall

/-- `AutoAnswer` answers a call. -/
def AutoAnswers (activeCallNum waitingCallNum : ℕ) : Prop :=
  MayAutoAnswer w activeCallNum waitingCallNum ∧ ∃ ringCall ∈ w.carrierCalls,
    IsToBeAnswered ringCall

/-- In DSDA mode a voice call is answered. -/
def AnswersVoice (env : AutoEnv) (activeCallNum : ℕ) : Prop :=
  env.notSupportMulticall = false ∧ env.IsDsda ∧ ∃ ringCall,
    w.carrierCalls.find? (IsHandledForDsda w activeCallNum ·) = some ringCall ∧
      ringCall.videoState ≠ .video

/-- A call is answered, after the deletion. -/
def Answers (env : AutoEnv) (call : LiveCall) (activeCallNum waitingCallNum : ℕ) : Prop :=
  if env.notSupportMulticall then ∃ it ∈ w.calls.entries, IsPending it
  else if env.IsDsda then
    AnswersVoice w env activeCallNum ∨
      (AutoAnswers w activeCallNum 0 ∧ ∃ ringCall,
        w.carrierCalls.find? (IsHandledForDsda w activeCallNum ·) = some ringCall ∧
          ringCall.videoState = .video)
  else if ∃ ringCall ∈ w.carrierCalls, IsVideoAnswer call ringCall then
    AutoAnswers w activeCallNum 0
  else env.dsdsMode = .v3 ∧ AutoAnswers w activeCallNum waitingCallNum

/-- The guards do not overlap, and what they do not count is not there. -/
structure GuardsSuffice (env : AutoEnv) (call : LiveCall) (size : ℕ)
    (previousState : CallRunningState) (priorState : TelCallState) : Prop where
  own : UnholdsOwn w call size previousState priorState →
    NoneRemains w call .dialing ∧
      ¬ UnholdsOther (deleteOneCallObject w call.callId) env call (w.getCallNum .active)
        priorState ∧
      ¬ Answers (deleteOneCallObject w call.callId) env call (w.getCallNum .active)
        (w.getCallNum .waiting)
  other : UnholdsOther (deleteOneCallObject w call.callId) env call (w.getCallNum .active)
      priorState →
    NoneRemains w call .alerting ∧
      ¬ AnswersVoice (deleteOneCallObject w call.callId) env (w.getCallNum .active)
  pending : env.notSupportMulticall = true →
    Answers (deleteOneCallObject w call.callId) env call (w.getCallNum .active)
      (w.getCallNum .waiting) → LineQuiet w call

/-! ## Proofs -/

variable {w}

/-- One command that brings a call to the front is sent iff `p`, and no other. -/
def SendsIf (p : Prop) (w w' : LiveWorld) : Prop :=
  ∃ sent, w'.commands = w.commands ++ sent ∧ (p → sent.countP IsResume = 1) ∧
    (¬ p → sent.countP IsResume = 0)

theorem sendsIf_send {p : Prop} {command : CallCommand} (hp : p) (hresume : IsResume command = true)
    {w' : LiveWorld} (h : w'.commands = w.commands ++ [command]) : SendsIf p w w' :=
  ⟨[command], h, fun _ => by simp [hresume], fun hnot => absurd hp hnot⟩

theorem sendsIf_nothing {p : Prop} (hp : ¬ p) {w' : LiveWorld} (h : w'.commands = w.commands) :
    SendsIf p w w' :=
  ⟨[], by rw [h, List.append_nil], fun h => absurd h hp, fun _ => rfl⟩

theorem SendsIf.congr {p q : Prop} {w w' : LiveWorld} (h : SendsIf p w w') (hiff : p ↔ q) :
    SendsIf q w w' := by
  rwa [← propext hiff]

theorem find?_isSome_iff {l : List LiveCall} {p : LiveCall → Prop} [DecidablePred p] :
    (∃ it, l.find? (p ·) = some it) ↔ ∃ it ∈ l, p it := by
  rw [← Option.isSome_iff_exists, List.find?_isSome]
  simp

theorem sendsIf_autoAnswer (activeCallNum waitingCallNum : ℕ) :
    SendsIf (AutoAnswers w activeCallNum waitingCallNum) w
      (autoAnswer w activeCallNum waitingCallNum) := by
  unfold autoAnswer
  split_ifs with hmay
  · cases hfind : w.carrierCalls.find? (IsToBeAnswered ·) with
    | none =>
      refine sendsIf_nothing (fun h => ?_) rfl
      obtain ⟨it, hit⟩ := find?_isSome_iff.mpr h.2
      exact nomatch hfind.symm.trans hit
    | some ringingCall =>
      exact sendsIf_send ⟨hmay, find?_isSome_iff.mp ⟨ringingCall, hfind⟩⟩ rfl rfl
  · exact sendsIf_nothing (fun h => hmay h.1) rfl

theorem sendsIf_answerPendingCall :
    SendsIf (∃ it ∈ w.calls.entries, IsPending it) w (answerPendingCall w) := by
  unfold answerPendingCall
  cases hfind : w.calls.entries.find? (IsPending ·) with
  | none =>
    refine sendsIf_nothing (fun h => ?_) rfl
    obtain ⟨it, hit⟩ := find?_isSome_iff.mpr h
    exact nomatch hfind.symm.trans hit
  | some call => exact sendsIf_send (find?_isSome_iff.mp ⟨call, hfind⟩) rfl rfl

@[simp] theorem commands_allowUnHold : (allowUnHold w).commands = w.commands := by
  unfold allowUnHold
  generalize w.carrierCalls.filter (·.callState = .holding) = l
  induction l generalizing w with
  | nil => rfl
  | cons holdCall rest ih => rw [List.foldl_cons, ih]; rfl

variable {canSwitchCallState : Bool} {priorState : TelCallState} {activeCallNum : ℕ} {slotId : ℤ}

theorem sendsIf_autoUnHoldForDsda :
    SendsIf (∃ otherCall ∈ w.carrierCalls,
        IsToBeUnheld w canSwitchCallState priorState activeCallNum slotId otherCall) w
      (autoUnHoldForDsda w canSwitchCallState priorState activeCallNum slotId) := by
  unfold autoUnHoldForDsda
  cases hfind : w.carrierCalls.find?
      (IsToBeUnheld w canSwitchCallState priorState activeCallNum slotId ·) with
  | none =>
    refine sendsIf_nothing (fun h => ?_) ?_
    · obtain ⟨it, hit⟩ := find?_isSome_iff.mpr h
      exact nomatch hfind.symm.trans hit
    · dsimp only
      split_ifs
      · exact commands_allowUnHold
      · rfl
  | some otherCall => exact sendsIf_send (find?_isSome_iff.mp ⟨otherCall, hfind⟩) rfl rfl

/-- The auto-answer states have no influence on which call is unheld. -/
theorem exists_isToBeUnheld_setAutoAnswerState (callId : ℤ) (flag : Bool) :
    (∃ otherCall ∈ (w.setAutoAnswerState callId flag).carrierCalls,
        IsToBeUnheld (w.setAutoAnswerState callId flag) canSwitchCallState priorState activeCallNum
          slotId otherCall) ↔
      ∃ otherCall ∈ w.carrierCalls,
        IsToBeUnheld w canSwitchCallState priorState activeCallNum slotId otherCall := by
  have hsame : ∀ it, IsToBeUnheld (w.setAutoAnswerState callId flag) canSwitchCallState priorState
        activeCallNum slotId it ↔
      IsToBeUnheld w canSwitchCallState priorState activeCallNum slotId it := by
    intro it
    unfold IsToBeUnheld setAutoAnswerState
    rw [getCallNum_setFlag, getCallNum_setFlag, getCurrentCallNum_setFlag]
    exact Iff.rfl
  simp only [hsame]
  exact exists_carrierCalls_setFlag callId (fun it => { it with autoAnswerState := flag })
    (fun _ => rfl) fun _ => Iff.rfl

/-- An automatic answer has no influence on which call is unheld. -/
theorem exists_isToBeUnheld_autoAnswer (active waitingCallNum : ℕ) :
    (∃ otherCall ∈ (autoAnswer w active waitingCallNum).carrierCalls,
        IsToBeUnheld (autoAnswer w active waitingCallNum) canSwitchCallState priorState
          activeCallNum slotId otherCall) ↔
      ∃ otherCall ∈ w.carrierCalls,
        IsToBeUnheld w canSwitchCallState priorState activeCallNum slotId otherCall := by
  unfold autoAnswer
  split_ifs
  · cases w.carrierCalls.find? (IsToBeAnswered ·) with
    | none => exact Iff.rfl
    | some ringingCall => exact exists_isToBeUnheld_setAutoAnswerState ringingCall.callId false
  · exact Iff.rfl

@[inherit_doc exists_isToBeUnheld_autoAnswer] theorem exists_isToBeUnheld_voice
    (ringCall : LiveCall) :
    (∃ otherCall ∈ (autoAnswerForVoiceCall w ringCall slotId true).carrierCalls,
        IsToBeUnheld (autoAnswerForVoiceCall w ringCall slotId true) canSwitchCallState priorState
          activeCallNum slotId otherCall) ↔
      ∃ otherCall ∈ w.carrierCalls,
        IsToBeUnheld w canSwitchCallState priorState activeCallNum slotId otherCall :=
  exists_isToBeUnheld_setAutoAnswerState (w := w.send _) ringCall.callId false

variable {env : AutoEnv} {call : LiveCall} {waitingCallNum : ℕ}

/-- After the deletion a call is answered, and then one is unheld. -/
theorem sendsIf_afterDeletion (w : LiveWorld) (env : AutoEnv) (call : LiveCall)
    (activeCallNum waitingCallNum : ℕ) (priorState : TelCallState) :
    ∃ answered, SendsIf (Answers w env call activeCallNum waitingCallNum) w answered ∧
      SendsIf (UnholdsOther w env call activeCallNum priorState) answered
        (afterDeletion w env call activeCallNum waitingCallNum priorState) := by
  unfold afterDeletion Answers
  by_cases hmulti : env.notSupportMulticall = true
  · rw [if_pos hmulti, if_pos hmulti]
    refine ⟨_, sendsIf_answerPendingCall, sendsIf_nothing (fun h => ?_) rfl⟩
    exact absurd (h.1.symm.trans hmulti) Bool.false_ne_true
  · rw [if_neg hmulti, if_neg hmulti]
    have hmulti' : env.notSupportMulticall = false := by simpa using hmulti
    by_cases hdsda : env.IsDsda
    · have hother : UnholdsOther w env call activeCallNum priorState ↔
          ∃ otherCall ∈ w.carrierCalls, IsToBeUnheld w call.canSwitchCallState priorState
            activeCallNum call.slotId otherCall := by
        unfold UnholdsOther
        rw [and_iff_right hmulti', and_iff_right hdsda]
      have hvoice : AnswersVoice w env activeCallNum ↔ ∃ ringCall,
          w.carrierCalls.find? (IsHandledForDsda w activeCallNum ·) = some ringCall ∧
            ringCall.videoState ≠ .video := by
        unfold AnswersVoice
        rw [and_iff_right hmulti', and_iff_right hdsda]
      rw [if_pos hdsda, if_pos hdsda, autoHandleForDsda, hvoice]
      cases hfind : w.carrierCalls.find? (IsHandledForDsda w activeCallNum ·) with
      | none =>
        refine ⟨w, sendsIf_nothing ?_ rfl, sendsIf_autoUnHoldForDsda.congr hother.symm⟩
        rintro (⟨it, hit, -⟩ | ⟨-, it, hit, -⟩) <;> exact nomatch hit
      | some ringCall =>
        dsimp only
        by_cases hvideo : ringCall.videoState = .video
        · rw [if_pos hvideo]
          refine ⟨_, (sendsIf_autoAnswer activeCallNum 0).congr ?_,
            sendsIf_autoUnHoldForDsda.congr ?_⟩
          · constructor
            · exact fun h => .inr ⟨h, ringCall, rfl, hvideo⟩
            · rintro (⟨it, hit, hnot⟩ | ⟨h, -⟩)
              · obtain rfl := Option.some.inj hit
                exact absurd hvideo hnot
              · exact h
          · exact (exists_isToBeUnheld_autoAnswer activeCallNum 0).trans hother.symm
        · rw [if_neg hvideo]
          refine ⟨_, sendsIf_send (.inl ⟨ringCall, rfl, hvideo⟩) rfl rfl,
            sendsIf_autoUnHoldForDsda.congr ?_⟩
          exact (exists_isToBeUnheld_voice ringCall).trans hother.symm
    · have hother : ¬ UnholdsOther w env call activeCallNum priorState := fun h => hdsda h.2.1
      rw [if_neg hdsda, if_neg hdsda]
      refine ⟨_, ?_, sendsIf_nothing hother rfl⟩
      by_cases hvideo : ∃ ringCall ∈ w.carrierCalls, IsVideoAnswer call ringCall
      · rw [if_pos hvideo, if_pos hvideo]
        exact sendsIf_autoAnswer activeCallNum 0
      · rw [if_neg hvideo, if_neg hvideo]
        by_cases hv3 : env.dsdsMode = .v3
        · rw [if_pos hv3]
          exact (sendsIf_autoAnswer activeCallNum waitingCallNum).congr (and_iff_right hv3).symm
        · rw [if_neg hv3]
          exact sendsIf_nothing (fun h => hv3 h.1) rfl

/-- Three places that may send one after the other bring one call to the front on
    a quiet line iff no two of them send and the line is quiet if one does. -/
theorem oneForeground_iff {p q r : Prop} {a b c : LiveWorld} (hp : SendsIf p w a)
    (hq : SendsIf q a b) (hr : SendsIf r b c) :
    OneForeground w call c ↔
      (¬ (p ∧ q) ∧ ¬ (p ∧ r) ∧ ¬ (q ∧ r)) ∧ (p ∨ q ∨ r → LineQuiet w call) := by
  obtain ⟨sentP, ha, hp1, hp0⟩ := hp
  obtain ⟨sentQ, hb, hq1, hq0⟩ := hq
  obtain ⟨sentR, hc, hr1, hr0⟩ := hr
  have hall : c.commands = w.commands ++ (sentP ++ sentQ ++ sentR) := by
    rw [hc, hb, ha, List.append_assoc, List.append_assoc, List.append_assoc]
  have hcount : (sentP ++ sentQ ++ sentR).countP IsResume =
      sentP.countP IsResume + sentQ.countP IsResume + sentR.countP IsResume := by
    rw [List.countP_append, List.countP_append]
  have hsplit : OneForeground w call c ↔ (sentP ++ sentQ ++ sentR).countP IsResume ≤ 1 ∧
      (0 < (sentP ++ sentQ ++ sentR).countP IsResume → LineQuiet w call) := by
    constructor
    · rintro ⟨sent, hsent, honce, hquiet⟩
      obtain rfl := List.append_cancel_left (hall.symm.trans hsent)
      exact ⟨honce, hquiet⟩
    · exact fun ⟨honce, hquiet⟩ => ⟨_, hall, honce, hquiet⟩
  rw [hsplit, hcount]
  have hpCount : (p ∧ sentP.countP IsResume = 1) ∨ (¬ p ∧ sentP.countP IsResume = 0) :=
    (em p).imp (fun h => ⟨h, hp1 h⟩) fun h => ⟨h, hp0 h⟩
  have hqCount : (q ∧ sentQ.countP IsResume = 1) ∨ (¬ q ∧ sentQ.countP IsResume = 0) :=
    (em q).imp (fun h => ⟨h, hq1 h⟩) fun h => ⟨h, hq0 h⟩
  have hrCount : (r ∧ sentR.countP IsResume = 1) ∨ (¬ r ∧ sentR.countP IsResume = 0) :=
    (em r).imp (fun h => ⟨h, hr1 h⟩) fun h => ⟨h, hr0 h⟩
  rcases hpCount with ⟨hp, hnp⟩ | ⟨hp, hnp⟩ <;> rcases hqCount with ⟨hq, hnq⟩ | ⟨hq, hnq⟩ <;>
    rcases hrCount with ⟨hr, hnr⟩ | ⟨hr, hnr⟩ <;> rw [hnp, hnq, hnr] <;> simp [hp, hq, hr]

/-- The first place, before the deletion. -/
theorem sendsIf_unHoldOwn {size : ℕ} {previousState : CallRunningState} :
    SendsIf (UnholdsOwn w call size previousState priorState) w
      (unHoldOwn w call size previousState priorState) := by
  unfold UnholdsOwn unHoldOwn
  cases hhold : w.getOneCallObjectByState .hold with
  | none => exact sendsIf_nothing (fun ⟨_, hnone, _⟩ => nomatch hnone) rfl
  | some holdCall =>
    dsimp only
    split_ifs with hown
    · exact sendsIf_send ⟨holdCall, rfl, hown⟩ rfl rfl
    · refine sendsIf_nothing (fun ⟨it, hit, h⟩ => ?_) rfl
      obtain rfl := Option.some.inj hit
      exact hown h

/-- It sends a command and changes nothing else. -/
theorem unHoldOwn_eq (size : ℕ) (previousState : CallRunningState) :
    unHoldOwn w call size previousState priorState = w ∨
      ∃ command, unHoldOwn w call size previousState priorState = w.send command := by
  unfold unHoldOwn
  cases w.getOneCallObjectByState .hold with
  | none => exact .inl rfl
  | some holdCall =>
    dsimp only
    split_ifs
    · exact .inr ⟨_, rfl⟩
    · exact .inl rfl

/-! ### What the guards count -/

theorem noneRemains_of_getCallNum {callState : TelCallState} (h : w.getCallNum callState = 0) :
    NoneRemains w call callState :=
  fun _ hmem _ hvoip => ne_of_getCallNum_eq_zero h hmem hvoip

theorem noneRemains_of_deleted {callState : TelCallState}
    (h : (deleteOneCallObject w call.callId).getCallNum callState = 0) :
    NoneRemains w call callState := by
  intro it hmem hid hvoip
  refine ne_of_getCallNum_eq_zero h ?_ hvoip
  exact List.mem_filter.mpr ⟨hmem, by simpa using hid⟩

theorem UnholdsOwn.noneRemains {size : ℕ} {previousState : CallRunningState}
    (h : UnholdsOwn w call size previousState priorState) :
    NoneRemains w call .active ∧ NoneRemains w call .alerting := by
  obtain ⟨holdCall, -, -, hcan, -⟩ := h
  obtain ⟨-, -, -, hactive, -, halerting⟩ := hcan
  exact ⟨noneRemains_of_getCallNum hactive, noneRemains_of_getCallNum halerting⟩

theorem UnholdsOther.noneRemains
    (h : UnholdsOther (deleteOneCallObject w call.callId) env call (w.getCallNum .active)
      priorState) :
    NoneRemains w call .active ∧ NoneRemains w call .dialing := by
  obtain ⟨-, -, otherCall, -, hother, -⟩ := h
  obtain ⟨-, -, -, hactive, -, hdialing, -⟩ := hother
  exact ⟨noneRemains_of_getCallNum hactive, noneRemains_of_deleted hdialing⟩

/-- Where several calls are supported, a call is answered on a quiet line only. -/
theorem Answers.lineQuiet (hmulti : env.notSupportMulticall = false)
    (h : Answers (deleteOneCallObject w call.callId) env call (w.getCallNum .active)
      waitingCallNum) : LineQuiet w call := by
  have hauto : ∀ {waiting : ℕ},
      AutoAnswers (deleteOneCallObject w call.callId) (w.getCallNum .active) waiting →
        LineQuiet w call := by
    rintro waiting ⟨⟨hactive, -, -, hdialing, halerting⟩, -⟩
    exact ⟨noneRemains_of_getCallNum hactive, noneRemains_of_deleted hdialing,
      noneRemains_of_deleted halerting⟩
  unfold Answers at h
  rw [if_neg (by simp [hmulti])] at h
  split_ifs at h
  · rcases h with ⟨-, -, ringCall, hfind, hvoice⟩ | ⟨h, -⟩
    · have hhandled : IsHandledForDsda (deleteOneCallObject w call.callId)
          (w.getCallNum .active) ringCall := by
        simpa using List.find?_some hfind
      obtain ⟨hdialing, halerting, hactive, -⟩ := hhandled.2.resolve_left hvoice
      exact ⟨noneRemains_of_getCallNum hactive, noneRemains_of_deleted hdialing,
        noneRemains_of_deleted halerting⟩
    · exact hauto h
  · exact hauto h
  · exact hauto h.2

/-- `AutoAnswer` answers no call while one is held, so that only the answer to a
    voice call is followed by `UnHoldCall`. -/
theorem Answers.voice (h : Answers w env call activeCallNum waitingCallNum)
    (hother : UnholdsOther w env call activeCallNum priorState) :
    AnswersVoice w env activeCallNum := by
  obtain ⟨hmulti, hdsda, otherCall, hmem, hheld, -⟩ := hother
  unfold Answers at h
  rw [if_neg (by simp [hmulti]), if_pos hdsda] at h
  refine h.resolve_right fun hauto => ?_
  obtain ⟨hentry, hcarrier⟩ := mem_carrierCalls.mp hmem
  obtain ⟨-, -, hholding, -⟩ := hauto.1.1
  exact ne_of_getCallNum_eq_zero hholding hentry hcarrier.ne_voip hheld.2.1

theorem AnswersVoice.answers (h : AnswersVoice w env activeCallNum) :
    Answers w env call activeCallNum waitingCallNum := by
  unfold Answers
  rw [if_neg (by simp [h.1]), if_pos h.2.1]
  exact .inl h

/-! ## The whole function -/

/-- The three places of `HandleHoldCallOrAutoAnswerCall`. -/
theorem sendsIf_handle (w : LiveWorld) (env : AutoEnv) (call : LiveCall) (size : ℕ)
    (previousState : CallRunningState) (priorState : TelCallState) :
    ∃ a b, SendsIf (UnholdsOwn w call size previousState priorState) w a ∧
      SendsIf (Answers (deleteOneCallObject w call.callId) env call (w.getCallNum .active)
        (w.getCallNum .waiting)) a b ∧
      SendsIf (UnholdsOther (deleteOneCallObject w call.callId) env call (w.getCallNum .active)
        priorState) b
        (handleHoldCallOrAutoAnswerCall w env call size previousState priorState) := by
  have hown : SendsIf (UnholdsOwn w call size previousState priorState) w
      (deleteOneCallObject (unHoldOwn w call size previousState priorState) call.callId) :=
    sendsIf_unHoldOwn
  obtain ⟨b, hanswers, hother⟩ := sendsIf_afterDeletion
    (deleteOneCallObject (unHoldOwn w call size previousState priorState) call.callId) env call
    (w.getCallNum .active) (w.getCallNum .waiting) priorState
  -- the command sent before the deletion has no influence on what follows
  refine ⟨_, b, hown, hanswers.congr ?_, hother.congr ?_⟩
  · rcases unHoldOwn_eq size previousState with h | ⟨command, h⟩
    · rw [h]
    · rw [h]
      exact Iff.rfl
  · rcases unHoldOwn_eq size previousState with h | ⟨command, h⟩
    · rw [h]
    · rw [h]
      exact Iff.rfl

theorem imsCall_ended_inStep (callId slotId : ℤ) :
    (CallRequestProcess.imsCall callId slotId .disconnected .ended).InStep :=
  ⟨(fun h => nomatch h), (fun h => nomatch h)⟩

/-- A voice call that rings on slot 0 and is to be answered. -/
def ringingVoice : LiveCall :=
  { CallRequestProcess.liveCall (CallRequestProcess.imsCall 2 0 .incoming .ringing)
      (CallRequestProcess.imsCall_ringing_inStep 2 0) with
    autoAnswerState := true }

/-- A held call on slot 1. -/
def heldVoice : LiveCall :=
  CallRequestProcess.liveCall (CallRequestProcess.imsCall 5 1 .holding .hold)
    (CallRequestProcess.imsCall_held_inStep 5 1)

/-- A call on slot 0 that has been hung up and has ended. -/
def endedCall : LiveCall :=
  CallRequestProcess.liveCall (CallRequestProcess.imsCall 1 0 .disconnected .ended)
    (imsCall_ended_inStep 1 0)

theorem ended_ringing_held_nodup :
    ([endedCall, ringingVoice, heldVoice].map (·.callId)).Nodup := by decide

/-- The three calls, in DSDA mode. -/
def endedBesideBoth : LiveWorld where
  calls := ⟨[endedCall, ringingVoice, heldVoice], ended_ringing_held_nodup⟩
  imsMainCall := -1
  csMainCall := -1
  commands := []

end AutoUnhold

end CallManager
