import CallManager.CallControl
import CallManager.Library.Run

/-!
# An answer that waits for a VoIP call

While the VoIP state is not idle, `AnswerCall` of another call keeps the answer in
`AnsweredCallQueue_`, which has room for one; when the state becomes idle,
`SetVoIPCallState` makes the answer that is kept.

Specification: each call whose answer was deferred and that still rings is answered
exactly once, with the video state of its own request, and no other call is. Which
answers were deferred is kept beside the state, by `deferredAfter`.

A second answer that is deferred overwrites the first, and neither the video state nor
the call is looked at before the answer is kept; the policy and the super privacy mode
may then refuse it. An answer whose call has ended is looked up by its id in vain, so
no other call takes its place.

Results:
* `resumes_iff`: the changes of a run to the idle state are as specified iff each finds
  no deferred call ringing except the last one, with an answer that may be made.
* `first_deferred_lost`: two calls whose answers are deferred.
-/

namespace CallManager.CallControl

open CallStateReport (CallStateToApp)

/-! ## Runs -/

/-- The state, and the answers deferred since the VoIP state was idle: the id and the
    video state of each, the last one last. -/
structure DeferRun where
  world : ControlWorld
  deferred : List (ℤ × ℤ)

/-- What can happen: a request to answer, a change of the VoIP state, a new call, a call
    that changes, and the end of a call. -/
inductive DeferOp
  | answerCall (env : ControlEnv) (callId videoState : ℤ) (isRTT : Bool)
  | setVoIPCallState (env : ControlEnv) (state : CallStateToApp)
  | addOneCallObject (call : ControlCall)
  | changeCall (call : ControlCall)
  | deleteOneCallObject (callId : ℤ)

/-- The call whose answer `AnswerCall` defers. -/
def deferredCall (env : ControlEnv) (w : ControlWorld) (callId : ℤ) : Option ControlCall :=
  if env.canCallWithSuperPrivacyPolicy = true ∧ w.voIPCallState ≠ .idle then
    (getRingCall w.calls callId).filter fun call => call.callType ≠ .voip
  else none

theorem callId_changed (call it : ControlCall) :
    (if it.callId = call.callId then call else it).callId = it.callId := by
  split_ifs with h
  · exact h.symm
  · rfl

/-- A stored call takes other values, under the same id. -/
def changeCall (calls : CallStore) (call : ControlCall) : CallStore :=
  calls.modify call.callId (fun it => if it.callId = call.callId then call else it)
    (callId_changed call)

namespace DeferRun

variable (s : DeferRun)

/-- The answers deferred after a request: the last one of a call counts. -/
def deferredAfter (env : ControlEnv) (callId videoState : ℤ) : List (ℤ × ℤ) :=
  match deferredCall env s.world callId with
  | none => s.deferred
  | some call => (s.deferred.filter fun d => d.1 ≠ call.callId) ++ [(call.callId, videoState)]

/-- One operation. -/
def step : DeferOp → DeferRun
  | .answerCall env callId videoState isRTT =>
    ⟨(answerCall env s.world callId videoState isRTT).world,
      s.deferredAfter env callId videoState⟩
  | .setVoIPCallState env state =>
    ⟨(setVoIPCallState env s.world state (turnsOf s.world.calls s.world.calls.entries)).2.2,
      if state = .idle then [] else s.deferred⟩
  | .addOneCallObject call =>
    { s with world := { s.world with calls := s.world.calls.insert call } }
  | .changeCall call => { s with world := { s.world with calls := changeCall s.world.calls call } }
  | .deleteOneCallObject callId =>
    { s with world := { s.world with calls := s.world.calls.erase callId } }

end DeferRun

/-! ## Specification -/

/-- The call and the video state of an answer. -/
def ControlEvent.answer : ControlEvent → Option (ℤ × ℤ)
  | .request (.answerCall callId videoState _) => some (callId, videoState)
  | _ => none

/-- The answers among the events. -/
def answersOf (events : List ControlEvent) : List (ℤ × ℤ) := events.filterMap ControlEvent.answer

/-- The call is stored and rings. -/
def Rings (calls : CallStore) (callId : ℤ) : Prop :=
  rejectCallPolicy calls callId = .telephonySuccess

instance (calls : CallStore) (callId : ℤ) : Decidable (Rings calls callId) :=
  inferInstanceAs (Decidable (_ = _))

/-- The answer may be made: its video state is one of the two that are allowed, and so is
    the call in super privacy mode. -/
def MayAnswer (env : ControlEnv) (videoState : ℤ) : Prop :=
  (videoState = VideoStateType.voice.number ∨ videoState = VideoStateType.video.number) ∧
    env.canCallWithSuperPrivacyPolicy = true

instance (env : ControlEnv) (videoState : ℤ) : Decidable (MayAnswer env videoState) :=
  inferInstanceAs (Decidable (_ ∧ _))

namespace DeferRun

/-- A change to the idle state makes the deferred answers of the calls that still ring,
    each once, and no other answer. -/
def Resumes (s : DeferRun) : DeferOp → Prop
  | .setVoIPCallState env .idle =>
    let sent :=
      (setVoIPCallState env s.world .idle (turnsOf s.world.calls s.world.calls.entries)).2.1
    ∀ d, (answersOf sent).count d = if d ∈ s.deferred ∧ Rings s.world.calls d.1 then 1 else 0
  | _ => True

/-- The condition on a change to the idle state: a deferred call that still rings is the
    last one, and its answer may be made. -/
def StepOk (s : DeferRun) : DeferOp → Prop
  | .setVoIPCallState env .idle =>
    ∀ d ∈ s.deferred, Rings s.world.calls d.1 →
      s.deferred.getLast? = some d ∧ MayAnswer env d.2
  | _ => True

instance (s : DeferRun) (op : DeferOp) : Decidable (s.StepOk op) := by
  unfold StepOk
  split <;> infer_instance

end DeferRun

/-! ## What an answer sends and leaves -/

/-- The answer that the slot holds. -/
def AnsweredCallQueue.kept (queue : AnsweredCallQueue) : Option (ℤ × ℤ) :=
  if queue.hasCall = true then some (queue.callId, queue.videoState) else none

variable {env : ControlEnv} {calls : CallStore} {callId : ℤ}

theorem answersOf_eq_nil {events : List ControlEvent} :
    answersOf events = [] ↔ ∀ e ∈ events, e.answer = none := List.filterMap_eq_nil_iff

theorem answersOf_append (events events' : List ControlEvent) :
    answersOf (events ++ events') = answersOf events ++ answersOf events' :=
  List.filterMap_append

theorem hangUpCall_no_answer : ∀ e ∈ (hangUpCall env calls callId).sent, e.answer = none := by
  unfold hangUpCall
  dsimp only
  split_ifs <;> simp [ControlEvent.answer]

theorem rejectCall_no_answer (rejectType : RejectType) :
    ∀ e ∈ (rejectCall env calls callId rejectType).1.sent, e.answer = none := by
  unfold rejectCall
  cases CallStore.getOneCallObject calls .ringing with
  | none => nofun
  | some call =>
    dsimp only
    split_ifs <;> simp [ControlEvent.answer]

theorem conflictTurn_no_answer (t : Turn) : ∀ e ∈ (conflictTurn env t).2, e.answer = none := by
  unfold conflictTurn
  cases t.calls.lookup t.call.callId with
  | none => nofun
  | some voipCall =>
    dsimp only
    split_ifs
    · exact rejectCall_no_answer .normal
    · exact hangUpCall_no_answer
    · nofun

/-- What is sent before the policy is asked makes no answer. -/
theorem sentBeforePolicy_no_answer (call : ControlCall) (videoState : ℤ) :
    answersOf (sentBeforePolicy env calls call videoState).1 = [] := by
  have hhandler : ∀ e ∈ (answerHandlerForSatelliteOrVideoCall calls call videoState).1,
      e.answer = none := by
    unfold answerHandlerForSatelliteOrVideoCall
    split_ifs
    · simp
    · simp
    · cases CallStore.getOneCallObject calls .active with
      | none => simp
      | some foreground => simp [ControlEvent.answer]
    · simp
  have hconflicts : ∀ (calls : CallStore) (turns : List Turn),
      ∀ e ∈ (carrierAndVoipConflictProcess env calls call.callId .answered turns).2,
        e.answer = none := by
    intro calls turns
    unfold carrierAndVoipConflictProcess
    rw [if_neg (not_not.mpr rfl)]
    cases calls.lookup call.callId with
    | none => nofun
    | some carrier =>
      dsimp only
      split_ifs
      · exact StopLoop.forall_mem_stopLoop fun t _ => conflictTurn_no_answer t
      · nofun
  unfold sentBeforePolicy
  dsimp only
  rw [answersOf_eq_nil]
  intro e he
  rcases List.mem_append.mp he with he | he
  · rcases List.mem_append.mp he with he | he
    · exact hhandler e he
    · rw [List.mem_singleton.mp he]
      rfl
  · exact hconflicts _ _ e he

/-- A change of a call that keeps its state keeps what the policy says. -/
theorem rejectCallPolicy_modify {k : ℤ} {f : ControlCall → ControlCall}
    (hf : ∀ it, (f it).callId = it.callId) (hstate : ∀ it, (f it).callState = it.callState) :
    rejectCallPolicy (calls.modify k f hf) callId = rejectCallPolicy calls callId := by
  have hcalled : CallStore.getCallState (calls.modify k f hf) callId =
      CallStore.getCallState calls callId := by
    unfold CallStore.getCallState
    rw [OrderedMap.lookup_modify]
    cases calls.lookup callId with
    | none => split_ifs <;> rfl
    | some it =>
      split_ifs
      · exact hstate it
      · rfl
  unfold rejectCallPolicy
  rw [hcalled]
  exact if_congr (not_congr (OrderedMap.mem_modify hf)) rfl rfl

/-- What `AnswerCall` does to the calls before it asks the policy leaves who rings. -/
theorem rings_sentBeforePolicy (call : ControlCall) (videoState : ℤ) :
    Rings (sentBeforePolicy env (setAnsweredCall calls call.callId) call videoState).2 callId ↔
      Rings calls callId := by
  have hanswered : rejectCallPolicy (setAnsweredCall calls call.callId) callId =
      rejectCallPolicy calls callId := rejectCallPolicy_modify _ fun _ => rfl
  have hvideo : ∀ calls : CallStore,
      rejectCallPolicy (answerHandlerForSatelliteOrVideoCall calls call videoState).2 callId =
        rejectCallPolicy calls callId := by
    intro calls
    unfold answerHandlerForSatelliteOrVideoCall
    split_ifs
    · show rejectCallPolicy (initVideoCall calls call.callId videoState) callId = _
      exact rejectCallPolicy_modify _ fun _ => rfl
    · rfl
    · cases CallStore.getOneCallObject calls .active <;> rfl
    · rfl
  unfold Rings
  rw [← hanswered, ← hvideo (setAnsweredCall calls call.callId)]
  exact Iff.rfl

/-- `AnswerCallPolicy` takes an answer with one of two video states, of a call that rings. -/
theorem answerCallPolicy_success_iff {videoState : ℤ} :
    answerCallPolicy calls callId videoState = .telephonySuccess ↔
      (videoState = VideoStateType.voice.number ∨ videoState = VideoStateType.video.number) ∧
        Rings calls callId := by
  unfold answerCallPolicy Rings
  by_cases hvideo : videoState ≠ VideoStateType.voice.number ∧
      videoState ≠ VideoStateType.video.number
  · rw [if_pos hvideo]
    exact iff_of_false (fun h => by cases h) fun h => h.1.elim hvideo.1 hvideo.2
  · rw [if_neg hvideo, and_iff_right (by tauto)]

/-- The answers that `AnswerCall` makes while the VoIP state is idle. -/
theorem answersOf_answerCall {w : ControlWorld} (hidle : w.voIPCallState = .idle)
    {call : ControlCall} (hcall : getRingCall w.calls callId = some call) (videoState : ℤ)
    (isRTT : Bool) :
    answersOf (answerCall env w callId videoState isRTT).sent =
      if MayAnswer env videoState ∧ Rings w.calls call.callId then [(call.callId, videoState)]
      else [] := by
  unfold answerCall
  rw [hcall]
  dsimp only
  by_cases hprivacy : env.canCallWithSuperPrivacyPolicy = false
  · rw [if_pos hprivacy, if_neg fun h => by simp [h.1.2] at hprivacy]
    rfl
  have hmay : env.canCallWithSuperPrivacyPolicy = true := Bool.not_eq_false _ ▸ hprivacy
  have hbefore :=
    @sentBeforePolicy_no_answer env (setAnsweredCall w.calls call.callId) call videoState
  have hpolicy := @answerCallPolicy_success_iff
    (sentBeforePolicy env (setAnsweredCall w.calls call.callId) call videoState).2 call.callId
    videoState
  rw [rings_sentBeforePolicy] at hpolicy
  rw [if_neg hprivacy, if_neg fun h => h.1 hidle]
  by_cases hok : answerCallPolicy
      (sentBeforePolicy env (setAnsweredCall w.calls call.callId) call videoState).2 call.callId
      videoState = .telephonySuccess
  · obtain ⟨hvideo, hrings⟩ := hpolicy.mp hok
    rw [if_neg (not_not.mpr hok), if_pos ⟨⟨hvideo, hmay⟩, hrings⟩]
    show answersOf (_ ++ [_]) = _
    rw [answersOf_append, hbefore]
    rfl
  · have hnot : ¬ (MayAnswer env videoState ∧ Rings w.calls call.callId) := fun h =>
      hok (hpolicy.mpr ⟨h.1.1, h.2⟩)
    rw [if_pos hok, if_neg hnot]
    by_cases hvoip : env.isVoipCallExist = true
    · rw [if_pos hvoip]
      show answersOf (_ ++ [_]) = _
      rw [answersOf_append, hbefore]
      rfl
    · rw [if_neg hvoip]
      exact hbefore

/-- A change to the idle state makes the answer of the slot, if its call rings and the
    answer may be made. -/
theorem answersOf_idle {w : ControlWorld} (turns : List Turn)
    (hid : ∀ d ∈ w.answeredCallQueue.kept, d.1 ≠ CallLookups.invalidCallId) :
    answersOf (setVoIPCallState env w .idle turns).2.1 =
      (w.answeredCallQueue.kept.filter fun d => Rings w.calls d.1 ∧ MayAnswer env d.2).toList := by
  unfold setVoIPCallState AnsweredCallQueue.kept
  dsimp only
  by_cases hcall : w.answeredCallQueue.hasCall = true
  · have hid : w.answeredCallQueue.callId ≠ CallLookups.invalidCallId := hid _ (if_pos hcall)
    rw [if_pos hcall, if_pos hcall]
    dsimp only
    have hfound : Rings w.calls w.answeredCallQueue.callId →
        ∃ call, getRingCall w.calls w.answeredCallQueue.callId = some call := by
      intro hrings
      obtain ⟨-, ringing, hringing⟩ := exists_ringing hrings
      obtain ⟨call, hlookup, -⟩ := rejectCallPolicy_success_iff.mp hrings
      refine ⟨call, ?_⟩
      unfold getRingCall
      rw [hringing]
      dsimp only
      rw [if_neg hid]
      exact hlookup
    cases hring : getRingCall w.calls w.answeredCallQueue.callId with
    | none =>
      have hnot : ¬ Rings w.calls w.answeredCallQueue.callId := fun hrings => by
        obtain ⟨call, hsome⟩ := hfound hrings
        exact absurd (hsome.symm.trans hring) nofun
      rw [Option.filter_some_neg (by simp [hnot])]
      unfold answerCall
      rw [hring]
      rfl
    | some call =>
      have hsame : call.callId = w.answeredCallQueue.callId := by
        unfold getRingCall at hring
        cases hringing : CallStore.getOneCallObject w.calls .ringing with
        | none =>
          rw [hringing] at hring
          cases hring
        | some ringing =>
          rw [hringing] at hring
          dsimp only at hring
          rw [if_neg hid] at hring
          exact (OrderedMap.lookup_spec hring).2
      have hmade := @answersOf_answerCall env w.answeredCallQueue.callId
        { w with
          voIPCallState := .idle
          answeredCallQueue := { w.answeredCallQueue with hasCall := false } }
        rfl call hring w.answeredCallQueue.videoState false
      rw [hsame] at hmade
      refine hmade.trans ?_
      by_cases hmakes : Rings w.calls w.answeredCallQueue.callId ∧
          MayAnswer env w.answeredCallQueue.videoState
      · rw [Option.filter_some_pos (by simpa using hmakes)]
        exact if_pos hmakes.symm
      · rw [Option.filter_some_neg (by simpa using hmakes)]
        exact if_neg fun h => hmakes h.symm
  · rw [if_neg hcall, if_neg hcall]
    rfl

/-! ## The slot -/

/-- Of a list, the last element with `p` and `q` alone is taken iff every element with
    `p` is the last one and has `q`. -/
theorem count_last_iff {α : Type*} [BEq α] [LawfulBEq α] {l : List α} {p q : α → Prop}
    [DecidablePred p] [DecidablePred q] [∀ d, Decidable (d ∈ l ∧ p d)] :
    (∀ d, (l.getLast?.filter fun d => p d ∧ q d).toList.count d =
        if d ∈ l ∧ p d then 1 else 0) ↔ ∀ d ∈ l, p d → l.getLast? = some d ∧ q d := by
  constructor
  · intro h d hd hp
    have hone := h d
    rw [if_pos ⟨hd, hp⟩] at hone
    have hmem := List.count_pos_iff.mp (hone.symm ▸ Nat.one_pos)
    rw [Option.mem_toList, Option.filter_eq_some_iff] at hmem
    exact ⟨hmem.1, (of_decide_eq_true hmem.2).2⟩
  · intro h d
    by_cases hd : d ∈ l ∧ p d
    · obtain ⟨hlast, hq⟩ := h d hd.1 hd.2
      rw [if_pos hd, hlast, Option.filter_some_pos (by simpa using ⟨hd.2, hq⟩)]
      exact List.count_singleton_self
    · rw [if_neg hd, List.count_eq_zero]
      intro hmem
      rw [Option.mem_toList, Option.filter_eq_some_iff] at hmem
      exact hd ⟨List.mem_of_getLast? hmem.1, (of_decide_eq_true hmem.2).1⟩

/-- An answer that is deferred takes the slot, and any other leaves it. -/
theorem answeredCallQueue_answerCall (w : ControlWorld) (videoState : ℤ) (isRTT : Bool) :
    (answerCall env w callId videoState isRTT).world.answeredCallQueue =
      match deferredCall env w callId with
      | none => w.answeredCallQueue
      | some call => ⟨true, call.callId, videoState⟩ := by
  unfold answerCall deferredCall
  cases getRingCall w.calls callId with
  | none =>
    dsimp only [Option.filter_none]
    rw [ite_self]
  | some call =>
    dsimp only
    by_cases hprivacy : env.canCallWithSuperPrivacyPolicy = false
    · rw [if_pos hprivacy, if_neg fun h => by simp [h.1] at hprivacy]
    have hmay : env.canCallWithSuperPrivacyPolicy = true := Bool.not_eq_false _ ▸ hprivacy
    rw [if_neg hprivacy]
    by_cases hdefers : w.voIPCallState ≠ .idle ∧ call.callType ≠ .voip
    · rw [if_pos hdefers, if_pos ⟨hmay, hdefers.1⟩,
        Option.filter_some_pos (by simpa using hdefers.2)]
    · have hnone : (if env.canCallWithSuperPrivacyPolicy = true ∧ w.voIPCallState ≠ .idle then
          (some call).filter fun call => call.callType ≠ .voip else none) = none := by
        by_cases hidle : w.voIPCallState = .idle
        · exact if_neg fun h => h.2 hidle
        · rw [if_pos ⟨hmay, hidle⟩]
          exact Option.filter_some_neg (by simpa [hidle] using hdefers)
      rw [if_neg hdefers, hnone]
      split_ifs <;> rfl

namespace DeferRun

variable {s : DeferRun}

/-- The slot holds the last answer deferred. -/
structure Inv (s : DeferRun) : Prop where
  slot : s.deferred.getLast? = s.world.answeredCallQueue.kept
  numbered : ∀ d ∈ s.deferred, d.1 ≠ CallLookups.invalidCallId

theorem Inv.answerCall (h : Inv s) (env : ControlEnv) (callId videoState : ℤ) (isRTT : Bool) :
    Inv (s.step (.answerCall env callId videoState isRTT)) := by
  have hqueue : (s.step (.answerCall env callId videoState isRTT)).world.answeredCallQueue = _ :=
    answeredCallQueue_answerCall s.world videoState isRTT
  cases hcall : deferredCall env s.world callId with
  | none =>
    have hkept : s.deferredAfter env callId videoState = s.deferred := by
      unfold deferredAfter
      rw [hcall]
    rw [hcall] at hqueue
    refine ⟨?_, ?_⟩
    · show (s.deferredAfter env callId videoState).getLast? = AnsweredCallQueue.kept _
      rw [hkept, hqueue]
      exact h.slot
    · show ∀ d ∈ s.deferredAfter env callId videoState, _
      rw [hkept]
      exact h.numbered
  | some call =>
    have hlast : s.deferredAfter env callId videoState =
        (s.deferred.filter fun d => d.1 ≠ call.callId) ++ [(call.callId, videoState)] := by
      unfold deferredAfter
      rw [hcall]
    rw [hcall] at hqueue
    refine ⟨?_, ?_⟩
    · show (s.deferredAfter env callId videoState).getLast? = AnsweredCallQueue.kept _
      rw [hlast, hqueue, List.getLast?_append]
      rfl
    · show ∀ d ∈ s.deferredAfter env callId videoState, _
      rw [hlast]
      intro d hd
      rcases List.mem_append.mp hd with hd | hd
      · exact h.numbered d (List.mem_filter.mp hd).1
      · rw [List.mem_singleton.mp hd]
        exact call.numbered

theorem Inv.setVoIPCallState (h : Inv s) (env : ControlEnv) (state : CallStateToApp) :
    Inv (s.step (.setVoIPCallState env state)) := by
  cases state with
  | idle =>
    refine ⟨?_, nofun⟩
    show none = AnsweredCallQueue.kept _
    unfold step CallControl.setVoIPCallState
    dsimp only
    by_cases hcall : s.world.answeredCallQueue.hasCall = true
    · rw [if_pos hcall]
      dsimp only
      rw [answeredCallQueue_answerCall]
      unfold deferredCall
      rw [if_neg fun h => h.2 rfl]
      rfl
    · rw [if_neg hcall]
      exact (if_neg hcall).symm
  | _ => exact ⟨h.slot, h.numbered⟩

/-- The slot holds the last answer deferred throughout a run. -/
theorem inv_step (s : DeferRun) (op : DeferOp) (h : Inv s) : Inv (s.step op) := by
  cases op with
  | answerCall env callId videoState isRTT => exact h.answerCall env callId videoState isRTT
  | setVoIPCallState env state => exact h.setVoIPCallState env state
  | _ => exact ⟨h.slot, h.numbered⟩

/-! ## Runs -/

/-- **One change.** A change to the idle state is as specified iff it meets the condition. -/
theorem resumes_iff_stepOk (s : DeferRun) (op : DeferOp) (h : Inv s) :
    s.Resumes op ↔ s.StepOk op := by
  cases op with
  | setVoIPCallState env state =>
    cases state with
    | idle =>
      have hid : ∀ d ∈ s.world.answeredCallQueue.kept,
          d.1 ≠ CallLookups.invalidCallId := fun d hd =>
        h.numbered d (List.mem_of_getLast? (h.slot.trans hd))
      unfold Resumes StepOk
      dsimp only
      rw [answersOf_idle _ hid, ← h.slot]
      exact count_last_iff (p := fun d : ℤ × ℤ => Rings s.world.calls d.1)
        (q := fun d => MayAnswer env d.2)
    | _ => exact Iff.rfl
  | _ => exact Iff.rfl

/-- **An answer that waits for a VoIP call.** Each change of a run to the idle state makes
    the answers deferred for calls that still ring, each once and with its own video
    state, and no other answer, iff each finds no deferred call ringing except the last
    one, whose answer may be made. -/
theorem resumes_iff (w : ControlWorld) (h : w.answeredCallQueue.hasCall = false)
    (ops : List DeferOp) :
    Run.StepsMeet step Resumes ⟨w, []⟩ ops ↔ Run.StepsMeet step StepOk ⟨w, []⟩ ops := by
  have hinv : Inv ⟨w, []⟩ := by
    refine ⟨?_, nofun⟩
    show none = AnsweredCallQueue.kept _
    unfold AnsweredCallQueue.kept
    rw [if_neg (Bool.eq_false_iff.mp h)]
  exact Run.stepsMeet_iff_of_ops (Q := fun _ => True) (fun s op _ => inv_step s op)
    (fun s op _ => resumes_iff_stepOk s op) ops (fun _ _ => trivial) hinv

end DeferRun

/-- Two calls ring while a VoIP call is off hook. -/
def ringingBehindVoip : ControlWorld where
  calls := twoRinging
  voIPCallState := .offhook
  answeredCallQueue := ⟨false, 0, 0⟩

/-- The answer of the second call, and the end of the VoIP call. -/
def deferredOps : List DeferOp :=
  [.answerCall takingEnv 2 0 false, .setVoIPCallState takingEnv .idle]

theorem one_answer_resumed :
    Run.StepsMeet DeferRun.step DeferRun.Resumes ⟨ringingBehindVoip, []⟩ deferredOps :=
  (DeferRun.resumes_iff ringingBehindVoip rfl deferredOps).mpr (by decide)

/-- The answers of both calls, and the end of the VoIP call. -/
def overwrittenOps : List DeferOp :=
  [.answerCall takingEnv 1 0 false, .answerCall takingEnv 2 0 false,
    .setVoIPCallState takingEnv .idle]

/-- The second answer takes the slot of the first, which is not made. -/
theorem first_deferred_lost :
    ¬ ∀ (w : ControlWorld), w.answeredCallQueue.hasCall = false → ∀ ops : List DeferOp,
      Run.StepsMeet DeferRun.step DeferRun.Resumes ⟨w, []⟩ ops := by
  intro hall
  obtain ⟨-, -, hresumes, -⟩ := hall ringingBehindVoip rfl overwrittenOps
  exact absurd (hresumes (1, 0)) (by decide)

end CallManager.CallControl
