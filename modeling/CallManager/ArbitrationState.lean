import CallManager.RefreshedCall

/-!
# What a refreshed call forgets

On a dual-active device the flags of a call object carry the decisions about it
from one report to the next: that it is to be answered once another call is on
hold, and with which video state; that it may be taken off hold, or swapped; that
the user has answered it, or that the phone has; what the spam detection says of
it; and who is calling. They are fields of `CallBase` that its constructors
initialise.

When a report gives the call another type, `RefreshCall` makes a new object. It
copies the states, the times and the settings (`RefreshedCall`), and none of
these.

Results:
* `refreshCall_keeps_iff`: `RefreshCall` returns an object with the flags of the
  old one iff it makes no new object or the flags are those of a new call.
* `remembered_iff`: in a run, a call has what was decided about it iff it is only
  refreshed while nothing has been.
* `answered_call_forgotten`: a ringing IMS call that is to be answered, and
  becomes a CS call, is not to be answered any more.
-/

namespace CallManager

/-! ## Model -/

/-- `ContactInfo` (common_type.h:88-98), with its initial values. -/
structure ContactInfo where
  name : String := ""
  number : String := ""
  isContacterExists : Bool := false
  ringtonePath : String := ""
  personalNotificationRingtone : String := ""
  isSendToVoicemail : Bool := false
  isEcc : Bool := false
  isVoiceMail : Bool := false
  isQueryComplete : Bool := false
  deriving DecidableEq, Repr

/-- The fields of `CallBase` that carry the decisions about a call (call_base.h:202-207, 225,
    232 and 235). -/
structure ArbitrationState where
  autoAnswerState : Bool
  canUnHoldState : Bool
  canSwitchCallState : Bool
  answerVideoState : ℤ
  isAnswered : Bool
  isAnsweredByPhone : Bool
  antiFraudState : ℤ
  contactInfo : ContactInfo
  deriving DecidableEq, Repr

/-- What both constructors write (call_base.cpp:36-73); those of the subclasses add nothing to
    it. -/
def ArbitrationState.initial : ArbitrationState where
  autoAnswerState := false
  canUnHoldState := true
  canSwitchCallState := true
  answerVideoState := 0
  isAnswered := false
  isAnsweredByPhone := false
  antiFraudState := 0
  contactInfo := {}

/-- The setters of these fields (call_base.cpp:372-424, 523-527, 682-686, 806-810 and 840-844). -/
inductive ArbitrationSetter
  | setAutoAnswerState (flag : Bool)
  | setCanUnHoldState (flag : Bool)
  | setCanSwitchCallState (flag : Bool)
  | setAnswerVideoState (videoState : ℤ)
  | setAnsweredCall (isAnswered : Bool)
  | setIsAnsweredByPhone (isAnsweredByPhone : Bool)
  | setAntiFraudState (antiFraudState : ℤ)
  | setCallerInfo (info : ContactInfo)
  deriving DecidableEq, Repr

/-- What a setter does to the fields. -/
def ArbitrationSetter.apply (a : ArbitrationState) : ArbitrationSetter → ArbitrationState
  | .setAutoAnswerState flag => { a with autoAnswerState := flag }
  | .setCanUnHoldState flag => { a with canUnHoldState := flag }
  | .setCanSwitchCallState flag => { a with canSwitchCallState := flag }
  | .setAnswerVideoState videoState => { a with answerVideoState := videoState }
  | .setAnsweredCall isAnswered => { a with isAnswered := isAnswered }
  | .setIsAnsweredByPhone isAnsweredByPhone => { a with isAnsweredByPhone := isAnsweredByPhone }
  | .setAntiFraudState antiFraudState => { a with antiFraudState := antiFraudState }
  | .setCallerInfo info => { a with contactInfo := info }

/-- The state of the service, with the flags of each object. -/
structure ArbitrationWorld extends RefreshWorld where
  arbitration : Ref → ArbitrationState

namespace ArbitrationWorld

/-- A setter is called on an object. -/
def set (w : ArbitrationWorld) (call : Ref) (setter : ArbitrationSetter) : ArbitrationWorld :=
  { w with arbitration := Function.update w.arbitration call (setter.apply (w.arbitration call)) }

/-- `CreateNewCall`, as the flags see it (call_status_manager.cpp:2007-2027): the constructor of
    the new object. `SetCallParams` and what it starts in the background write other fields. -/
def createNewCall (env : StatusEnv) (w : ArbitrationWorld) (info : CallDetailInfo) :
    Option Ref × (Ref → ArbitrationState) :=
  match (w.status.createNewCall env info).1 with
  | none => (none, w.arbitration)
  | some newCall => (some newCall, Function.update w.arbitration newCall .initial)

/-- `RefreshCall` (call_status_manager.cpp:1884-1925). After `CreateNewCall`, its setters write
    the fields of `RefreshWorld` and `SetTelCallState` does too. -/
def refreshCall (ins : Insertion) (env : StatusEnv) (clock : Clock) (w : ArbitrationWorld)
    (call : Ref) (info : CallDetailInfo) : Ref × ArbitrationWorld :=
  let r := w.toRefreshWorld.refreshCall ins env clock call info
  (r.1,
    { toRefreshWorld := r.2
      arbitration :=
        if (w.status.heap call).isSome then (w.createNewCall env info).2 else w.arbitration })

end ArbitrationWorld

/-! ## Specification -/

/-- **The returned object has the flags of the one it replaces.** -/
def KeepsArbitration (ins : Insertion) (env : StatusEnv) (clock : Clock) (w : ArbitrationWorld)
    (call : Ref) (info : CallDetailInfo) : Prop :=
  (w.refreshCall ins env clock call info).2.arbitration
      (w.refreshCall ins env clock call info).1 =
    w.arbitration call

/-- A new object is made for the call. -/
def Replaced (w : ArbitrationWorld) (call : Ref) (info : CallDetailInfo) : Prop :=
  (w.status.heap call).isSome = true ∧ info.callType ≠ .errCall

instance (w : ArbitrationWorld) (call : Ref) (info : CallDetailInfo) :
    Decidable (Replaced w call info) :=
  inferInstanceAs (Decidable (_ ∧ _))

/-- A call that the run follows: the state of the service, the object that stands
    for the call, and what has been decided about it. -/
structure FollowedCall where
  world : ArbitrationWorld
  call : Ref
  decided : ArbitrationState

/-- One step: a setter is called, a call is refreshed, or something else happens
    that writes no flag. -/
inductive ArbitrationOp
  | set (call : Ref) (setter : ArbitrationSetter)
  | refresh (ins : Insertion) (env : StatusEnv) (clock : Clock) (call : Ref)
      (info : CallDetailInfo)
  | other (world : RefreshWorld)

/-- The state after a step. The references of other objects made on the way are
    not given out again. -/
def arbitrationStep (f : FollowedCall) : ArbitrationOp → FollowedCall
  | .set call setter =>
    { f with
      world := f.world.set call setter
      decided := if call = f.call then setter.apply f.decided else f.decided }
  | .refresh ins env clock call info =>
    let r := f.world.refreshCall ins env clock call info
    { f with world := r.2, call := if call = f.call then r.1 else f.call }
  | .other world =>
    if f.world.status.nextRef ≤ world.status.nextRef then
      { f with world := { f.world with toRefreshWorld := world } }
    else f

/-- **What has been decided about the call is remembered.** -/
def Remembered (f : FollowedCall) : Prop := f.world.arbitration f.call = f.decided

/-- The steps that forget nothing: the call is replaced only while nothing has been
    decided about it. -/
def RefreshOk (f : FollowedCall) : ArbitrationOp → Prop
  | .refresh _ _ _ call info =>
    call = f.call → Replaced f.world call info → f.world.arbitration f.call = .initial
  | .set _ _ | .other _ => True

/-! ## One refresh -/

section

variable {ins : Insertion} {env : StatusEnv} {clock : Clock} {w : ArbitrationWorld} {call : Ref}
  {info : CallDetailInfo}

theorem createNewCall_of_errCall (h : info.callType = .errCall) :
    (w.status.createNewCall env info).1 = none := by
  simp [StatusWorld.createNewCall, CallBase.newCall, h]

theorem createNewCall_of_ne_errCall (h : info.callType ≠ .errCall) :
    (w.status.createNewCall env info).1 = some w.status.nextRef := by
  obtain ⟨n, s, hcreate, -⟩ := RefreshWorld.createNewCall_created env w.status h
  rw [hcreate]

/-- The object that `RefreshCall` returns: a new one, or the old one. -/
theorem refreshCall_fst_of_replaced (h : Replaced w call info) :
    (w.refreshCall ins env clock call info).1 = w.status.nextRef := by
  obtain ⟨hsome, hnew⟩ := h
  obtain ⟨c, hc⟩ := Option.isSome_iff_exists.mp hsome
  obtain ⟨n, s, hcreate, -⟩ := RefreshWorld.createNewCall_created env w.status hnew
  show (w.toRefreshWorld.refreshCall ins env clock call info).1 = _
  rw [RefreshWorld.refreshCall_fst]
  unfold StatusWorld.refreshCall
  rw [hc]
  dsimp only
  rw [hcreate]

theorem refreshCall_fst_of_not_replaced (h : ¬ Replaced w call info) :
    (w.refreshCall ins env clock call info).1 = call := by
  show (w.toRefreshWorld.refreshCall ins env clock call info).1 = _
  rw [RefreshWorld.refreshCall_fst]
  unfold StatusWorld.refreshCall
  cases hc : w.status.heap call with
  | none => rfl
  | some c =>
    have herr : info.callType = .errCall := by
      by_contra hnew
      exact h ⟨by rw [hc]; rfl, hnew⟩
    have hnone : (w.status.createNewCall env info).1 = none := createNewCall_of_errCall herr
    dsimp only
    rcases hcreate : w.status.createNewCall env info with ⟨created, s⟩
    rw [hcreate] at hnone
    obtain rfl : created = none := hnone
    rfl

/-- The flags after `RefreshCall`: those of the new object are initial. -/
theorem refreshCall_arbitration_of_replaced (h : Replaced w call info) :
    (w.refreshCall ins env clock call info).2.arbitration =
      Function.update w.arbitration w.status.nextRef .initial := by
  unfold ArbitrationWorld.refreshCall ArbitrationWorld.createNewCall
  dsimp only
  rw [if_pos h.1, createNewCall_of_ne_errCall h.2]

theorem refreshCall_arbitration_of_not_replaced (h : ¬ Replaced w call info) :
    (w.refreshCall ins env clock call info).2.arbitration = w.arbitration := by
  unfold ArbitrationWorld.refreshCall ArbitrationWorld.createNewCall
  dsimp only
  by_cases hsome : (w.status.heap call).isSome = true
  · have herr : info.callType = .errCall := by
      by_contra hnew
      exact h ⟨hsome, hnew⟩
    rw [if_pos hsome, createNewCall_of_errCall herr]
  · rw [if_neg hsome]

end

/-- **`RefreshCall` keeps the flags of a call iff it makes no new object or the
    flags are those of a new call.** -/
theorem refreshCall_keeps_iff (ins : Insertion) (env : StatusEnv) (clock : Clock)
    (w : ArbitrationWorld) (call : Ref) (info : CallDetailInfo) :
    KeepsArbitration ins env clock w call info ↔
      (Replaced w call info → w.arbitration call = .initial) := by
  unfold KeepsArbitration
  by_cases hrep : Replaced w call info
  · rw [refreshCall_fst_of_replaced hrep, refreshCall_arbitration_of_replaced hrep,
      Function.update_self]
    exact ⟨fun h _ => h.symm, fun h => (h hrep).symm⟩
  · rw [refreshCall_fst_of_not_replaced hrep, refreshCall_arbitration_of_not_replaced hrep]
    exact iff_of_true rfl fun h => absurd h hrep

/-- An IMS call that rings and is to be answered as a video call once the active
    call is on hold. -/
def answeredCall : CallBase where
  callId := 41
  objectType := .ims
  callType := .ims
  accountNumber := "5550141"
  callState := .incoming
  callRunningState := .ringing
  conferenceState := .idle
  slotId := 0
  index := 1
  phoneIndex := 0
  phoneOrWatch := 0
  videoState := .video
  voipCallInfo := {}
  isNonVirtualCall := false

/-- The state with this call, answered by the user and waiting. -/
def answeredWorld : ArbitrationWorld where
  status :=
    { StatusWorld.init with
      heap := fun r => if r = 0 then some answeredCall else none
      nextRef := 1
      store := { CallObjectManager.init with callObjectPtrList := [0], callId := 41 } }
  history := fun _ => CallHistory.zero
  arbitration := fun _ =>
    { ArbitrationState.initial with
      autoAnswerState := true
      answerVideoState := 3
      isAnswered := true
      antiFraudState := 2
      contactInfo := { name := "Zhang", number := "5550141", isContacterExists := true } }

/-- The network moves the call to the CS domain: the object that replaces it is
    not to be answered, was not answered, and has no caller. -/
theorem answered_call_forgotten :
    let r := answeredWorld.refreshCall .restored modemEnv ⟨160, 160000⟩ 0
      (slotCall .cs 1 .incoming 0)
    ¬ KeepsArbitration .restored modemEnv ⟨160, 160000⟩ answeredWorld 0
        (slotCall .cs 1 .incoming 0) ∧
      (answeredWorld.arbitration 0).autoAnswerState = true ∧
      r.2.status.store.callObjectPtrList = [r.1] ∧ r.2.arbitration r.1 = .initial := by
  intro r
  have hnew : r.2.arbitration r.1 = .initial := by decide +kernel
  refine ⟨fun h => ?_, rfl, by decide +kernel, hnew⟩
  have hkept : r.2.arbitration r.1 = answeredWorld.arbitration 0 := h
  rw [hnew] at hkept
  exact absurd hkept (by decide)

/-! ## A run -/

section

variable {ins : Insertion} {env : StatusEnv} {clock : Clock} {w : ArbitrationWorld} {call : Ref}
  {info : CallDetailInfo}

theorem exchangeCall_nextRef {s : StatusWorld} {newCall : Ref} {c : CallBase} :
    (s.exchangeCall ins env newCall c info).nextRef = s.nextRef := by
  unfold StatusWorld.exchangeCall
  dsimp only
  split_ifs <;> rfl

/-- `RefreshCall` gives no reference out again. -/
theorem refreshCall_nextRef :
    (w.refreshCall ins env clock call info).2.status.nextRef =
      if Replaced w call info then w.status.nextRef + 1 else w.status.nextRef := by
  show (w.toRefreshWorld.refreshCall ins env clock call info).2.status.nextRef = _
  rw [RefreshWorld.refreshCall_status]
  unfold StatusWorld.refreshCall
  cases hc : w.status.heap call with
  | none =>
    rw [if_neg fun h => absurd h.1 (by simp [hc])]
  | some c =>
    dsimp only
    rcases hcreate : w.status.createNewCall env info with ⟨_ | newCall, s⟩
    · obtain ⟨herr, rfl⟩ := StatusWorld.createNewCall_eq_none hcreate
      rw [if_neg fun h => h.2 herr]
    · have hnext := (StatusWorld.createNewCall_some hcreate).2.1
      have hnew : info.callType ≠ .errCall := by
        intro herr
        have hnone : (w.status.createNewCall env info).1 = none :=
          createNewCall_of_errCall herr
        rw [hcreate] at hnone
        exact nomatch hnone
      rw [if_pos ⟨by simp [hc], hnew⟩, ← hnext]
      exact exchangeCall_nextRef

end

/-- The object that stands for the call has been given out. -/
def GivenOut (f : FollowedCall) : Prop := f.call < f.world.status.nextRef

theorem GivenOut.step {f : FollowedCall} (h : GivenOut f) (op : ArbitrationOp) :
    GivenOut (arbitrationStep f op) := by
  unfold GivenOut at h
  cases op with
  | set call setter => exact h
  | refresh ins env clock call info =>
    show (if call = f.call then (f.world.refreshCall ins env clock call info).1 else f.call) <
      (f.world.refreshCall ins env clock call info).2.status.nextRef
    rw [refreshCall_nextRef]
    by_cases hrep : Replaced f.world call info
    · rw [if_pos hrep, refreshCall_fst_of_replaced hrep]
      split_ifs
      · exact Nat.lt_succ_self _
      · exact Nat.lt_succ_of_lt h
    · rw [if_neg hrep, refreshCall_fst_of_not_replaced hrep]
      split_ifs with hcall
      · exact hcall ▸ h
      · exact h
  | other world =>
    unfold arbitrationStep
    dsimp only
    split_ifs with hle
    · exact lt_of_lt_of_le h hle
    · exact h

/-- The refresh of another call writes no flag of this one. -/
theorem refreshCall_arbitration_of_ne {ins : Insertion} {env : StatusEnv} {clock : Clock}
    {w : ArbitrationWorld} {call r : Ref} {info : CallDetailInfo} (hr : r < w.status.nextRef) :
    (w.refreshCall ins env clock call info).2.arbitration r = w.arbitration r := by
  by_cases hrep : Replaced w call info
  · rw [refreshCall_arbitration_of_replaced hrep, Function.update_of_ne hr.ne]
  · rw [refreshCall_arbitration_of_not_replaced hrep]

/-- A step remembers what was decided iff it does not replace a call of which something was. -/
theorem remembered_step_iff {f : FollowedCall} (hgiven : GivenOut f) (h : Remembered f)
    (op : ArbitrationOp) : Remembered (arbitrationStep f op) ↔ RefreshOk f op := by
  unfold Remembered at h
  cases op with
  | set call setter =>
    refine iff_of_true ?_ trivial
    show Function.update f.world.arbitration call (setter.apply (f.world.arbitration call))
      f.call = if call = f.call then setter.apply f.decided else f.decided
    by_cases hcall : call = f.call
    · rw [if_pos hcall, hcall, Function.update_self, h]
    · rw [if_neg hcall, Function.update_of_ne (Ne.symm hcall), h]
  | refresh ins env clock call info =>
    show (f.world.refreshCall ins env clock call info).2.arbitration
        (if call = f.call then (f.world.refreshCall ins env clock call info).1 else f.call) =
      f.decided ↔ (call = f.call → Replaced f.world call info →
        f.world.arbitration f.call = .initial)
    by_cases hcall : call = f.call
    · rw [if_pos hcall, ← h, ← hcall]
      exact (refreshCall_keeps_iff ins env clock f.world call info).trans
        ⟨fun hk _ => hk, fun hk => hk rfl⟩
    · rw [if_neg hcall, refreshCall_arbitration_of_ne hgiven]
      exact iff_of_true h fun hc => absurd hc hcall
  | other world =>
    refine iff_of_true ?_ trivial
    unfold arbitrationStep Remembered
    dsimp only
    split_ifs <;> exact h

/-- **In a run of decisions, refreshes and anything else, a call has what was
    decided about it iff it is only replaced while nothing has been.** -/
theorem remembered_iff {f : FollowedCall} (hgiven : GivenOut f) (h : Remembered f)
    (ops : List ArbitrationOp) :
    Run.StatesMeet arbitrationStep Remembered f ops ↔
      Run.StepsMeet arbitrationStep RefreshOk f ops :=
  Run.statesMeet_iff_stepsMeet_of_invariant (fun _ op h => h.step op)
    (fun _ op hg hr => remembered_step_iff hg hr op) ops hgiven h

end CallManager
