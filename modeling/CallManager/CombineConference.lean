import CallManager.CallKeys

/-!
# Combining calls into a conference

`CombineConference` makes the call the main call of the conference of its class,
sets the state to CREATING and asks the modem. A refusal that the modem reports
later goes to `HandleCombineConferenceFailEvent` of the active call, which puts
the old state back. When the modem reports the calls as combined,
`LaunchConference` lets each of them join.

Specification: a combine that fails, or asks for nothing because another one is
in progress, leaves the conference as it is; one that succeeds has asked the
modem, or an earlier one has and is not answered yet; so the state is CREATING
only while a request is outstanding. And a launched call is a member of an
active conference, in both classes.

A combine that the modem refuses at once leaves the main call and CREATING
behind, and the later ones succeed without a request. `CSCall::LaunchConference`
sets the state to IDLE before the call is to join, and no call joins an idle
conference.

Results:
* `combine_iff`: the requests and states of a run are as specified iff each step
  meets `StepOk`.
* `refused_combine_blocks`: the second of two combines, after one that is refused.
* `launchConference_iff`: a call of the two classes is launched iff it is an IMS
  call, and the classes agree iff the conference is idle.
-/

namespace CallManager.Combining

/-! ## Model -/

/-- The classes of carrier calls that have conferences. -/
inductive CarrierClass
  | cs | ims
  deriving DecidableEq, Repr

/-- The type of the calls of a class. -/
def CarrierClass.callType : CarrierClass → CallType
  | .cs => .cs
  | .ims => .ims

/-- What `CarrierCombineConference` meets: whether `cellularCallConnectionPtr_` is
    there, and what its `CombineConference` returns. -/
structure ModemAnswer where
  connected : Bool
  ret : ErrorCode
  deriving DecidableEq, Repr

/-- The conference objects of the two classes, and for each whether a combine
    request that the modem has accepted is still to be answered. -/
structure CombineWorld where
  conference : CarrierClass → Conference
  outstanding : CarrierClass → Bool

/-- What a combine returns, whether it has sent a request, and the conference after it. -/
structure CombineResult where
  ret : ErrorCode
  sent : Bool
  conference : Conference

/-- `CarrierCall::CarrierCombineConference` (carrier_call.cpp:226-238). -/
def carrierCombineConference (modem : ModemAnswer) : ErrorCode × Bool :=
  if modem.connected = false then (.telephonyErrLocalPtrNull, false) else (modem.ret, true)

/-- `CombineConference` of both classes (cs_call.cpp:74-87, ims_call.cpp:153-167). -/
def combineConference (modem : ModemAnswer) (c : Conference) (callId : ℤ) : CombineResult :=
  let (ret, c) := c.setMainCall callId
  if ret ≠ .telephonySuccess then ⟨ret, false, c⟩
  else if c.state = .creating then ⟨.telephonySuccess, false, c⟩
  else
    let (ret, sent) := carrierCombineConference modem
    ⟨ret, sent, c.setConferenceState .creating⟩

/-- `HandleCombineConferenceFailEvent` of both classes (cs_call.cpp:89-99,
    ims_call.cpp:169-179). -/
def handleCombineConferenceFailEvent (c : Conference) : Conference :=
  let c := (c.setMainCall (Conference.begin c.subCallIdSet errId)).2
  c.setConferenceState c.oldState

/-- `JoinToConference` of a class, as `LaunchConference` calls it (cs_call.cpp:131-138,
    ims_call.cpp:217-224): `CSCall` sets the state to IDLE first. -/
def CarrierClass.launch (k : CarrierClass) (c : Conference) (callId : ℤ) :
    ErrorCode × Conference :=
  match k with
  | .cs => CsConference.joinToConference (c.setConferenceState .idle) callId
  | .ims => ImsConference.joinToConference c callId

/-- What can happen to the conferences: a combine of a call, the report that a combine of a
    class has failed, with the type of the active call, and the calls of the status reports. -/
inductive CombineOp
  | combine (k : CarrierClass) (callId : ℤ) (modem : ModemAnswer)
  | combineFailed (failed : CarrierClass) (activeCall : Option CallType)
  | launch (k : CarrierClass) (callId : ℤ)
  | exit (k : CarrierClass) (callId junk : ℤ)
  | hold (k : CarrierClass) (callId : ℤ)
  | updateConferenceId (callId : ℤ)
  deriving DecidableEq

namespace CombineWorld

variable (w : CombineWorld)

/-- The start. -/
def init : CombineWorld := ⟨fun _ => .init, fun _ => false⟩

/-- The conference of a class is replaced. -/
def setConference (k : CarrierClass) (c : Conference) : CombineWorld :=
  { w with conference := Function.update w.conference k c }

/-- Whether a request of a class is outstanding is set. -/
def setOutstanding (k : CarrierClass) (outstanding : Bool) : CombineWorld :=
  { w with outstanding := Function.update w.outstanding k outstanding }

/-- The combine of a call. -/
def combine (k : CarrierClass) (callId : ℤ) (modem : ModemAnswer) : CombineWorld :=
  let r := combineConference modem (w.conference k) callId
  let w := w.setConference k r.conference
  if r.sent ∧ r.ret = .telephonySuccess then w.setOutstanding k true else w

/-- The report `EVENT_COMBINE_CALL_FAILED` (call_status_manager.cpp:425-429): it goes to the
    active call, whose class may be another one. -/
def combineFailed (failed : CarrierClass) (activeCall : Option CallType) : CombineWorld :=
  let w := w.setOutstanding failed false
  match activeCall with
  | some .cs => w.setConference .cs (handleCombineConferenceFailEvent (w.conference .cs))
  | some .ims => w.setConference .ims (handleCombineConferenceFailEvent (w.conference .ims))
  | _ => w

/-- One operation. The report that launches a conference answers the request. -/
def step : CombineOp → CombineWorld
  | .combine k callId modem => w.combine k callId modem
  | .combineFailed failed activeCall => w.combineFailed failed activeCall
  | .launch k callId =>
    (w.setConference k (k.launch (w.conference k) callId).2).setOutstanding k false
  | .exit k callId junk =>
    w.setConference k ((w.conference k).leaveFromConference junk callId).2
  | .hold k callId => w.setConference k ((w.conference k).holdConference callId).2
  | .updateConferenceId callId =>
    w.setConference .cs (CsConference.updateConferenceId (w.conference .cs) callId)

end CombineWorld

/-! ## Specification -/

namespace CombineWorld

variable (w : CombineWorld)

/-- A conference is being created only while a request for it is outstanding, and
    the state that a failure puts back is another one. -/
structure Sound : Prop where
  requested : ∀ k, (w.conference k).state = .creating → w.outstanding k = true
  oldState : ∀ k, (w.conference k).oldState ≠ .creating

/-- A combine that fails or sends nothing leaves the conference as it is, and one
    that succeeds has sent a request or follows one that is outstanding. -/
def Atomic : CombineOp → Prop
  | .combine k callId modem =>
    let r := combineConference modem (w.conference k) callId
    (r.ret ≠ .telephonySuccess ∨ r.sent = false → r.conference = w.conference k) ∧
      (r.ret = .telephonySuccess → r.sent = true ∨ w.outstanding k = true)
  | _ => True

/-- The condition on a step: a combine is of no call at all, or of the main call if
    one is in progress, and else the modem accepts it; and the active call is of the
    class whose combine has failed, if that has a conference being created. -/
def StepOk : CombineOp → Prop
  | .combine k callId modem =>
    callId < errId ∨
      if (w.conference k).state = .creating then (w.conference k).mainCallId = callId
      else modem.connected = true ∧ modem.ret = .telephonySuccess
  | .combineFailed failed activeCall =>
    (w.conference failed).state = .creating → activeCall = some failed.callType
  | _ => True

instance (op : CombineOp) : Decidable (w.StepOk op) := by
  cases op <;> unfold StepOk <;> infer_instance

end CombineWorld

/-! ## One step -/

section Combine

variable {modem : ModemAnswer} {c : Conference} {callId : ℤ}

theorem combineConference_of_invalid (h : callId < errId) :
    combineConference modem c callId = ⟨.callErrInvalidCallId, false, c⟩ := by
  unfold combineConference Conference.setMainCall
  rw [if_pos h]
  rfl

/-- A combine while another one is in progress changes the main call only. -/
theorem combineConference_of_creating (h : ¬ callId < errId) (hstate : c.state = .creating) :
    combineConference modem c callId =
      ⟨.telephonySuccess, false, { c with mainCallId := callId }⟩ := by
  unfold combineConference Conference.setMainCall
  rw [if_neg h]
  exact if_pos hstate

theorem combineConference_of_not_creating (h : ¬ callId < errId) (hstate : c.state ≠ .creating) :
    combineConference modem c callId =
      ⟨(carrierCombineConference modem).1, (carrierCombineConference modem).2,
        { c with mainCallId := callId, state := .creating }⟩ := by
  unfold combineConference Conference.setMainCall
  rw [if_neg h]
  exact if_neg hstate

theorem carrierCombineConference_success_iff :
    (carrierCombineConference modem).1 = .telephonySuccess ∧
        (carrierCombineConference modem).2 = true ↔
      modem.connected = true ∧ modem.ret = .telephonySuccess := by
  unfold carrierCombineConference
  cases modem.connected <;> simp

theorem state_handleCombineConferenceFailEvent :
    (handleCombineConferenceFailEvent c).state = c.oldState ∧
      (handleCombineConferenceFailEvent c).oldState = c.oldState := by
  unfold handleCombineConferenceFailEvent Conference.setMainCall Conference.setConferenceState
  split_ifs <;> exact ⟨rfl, rfl⟩

/-- What the calls of a status report leave of CREATING. -/
structure KeepsCreating (c c' : Conference) : Prop where
  state : c'.state = .creating → c.state = .creating
  oldState : c.oldState ≠ .creating → c'.oldState ≠ .creating

theorem keepsCreating_joinToConference (allowed : List ConferenceState) :
    KeepsCreating c (c.joinToConference allowed callId).2 := by
  unfold Conference.joinToConference
  by_cases hnot : c.state ∉ allowed
  · rw [if_pos hnot]
    exact ⟨id, id⟩
  · rw [if_neg hnot]
    exact ⟨nofun, fun _ => nofun⟩

theorem keepsCreating_leaveFromConference (junk : ℤ) :
    KeepsCreating c (c.leaveFromConference junk callId).2 := by
  unfold Conference.leaveFromConference Conference.reset
  dsimp only
  by_cases hmem : callId ∈ c.subCallIdSet
  · rw [if_pos hmem]
    dsimp only
    by_cases hempty : c.subCallIdSet.erase callId = ∅
    · rw [if_pos hempty]
      exact ⟨nofun, fun _ => nofun⟩
    · rw [if_neg hempty]
      exact ⟨id, id⟩
  · rw [if_neg hmem]
    exact ⟨id, id⟩

theorem keepsCreating_holdConference : KeepsCreating c (c.holdConference callId).2 := by
  unfold Conference.holdConference Conference.reset
  by_cases hholding : c.state = .holding
  · rw [if_pos hholding]
    exact ⟨id, id⟩
  rw [if_neg hholding]
  by_cases hmem : callId ∉ c.subCallIdSet
  · rw [if_pos hmem]
    exact ⟨id, id⟩
  rw [if_neg hmem]
  by_cases hempty : c.subCallIdSet = ∅
  · rw [if_pos hempty]
    exact ⟨nofun, fun _ => nofun⟩
  · rw [if_neg hempty]
    exact ⟨nofun, fun _ => nofun⟩

/-- A launch ends the creating, whether the call joins or not. -/
theorem launch_not_creating (k : CarrierClass) : (k.launch c callId).2.state ≠ .creating := by
  have hjoin : ∀ c : Conference,
      (c.joinToConference [.creating, .active, .leaving, .holding] callId).2.state ≠ .creating := by
    intro c
    unfold Conference.joinToConference
    by_cases hnot : c.state ∉ [ConferenceState.creating, .active, .leaving, .holding]
    · rw [if_pos hnot]
      intro hstate
      rw [hstate] at hnot
      exact hnot (by decide)
    · rw [if_neg hnot]
      nofun
  cases k with
  | cs => exact hjoin _
  | ims => exact hjoin _

theorem launch_oldState (k : CarrierClass) (h : c.oldState ≠ .creating) :
    (k.launch c callId).2.oldState ≠ .creating := by
  cases k with
  | cs => exact (keepsCreating_joinToConference _).oldState h
  | ims => exact (keepsCreating_joinToConference _).oldState h

end Combine

namespace CombineWorld

variable {w : CombineWorld}

theorem setConference_self (w : CombineWorld) (k : CarrierClass) (c : Conference) :
    (w.setConference k c).conference k = c := Function.update_self ..

theorem setConference_of_ne (w : CombineWorld) {j k : CarrierClass} (c : Conference) (h : j ≠ k) :
    (w.setConference k c).conference j = w.conference j := Function.update_of_ne h ..

theorem setOutstanding_self (w : CombineWorld) (k : CarrierClass) (outstanding : Bool) :
    (w.setOutstanding k outstanding).outstanding k = outstanding := Function.update_self ..

theorem setOutstanding_of_ne (w : CombineWorld) {j k : CarrierClass} (outstanding : Bool)
    (h : j ≠ k) : (w.setOutstanding k outstanding).outstanding j = w.outstanding j :=
  Function.update_of_ne h ..

theorem conference_setOutstanding (w : CombineWorld) (k : CarrierClass) (outstanding : Bool) :
    (w.setOutstanding k outstanding).conference = w.conference := rfl

/-- A conference is replaced by one that is not newly being created. -/
theorem Sound.setConference (h : w.Sound) {k : CarrierClass} {c : Conference}
    (hkeep : KeepsCreating (w.conference k) c) : (w.setConference k c).Sound where
  requested j hj := by
    by_cases hjk : j = k
    · subst hjk
      rw [setConference_self] at hj
      exact h.requested j (hkeep.state hj)
    · rw [setConference_of_ne w c hjk] at hj
      exact h.requested j hj
  oldState j := by
    by_cases hjk : j = k
    · subst hjk
      rw [setConference_self]
      exact hkeep.oldState (h.oldState j)
    · rw [setConference_of_ne w c hjk]
      exact h.oldState j

/-- A request is answered when its conference is not being created any more. -/
theorem setOutstanding_sound_iff (h : w.Sound) {k : CarrierClass} :
    (w.setOutstanding k false).Sound ↔ (w.conference k).state ≠ .creating := by
  constructor
  · intro h' hstate
    have hanswered := h'.requested k hstate
    rw [setOutstanding_self] at hanswered
    cases hanswered
  · refine fun hstate => ⟨fun j hj => ?_, h.oldState⟩
    by_cases hjk : j = k
    · subst hjk
      exact absurd hj hstate
    · rw [setOutstanding_of_ne w false hjk]
      exact h.requested j hj

/-- A combine keeps the conferences in order and is atomic iff it is of no call, or of
    the main call of the one in progress, or the modem accepts it. -/
theorem combine_sound_iff (h : w.Sound) (k : CarrierClass) (callId : ℤ) (modem : ModemAnswer) :
    (w.combine k callId modem).Sound ∧ w.Atomic (.combine k callId modem) ↔
      w.StepOk (.combine k callId modem) := by
  rw [combine, Atomic, StepOk]
  by_cases hid : callId < errId
  · rw [combineConference_of_invalid hid]
    refine iff_of_true ⟨?_, fun _ => rfl, nofun⟩ (.inl hid)
    exact h.setConference ⟨id, id⟩
  by_cases hstate : (w.conference k).state = .creating
  · rw [combineConference_of_creating hid hstate, if_pos hstate]
    constructor
    · rintro ⟨-, hatomic, -⟩
      exact .inr (congrArg Conference.mainCallId (hatomic (.inr rfl))).symm
    · intro hok
      have hmain := hok.resolve_left hid
      refine ⟨h.setConference ⟨id, id⟩, fun _ => ?_, fun _ => .inr (h.requested k hstate)⟩
      dsimp only
      rw [← hmain]
  · rw [combineConference_of_not_creating hid hstate, if_neg hstate]
    dsimp only
    constructor
    · rintro ⟨-, hatomic, -⟩
      refine .inr (carrierCombineConference_success_iff.mp ?_)
      -- a combine that fails is not atomic, since the conference was not being created
      by_contra hfailed
      refine hstate (congrArg Conference.state (hatomic ?_)).symm
      by_cases hret : (carrierCombineConference modem).1 = .telephonySuccess
      · exact .inr (by simpa [hret] using hfailed)
      · exact .inl hret
    · intro hok
      obtain ⟨hret, hsent⟩ := carrierCombineConference_success_iff.mpr (hok.resolve_left hid)
      rw [if_pos ⟨hsent, hret⟩]
      refine ⟨⟨fun j hj => ?_, fun j => ?_⟩, fun hfailed => ?_, fun _ => .inl hsent⟩
      · by_cases hjk : j = k
        · subst hjk
          exact setOutstanding_self _ j true
        · rw [setOutstanding_of_ne _ true hjk]
          refine h.requested j ?_
          rw [← setConference_of_ne w _ hjk]
          exact hj
      · rw [conference_setOutstanding]
        by_cases hjk : j = k
        · subst hjk
          rw [setConference_self]
          exact h.oldState j
        · rw [setConference_of_ne w _ hjk]
          exact h.oldState j
      · rcases hfailed with hfailed | hfailed
        · exact absurd hret hfailed
        · rw [hsent] at hfailed
          cases hfailed

/-- A failure that reaches a class answers the request of the class that failed, and
    undoes the creating of the one it reaches. -/
theorem handled_sound_iff (h : w.Sound) (failed k : CarrierClass) :
    ((w.setOutstanding failed false).setConference k
        (handleCombineConferenceFailEvent (w.conference k))).Sound ↔
      ((w.conference failed).state = .creating → k = failed) := by
  obtain ⟨hstate, hold⟩ := state_handleCombineConferenceFailEvent (c := w.conference k)
  have hback : (w.setConference k (handleCombineConferenceFailEvent (w.conference k))).Sound := by
    refine h.setConference ⟨fun hcreating => ?_, fun _ => ?_⟩
    · rw [hstate] at hcreating
      exact absurd hcreating (h.oldState k)
    · rw [hold]
      exact h.oldState k
  refine (setOutstanding_sound_iff hback).trans ?_
  by_cases hk : failed = k
  · subst hk
    rw [setConference_self, hstate]
    exact iff_of_true (h.oldState failed) fun _ => rfl
  · rw [setConference_of_ne w _ hk]
    exact ⟨fun hnot hcreating => absurd hcreating hnot, fun himp hcreating =>
      hk (himp hcreating).symm⟩

/-- The report of a failure keeps the conferences in order iff it reaches the class of
    a conference that is being created. -/
theorem combineFailed_sound_iff (h : w.Sound) (failed : CarrierClass)
    (activeCall : Option CallType) :
    (w.combineFailed failed activeCall).Sound ↔ w.StepOk (.combineFailed failed activeCall) := by
  have hother : activeCall ≠ some failed.callType → ((w.setOutstanding failed false).Sound ↔
      w.StepOk (.combineFailed failed activeCall)) := fun hne =>
    (setOutstanding_sound_iff h).trans
      ⟨fun hnot hcreating => absurd hcreating hnot, fun himp hcreating => hne (himp hcreating)⟩
  have hclass : ∀ k : CarrierClass, activeCall = some k.callType →
      (((w.setOutstanding failed false).setConference k
          (handleCombineConferenceFailEvent (w.conference k))).Sound ↔
        w.StepOk (.combineFailed failed activeCall)) := by
    rintro k rfl
    refine (handled_sound_iff h failed k).trans (imp_congr_right fun _ => ?_)
    cases k <;> cases failed <;> simp [CarrierClass.callType]
  unfold combineFailed
  cases activeCall with
  | none => exact hother (by simp)
  | some callType =>
    cases callType with
    | cs => exact hclass .cs rfl
    | ims => exact hclass .ims rfl
    | _ => exact hother (by cases failed <;> simp [CarrierClass.callType])

/-- **One step.** The conferences stay in order and a combine is atomic iff the step
    meets its condition. -/
theorem step_sound_iff (w : CombineWorld) (op : CombineOp) (h : w.Sound) :
    (w.step op).Sound ∧ w.Atomic op ↔ w.StepOk op := by
  cases op with
  | combine k callId modem => exact combine_sound_iff h k callId modem
  | combineFailed failed activeCall =>
    rw [← combineFailed_sound_iff h failed activeCall]
    exact and_iff_left trivial
  | launch k callId =>
    refine iff_of_true ⟨?_, trivial⟩ trivial
    have hlaunched : (w.setConference k (k.launch (w.conference k) callId).2).Sound :=
      h.setConference ⟨fun hcreating => absurd hcreating (launch_not_creating k),
        launch_oldState k⟩
    refine (setOutstanding_sound_iff hlaunched).mpr ?_
    rw [setConference_self]
    exact launch_not_creating k
  | exit k callId junk =>
    exact iff_of_true ⟨h.setConference (keepsCreating_leaveFromConference junk), trivial⟩ trivial
  | hold k callId =>
    exact iff_of_true ⟨h.setConference keepsCreating_holdConference, trivial⟩ trivial
  | updateConferenceId callId =>
    exact iff_of_true ⟨h.setConference ⟨id, id⟩, trivial⟩ trivial

theorem sound_init : init.Sound := ⟨nofun, fun _ => nofun⟩

/-- **Combining calls.** From any conferences in order, the combines of a run leave the
    conferences as they are when they fail or send nothing, and succeed only with a
    request of their own or an earlier one that is outstanding, and CREATING always has
    such a request, iff every step of the run meets the condition. -/
theorem combine_iff (w : CombineWorld) (h : w.Sound) (ops : List CombineOp) :
    Run.StatesMeet step Sound w ops ∧ Run.StepsMeet step Atomic w ops ↔
      Run.StepsMeet step StepOk w ops :=
  Run.statesMeet_and_stepsMeet_iff step_sound_iff ops h

/-- A combine, the same one again, and the report of its success. -/
def combinedOps : List CombineOp :=
  [.combine .ims 1 ⟨true, .telephonySuccess⟩, .combine .ims 1 ⟨true, .telephonySuccess⟩,
    .launch .ims 1, .launch .ims 2]

theorem combined_in_order :
    Run.StatesMeet step Sound init combinedOps ∧ Run.StepsMeet step Atomic init combinedOps :=
  (combine_iff init sound_init combinedOps).mpr (by decide)

/-- A combine that the modem refuses, and the combine of another call. -/
def refusedOps : List CombineOp :=
  [.combine .ims 1 ⟨true, .telephonyError⟩, .combine .ims 2 ⟨true, .telephonySuccess⟩]

/-- The first leaves the state CREATING, and the second succeeds without a request. -/
theorem refused_combine_blocks :
    ¬ ∀ (w : CombineWorld), w.Sound → ∀ ops : List CombineOp,
      Run.StatesMeet step Sound w ops ∧ Run.StepsMeet step Atomic w ops := by
  intro hall
  obtain ⟨-, -, ⟨-, hsent⟩, -⟩ := hall init ⟨nofun, fun _ => nofun⟩ refusedOps
  exact absurd (hsent rfl) (by decide)

end CombineWorld

/-! ## Launching -/

/-- What `LaunchConference` of a class returns, and the conference and the call's
    conference state after it. -/
def CarrierClass.launchOutcome (k : CarrierClass) (c : Conference) (callId : ℤ)
    (conferenceState : TelConferenceState) : ErrorCode × Conference × TelConferenceState :=
  let (ret, c) := k.launch c callId
  (ret, c, if ret = .telephonySuccess then .active else conferenceState)

/-- The states in which a conference is launched: it is being created, or goes on. -/
def launchStates : List ConferenceState := [.creating, .active, .holding]

/-- The conference object of a class. -/
def conferenceOf (w : StatusWorld) : CarrierClass → Conference
  | .cs => w.csConference
  | .ims => w.imsConference

/-- The call is a member of the conference of its class, and both are active. -/
structure InActiveConference (w : StatusWorld) (k : CarrierClass) (call : Ref) : Prop where
  member : (w.object call).callId ∈ (conferenceOf w k).subCallIdSet
  state : (conferenceOf w k).state = .active
  conferenceState : (w.object call).conferenceState = .active

/-- `LaunchConference` succeeds and brings the call into an active conference. -/
def Launched (w : StatusWorld) (k : CarrierClass) (call : Ref) : Prop :=
  (w.launchConference call).1 = .telephonySuccess ∧
    InActiveConference (w.launchConference call).2 k call

/-- The two classes do the same. -/
def ClassesAgree (c : Conference) (callId : ℤ) (conferenceState : TelConferenceState) : Prop :=
  CarrierClass.cs.launchOutcome c callId conferenceState =
    CarrierClass.ims.launchOutcome c callId conferenceState

section Launch

variable {w : StatusWorld} {call : Ref} {c : CallBase} {k : CarrierClass}

/-- `LaunchConference` of a call is that of its class. -/
theorem launchConference_outcome (hcall : w.heap call = some c)
    (hclass : c.objectType = k.callType) :
    ((w.launchConference call).1, conferenceOf (w.launchConference call).2 k,
        ((w.launchConference call).2.object call).conferenceState) =
      k.launchOutcome (conferenceOf w k) c.callId c.conferenceState := by
  have hobject := StatusWorld.object_eq hcall
  have hactive : ∀ w' : StatusWorld, w'.heap = w.heap →
      ((w'.setTelConferenceState call .active).object call).conferenceState = .active := by
    intro w' hheap
    have hset : (w'.setTelConferenceState call .active).heap call =
        some { c with conferenceState := .active } := by
      rw [StatusWorld.setTelConferenceState, StatusWorld.modify_heap_self, hheap, hcall]
      rfl
    rw [StatusWorld.object_eq hset]
  have hsame : ∀ w' : StatusWorld, w'.heap = w.heap →
      (w'.object call).conferenceState = c.conferenceState := by
    intro w' hheap
    rw [StatusWorld.object_eq (hheap ▸ hcall)]
  unfold StatusWorld.launchConference CarrierClass.launchOutcome CarrierClass.launch
  rw [hobject, hclass]
  cases k with
  | cs =>
    dsimp only [CarrierClass.callType, conferenceOf]
    by_cases hret : (CsConference.joinToConference (w.csConference.setConferenceState .idle)
        c.callId).1 = .telephonySuccess
    · rw [if_pos hret, if_pos hret]
      exact Prod.ext rfl (Prod.ext rfl (hactive _ rfl))
    · rw [if_neg hret, if_neg hret]
      exact Prod.ext rfl (Prod.ext rfl (hsame _ rfl))
  | ims =>
    dsimp only [CarrierClass.callType, conferenceOf]
    by_cases hret : (ImsConference.joinToConference w.imsConference c.callId).1 =
        .telephonySuccess
    · rw [if_pos hret, if_pos hret]
      exact Prod.ext rfl (Prod.ext rfl (hactive _ rfl))
    · rw [if_neg hret, if_neg hret]
      exact Prod.ext rfl (Prod.ext rfl (hsame _ rfl))

theorem callId_launchConference (hcall : w.heap call = some c) :
    ((w.launchConference call).2.object call).callId = c.callId := by
  have hkey := (StatusWorld.SameKeys.launchConference w call).object_key call
  rw [StatusWorld.object_eq hcall] at hkey
  exact congrArg CallKey.callId hkey

theorem launch_cs (conference : Conference) (callId : ℤ) :
    CarrierClass.cs.launch conference callId =
      (.callErrIllegalCallOperation, conference.setConferenceState .idle) := by
  unfold CarrierClass.launch CsConference.joinToConference Conference.joinToConference
  exact if_pos (by simp [Conference.setConferenceState])

theorem launch_ims (conference : Conference) (callId : ℤ) :
    CarrierClass.ims.launch conference callId =
      if conference.state = .idle then (.callErrIllegalCallOperation, conference)
      else
        (.telephonySuccess,
          { conference with
            subCallIdSet := insert callId conference.subCallIdSet
            state := .active
            oldState := .active }) := by
  unfold CarrierClass.launch ImsConference.joinToConference Conference.joinToConference
  cases hstate : conference.state <;> simp

/-- A launched call is an IMS call, whose conference is not idle. -/
theorem launched_iff (hcall : w.heap call = some c) (hclass : c.objectType = k.callType) :
    Launched w k call ↔ k = .ims ∧ (conferenceOf w k).state ≠ .idle := by
  have houtcome := launchConference_outcome hcall hclass
  have hid := callId_launchConference hcall
  unfold CarrierClass.launchOutcome at houtcome
  simp only [Prod.mk.injEq] at houtcome
  obtain ⟨hret, hconference, hstate⟩ := houtcome
  constructor
  · rintro ⟨hsuccess, -⟩
    rw [hret] at hsuccess
    cases k with
    | cs =>
      rw [launch_cs] at hsuccess
      cases hsuccess
    | ims =>
      refine ⟨rfl, fun hidle => ?_⟩
      rw [launch_ims, if_pos hidle] at hsuccess
      cases hsuccess
  · rintro ⟨rfl, hidle⟩
    rw [launch_ims, if_neg hidle] at hret hconference hstate
    refine ⟨hret, ?_, ?_, ?_⟩
    · rw [hconference, hid]
      exact Finset.mem_insert_self _ _
    · rw [hconference]
    · rw [hstate]
      exact if_pos rfl

theorem classesAgree_iff {conference : Conference} {callId : ℤ}
    {conferenceState : TelConferenceState} :
    ClassesAgree conference callId conferenceState ↔ conference.state = .idle := by
  unfold ClassesAgree CarrierClass.launchOutcome
  rw [launch_cs, launch_ims]
  by_cases hidle : conference.state = .idle
  · refine iff_of_true ?_ hidle
    rw [if_pos hidle, Conference.setConferenceState, ← hidle]
  · refine iff_of_false (fun hagree => ?_) hidle
    rw [if_neg hidle] at hagree
    cases congrArg Prod.fst hagree

/-- **Launching a conference.** While the conference of its class is being created, is
    active or is on hold, a CS or IMS call is launched iff it is an IMS call; and the
    two classes do the same with a conference iff it is idle. -/
theorem launchConference_iff (w : StatusWorld) (k : CarrierClass) (call : Ref) (c : CallBase)
    (hcall : w.heap call = some c) (hclass : c.objectType = k.callType) :
    ((conferenceOf w k).state ∈ launchStates → (Launched w k call ↔ k = .ims)) ∧
      (ClassesAgree (conferenceOf w k) c.callId c.conferenceState ↔
        (conferenceOf w k).state = .idle) := by
  refine ⟨fun hstate => ?_, classesAgree_iff⟩
  rw [launched_iff hcall hclass]
  refine and_iff_left fun hidle => ?_
  rw [hidle] at hstate
  exact absurd hstate (by decide)

end Launch

/-- A call of a class, alone, while the conference of its class is being created. -/
def createdWorld (k : CarrierClass) : StatusWorld :=
  let creating := { Conference.init with state := .creating, mainCallId := 1 }
  { StatusWorld.init with
    heap := fun r => if r = 0 then
      some { (default : CallBase) with callId := 1, objectType := k.callType } else none
    csConference := creating
    imsConference := creating }

theorem ims_call_launched :
    Launched (createdWorld .ims) .ims 0 ∧
      ¬ ClassesAgree (conferenceOf (createdWorld .ims) .ims) 1 .idle :=
  have hlaunch := launchConference_iff (createdWorld .ims) .ims 0 _ rfl rfl
  ⟨(hlaunch.1 (by decide)).mpr rfl, fun hagree => absurd (hlaunch.2.mp hagree) (by decide)⟩

/-- `CSCall::LaunchConference` leaves the conference idle, and the call outside it. -/
theorem cs_call_not_launched :
    ¬ ∀ (w : StatusWorld) (k : CarrierClass) (call : Ref) (c : CallBase),
      w.heap call = some c → c.objectType = k.callType →
      (conferenceOf w k).state ∈ launchStates →
        Launched w k call ∧ ClassesAgree (conferenceOf w k) c.callId c.conferenceState := by
  intro hall
  obtain ⟨⟨hret, -⟩, -⟩ := hall (createdWorld .cs) .cs 0 _ rfl rfl (by decide)
  exact absurd hret (by decide)

end CallManager.Combining
