import CallManager.Types
import CallManager.Library.Run
import Mathlib.Data.Finset.Max

/-!
# The conference objects

`ImsConference`, `CsConference` and `OttConference` each keep a main call, a
set of call ids and a state. They are meant to agree: a conference with members
is not idle and its main call is one of them, and an empty one that is not
being created is idle and has no main call, so that it can be formed again.

The classes share `SetMainCall`, `LeaveFromConference` and the checks;
`OttConference` does not let a call join while it is on hold, and its
`HoldConference` takes the call out of the set and has no `return` after the
reset of an emptied conference. `UpdateConferenceId` exists in `CsConference`
only and never sets the state.

Results:
* `conferenceOk_iff`: for each class, a run keeps the fields in agreement iff
  each of its steps meets the condition `OpOk`.
* `conference_formed_again`: an emptied conference can be formed again.
* `ott_hold_empties_conference`: putting the last member of an OTT conference
  on hold leaves it empty and HOLDING.
-/

namespace CallManager

/-! ## Model -/

/-- The fields of `ConferenceBase` (conference_base.h:65-71) and the limit of its subclasses;
    the time of its beginning is left out. -/
structure Conference where
  mainCallId : ℤ
  state : ConferenceState
  oldState : ConferenceState
  subCallIdSet : Finset ℤ
  maxSubCallLimits : ℕ
  deriving DecidableEq

/-- The subclasses of `ConferenceBase`. -/
inductive ConferenceKind
  | ims | cs | ott
  deriving DecidableEq, Repr

namespace Conference

/-- `CS_CONFERENCE_MAX_CALLS_CNT` (conference_base.h:31). -/
def csConferenceMaxCallsCnt : ℕ := 5

/-- The constructors (conference_base.cpp:26-31; the limit without `ABILITY_CONFIG_SUPPORT`). -/
def init : Conference where
  mainCallId := errId
  state := .idle
  oldState := .idle
  subCallIdSet := ∅
  maxSubCallLimits := csConferenceMaxCallsCnt

/-- `*subCallIdSet_.begin()`, the least id of the set. On an empty set C++
    leaves the value open; it is `junk` here. -/
def begin (set : Finset ℤ) (junk : ℤ) : ℤ := if h : set.Nonempty then set.min' h else junk

/-- `ConferenceBase::SetMainCall` (conference_base.cpp:45-54). -/
def setMainCall (c : Conference) (callId : ℤ) : ErrorCode × Conference :=
  if callId < errId then (.callErrInvalidCallId, c)
  else (.telephonySuccess, { c with mainCallId := callId })

/-- `ConferenceBase::SetConferenceState` (conference_base.cpp:62-67). -/
def setConferenceState (c : Conference) (state : ConferenceState) : Conference :=
  { c with state := state }

/-- `JoinToConference` in a class that lets a call join in the states `allowed`. -/
def joinToConference (allowed : List ConferenceState) (c : Conference) (callId : ℤ) :
    ErrorCode × Conference :=
  if c.state ∉ allowed then (.callErrIllegalCallOperation, c)
  else
    (.telephonySuccess,
      { c with
        subCallIdSet := insert callId c.subCallIdSet
        state := .active
        oldState := .active })

/-- The reset of an emptied conference. -/
def reset (c : Conference) : Conference :=
  { c with mainCallId := errId, state := .idle, oldState := .idle }

/-- `LeaveFromConference`: the same in the three classes but for the read of
    the first id of an empty set, which the reset makes up for. -/
def leaveFromConference (junk : ℤ) (c : Conference) (callId : ℤ) : ErrorCode × Conference :=
  if callId ∈ c.subCallIdSet then
    let set := c.subCallIdSet.erase callId
    let c :=
      { c with
        subCallIdSet := set
        mainCallId := if c.mainCallId = callId then begin set junk else c.mainCallId }
    (.telephonySuccess, if set = ∅ then c.reset else c)
  else (.callErrConferenceSeperateFailed, c)

/-- `HoldConference` of `ImsConference` and `CsConference`. -/
def holdConference (c : Conference) (callId : ℤ) : ErrorCode × Conference :=
  if c.state = .holding then (.telephonySuccess, c)
  else if callId ∉ c.subCallIdSet then (.callErrConferenceSeperateFailed, c)
  else if c.subCallIdSet = ∅ then (.callErrConferenceSeperateFailed, c.reset)
  else (.telephonySuccess, { c with state := .holding, oldState := .holding })

/-- `CanCombineConference`, the same in the three classes. -/
def canCombineConference (c : Conference) : ErrorCode :=
  if c.maxSubCallLimits ≤ c.subCallIdSet.card then .callErrConferenceCallExceedLimit
  else .telephonySuccess

/-- `CanSeparateConference`, the same in the three classes. -/
def canSeparateConference (c : Conference) : ErrorCode :=
  if c.subCallIdSet = ∅ then .callErrConferenceNotExists
  else if c.state ≠ .active then .callErrConferenceCallIsNotActive
  else .telephonySuccess

/-- `CanKickOutFromConference`, the same in the three classes. -/
def canKickOutFromConference (c : Conference) : ErrorCode :=
  if c.subCallIdSet = ∅ then .callErrConferenceNotExists else .telephonySuccess

end Conference

namespace ImsConference

/-- `ImsConference::JoinToConference` (ims_conference.cpp:40-55). -/
def joinToConference (c : Conference) (callId : ℤ) : ErrorCode × Conference :=
  c.joinToConference [.creating, .active, .leaving, .holding] callId

/-- `ImsConference::LeaveFromConference` (ims_conference.cpp:57-76). -/
def leaveFromConference (junk : ℤ) (c : Conference) (callId : ℤ) : ErrorCode × Conference :=
  c.leaveFromConference junk callId

/-- `ImsConference::HoldConference` (ims_conference.cpp:78-99). -/
def holdConference (c : Conference) (callId : ℤ) : ErrorCode × Conference :=
  c.holdConference callId

end ImsConference

namespace CsConference

/-- `CsConference::JoinToConference` (cs_conference.cpp:43-57). -/
def joinToConference (c : Conference) (callId : ℤ) : ErrorCode × Conference :=
  c.joinToConference [.creating, .active, .leaving, .holding] callId

/-- `CsConference::LeaveFromConference` (cs_conference.cpp:59-78). -/
def leaveFromConference (junk : ℤ) (c : Conference) (callId : ℤ) : ErrorCode × Conference :=
  c.leaveFromConference junk callId

/-- `CsConference::HoldConference` (cs_conference.cpp:80-101). -/
def holdConference (c : Conference) (callId : ℤ) : ErrorCode × Conference :=
  c.holdConference callId

/-- `CsConference::UpdateConferenceId` (cs_conference.cpp:137-147). -/
def updateConferenceId (c : Conference) (callId : ℤ) : Conference :=
  { c with
    subCallIdSet := insert callId c.subCallIdSet
    mainCallId := if c.mainCallId = errId then callId else c.mainCallId }

end CsConference

namespace OttConference

/-- `OttConference::JoinToConference` (ott_conference.cpp:40-55): not while the conference is on
    hold. -/
def joinToConference (c : Conference) (callId : ℤ) : ErrorCode × Conference :=
  c.joinToConference [.creating, .active, .leaving] callId

/-- `OttConference::LeaveFromConference` (ott_conference.cpp:57-76): the first id is read of a
    set with members only. -/
def leaveFromConference (c : Conference) (callId : ℤ) : ErrorCode × Conference :=
  c.leaveFromConference errId callId

/-- `OttConference::HoldConference` (ott_conference.cpp:78-100): the call is taken out of the
    set, and an emptied conference is reset and then put on hold all the same. -/
def holdConference (c : Conference) (callId : ℤ) : ErrorCode × Conference :=
  if c.state = .holding then (.telephonySuccess, c)
  else if callId ∉ c.subCallIdSet then (.callErrConferenceSeperateFailed, c)
  else
    let c := { c with subCallIdSet := c.subCallIdSet.erase callId }
    let c := if c.subCallIdSet = ∅ then c.reset else c
    (.telephonySuccess, { c with state := .holding, oldState := .holding })

end OttConference

/-- The operations of a run of one conference. `leave` carries what the read of
    an empty set's first id yields. -/
inductive ConferenceOp
  | setMainCall (callId : ℤ)
  | setCreating
  | join (callId : ℤ)
  | leave (callId junk : ℤ)
  | hold (callId : ℤ)
  | updateConferenceId (callId : ℤ)
  | canCombine
  | canSeparate
  | canKickOut
  deriving DecidableEq

/-- One operation on the conference object of a class: what it returns and the object after it.
    `UpdateConferenceId` is an operation of `CsConference` only. -/
def conferenceOp (kind : ConferenceKind) (c : Conference) : ConferenceOp → ErrorCode × Conference
  | .setMainCall callId => c.setMainCall callId
  | .setCreating => (.telephonySuccess, c.setConferenceState .creating)
  | .join callId =>
    match kind with
    | .ims => ImsConference.joinToConference c callId
    | .cs => CsConference.joinToConference c callId
    | .ott => OttConference.joinToConference c callId
  | .leave callId junk =>
    match kind with
    | .ims => ImsConference.leaveFromConference junk c callId
    | .cs => CsConference.leaveFromConference junk c callId
    | .ott => OttConference.leaveFromConference c callId
  | .hold callId =>
    match kind with
    | .ims => ImsConference.holdConference c callId
    | .cs => CsConference.holdConference c callId
    | .ott => OttConference.holdConference c callId
  | .updateConferenceId callId =>
    match kind with
    | .cs => (.telephonySuccess, CsConference.updateConferenceId c callId)
    | .ims | .ott => (.telephonySuccess, c)
  | .canCombine => (c.canCombineConference, c)
  | .canSeparate => (c.canSeparateConference, c)
  | .canKickOut => (c.canKickOutFromConference, c)

/-- The conference object after one operation. -/
def conferenceStep (kind : ConferenceKind) (c : Conference) (op : ConferenceOp) : Conference :=
  (conferenceOp kind c op).2

/-! ## Specification -/

/-- **The fields agree.** A conference with members is not idle, and CREATING only if
    `combining` admits that (a further call is being combined with it), and its main call is a
    member; an empty conference that is not being created is idle and has no main call. -/
structure ConferenceOk (combining : Bool) (c : Conference) : Prop where
  members : c.subCallIdSet.Nonempty →
    c.state ≠ .idle ∧ (c.state = .creating → combining = true) ∧ c.mainCallId ∈ c.subCallIdSet
  empty : c.subCallIdSet = ∅ → c.state ≠ .creating → c.mainCallId = errId ∧ c.state = .idle

/-- The states in which a class lets a call join. -/
def joinStates : ConferenceKind → List ConferenceState
  | .ims | .cs => [.creating, .active, .leaving, .holding]
  | .ott => [.creating, .active, .leaving]

/-- The condition on a step: the main call that is set is a member, or the
    conference is being created, or it is no call at all; the first call to
    join is the main call; an OTT conference is not put on hold by its main
    call; and `UpdateConferenceId` finds a conference that is not idle. -/
def OpOk (kind : ConferenceKind) (combining : Bool) (c : Conference) : ConferenceOp → Prop
  | .setMainCall callId =>
    callId < errId ∨ callId ∈ c.subCallIdSet ∨
      (c.subCallIdSet = ∅ ∧ (c.state = .creating ∨ callId = errId))
  | .setCreating => c.subCallIdSet = ∅ ∨ combining = true
  | .join callId => c.state ∉ joinStates kind ∨ c.subCallIdSet.Nonempty ∨ c.mainCallId = callId
  | .hold callId =>
    kind = .ott → c.state = .holding ∨ callId ∉ c.subCallIdSet ∨ c.mainCallId ≠ callId
  | .updateConferenceId callId =>
    kind = .cs → c.state ≠ .idle ∧ (c.state = .creating → combining = true ∧
      (c.subCallIdSet.Nonempty ∨ c.mainCallId = errId ∨ c.mainCallId = callId))
  | .leave _ _ | .canCombine | .canSeparate | .canKickOut => True

/-! ## One operation -/

section Step

variable {kind : ConferenceKind} {combining : Bool} {c : Conference}

theorem begin_mem {set : Finset ℤ} (h : set.Nonempty) (junk : ℤ) :
    Conference.begin set junk ∈ set := by
  unfold Conference.begin
  rw [dif_pos h]
  exact set.min'_mem h

theorem ConferenceOk.init : ConferenceOk combining Conference.init where
  members h := by simp [Conference.init] at h
  empty _ _ := ⟨rfl, rfl⟩

/-- A conference that is reset has agreeing fields if it is empty. -/
theorem ConferenceOk.reset (h : c.subCallIdSet = ∅) : ConferenceOk combining c.reset where
  members hne := absurd h hne.ne_empty
  empty _ _ := ⟨rfl, rfl⟩

theorem setMainCall_ok_iff (h : ConferenceOk combining c) (callId : ℤ) :
    ConferenceOk combining (c.setMainCall callId).2 ↔
      callId < errId ∨ callId ∈ c.subCallIdSet ∨
        (c.subCallIdSet = ∅ ∧ (c.state = .creating ∨ callId = errId)) := by
  unfold Conference.setMainCall
  split_ifs with hlt
  · exact iff_of_true h (Or.inl hlt)
  · rcases c.subCallIdSet.eq_empty_or_nonempty with hset | hset
    · constructor
      · intro h'
        by_cases hstate : c.state = .creating
        · exact Or.inr (Or.inr ⟨hset, Or.inl hstate⟩)
        · exact Or.inr (Or.inr ⟨hset, Or.inr (h'.empty hset hstate).1⟩)
      · intro hor
        refine ⟨fun hne => absurd hset hne.ne_empty, fun _ hstate => ?_⟩
        rcases hor with hor | hor | ⟨-, hor | hor⟩
        · exact absurd hor hlt
        · simp [hset] at hor
        · exact absurd hor hstate
        · exact ⟨hor, (h.empty hset hstate).2⟩
    · have hne : c.subCallIdSet ≠ ∅ := hset.ne_empty
      constructor
      · intro h'
        exact Or.inr (Or.inl (h'.members hset).2.2)
      · intro hor
        refine ⟨fun _ => ?_, fun hempty => absurd hempty hne⟩
        obtain ⟨hidle, hcreating, -⟩ := h.members hset
        rcases hor with hor | hor | hor
        · exact absurd hor hlt
        · exact ⟨hidle, hcreating, hor⟩
        · exact absurd hor.1 hne

theorem setCreating_ok_iff (h : ConferenceOk combining c) :
    ConferenceOk combining (c.setConferenceState .creating) ↔
      c.subCallIdSet = ∅ ∨ combining = true := by
  constructor
  · intro h'
    rcases c.subCallIdSet.eq_empty_or_nonempty with hset | hset
    · exact Or.inl hset
    · exact Or.inr ((h'.members hset).2.1 rfl)
  · intro hor
    refine ⟨fun hset => ⟨by simp [Conference.setConferenceState], fun _ => ?_, ?_⟩,
      fun _ hstate => absurd rfl hstate⟩
    · rcases hor with hor | hor
      · exact absurd hor hset.ne_empty
      · exact hor
    · exact (h.members hset).2.2

/-- A call that may join makes the conference active; it has to be the main
    call if it is the first. -/
theorem joinToConference_ok_iff (allowed : List ConferenceState)
    (h : ConferenceOk combining c) (callId : ℤ) :
    ConferenceOk combining (c.joinToConference allowed callId).2 ↔
      c.state ∉ allowed ∨ c.subCallIdSet.Nonempty ∨ c.mainCallId = callId := by
  unfold Conference.joinToConference
  by_cases hallowed : c.state ∈ allowed
  swap
  · rw [if_pos hallowed]
    exact iff_of_true h (Or.inl hallowed)
  rw [if_neg (not_not.mpr hallowed)]
  have hnew : (insert callId c.subCallIdSet).Nonempty := Finset.insert_nonempty _ _
  constructor
  · intro h'
    have hmem := (h'.members hnew).2.2
    rcases Finset.mem_insert.mp hmem with heq | hmem
    · exact Or.inr (Or.inr heq)
    · exact Or.inr (Or.inl ⟨_, hmem⟩)
  · intro hor
    refine ⟨fun _ => ⟨by simp, by simp, ?_⟩, fun hempty => absurd hempty hnew.ne_empty⟩
    rcases hor with hor | hset | heq
    · exact absurd hallowed hor
    · exact Finset.mem_insert_of_mem (h.members hset).2.2
    · exact heq ▸ Finset.mem_insert_self _ _

/-- A call that leaves keeps the fields in agreement: a member is elected for
    the main call, and an emptied conference is reset. -/
theorem leaveFromConference_ok (h : ConferenceOk combining c) (junk callId : ℤ) :
    ConferenceOk combining (c.leaveFromConference junk callId).2 := by
  unfold Conference.leaveFromConference
  by_cases hmem : callId ∈ c.subCallIdSet
  swap
  · rw [if_neg hmem]
    exact h
  rw [if_pos hmem]
  dsimp only
  by_cases hempty : c.subCallIdSet.erase callId = ∅
  · rw [if_pos hempty]
    exact ConferenceOk.reset hempty
  · rw [if_neg hempty]
    obtain ⟨hidle, hcreating, hmain⟩ := h.members ⟨callId, hmem⟩
    refine ⟨fun hne => ⟨hidle, hcreating, ?_⟩, fun hnil => absurd hnil hempty⟩
    dsimp only at hne ⊢
    split_ifs with heq
    · exact begin_mem hne junk
    · exact Finset.mem_erase.mpr ⟨heq, hmain⟩

theorem holdConference_ok (h : ConferenceOk combining c) (callId : ℤ) :
    ConferenceOk combining (c.holdConference callId).2 := by
  unfold Conference.holdConference
  split_ifs with hholding hmem hempty
  · exact h
  · exact ConferenceOk.reset hempty
  · have hset : c.subCallIdSet.Nonempty := ⟨callId, hmem⟩
    exact ⟨fun _ => ⟨by simp, by simp, (h.members hset).2.2⟩, fun hnil => absurd hnil hempty⟩
  · exact h

/-- An OTT conference keeps its fields in agreement iff its main call is not
    the one that is taken out. -/
theorem ott_holdConference_ok_iff (h : ConferenceOk combining c) (callId : ℤ) :
    ConferenceOk combining (OttConference.holdConference c callId).2 ↔
      c.state = .holding ∨ callId ∉ c.subCallIdSet ∨ c.mainCallId ≠ callId := by
  unfold OttConference.holdConference
  by_cases hholding : c.state = .holding
  · rw [if_pos hholding]
    exact iff_of_true h (Or.inl hholding)
  rw [if_neg hholding]
  by_cases hmem : callId ∈ c.subCallIdSet
  swap
  · rw [if_pos hmem]
    exact iff_of_true h (Or.inr (Or.inl hmem))
  rw [if_neg (not_not.mpr hmem)]
  dsimp only
  have hin := (h.members ⟨callId, hmem⟩).2.2
  by_cases hempty : c.subCallIdSet.erase callId = ∅
  · -- the last member is the main call; the conference ends up empty and HOLDING
    have hmain : c.mainCallId = callId := by
      by_contra hne
      have := Finset.mem_erase.mpr ⟨hne, hin⟩
      rw [hempty] at this
      simp at this
    rw [if_pos hempty]
    refine iff_of_false (fun h' => ?_) (by simp [hholding, hmem, hmain])
    have := (h'.empty hempty (by simp)).2
    simp at this
  · have hset : (c.subCallIdSet.erase callId).Nonempty := Finset.nonempty_iff_ne_empty.mpr hempty
    rw [if_neg hempty]
    constructor
    · intro h'
      have := (h'.members hset).2.2
      exact Or.inr (Or.inr (Finset.mem_erase.mp this).1)
    · intro hor
      refine ⟨fun _ => ⟨by simp, by simp, ?_⟩, fun hnil => absurd hnil hempty⟩
      rcases hor with hor | hor | hor
      · exact absurd hor hholding
      · exact absurd hmem hor
      · exact Finset.mem_erase.mpr ⟨hor, hin⟩

theorem updateConferenceId_ok_iff (h : ConferenceOk combining c) (callId : ℤ) :
    ConferenceOk combining (CsConference.updateConferenceId c callId) ↔
      c.state ≠ .idle ∧ (c.state = .creating → combining = true ∧
        (c.subCallIdSet.Nonempty ∨ c.mainCallId = errId ∨ c.mainCallId = callId)) := by
  have hnew : (insert callId c.subCallIdSet).Nonempty := Finset.insert_nonempty _ _
  unfold CsConference.updateConferenceId
  constructor
  · intro h'
    obtain ⟨hidle, hcreating, hmain⟩ := h'.members hnew
    refine ⟨hidle, fun hstate => ⟨hcreating hstate, ?_⟩⟩
    dsimp only at hmain
    split_ifs at hmain with herr
    · exact Or.inr (Or.inl herr)
    · rcases Finset.mem_insert.mp hmain with heq | hmem
      · exact Or.inr (Or.inr heq)
      · exact Or.inl ⟨_, hmem⟩
  · rintro ⟨hidle, hcreating⟩
    refine ⟨fun _ => ⟨hidle, fun hstate => (hcreating hstate).1, ?_⟩,
      fun hnil => absurd hnil hnew.ne_empty⟩
    dsimp only
    split_ifs with herr
    · exact Finset.mem_insert_self _ _
    · rcases c.subCallIdSet.eq_empty_or_nonempty with hset | hset
      · have hstate : c.state = .creating := by
          by_contra hstate
          exact hidle (h.empty hset hstate).2
        rcases (hcreating hstate).2 with hne | hmain | hmain
        · exact absurd hset hne.ne_empty
        · exact absurd hmain herr
        · exact hmain ▸ Finset.mem_insert_self _ _
      · exact Finset.mem_insert_of_mem (h.members hset).2.2

/-- **One operation** of one class keeps the fields in agreement iff it meets its condition. -/
theorem conferenceOk_step_iff (h : ConferenceOk combining c) (op : ConferenceOp) :
    ConferenceOk combining (conferenceStep kind c op) ↔ OpOk kind combining c op := by
  cases op with
  | setMainCall callId => exact setMainCall_ok_iff h callId
  | setCreating => exact setCreating_ok_iff h
  | join callId =>
    cases kind with
    | ims => exact joinToConference_ok_iff _ h callId
    | cs => exact joinToConference_ok_iff _ h callId
    | ott => exact joinToConference_ok_iff _ h callId
  | leave callId junk =>
    cases kind with
    | ims => exact iff_of_true (leaveFromConference_ok h junk callId) trivial
    | cs => exact iff_of_true (leaveFromConference_ok h junk callId) trivial
    | ott => exact iff_of_true (leaveFromConference_ok h errId callId) trivial
  | hold callId =>
    cases kind with
    | ims => exact iff_of_true (holdConference_ok h callId) (by simp [OpOk])
    | cs => exact iff_of_true (holdConference_ok h callId) (by simp [OpOk])
    | ott => simpa [OpOk, conferenceStep, conferenceOp] using ott_holdConference_ok_iff h callId
  | updateConferenceId callId =>
    cases kind with
    | ims => exact iff_of_true h (by simp [OpOk])
    | cs => simpa [OpOk, conferenceStep, conferenceOp] using updateConferenceId_ok_iff h callId
    | ott => exact iff_of_true h (by simp [OpOk])
  | canCombine => exact iff_of_true h trivial
  | canSeparate => exact iff_of_true h trivial
  | canKickOut => exact iff_of_true h trivial

end Step

/-! ## Runs -/

/-- An emptied conference can be formed again, with any main call: the call
    joins, and the fields agree. -/
theorem conference_formed_again (kind : ConferenceKind) {combining : Bool} {c : Conference}
    {callId : ℤ} (hset : c.subCallIdSet = ∅) (hid : errId ≤ callId) :
    let c' := (c.setConferenceState .creating).setMainCall callId
    (conferenceOp kind c'.2 (.join callId)).1 = .telephonySuccess ∧
    (conferenceStep kind c'.2 (.join callId)).subCallIdSet = {callId} ∧
    ConferenceOk combining (conferenceStep kind c'.2 (.join callId)) := by
  have hmain : (c.setConferenceState .creating).setMainCall callId =
      (.telephonySuccess, { c with state := .creating, mainCallId := callId }) := by
    simp [Conference.setMainCall, Conference.setConferenceState, not_lt.mpr hid]
  have hok : ConferenceOk combining { c with state := .creating, mainCallId := callId } :=
    ⟨fun hne => absurd hset hne.ne_empty, fun _ hstate => absurd rfl hstate⟩
  simp only [hmain]
  refine ⟨?_, ?_, (conferenceOk_step_iff hok _).mpr (Or.inr (Or.inr rfl))⟩
  · cases kind <;> simp [conferenceOp, ImsConference.joinToConference,
      CsConference.joinToConference, OttConference.joinToConference, Conference.joinToConference]
  · cases kind <;> simp [conferenceStep, conferenceOp, ImsConference.joinToConference,
      CsConference.joinToConference, OttConference.joinToConference, Conference.joinToConference,
      hset]

/-- **Main theorem.** For each of the three classes, and whether or not a
    conference with members may be CREATING, the fields agree in every state
    of a run iff every step of the run meets its condition. -/
theorem conferenceOk_iff (kind : ConferenceKind) (combining : Bool) (ops : List ConferenceOp) :
    Run.StatesMeet (conferenceStep kind) (ConferenceOk combining) Conference.init ops ↔
      Run.StepsMeet (conferenceStep kind) (OpOk kind combining) Conference.init ops :=
  Run.statesMeet_iff_stepsMeet (fun _ op h => conferenceOk_step_iff h op) ops ConferenceOk.init

/-- Putting the last member of an OTT conference on hold leaves the conference
    empty and HOLDING, so that no call can join it. -/
theorem ott_hold_empties_conference :
    let ops : List ConferenceOp := [.setMainCall 1, .setCreating, .join 1, .hold 1]
    (Run.run (conferenceStep .ott) Conference.init ops).subCallIdSet = ∅ ∧
    (Run.run (conferenceStep .ott) Conference.init ops).state = .holding ∧
    (conferenceOp .ott (Run.run (conferenceStep .ott) Conference.init ops) (.join 2)).1 =
      .callErrIllegalCallOperation ∧
    ¬ ConferenceOk true (Run.run (conferenceStep .ott) Conference.init ops) := by
  refine ⟨by decide, by decide, by decide, fun h => ?_⟩
  have := (h.empty (by decide) (by decide)).2
  revert this
  decide

end CallManager
