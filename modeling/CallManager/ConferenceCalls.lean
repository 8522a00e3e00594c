import CallManager.Conference
import Mathlib.Data.Finset.Sort

/-!
# Leaving a conference and listing its calls

`LeaveFromConference` elects a new main call, the first of the members left,
when the main call leaves. `ImsConference` and `CsConference` read that first
member without a test; `OttConference` tests that a member is left.

`GetCallIdListForConference` lists the calls of a conference: the members, and
the main call after them. The main call joins the conference like any other
call, so that it is a member too.

Results:
* `leaveSafe_iff`: a call leaves without a read of an empty set, and a member
  is elected, iff the class is `OttConference` or the call is not the main
  call and the only member.
* `listsOnce_iff`: a conference lists its calls once iff it has no members, or
  its main call is not one of them.
* `listsOnce_run_iff`: a run lists them once in every state iff each of its
  steps keeps the main call out of the members.
* `listsOnce_of_main_not_member`, `getCallIdListForConference_of_mem`: what is
  listed in either case.
-/

namespace CallManager

/-! ## Model -/

namespace Conference

/-- `*subCallIdSet_.begin()`, with the read of an empty set as `none`: there is
    no first element, and C++ leaves the read open. -/
def readBegin (set : Finset ℤ) : Option ℤ := if h : set.Nonempty then some (set.min' h) else none

/-- `LeaveFromConference` with its read of the set; `tested` is the test of
    `OttConference` that a member is left. -/
def leaveFromConferenceRead (tested : Bool) (c : Conference) (callId : ℤ) :
    Option (ErrorCode × Conference) :=
  if callId ∈ c.subCallIdSet then
    let set := c.subCallIdSet.erase callId
    let mainCallId :=
      if c.mainCallId = callId ∧ (tested = true → set.Nonempty) then readBegin set
      else some c.mainCallId
    mainCallId.map fun mainCallId =>
      let c := { c with subCallIdSet := set, mainCallId := mainCallId }
      (.telephonySuccess, if set = ∅ then c.reset else c)
  else some (.callErrConferenceSeperateFailed, c)

/-- The texts that `GetCallIdListForConference` pushes: those of the members, in
    the order of the set, and then that of the main call. -/
def callIdList (c : Conference) : List String :=
  (c.subCallIdSet.sort).map toString ++ [toString c.mainCallId]

/-- `ConferenceBase::GetCallIdListForConference` (conference_base.cpp:107-129). -/
def getCallIdListForConference (c : Conference) (callId : ℤ) : ErrorCode × List String :=
  let flag := decide (callId ∈ c.subCallIdSet) || decide (c.mainCallId = callId)
  if flag then (.telephonySuccess, c.callIdList)
  else (.callErrTheCallIsNotInTheConference, [])

end Conference

/-- `ImsConference::LeaveFromConference` (ims_conference.cpp:57-76), with its read of the set. -/
def ImsConference.leaveFromConferenceRead (c : Conference) (callId : ℤ) :
    Option (ErrorCode × Conference) :=
  c.leaveFromConferenceRead false callId

/-- `CsConference::LeaveFromConference` (cs_conference.cpp:59-78), with its read of the set. -/
def CsConference.leaveFromConferenceRead (c : Conference) (callId : ℤ) :
    Option (ErrorCode × Conference) :=
  c.leaveFromConferenceRead false callId

/-- `OttConference::LeaveFromConference` (ott_conference.cpp:57-76), with its read of the set. -/
def OttConference.leaveFromConferenceRead (c : Conference) (callId : ℤ) :
    Option (ErrorCode × Conference) :=
  c.leaveFromConferenceRead true callId

/-- `LeaveFromConference` of a class, with its read of the set. -/
def leaveRead (kind : ConferenceKind) (c : Conference) (callId : ℤ) :
    Option (ErrorCode × Conference) :=
  match kind with
  | .ims => ImsConference.leaveFromConferenceRead c callId
  | .cs => CsConference.leaveFromConferenceRead c callId
  | .ott => OttConference.leaveFromConferenceRead c callId

/-! ## Specification -/

/-- **A call leaves safely**: no empty set is read, and a main call that leaves
    members behind is followed by one of them. -/
def LeaveSafe (kind : ConferenceKind) (c : Conference) (callId : ℤ) : Prop :=
  ∃ r, leaveRead kind c callId = some r ∧
    (callId ∈ c.subCallIdSet → c.mainCallId = callId → (c.subCallIdSet.erase callId).Nonempty →
      r.2.subCallIdSet = c.subCallIdSet.erase callId ∧ r.2.mainCallId ∈ r.2.subCallIdSet)

/-- The calls of a conference: its members and its main call, if it has one. -/
def Conference.calls (c : Conference) : Finset ℤ :=
  if c.mainCallId = errId then c.subCallIdSet else insert c.mainCallId c.subCallIdSet

/-- **The calls are listed once**: for every call of the conference the list is
    returned, without duplicates, with the calls of the conference and nothing
    else, so that it is as long as there are calls. -/
def ListsOnce (c : Conference) : Prop :=
  ∀ callId ∈ c.calls,
    (c.getCallIdListForConference callId).1 = .telephonySuccess ∧
    (c.getCallIdListForConference callId).2.Nodup ∧
    (∀ s, s ∈ (c.getCallIdListForConference callId).2 ↔ ∃ id ∈ c.calls, toString id = s) ∧
    (c.getCallIdListForConference callId).2.length = c.calls.card

/-- The main call, if there are members, is a call and not one of them. -/
def MainNotMember (c : Conference) : Prop :=
  c.subCallIdSet = ∅ ∨ (c.mainCallId ∉ c.subCallIdSet ∧ c.mainCallId ≠ errId)

/-- The condition on a step: the main call is set to a call outside the members, and a call
    joins that is not the main call, which there has to be. -/
def KeepsMainOut (kind : ConferenceKind) (c : Conference) : ConferenceOp → Prop
  | .setMainCall callId =>
    callId < errId ∨ c.subCallIdSet = ∅ ∨ (callId ∉ c.subCallIdSet ∧ callId ≠ errId)
  | .join callId =>
    c.state ∉ joinStates kind ∨ (c.mainCallId ≠ errId ∧ c.mainCallId ≠ callId)
  | .updateConferenceId callId =>
    kind = .cs → c.mainCallId ≠ errId ∧ c.mainCallId ≠ callId
  | .setCreating | .leave _ _ | .hold _ | .canCombine | .canSeparate | .canKickOut => True

/-! ## Leaving -/

section Leaving

variable {c : Conference} {callId : ℤ}

theorem readBegin_eq_some {set : Finset ℤ} (h : set.Nonempty) (junk : ℤ) :
    Conference.readBegin set = some (Conference.begin set junk) := by
  unfold Conference.readBegin Conference.begin
  rw [dif_pos h, dif_pos h]

@[simp] theorem readBegin_empty : Conference.readBegin ∅ = none := by
  simp [Conference.readBegin]

/-- Where no empty set is read, the call leaves as in the model that goes on
    with any value read. -/
theorem leaveFromConferenceRead_eq_some {tested : Bool} {r : ErrorCode × Conference}
    (h : c.leaveFromConferenceRead tested callId = some r) (junk : ℤ) :
    c.leaveFromConference junk callId = r := by
  unfold Conference.leaveFromConferenceRead at h
  unfold Conference.leaveFromConference
  by_cases hmem : callId ∈ c.subCallIdSet
  swap
  · rw [if_neg hmem] at h ⊢
    exact Option.some.inj h
  rw [if_pos hmem] at h ⊢
  dsimp only at h ⊢
  rcases (c.subCallIdSet.erase callId).eq_empty_or_nonempty with hset | hset
  · -- an emptied conference is reset, whatever its main call was
    obtain ⟨main, -, rfl⟩ := Option.map_eq_some_iff.mp h
    rw [if_pos hset, if_pos hset]
    rfl
  · have htested : tested = true → (c.subCallIdSet.erase callId).Nonempty := fun _ => hset
    by_cases hmain : c.mainCallId = callId
    · rw [if_pos ⟨hmain, htested⟩, readBegin_eq_some hset junk] at h
      rw [if_pos hmain]
      exact Option.some.inj h
    · rw [if_neg (fun hand => hmain hand.1)] at h
      rw [if_neg hmain]
      exact Option.some.inj h

/-- A step in which a call leaves is what the class does with its reads. -/
theorem conferenceOp_leave_of_read {kind : ConferenceKind} {r : ErrorCode × Conference}
    (h : leaveRead kind c callId = some r) (junk : ℤ) :
    conferenceOp kind c (.leave callId junk) = r := by
  cases kind with
  | ims => exact leaveFromConferenceRead_eq_some h junk
  | cs => exact leaveFromConferenceRead_eq_some h junk
  | ott => exact leaveFromConferenceRead_eq_some h errId

/-- The set is read while it is empty iff the call is the main call and the
    only member, and nothing tests that. -/
theorem leaveFromConferenceRead_isSome_iff (tested : Bool) :
    (∃ r, c.leaveFromConferenceRead tested callId = some r) ↔
      tested = true ∨ c.mainCallId ≠ callId ∨ c.subCallIdSet ≠ {callId} := by
  unfold Conference.leaveFromConferenceRead
  by_cases hmem : callId ∈ c.subCallIdSet
  swap
  · rw [if_neg hmem]
    refine iff_of_true ⟨_, rfl⟩ (Or.inr (Or.inr fun hset => hmem ?_))
    rw [hset]
    exact Finset.mem_singleton_self callId
  rw [if_pos hmem]
  dsimp only
  simp only [Option.map_eq_some_iff, exists_comm (α := ErrorCode × Conference), exists_and_left,
    exists_eq', and_true]
  have hsingle : c.subCallIdSet = {callId} ↔ c.subCallIdSet.erase callId = ∅ := by
    rw [Finset.erase_eq_empty_iff]
    exact ⟨Or.inr, fun h => h.resolve_left (Finset.ne_empty_of_mem hmem)⟩
  rw [ne_eq, ne_eq, hsingle]
  by_cases hmain : c.mainCallId = callId
  swap
  · rw [if_neg (fun hand => hmain hand.1)]
    exact iff_of_true ⟨_, rfl⟩ (Or.inr (Or.inl hmain))
  rcases (c.subCallIdSet.erase callId).eq_empty_or_nonempty with hset | hset
  · cases tested with
    | true =>
      rw [if_neg (fun hand => (hand.2 rfl).ne_empty hset)]
      exact iff_of_true ⟨_, rfl⟩ (Or.inl rfl)
    | false =>
      rw [if_pos ⟨hmain, fun h => absurd h Bool.false_ne_true⟩, hset, readBegin_empty]
      simp [hmain]
  · rw [if_pos ⟨hmain, fun _ => hset⟩, readBegin_eq_some hset errId]
    exact iff_of_true ⟨_, rfl⟩ (Or.inr (Or.inr hset.ne_empty))

/-- A main call that leaves members behind is followed by one of them. -/
theorem leaveFromConference_elects (junk : ℤ) (hmem : callId ∈ c.subCallIdSet)
    (hmain : c.mainCallId = callId) (hset : (c.subCallIdSet.erase callId).Nonempty) :
    (c.leaveFromConference junk callId).2.subCallIdSet = c.subCallIdSet.erase callId ∧
    (c.leaveFromConference junk callId).2.mainCallId ∈ c.subCallIdSet.erase callId := by
  unfold Conference.leaveFromConference
  rw [if_pos hmem]
  dsimp only
  rw [if_neg hset.ne_empty, if_pos hmain]
  exact ⟨rfl, begin_mem hset junk⟩

end Leaving

/-- **Main theorem on leaving.** A call leaves a conference safely iff the class tests for it or
    the call is not the main call and the only member. -/
theorem leaveSafe_iff (kind : ConferenceKind) (c : Conference) (callId : ℤ) :
    LeaveSafe kind c callId ↔
      kind = .ott ∨ c.mainCallId ≠ callId ∨ c.subCallIdSet ≠ {callId} := by
  have hread : (∃ r, leaveRead kind c callId = some r) ↔
      kind = .ott ∨ c.mainCallId ≠ callId ∨ c.subCallIdSet ≠ {callId} := by
    cases kind with
    | ims => exact (leaveFromConferenceRead_isSome_iff false).trans (by simp)
    | cs => exact (leaveFromConferenceRead_isSome_iff false).trans (by simp)
    | ott => exact (leaveFromConferenceRead_isSome_iff true).trans (by simp)
  rw [← hread]
  constructor
  · rintro ⟨r, hr, -⟩
    exact ⟨r, hr⟩
  · rintro ⟨r, hr⟩
    refine ⟨r, hr, fun hmem hmain hset => ?_⟩
    have helects : r.2.subCallIdSet = c.subCallIdSet.erase callId ∧
        r.2.mainCallId ∈ c.subCallIdSet.erase callId := by
      rw [← conferenceOp_leave_of_read hr errId]
      cases kind <;> exact leaveFromConference_elects errId hmem hmain hset
    exact ⟨helects.1, helects.1 ▸ helects.2⟩

/-- The only call of an IMS conference, which is its main call, leaves: the
    first element of an empty set is read. -/
theorem ims_last_leave_reads_empty :
    let c := Run.run (conferenceStep .ims) Conference.init [.setMainCall 1, .setCreating, .join 1]
    leaveRead .ims c 1 = none ∧ leaveRead .ott c 1 ≠ none ∧ ¬ LeaveSafe .ims c 1 := by
  have hnone : leaveRead .ims
      (Run.run (conferenceStep .ims) Conference.init [.setMainCall 1, .setCreating, .join 1]) 1 =
      none := by decide
  refine ⟨hnone, by decide, ?_⟩
  rintro ⟨r, hr, -⟩
  rw [hnone] at hr
  cases hr

/-! ## Listing -/

section Listing

variable {c : Conference}

/-- Ids with the same text are the same. -/
theorem toString_callId_injective : Function.Injective (toString : ℤ → String) := by
  have hnat : ∀ m n : ℕ, m.repr = n.repr → m = n := fun m n h => by
    rw [← Nat.ofDigitChars_ten_toDigits (n := m), ← Nat.toList_repr, h, Nat.toList_repr,
      Nat.ofDigitChars_ten_toDigits]
  -- a digit is not the sign
  have hsign : ∀ m n : ℕ, m.repr ≠ "-" ++ n.repr := fun m n h => by
    have hmem : '-' ∈ Nat.toDigits 10 m := by
      rw [← Nat.toList_repr, h, String.toList_append]
      exact List.mem_append_left _ (by simp)
    exact absurd (Nat.isDigit_of_mem_toDigits (by decide) (by decide) hmem) (by decide)
  intro a b h
  cases a with
  | ofNat m =>
    cases b with
    | ofNat n => exact congrArg Int.ofNat (hnat m n h)
    | negSucc n => exact absurd h (hsign m (n + 1))
  | negSucc m =>
    cases b with
    | ofNat n => exact absurd h.symm (hsign n (m + 1))
    | negSucc n =>
      have htext : (m + 1).repr = (n + 1).repr := String.append_right_inj "-" |>.mp h
      exact congrArg Int.negSucc (Nat.succ.inj (hnat _ _ htext))

theorem mem_calls {callId : ℤ} :
    callId ∈ c.calls ↔ callId ∈ c.subCallIdSet ∨ (callId = c.mainCallId ∧ callId ≠ errId) := by
  unfold Conference.calls
  by_cases hmain : c.mainCallId = errId
  · rw [if_pos hmain, hmain]
    exact ⟨Or.inl, fun h => h.resolve_right fun hand => hand.2 hand.1⟩
  · rw [if_neg hmain, Finset.mem_insert]
    constructor
    · rintro (rfl | hmem)
      · exact Or.inr ⟨rfl, hmain⟩
      · exact Or.inl hmem
    · rintro (hmem | ⟨rfl, -⟩)
      · exact Or.inr hmem
      · exact Or.inl rfl

/-- For a call of the conference the members are listed, and then the main call. -/
theorem getCallIdListForConference_of_mem {callId : ℤ} (h : callId ∈ c.calls) :
    c.getCallIdListForConference callId = (.telephonySuccess, c.callIdList) := by
  unfold Conference.getCallIdListForConference
  have hflag : (decide (callId ∈ c.subCallIdSet) || decide (c.mainCallId = callId)) = true := by
    rw [Bool.or_eq_true, decide_eq_true_iff, decide_eq_true_iff]
    exact (mem_calls.mp h).imp_right fun hand => hand.1.symm
  rw [if_pos hflag]

theorem mem_callIdList {s : String} :
    s ∈ c.callIdList ↔
      (∃ id ∈ c.subCallIdSet, toString id = s) ∨ toString c.mainCallId = s := by
  rw [Conference.callIdList, List.mem_append, List.mem_map, List.mem_singleton, eq_comm (a := s)]
  simp only [Finset.mem_sort]

theorem nodup_callIdList : c.callIdList.Nodup ↔ c.mainCallId ∉ c.subCallIdSet := by
  rw [Conference.callIdList, ← List.concat_eq_append, List.nodup_concat, List.mem_map]
  have hmap : ((c.subCallIdSet.sort).map toString).Nodup :=
    (Finset.sort_nodup _ _).map toString_callId_injective
  constructor
  · rintro ⟨hnot, -⟩ hmem
    exact hnot ⟨c.mainCallId, (Finset.mem_sort _).mpr hmem, rfl⟩
  · intro hnot
    refine ⟨?_, hmap⟩
    rintro ⟨id, hid, htext⟩
    rw [toString_callId_injective htext] at hid
    exact hnot ((Finset.mem_sort _).mp hid)

theorem length_callIdList : c.callIdList.length = c.subCallIdSet.card + 1 := by
  rw [Conference.callIdList, List.length_append, List.length_map, Finset.length_sort]
  rfl

/-- If the main call is a call outside the members, then each call is listed once. -/
theorem listsOnce_of_main_not_member (hmem : c.mainCallId ∉ c.subCallIdSet)
    (hmain : c.mainCallId ≠ errId) : ListsOnce c := by
  have hcalls : c.calls = insert c.mainCallId c.subCallIdSet := by
    unfold Conference.calls
    rw [if_neg hmain]
  intro callId hcall
  rw [getCallIdListForConference_of_mem hcall]
  refine ⟨rfl, nodup_callIdList.mpr hmem, fun s => ?_, ?_⟩
  · rw [mem_callIdList, hcalls]
    simp only [Finset.mem_insert, exists_eq_or_imp]
    exact or_comm
  · rw [length_callIdList, hcalls, Finset.card_insert_of_notMem hmem]

/-- A conference lists its calls once iff it has no members or its main call
    is a call outside them. -/
theorem listsOnce_iff : ListsOnce c ↔ MainNotMember c := by
  constructor
  · intro h
    rcases c.subCallIdSet.eq_empty_or_nonempty with hset | ⟨callId, hmember⟩
    · exact Or.inl hset
    · have hcall : callId ∈ c.calls := mem_calls.mpr (Or.inl hmember)
      obtain ⟨-, hnodup, hlisted, -⟩ := h callId hcall
      rw [getCallIdListForConference_of_mem hcall] at hnodup hlisted
      have hnot := nodup_callIdList.mp hnodup
      refine Or.inr ⟨hnot, fun hmain => ?_⟩
      -- the text of no call at all is listed
      obtain ⟨id, hid, htext⟩ := (hlisted _).mp (mem_callIdList.mpr (Or.inr rfl))
      rw [toString_callId_injective htext] at hid
      rcases mem_calls.mp hid with hmem | ⟨-, hne⟩
      · exact hnot hmem
      · exact hne hmain
  · rintro (hset | ⟨hmem, hmain⟩)
    · by_cases hmain : c.mainCallId = errId
      · intro callId hcall
        rcases mem_calls.mp hcall with hmem | ⟨heq, hne⟩
        · simp [hset] at hmem
        · exact absurd (heq.trans hmain) hne
      · exact listsOnce_of_main_not_member (by simp [hset]) hmain
    · exact listsOnce_of_main_not_member hmem hmain

/-! ### One operation -/

variable {kind : ConferenceKind}

theorem join_mainNotMember_iff (allowed : List ConferenceState) (h : MainNotMember c)
    (callId : ℤ) :
    MainNotMember (c.joinToConference allowed callId).2 ↔
      c.state ∉ allowed ∨ (c.mainCallId ≠ errId ∧ c.mainCallId ≠ callId) := by
  unfold Conference.joinToConference
  by_cases hallowed : c.state ∈ allowed
  swap
  · rw [if_pos hallowed]
    exact iff_of_true h (Or.inl hallowed)
  rw [if_neg (not_not.mpr hallowed)]
  have hnot : c.mainCallId ∉ insert callId c.subCallIdSet ∧ c.mainCallId ≠ errId ↔
      c.mainCallId ≠ errId ∧ c.mainCallId ≠ callId := by
    rw [Finset.mem_insert, not_or]
    constructor
    · rintro ⟨⟨hne, -⟩, hmain⟩
      exact ⟨hmain, hne⟩
    · rintro ⟨hmain, hne⟩
      refine ⟨⟨hne, ?_⟩, hmain⟩
      rcases h with hset | hand
      · simp [hset]
      · exact hand.1
  unfold MainNotMember
  rw [or_iff_right (Finset.insert_ne_empty callId c.subCallIdSet), hnot,
    or_iff_right (not_not.mpr hallowed)]

/-- A call that leaves the members, with a reset of an emptied conference,
    keeps the main call out of them. -/
theorem MainNotMember.erase (h : MainNotMember c) {callId : ℤ} (hmem : callId ∈ c.subCallIdSet) :
    c.mainCallId ≠ callId ∧ c.mainCallId ∉ c.subCallIdSet.erase callId ∧ c.mainCallId ≠ errId := by
  rcases h with hset | ⟨hnot, hmain⟩
  · simp [hset] at hmem
  · exact ⟨fun heq => hnot (heq ▸ hmem), fun hin => hnot (Finset.mem_of_mem_erase hin), hmain⟩

theorem leave_mainNotMember (h : MainNotMember c) (junk callId : ℤ) :
    MainNotMember (c.leaveFromConference junk callId).2 := by
  unfold Conference.leaveFromConference
  by_cases hmem : callId ∈ c.subCallIdSet
  swap
  · rw [if_neg hmem]
    exact h
  rw [if_pos hmem]
  dsimp only
  obtain ⟨hne, hnot, hmain⟩ := h.erase hmem
  by_cases hset : c.subCallIdSet.erase callId = ∅
  · rw [if_pos hset]
    exact Or.inl hset
  · rw [if_neg hset, if_neg hne]
    exact Or.inr ⟨hnot, hmain⟩

theorem hold_mainNotMember (h : MainNotMember c) (callId : ℤ) :
    MainNotMember (c.holdConference callId).2 := by
  unfold Conference.holdConference
  split_ifs with hholding hmem hset
  · exact h
  · exact Or.inl hset
  · exact h
  · exact h

theorem ott_hold_mainNotMember (h : MainNotMember c) (callId : ℤ) :
    MainNotMember (OttConference.holdConference c callId).2 := by
  unfold OttConference.holdConference
  by_cases hholding : c.state = .holding
  · rw [if_pos hholding]
    exact h
  rw [if_neg hholding]
  by_cases hmem : callId ∈ c.subCallIdSet
  swap
  · rw [if_pos hmem]
    exact h
  rw [if_neg (not_not.mpr hmem)]
  dsimp only
  by_cases hset : c.subCallIdSet.erase callId = ∅
  · rw [if_pos hset]
    exact Or.inl hset
  · rw [if_neg hset]
    exact Or.inr (h.erase hmem).2

theorem updateConferenceId_mainNotMember_iff (h : MainNotMember c) (callId : ℤ) :
    MainNotMember (CsConference.updateConferenceId c callId) ↔
      c.mainCallId ≠ errId ∧ c.mainCallId ≠ callId := by
  unfold CsConference.updateConferenceId MainNotMember
  dsimp only
  rw [or_iff_right (Finset.insert_ne_empty callId c.subCallIdSet)]
  by_cases hmain : c.mainCallId = errId
  · rw [if_pos hmain]
    exact iff_of_false (fun hand => hand.1 (Finset.mem_insert_self _ _)) (fun hand => hand.1 hmain)
  rw [if_neg hmain, Finset.mem_insert, not_or]
  constructor
  · rintro ⟨⟨hne, -⟩, -⟩
    exact ⟨hmain, hne⟩
  · rintro ⟨-, hne⟩
    refine ⟨⟨hne, ?_⟩, hmain⟩
    rcases h with hset | hand
    · simp [hset]
    · exact hand.1

theorem setMainCall_mainNotMember_iff (h : MainNotMember c) (callId : ℤ) :
    MainNotMember (c.setMainCall callId).2 ↔
      callId < errId ∨ c.subCallIdSet = ∅ ∨ (callId ∉ c.subCallIdSet ∧ callId ≠ errId) := by
  unfold Conference.setMainCall
  by_cases hlt : callId < errId
  · rw [if_pos hlt]
    exact iff_of_true h (Or.inl hlt)
  · rw [if_neg hlt, or_iff_right hlt]
    rfl

/-- **One operation** of one class keeps the main call out of the members iff
    it meets its condition. -/
theorem mainNotMember_step_iff (h : MainNotMember c) (op : ConferenceOp) :
    MainNotMember (conferenceStep kind c op) ↔ KeepsMainOut kind c op := by
  cases op with
  | setMainCall callId => exact setMainCall_mainNotMember_iff h callId
  | setCreating => exact iff_of_true h trivial
  | join callId =>
    cases kind with
    | ims => exact join_mainNotMember_iff _ h callId
    | cs => exact join_mainNotMember_iff _ h callId
    | ott => exact join_mainNotMember_iff _ h callId
  | leave callId junk =>
    cases kind with
    | ims => exact iff_of_true (leave_mainNotMember h junk callId) trivial
    | cs => exact iff_of_true (leave_mainNotMember h junk callId) trivial
    | ott => exact iff_of_true (leave_mainNotMember h errId callId) trivial
  | hold callId =>
    cases kind with
    | ims => exact iff_of_true (hold_mainNotMember h callId) trivial
    | cs => exact iff_of_true (hold_mainNotMember h callId) trivial
    | ott => exact iff_of_true (ott_hold_mainNotMember h callId) trivial
  | updateConferenceId callId =>
    cases kind with
    | ims => exact iff_of_true h (by simp [KeepsMainOut])
    | cs => simpa [KeepsMainOut, conferenceStep, conferenceOp] using
        updateConferenceId_mainNotMember_iff h callId
    | ott => exact iff_of_true h (by simp [KeepsMainOut])
  | canCombine => exact iff_of_true h trivial
  | canSeparate => exact iff_of_true h trivial
  | canKickOut => exact iff_of_true h trivial

end Listing

/-- **Main theorem on listing.** For each of the three classes, every state of
    a run lists the calls of the conference once iff every step of the run
    keeps the main call out of the members. -/
theorem listsOnce_run_iff (kind : ConferenceKind) (ops : List ConferenceOp) :
    Run.StatesMeet (conferenceStep kind) ListsOnce Conference.init ops ↔
      Run.StepsMeet (conferenceStep kind) (KeepsMainOut kind) Conference.init ops := by
  have hinit : ListsOnce Conference.init := listsOnce_iff.mpr (Or.inl rfl)
  refine Run.statesMeet_iff_stepsMeet (fun c op h => ?_) ops hinit
  rw [listsOnce_iff]
  exact mainNotMember_step_iff (listsOnce_iff.mp h) op

/-- Two calls are combined in an IMS conference: the main call is listed twice
    and the list has three entries for two calls. -/
theorem ims_main_call_listed_twice :
    let c := Run.run (conferenceStep .ims) Conference.init
      [.setMainCall 1, .setCreating, .join 1, .join 2]
    (c.getCallIdListForConference 2).1 = .telephonySuccess ∧
    (c.getCallIdListForConference 2).2.length = 3 ∧ c.calls.card = 2 ∧ ¬ ListsOnce c := by
  have hcall : (2 : ℤ) ∈ (Run.run (conferenceStep .ims) Conference.init
      [.setMainCall 1, .setCreating, .join 1, .join 2]).calls := by decide
  refine ⟨?_, ?_, by decide, fun h => ?_⟩
  · rw [getCallIdListForConference_of_mem hcall]
  · rw [getCallIdListForConference_of_mem hcall, length_callIdList]
    decide
  · rcases listsOnce_iff.mp h with hset | hand
    · revert hset
      decide
    · exact absurd hand.1 (by decide)

end CallManager
