import CallManager.CallBase
import CallManager.Conference
import CallManager.StoredCalls

/-!
# Calls and their conferences

What the IMS and the CS conference have to do with the calls, apart from
everything else about a call: the list of the stored calls, the id and the
types of each call object, whether its own conference state has it in a
conference, and the two conferences.

A call counts by its own conference state and by the main call of the IMS
conference alone, so the members, the main calls and the conference states of
the calls have to agree. This file says how (`Ok`) and which changes of the
book keep it so.

Results:
* `Ok.renews`: calls that are in no conference may come, go and change.
* `Ok.leave`, `Ok.hold`, `Loose.join`, `Ok.combine`, `Ok.combineFailed`: the
  changes of the IMS conference.
* `Ok.setCs`: the changes of the CS conference.
* `Ok.countP_counted`: the calls counted are one for each conference and one
  for each call in none.
-/

namespace CallManager

/-- The id and the types of a call object. -/
structure CallEntry where
  callId : ℤ
  objectType : CallType
  callType : CallType
  deriving DecidableEq, Repr

/-- The calls and the conferences. `inConference` tells the calls whose own
    conference state is not IDLE. -/
@[ext] structure ConferenceBook where
  calls : Ref → Option CallEntry
  nextRef : Ref
  callId : ℤ
  list : List Ref
  inConference : Ref → Bool
  ims : Conference
  cs : Conference

namespace ConferenceBook

/-! ## Agreement -/

/-- The list has a call of this id and type. -/
def Holds (b : ConferenceBook) (callId : ℤ) (callType : CallType) : Prop :=
  ∃ call ∈ b.list, ∃ e, b.calls call = some e ∧ e.callId = callId ∧ e.callType = callType

/-- The id is that of no member and of no main call. -/
def Free (b : ConferenceBook) (callId : ℤ) : Prop :=
  callId ∉ b.ims.subCallIdSet ∧ callId ∉ b.cs.subCallIdSet ∧
    (b.ims.mainCallId = callId → callId = errId) ∧ (b.cs.mainCallId = callId → callId = errId)

instance (b : ConferenceBook) (callId : ℤ) : Decidable (b.Free callId) := by
  unfold Free
  infer_instance

/-- Every object has an id of its own that has been given out and is of its
    class, but for ERR_CALL; the list has objects only, each once. -/
structure CallsOk (b : ConferenceBook) : Prop where
  live : ∀ call e, b.calls call = some e → call < b.nextRef ∧ e.callId ≤ b.callId
  inj : ∀ call call' e e', b.calls call = some e → b.calls call' = some e' →
    e.callId = e'.callId → call = call'
  typed : ∀ call e, b.calls call = some e → e.callType = e.objectType ∨ e.callType = .errCall
  listed : ∀ call ∈ b.list, ∃ e, b.calls call = some e
  nodup : b.list.Nodup

/-- The CS conference `c` has stored CS calls only and at most one member, and
    it has never been on hold. -/
structure CsOk (b : ConferenceBook) (c : Conference) : Prop where
  members : ∀ callId ∈ c.subCallIdSet, b.Holds callId .cs
  main : c.mainCallId = errId ∨ b.Holds c.mainCallId .cs
  one : c.subCallIdSet.card ≤ 1
  states : c.state ≠ .holding ∧ c.oldState ≠ .holding

/-- The calls and the conferences agree, but for the main call of the IMS conference, which need
    not be a member: the IMS conference has stored IMS calls only, the calls in a conference by
    their own state are its members, and its members but the main call are in a conference by
    their own state. -/
structure Loose (b : ConferenceBook) : Prop where
  callsOk : CallsOk b
  members : ∀ callId ∈ b.ims.subCallIdSet, b.Holds callId .ims
  main : b.ims.mainCallId = errId ∨ b.Holds b.ims.mainCallId .ims
  states : b.ims.subCallIdSet.Nonempty → b.ims.state ≠ .idle ∧ b.ims.oldState ≠ .idle
  member : ∀ call e, b.calls call = some e → b.inConference call = true →
    e.callId ∈ b.ims.subCallIdSet
  apart : ∀ call e, b.calls call = some e → e.callId ∈ b.ims.subCallIdSet →
    e.callId ≠ b.ims.mainCallId → b.inConference call = true
  csOk : CsOk b b.cs

/-- The calls and the conferences agree. -/
structure Ok (b : ConferenceBook) : Prop extends Loose b where
  mainMember : b.ims.subCallIdSet.Nonempty → b.ims.mainCallId ∈ b.ims.subCallIdSet

variable {b b' : ConferenceBook} {call : Ref} {e : CallEntry}

theorem CallsOk.type_of_holds (h : CallsOk b) (hcall : b.calls call = some e) {callType : CallType}
    (hheld : b.Holds e.callId callType) : call ∈ b.list ∧ e.callType = callType := by
  obtain ⟨call', hlist, e', hcall', hid, htype⟩ := hheld
  obtain rfl := h.inj call' call e' e hcall' hcall hid
  rw [hcall] at hcall'
  rw [Option.some.inj hcall']
  exact ⟨hlist, htype⟩

/-- A member of the IMS conference is an IMS call of its class. -/
theorem Loose.ims_of_member (h : Loose b) (hcall : b.calls call = some e)
    (hmem : e.callId ∈ b.ims.subCallIdSet) :
    call ∈ b.list ∧ e.callType = .ims ∧ e.objectType = .ims := by
  obtain ⟨hlist, htype⟩ := h.callsOk.type_of_holds hcall (h.members _ hmem)
  refine ⟨hlist, htype, ?_⟩
  rcases h.callsOk.typed call e hcall with heq | herr
  · rw [← heq, htype]
  · rw [htype] at herr
    cases herr

/-- A call of another class is in no conference by its own state. -/
theorem Loose.not_inConference (h : Loose b) (hcall : b.calls call = some e)
    (hmem : e.callId ∉ b.ims.subCallIdSet) : b.inConference call = false := by
  cases hin : b.inConference call with
  | false => rfl
  | true => exact absurd (h.member call e hcall hin) hmem

/-! ## Calls in no conference -/

/-- From `b` to `b'` only calls in no conference come, go or change. -/
structure Renews (b b' : ConferenceBook) : Prop where
  callsOk : CallsOk b'
  ims : b'.ims = b.ims
  cs : b'.cs = b.cs
  holds : ∀ callId callType, ¬ b.Free callId → b.Holds callId callType → b'.Holds callId callType
  old : ∀ call e, b'.calls call = some e → ¬ b.Free e.callId →
    b.calls call = some e ∧ b'.inConference call = b.inConference call
  fresh : ∀ call e, b'.calls call = some e → b.Free e.callId → b'.inConference call = false

theorem not_free_of_ims {callId : ℤ} (h : callId ∈ b.ims.subCallIdSet) : ¬ b.Free callId :=
  fun hfree => hfree.1 h

theorem not_free_of_cs {callId : ℤ} (h : callId ∈ b.cs.subCallIdSet) : ¬ b.Free callId :=
  fun hfree => hfree.2.1 h

theorem not_free_of_imsMain (h : b.ims.mainCallId ≠ errId) : ¬ b.Free b.ims.mainCallId :=
  fun hfree => h (hfree.2.2.1 rfl)

theorem not_free_of_csMain (h : b.cs.mainCallId ≠ errId) : ¬ b.Free b.cs.mainCallId :=
  fun hfree => h (hfree.2.2.2 rfl)

theorem Ok.renews (h : Ok b) (hb : Renews b b') : Ok b' where
  callsOk := hb.callsOk
  members callId hmem := by
    rw [hb.ims] at hmem
    exact hb.holds callId .ims (not_free_of_ims hmem) (h.members callId hmem)
  main := by
    rw [hb.ims]
    by_cases hmain : b.ims.mainCallId = errId
    · exact .inl hmain
    · exact .inr (hb.holds _ _ (not_free_of_imsMain hmain) (h.main.resolve_left hmain))
  states := by
    rw [hb.ims]
    exact h.states
  member call e hcall hin := by
    by_cases hfree : b.Free e.callId
    · rw [hb.fresh call e hcall hfree] at hin
      cases hin
    · obtain ⟨hold, hsame⟩ := hb.old call e hcall hfree
      rw [hb.ims]
      exact h.member call e hold (hsame ▸ hin)
  apart call e hcall hmem hne := by
    rw [hb.ims] at hmem hne
    obtain ⟨hold, hsame⟩ := hb.old call e hcall (not_free_of_ims hmem)
    rw [hsame]
    exact h.apart call e hold hmem hne
  csOk := by
    rw [hb.cs]
    refine ⟨fun callId hmem => ?_, ?_, h.csOk.one, h.csOk.states⟩
    · exact hb.holds callId .cs (not_free_of_cs hmem) (h.csOk.members callId hmem)
    · by_cases hmain : b.cs.mainCallId = errId
      · exact .inl hmain
      · exact .inr (hb.holds _ _ (not_free_of_csMain hmain) (h.csOk.main.resolve_left hmain))
  mainMember := by
    rw [hb.ims]
    exact h.mainMember

/-- A new object with the next id. -/
def alloc (b : ConferenceBook) (e : CallEntry) : ConferenceBook :=
  { b with
    calls := Function.update b.calls b.nextRef (some e)
    nextRef := b.nextRef + 1
    callId := e.callId
    inConference := Function.update b.inConference b.nextRef false }

/-- `newCall` takes over the id of `call`, which is destroyed. -/
def replace (b : ConferenceBook) (newCall call : Ref) (n e : CallEntry) : ConferenceBook :=
  { b with
    calls := Function.update (Function.update b.calls newCall (some { n with callId := e.callId }))
      call none
    inConference := Function.update (Function.update b.inConference newCall false) call false }

/-- The object becomes a call of type ERR_CALL. -/
def void (b : ConferenceBook) (call : Ref) (e : CallEntry) : ConferenceBook :=
  { b with
    calls := Function.update b.calls call (some { e with callType := .errCall })
    inConference := Function.update b.inConference call false }

/-- A call in no conference by the conferences is in none by its own state. -/
theorem Loose.fresh (h : Loose b) (hcall : b.calls call = some e) (hfree : b.Free e.callId) :
    b.inConference call = false :=
  h.not_inConference hcall hfree.1

theorem Loose.free_next (h : Loose b) {callId : ℤ} (hid : b.callId < callId) : b.Free callId := by
  have hgone : ∀ callType, ¬ b.Holds callId callType := by
    rintro callType ⟨call, -, e, hcall, rfl, -⟩
    have := (h.callsOk.live call e hcall).2
    omega
  refine ⟨fun hmem => hgone _ (h.members _ hmem), fun hmem => hgone _ (h.csOk.members _ hmem),
    fun hmain => ?_, fun hmain => ?_⟩
  · rcases h.main with herr | hheld
    · rw [← hmain, herr]
    · exact absurd (hmain ▸ hheld) (hgone _)
  · rcases h.csOk.main with herr | hheld
    · rw [← hmain, herr]
    · exact absurd (hmain ▸ hheld) (hgone _)

theorem Ok.alloc (h : Ok b) (hid : e.callId = b.callId + 1) (htype : e.callType = e.objectType) :
    Ok (b.alloc e) := by
  have hdead : ∀ r e', b.calls r = some e' → r ≠ b.nextRef := fun r e' hr =>
    Nat.ne_of_lt (h.callsOk.live r e' hr).1
  have hold : ∀ r, r ≠ b.nextRef → (b.alloc e).calls r = b.calls r := fun r hr =>
    Function.update_of_ne hr _ _
  have hnew : (b.alloc e).calls b.nextRef = some e := Function.update_self _ _ _
  refine h.renews ⟨⟨fun r e' hr => ?_, fun r r' e' e'' hr hr' heq => ?_, fun r e' hr => ?_,
    fun r hr => ?_, h.callsOk.nodup⟩, rfl, rfl, ?_, fun r e' hr hfree => ?_, fun r e' hr hfree => ?_⟩
  · by_cases hnext : r = b.nextRef
    · rw [hnext, hnew] at hr
      rw [hnext, ← Option.some.inj hr]
      exact ⟨Nat.lt_succ_self _, le_refl _⟩
    · rw [hold r hnext] at hr
      obtain ⟨hlt, hle⟩ := h.callsOk.live r e' hr
      refine ⟨Nat.lt_succ_of_lt hlt, ?_⟩
      show e'.callId ≤ e.callId
      omega
  · by_cases hnext : r = b.nextRef
    · by_cases hnext' : r' = b.nextRef
      · rw [hnext, hnext']
      · rw [hnext, hnew] at hr
        rw [hold r' hnext'] at hr'
        have := (h.callsOk.live r' e'' hr').2
        rw [← heq, ← Option.some.inj hr] at this
        omega
    · rw [hold r hnext] at hr
      by_cases hnext' : r' = b.nextRef
      · rw [hnext', hnew] at hr'
        have := (h.callsOk.live r e' hr).2
        rw [heq, ← Option.some.inj hr'] at this
        omega
      · rw [hold r' hnext'] at hr'
        exact h.callsOk.inj r r' e' e'' hr hr' heq
  · by_cases hnext : r = b.nextRef
    · rw [hnext, hnew] at hr
      rw [← Option.some.inj hr]
      exact .inl htype
    · rw [hold r hnext] at hr
      exact h.callsOk.typed r e' hr
  · obtain ⟨e', hr'⟩ := h.callsOk.listed r hr
    exact ⟨e', (hold r (hdead r e' hr')).trans hr'⟩
  · rintro callId callType - ⟨r, hlist, e', hr, heq⟩
    exact ⟨r, hlist, e', (hold r (hdead r e' hr)).trans hr, heq⟩
  · have hnext : r ≠ b.nextRef := by
      rintro rfl
      rw [hnew] at hr
      refine hfree (h.free_next ?_)
      rw [← Option.some.inj hr, hid]
      omega
    rw [hold r hnext] at hr
    exact ⟨hr, Function.update_of_ne hnext _ _⟩
  · by_cases hnext : r = b.nextRef
    · rw [hnext]
      exact Function.update_self _ _ _
    · rw [hold r hnext] at hr
      exact (Function.update_of_ne hnext _ _).trans (h.fresh hr hfree)

/-- Taking an id. -/
theorem Ok.setCallId (h : Ok b) : Ok { b with callId := b.callId + 1 } := by
  refine h.renews ⟨⟨fun r e hr => ?_, h.callsOk.inj, h.callsOk.typed, h.callsOk.listed,
    h.callsOk.nodup⟩, rfl, rfl, fun _ _ _ hheld => hheld, fun r e hr _ => ⟨hr, rfl⟩,
    fun r e hr hfree => h.fresh hr hfree⟩
  obtain ⟨hlt, hle⟩ := h.callsOk.live r e hr
  refine ⟨hlt, ?_⟩
  show e.callId ≤ b.callId + 1
  omega

theorem Ok.add (h : Ok b) (hcall : b.calls call = some e) (hnot : call ∉ b.list) :
    Ok { b with list := b.list ++ [call] } := by
  refine h.renews ⟨⟨h.callsOk.live, h.callsOk.inj, h.callsOk.typed, fun r hr => ?_, ?_⟩, rfl, rfl,
    ?_, fun r e hr _ => ⟨hr, rfl⟩, fun r e hr hfree => h.fresh hr hfree⟩
  · rcases List.mem_append.mp hr with hr | hr
    · exact h.callsOk.listed r hr
    · rw [List.mem_singleton.mp hr]
      exact ⟨e, hcall⟩
  · have hnodup := h.callsOk.nodup.concat hnot
    rwa [List.concat_eq_append] at hnodup
  · rintro callId callType - ⟨r, hlist, hheld⟩
    exact ⟨r, List.mem_append_left _ hlist, hheld⟩

/-- A call in no conference is taken off the list. -/
theorem Ok.delete (h : Ok b) {list : List Ref} {callId : ℤ} (hfree : b.Free callId)
    (hsub : list.Sublist b.list)
    (hkeep : ∀ call ∈ b.list, ∀ e, b.calls call = some e → e.callId ≠ callId → call ∈ list) :
    Ok { b with list := list } := by
  refine h.renews ⟨⟨h.callsOk.live, h.callsOk.inj, h.callsOk.typed, fun r hr => ?_, ?_⟩, rfl, rfl,
    ?_, fun r e hr _ => ⟨hr, rfl⟩, fun r e hr hfree => h.fresh hr hfree⟩
  · exact h.callsOk.listed r (hsub.subset hr)
  · exact h.callsOk.nodup.sublist hsub
  · rintro callId' callType hbound ⟨r, hlist, e, hr, hid, htype⟩
    refine ⟨r, hkeep r hlist e hr fun heq => hbound ?_, e, hr, hid, htype⟩
    rw [← hid, heq]
    exact hfree

theorem Ok.void (h : Ok b) (hcall : b.calls call = some e) (hfree : b.Free e.callId) :
    Ok (b.void call e) := by
  have hold : ∀ r, r ≠ call → (b.void call e).calls r = b.calls r := fun r hr =>
    Function.update_of_ne hr _ _
  have hnew : (b.void call e).calls call = some { e with callType := .errCall } :=
    Function.update_self _ _ _
  have hback : ∀ r e', (b.void call e).calls r = some e' →
      ∃ e'', b.calls r = some e'' ∧ e''.callId = e'.callId := by
    intro r e' hr
    by_cases heq : r = call
    · rw [heq, hnew] at hr
      exact ⟨e, heq ▸ hcall, by rw [← Option.some.inj hr]⟩
    · exact ⟨e', (hold r heq).symm.trans hr, rfl⟩
  refine h.renews ⟨⟨fun r e' hr => ?_, fun r r' e' e'' hr hr' heq => ?_, fun r e' hr => ?_,
    fun r hr => ?_, h.callsOk.nodup⟩, rfl, rfl, ?_, fun r e' hr hbound => ?_, fun r e' hr hbound => ?_⟩
  · obtain ⟨e'', hr', hid⟩ := hback r e' hr
    exact hid ▸ h.callsOk.live r e'' hr'
  · obtain ⟨d, hd, hid⟩ := hback r e' hr
    obtain ⟨d', hd', hid'⟩ := hback r' e'' hr'
    exact h.callsOk.inj r r' d d' hd hd' (by rw [hid, hid', heq])
  · by_cases heq : r = call
    · rw [heq, hnew] at hr
      rw [← Option.some.inj hr]
      exact .inr rfl
    · rw [hold r heq] at hr
      exact h.callsOk.typed r e' hr
  · by_cases heq : r = call
    · rw [heq]
      exact ⟨_, hnew⟩
    · rw [hold r heq]
      exact h.callsOk.listed r hr
  · rintro callId callType hbound ⟨r, hlist, e', hr, hid, htype⟩
    refine ⟨r, hlist, e', (hold r ?_).trans hr, hid, htype⟩
    rintro rfl
    rw [hcall] at hr
    rw [← hid, ← Option.some.inj hr] at hbound
    exact hbound hfree
  · have hne : r ≠ call := by
      rintro rfl
      rw [hnew] at hr
      rw [← Option.some.inj hr] at hbound
      exact hbound hfree
    exact ⟨(hold r hne).symm.trans hr, Function.update_of_ne hne _ _⟩
  · by_cases heq : r = call
    · rw [heq]
      exact Function.update_self _ _ _
    · rw [hold r heq] at hr
      exact (Function.update_of_ne heq _ _).trans (h.fresh hr hbound)

/-- A call in no conference that is off the list is replaced by another one. -/
theorem Ok.replace (h : Ok b) {newCall : Ref} {n : CallEntry} (hcall : b.calls call = some e)
    (hnew : b.calls newCall = some n) (hne : newCall ≠ call) (hfree : b.Free e.callId)
    (hfree' : b.Free n.callId) (hnot : call ∉ b.list) : Ok (b.replace newCall call n e) := by
  have hgone : (b.replace newCall call n e).calls call = none := Function.update_self _ _ _
  have htaken : (b.replace newCall call n e).calls newCall = some { n with callId := e.callId } :=
    (Function.update_of_ne hne _ _).trans (Function.update_self _ _ _)
  have hold : ∀ r, r ≠ call → r ≠ newCall → (b.replace newCall call n e).calls r = b.calls r :=
    fun r hr hr' => (Function.update_of_ne hr _ _).trans (Function.update_of_ne hr' _ _)
  -- where an entry comes from: the new object stands for the old one
  have hback : ∀ r e', (b.replace newCall call n e).calls r = some e' → r ≠ call ∧
      ∃ e'', b.calls (if r = newCall then call else r) = some e'' ∧ e''.callId = e'.callId := by
    intro r e' hr
    have hr' : r ≠ call := by
      rintro rfl
      rw [hgone] at hr
      cases hr
    refine ⟨hr', ?_⟩
    by_cases heq : r = newCall
    · rw [heq, htaken] at hr
      rw [if_pos heq]
      exact ⟨e, hcall, by rw [← Option.some.inj hr]⟩
    · rw [if_neg heq]
      exact ⟨e', (hold r hr' heq).symm.trans hr, rfl⟩
  have hentry : ∀ r e', (b.replace newCall call n e).calls r = some e' → ¬ b.Free e'.callId →
      b.calls r = some e' ∧ r ≠ call ∧ r ≠ newCall := by
    intro r e' hr hbound
    obtain ⟨hr', -⟩ := hback r e' hr
    have hr'' : r ≠ newCall := by
      rintro rfl
      rw [htaken] at hr
      rw [← Option.some.inj hr] at hbound
      exact hbound hfree
    exact ⟨(hold r hr' hr'').symm.trans hr, hr', hr''⟩
  refine h.renews ⟨⟨fun r e' hr => ?_, fun r r' e' e'' hr hr' heq => ?_, fun r e' hr => ?_,
    fun r hr => ?_, h.callsOk.nodup⟩, rfl, rfl, ?_, fun r e' hr hbound => ?_, fun r e' hr hbound => ?_⟩
  · obtain ⟨-, e'', hr', hid⟩ := hback r e' hr
    obtain ⟨hlt, hle⟩ := h.callsOk.live _ e'' hr'
    refine ⟨?_, hid ▸ hle⟩
    by_cases heq : r = newCall
    · rw [heq]
      exact (h.callsOk.live newCall n hnew).1
    · rwa [if_neg heq] at hlt
  · obtain ⟨hrcall, d, hd, hid⟩ := hback r e' hr
    obtain ⟨hrcall', d', hd', hid'⟩ := hback r' e'' hr'
    have horigin := h.callsOk.inj _ _ d d' hd hd' (by rw [hid, hid', heq])
    split_ifs at horigin with hn hn' hn'
    · rw [hn, hn']
    · exact absurd horigin.symm hrcall'
    · exact absurd horigin hrcall
    · exact horigin
  · by_cases heq : r = newCall
    · rw [heq, htaken] at hr
      rw [← Option.some.inj hr]
      exact h.callsOk.typed newCall n hnew
    · rw [hold r (hback r e' hr).1 heq] at hr
      exact h.callsOk.typed r e' hr
  · have hr' : r ≠ call := fun heq => hnot (heq ▸ hr)
    by_cases heq : r = newCall
    · rw [heq]
      exact ⟨_, htaken⟩
    · rw [hold r hr' heq]
      exact h.callsOk.listed r hr
  · rintro callId callType hbound ⟨r, hlist, e', hr, hid, htype⟩
    have hr' : r ≠ call := fun heq => hnot (heq ▸ hlist)
    have hr'' : r ≠ newCall := by
      rintro rfl
      rw [hnew] at hr
      rw [← hid, ← Option.some.inj hr] at hbound
      exact hbound hfree'
    exact ⟨r, hlist, e', (hold r hr' hr'').trans hr, hid, htype⟩
  · obtain ⟨hr', hne', hne''⟩ := hentry r e' hr hbound
    exact ⟨hr', (Function.update_of_ne hne' _ _).trans (Function.update_of_ne hne'' _ _)⟩
  · obtain ⟨hr', -⟩ := hback r e' hr
    refine (Function.update_of_ne hr' _ _).trans ?_
    by_cases heq : r = newCall
    · rw [heq]
      exact Function.update_self _ _ _
    · rw [hold r hr' heq] at hr
      exact (Function.update_of_ne heq _ _).trans (h.fresh hr hbound)

/-! ## The CS conference -/

/-- A change of the CS conference. -/
theorem Loose.setCs (h : Loose b) {c : Conference} (hc : CsOk b c) : Loose { b with cs := c } where
  callsOk := ⟨h.callsOk.live, h.callsOk.inj, h.callsOk.typed, h.callsOk.listed, h.callsOk.nodup⟩
  members := h.members
  main := h.main
  states := h.states
  member := h.member
  apart := h.apart
  csOk := ⟨hc.members, hc.main, hc.one, hc.states⟩

theorem Ok.setCs (h : Ok b) {c : Conference} (hc : CsOk b c) : Ok { b with cs := c } :=
  ⟨h.toLoose.setCs hc, h.mainMember⟩

/-- The call that leaves or that is not a member at all. -/
theorem CsOk.leave {c : Conference} (hc : CsOk b c) (junk callId : ℤ) :
    CsOk b (CsConference.leaveFromConference junk c callId).2 := by
  unfold CsConference.leaveFromConference Conference.leaveFromConference
  by_cases hmem : callId ∈ c.subCallIdSet
  swap
  · rw [if_neg hmem]
    exact hc
  -- the only member has left
  have hempty : c.subCallIdSet.erase callId = ∅ := by
    rw [← Finset.card_eq_zero, Finset.card_erase_of_mem hmem]
    have := hc.one
    omega
  rw [if_pos hmem]
  dsimp only
  rw [if_pos hempty]
  refine ⟨fun callId' h => ?_, .inl rfl, ?_, by simp [Conference.reset]⟩
  · exact hc.members callId' (Finset.mem_of_mem_erase h)
  · show (c.subCallIdSet.erase callId).card ≤ 1
    rw [hempty]
    exact Nat.zero_le 1

/-- A call that is not a member cannot put the conference on hold. -/
theorem CsOk.hold {c : Conference} (hc : CsOk b c) {callId : ℤ} (hmem : callId ∉ c.subCallIdSet) :
    CsConference.holdConference c callId = (.callErrConferenceSeperateFailed, c) := by
  unfold CsConference.holdConference Conference.holdConference
  rw [if_neg hc.states.1, if_pos hmem]

/-- No call can join once the state is IDLE. -/
theorem join_idle (c : Conference) (callId : ℤ) :
    CsConference.joinToConference (c.setConferenceState .idle) callId =
      (.callErrIllegalCallOperation, c.setConferenceState .idle) := by
  unfold CsConference.joinToConference Conference.joinToConference
  exact if_pos (by simp [Conference.setConferenceState])

theorem CsOk.setConferenceState {c : Conference} (hc : CsOk b c) {state : ConferenceState}
    (hstate : state ≠ .holding) : CsOk b (c.setConferenceState state) :=
  ⟨hc.members, hc.main, hc.one, hstate, hc.states.2⟩

theorem CsOk.setMainCall {c : Conference} (hc : CsOk b c) {callId : ℤ}
    (hheld : callId = errId ∨ b.Holds callId .cs) : CsOk b (c.setMainCall callId).2 := by
  unfold Conference.setMainCall
  split_ifs
  · exact hc
  · exact ⟨hc.members, hheld, hc.one, hc.states⟩

/-- An empty CS conference is given its only member. -/
theorem CsOk.updateConferenceId {c : Conference} (hc : CsOk b c) (hempty : c.subCallIdSet = ∅)
    {callId : ℤ} (hheld : b.Holds callId .cs) :
    CsOk b (CsConference.updateConferenceId c callId) := by
  unfold CsConference.updateConferenceId
  refine ⟨fun callId' hmem => ?_, ?_, ?_, hc.states⟩
  · rw [hempty] at hmem
    rw [Finset.mem_singleton.mp hmem]
    exact hheld
  · dsimp only
    split_ifs
    · exact .inr hheld
    · exact hc.main
  · rw [hempty]
    exact le_refl 1

/-! ## The IMS conference -/

/-- A change of the IMS conference and of the conference states of calls. -/
def setIms (b : ConferenceBook) (c : Conference) (inConference : Ref → Bool) : ConferenceBook :=
  { b with ims := c, inConference := inConference }

theorem Loose.setIms (h : Loose b) {c : Conference} {inConference : Ref → Bool}
    (hmembers : ∀ callId ∈ c.subCallIdSet, b.Holds callId .ims)
    (hmain : c.mainCallId = errId ∨ b.Holds c.mainCallId .ims)
    (hstates : c.subCallIdSet.Nonempty → c.state ≠ .idle ∧ c.oldState ≠ .idle)
    (hmember : ∀ call e, b.calls call = some e → inConference call = true →
      e.callId ∈ c.subCallIdSet)
    (hapart : ∀ call e, b.calls call = some e → e.callId ∈ c.subCallIdSet →
      e.callId ≠ c.mainCallId → inConference call = true) : Loose (b.setIms c inConference) where
  callsOk := ⟨h.callsOk.live, h.callsOk.inj, h.callsOk.typed, h.callsOk.listed, h.callsOk.nodup⟩
  members := hmembers
  main := hmain
  states := hstates
  member := hmember
  apart := hapart
  csOk := ⟨h.csOk.members, h.csOk.main, h.csOk.one, h.csOk.states⟩

/-- A call that joins. -/
theorem Loose.join (h : Loose b) (hcall : b.calls call = some e) (hlist : call ∈ b.list)
    (htype : e.callType = .ims) {c : Conference}
    (hset : c.subCallIdSet = insert e.callId b.ims.subCallIdSet)
    (hmain : c.mainCallId = b.ims.mainCallId) (hstate : c.state ≠ .idle ∧ c.oldState ≠ .idle) :
    Loose (b.setIms c (Function.update b.inConference call true)) := by
  refine h.setIms (fun callId hmem => ?_) (hmain ▸ h.main) (fun _ => hstate)
    (fun r e' hr hin => ?_) (fun r e' hr hmem hne => ?_)
  · rw [hset] at hmem
    rcases Finset.mem_insert.mp hmem with rfl | hmem
    · exact ⟨call, hlist, e, hcall, rfl, htype⟩
    · exact h.members callId hmem
  · rw [hset]
    by_cases heq : r = call
    · rw [heq, hcall] at hr
      rw [Option.some.inj hr]
      exact Finset.mem_insert_self _ _
    · rw [Function.update_of_ne heq] at hin
      exact Finset.mem_insert_of_mem (h.member r e' hr hin)
  · rw [hset] at hmem
    by_cases heq : r = call
    · rw [heq, Function.update_self]
    · rw [Function.update_of_ne heq]
      have hid : e'.callId ≠ e.callId := fun hid => heq (h.callsOk.inj r call e' e hr hcall hid)
      refine h.apart r e' hr ((Finset.mem_insert.mp hmem).resolve_left hid) ?_
      rw [← hmain]
      exact hne

/-- A member that leaves. -/
theorem Ok.leave (h : Ok b) (hcall : b.calls call = some e) (hmem : e.callId ∈ b.ims.subCallIdSet)
    (junk : ℤ) :
    Ok (b.setIms (ImsConference.leaveFromConference junk b.ims e.callId).2
      (Function.update b.inConference call false)) := by
  -- another member stays one, another call that is apart stays so
  have hmember : ∀ r e', b.calls r = some e' → Function.update b.inConference call false r = true →
      e'.callId ∈ b.ims.subCallIdSet.erase e.callId := by
    intro r e' hr hin
    have hne : r ≠ call := by
      rintro rfl
      rw [Function.update_self] at hin
      cases hin
    rw [Function.update_of_ne hne] at hin
    refine Finset.mem_erase.mpr ⟨fun hid => hne ?_, h.member r e' hr hin⟩
    exact h.callsOk.inj r call e' e hr hcall hid
  have hother : ∀ r e', b.calls r = some e' → e'.callId ∈ b.ims.subCallIdSet.erase e.callId →
      r ≠ call := by
    rintro r e' hr hmem' rfl
    rw [hcall] at hr
    rw [Option.some.inj hr] at hmem'
    exact absurd rfl (Finset.mem_erase.mp hmem').1
  unfold ImsConference.leaveFromConference Conference.leaveFromConference
  rw [if_pos hmem]
  dsimp only
  by_cases hempty : b.ims.subCallIdSet.erase e.callId = ∅
  · rw [if_pos hempty]
    have hnone : ∀ {callId}, callId ∉ b.ims.subCallIdSet.erase e.callId := by
      intro callId
      rw [hempty]
      exact Finset.notMem_empty callId
    refine ⟨h.toLoose.setIms (fun _ hin => absurd hin hnone) (.inl rfl) (fun hne => ?_)
      hmember (fun _ _ _ hin _ => absurd hin hnone), fun hne => ?_⟩
    · exact absurd hne.choose_spec hnone
    · exact absurd hne.choose_spec hnone
  · rw [if_neg hempty]
    have hmain : (if b.ims.mainCallId = e.callId then
        Conference.begin (b.ims.subCallIdSet.erase e.callId) junk else b.ims.mainCallId) ∈
          b.ims.subCallIdSet.erase e.callId := by
      split_ifs with hmain
      · exact begin_mem (Finset.nonempty_iff_ne_empty.mpr hempty) junk
      · exact Finset.mem_erase.mpr ⟨hmain, h.mainMember ⟨_, hmem⟩⟩
    refine ⟨h.toLoose.setIms (fun callId hin => ?_) (.inr ?_) (fun _ => h.states ⟨_, hmem⟩)
      hmember (fun r e' hr hin hne => ?_), fun _ => hmain⟩
    · exact h.members callId (Finset.mem_of_mem_erase hin)
    · exact h.members _ (Finset.mem_of_mem_erase hmain)
    · have hr' := hother r e' hr hin
      rw [Function.update_of_ne hr']
      refine h.apart r e' hr (Finset.mem_of_mem_erase hin) fun heq => ?_
      dsimp only at hne
      rw [← heq, if_neg (Finset.mem_erase.mp hin).1] at hne
      exact hne rfl

/-- A member whose own state says so, with the conference in a state that is not IDLE. -/
theorem Ok.hold (h : Ok b) (hcall : b.calls call = some e) (hmem : e.callId ∈ b.ims.subCallIdSet)
    {c : Conference} (hset : c.subCallIdSet = b.ims.subCallIdSet)
    (hmain : c.mainCallId = b.ims.mainCallId) (hstate : c.state ≠ .idle ∧ c.oldState ≠ .idle) :
    Ok (b.setIms c (Function.update b.inConference call true)) := by
  refine ⟨h.toLoose.setIms (fun callId hin => ?_) (hmain ▸ h.main) (fun _ => hstate)
    (fun r e' hr hin => ?_) (fun r e' hr hin hne => ?_), fun _ => ?_⟩
  · exact h.members callId (hset ▸ hin)
  · rw [hset]
    by_cases heq : r = call
    · rw [heq, hcall] at hr
      rw [← Option.some.inj hr]
      exact hmem
    · rw [Function.update_of_ne heq] at hin
      exact h.member r e' hr hin
  · by_cases heq : r = call
    · rw [heq, Function.update_self]
    · rw [Function.update_of_ne heq]
      exact h.apart r e' hr (hset ▸ hin) (hmain ▸ hne)
  · show c.mainCallId ∈ c.subCallIdSet
    rw [hset, hmain]
    exact h.mainMember ⟨_, hmem⟩

/-- The main call is in no conference by its own state any more. -/
theorem Ok.mainIdle (h : Ok b) (hcall : b.calls call = some e)
    (hmain : e.callId ∈ b.ims.subCallIdSet → e.callId = b.ims.mainCallId) :
    Ok (b.setIms b.ims (Function.update b.inConference call false)) := by
  refine ⟨h.toLoose.setIms h.members h.main h.states (fun r e' hr hin => ?_)
    (fun r e' hr hin hne => ?_), h.mainMember⟩
  · have heq : r ≠ call := by
      rintro rfl
      rw [Function.update_self] at hin
      cases hin
    rw [Function.update_of_ne heq] at hin
    exact h.member r e' hr hin
  · have heq : r ≠ call := by
      rintro rfl
      rw [hcall] at hr
      obtain rfl := Option.some.inj hr
      exact hne (hmain hin)
    rw [Function.update_of_ne heq]
    exact h.apart r e' hr hin hne

/-- A change of the main call: to a member with all the others in a conference
    by their own state, or to a call while there are no members. -/
theorem Ok.setMainCall (h : Ok b) {c : Conference} (hset : c.subCallIdSet = b.ims.subCallIdSet)
    (hstates : b.ims.subCallIdSet.Nonempty → c.state ≠ .idle ∧ c.oldState ≠ .idle)
    (hmain : c.mainCallId = errId ∨ b.Holds c.mainCallId .ims)
    (hmem : b.ims.subCallIdSet.Nonempty → c.mainCallId ∈ b.ims.subCallIdSet)
    (hothers : ∀ call e, b.calls call = some e → e.callId ∈ b.ims.subCallIdSet →
      e.callId ≠ c.mainCallId → b.inConference call = true) : Ok (b.setIms c b.inConference) := by
  refine ⟨h.toLoose.setIms (fun callId hin => ?_) hmain (fun hne => hstates (hset ▸ hne))
    (fun r e' hr hin => ?_) (fun r e' hr hin hne => ?_), fun hne => ?_⟩
  · exact h.members callId (hset ▸ hin)
  · rw [hset]
    exact h.member r e' hr hin
  · exact hothers r e' hr (hset ▸ hin) hne
  · show c.mainCallId ∈ c.subCallIdSet
    rw [hset]
    exact hmem (hset ▸ hne)

/-! ## The calls of a list join -/

/-- From `b` to `b'` the calls of the list have been set to IDLE and have joined the conferences
    of their classes, in which only the IMS conference takes them, if it is not IDLE. -/
structure Joined (b b' : ConferenceBook) (list : List Ref) : Prop where
  loose : Loose b'
  calls : b'.calls = b.calls
  stored : b'.list = b.list
  main : b'.ims.mainCallId = b.ims.mainCallId
  state : b'.ims.state = .idle ↔ b.ims.state = .idle
  subset : b.ims.subCallIdSet ⊆ b'.ims.subCallIdSet
  joined : b.ims.state ≠ .idle → ∀ call ∈ list, ∀ e, b.calls call = some e → e.objectType = .ims →
    e.callId ∈ b'.ims.subCallIdSet
  new : ∀ callId ∈ b'.ims.subCallIdSet, callId ∈ b.ims.subCallIdSet ∨
    b.ims.state ≠ .idle ∧ ∃ call ∈ list, ∃ e, b.calls call = some e ∧ e.objectType = .ims

theorem Joined.nil (h : Loose b) : Joined b b [] where
  loose := h
  calls := rfl
  stored := rfl
  main := rfl
  state := Iff.rfl
  subset := Finset.Subset.refl _
  joined _ _ hmem := by cases hmem
  new _ hmem := .inl hmem

theorem Joined.cons {b₁ : ConferenceBook} {list : List Ref} (h : Joined b b₁ [call])
    (h' : Joined b₁ b' list) : Joined b b' (call :: list) where
  loose := h'.loose
  calls := h'.calls.trans h.calls
  stored := h'.stored.trans h.stored
  main := h'.main.trans h.main
  state := h'.state.trans h.state
  subset := h.subset.trans h'.subset
  joined hstate r hr e he hims := by
    rcases List.mem_cons.mp hr with rfl | hr
    · exact h'.subset (h.joined hstate r (List.mem_singleton_self r) e he hims)
    · exact h'.joined (fun hidle => hstate (h.state.mp hidle)) r hr e (h.calls ▸ he) hims
  new callId hmem := by
    rcases h'.new callId hmem with hmem | ⟨hstate, r, hr, e, he, hims⟩
    · rcases h.new callId hmem with hmem | ⟨hstate, r, hr, e, he, hims⟩
      · exact .inl hmem
      · exact .inr ⟨hstate, r, List.mem_cons.mpr (.inl (List.mem_singleton.mp hr)), e, he, hims⟩
    · refine .inr ⟨fun hidle => hstate (h.state.mpr hidle), r, List.mem_cons_of_mem _ hr, e, ?_, hims⟩
      rw [← h.calls]
      exact he

/-- A call that joins the IMS conference. -/
theorem Joined.ims (h : Loose b) (hcall : b.calls call = some e) (hlist : call ∈ b.list)
    (htype : e.callType = .ims) (hstate : b.ims.state ≠ .idle) (hobject : e.objectType = .ims) :
    Joined b (b.setIms { b.ims with
        subCallIdSet := insert e.callId b.ims.subCallIdSet
        state := .active
        oldState := .active } (Function.update b.inConference call true)) [call] where
  loose := h.join hcall hlist htype rfl rfl (by simp)
  calls := rfl
  stored := rfl
  main := rfl
  state := iff_of_false (by simp [setIms]) hstate
  subset := Finset.subset_insert _ _
  joined _ r hr e' he' _ := by
    rw [List.mem_singleton.mp hr, hcall] at he'
    rw [← Option.some.inj he']
    exact Finset.mem_insert_self _ _
  new _ _ := .inr ⟨hstate, call, List.mem_singleton_self call, e, hcall, hobject⟩

/-- A call that joins no conference; the CS conference may have become IDLE. -/
theorem Joined.other (h : Loose b) {c : Conference} (hc : CsOk b c)
    (hnot : ∀ e, b.calls call = some e → e.objectType = .ims → b.ims.state = .idle) :
    Joined b { b with cs := c } [call] where
  loose := h.setCs hc
  calls := rfl
  stored := rfl
  main := rfl
  state := Iff.rfl
  subset := Finset.Subset.refl _
  joined hstate r hr e he hims := by
    rw [List.mem_singleton.mp hr] at he
    exact absurd (hnot e he hims) hstate
  new _ hmem := .inl hmem

/-- The main call is a member once all have joined, if it was one or joins. -/
theorem Joined.ok {list : List Ref} (hj : Joined b b' list) (h : Ok b)
    (hmain : ∀ call ∈ list, ∀ e, b.calls call = some e → e.objectType = .ims →
      b.ims.state ≠ .idle → b.ims.mainCallId ∈ b.ims.subCallIdSet ∨
        ∃ other ∈ list, ∃ e', b.calls other = some e' ∧ e'.objectType = .ims ∧
          e'.callId = b.ims.mainCallId) : Ok b' where
  toLoose := hj.loose
  mainMember := by
    rintro ⟨callId, hmem⟩
    rw [hj.main]
    rcases hj.new callId hmem with hmem | ⟨hstate, call, hcall, e, he, hims⟩
    · exact hj.subset (h.mainMember ⟨callId, hmem⟩)
    · rcases hmain call hcall e he hims hstate with hmem | ⟨other, hother, e', he', hims', hid⟩
      · exact hj.subset hmem
      · rw [← hid]
        exact hj.joined hstate other hother e' he' hims'

/-! ## The count -/

/-- The calls that `GetCurrentCallNum` counts. -/
def counted (b : ConferenceBook) (call : Ref) : Bool :=
  match b.calls call with
  | none => false
  | some e =>
    e.callType ∈ carrierTypes ∧ (b.inConference call = true → b.ims.mainCallId = e.callId)

/-- The carrier calls that are in no conference. -/
def alone (b : ConferenceBook) (call : Ref) : Bool :=
  match b.calls call with
  | none => false
  | some e =>
    e.callType ∈ carrierTypes ∧ e.callId ∉ b.ims.subCallIdSet ∧ e.callId ∉ b.cs.subCallIdSet

/-- The calls with an id of the set. -/
def hasIdIn (b : ConferenceBook) (set : Finset ℤ) (call : Ref) : Bool :=
  match b.calls call with
  | none => false
  | some e => e.callId ∈ set

/-- The number of conferences with members. -/
def conferenceNum (b : ConferenceBook) : ℕ :=
  (if b.ims.subCallIdSet.Nonempty then 1 else 0) + if b.cs.subCallIdSet.Nonempty then 1 else 0

theorem countP_of_disjoint {list : List Ref} {p q r : Ref → Bool}
    (hor : ∀ call ∈ list, p call = true ↔ q call = true ∨ r call = true)
    (hnot : ∀ call ∈ list, ¬ (q call = true ∧ r call = true)) :
    list.countP p = list.countP q + list.countP r := by
  induction list with
  | nil => rfl
  | cons call list ih =>
    have hrest := ih (fun c hc => hor c (List.mem_cons_of_mem _ hc))
      fun c hc => hnot c (List.mem_cons_of_mem _ hc)
    have hor' := hor call List.mem_cons_self
    have hnot' := hnot call List.mem_cons_self
    rw [List.countP_cons, List.countP_cons, List.countP_cons, hrest]
    cases hq : q call <;> cases hr : r call <;> simp_all <;> omega

/-- The list has one call for a set of at most one id, if that is the id of a stored call. -/
theorem CallsOk.countP_hasIdIn (h : CallsOk b) {set : Finset ℤ} {callType : CallType}
    (hone : set.card ≤ 1) (hheld : ∀ callId ∈ set, b.Holds callId callType) :
    b.list.countP (b.hasIdIn set) = if set.Nonempty then 1 else 0 := by
  by_cases hne : set.Nonempty
  · rw [if_pos hne]
    obtain ⟨callId, hset⟩ := Finset.card_eq_one.mp (le_antisymm hone hne.card_pos)
    obtain ⟨call, hlist, e, hcall, hid, -⟩ := hheld callId (hset ▸ Finset.mem_singleton_self callId)
    have hcongr : b.list.countP (b.hasIdIn set) = b.list.countP fun r => r == call := by
      refine List.countP_congr fun r hr => ?_
      obtain ⟨e', hr'⟩ := h.listed r hr
      simp only [hasIdIn, hr', hset, Finset.mem_singleton, decide_eq_true_eq, beq_iff_eq]
      constructor
      · intro hid'
        exact h.inj r call e' e hr' hcall (by rw [hid', hid])
      · rintro rfl
        rw [hcall] at hr'
        rw [← Option.some.inj hr', hid]
    rw [hcongr]
    exact List.count_eq_one_of_mem h.nodup hlist
  · rw [if_neg hne, List.countP_eq_zero]
    intro r _
    rw [Finset.not_nonempty_iff_eq_empty] at hne
    simp only [hasIdIn, hne]
    cases b.calls r <;> simp

/-- The main call of the IMS conference, if it is a member. -/
def mainIds (b : ConferenceBook) : Finset ℤ :=
  b.ims.subCallIdSet.filter fun callId => callId = b.ims.mainCallId

theorem mem_mainIds {callId : ℤ} :
    callId ∈ b.mainIds ↔ callId ∈ b.ims.subCallIdSet ∧ callId = b.ims.mainCallId :=
  Finset.mem_filter

theorem Ok.countP_mainIds (h : Ok b) :
    b.list.countP (b.hasIdIn b.mainIds) = if b.ims.subCallIdSet.Nonempty then 1 else 0 := by
  have hone : b.mainIds.card ≤ 1 := by
    refine Finset.card_le_one.mpr fun callId hmem callId' hmem' => ?_
    rw [(mem_mainIds.mp hmem).2, (mem_mainIds.mp hmem').2]
  rw [h.callsOk.countP_hasIdIn hone fun callId hmem => h.members callId (mem_mainIds.mp hmem).1]
  by_cases hne : b.ims.subCallIdSet.Nonempty
  · rw [if_pos hne, if_pos ⟨_, mem_mainIds.mpr ⟨h.mainMember hne, rfl⟩⟩]
  · rw [if_neg hne, if_neg]
    rintro ⟨callId, hmem⟩
    exact hne ⟨callId, (mem_mainIds.mp hmem).1⟩

/-- No call is in both conferences. -/
theorem Ok.not_both (h : Ok b) (hcall : b.calls call = some e)
    (hims : e.callId ∈ b.ims.subCallIdSet) (hcs : e.callId ∈ b.cs.subCallIdSet) : False := by
  have htype := (h.callsOk.type_of_holds hcall (h.csOk.members _ hcs)).2
  rw [(h.ims_of_member hcall hims).2.1] at htype
  cases htype

/-- The members that count: the main call of the IMS conference, and the one of
    the CS conference. -/
theorem Ok.countP_members (h : Ok b) :
    b.list.countP (fun call => b.hasIdIn b.mainIds call || b.hasIdIn b.cs.subCallIdSet call) =
      b.conferenceNum := by
  rw [conferenceNum, ← h.countP_mainIds, ← h.callsOk.countP_hasIdIn h.csOk.one h.csOk.members]
  refine countP_of_disjoint (fun call _ => Bool.or_eq_true_iff) fun call hlist hboth => ?_
  obtain ⟨e, hcall⟩ := h.callsOk.listed call hlist
  simp only [hasIdIn, hcall, decide_eq_true_eq, mem_mainIds] at hboth
  exact h.not_both hcall hboth.1.1 hboth.2

/-- Each conference with members counts once, and so does each carrier call in none. -/
theorem Ok.countP_counted (h : Ok b) :
    b.list.countP b.counted = b.conferenceNum + b.list.countP b.alone := by
  rw [← h.countP_members]
  refine countP_of_disjoint (fun call hlist => ?_) fun call hlist hboth => ?_
  · obtain ⟨e, hcall⟩ := h.callsOk.listed call hlist
    simp only [counted, alone, hasIdIn, hcall, Bool.or_eq_true, decide_eq_true_eq, mem_mainIds]
    constructor
    · rintro ⟨hcarrier, hmain⟩
      by_cases hims : e.callId ∈ b.ims.subCallIdSet
      · -- a member that is not the main call is not counted
        by_cases heq : e.callId = b.ims.mainCallId
        · exact .inl (.inl ⟨hims, heq⟩)
        · exact absurd (hmain (h.apart call e hcall hims heq)).symm heq
      · by_cases hcs : e.callId ∈ b.cs.subCallIdSet
        · exact .inl (.inr hcs)
        · exact .inr ⟨hcarrier, hims, hcs⟩
    · rintro ((⟨hims, heq⟩ | hcs) | ⟨hcarrier, hims, -⟩)
      · rw [(h.ims_of_member hcall hims).2.1]
        exact ⟨by decide, fun _ => heq.symm⟩
      · rw [(h.callsOk.type_of_holds hcall (h.csOk.members _ hcs)).2]
        exact ⟨by decide, fun hin => (h.not_both hcall (h.member call e hcall hin) hcs).elim⟩
      · exact ⟨hcarrier, fun hin => absurd (h.member call e hcall hin) hims⟩
  · obtain ⟨e, hcall⟩ := h.callsOk.listed call hlist
    simp only [alone, hasIdIn, hcall, Bool.or_eq_true, decide_eq_true_eq, mem_mainIds] at hboth
    rcases hboth with ⟨⟨hims, -⟩ | hcs, -, hnot, hnot'⟩
    · exact hnot hims
    · exact hnot' hcs

end ConferenceBook

end CallManager
