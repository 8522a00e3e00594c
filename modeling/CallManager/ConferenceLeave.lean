import CallManager.ConferenceActions
import Mathlib.Data.List.Find

/-!
# The call that leaves its conference

`DisconnectedHandle` converts the call of its report if it has to, takes it out
of its conference, tells of it, lets the deferred dial go on, takes the call off
the list, and ends the conference of a slot that has one conference call left.

A call that is the main call of a conference but no member stays its main call,
for it cannot leave. And the last conference call of a slot stays a member: if
another member is the main call, both count.

Results:
* `ok_disconnectCall`: the calls and the conferences agree after the handler,
  if the call is a member of each conference it is the main call of and the
  last conference call is the main call in the end (`LeaveOk`, on the state
  before the handler).
-/

namespace CallManager

/-! ## The condition -/

namespace StatusWorld

/-- The stored calls but those with the ids `gone`. -/
def others (w : StatusWorld) (gone : List ℤ) : List Ref :=
  w.store.callObjectPtrList.filter fun it => (w.object it).callId ∉ gone

/-- The state without these calls on the list. -/
def without (w : StatusWorld) (gone : List ℤ) : StatusWorld :=
  { w with store := { w.store with callObjectPtrList := w.others gone } }

/-- If the calls `gone` leave one conference call of the slot, and that is a
    member, it is the one that the IMS conference has as main call without
    `callId`: the main call, or the least other member for it. -/
def LastOk (w : StatusWorld) (callId : ℤ) (gone : List ℤ) (slotId : ℤ) : Prop :=
  match (w.without gone).getConferenceCallList slotId with
  | [left] =>
    (w.object left).callId ∈ w.imsConference.subCallIdSet →
      if w.imsConference.mainCallId = callId then
        ∀ other ∈ w.imsConference.subCallIdSet, other ≠ callId → (w.object left).callId ≤ other
      else (w.object left).callId = w.imsConference.mainCallId
  | _ => True

/-- A call whose hang-up is pending, and which the deferred dial finds then, is
    in no conference. -/
def HangUpOk (w : StatusWorld) : Prop :=
  w.needWaitHold = true → w.pendingHangup = true → w.pendingHangupCallId ≠ -1 →
    w.book.Free w.pendingHangupCallId

/-- The condition on the call that a report disconnects: it is a member of each
    conference it is the main call of; another call with a pending hang-up is in
    no conference; and the conference call that is the last one of its slot then
    is the main call, whether or not that other call goes from the list, too. -/
def LeaveOk (w : StatusWorld) (env : StatusEnv) (call : Ref) (info : CallDetailInfo) : Prop :=
  let callId := (w.object call).callId
  (w.imsConference.mainCallId = callId → callId ∈ w.imsConference.subCallIdSet ∨ callId = errId) ∧
    (w.csConference.mainCallId = callId → callId ∈ w.csConference.subCallIdSet ∨ callId = errId) ∧
    (w.pendingHangupCallId ≠ callId → w.HangUpOk) ∧
    ∀ gone ∈ [[callId], [w.pendingHangupCallId, callId]],
      w.LastOk callId gone (refreshed env (w.object call) info).slotId

/-! Every condition is decidable. -/

section Decidable

variable (env : StatusEnv) (w : StatusWorld)

instance (callId : ℤ) (gone : List ℤ) (slotId : ℤ) : Decidable (w.LastOk callId gone slotId) := by
  unfold LastOk
  split <;> infer_instance

instance : Decidable w.HangUpOk := inferInstanceAs (Decidable (_ → _ → _ → _))

instance (call : Ref) (info : CallDetailInfo) : Decidable (w.LeaveOk env call info) :=
  inferInstanceAs (Decidable (_ ∧ _ ∧ _ ∧ _))

end Decidable

end StatusWorld

/-! ## The call that a report disconnects -/

namespace Conference

variable {c : Conference} {callId other : ℤ}

theorem leaveFromConference_of_notMem (h : callId ∉ c.subCallIdSet) (junk : ℤ) :
    (c.leaveFromConference junk callId).2 = c := by
  rw [leaveFromConference, if_neg h]

/-- The members that stay, and the main call: as it was, or the least of them, or none. -/
theorem leaveFromConference_of_mem (h : callId ∈ c.subCallIdSet) (junk : ℤ) :
    (c.leaveFromConference junk callId).2.subCallIdSet = c.subCallIdSet.erase callId ∧
      (c.leaveFromConference junk callId).2.mainCallId =
        if c.subCallIdSet.erase callId = ∅ then errId
        else if c.mainCallId = callId then begin (c.subCallIdSet.erase callId) junk
        else c.mainCallId := by
  rw [leaveFromConference, if_pos h]
  dsimp only
  split_ifs <;> exact ⟨rfl, rfl⟩

/-- A call that leaves is in no conference then, if it was a member of the one
    it was the main call of. -/
theorem leaveFromConference_left
    (h : c.mainCallId = callId → callId ∈ c.subCallIdSet ∨ callId = errId) (junk : ℤ) :
    callId ∉ (c.leaveFromConference junk callId).2.subCallIdSet ∧
      ((c.leaveFromConference junk callId).2.mainCallId = callId → callId = errId) := by
  by_cases hmem : callId ∈ c.subCallIdSet
  · obtain ⟨hset, hmain⟩ := leaveFromConference_of_mem hmem junk
    rw [hset, hmain]
    refine ⟨Finset.notMem_erase _ _, fun heq => ?_⟩
    split_ifs at heq with hempty hwas
    · exact heq.symm
    · have hbegin := begin_mem (Finset.nonempty_iff_ne_empty.mpr hempty) junk
      exact absurd heq (Finset.ne_of_mem_erase hbegin)
    · exact absurd heq hwas
  · rw [leaveFromConference_of_notMem hmem]
    exact ⟨hmem, fun heq => (h heq).resolve_left hmem⟩

/-- A call that is in no conference stays so when another one leaves. -/
theorem leaveFromConference_other (hset : other ∉ c.subCallIdSet)
    (hmain : c.mainCallId = other → other = errId) (junk callId : ℤ) :
    other ∉ (c.leaveFromConference junk callId).2.subCallIdSet ∧
      ((c.leaveFromConference junk callId).2.mainCallId = other → other = errId) := by
  by_cases hmem : callId ∈ c.subCallIdSet
  · obtain ⟨hset', hmain'⟩ := leaveFromConference_of_mem hmem junk
    rw [hset', hmain']
    refine ⟨fun hin => hset (Finset.mem_of_mem_erase hin), fun heq => ?_⟩
    split_ifs at heq with hempty hwas
    · exact heq.symm
    · have hbegin := begin_mem (Finset.nonempty_iff_ne_empty.mpr hempty) junk
      exact absurd (Finset.mem_of_mem_erase (heq ▸ hbegin)) hset
    · exact hmain heq
  · rw [leaveFromConference_of_notMem hmem]
    exact ⟨hset, hmain⟩

/-- A member that stays is the main call then, if it was the main call, or is
    the least one but for a main call that leaves. -/
theorem leaveFromConference_main (hne : c.subCallIdSet.Nonempty → c.mainCallId ∈ c.subCallIdSet)
    (hother : if c.mainCallId = callId then
        ∀ left ∈ c.subCallIdSet, left ≠ callId → other ≤ left
      else other = c.mainCallId) {junk : ℤ}
    (hmem : other ∈ (c.leaveFromConference junk callId).2.subCallIdSet) :
    other = (c.leaveFromConference junk callId).2.mainCallId := by
  by_cases hin : callId ∈ c.subCallIdSet
  · obtain ⟨hset, hmain⟩ := leaveFromConference_of_mem hin junk
    rw [hset] at hmem
    have hleft : (c.subCallIdSet.erase callId).Nonempty := ⟨other, hmem⟩
    rw [hmain, if_neg hleft.ne_empty]
    split_ifs at hother ⊢ with hwas
    · have hbegin := begin_mem hleft junk
      have hle := hother _ (Finset.mem_of_mem_erase hbegin) (Finset.ne_of_mem_erase hbegin)
      rw [begin, dif_pos hleft] at hle ⊢
      exact le_antisymm hle (Finset.min'_le _ _ hmem)
    · exact hother
  · rw [leaveFromConference_of_notMem hin] at hmem ⊢
    have hwas : c.mainCallId ≠ callId := fun hwas => hin (hwas ▸ hne ⟨other, hmem⟩)
    rwa [if_neg hwas] at hother

end Conference

namespace StatusWorld

variable {w w' w'' : StatusWorld} {ins : Insertion} {env : StatusEnv} {info : CallDetailInfo}
  {call : Ref} {c : CallBase} {callId : ℤ} {gone gone' : List ℤ}

/-! ### What the parts of the handler leave alone -/

theorem updateCallState_rest (w : StatusWorld) (call : Ref) (nextState : TelCallState) :
    ∃ heap notifications,
      w.updateCallState call nextState = { w with heap := heap, notifications := notifications } := by
  have hfold : ∀ (list : List Ref) (callId : ℤ) (w : StatusWorld), ∃ heap, list.foldl
      (fun w it => if (w.object it).callId = callId then w.setTelCallState it nextState else w) w =
        { w with heap := heap } := by
    intro list callId
    induction list with
    | nil => exact fun w => ⟨w.heap, rfl⟩
    | cons it list ih =>
      intro w
      rw [List.foldl_cons]
      obtain ⟨heap, hrest⟩ := ih (if (w.object it).callId = callId then
        w.setTelCallState it nextState else w)
      rw [hrest]
      split_ifs <;> exact ⟨heap, rfl⟩
  unfold updateCallState
  split
  · exact ⟨w.heap, w.notifications, rfl⟩
  · dsimp only
    rw [updateOneCallObjectByCallId]
    obtain ⟨heap, hrest⟩ := hfold _ _ (w.setTelCallState call nextState)
    rw [hrest]
    exact ⟨heap, _, rfl⟩

theorem exitConference_rest (w : StatusWorld) (env : StatusEnv) (call : Ref) :
    ∃ heap ims cs ott, (w.exitConference env call).2 =
      { w with heap := heap, imsConference := ims, csConference := cs, ottConference := ott } := by
  unfold exitConference
  dsimp only
  split
  · split_ifs <;> exact ⟨_, _, _, _, rfl⟩
  · split_ifs <;> exact ⟨_, _, _, _, rfl⟩
  · split_ifs <;> exact ⟨_, _, _, _, rfl⟩
  all_goals exact ⟨_, _, _, _, rfl⟩

theorem exchangeCall_rest (w : StatusWorld) (ins : Insertion) (env : StatusEnv) (newCall : Ref)
    (c : CallBase) (info : CallDetailInfo) :
    ∃ heap store cs, w.exchangeCall ins env newCall c info =
        { w with heap := heap, store := store, csConference := cs } ∧
      (cs = w.csConference ∨ (c.callType = .ims ∧ info.callType = .cs ∧ info.mpty = 1) ∧
        cs = CsConference.updateConferenceId w.csConference c.callId) := by
  unfold exchangeCall
  dsimp only
  split_ifs with hjoins
  · exact ⟨_, _, _, rfl, .inr ⟨hjoins, rfl⟩⟩
  · exact ⟨_, _, _, rfl, .inl rfl⟩

/-- `RefreshCallIfNecessary` writes to the objects, the store and the CS
    conference, which gets the id of the call at most. -/
theorem refreshCallIfNecessary_rest (w : StatusWorld) (ins : Insertion) (env : StatusEnv) (call : Ref)
    (info : CallDetailInfo) :
    ∃ heap nextRef store cs, (w.refreshCallIfNecessary ins env call info).2 =
        { w with heap := heap, nextRef := nextRef, store := store, csConference := cs } ∧
      (cs = w.csConference ∨
        ((w.object call).callType = .ims ∧ info.callType = .cs ∧ info.mpty = 1) ∧
          cs = CsConference.updateConferenceId w.csConference (w.object call).callId) := by
  have hid : ((w.modify call fun c => c.refreshVideoState info).object call).callId =
      (w.object call).callId :=
    w.modify_object_callId call call fun c => c.refreshVideoState_callId info
  have htype : ((w.modify call fun c => c.refreshVideoState info).object call).callType =
      (w.object call).callType := by
    unfold object
    rw [modify_heap_self]
    cases w.heap call with
    | none => rfl
    | some c => exact c.refreshVideoState_callType info
  unfold refreshCallIfNecessary
  dsimp only
  rw [← hid, ← htype]
  split_ifs
  · exact ⟨_, _, _, _, rfl, .inl rfl⟩
  · have hmodify : ∃ heap, (w.modify call fun c => c.refreshVideoState info) =
        { w with heap := heap } := ⟨_, rfl⟩
    obtain ⟨heap, hw₁⟩ := hmodify
    have hcs : (w.modify call fun c => c.refreshVideoState info).csConference = w.csConference := rfl
    cases hc : (w.modify call fun c => c.refreshVideoState info).heap call with
    | none =>
      rw [refreshCall, hc]
      exact ⟨_, _, _, _, rfl, .inl rfl⟩
    | some c =>
      rcases hnew : (w.modify call fun c => c.refreshVideoState info).createNewCall env info with
        ⟨_ | newCall, w'⟩
      · rw [refreshCall_none hc hnew, (createNewCall_eq_none hnew).2]
        exact ⟨_, _, _, _, rfl, .inl rfl⟩
      · obtain ⟨-, n, -, hw'⟩ := createNewCall_eq_some hnew
        obtain ⟨heap', store, cs, hexchange, hcs'⟩ :=
          exchangeCall_rest w' ins env newCall c info
        rw [refreshCall_some hc hnew, hexchange, hw', object_eq hc]
        rw [hw'] at hcs'
        exact ⟨_, _, _, _, rfl, hcs'⟩

/-! ### The conferences after the call has left -/

/-- `ExitConference` takes the call out of both conferences: one is that of its
    class, and it is no member of the other. -/
theorem exitConference_conferences (h : w.book.Ok) (hc : w.heap call = some c) (env : StatusEnv) :
    (w.exitConference env call).2.imsConference =
        (w.imsConference.leaveFromConference env.junk c.callId).2 ∧
      (w.exitConference env call).2.csConference =
        (w.csConference.leaveFromConference env.junk c.callId).2 := by
  have hims : c.objectType ≠ .ims →
      (w.imsConference.leaveFromConference env.junk c.callId).2 = w.imsConference := fun hne =>
    Conference.leaveFromConference_of_notMem
      (fun hmem => hne (class_of_member h.toLoose hc hmem).2) env.junk
  have hcs : c.objectType ≠ .cs →
      (w.csConference.leaveFromConference env.junk c.callId).2 = w.csConference := by
    refine fun hne => Conference.leaveFromConference_of_notMem (fun hmem => hne ?_) env.junk
    have htype : c.callType = .cs :=
      (h.callsOk.type_of_holds (book_calls hc) (h.csOk.members _ hmem)).2
    rcases h.callsOk.typed call c.entry (book_calls hc) with hclass | herr
    · exact hclass.symm.trans htype
    · rw [show c.entry.callType = c.callType from rfl, htype] at herr
      cases herr
  unfold exitConference
  rw [object_eq hc]
  dsimp only
  cases hclass : c.objectType with
  | cs =>
    rw [hims (by rw [hclass]; decide)]
    dsimp only
    split_ifs <;> exact ⟨rfl, rfl⟩
  | ims =>
    rw [hcs (by rw [hclass]; decide)]
    dsimp only
    split_ifs <;> exact ⟨rfl, rfl⟩
  | ott =>
    rw [hims (by rw [hclass]; decide), hcs (by rw [hclass]; decide)]
    dsimp only
    split_ifs <;> exact ⟨rfl, rfl⟩
  | satellite | voip | bluetooth | errCall =>
    rw [hims (by rw [hclass]; decide), hcs (by rw [hclass]; decide)]
    exact ⟨rfl, rfl⟩

/-- The call that leaves is in no conference then. -/
theorem free_exitConference (h : w.book.Ok) (hc : w.heap call = some c)
    (hims : w.imsConference.mainCallId = c.callId →
      c.callId ∈ w.imsConference.subCallIdSet ∨ c.callId = errId)
    (hcs : w.csConference.mainCallId = c.callId →
      c.callId ∈ w.csConference.subCallIdSet ∨ c.callId = errId) (env : StatusEnv) :
    (w.exitConference env call).2.book.Free c.callId := by
  obtain ⟨hims', hcs'⟩ := exitConference_conferences h hc env
  obtain ⟨hims₁, hims₂⟩ := Conference.leaveFromConference_left hims env.junk
  obtain ⟨hcs₁, hcs₂⟩ := Conference.leaveFromConference_left hcs env.junk
  rw [← hims'] at hims₁ hims₂
  rw [← hcs'] at hcs₁ hcs₂
  exact ⟨hims₁, hcs₁, hims₂, hcs₂⟩

theorem free_exitConference_other (h : w.book.Ok) (hc : w.heap call = some c)
    (hfree : w.book.Free callId) (env : StatusEnv) :
    (w.exitConference env call).2.book.Free callId := by
  obtain ⟨hims', hcs'⟩ := exitConference_conferences h hc env
  obtain ⟨hset, hset', hmain, hmain'⟩ := hfree
  obtain ⟨hims₁, hims₂⟩ := Conference.leaveFromConference_other hset hmain env.junk c.callId
  obtain ⟨hcs₁, hcs₂⟩ := Conference.leaveFromConference_other hset' hmain' env.junk c.callId
  rw [show w.book.ims = w.imsConference from rfl, ← hims'] at hims₁ hims₂
  rw [show w.book.cs = w.csConference from rfl, ← hcs'] at hcs₁ hcs₂
  exact ⟨hims₁, hcs₁, hims₂, hcs₂⟩

/-! ### The other calls -/

/-- The calls but those with the ids `gone` stay on the list, each with its
    place, and so does the last report of each slot. -/
structure SameOthers (gone : List ℤ) (w w' : StatusWorld) : Prop where
  infos : w'.tmpCallDetailsInfo = w.tmpCallDetailsInfo
  others : w'.others gone = w.others gone
  places : ∀ r ∈ w.others gone,
    (w'.object r).key = (w.object r).key ∧ (w'.object r).callType = (w.object r).callType

/-- The calls `gone` are off the list, and all calls keep their places. -/
structure Leaves (gone : List ℤ) (w w' : StatusWorld) : Prop where
  infos : w'.tmpCallDetailsInfo = w.tmpCallDetailsInfo
  list : w'.store.callObjectPtrList = w.others gone
  places : ∀ r, (w'.object r).key = (w.object r).key ∧ (w'.object r).callType = (w.object r).callType

theorem SameOthers.trans (h : SameOthers gone w w') (h' : SameOthers gone w' w'') :
    SameOthers gone w w'' where
  infos := h'.infos.trans h.infos
  others := h'.others.trans h.others
  places r hr := by
    obtain ⟨hkey, htype⟩ := h.places r hr
    obtain ⟨hkey', htype'⟩ := h'.places r (h.others ▸ hr)
    exact ⟨hkey'.trans hkey, htype'.trans htype⟩

/-- All calls keep their places. -/
theorem SameOthers.of_places (hlist : w'.store.callObjectPtrList = w.store.callObjectPtrList)
    (hinfos : w'.tmpCallDetailsInfo = w.tmpCallDetailsInfo)
    (hplaces : ∀ r, (w'.object r).key = (w.object r).key ∧
      (w'.object r).callType = (w.object r).callType) : SameOthers gone w w' where
  infos := hinfos
  others := by
    rw [StatusWorld.others, hlist]
    refine List.filter_congr fun r _ => ?_
    rw [show (w'.object r).callId = (w.object r).callId from congrArg CallKey.callId (hplaces r).1]
  places r _ := hplaces r

theorem object_callType (w : StatusWorld) (r : Ref) :
    (w.object r).callType = ((w.book.calls r).map CallEntry.callType).getD (default : CallBase).callType := by
  cases hc : w.heap r <;> simp [object, book, hc, CallBase.entry]

/-- The keys and the types of the objects tell their places. -/
theorem SameKeys.places (h : SameKeys w w') (hcalls : w'.book.calls = w.book.calls) (r : Ref) :
    (w'.object r).key = (w.object r).key ∧ (w'.object r).callType = (w.object r).callType := by
  rw [object_callType, object_callType, hcalls]
  exact ⟨h.object_key r, rfl⟩

theorem SameOthers.updateCallState (w : StatusWorld) (call : Ref) (nextState : TelCallState) :
    SameOthers gone w (w.updateCallState call nextState) := by
  have hsame := SameKeys.updateCallState w call nextState
  obtain ⟨heap, notifications, hrest⟩ := updateCallState_rest w call nextState
  refine .of_places hsame.list (by rw [hrest]) (hsame.places ?_)
  rw [book_updateCallState]

theorem calls_setTelConferenceState (w : StatusWorld) (call : Ref) (state : TelConferenceState) :
    (w.setTelConferenceState call state).book.calls = w.book.calls := by
  cases hc : w.heap call with
  | none => rw [setTelConferenceState, modify_none hc]
  | some c =>
    rw [book_setTelConferenceState hc]
    rfl

theorem SameOthers.exitConference (w : StatusWorld) (env : StatusEnv) (call : Ref) :
    SameOthers gone w (w.exitConference env call).2 := by
  have hsame : SameKeys w (w.exitConference env call).2 := SameKeys.exitConference w call
  obtain ⟨heap, ims, cs, ott, hrest⟩ := exitConference_rest w env call
  refine .of_places hsame.list (by rw [hrest]) (hsame.places ?_)
  unfold StatusWorld.exitConference
  dsimp only
  split
  · split_ifs
    · exact calls_setTelConferenceState _ call .idle
    · rfl
  · split_ifs
    · exact calls_setTelConferenceState _ call .idle
    · rfl
  · split_ifs
    · exact calls_setTelConferenceState _ call .idle
    · rfl
  all_goals rfl

theorem SameOthers.clearPendingState (w : StatusWorld) (call : Ref) :
    SameOthers gone w (w.clearPendingState call) := by
  have hsame := SameKeys.clearPendingState w call
  refine .of_places hsame.list ?_ (hsame.places ?_)
  · unfold StatusWorld.clearPendingState
    dsimp only
    split_ifs <;> rfl
  · rw [book_clearPendingState]

/-- The list after `RefreshCall`: the new object is put on it, if
    `AddOneCallObject` does that, and the old one taken off. -/
theorem list_exchangeCall (h : w.book.Ok) {newCall : Ref} {n : CallBase}
    (hn : w.heap newCall = some n) :
    (w.exchangeCall ins env newCall c info).store.callObjectPtrList =
      (if ins = .asWritten ∨ CallObjectManager.Stored w.object w.store n.callId then
        w.store.callObjectPtrList
      else w.store.callObjectPtrList ++ [newCall]).filter fun r => (w.object r).callId ≠ c.callId := by
  have hids : ∀ r, (((w.addOneCallObject ins env newCall).modify newCall fun n =>
      { n with callRunningState := c.callRunningState, conferenceState := c.conferenceState }
      ).object r).callId = (w.object r).callId :=
    fun r => (w.addOneCallObject ins env newCall).modify_object_callId newCall r fun _ => rfl
  have hdistinct : CallObjectManager.Distinct
      ((w.addOneCallObject ins env newCall).modify newCall fun n =>
        { n with callRunningState := c.callRunningState, conferenceState := c.conferenceState }).object
      (w.addOneCallObject ins env newCall).store := by
    have hadd := distinct_of_ok (ok_addOneCallObject h ins env newCall).toLoose
    unfold CallObjectManager.Distinct at hadd ⊢
    rwa [List.map_congr_left fun r _ => hids r]
  have hdelete := CallObjectManager.deleteOneCallObject_filter hdistinct env.store c.callId
  simp only [hids] at hdelete
  rw [← list_addOneCallObject ins env hn, ← hdelete]
  unfold exchangeCall
  dsimp only
  split_ifs <;> rfl

/-- The calls but `call`, which `RefreshCallIfNecessary` may replace. -/
theorem SameOthers.refreshCall (h : w.book.Ok) {newCall : Ref} (hc : w.heap call = some c)
    (hnew : w.createNewCall env info = (some newCall, w')) (hgone : c.callId ∈ gone) :
    SameOthers gone w
      (((w'.exchangeCall ins env newCall c info).modify newCall (takeOver c)).destroy call) := by
  have hok : w'.book.Ok := by
    rw [book_createNewCall_some hnew]
    exact h.alloc rfl rfl
  obtain ⟨href, -, -, -, hheap⟩ := createNewCall_some hnew
  obtain ⟨n, hn, hlist'⟩ : ∃ n, w'.heap newCall = some n ∧
      w'.store.callObjectPtrList = w.store.callObjectPtrList := by
    obtain ⟨rfl, n, -, rfl⟩ := createNewCall_eq_some hnew
    exact ⟨n, alloc_heap_self _ n, rfl⟩
  have hne : newCall ≠ call := href ▸ (Nat.ne_of_lt (h.callsOk.live call _ (book_calls hc)).1).symm
  -- a stored call with another id is where it was
  have hkept : ∀ r ∈ w.store.callObjectPtrList, (w.object r).callId ≠ c.callId →
      (((w'.exchangeCall ins env newCall c info).modify newCall (takeOver c)).destroy call).object r =
        w.object r := by
    intro r hr hid
    obtain ⟨d, hd⟩ := heap_of_mem h.toLoose hr
    have hold : r ≠ newCall := href ▸ Nat.ne_of_lt (h.callsOk.live r d.entry (book_calls hd)).1
    have hother : r ≠ call := by
      rintro rfl
      rw [object_eq hc] at hid
      exact hid rfl
    unfold object
    rw [destroy_heap_of_ne _ hother, modify_heap_of_ne _ _ hold, exchangeCall_heap hold, hheap r hold]
  have hobject : ∀ r ∈ w.store.callObjectPtrList, w'.object r = w.object r := by
    intro r hr
    obtain ⟨d, hd⟩ := heap_of_mem h.toLoose hr
    have hold : r ≠ newCall := href ▸ Nat.ne_of_lt (h.callsOk.live r d.entry (book_calls hd)).1
    unfold object
    rw [hheap r hold]
  -- the new object has the id of the old one
  have htaken : ((((w'.exchangeCall ins env newCall c info).modify newCall (takeOver c)).destroy
      call).object newCall).callId = c.callId := by
    unfold object
    rw [destroy_heap_of_ne _ hne, modify_heap_self, exchangeCall_heap_self, hn, Option.map_some,
      Option.map_some, Option.getD_some]
    exact (takeOver_keeps c _).1
  refine ⟨?_, ?_, fun r hr => ?_⟩
  · obtain ⟨heap, store, cs, hexchange, -⟩ := exchangeCall_rest w' ins env newCall c info
    obtain ⟨-, m, -, rfl⟩ := createNewCall_eq_some hnew
    rw [hexchange]
    rfl
  · have hfilter : ∀ r ∈ w.store.callObjectPtrList,
        (decide ((w'.object r).callId ≠ c.callId) &&
          decide (((((w'.exchangeCall ins env newCall c info).modify newCall (takeOver c)).destroy
            call).object r).callId ∉ gone)) = decide ((w.object r).callId ∉ gone) := by
      intro r hr
      rw [hobject r hr]
      by_cases hid : (w.object r).callId = c.callId
      · simp [hid, hgone]
      · rw [hkept r hr hid]
        simp [hid]
    unfold StatusWorld.others
    show List.filter _ (w'.exchangeCall ins env newCall c info).store.callObjectPtrList = _
    rw [list_exchangeCall hok hn, List.filter_filter, hlist']
    split_ifs
    · exact List.filter_congr fun r hr => by rw [Bool.and_comm, hfilter r hr]
    · rw [List.filter_append, List.filter_cons, htaken]
      simp only [hgone, not_true_eq_false, decide_false, Bool.false_and, Bool.false_eq_true, if_false,
        List.filter_nil, List.append_nil]
      exact List.filter_congr fun r hr => by rw [Bool.and_comm, hfilter r hr]
  · obtain ⟨hmem, hid⟩ := List.mem_filter.mp hr
    have hother : (w.object r).callId ≠ c.callId := by
      rintro heq
      rw [heq] at hid
      simp [hgone] at hid
    rw [hkept r hmem hother]
    exact ⟨rfl, rfl⟩

/-- The calls but `call`, which `RefreshCallIfNecessary` may replace. -/
theorem SameOthers.refreshCallIfNecessary (h : w.book.Ok) (hc : w.heap call = some c)
    (hgone : c.callId ∈ gone) (ins : Insertion) (env : StatusEnv) (info : CallDetailInfo) :
    SameOthers gone w (w.refreshCallIfNecessary ins env call info).2 := by
  have hvideo : SameKeys w (w.modify call fun c => c.refreshVideoState info) :=
    SameKeys.modify fun c => refreshVideoState_key c info
  have hbook := book_refreshVideoState w call info
  have hc₁ : (w.modify call fun c => c.refreshVideoState info).heap call =
      some (c.refreshVideoState info) := by
    rw [modify_heap_self, hc, Option.map_some]
  have hsame₁ : SameOthers gone w (w.modify call fun c => c.refreshVideoState info) :=
    .of_places rfl rfl (hvideo.places (by rw [hbook]))
  have hok₁ : (w.modify call fun c => c.refreshVideoState info).book.Ok := hbook ▸ h
  unfold StatusWorld.refreshCallIfNecessary
  dsimp only
  generalize (w.modify call fun c => c.refreshVideoState info) = w₁ at hc₁ hsame₁ hok₁ ⊢
  split_ifs
  · exact hsame₁
  · rcases hnew : w₁.createNewCall env info with ⟨_ | newCall, w'⟩
    · rw [refreshCall_none hc₁ hnew, (createNewCall_eq_none hnew).2]
      exact hsame₁.trans (.of_places rfl rfl fun _ => ⟨rfl, rfl⟩)
    · rw [refreshCall_some hc₁ hnew]
      exact hsame₁.trans (.refreshCall hok₁ hc₁ hnew (by rwa [c.refreshVideoState_callId]))

/-- A deletion. -/
theorem Leaves.deleteOneCallObject (h : w.book.Loose) (env : StatusEnv) (callId : ℤ) :
    Leaves [callId] w (w.deleteOneCallObject env callId) where
  infos := rfl
  list := by
    have hbook := congrArg ConferenceBook.list (book_deleteOneCallObject h env callId)
    refine Eq.trans hbook (List.filter_congr fun r _ => ?_)
    simp
  places _ := ⟨rfl, rfl⟩

theorem Leaves.trans (h : Leaves gone w w') (h' : Leaves gone' w' w'') :
    Leaves (gone ++ gone') w w'' where
  infos := h'.infos.trans h.infos
  list := by
    rw [h'.list, StatusWorld.others, h.list, StatusWorld.others, StatusWorld.others, List.filter_filter]
    refine List.filter_congr fun r _ => ?_
    rw [show (w'.object r).callId = (w.object r).callId from congrArg CallKey.callId (h.places r).1]
    simp only [List.mem_append, not_or, Bool.decide_and, Bool.and_comm]
  places r := ⟨(h'.places r).1.trans (h.places r).1, (h'.places r).2.trans (h.places r).2⟩

/-- The conference calls of a slot that are left. -/
theorem getConferenceCallList_left (h : SameOthers gone w w') (h' : Leaves gone w' w'') (slotId : ℤ) :
    w''.getConferenceCallList slotId = (w.without gone).getConferenceCallList slotId := by
  have hlist : w''.store.callObjectPtrList = w.others gone := h'.list.trans h.others
  have hinfos : w''.tmpCallDetailsInfo = w.tmpCallDetailsInfo := h'.infos.trans h.infos
  have hfind : ∀ index slotId, w''.getOneCallObjectByIndexAndSlotId index slotId =
      (w.without gone).getOneCallObjectByIndexAndSlotId index slotId := by
    intro index slotId
    unfold getOneCallObjectByIndexAndSlotId
    rw [hlist]
    refine List.find?_congr fun r hr => ?_
    obtain ⟨hkey, htype⟩ := h.places r hr
    obtain ⟨hkey', htype'⟩ := h'.places r
    have hplace : (w''.object r).key = (w.object r).key := hkey'.trans hkey
    rw [show (w''.object r).index = (w.object r).index from congrArg CallKey.index hplace,
      show (w''.object r).slotId = (w.object r).slotId from congrArg CallKey.slotId hplace,
      htype'.trans htype]
    rfl
  unfold getConferenceCallList
  rw [hinfos]
  simp only [hfind]
  rfl

/-! ### The handler -/

theorem run_updateCallState (w : StatusWorld) (call : Ref) (nextState : TelCallState) :
    ((CallStatusManager.updateCallState env call nextState).run (statusAction ins env) w).2 =
      w.updateCallState call nextState := by
  show ((if _ then _ else _ : StatusProgram ErrorCode).run (statusAction ins env)
    (w.updateCallState call nextState)).2 = _
  split_ifs <;> rfl

/-- The state after the deferred dial that follows a hang-up is pending: the
    call is told and taken off the list, if it is on it. -/
def afterHangUp (env : StatusEnv) (w : StatusWorld) : StatusWorld :=
  match w.getOneCallObject w.pendingHangupCallId with
  | some pendingHangupCall =>
    { (w.updateCallState pendingHangupCall .disconnected).deleteOneCallObject env
        w.pendingHangupCallId with
      pendingHangup := false
      pendingHangupCallId := -1 }
  | none => { w with pendingHangup := false, pendingHangupCallId := -1 }

theorem run_handleDialWhenHolding (w : StatusWorld) :
    ((CallStatusManager.handleDialWhenHolding env).run (statusAction ins env) w).2 =
      if w.pendingHangup = true ∧ w.pendingHangupCallId ≠ -1 then w.afterHangUp env else w := by
  unfold CallStatusManager.handleDialWhenHolding
  show ((if w.pendingHangup = true ∧ w.pendingHangupCallId ≠ -1 then _ else _ :
    StatusProgram PUnit).run (statusAction ins env) w).2 = _
  split_ifs
  · unfold afterHangUp
    cases w.getOneCallObject w.pendingHangupCallId with
    | none => rfl
    | some pendingHangupCall =>
      dsimp only
      rw [Program.run_bind, run_updateCallState]
      rfl
  · rfl

/-- The state after the handler of a DISCONNECTED report. -/
theorem run_disconnectCall (w : StatusWorld) (call : Ref) (info : CallDetailInfo) :
    ((CallStatusManager.disconnectCall ins env call info).run (statusAction ins env) w).2 =
      (let (call, w) := w.refreshCallIfNecessary ins env call info
      let w := ((w.clearPendingState call).exitConference env call).2.updateCallState call .disconnected
      let w' :=
        if w.needWaitHold = true ∧ w.getCallNum .active = 0 then
          ((CallStatusManager.handleDialWhenHolding env).run (statusAction ins env)
            { w with needWaitHold := false }).2
        else w
      (w'.deleteOneCallObject env (w.object call).callId).endConferenceOfOne (w.object call).slotId) := by
  unfold CallStatusManager.disconnectCall
  rcases hrefresh : w.refreshCallIfNecessary ins env call info with ⟨call', w₁⟩
  have hrun : (CallStatusManager.refreshCallIfNecessary ins env call info).run
      (statusAction ins env) w = (call', w₁) := hrefresh
  rw [Program.run_bind, hrun, Program.run_bind, Program.run_bind, Program.run_bind,
    run_updateCallState]
  show (Program.run (statusAction ins env) (Program.bind Program.get _)
    (((w₁.clearPendingState call').exitConference env call').2.updateCallState call'
      .disconnected)).2 = _
  dsimp only
  generalize ((w₁.clearPendingState call').exitConference env call').2.updateCallState call'
    .disconnected = w₄
  show ((if w₄.needWaitHold = true ∧ w₄.getCallNum .active = 0 then _ else _ :
    StatusProgram ErrorCode).run (statusAction ins env) w₄).2 = _
  split_ifs
  · rw [Program.run_bind, Program.run_bind]
    rfl
  · rfl

theorem others_nil (w : StatusWorld) : w.others [] = w.store.callObjectPtrList := by
  rw [StatusWorld.others, List.filter_eq_self]
  simp

/-- All calls keep their places, and none goes. -/
theorem Leaves.of_places (hlist : w'.store.callObjectPtrList = w.store.callObjectPtrList)
    (hinfos : w'.tmpCallDetailsInfo = w.tmpCallDetailsInfo)
    (hplaces : ∀ r, (w'.object r).key = (w.object r).key ∧
      (w'.object r).callType = (w.object r).callType) : Leaves [] w w' :=
  ⟨hinfos, hlist.trans w.others_nil.symm, hplaces⟩

theorem Leaves.updateCallState (w : StatusWorld) (call : Ref) (nextState : TelCallState) :
    Leaves [] w (w.updateCallState call nextState) := by
  have hsame := SameKeys.updateCallState w call nextState
  obtain ⟨heap, notifications, hrest⟩ := updateCallState_rest w call nextState
  refine .of_places hsame.list (by rw [hrest]) (hsame.places ?_)
  rw [book_updateCallState]

/-- The deferred dial takes the call with the pending hang-up off the list at most. -/
theorem ok_afterHangUp (h : w.book.Ok) (hfree : w.book.Free w.pendingHangupCallId)
    (env : StatusEnv) :
    (w.afterHangUp env).book.Ok ∧ (w.afterHangUp env).imsConference = w.imsConference ∧
      (w.afterHangUp env).csConference = w.csConference ∧
      ∃ gone, (gone = [] ∨ gone = [w.pendingHangupCallId]) ∧ Leaves gone w (w.afterHangUp env) := by
  unfold afterHangUp
  cases w.getOneCallObject w.pendingHangupCallId with
  | none => exact ⟨h, rfl, rfl, [], .inl rfl, .of_places rfl rfl fun _ => ⟨rfl, rfl⟩⟩
  | some pendingHangupCall =>
    have hbook := book_updateCallState w pendingHangupCall .disconnected
    have hleaves := Leaves.updateCallState w pendingHangupCall .disconnected
    obtain ⟨heap, notifications, hrest⟩ := updateCallState_rest w pendingHangupCall .disconnected
    dsimp only
    rw [hrest] at hbook hleaves ⊢
    have hdelete := hleaves.trans (.deleteOneCallObject (hbook ▸ h.toLoose) env w.pendingHangupCallId)
    exact ⟨ok_deleteOneCallObject (hbook ▸ h) env (hbook ▸ hfree), rfl, rfl,
      [w.pendingHangupCallId], .inr rfl, hdelete.infos, hdelete.list, hdelete.places⟩

/-- The deferred dial, if it is due. -/
theorem ok_deferredDial (h : w.book.Ok) (hok : w.HangUpOk) (ins : Insertion) (env : StatusEnv) :
    let w' :=
      if w.needWaitHold = true ∧ w.getCallNum .active = 0 then
        ((CallStatusManager.handleDialWhenHolding env).run (statusAction ins env)
          { w with needWaitHold := false }).2
      else w
    w'.book.Ok ∧ w'.imsConference = w.imsConference ∧ w'.csConference = w.csConference ∧
      ∃ gone, (gone = [] ∨ w.pendingHangup = true ∧ gone = [w.pendingHangupCallId]) ∧
        Leaves gone w w' := by
  have hsame : w.book.Ok ∧ w.imsConference = w.imsConference ∧ w.csConference = w.csConference ∧
      ∃ gone, (gone = [] ∨ w.pendingHangup = true ∧ gone = [w.pendingHangupCallId]) ∧
        Leaves gone w w :=
    ⟨h, rfl, rfl, [], .inl rfl, .of_places rfl rfl fun _ => ⟨rfl, rfl⟩⟩
  dsimp only
  by_cases hdial : w.needWaitHold = true ∧ w.getCallNum .active = 0
  swap
  · rw [if_neg hdial]
    exact hsame
  rw [if_pos hdial, run_handleDialWhenHolding]
  dsimp only
  by_cases hpending : w.pendingHangup = true ∧ w.pendingHangupCallId ≠ -1
  · rw [if_pos hpending]
    have hfree : w.book.Free w.pendingHangupCallId := hok hdial.1 hpending.1 hpending.2
    have hafter := ok_afterHangUp (w := { w with needWaitHold := false }) h hfree env
    obtain ⟨hok', hims, hcs, gone, hgone, hleaves⟩ := hafter
    exact ⟨hok', hims, hcs, gone, hgone.imp_right fun heq => ⟨hpending.1, heq⟩,
      hleaves.infos, hleaves.list, hleaves.places⟩
  · rw [if_neg hpending]
    obtain ⟨-, -, -, gone, hgone, hleaves⟩ := hsame
    exact ⟨h, rfl, rfl, gone, hgone, hleaves.infos, hleaves.list, hleaves.places⟩

theorem clearPendingState_rest (w : StatusWorld) (call : Ref) :
    ∃ pendingMo pendingMoCallId pendingHangup pendingHangupCallId,
      w.clearPendingState call =
        { w with
          pendingMo := pendingMo
          pendingMoCallId := pendingMoCallId
          pendingHangup := pendingHangup
          pendingHangupCallId := pendingHangupCallId } ∧
      (pendingHangup = true → pendingHangupCallId = w.pendingHangupCallId ∧
        w.pendingHangup = true ∧ w.pendingHangupCallId ≠ (w.object call).callId) := by
  unfold clearPendingState
  dsimp only
  split_ifs with hmo hhangup hhangup
  · exact ⟨_, _, _, _, rfl, fun htrue => nomatch htrue⟩
  · exact ⟨_, _, _, _, rfl, fun htrue => ⟨rfl, htrue, fun heq => hhangup ⟨htrue, heq⟩⟩⟩
  · exact ⟨_, _, _, _, rfl, fun htrue => nomatch htrue⟩
  · exact ⟨_, _, _, _, rfl, fun htrue => ⟨rfl, htrue, fun heq => hhangup ⟨htrue, heq⟩⟩⟩

/-- What the last conference call of the slot is after the others have gone. -/
theorem main_of_lastOk (h : w.book.Ok) {slotId : ℤ} {left : Ref} (hok : w.LastOk callId gone slotId)
    (hlist : (w.without gone).getConferenceCallList slotId = [left]) {junk : ℤ}
    (hmem : (w.object left).callId ∈
      (w.imsConference.leaveFromConference junk callId).2.subCallIdSet) :
    (w.object left).callId = (w.imsConference.leaveFromConference junk callId).2.mainCallId := by
  unfold LastOk at hok
  rw [hlist] at hok
  have hbefore : (w.object left).callId ∈ w.imsConference.subCallIdSet := by
    by_cases hin : callId ∈ w.imsConference.subCallIdSet
    · rw [(Conference.leaveFromConference_of_mem hin junk).1] at hmem
      exact Finset.mem_of_mem_erase hmem
    · rwa [Conference.leaveFromConference_of_notMem hin] at hmem
  exact Conference.leaveFromConference_main h.mainMember (hok hbefore) hmem

/-- A call that is in no conference stays so, unless it is the one that is converted. -/
theorem free_refreshCallIfNecessary (hfree : w.book.Free callId)
    (hne : callId ≠ (w.object call).callId) (ins : Insertion) (env : StatusEnv)
    (info : CallDetailInfo) : (w.refreshCallIfNecessary ins env call info).2.book.Free callId := by
  obtain ⟨heap, nextRef, store, cs, hrest, hcs⟩ :=
    refreshCallIfNecessary_rest w ins env call info
  obtain ⟨hset, hset', hmain, hmain'⟩ := hfree
  rw [hrest]
  rcases hcs with rfl | ⟨-, rfl⟩
  · exact ⟨hset, hset', hmain, hmain'⟩
  · refine ⟨hset, fun hmem => ?_, hmain, fun heq => ?_⟩
    · exact (Finset.mem_insert.mp hmem).elim hne hset'
    · have hmain₁ : (if w.csConference.mainCallId = errId then (w.object call).callId
          else w.csConference.mainCallId) = callId := heq
      split_ifs at hmain₁
      · exact absurd hmain₁.symm hne
      · exact hmain' hmain₁

/-- From `w` to `w'` the call `callId` has come to the reference `call`, of the
    reported type, and no hang-up of it is pending. -/
structure Leaving (w : StatusWorld) (callId slotId : ℤ) (call : Ref) (w' : StatusWorld) : Prop where
  ok : w'.book.Ok
  object : ∃ d, w'.heap call = some d ∧ d.callId = callId ∧ d.slotId = slotId
  ims : w'.imsConference = w.imsConference
  csMain : w'.csConference.mainCallId = callId →
    callId ∈ w'.csConference.subCallIdSet ∨ callId = errId
  hangUp : w'.HangUpOk
  pending : w'.pendingHangup = true → w'.pendingHangupCallId = w.pendingHangupCallId
  others : ∀ gone, callId ∈ gone → SameOthers gone w w'

/-- From `w` to `w'` the call `callId` has left its conference. -/
structure Left (w : StatusWorld) (callId slotId junk : ℤ) (call : Ref) (w' : StatusWorld) : Prop where
  ok : w'.book.Ok
  free : w'.book.Free callId
  ids : (w'.object call).callId = callId ∧ (w'.object call).slotId = slotId
  ims : w'.imsConference = (w.imsConference.leaveFromConference junk callId).2
  hangUp : w'.HangUpOk
  pending : w'.pendingHangup = true → w'.pendingHangupCallId = w.pendingHangupCallId
  others : ∀ gone, callId ∈ gone → SameOthers gone w w'

/-- No hang-up of the call is pending after `ClearPendingState`. -/
theorem hangUpOk_clearPendingState (hhang : w.pendingHangupCallId ≠ callId → w.HangUpOk)
    (hid : (w'.object call).callId = callId)
    (hfields : w'.needWaitHold = w.needWaitHold ∧ w'.pendingHangup = w.pendingHangup ∧
      w'.pendingHangupCallId = w.pendingHangupCallId)
    (hfree : ∀ other, other ≠ callId → w.book.Free other → w'.book.Free other) :
    (w'.clearPendingState call).HangUpOk := by
  have hbook := book_clearPendingState w' call
  obtain ⟨pendingMo, pendingMoCallId, pendingHangup, pendingHangupCallId, hrest, hcleared⟩ :=
    clearPendingState_rest w' call
  intro hwait hpending hset
  rw [hrest] at hwait hpending hset
  dsimp only at hwait hpending hset
  obtain ⟨hcallId, hpending', hne⟩ := hcleared hpending
  rw [hid, hfields.2.2] at hne
  rw [hcallId, hfields.2.2] at hset
  rw [hfields.1] at hwait
  rw [hfields.2.1] at hpending'
  rw [hbook, hrest, hcallId, hfields.2.2]
  exact hfree _ hne (hhang hne hwait hpending' hset)

/-- `RefreshCallIfNecessary` and `ClearPendingState`. -/
theorem leaving_refresh (h : w.book.Ok) (hc : w.heap call = some c)
    (hrefresh : w.RefreshOk ins call info)
    (hcs : w.csConference.mainCallId = c.callId →
      c.callId ∈ w.csConference.subCallIdSet ∨ c.callId = errId)
    (hhang : w.pendingHangupCallId ≠ c.callId → w.HangUpOk) (env : StatusEnv) :
    let (call', w₁) := w.refreshCallIfNecessary ins env call info
    Leaving w c.callId (refreshed env c info).slotId call' (w₁.clearPendingState call') := by
  obtain ⟨hok₁, -⟩ := ok_refreshCallIfNecessary h env hc hrefresh
  obtain ⟨d, hd, hkey, -⟩ :=
    refreshCallIfNecessary_object (h.callsOk.live call _ (book_calls hc)).1 ins hc env info
  have hid : d.callId = c.callId := (congrArg CallKey.callId hkey).trans (refreshed_callId env c info)
  have hslot : d.slotId = (refreshed env c info).slotId := congrArg CallKey.slotId hkey
  have hothers₁ : ∀ gone, c.callId ∈ gone → SameOthers gone w _ :=
    fun _ hgone => .refreshCallIfNecessary h hc hgone ins env info
  have hfree₁ : ∀ callId, callId ≠ c.callId → w.book.Free callId →
      (w.refreshCallIfNecessary ins env call info).2.book.Free callId := by
    intro callId hne hfree
    exact free_refreshCallIfNecessary hfree (by rwa [object_eq hc]) ins env info
  obtain ⟨heap, nextRef, store, cs, hrest₁, hcs₁⟩ := refreshCallIfNecessary_rest w ins env call info
  rw [object_eq hc] at hcs₁
  rcases hcall' : w.refreshCallIfNecessary ins env call info with ⟨call', w₁⟩
  rw [hcall'] at hok₁ hd hothers₁ hfree₁ hrest₁
  dsimp only at hok₁ hd hothers₁ hfree₁ hrest₁ ⊢
  obtain ⟨pendingMo, pendingMoCallId, pendingHangup, pendingHangupCallId, hrest₂, hpending₂⟩ :=
    clearPendingState_rest w₁ call'
  have hbook₂ := book_clearPendingState w₁ call'
  refine ⟨hbook₂ ▸ hok₁, ⟨d, ?_, hid, hslot⟩, ?_, ?_, ?_, ?_, fun gone hgone => ?_⟩
  · rw [hrest₂]
    exact hd
  · rw [hrest₂, hrest₁]
  · rw [hrest₂, hrest₁]
    rcases hcs₁ with rfl | ⟨-, rfl⟩
    · exact hcs
    · exact fun _ => .inl (Finset.mem_insert_self _ _)
  · refine hangUpOk_clearPendingState hhang ((object_eq hd).symm ▸ hid) ?_ hfree₁
    rw [hrest₁]
    exact ⟨rfl, rfl, rfl⟩
  · rw [hrest₂]
    intro hpending
    rw [(hpending₂ hpending).1, hrest₁]
  · exact (hothers₁ gone hgone).trans (.clearPendingState w₁ call')

/-- `ExitConference` and `UpdateCallState`. -/
theorem Leaving.left {slotId : ℤ} (h : Leaving w callId slotId call w')
    (hims : w.imsConference.mainCallId = callId →
      callId ∈ w.imsConference.subCallIdSet ∨ callId = errId) (env : StatusEnv)
    (nextState : TelCallState) :
    Left w callId slotId env.junk call ((w'.exitConference env call).2.updateCallState call nextState) := by
  obtain ⟨d, hd, rfl, rfl⟩ := h.object
  have hfree := free_exitConference h.ok hd (by rwa [h.ims]) h.csMain env
  have hims' := (exitConference_conferences h.ok hd env).1
  have hbook := book_updateCallState (w'.exitConference env call).2 call nextState
  obtain ⟨heap, ims, cs, ott, hrest⟩ := exitConference_rest w' env call
  obtain ⟨heap', notifications, hrest'⟩ :=
    updateCallState_rest (w'.exitConference env call).2 call nextState
  have hkey : (((w'.exitConference env call).2.updateCallState call nextState).object call).key =
      d.key := by
    rw [(SameKeys.updateCallState _ call nextState).object_key call,
      (SameKeys.exitConference w' call).object_key call, object_eq hd]
  refine ⟨?_, ?_, ⟨congrArg CallKey.callId hkey, congrArg CallKey.slotId hkey⟩, ?_, ?_, ?_,
    fun gone hgone => ?_⟩
  · rw [hbook]
    exact ok_exitConference h.ok env call
  · rw [hbook]
    exact hfree
  · rw [hrest', ← h.ims]
    exact hims'
  · intro hwait hpending hset
    rw [hbook]
    rw [hrest', hrest] at hwait hpending hset ⊢
    have hother := free_exitConference_other h.ok hd (h.hangUp hwait hpending hset) env
    rw [hrest] at hother
    exact hother
  · rw [hrest', hrest]
    exact h.pending
  · exact ((h.others gone hgone).trans (.exitConference w' env call)).trans (.updateCallState _ _ _)

/-- The deferred dial, `DeleteOneCallObject` and the end of the conference. -/
theorem Left.ok_end {slotId junk : ℤ} (h : Left w callId slotId junk call w') (hw : w.book.Ok)
    (hlast : ∀ gone ∈ [[callId], [w.pendingHangupCallId, callId]], w.LastOk callId gone slotId)
    (ins : Insertion) (env : StatusEnv) :
    (let w'' :=
      if w'.needWaitHold = true ∧ w'.getCallNum .active = 0 then
        ((CallStatusManager.handleDialWhenHolding env).run (statusAction ins env)
          { w' with needWaitHold := false }).2
      else w'
    (w''.deleteOneCallObject env callId).endConferenceOfOne slotId).book.Ok := by
  have hdial := ok_deferredDial h.ok h.hangUp ins env
  dsimp only at hdial ⊢
  generalize (if w'.needWaitHold = true ∧ w'.getCallNum .active = 0 then
    ((CallStatusManager.handleDialWhenHolding env).run (statusAction ins env)
      { w' with needWaitHold := false }).2 else w') = w₁ at hdial ⊢
  obtain ⟨hok₁, hims₁, hcs₁, gone, hgone, hleaves₁⟩ := hdial
  have hfree₁ : w₁.book.Free callId := by
    obtain ⟨hset, hset', hmain, hmain'⟩ := h.free
    refine ⟨?_, ?_, ?_, ?_⟩
    · rwa [show w₁.book.ims = w'.book.ims from hims₁]
    · rwa [show w₁.book.cs = w'.book.cs from hcs₁]
    · rwa [show w₁.book.ims = w'.book.ims from hims₁]
    · rwa [show w₁.book.cs = w'.book.cs from hcs₁]
  have hleaves := hleaves₁.trans (.deleteOneCallObject hok₁.toLoose env callId)
  have hothers := h.others (gone ++ [callId]) (List.mem_append_right _ (List.mem_singleton_self _))
  have hlastOk : w.LastOk callId (gone ++ [callId]) slotId := by
    refine hlast _ ?_
    rcases hgone with rfl | ⟨hpending, rfl⟩
    · exact List.mem_cons_self
    · rw [h.pending hpending]
      exact List.mem_cons_of_mem _ List.mem_cons_self
  refine ok_endConferenceOfOne (ok_deleteOneCallObject hok₁ env hfree₁) fun left hlist hmem => ?_
  rw [getConferenceCallList_left hothers hleaves] at hlist
  have hleft : left ∈ (w.without (gone ++ [callId])).getConferenceCallList slotId :=
    hlist ▸ List.mem_singleton_self left
  have hstored := mem_of_getConferenceCallList hleft
  have hid : ((w₁.deleteOneCallObject env callId).object left).callId = (w.object left).callId :=
    congrArg CallKey.callId ((hleaves.places left).1.trans (hothers.places left hstored).1)
  have hims : (w₁.deleteOneCallObject env callId).imsConference =
      (w.imsConference.leaveFromConference junk callId).2 := hims₁.trans h.ims
  rw [hid, hims] at hmem ⊢
  exact main_of_lastOk hw hlastOk hlist hmem

/-- The handler of a DISCONNECTED report, from the call on. -/
theorem ok_disconnectCall (h : w.book.Ok) (hc : w.heap call = some c)
    (hrefresh : w.RefreshOk ins call info) (hok : w.LeaveOk env call info) :
    ((CallStatusManager.disconnectCall ins env call info).run (statusAction ins env) w).2.book.Ok := by
  obtain ⟨hims, hcs, hhang, hlast⟩ := hok
  rw [object_eq hc] at hims hcs hhang hlast
  have hleaving := leaving_refresh h hc hrefresh hcs hhang env
  rw [run_disconnectCall]
  rcases hcall' : w.refreshCallIfNecessary ins env call info with ⟨call', w₁⟩
  rw [hcall'] at hleaving
  have hleft := Leaving.left hleaving hims env .disconnected
  dsimp only
  rw [hleft.ids.1, hleft.ids.2]
  exact hleft.ok_end h hlast ins env

end StatusWorld

end CallManager
