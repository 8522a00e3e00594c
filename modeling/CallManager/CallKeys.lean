import CallManager.NotificationChain

/-!
# The slot and the index of a stored call

The modem knows a call by its slot and its index. This file says which calls
the list holds, each with its id, its slot and its index, and what the actions
of the handlers do to that.

Specification: an action leaves the keys on the list alone, or it puts a new
call on the list, or it takes one off or gives one another slot or index
(`rekeys`). `RefreshCall` is of the last kind, although it puts another object
on the list: the new one gets the id of the old one.

Results:
* `statusAction_keys`: what an action does to the keys of the stored calls, and
  that the list goes on to name objects that there are, each once.
* `Sound.reached`: so it does in every state of a run.
-/

namespace CallManager

/-- What the modem and the service know a call by. -/
structure CallKey where
  callId : ℤ
  slotId : ℤ
  index : ℤ
  deriving DecidableEq, Repr

/-- The id, the slot and the index of a call object. -/
def CallBase.key (c : CallBase) : CallKey := ⟨c.callId, c.slotId, c.index⟩

namespace StatusWorld

/-- The keys of the objects. -/
def keys (w : StatusWorld) (r : Ref) : Option CallKey := (w.heap r).map CallBase.key

/-- A call with this key is on the list. -/
def Lists (w : StatusWorld) (k : CallKey) : Prop :=
  ∃ r ∈ w.store.callObjectPtrList, w.keys r = some k

instance (w : StatusWorld) (k : CallKey) : Decidable (w.Lists k) :=
  inferInstanceAs (Decidable (∃ r ∈ w.store.callObjectPtrList, _))

/-- The objects have ids of their own, and the list names objects that there are, each once. -/
structure Sound (w : StatusWorld) : Prop extends Numbered w where
  nodup : w.store.callObjectPtrList.Nodup
  listed : ∀ r ∈ w.store.callObjectPtrList, (w.keys r).isSome

/-- The list and the keys of the objects are the same. -/
structure SameKeys (w w' : StatusWorld) : Prop where
  list : w'.store.callObjectPtrList = w.store.callObjectPtrList
  keys : w'.keys = w.keys

/-- The call `callId` gets the key `k`, or goes from the list, and the others stay as they are. -/
structure Rekeys (w w' : StatusWorld) (callId : ℤ) (k : Option CallKey) : Prop where
  self : ∀ k', k'.callId = callId → (w'.Lists k' ↔ k = some k')
  others : ∀ k', k'.callId ≠ callId → (w'.Lists k' ↔ w.Lists k')

variable {w w' w'' : StatusWorld} {ins : Insertion} {env : StatusEnv} {call : Ref} {c : CallBase}
  {info : CallDetailInfo} {k : CallKey}

theorem keys_eq_some {r : Ref} : w.keys r = some k ↔ ∃ c, w.heap r = some c ∧ c.key = k :=
  Option.map_eq_some_iff

theorem keys_of_heap (hc : w.heap call = some c) : w.keys call = some c.key := by
  rw [keys, hc, Option.map_some]

theorem Numbered.keys_inj (h : w.Numbered) {r r' : Ref} {k k' : CallKey} (hr : w.keys r = some k)
    (hr' : w.keys r' = some k') (hid : k.callId = k'.callId) : r = r' := by
  obtain ⟨c, hc, rfl⟩ := keys_eq_some.mp hr
  obtain ⟨c', hc', rfl⟩ := keys_eq_some.mp hr'
  exact h.inj r r' c c' hc hc' hid

/-- A listed call that an object belongs to is that object's. -/
theorem Numbered.lists_heap (h : w.Numbered) (hk : w.Lists k) (hc : w.heap call = some c)
    (hid : k.callId = c.callId) : call ∈ w.store.callObjectPtrList ∧ c.key = k := by
  obtain ⟨r, hmem, hr⟩ := hk
  obtain rfl := h.keys_inj hr (keys_of_heap hc) hid
  exact ⟨hmem, Option.some.inj ((keys_of_heap hc).symm.trans hr)⟩

/-! ## Actions that leave the keys alone -/

theorem SameKeys.of_heap (hlist : w'.store.callObjectPtrList = w.store.callObjectPtrList)
    (hheap : w'.heap = w.heap) : SameKeys w w' where
  list := hlist
  keys := by
    funext r
    rw [StatusWorld.keys, hheap, StatusWorld.keys]

theorem SameKeys.refl : SameKeys w w := ⟨rfl, rfl⟩

theorem SameKeys.trans (h : SameKeys w w') (h' : SameKeys w' w'') : SameKeys w w'' :=
  ⟨h'.list.trans h.list, h'.keys.trans h.keys⟩

theorem SameKeys.lists (h : SameKeys w w') (k : CallKey) : w'.Lists k ↔ w.Lists k := by
  unfold Lists
  rw [h.list, h.keys]

/-- The key of the object of a reference. -/
theorem object_key (w : StatusWorld) (r : Ref) :
    (w.object r).key = (w.keys r).getD (default : CallBase).key := by
  unfold object keys
  cases w.heap r with
  | none => rfl
  | some c => rfl

theorem SameKeys.object_key (h : SameKeys w w') (r : Ref) : (w'.object r).key = (w.object r).key := by
  rw [StatusWorld.object_key, StatusWorld.object_key, h.keys]

theorem SameKeys.sound (h : SameKeys w w') (hw : w.Sound) (hnumbered : w'.Numbered) : w'.Sound where
  toNumbered := hnumbered
  nodup := h.list ▸ hw.nodup
  listed r hr := by
    rw [h.keys]
    exact hw.listed r (h.list ▸ hr)

theorem keys_modify_self (hc : w.heap call = some c) (f : CallBase → CallBase) :
    (w.modify call f).keys call = some (f c).key := by
  rw [keys, modify_heap_self, hc, Option.map_some, Option.map_some]

theorem keys_modify_of_ne (w : StatusWorld) {r : Ref} (f : CallBase → CallBase) (h : r ≠ call) :
    (w.modify call f).keys r = w.keys r := by
  rw [keys, modify_heap_of_ne w f h, keys]

theorem SameKeys.modify {f : CallBase → CallBase} (hf : ∀ c, (f c).key = c.key) :
    SameKeys w (w.modify call f) where
  list := rfl
  keys := by
    funext r
    by_cases hr : r = call
    · subst hr
      cases hc : w.heap r with
      | none => rw [StatusWorld.keys, modify_heap_self, StatusWorld.keys, hc, Option.map_none]
      | some c => rw [keys_modify_self hc, hf c, keys_of_heap hc]
    · exact keys_modify_of_ne w f hr

theorem setTelCallState_key (c : CallBase) (s : TelCallState) :
    (c.setTelCallState s).2.key = c.key := by
  unfold CallBase.setTelCallState
  split_ifs
  · rfl
  · cases s <;> rfl

theorem refreshVideoState_key (c : CallBase) (info : CallDetailInfo) :
    (c.refreshVideoState info).key = c.key := by
  obtain ⟨videoState, h⟩ := c.refreshVideoState_eq info
  rw [h]
  rfl

theorem SameKeys.setTelCallState (w : StatusWorld) (call : Ref) (s : TelCallState) :
    SameKeys w (w.setTelCallState call s) :=
  SameKeys.modify fun c => setTelCallState_key c s

theorem SameKeys.updateCallState (w : StatusWorld) (call : Ref) (s : TelCallState) :
    SameKeys w (w.updateCallState call s) := by
  have hlist : ∀ (list : List Ref) (callId : ℤ) (w : StatusWorld),
      SameKeys w (list.foldl (fun w it =>
        if (w.object it).callId = callId then w.setTelCallState it s else w) w) := by
    intro list callId
    induction list with
    | nil => exact fun w => SameKeys.refl
    | cons it list ih =>
      intro w
      rw [List.foldl_cons]
      refine SameKeys.trans ?_ (ih _)
      split_ifs
      · exact SameKeys.setTelCallState w it s
      · exact SameKeys.refl
  unfold StatusWorld.updateCallState
  split
  · exact SameKeys.refl
  · have hfirst := SameKeys.setTelCallState w call s
    exact (hfirst.trans (hlist _ _ _)).trans (SameKeys.of_heap rfl rfl)

theorem SameKeys.setTelConferenceState (w : StatusWorld) (call : Ref)
    (state : TelConferenceState) : SameKeys w (w.setTelConferenceState call state) :=
  SameKeys.modify fun _ => rfl

theorem SameKeys.clearPendingState (w : StatusWorld) (call : Ref) :
    SameKeys w (w.clearPendingState call) := by
  refine SameKeys.of_heap ?_ (clearPendingState_heap w call)
  unfold StatusWorld.clearPendingState
  dsimp only
  split_ifs <;> rfl

/-- The end of the three conference functions of a call. -/
theorem SameKeys.conference (h : SameKeys w w') (ret : ErrorCode) (call : Ref)
    (state : TelConferenceState) :
    SameKeys w (if ret = .telephonySuccess then w'.setTelConferenceState call state else w') := by
  split_ifs
  · exact h.trans (SameKeys.setTelConferenceState w' call state)
  · exact h

theorem SameKeys.launchConference (w : StatusWorld) (call : Ref) :
    SameKeys w (w.launchConference call).2 := by
  unfold StatusWorld.launchConference
  dsimp only
  cases (w.object call).objectType with
  | cs | ims | ott =>
    dsimp only
    refine SameKeys.conference ?_ _ call .active
    exact SameKeys.of_heap rfl rfl
  | satellite | voip | bluetooth | errCall => exact SameKeys.refl

theorem SameKeys.exitConference (w : StatusWorld) (call : Ref) :
    SameKeys w (w.exitConference env call).2 := by
  unfold StatusWorld.exitConference
  dsimp only
  cases (w.object call).objectType with
  | cs | ims | ott =>
    dsimp only
    refine SameKeys.conference ?_ _ call .idle
    exact SameKeys.of_heap rfl rfl
  | satellite | voip | bluetooth | errCall => exact SameKeys.refl

theorem SameKeys.holdConference (w : StatusWorld) (call : Ref) :
    SameKeys w (w.holdConference call).2 := by
  unfold StatusWorld.holdConference
  dsimp only
  cases (w.object call).objectType with
  | cs | ims | ott =>
    dsimp only
    refine SameKeys.conference ?_ _ call .holding
    exact SameKeys.of_heap rfl rfl
  | satellite | voip | bluetooth | errCall => exact SameKeys.refl

theorem SameKeys.setConferenceCall (w : StatusWorld) (slotId : ℤ) :
    SameKeys w (w.setConferenceCall slotId) := by
  unfold StatusWorld.setConferenceCall
  generalize w.getConferenceCallList slotId = list
  induction list generalizing w with
  | nil => exact SameKeys.refl
  | cons conferenceCall list ih =>
    rw [List.foldl_cons]
    have hidle := SameKeys.setTelConferenceState w conferenceCall .idle
    have hjoined := hidle.trans (SameKeys.launchConference _ conferenceCall)
    exact (hjoined.trans (SameKeys.updateCallState _ conferenceCall _)).trans (ih _)

theorem SameKeys.endConferenceOfOne (w : StatusWorld) (slotId : ℤ) :
    SameKeys w (w.endConferenceOfOne slotId) := by
  unfold StatusWorld.endConferenceOfOne
  split
  · dsimp only
    split_ifs
    · exact (SameKeys.setTelConferenceState w _ .idle).trans (SameKeys.updateCallState _ _ _)
    · exact SameKeys.refl
  · exact SameKeys.refl

/-! ## The list -/

/-- The stored calls have distinct ids. -/
theorem Sound.distinct (h : w.Sound) : CallObjectManager.Distinct w.object w.store := by
  refine List.Nodup.map_on (fun r hr r' hr' heq => ?_) h.nodup
  obtain ⟨k, hk⟩ := Option.isSome_iff_exists.mp (h.listed r hr)
  obtain ⟨k', hk'⟩ := Option.isSome_iff_exists.mp (h.listed r' hr')
  obtain ⟨c, hc, rfl⟩ := keys_eq_some.mp hk
  obtain ⟨c', hc', rfl⟩ := keys_eq_some.mp hk'
  rw [object_eq hc, object_eq hc'] at heq
  exact h.inj r r' c c' hc hc' heq

/-- An id is stored iff some key with it is listed. -/
theorem Sound.stored_iff (h : w.Sound) (callId : ℤ) :
    CallObjectManager.Stored w.object w.store callId ↔ ∃ k, w.Lists k ∧ k.callId = callId := by
  constructor
  · rintro ⟨r, hr, hid⟩
    obtain ⟨k, hk⟩ := Option.isSome_iff_exists.mp (h.listed r hr)
    obtain ⟨c, hc, rfl⟩ := keys_eq_some.mp hk
    rw [object_eq hc] at hid
    exact ⟨c.key, ⟨r, hr, hk⟩, hid⟩
  · rintro ⟨k, ⟨r, hr, hk⟩, hid⟩
    obtain ⟨c, hc, rfl⟩ := keys_eq_some.mp hk
    refine ⟨r, hr, ?_⟩
    rw [object_eq hc]
    exact hid

theorem getOneCallObjectByKey_mem {index : ℤ} (h : w.getOneCallObjectByKey index info = some call) :
    call ∈ w.store.callObjectPtrList :=
  List.mem_of_find?_eq_some h

/-- What is found by its key has it. -/
theorem getOneCallObjectByKey_matchesKey {index : ℤ}
    (h : w.getOneCallObjectByKey index info = some call) :
    CallObjectManager.MatchesKey index info.accountId info.callType info.phoneIndex
      (w.object call) := by
  simpa using List.find?_some h

theorem getOneCallObjectByKey_index {index : ℤ}
    (h : w.getOneCallObjectByKey index info = some call) : (w.object call).index = index := by
  have hkey := getOneCallObjectByKey_matchesKey h
  unfold CallObjectManager.MatchesKey at hkey
  split_ifs at hkey
  · exact hkey.2.1
  · exact hkey.2.1

theorem lists_congr (hlist : w'.store.callObjectPtrList = w.store.callObjectPtrList)
    (hkeys : ∀ r ∈ w.store.callObjectPtrList, w'.keys r = w.keys r) (k : CallKey) :
    w'.Lists k ↔ w.Lists k := by
  unfold Lists
  rw [hlist]
  exact exists_congr fun r => and_congr_right fun hr => by rw [hkeys r hr]

/-- Nothing happens to the keys of the calls on a part of the list. -/
theorem Sound.of_list (h : w.Sound) (hnumbered : w'.Numbered)
    (hlist : w'.store.callObjectPtrList.Sublist w.store.callObjectPtrList)
    (hkeys : ∀ r ∈ w'.store.callObjectPtrList, w'.keys r = w.keys r) : w'.Sound where
  toNumbered := hnumbered
  nodup := h.nodup.sublist hlist
  listed r hr := by
    rw [hkeys r hr]
    exact h.listed r (hlist.subset hr)

/-- `CreateNewCall` stores nothing. -/
theorem createNewCall_keys (h : w.Sound) (env : StatusEnv) (info : CallDetailInfo) :
    (w.createNewCall env info).2.store.callObjectPtrList = w.store.callObjectPtrList ∧
      ∀ r ∈ w.store.callObjectPtrList, (w.createNewCall env info).2.keys r = w.keys r := by
  rcases hnew : w.createNewCall env info with ⟨_ | newCall, w'⟩
  · obtain ⟨-, rfl⟩ := createNewCall_eq_none hnew
    exact ⟨rfl, fun _ _ => rfl⟩
  · obtain ⟨href, -, -, -, hheap⟩ := createNewCall_some hnew
    have hlist : w'.store.callObjectPtrList = w.store.callObjectPtrList := by
      obtain ⟨-, n, -, rfl⟩ := createNewCall_eq_some hnew
      rfl
    refine ⟨hlist, fun r hr => ?_⟩
    obtain ⟨k, hk⟩ := Option.isSome_iff_exists.mp (h.listed r hr)
    obtain ⟨c, hc, -⟩ := keys_eq_some.mp hk
    rw [keys, hheap r (href ▸ Nat.ne_of_lt (h.live r c hc).1), keys]

theorem lists_createNewCall (h : w.Sound) (k : CallKey) :
    (w.createNewCall env info).2.Lists k ↔ w.Lists k :=
  lists_congr (createNewCall_keys h env info).1 (createNewCall_keys h env info).2 k

theorem Sound.createNewCall (h : w.Sound) (env : StatusEnv) (info : CallDetailInfo) :
    (w.createNewCall env info).2.Sound := by
  obtain ⟨hlist, hkeys⟩ := createNewCall_keys h env info
  refine h.of_list (h.toNumbered.createNewCall env info) (hlist ▸ List.Sublist.refl _) ?_
  intro r hr
  exact hkeys r (hlist ▸ hr)

theorem Sound.addOneCallObject (h : w.Sound) (ins : Insertion) (env : StatusEnv) (call : Ref) :
    (w.addOneCallObject ins env call).Sound := by
  have hnumbered := h.toNumbered.writes (Quiet.addOneCallObject ins env call)
  cases hc : w.heap call with
  | none =>
    have hstore : (w.addOneCallObject ins env call).store = w.store := by
      rw [StatusWorld.addOneCallObject, hc]
      rfl
    refine h.of_list hnumbered ?_ fun r hr => rfl
    rw [hstore]
  | some c =>
    have hlist := list_addOneCallObject ins env hc
    split_ifs at hlist with hstored
    · exact (SameKeys.of_heap hlist rfl).sound h hnumbered
    · have hnot : call ∉ w.store.callObjectPtrList := fun hmem =>
        hstored (.inr ⟨call, hmem, by rw [object_eq hc]⟩)
      refine ⟨hnumbered, ?_, fun r hr => ?_⟩
      · rw [hlist, List.nodup_append]
        refine ⟨h.nodup, List.nodup_singleton call, fun r hr r' hr' => ?_⟩
        rw [List.mem_singleton.mp hr']
        rintro rfl
        exact hnot hr
      · rw [hlist] at hr
        rcases List.mem_append.mp hr with hr | hr
        · exact h.listed r hr
        · rw [List.mem_singleton.mp hr]
          exact Option.isSome_of_eq_some (keys_of_heap hc)

/-- `AddOneCallObject` puts a call on the list whose id is not stored, if it puts any. -/
theorem lists_addOneCallObject (hc : w.heap call = some c) (k : CallKey) :
    (w.addOneCallObject ins env call).Lists k ↔
      w.Lists k ∨ k = c.key ∧ ins = .restored ∧
        ¬ CallObjectManager.Stored w.object w.store c.callId := by
  have hlist := list_addOneCallObject ins env hc
  have hkeys : ∀ r, (w.addOneCallObject ins env call).keys r = w.keys r := fun _ => rfl
  have hins : ins = .restored ↔ ins ≠ .asWritten := by cases ins <;> decide
  simp only [Lists, hlist, hkeys]
  split_ifs with hstored
  · refine ⟨.inl, fun hk => hk.resolve_right fun ⟨_, hrestored, hnot⟩ => ?_⟩
    exact hstored.elim (hins.mp hrestored) hnot
  · rw [not_or] at hstored
    constructor
    · rintro ⟨r, hr, hk⟩
      rcases List.mem_append.mp hr with hr | hr
      · exact .inl ⟨r, hr, hk⟩
      · rw [List.mem_singleton.mp hr, keys_of_heap hc] at hk
        exact .inr ⟨(Option.some.inj hk).symm, hins.mpr hstored.1, hstored.2⟩
    · rintro (⟨r, hr, hk⟩ | ⟨rfl, -⟩)
      · exact ⟨r, List.mem_append_left _ hr, hk⟩
      · exact ⟨call, List.mem_append_right _ (List.mem_singleton_self call), keys_of_heap hc⟩

theorem list_deleteOneCallObject (h : w.Sound) (env : StatusEnv) (callId : ℤ) :
    (w.deleteOneCallObject env callId).store.callObjectPtrList =
      w.store.callObjectPtrList.filter fun it => (w.object it).callId ≠ callId :=
  CallObjectManager.deleteOneCallObject_filter h.distinct env.store callId

theorem Sound.deleteOneCallObject (h : w.Sound) (env : StatusEnv) (callId : ℤ) :
    (w.deleteOneCallObject env callId).Sound := by
  refine h.of_list (h.toNumbered.writes (Quiet.deleteOneCallObject env callId)) ?_ fun r hr => rfl
  rw [list_deleteOneCallObject h]
  exact List.filter_sublist

theorem lists_deleteOneCallObject (h : w.Sound) (callId : ℤ) (k : CallKey) :
    (w.deleteOneCallObject env callId).Lists k ↔ w.Lists k ∧ k.callId ≠ callId := by
  have hkeys : ∀ r, (w.deleteOneCallObject env callId).keys r = w.keys r := fun _ => rfl
  simp only [Lists, list_deleteOneCallObject h, hkeys, List.mem_filter, decide_eq_true_eq]
  constructor
  · rintro ⟨r, ⟨hr, hid⟩, hk⟩
    obtain ⟨c, hc, rfl⟩ := keys_eq_some.mp hk
    rw [object_eq hc] at hid
    exact ⟨⟨r, hr, hk⟩, hid⟩
  · rintro ⟨⟨r, hr, hk⟩, hid⟩
    obtain ⟨c, hc, rfl⟩ := keys_eq_some.mp hk
    refine ⟨r, ⟨hr, ?_⟩, hk⟩
    rw [object_eq hc]
    exact hid

/-- A deletion takes its id from the list. -/
theorem Rekeys.deleteOneCallObject (h : w.Sound) (env : StatusEnv) (callId : ℤ) :
    Rekeys w (w.deleteOneCallObject env callId) callId none where
  self k hid := by simp [lists_deleteOneCallObject h, hid]
  others k hid := by simp [lists_deleteOneCallObject h, hid]

/-! ## `RefreshCall` -/

/-- The object has another type than the report, and that type has a class. -/
def Converts (c : CallBase) (info : CallDetailInfo) : Prop :=
  c.callType ≠ info.callType ∧ info.callType ≠ .errCall

instance (c : CallBase) (info : CallDetailInfo) : Decidable (Converts c info) :=
  inferInstanceAs (Decidable (_ ∧ _))

/-- The key of the object that `RefreshCall` puts in the place of `c`, if that is stored. -/
def convertedKey (ins : Insertion) (env : StatusEnv) (c : CallBase) (info : CallDetailInfo) :
    Option CallKey :=
  if ins = .restored then (CallBase.newCall env info c.callId).map CallBase.key else none

theorem takeOver_key (c n : CallBase) : (takeOver c n).key = ⟨c.callId, n.slotId, n.index⟩ :=
  setTelCallState_key _ _

theorem newCall_key {n : CallBase} {callId : ℤ} (hn : CallBase.newCall env info callId = some n)
    (callId' : ℤ) :
    (CallBase.newCall env info callId').map CallBase.key = some ⟨callId', n.slotId, n.index⟩ := by
  unfold CallBase.newCall at hn ⊢
  by_cases herr : info.callType = .errCall
  · rw [if_pos herr] at hn
    cases hn
  · rw [if_neg herr] at hn ⊢
    rw [← Option.some.inj hn]
    rfl

/-- The keys after the end of `RefreshCall`. -/
theorem takeOver_keys {newCall r : Ref} {n : CallBase} (hn : w.heap newCall = some n) (c : CallBase) :
    ((w.modify newCall (takeOver c)).destroy call).keys r =
      if r = call then none else if r = newCall then some ⟨c.callId, n.slotId, n.index⟩
      else w.keys r := by
  by_cases hr : r = call
  · rw [if_pos hr, hr, keys, destroy_heap_self, Option.map_none]
  rw [if_neg hr, keys, destroy_heap_of_ne _ hr]
  by_cases hnew : r = newCall
  · rw [if_pos hnew, hnew, modify_heap_self, hn, Option.map_some, Option.map_some, takeOver_key]
  · rw [if_neg hnew, modify_heap_of_ne _ _ hnew, keys]

/-- The new object takes over the id of a call that is not listed any more. -/
theorem lists_takeOver (h : w.Sound) {newCall : Ref} {n : CallBase} (hn : w.heap newCall = some n)
    (hgone : call ∉ w.store.callObjectPtrList) (k : CallKey) :
    ((w.modify newCall (takeOver c)).destroy call).Lists k ↔
      newCall ∈ w.store.callObjectPtrList ∧ k = ⟨c.callId, n.slotId, n.index⟩ ∨
        k.callId ≠ n.callId ∧ w.Lists k := by
  constructor
  · rintro ⟨r, hr, hk⟩
    have hr' : r ∈ w.store.callObjectPtrList := hr
    have hcall : r ≠ call := fun heq => hgone (heq ▸ hr')
    rw [takeOver_keys hn, if_neg hcall] at hk
    by_cases hnew : r = newCall
    · rw [if_pos hnew] at hk
      exact .inl ⟨hnew ▸ hr', (Option.some.inj hk).symm⟩
    · rw [if_neg hnew] at hk
      refine .inr ⟨fun hid => hnew ?_, r, hr', hk⟩
      exact h.keys_inj hk (keys_of_heap hn) hid
  · rintro (⟨hmem, rfl⟩ | ⟨hid, r, hr, hk⟩)
    · refine ⟨newCall, hmem, ?_⟩
      have hcall : newCall ≠ call := fun heq => hgone (heq ▸ hmem)
      rw [takeOver_keys hn, if_neg hcall, if_pos rfl]
    · refine ⟨r, hr, ?_⟩
      have hcall : r ≠ call := fun heq => hgone (heq ▸ hr)
      have hnew : r ≠ newCall := by
        rintro rfl
        rw [keys_of_heap hn] at hk
        exact hid (congrArg CallKey.callId (Option.some.inj hk)).symm
      rw [takeOver_keys hn, if_neg hcall, if_neg hnew]
      exact hk

theorem Sound.takeOver (h : w.Sound) {newCall : Ref} {n : CallBase} (hn : w.heap newCall = some n)
    (hc : w.heap call = some c) (hgone : call ∉ w.store.callObjectPtrList) :
    ((w.modify newCall (takeOver c)).destroy call).Sound where
  toNumbered := h.toNumbered.replace hc (h.live newCall n hn).1 (takeOver_keeps c)
  nodup := h.nodup
  listed r hr := by
    have hr' : r ∈ w.store.callObjectPtrList := hr
    have hcall : r ≠ call := fun heq => hgone (heq ▸ hr')
    rw [takeOver_keys hn, if_neg hcall]
    split_ifs
    · rfl
    · exact h.listed r hr'

/-- Where the new object stands before it takes over the id: it is listed, if
    `AddOneCallObject` lists calls, and the old one is not. -/
theorem exchangeCall_lists (h : w.Sound) {newCall : Ref} {n : CallBase}
    (hn : w.heap newCall = some n) (hc : w.heap call = some c) (hid : n.callId ≠ c.callId)
    (hfresh : ∀ k, w.Lists k → k.callId ≠ n.callId) :
    (w.exchangeCall ins env newCall c info).Sound ∧
      (newCall ∈ (w.exchangeCall ins env newCall c info).store.callObjectPtrList ↔
        ins = .restored) ∧
      call ∉ (w.exchangeCall ins env newCall c info).store.callObjectPtrList ∧
      ∀ k, k.callId ≠ n.callId →
        ((w.exchangeCall ins env newCall c info).Lists k ↔ w.Lists k ∧ k.callId ≠ c.callId) := by
  have hnot : ¬ CallObjectManager.Stored w.object w.store n.callId := fun hstored => by
    obtain ⟨k, hk, hkid⟩ := (h.stored_iff n.callId).mp hstored
    exact hfresh k hk hkid
  -- the new object is stored and takes over the states
  have hsound₁ := h.addOneCallObject ins env newCall
  have hlists₁ : ∀ k, (w.addOneCallObject ins env newCall).Lists k ↔ _ := lists_addOneCallObject hn
  have hheap₁ : (w.addOneCallObject ins env newCall).heap = w.heap := rfl
  have hsame₂ : SameKeys (w.addOneCallObject ins env newCall)
      ((w.addOneCallObject ins env newCall).modify newCall fun n =>
        { n with callRunningState := c.callRunningState, conferenceState := c.conferenceState }) :=
    SameKeys.modify fun _ => rfl
  have hquiet₂ : Quiet (w.addOneCallObject ins env newCall)
      ((w.addOneCallObject ins env newCall).modify newCall fun n =>
        { n with callRunningState := c.callRunningState, conferenceState := c.conferenceState }) :=
    Quiet.modify fun _ => ⟨rfl, rfl⟩
  have hnumbered₂ := hsound₁.toNumbered.writes hquiet₂
  have hsound₂ := hsame₂.sound hsound₁ hnumbered₂
  -- the old one goes, and the CS conference does not matter
  have hsame₃ : SameKeys (((w.addOneCallObject ins env newCall).modify newCall fun n =>
        { n with callRunningState := c.callRunningState, conferenceState := c.conferenceState }
      ).deleteOneCallObject env c.callId) (w.exchangeCall ins env newCall c info) := by
    unfold StatusWorld.exchangeCall
    dsimp only
    split_ifs
    · exact SameKeys.of_heap rfl rfl
    · exact SameKeys.refl
  have hsound₃ := hsame₃.sound (hsound₂.deleteOneCallObject env c.callId)
    (h.toNumbered.writes (Quiet.exchangeCall newCall c info))
  have hlists₃ : ∀ k, (w.exchangeCall ins env newCall c info).Lists k ↔
      (w.Lists k ∨ k = n.key ∧ ins = .restored) ∧ k.callId ≠ c.callId := fun k => by
    rw [hsame₃.lists, lists_deleteOneCallObject hsound₂, hsame₂.lists, hlists₁]
    simp only [hnot, not_false_eq_true, and_true]
  have hnew₃ : (w.exchangeCall ins env newCall c info).keys newCall = some n.key := by
    rw [hsame₃.keys]
    show ((w.addOneCallObject ins env newCall).modify newCall _).keys newCall = some n.key
    rw [hsame₂.keys]
    exact keys_of_heap hn
  have hold₃ : (w.exchangeCall ins env newCall c info).keys call = some c.key := by
    rw [hsame₃.keys]
    show ((w.addOneCallObject ins env newCall).modify newCall _).keys call = some c.key
    rw [hsame₂.keys]
    exact keys_of_heap hc
  refine ⟨hsound₃, ⟨fun hmem => ?_, fun hins => ?_⟩, fun hmem => ?_, fun k hk => ?_⟩
  · obtain ⟨hlisted, -⟩ := (hlists₃ n.key).mp ⟨newCall, hmem, hnew₃⟩
    rcases hlisted with hlisted | ⟨-, hins⟩
    · exact absurd rfl (hfresh n.key hlisted)
    · exact hins
  · obtain ⟨r, hr, hk⟩ := (hlists₃ n.key).mpr ⟨.inr ⟨rfl, hins⟩, hid⟩
    rwa [hsound₃.keys_inj hk hnew₃ rfl] at hr
  · exact ((hlists₃ c.key).mp ⟨call, hmem, hold₃⟩).2 rfl
  · rw [hlists₃, or_iff_left]
    rintro ⟨rfl, -⟩
    exact hk rfl

/-- An id that is listed has been given out. -/
theorem Sound.lists_le (h : w.Sound) (hk : w.Lists k) : k.callId ≤ w.store.callId := by
  obtain ⟨r, -, hr⟩ := hk
  obtain ⟨c, hc, rfl⟩ := keys_eq_some.mp hr
  exact (h.live r c hc).2

/-- `RefreshCall` with a new object gives the call the key of that object. -/
theorem refreshCall_rekeys (h : w.Sound) {newCall : Ref} (hc : w.heap call = some c)
    (hnew : w.createNewCall env info = (some newCall, w')) :
    (w.refreshCall ins env call info).2.Sound ∧
      Rekeys w (w.refreshCall ins env call info).2 c.callId (convertedKey ins env c info) := by
  have hsound' : w'.Sound := by
    have hcreate := h.createNewCall env info
    rwa [hnew] at hcreate
  have hlists' : ∀ k, w'.Lists k ↔ w.Lists k := fun k => by
    have hcreate : (w.createNewCall env info).2.Lists k ↔ w.Lists k := lists_createNewCall h k
    rwa [hnew] at hcreate
  obtain ⟨href, n, hn, hw'⟩ := createNewCall_eq_some hnew
  have hid : n.callId = w.store.callId + 1 := (newCall_some hn).1
  have hold := (h.live call c hc)
  have hne : call ≠ newCall := href ▸ Nat.ne_of_lt hold.1
  have hc' : w'.heap call = some c := by
    rw [(createNewCall_some hnew).2.2.2.2 call hne, hc]
  have hn' : w'.heap newCall = some n := by
    rw [hw', href]
    exact alloc_heap_self _ n
  have hfresh : ∀ k, w.Lists k → k.callId ≠ n.callId := fun k hk => by
    have hle := h.lists_le hk
    omega
  have hexchange : (w'.exchangeCall ins env newCall c info).Sound ∧ _ :=
    exchangeCall_lists hsound' hn' hc' (by omega) fun k hk => hfresh k ((hlists' k).mp hk)
  obtain ⟨hsound₃, hstored₃, hgone₃, hlists₃⟩ := hexchange
  have hn₃ : (w'.exchangeCall ins env newCall c info).heap newCall =
      some { n with callRunningState := c.callRunningState, conferenceState := c.conferenceState } := by
    rw [exchangeCall_heap_self, hn', Option.map_some]
  have hc₃ : (w'.exchangeCall ins env newCall c info).heap call = some c := by
    rw [exchangeCall_heap hne, hc']
  have hlists := lists_takeOver (c := c) hsound₃ hn₃ hgone₃
  rw [refreshCall_some hc hnew]
  refine ⟨hsound₃.takeOver hn₃ hc₃ hgone₃, fun k hk => ?_, fun k hk => ?_⟩
  · rw [hlists, hstored₃, convertedKey, newCall_key hn]
    have hnot : ¬ (k.callId ≠ n.callId ∧ (w'.exchangeCall ins env newCall c info).Lists k) :=
      fun ⟨hkn, hlisted⟩ => ((hlists₃ k hkn).mp hlisted).2 hk
    rw [or_iff_left hnot]
    split_ifs with hins
    · exact ⟨fun ⟨_, hkey⟩ => congrArg some hkey.symm, fun hkey => ⟨hins, (Option.some.inj hkey).symm⟩⟩
    · simp [hins]
  · rw [hlists]
    have hnot : ¬ (newCall ∈ (w'.exchangeCall ins env newCall c info).store.callObjectPtrList ∧
        k = ⟨c.callId, n.slotId, n.index⟩) := fun ⟨_, hkey⟩ => hk (congrArg CallKey.callId hkey)
    rw [or_iff_right hnot]
    constructor
    · rintro ⟨hkn, hlisted⟩
      exact (hlists' k).mp ((hlists₃ k hkn).mp hlisted).1
    · intro hlisted
      have hkn := hfresh k hlisted
      exact ⟨hkn, (hlists₃ k hkn).mpr ⟨(hlists' k).mpr hlisted, hk⟩⟩

/-- The id whose key `RefreshCallIfNecessary` changes, and its key then. -/
def refreshRekeys (ins : Insertion) (env : StatusEnv) (w : StatusWorld) (call : Ref)
    (info : CallDetailInfo) : Option (ℤ × Option CallKey) :=
  (w.heap call).bind fun c =>
    if Converts c info then some (c.callId, convertedKey ins env c info) else none

/-- What an action does to the keys on the list: nothing, or it changes that of one id. -/
def ChangesKeys (w w' : StatusWorld) : Option (ℤ × Option CallKey) → Prop
  | none => ∀ k, w'.Lists k ↔ w.Lists k
  | some (callId, k) => Rekeys w w' callId k

/-- What `RefreshCallIfNecessary` does to the keys. -/
theorem refreshCallIfNecessary_keys (h : w.Sound) (ins : Insertion) (env : StatusEnv) (call : Ref)
    (info : CallDetailInfo) :
    (w.refreshCallIfNecessary ins env call info).2.Sound ∧
      ChangesKeys w (w.refreshCallIfNecessary ins env call info).2
        (refreshRekeys ins env w call info) := by
  have hvideo : SameKeys w (w.modify call fun c => c.refreshVideoState info) :=
    SameKeys.modify fun c => refreshVideoState_key c info
  have hsound₁ := hvideo.sound h (h.toNumbered.writes (Quiet.refreshVideoState w call info))
  have hlists₁ := hvideo.lists
  unfold StatusWorld.refreshCallIfNecessary refreshRekeys
  dsimp only
  cases hc : w.heap call with
  | none =>
    have hc₁ : (w.modify call fun c => c.refreshVideoState info).heap call = none := by
      rw [modify_heap_self, hc, Option.map_none]
    split_ifs
    · exact ⟨hsound₁, hlists₁⟩
    · rw [StatusWorld.refreshCall, hc₁]
      exact ⟨hsound₁, hlists₁⟩
  | some c =>
    have hc₁ : (w.modify call fun c => c.refreshVideoState info).heap call =
        some (c.refreshVideoState info) := by
      rw [modify_heap_self, hc, Option.map_some]
    rw [object_eq hc₁, c.refreshVideoState_callType, Option.bind_some]
    generalize (w.modify call fun c => c.refreshVideoState info) = w₁ at hc₁ hsound₁ hlists₁ ⊢
    by_cases htype : c.callType = info.callType
    · have hnot : ¬ Converts c info := fun hconv => hconv.1 htype
      rw [if_pos htype, if_neg hnot]
      exact ⟨hsound₁, hlists₁⟩
    rw [if_neg htype]
    rcases hnew : w₁.createNewCall env info with ⟨_ | newCall, w'⟩
    · have hcreate := hsound₁.createNewCall env info
      have hlists' : ∀ k, (w₁.createNewCall env info).2.Lists k ↔ w₁.Lists k :=
        lists_createNewCall hsound₁
      rw [hnew] at hcreate hlists'
      have hnot : ¬ Converts c info := fun hconv => hconv.2 (createNewCall_eq_none hnew).1
      rw [refreshCall_none hc₁ hnew, if_neg hnot]
      exact ⟨hcreate, fun k => (hlists' k).trans (hlists₁ k)⟩
    · have herr : info.callType ≠ .errCall := fun herr => by
        obtain ⟨-, n, hn, -⟩ := createNewCall_eq_some hnew
        rw [CallBase.newCall, if_pos herr] at hn
        cases hn
      have hrefresh : (w₁.refreshCall ins env call info).2.Sound ∧ _ :=
        refreshCall_rekeys hsound₁ hc₁ hnew
      obtain ⟨hsound, hrekeys⟩ := hrefresh
      have hkey : convertedKey ins env (c.refreshVideoState info) info =
          convertedKey ins env c info := by
        rw [convertedKey, c.refreshVideoState_callId, convertedKey]
      rw [c.refreshVideoState_callId, hkey] at hrekeys
      have hconv : Converts c info := ⟨htype, herr⟩
      rw [if_pos hconv]
      exact ⟨hsound, hrekeys.self, fun k hk => (hrekeys.others k hk).trans (hlists₁ k)⟩

/-! ## `UpdateDialingCallInfo` -/

/-- The pending call gets the index and the slot of the report, unless it is an OTT call. -/
theorem adopt_key (c : CallBase) (info : CallDetailInfo) (oriNum : String) :
    (c.adopt info oriNum).key =
      if c.objectType = .ott then c.key else ⟨c.callId, info.accountId, info.index⟩ := by
  unfold CallBase.adopt
  dsimp only
  split_ifs
  · exact setTelCallState_key c info.state
  · exact setTelCallState_key { c with index := info.index, slotId := info.accountId } info.state

/-- The object that stands for `c` after `RefreshCallIfNecessary`, in what
    `adopt_key` reads of it. -/
def refreshed (env : StatusEnv) (c : CallBase) (info : CallDetailInfo) : CallBase :=
  if Converts c info then (CallBase.newCall env info c.callId).getD c else c

/-- The key of a pending call that a report adopts. -/
def adoptedKey (env : StatusEnv) (c : CallBase) (info : CallDetailInfo) : CallKey :=
  ((refreshed env c info).adopt info c.accountNumber).key

theorem refreshed_of_newCall {n : CallBase} {callId : ℤ} (hconv : Converts c info)
    (hn : CallBase.newCall env info callId = some n) :
    refreshed env c info = { n with callId := c.callId } := by
  unfold CallBase.newCall at hn
  rw [if_neg hconv.2] at hn
  rw [refreshed, if_pos hconv, CallBase.newCall, if_neg hconv.2, ← Option.some.inj hn]
  rfl

theorem refreshed_callId (env : StatusEnv) (c : CallBase) (info : CallDetailInfo) :
    (refreshed env c info).callId = c.callId := by
  unfold refreshed CallBase.newCall
  split_ifs <;> rfl

/-- The object that `RefreshCallIfNecessary` returns has the key and the class of `refreshed`. -/
theorem refreshCallIfNecessary_object (hlt : call < w.nextRef) (ins : Insertion) (hc : w.heap call = some c)
    (env : StatusEnv) (info : CallDetailInfo) :
    ∃ d, (w.refreshCallIfNecessary ins env call info).2.heap
        (w.refreshCallIfNecessary ins env call info).1 = some d ∧
      d.key = (refreshed env c info).key ∧ d.objectType = (refreshed env c info).objectType := by
  have hc₁ : (w.modify call fun c => c.refreshVideoState info).heap call =
      some (c.refreshVideoState info) := by
    rw [modify_heap_self, hc, Option.map_some]
  have hlt₁ : call < (w.modify call fun c => c.refreshVideoState info).nextRef := hlt
  have hvideo : (c.refreshVideoState info).objectType = c.objectType := by
    obtain ⟨videoState, heq⟩ := c.refreshVideoState_eq info
    rw [heq]
  unfold StatusWorld.refreshCallIfNecessary
  dsimp only
  rw [object_eq hc₁, c.refreshVideoState_callType]
  generalize (w.modify call fun c => c.refreshVideoState info) = w₁ at hc₁ hlt₁ ⊢
  by_cases htype : c.callType = info.callType
  · have hnot : ¬ Converts c info := fun hconv => hconv.1 htype
    rw [if_pos htype, refreshed, if_neg hnot]
    exact ⟨_, hc₁, refreshVideoState_key c info, hvideo⟩
  rw [if_neg htype]
  rcases hnew : w₁.createNewCall env info with ⟨_ | newCall, w'⟩
  · have hnot : ¬ Converts c info := fun hconv => hconv.2 (createNewCall_eq_none hnew).1
    rw [refreshCall_none hc₁ hnew, refreshed, if_neg hnot, (createNewCall_none hnew).2]
    exact ⟨_, hc₁, refreshVideoState_key c info, hvideo⟩
  · have hne : newCall ≠ call := by
      rw [(createNewCall_some hnew).1]
      exact (Nat.ne_of_lt hlt₁).symm
    obtain ⟨n, hn, hheap⟩ := refreshCall_heap_new ins hc₁ hnew hne
    have hconv : Converts c info := by
      refine ⟨htype, fun herr => ?_⟩
      rw [CallBase.newCall, if_pos herr] at hn
      cases hn
    have hfst : (w₁.refreshCall ins env call info).1 = newCall := by rw [refreshCall_some hc₁ hnew]
    rw [hfst]
    refine ⟨_, hheap, ?_, ?_⟩
    · rw [takeOver_key, c.refreshVideoState_callId, refreshed_of_newCall hconv hn]
      rfl
    · rw [refreshed_of_newCall hconv hn]
      exact CallBase.setTelCallState_objectType _ _

/-- A write to a listed object that keeps its id changes its key. -/
theorem Rekeys.modify (h : w.Sound) (hc : w.heap call = some c)
    (hmem : call ∈ w.store.callObjectPtrList) {f : CallBase → CallBase}
    (hid : (f c).callId = c.callId) : Rekeys w (w.modify call f) c.callId (some (f c).key) where
  self k hk := by
    constructor
    · rintro ⟨r, hr, hr'⟩
      by_cases hcall : r = call
      · rw [hcall, keys_modify_self hc] at hr'
        exact hr'
      · rw [keys_modify_of_ne w f hcall] at hr'
        exact absurd (h.keys_inj hr' (keys_of_heap hc) hk) hcall
    · intro hk'
      exact ⟨call, hmem, (keys_modify_self hc f).trans hk'⟩
  others k hk := by
    constructor
    · rintro ⟨r, hr, hr'⟩
      refine ⟨r, hr, ?_⟩
      by_cases hcall : r = call
      · rw [hcall, keys_modify_self hc] at hr'
        exact absurd ((congrArg CallKey.callId (Option.some.inj hr')).symm.trans hid) hk
      · rwa [keys_modify_of_ne w f hcall] at hr'
    · rintro ⟨r, hr, hr'⟩
      refine ⟨r, hr, ?_⟩
      by_cases hcall : r = call
      · rw [hcall, keys_of_heap hc] at hr'
        exact absurd (congrArg CallKey.callId (Option.some.inj hr')).symm hk
      · rwa [keys_modify_of_ne w f hcall]

theorem lists_modify_of_notMem (hmem : call ∉ w.store.callObjectPtrList) (f : CallBase → CallBase)
    (k : CallKey) : (w.modify call f).Lists k ↔ w.Lists k := by
  have hlist : (w.modify call f).store.callObjectPtrList = w.store.callObjectPtrList := rfl
  refine lists_congr hlist (fun r hr => ?_) k
  exact keys_modify_of_ne w f fun hcall => hmem (hcall ▸ hr)

theorem Sound.modify (h : w.Sound) (call : Ref) {f : CallBase → CallBase}
    (hid : ∀ c, (f c).callId = c.callId) : (w.modify call f).Sound where
  toNumbered :=
    h.toNumbered.writes (Writes.modify (P := fun _ _ => True) (fun _ => trivial) fun c _ =>
      ⟨hid c, trivial⟩)
  nodup := h.nodup
  listed r hr := by
    have hlisted := h.listed r hr
    by_cases hcall : r = call
    · obtain ⟨k, hk⟩ := Option.isSome_iff_exists.mp hlisted
      obtain ⟨c, hc, -⟩ := keys_eq_some.mp hk
      rw [hcall] at hc ⊢
      exact Option.isSome_of_eq_some (keys_modify_self hc f)
    · rwa [keys_modify_of_ne w f hcall]

/-- An object is listed iff its key is. -/
theorem Sound.mem_iff_lists (h : w.Sound) (hc : w.heap call = some c) :
    call ∈ w.store.callObjectPtrList ↔ w.Lists c.key :=
  ⟨fun hmem => ⟨call, hmem, keys_of_heap hc⟩, fun hk => (h.toNumbered.lists_heap hk hc rfl).1⟩

/-- The id whose key `UpdateDialingCallInfo` changes, and its key then. -/
def dialingRekeys (ins : Insertion) (env : StatusEnv) (w : StatusWorld) (info : CallDetailInfo) :
    Option (ℤ × Option CallKey) :=
  match w.getOneCallObjectByKey info.index info with
  | some call => refreshRekeys ins env w call info
  | none =>
    (w.getOneCallObjectByIndex initIndex).bind fun call =>
      (w.heap call).map fun c =>
        (c.callId,
          if Converts c info ∧ ins = .asWritten then none else some (adoptedKey env c info))

/-- A pending call that a report adopts, converted or not. -/
theorem adoptPending_keys (h : w.Sound) (ins : Insertion) (env : StatusEnv)
    (hc : w.heap call = some c) (hmem : call ∈ w.store.callObjectPtrList) (info : CallDetailInfo)
    (oriNum : String) :
    ((w.refreshCallIfNecessary ins env call info).2.modify
        (w.refreshCallIfNecessary ins env call info).1 fun c => c.adopt info oriNum).Sound ∧
      Rekeys w ((w.refreshCallIfNecessary ins env call info).2.modify
          (w.refreshCallIfNecessary ins env call info).1 fun c => c.adopt info oriNum) c.callId
        (if Converts c info ∧ ins = .asWritten then none else some (adoptedKey env c info)) := by
  obtain ⟨hsound, hkeys⟩ := refreshCallIfNecessary_keys h ins env call info
  obtain ⟨d, hd, hdkey, hdtype⟩ := refreshCallIfNecessary_object (h.live call c hc).1 ins hc env info
  have hdid : d.callId = c.callId :=
    (congrArg CallKey.callId hdkey).trans (refreshed_callId env c info)
  have hadopted : (d.adopt info oriNum).key = adoptedKey env c info := by
    rw [adoptedKey, adopt_key, adopt_key, hdkey, hdtype, hdid, refreshed_callId]
  have hstored := hsound.mem_iff_lists hd
  unfold refreshRekeys at hkeys
  rw [hc, Option.bind_some] at hkeys
  generalize (w.refreshCallIfNecessary ins env call info).2 = w₂ at hsound hkeys hd hstored ⊢
  generalize (w.refreshCallIfNecessary ins env call info).1 = r at hd hstored ⊢
  refine ⟨hsound.modify r fun c => c.adopt_callId info oriNum, ?_⟩
  have hothers : ∀ k, k.callId ≠ c.callId → (w₂.Lists k ↔ w.Lists k) := fun k hk => by
    split_ifs at hkeys
    · exact hkeys.others k hk
    · exact hkeys k
  by_cases hgone : Converts c info ∧ ins = .asWritten
  · -- the new object is not stored
    rw [if_pos hgone]
    rw [if_pos hgone.1] at hkeys
    have hnone : convertedKey ins env c info = none := by
      rw [convertedKey, if_neg]
      rw [hgone.2]
      decide
    have hnot : r ∉ w₂.store.callObjectPtrList := fun hr => by
      have hkey := (hkeys.self d.key hdid).mp (hstored.mp hr)
      rw [hnone] at hkey
      cases hkey
    refine ⟨fun k hk => ?_, fun k hk => ?_⟩
    · rw [lists_modify_of_notMem hnot, hkeys.self k hk, hnone]
    · rw [lists_modify_of_notMem hnot, hothers k hk]
  · rw [if_neg hgone]
    have hr : r ∈ w₂.store.callObjectPtrList := by
      rw [hstored, hdkey]
      split_ifs at hkeys with hconv
      · have hins : ins = .restored := by
          cases ins with
          | asWritten => exact absurd ⟨hconv, rfl⟩ hgone
          | restored => rfl
        refine (hkeys.self _ (refreshed_callId env c info)).mpr ?_
        rw [convertedKey, if_pos hins, refreshed, if_pos hconv]
        unfold CallBase.newCall
        rw [if_neg hconv.2]
        rfl
      · rw [hkeys, refreshed, if_neg hconv]
        exact ⟨call, hmem, keys_of_heap hc⟩
    have hmodify := Rekeys.modify hsound hd hr (f := fun c => c.adopt info oriNum)
      (d.adopt_callId info oriNum)
    rw [hdid, hadopted] at hmodify
    exact ⟨hmodify.self, fun k hk => (hmodify.others k hk).trans (hothers k hk)⟩

/-- What `UpdateDialingCallInfo` does to the keys. -/
theorem updateDialingCallInfo_keys (h : w.Sound) (ins : Insertion) (env : StatusEnv)
    (info : CallDetailInfo) :
    (w.updateDialingCallInfo ins env info).2.Sound ∧
      ChangesKeys w (w.updateDialingCallInfo ins env info).2 (dialingRekeys ins env w info) := by
  unfold StatusWorld.updateDialingCallInfo dialingRekeys
  cases w.getOneCallObjectByKey info.index info with
  | some call => exact refreshCallIfNecessary_keys h ins env call info
  | none =>
    cases hpending : w.getOneCallObjectByIndex initIndex with
    | none => exact ⟨h, fun _ => Iff.rfl⟩
    | some call =>
      have hmem : call ∈ w.store.callObjectPtrList := List.mem_of_find?_eq_some hpending
      obtain ⟨k, hk⟩ := Option.isSome_iff_exists.mp (h.listed call hmem)
      obtain ⟨c, hc, -⟩ := keys_eq_some.mp hk
      obtain ⟨hsound, hrekeys⟩ := adoptPending_keys h ins env hc hmem info
        (w.object call).accountNumber
      dsimp only
      rw [Option.bind_some, hc, Option.map_some]
      generalize (w.refreshCallIfNecessary ins env call info).1 = r at hsound hrekeys ⊢
      generalize (w.refreshCallIfNecessary ins env call info).2.modify r _ = w₂ at hsound hrekeys ⊢
      have hclear := SameKeys.clearPendingState w₂ r
      refine ⟨hclear.sound hsound (hsound.toNumbered.writes (Quiet.clearPendingState w₂ r)), ?_⟩
      exact ⟨fun k hk => (hclear.lists k).trans (hrekeys.self k hk),
        fun k hk => (hclear.lists k).trans (hrekeys.others k hk)⟩

/-- Keys that stay the same before and after a change. -/
theorem ChangesKeys.of_same {w₁ w₂ : StatusWorld} {change : Option (ℤ × Option CallKey)}
    (hw : SameKeys w w₁) (h : ChangesKeys w₁ w₂ change) (hw' : SameKeys w₂ w') :
    ChangesKeys w w' change := by
  match change with
  | none => exact fun k => (hw'.lists k).trans ((h k).trans (hw.lists k))
  | some (_, _) =>
    refine ⟨fun k hk => (hw'.lists k).trans (h.self k hk), fun k hk => ?_⟩
    exact (hw'.lists k).trans ((h.others k hk).trans (hw.lists k))

/-! ## All actions -/

theorem Numbered.updateDialingCallInfo (h : w.Numbered) (ins : Insertion) (env : StatusEnv)
    (info : CallDetailInfo) : (w.updateDialingCallInfo ins env info).2.Numbered := by
  unfold StatusWorld.updateDialingCallInfo
  split
  · exact h.refreshCallIfNecessary ins env _ info
  · split
    · exact h
    · rename_i pending _
      have hrefresh := h.refreshCallIfNecessary ins env pending info
      refine Numbered.writes ?_ (Quiet.clearPendingState _ _)
      refine hrefresh.writes (Writes.modify (P := fun _ _ => True) (fun _ => trivial) fun c _ => ?_)
      exact ⟨c.adopt_callId info _, trivial⟩

theorem Numbered.setTelCallState (h : w.Numbered) (call : Ref) (s : TelCallState) :
    (w.setTelCallState call s).Numbered :=
  h.writes (setTelCallState_comesTo w call s)

theorem Numbered.setPhoneOrWatchDial (h : w.Numbered) (call : Ref) (phoneOrWatch : ℤ) :
    (w.setPhoneOrWatchDial call phoneOrWatch).Numbered :=
  h.writes (Quiet.modify fun _ => ⟨rfl, rfl⟩)

theorem Numbered.btCallDialingHandleFirst (h : w.Numbered) (ins : Insertion) (env : StatusEnv)
    (call : Ref) (info : CallDetailInfo) :
    (w.btCallDialingHandleFirst ins env call info).Numbered := by
  have hdial := h.setPhoneOrWatchDial call CallObjectManager.watchDial
  have hupdate := hdial.updateDialingCallInfo ins env info
  unfold StatusWorld.btCallDialingHandleFirst
  dsimp only
  split_ifs
  · exact h
  · exact hupdate.setTelCallState call .dialing
  · exact hupdate
  · exact hdial

theorem Numbered.updateCallState (h : w.Numbered) (call : Ref) (s : TelCallState) :
    (w.updateCallState call s).Numbered := by
  unfold StatusWorld.updateCallState
  split
  · exact h
  · rename_i c hc
    have hfirst : Writes (ComesTo c.callId s) w (w.setTelCallState call s) :=
      object_eq hc ▸ setTelCallState_comesTo w call s
    have hsecond := updateOneCallObjectByCallId_comesTo (w.setTelCallState call s) c.callId s
    exact h.notify hc (hfirst.trans (fun _ _ _ => ComesTo.trans) hsecond) c.callState s

theorem Numbered.setConferenceCall (h : w.Numbered) (slotId : ℤ) :
    (w.setConferenceCall slotId).Numbered := by
  unfold StatusWorld.setConferenceCall
  generalize w.getConferenceCallList slotId = list
  induction list generalizing w with
  | nil => exact h
  | cons conferenceCall list ih =>
    rw [List.foldl_cons]
    have hidle := h.writes (Quiet.setTelConferenceState w conferenceCall .idle)
    have hlaunch := hidle.writes (Quiet.launchConference _ conferenceCall)
    exact ih (hlaunch.updateCallState conferenceCall _)

theorem Numbered.endConferenceOfOne (h : w.Numbered) (slotId : ℤ) :
    (w.endConferenceOfOne slotId).Numbered := by
  unfold StatusWorld.endConferenceOfOne
  split
  · dsimp only
    split_ifs
    · exact (h.writes (Quiet.setTelConferenceState w _ .idle)).updateCallState _ _
    · exact h
  · exact h

/-- Every action keeps the objects numbered. -/
theorem Numbered.statusAction (h : w.Numbered) (ins : Insertion) (env : StatusEnv)
    (a : StatusAction) : (statusAction ins env w a).Numbered := by
  cases a with
  | createNewCall info => exact h.createNewCall env info
  | addOneCallObject call => exact h.writes (Quiet.addOneCallObject ins env call)
  | deleteOneCallObject callId => exact h.writes (Quiet.deleteOneCallObject env callId)
  | setTelCallState call nextState => exact h.setTelCallState call nextState
  | updateCallState call nextState => exact h.updateCallState call nextState
  | refreshCallIfNecessary call info => exact h.refreshCallIfNecessary ins env call info
  | updateDialingCallInfo info => exact h.updateDialingCallInfo ins env info
  | btCallDialingHandleFirst call info => exact h.btCallDialingHandleFirst ins env call info
  | setPhoneOrWatchDial call v => exact h.setPhoneOrWatchDial call v
  | dialingProcess call =>
    refine h.writes (Quiet.modify fun c => ?_)
    split_ifs <;> exact ⟨rfl, rfl⟩
  | incomingCallBase call => exact h.writes (Quiet.modify fun _ => ⟨rfl, rfl⟩)
  | setNonVirtualCall call v => exact h.writes (Quiet.modify fun _ => ⟨rfl, rfl⟩)
  | clearPendingState call => exact h.writes (Quiet.clearPendingState w call)
  | setPendingMo callId => exact h.writes (Quiet.of_heap rfl rfl rfl rfl)
  | clearPendingHangup => exact h.writes (Quiet.of_heap rfl rfl rfl rfl)
  | clearNeedWaitHold => exact h.writes (Quiet.of_heap rfl rfl rfl rfl)
  | setConferenceCall slotId => exact h.setConferenceCall slotId
  | exitConference call => exact h.writes (Quiet.exitConference w call)
  | holdConference call => exact h.writes (Quiet.holdConference w call)
  | endConferenceOfOne slotId => exact h.endConferenceOfOne slotId

theorem SameKeys.setPhoneOrWatchDial (w : StatusWorld) (call : Ref) (phoneOrWatch : ℤ) :
    SameKeys w (w.setPhoneOrWatchDial call phoneOrWatch) :=
  SameKeys.modify fun _ => rfl

/-- The id whose key on the list an action changes, and its key then. -/
def rekeys (ins : Insertion) (env : StatusEnv) (w : StatusWorld) :
    StatusAction → Option (ℤ × Option CallKey)
  | .deleteOneCallObject callId => some (callId, none)
  | .refreshCallIfNecessary call info => refreshRekeys ins env w call info
  | .updateDialingCallInfo info => dialingRekeys ins env w info
  | .btCallDialingHandleFirst call info =>
    if (w.heap call).isSome ∧ info.state = .alerting then
      dialingRekeys ins env (w.setPhoneOrWatchDial call CallObjectManager.watchDial) info
    else none
  | _ => none

theorem btCallDialingHandleFirst_keys (h : w.Sound) (ins : Insertion) (env : StatusEnv) (call : Ref)
    (info : CallDetailInfo) :
    (w.btCallDialingHandleFirst ins env call info).Sound ∧
      ChangesKeys w (w.btCallDialingHandleFirst ins env call info)
        (rekeys ins env w (.btCallDialingHandleFirst call info)) := by
  have hdial := SameKeys.setPhoneOrWatchDial w call CallObjectManager.watchDial
  have hsound := hdial.sound h (h.toNumbered.setPhoneOrWatchDial call CallObjectManager.watchDial)
  obtain ⟨hsound₁, hkeys⟩ := updateDialingCallInfo_keys hsound ins env info
  unfold StatusWorld.btCallDialingHandleFirst rekeys
  dsimp only
  by_cases hcall : (w.heap call).isNone = true
  · have hnone : ¬ ((w.heap call).isSome = true ∧ info.state = .alerting) := fun hboth => by
      rw [Option.isNone_iff_eq_none.mp hcall] at hboth
      cases hboth.1
    rw [if_pos hcall, if_neg hnone]
    exact ⟨h, fun _ => Iff.rfl⟩
  rw [if_neg hcall]
  by_cases hstate : info.state = .alerting
  · have hboth : (w.heap call).isSome = true ∧ info.state = .alerting :=
      ⟨Option.isSome_iff_ne_none.mpr fun hc => hcall (Option.isNone_iff_eq_none.mpr hc), hstate⟩
    rw [if_pos hstate, if_pos hboth]
    generalize ((w.setPhoneOrWatchDial call CallObjectManager.watchDial).updateDialingCallInfo ins
      env info).2 = w₁ at hsound₁ hkeys ⊢
    by_cases halerting : (w₁.object call).callState = .alerting
    · rw [if_pos halerting]
      have hset := SameKeys.setTelCallState w₁ call .dialing
      exact ⟨hset.sound hsound₁ (hsound₁.toNumbered.setTelCallState call .dialing),
        ChangesKeys.of_same hdial hkeys hset⟩
    · rw [if_neg halerting]
      exact ⟨hsound₁, ChangesKeys.of_same hdial hkeys SameKeys.refl⟩
  · have hnot : ¬ ((w.heap call).isSome = true ∧ info.state = .alerting) :=
      fun hboth => hstate hboth.2
    rw [if_neg hstate, if_neg hnot]
    exact ⟨hsound, hdial.lists⟩

/-- The key `k` is on the list after a change. -/
def ListsAfter (w : StatusWorld) (change : Option (ℤ × Option CallKey)) (k : CallKey) : Prop :=
  match change with
  | none => w.Lists k
  | some (callId, k') => if k.callId = callId then k' = some k else w.Lists k

theorem ChangesKeys.lists_iff {change : Option (ℤ × Option CallKey)} (h : ChangesKeys w w' change)
    (k : CallKey) : w'.Lists k ↔ w.ListsAfter change k := by
  match change with
  | none => exact h k
  | some (callId, k') =>
    show _ ↔ if k.callId = callId then k' = some k else w.Lists k
    split_ifs with hid
    · exact h.self k hid
    · exact h.others k hid

/-- An action on a sound state leaves one, and it changes the keys of the calls
    that are stored as `rekeys` says. -/
def KeysOk (ins : Insertion) (env : StatusEnv) (w w' : StatusWorld) (a : StatusAction) : Prop :=
  w'.Sound ∧ ∀ k, (∃ k', w.Lists k' ∧ k'.callId = k.callId) →
    (w'.Lists k ↔ w.ListsAfter (rekeys ins env w a) k)

theorem SameKeys.keysOk (hs : SameKeys w w') (h : w.Sound) (hnumbered : w'.Numbered)
    {a : StatusAction} (hnone : rekeys ins env w a = none) : KeysOk ins env w w' a := by
  refine ⟨hs.sound h hnumbered, fun k _ => ?_⟩
  rw [hnone]
  exact hs.lists k

theorem ChangesKeys.keysOk {a : StatusAction} (hsound : w'.Sound)
    (h : ChangesKeys w w' (rekeys ins env w a)) : KeysOk ins env w w' a :=
  ⟨hsound, fun k _ => h.lists_iff k⟩

/-- What an action does to the keys of the stored calls. -/
theorem statusAction_keys (h : w.Sound) (ins : Insertion) (env : StatusEnv) (a : StatusAction) :
    KeysOk ins env w (statusAction ins env w a) a := by
  have hnumbered := h.toNumbered.statusAction ins env a
  cases a with
  | createNewCall info =>
    exact ⟨h.createNewCall env info, fun k _ => lists_createNewCall h k⟩
  | addOneCallObject call =>
    refine ⟨h.addOneCallObject ins env call, fun k hk => ?_⟩
    show (w.addOneCallObject ins env call).Lists k ↔ w.Lists k
    cases hc : w.heap call with
    | none =>
      have hstore : (w.addOneCallObject ins env call).store = w.store := by
        rw [StatusWorld.addOneCallObject, hc]
        rfl
      have hsame : SameKeys w (w.addOneCallObject ins env call) := by
        refine SameKeys.of_heap ?_ rfl
        rw [hstore]
      exact hsame.lists k
    | some c =>
      rw [lists_addOneCallObject hc, or_iff_left]
      -- the call that is put on the list has an id that is not stored
      rintro ⟨rfl, -, hnot⟩
      exact hnot ((h.stored_iff c.callId).mpr hk)
  | deleteOneCallObject callId =>
    exact ChangesKeys.keysOk (h.deleteOneCallObject env callId)
      (Rekeys.deleteOneCallObject h env callId)
  | refreshCallIfNecessary call info =>
    obtain ⟨hsound, hkeys⟩ := refreshCallIfNecessary_keys h ins env call info
    exact ChangesKeys.keysOk hsound hkeys
  | updateDialingCallInfo info =>
    obtain ⟨hsound, hkeys⟩ := updateDialingCallInfo_keys h ins env info
    exact ChangesKeys.keysOk hsound hkeys
  | btCallDialingHandleFirst call info =>
    obtain ⟨hsound, hkeys⟩ := btCallDialingHandleFirst_keys h ins env call info
    exact ChangesKeys.keysOk hsound hkeys
  | setTelCallState call s => exact (SameKeys.setTelCallState w call s).keysOk h hnumbered rfl
  | updateCallState call s => exact (SameKeys.updateCallState w call s).keysOk h hnumbered rfl
  | setPhoneOrWatchDial call v =>
    exact (SameKeys.setPhoneOrWatchDial w call v).keysOk h hnumbered rfl
  | dialingProcess call =>
    refine SameKeys.keysOk (SameKeys.modify fun c => ?_) h hnumbered rfl
    split_ifs <;> rfl
  | incomingCallBase _ | setNonVirtualCall _ _ =>
    refine SameKeys.keysOk (SameKeys.modify ?_) h hnumbered rfl
    exact fun _ => rfl
  | clearPendingState call => exact (SameKeys.clearPendingState w call).keysOk h hnumbered rfl
  | setPendingMo _ | clearPendingHangup | clearNeedWaitHold =>
    refine SameKeys.keysOk ?_ h hnumbered rfl
    exact SameKeys.of_heap rfl rfl
  | setConferenceCall slotId => exact (SameKeys.setConferenceCall w slotId).keysOk h hnumbered rfl
  | exitConference call => exact (SameKeys.exitConference w call).keysOk h hnumbered rfl
  | holdConference call => exact (SameKeys.holdConference w call).keysOk h hnumbered rfl
  | endConferenceOfOne slotId => exact (SameKeys.endConferenceOfOne w slotId).keysOk h hnumbered rfl

/-! ## Reached states -/

/-- Every action keeps the state sound. -/
theorem Sound.statusAction (h : w.Sound) (ins : Insertion) (env : StatusEnv) (a : StatusAction) :
    (CallManager.statusAction ins env w a).Sound :=
  (statusAction_keys h ins env a).1

theorem SameKeys.hangUpPendingCall (w : StatusWorld) (callId : ℤ) :
    SameKeys w (w.hangUpPendingCall callId) := by
  unfold StatusWorld.hangUpPendingCall
  split_ifs
  · exact SameKeys.of_heap rfl rfl
  · exact SameKeys.refl

theorem SameKeys.combineConference (w : StatusWorld) (callId : ℤ) (ret : ErrorCode) :
    SameKeys w (w.combineConference callId ret) := by
  unfold StatusWorld.combineConference
  cases w.getOneCallObject callId with
  | none => exact SameKeys.refl
  | some call =>
    dsimp only
    cases (w.object call).objectType with
    | cs | ims => exact SameKeys.of_heap rfl rfl
    | ott =>
      dsimp only
      split_ifs
      · exact SameKeys.of_heap rfl rfl
      · exact SameKeys.of_heap rfl rfl
    | satellite | voip | bluetooth | errCall => exact SameKeys.refl

theorem SameKeys.combineConferenceFailed (w : StatusWorld) :
    SameKeys w w.combineConferenceFailed := by
  unfold StatusWorld.combineConferenceFailed
  split
  · exact SameKeys.refl
  · split
    · exact SameKeys.of_heap rfl rfl
    · exact SameKeys.of_heap rfl rfl
    · exact SameKeys.of_heap rfl rfl
    all_goals exact SameKeys.refl

/-- What the queue handles keeps the state sound. -/
theorem Sound.statusStep (h : w.Sound) (ins : Insertion) (op : StatusOp) :
    (CallManager.statusStep ins w op).Sound := by
  cases op with
  | report env info =>
    have haction : ∀ w' a, Sound w' → (CallManager.statusAction ins env w' a).Sound :=
      fun _ a hw' => hw'.statusAction ins env a
    exact Program.run_invariant haction (CallStatusManager.handleCallReportInfo ins env info) h
  | callsReport slotId callVec =>
    have hkeys : SameKeys w (CallManager.statusStep ins w (.callsReport slotId callVec)) :=
      SameKeys.of_heap rfl rfl
    exact hkeys.sound h (h.toNumbered.writes (Quiet.of_heap rfl rfl rfl rfl))
  | waitHold needWaitHold =>
    have hkeys : SameKeys w (CallManager.statusStep ins w (.waitHold needWaitHold)) :=
      SameKeys.of_heap rfl rfl
    exact hkeys.sound h (h.toNumbered.writes (Quiet.of_heap rfl rfl rfl rfl))
  | hangUpPendingCall callId =>
    exact (SameKeys.hangUpPendingCall w callId).sound h
      (h.toNumbered.writes (Quiet.hangUpPendingCall w callId))
  | combineConference callId packOttCallRequestInfo =>
    exact (SameKeys.combineConference w callId packOttCallRequestInfo).sound h
      (h.toNumbered.writes (Quiet.combineConference w callId packOttCallRequestInfo))
  | combineConferenceFailed =>
    exact (SameKeys.combineConferenceFailed w).sound h
      (h.toNumbered.writes (Quiet.combineConferenceFailed w))

theorem Sound.init : StatusWorld.init.Sound :=
  ⟨Synced.init.toNumbered, List.nodup_nil, fun _ hr => nomatch hr⟩

/-- Every state that is reached from the first one is sound. -/
theorem Sound.reached (ins : Insertion) (ops : List StatusOp) :
    (Run.run (CallManager.statusStep ins) .init ops).Sound := by
  have hstates : Run.StatesMeet (CallManager.statusStep ins) Sound .init ops :=
    Run.statesMeet_of_invariant (fun _ op h => h.statusStep ins op) ops Sound.init
  exact hstates.last

end StatusWorld

namespace CallStatusManager

open Program

/-- What `RefreshDialingStateByOtherState` returns is what the lookup finds then. -/
theorem refreshDialingStateByOtherState_found {ins : Insertion} {env : StatusEnv}
    {info : CallDetailInfo} {w : StatusWorld} {call : Ref}
    (h : ((refreshDialingStateByOtherState ins env info).run (statusAction ins env) w).1 = some call) :
    ((refreshDialingStateByOtherState ins env info).run
      (statusAction ins env) w).2.getOneCallObjectByKey info.index info = some call := by
  unfold refreshDialingStateByOtherState at h ⊢
  rw [run_bind] at h ⊢
  split_ifs at h ⊢
  · cases h
  · rw [run_bind] at h ⊢
    exact h

end CallStatusManager

end CallManager
