import CallManager.CallKeys
import CallManager.ConferenceBook

/-!
# What the handlers do to the conferences

The members and the main calls of the IMS and the CS conference are ids; the
calls they belong to are in the store, where the actions of the handlers of a
report create, convert and store them and put them into conferences. This file
relates the state of the service to its book of calls and conferences and says
which actions leave the two in agreement.

Results:
* `ok_statusAction`: an action does so that takes no call off the list and ends
  no conference, if it meets its condition (`ActionInStep`).
* `ok_deleteOneCallObject`, `ok_endConferenceOfOne`: what the other two ask for.
-/

namespace CallManager

/-! ## The calls and conferences of a state -/

namespace CallBase

/-- The id and the types of a call object. -/
def entry (c : CallBase) : CallEntry := ⟨c.callId, c.objectType, c.callType⟩

/-- A carrier call that is in a conference by its own state. -/
def inConference (c : CallBase) : Bool :=
  c.callType ∈ carrierTypes ∧ c.conferenceState ≠ .idle

end CallBase

/-- The calls and the conferences of a state. -/
def StatusWorld.book (w : StatusWorld) : ConferenceBook where
  calls call := (w.heap call).map CallBase.entry
  nextRef := w.nextRef
  callId := w.store.callId
  list := w.store.callObjectPtrList
  inConference call := (w.heap call).any CallBase.inConference
  ims := w.imsConference
  cs := w.csConference

/-! ## The conditions -/

namespace StatusWorld

/-- The call is in no conference, by the conferences and by its own state. -/
def NoConference (w : StatusWorld) (call : Ref) : Prop :=
  w.book.Free (w.object call).callId ∧ (w.object call).conferenceState = .idle

/-- `RefreshCallIfNecessary` converts a call only if it is in no conference, and to a conference
    call of type CS only if it stores the new object and there is no CS conference. -/
def RefreshOk (ins : Insertion) (w : StatusWorld) (call : Ref) (info : CallDetailInfo) : Prop :=
  (w.object call).callType ≠ info.callType → info.callType ≠ .errCall →
    w.NoConference call ∧
      ((w.object call).callType = .ims → info.callType = .cs → info.mpty = 1 →
        ins = .restored ∧ w.csConference.subCallIdSet = ∅)

/-- `UpdateDialingCallInfo` converts such a call only, and makes no other one a
    call of type ERR_CALL. -/
def DialingOk (ins : Insertion) (w : StatusWorld) (info : CallDetailInfo) : Prop :=
  match w.getOneCallObjectByKey info.index info with
  | some call => w.RefreshOk ins call info
  | none =>
    match w.getOneCallObjectByIndex initIndex with
    | none => True
    | some call =>
      w.RefreshOk ins call info ∧ (info.callType = .errCall → w.book.Free (w.object call).callId)

/-- If an IMS call of the list joins the conference, its type is IMS, and the
    main call is a member or joins too. -/
def JoinOk (w : StatusWorld) (list : List Ref) : Prop :=
  ∀ call ∈ list, (w.object call).objectType = .ims → w.imsConference.state ≠ .idle →
    (w.object call).callType = .ims ∧
      (w.imsConference.mainCallId ∈ w.imsConference.subCallIdSet ∨
        ∃ other ∈ list, (w.object other).objectType = .ims ∧
          (w.object other).callId = w.imsConference.mainCallId)

/-- A call that is put on hold with its conference is a member of the IMS conference, if that is
    on hold already, and no member of the CS conference. -/
def HoldOk (w : StatusWorld) (call : Ref) : Prop :=
  match (w.object call).objectType with
  | .ims =>
    w.imsConference.state = .holding → (w.object call).callId ∈ w.imsConference.subCallIdSet
  | .cs => (w.object call).callId ∉ w.csConference.subCallIdSet
  | _ => True

end StatusWorld

/-- The action takes no call off the list and ends no conference. -/
def StatusAction.Keeps : StatusAction → Prop
  | .deleteOneCallObject _ | .endConferenceOfOne _ => False
  | _ => True

/-- The condition on an action that keeps the calls: it converts calls and lets
    them join and hold in step with the conferences. -/
def ActionInStep (ins : Insertion) (w : StatusWorld) : StatusAction → Prop
  | .refreshCallIfNecessary call info => w.RefreshOk ins call info
  | .updateDialingCallInfo info => w.DialingOk ins info
  | .btCallDialingHandleFirst call info =>
    info.state = .alerting →
      (w.setPhoneOrWatchDial call CallObjectManager.watchDial).DialingOk ins info
  | .setConferenceCall slotId => w.JoinOk (w.getConferenceCallList slotId)
  | .holdConference call => w.HoldOk call
  | _ => True

/-! Every condition is decidable. -/

namespace StatusWorld

variable (ins : Insertion) (w : StatusWorld)

instance (call : Ref) : Decidable (w.NoConference call) := inferInstanceAs (Decidable (_ ∧ _))

instance (call : Ref) (info : CallDetailInfo) : Decidable (w.RefreshOk ins call info) :=
  inferInstanceAs (Decidable (_ → _ → _ ∧ _))

instance (info : CallDetailInfo) : Decidable (w.DialingOk ins info) := by
  unfold DialingOk
  split
  · infer_instance
  · split <;> infer_instance

instance (list : List Ref) : Decidable (w.JoinOk list) :=
  inferInstanceAs (Decidable (∀ call ∈ list, _))

instance (call : Ref) : Decidable (w.HoldOk call) := by
  unfold HoldOk
  split <;> infer_instance

end StatusWorld

instance (ins : Insertion) (w : StatusWorld) : (a : StatusAction) → Decidable (ActionInStep ins w a)
  | .refreshCallIfNecessary call info => inferInstanceAs (Decidable (w.RefreshOk ins call info))
  | .updateDialingCallInfo info => inferInstanceAs (Decidable (w.DialingOk ins info))
  | .btCallDialingHandleFirst call info =>
    inferInstanceAs (Decidable (info.state = .alerting →
      (w.setPhoneOrWatchDial call CallObjectManager.watchDial).DialingOk ins info))
  | .setConferenceCall slotId =>
    inferInstanceAs (Decidable (w.JoinOk (w.getConferenceCallList slotId)))
  | .holdConference call => inferInstanceAs (Decidable (w.HoldOk call))
  | .createNewCall _ | .addOneCallObject _ | .deleteOneCallObject _ | .setTelCallState _ _
  | .updateCallState _ _ | .setPhoneOrWatchDial _ _ | .dialingProcess _ | .incomingCallBase _
  | .setNonVirtualCall _ _ | .clearPendingState _ | .setPendingMo _ | .clearPendingHangup
  | .clearNeedWaitHold | .exitConference _ | .endConferenceOfOne _ => .isTrue trivial

/-! ## What writes do to the book -/

namespace CallBase

/-- A state change leaves the conference state IDLE or not IDLE as it was. -/
theorem stateChangesTo_conferenceState (c : CallBase) (s : TelCallState) :
    (c.stateChangesTo s).conferenceState = .idle ↔ c.conferenceState = .idle := by
  cases s <;> grind [stateChangesTo]

theorem setTelCallState_conferenceState (c : CallBase) (s : TelCallState) :
    (c.setTelCallState s).2.conferenceState = .idle ↔ c.conferenceState = .idle := by
  unfold setTelCallState
  split_ifs
  · rfl
  · exact stateChangesTo_conferenceState _ s

/-- Calls of the same type that are both IDLE or both not are in a conference alike. -/
theorem inConference_congr {c c' : CallBase} (htype : c'.callType = c.callType)
    (hidle : c'.conferenceState = .idle ↔ c.conferenceState = .idle) :
    c'.inConference = c.inConference := by
  simp only [inConference, htype, ne_eq, hidle]

theorem inConference_idle {c : CallBase} (h : c.conferenceState = .idle) :
    c.inConference = false := by
  simp [inConference, h]

theorem inConference_of_not_carrier {c : CallBase} (h : c.callType ∉ carrierTypes) :
    c.inConference = false := by
  simp [inConference, h]

theorem setTelCallState_entry (c : CallBase) (s : TelCallState) :
    (c.setTelCallState s).2.entry = c.entry := by
  simp [entry, setTelCallState_objectType]

theorem setTelCallState_inConference (c : CallBase) (s : TelCallState) :
    (c.setTelCallState s).2.inConference = c.inConference :=
  inConference_congr (c.setTelCallState_callType s) (c.setTelCallState_conferenceState s)

end CallBase

namespace StatusWorld

variable {w w' : StatusWorld} {ins : Insertion} {env : StatusEnv} {call : Ref} {c : CallBase}

theorem book_calls (hc : w.heap call = some c) : w.book.calls call = some c.entry := by
  simp only [book, hc, Option.map_some]

theorem book_inConference (hc : w.heap call = some c) :
    w.book.inConference call = c.inConference := by
  simp only [book, hc, Option.any_some]

theorem calls_eq_some {e : CallEntry} (h : w.book.calls call = some e) :
    ∃ c, w.heap call = some c ∧ c.entry = e :=
  Option.map_eq_some_iff.mp h

/-- A write to one object. -/
theorem book_modify (hc : w.heap call = some c) (f : CallBase → CallBase) :
    (w.modify call f).book =
      { w.book with
        calls := Function.update w.book.calls call (some (f c).entry)
        inConference := Function.update w.book.inConference call (f c).inConference } := by
  have hheap : (w.modify call f).heap = Function.update w.heap call (some (f c)) := by
    simp only [modify, hc, Option.map_some]
  refine ConferenceBook.ext (funext fun r => ?_) rfl rfl rfl (funext fun r => ?_) rfl rfl
  · simp only [book, hheap]
    by_cases hr : r = call
    · rw [hr, Function.update_self, Function.update_self, Option.map_some]
    · rw [Function.update_of_ne hr, Function.update_of_ne hr]
  · simp only [book, hheap]
    by_cases hr : r = call
    · rw [hr, Function.update_self, Function.update_self, Option.any_some]
    · rw [Function.update_of_ne hr, Function.update_of_ne hr]

theorem modify_none (hc : w.heap call = none) (f : CallBase → CallBase) : w.modify call f = w := by
  unfold modify
  rw [hc, Option.map_none, Function.update_eq_self_iff.mpr hc.symm]

/-- A write that keeps the id and the types and does not put the call into a
    conference or out of it. -/
theorem book_modify_eq {f : CallBase → CallBase}
    (hf : ∀ c, w.heap call = some c → (f c).entry = c.entry ∧ (f c).inConference = c.inConference) :
    (w.modify call f).book = w.book := by
  cases hc : w.heap call with
  | none => rw [modify_none hc]
  | some c =>
    obtain ⟨hentry, hin⟩ := hf c hc
    rw [book_modify hc, hentry, hin, ← book_calls hc, ← book_inConference hc,
      Function.update_eq_self, Function.update_eq_self]

theorem ok_modify (h : w.book.Ok) {f : CallBase → CallBase}
    (hf : ∀ c, w.heap call = some c → (f c).entry = c.entry ∧ (f c).inConference = c.inConference) :
    (w.modify call f).book.Ok := by
  rw [book_modify_eq hf]
  exact h

theorem book_setTelCallState (w : StatusWorld) (call : Ref) (s : TelCallState) :
    (w.setTelCallState call s).book = w.book :=
  book_modify_eq fun c _ => ⟨c.setTelCallState_entry s, c.setTelCallState_inConference s⟩

theorem book_updateOneCallObjectByCallId (w : StatusWorld) (callId : ℤ) (s : TelCallState) :
    (w.updateOneCallObjectByCallId callId s).book = w.book := by
  unfold updateOneCallObjectByCallId
  generalize w.store.callObjectPtrList = list
  induction list generalizing w with
  | nil => rfl
  | cons it list ih =>
    rw [List.foldl_cons, ih]
    split_ifs
    · exact book_setTelCallState w it s
    · rfl

theorem book_updateCallState (w : StatusWorld) (call : Ref) (s : TelCallState) :
    (w.updateCallState call s).book = w.book := by
  unfold updateCallState
  split
  · rfl
  · exact (book_updateOneCallObjectByCallId _ _ s).trans (book_setTelCallState w call s)

theorem book_clearPendingState (w : StatusWorld) (call : Ref) :
    (w.clearPendingState call).book = w.book := by
  unfold clearPendingState
  dsimp only
  split_ifs <;> rfl

theorem book_refreshVideoState (w : StatusWorld) (call : Ref) (info : CallDetailInfo) :
    (w.modify call fun c => c.refreshVideoState info).book = w.book := by
  refine book_modify_eq fun c _ => ?_
  obtain ⟨videoState, h⟩ := c.refreshVideoState_eq info
  rw [h]
  exact ⟨rfl, rfl⟩

/-- Setting the conference state of a call. -/
theorem book_setTelConferenceState (hc : w.heap call = some c) (state : TelConferenceState) :
    (w.setTelConferenceState call state).book =
      w.book.setIms w.book.ims (Function.update w.book.inConference call
        { c with conferenceState := state }.inConference) := by
  rw [setTelConferenceState, book_modify hc]
  have hentry : { c with conferenceState := state }.entry = c.entry := rfl
  rw [hentry, ← book_calls hc, Function.update_eq_self]
  rfl

/-- It changes nothing for a call that is in no conference before and after. -/
theorem book_setTelConferenceState_eq {state : TelConferenceState}
    (h : ∀ c, w.heap call = some c → c.inConference = false ∧
      { c with conferenceState := state }.inConference = false) :
    (w.setTelConferenceState call state).book = w.book :=
  book_modify_eq fun c hc => ⟨rfl, by rw [(h c hc).1]; exact (h c hc).2⟩

/-! ## Creating, storing and deleting -/

theorem newCall_entry {info : CallDetailInfo} {callId : ℤ}
    (h : CallBase.newCall env info callId = some c) :
    c.entry = ⟨callId, info.callType, info.callType⟩ ∧ c.inConference = false := by
  obtain ⟨hid, hobject, htype, hidle⟩ := newCall_some h
  refine ⟨?_, CallBase.inConference_idle hidle⟩
  rw [CallBase.entry, hid, hobject, htype]

theorem book_alloc (w : StatusWorld) {c : CallBase} (hin : c.inConference = false)
    (hid : c.callId = w.store.callId) :
    (w.alloc c).book = w.book.alloc c.entry := by
  refine ConferenceBook.ext (funext fun r => ?_) rfl hid.symm rfl (funext fun r => ?_) rfl rfl
  · simp only [book, alloc, ConferenceBook.alloc]
    by_cases hr : r = w.nextRef
    · rw [hr, Function.update_self, Function.update_self, Option.map_some]
    · rw [Function.update_of_ne hr, Function.update_of_ne hr]
  · simp only [book, alloc, ConferenceBook.alloc]
    by_cases hr : r = w.nextRef
    · rw [hr, Function.update_self, Function.update_self, Option.any_some, hin]
    · rw [Function.update_of_ne hr, Function.update_of_ne hr]

/-- `CreateNewCall` with a new object. -/
theorem book_createNewCall_some {info : CallDetailInfo} {newCall : Ref}
    (h : w.createNewCall env info = (some newCall, w')) :
    w'.book = w.book.alloc ⟨w.book.callId + 1, info.callType, info.callType⟩ := by
  obtain ⟨-, c, hc, rfl⟩ := createNewCall_eq_some h
  obtain ⟨hentry, hin⟩ := newCall_entry hc
  have hid : c.callId = w.store.callId + 1 := congrArg CallEntry.callId hentry
  rw [book_alloc _ hin hid, hentry]
  rfl

theorem book_createNewCall_none {info : CallDetailInfo}
    (h : w.createNewCall env info = (none, w')) :
    w'.book = { w.book with callId := w.book.callId + 1 } := by
  rw [(createNewCall_eq_none h).2]
  rfl

theorem ok_createNewCall (h : w.book.Ok) (env : StatusEnv) (info : CallDetailInfo) :
    (w.createNewCall env info).2.book.Ok := by
  rcases hnew : w.createNewCall env info with ⟨_ | newCall, w'⟩
  · rw [book_createNewCall_none hnew]
    exact h.setCallId
  · rw [book_createNewCall_some hnew]
    exact h.alloc rfl rfl

theorem book_addOneCallObject (w : StatusWorld) (call : Ref) :
    (w.addOneCallObject ins env call).book =
      { w.book with list := (w.addOneCallObject ins env call).store.callObjectPtrList } := by
  have hid : (w.addOneCallObject ins env call).store.callId = w.store.callId := by
    unfold addOneCallObject
    dsimp only
    split_ifs
    · rfl
    · exact Insertion.addOneCallObject_callId
  simp only [book, hid]
  rfl

theorem ok_addOneCallObject (h : w.book.Ok) (ins : Insertion) (env : StatusEnv) (call : Ref) :
    (w.addOneCallObject ins env call).book.Ok := by
  cases hc : w.heap call with
  | none =>
    rw [addOneCallObject, hc]
    exact h
  | some c =>
    rw [book_addOneCallObject, list_addOneCallObject ins env hc]
    split_ifs with hstored
    · exact h
    · refine h.add (book_calls hc) fun hmem => hstored (.inr ⟨call, hmem, ?_⟩)
      rw [object_eq hc]

/-- The stored calls have distinct ids. -/
theorem distinct_of_ok (h : w.book.Loose) : CallObjectManager.Distinct w.object w.store := by
  refine List.Nodup.map_on (fun r hr r' hr' heq => ?_) h.callsOk.nodup
  obtain ⟨e, he⟩ := h.callsOk.listed r hr
  obtain ⟨e', he'⟩ := h.callsOk.listed r' hr'
  obtain ⟨c, hc, rfl⟩ := calls_eq_some he
  obtain ⟨c', hc', rfl⟩ := calls_eq_some he'
  rw [object_eq hc, object_eq hc'] at heq
  exact h.callsOk.inj r r' c.entry c'.entry he he' heq

theorem book_deleteOneCallObject (h : w.book.Loose) (env : StatusEnv) (callId : ℤ) :
    (w.deleteOneCallObject env callId).book =
      { w.book with list := w.book.list.filter fun it => (w.object it).callId ≠ callId } := by
  simp only [book, deleteOneCallObject,
    CallObjectManager.deleteOneCallObject_filter (distinct_of_ok h),
    CallObjectManager.deleteOneCallObject_callId]

theorem ok_deleteOneCallObject (h : w.book.Ok) (env : StatusEnv) {callId : ℤ}
    (hfree : w.book.Free callId) : (w.deleteOneCallObject env callId).book.Ok := by
  rw [book_deleteOneCallObject h.toLoose]
  refine h.delete hfree (List.filter_sublist) fun r hr e he hne => ?_
  obtain ⟨c, hc, rfl⟩ := calls_eq_some he
  refine List.mem_filter.mpr ⟨hr, ?_⟩
  rw [object_eq hc]
  exact decide_eq_true hne

/-! ## `RefreshCall` -/

theorem takeOver_entry (c n : CallBase) :
    (takeOver c n).entry = { n.entry with callId := c.callId } :=
  CallBase.setTelCallState_entry _ _

theorem takeOver_inConference (c n : CallBase) : (takeOver c n).inConference = n.inConference :=
  CallBase.setTelCallState_inConference _ _

/-- The end of `RefreshCall`. -/
theorem book_takeOver {newCall : Ref} {n : CallBase} (c : CallBase)
    (hn : w.heap newCall = some n) (hin : n.inConference = false) :
    ((w.modify newCall (takeOver c)).destroy call).book =
      w.book.replace newCall call n.entry c.entry := by
  have hmodify := book_modify hn (takeOver c)
  rw [takeOver_entry, takeOver_inConference, hin] at hmodify
  refine ConferenceBook.ext (funext fun r => ?_) rfl rfl rfl (funext fun r => ?_) rfl rfl
  · by_cases hr : r = call
    · simp only [book, hr, destroy_heap_self, Option.map_none, ConferenceBook.replace,
        Function.update_self]
    · have hcalls := congrFun (congrArg ConferenceBook.calls hmodify) r
      simp only [book, destroy_heap_of_ne _ hr, ConferenceBook.replace, Function.update_of_ne hr]
      exact hcalls
  · by_cases hr : r = call
    · simp only [book, hr, destroy_heap_self, Option.any_none, ConferenceBook.replace,
        Function.update_self]
    · have hcalls := congrFun (congrArg ConferenceBook.inConference hmodify) r
      simp only [book, destroy_heap_of_ne _ hr, ConferenceBook.replace, Function.update_of_ne hr]
      exact hcalls

/-- A new object in the place of a call in no conference: stored, deleted under
    the old id, and given that id. -/
theorem ok_exchangeCall (h : w.book.Ok) {info : CallDetailInfo} {newCall : Ref} {n : CallBase}
    (hc : w.heap call = some c) (hn : w.heap newCall = some n) (hid : n.callId ≠ c.callId)
    (htype : n.callType = info.callType) (hfree : w.book.Free c.callId)
    (hfree' : w.book.Free n.callId) (hidle : c.conferenceState = .idle)
    (hnew : ¬ CallObjectManager.Stored w.object w.store n.callId)
    (hcs : c.callType = .ims → info.callType = .cs → info.mpty = 1 →
      ins = .restored ∧ w.csConference.subCallIdSet = ∅) :
    (((w.exchangeCall ins env newCall c info).modify newCall (takeOver c)).destroy call).book.Ok := by
  have hne : newCall ≠ call := by
    rintro rfl
    rw [hc] at hn
    exact hid (congrArg CallBase.callId (Option.some.inj hn).symm)
  -- the new object is stored
  have hok₁ := ok_addOneCallObject h ins env newCall
  have hlist₁ := list_addOneCallObject ins env hn
  have hheap₁ : (w.addOneCallObject ins env newCall).heap = w.heap := rfl
  have hfree₁ : ∀ callId, w.book.Free callId →
      (w.addOneCallObject ins env newCall).book.Free callId :=
    fun _ hfree => hfree
  have hcs₁ : (w.addOneCallObject ins env newCall).csConference = w.csConference := rfl
  unfold exchangeCall
  dsimp only
  rw [hidle]
  generalize w.addOneCallObject ins env newCall = w₁ at hok₁ hlist₁ hheap₁ hfree₁ hcs₁ ⊢
  have hn₁ : w₁.heap newCall = some n := hheap₁ ▸ hn
  have hin₁ : n.inConference = false :=
    (book_inConference hn₁).symm.trans (hok₁.fresh (book_calls hn₁) (hfree₁ _ hfree'))
  -- it takes over the running state and the conference state
  have hbook₂ : (w₁.modify newCall fun n =>
      { n with callRunningState := c.callRunningState, conferenceState := .idle }).book = w₁.book := by
    refine book_modify_eq fun n' hn' => ?_
    rw [hn₁] at hn'
    rw [← Option.some.inj hn', hin₁]
    exact ⟨rfl, CallBase.inConference_idle rfl⟩
  obtain ⟨n₂, hn₂, hid₂, hentry₂, hin₂⟩ : ∃ n₂, (w₁.modify newCall fun n =>
      { n with callRunningState := c.callRunningState, conferenceState := .idle }).heap newCall =
        some n₂ ∧ n₂.callId = n.callId ∧ n₂.entry = n.entry ∧ n₂.inConference = false := by
    rw [modify_heap_self, hn₁]
    exact ⟨_, rfl, rfl, rfl, CallBase.inConference_idle rfl⟩
  have hc₂ : (w₁.modify newCall fun n =>
      { n with callRunningState := c.callRunningState, conferenceState := .idle }).heap call =
        some c := by
    rw [modify_heap_of_ne _ _ hne.symm, hheap₁, hc]
  have hlist₂ : (w₁.modify newCall fun n =>
      { n with callRunningState := c.callRunningState, conferenceState := .idle }
      ).store.callObjectPtrList = w₁.store.callObjectPtrList := rfl
  have hcs₂ : (w₁.modify newCall fun n =>
      { n with callRunningState := c.callRunningState, conferenceState := .idle }
      ).csConference = w₁.csConference := rfl
  generalize (w₁.modify newCall fun n =>
      { n with callRunningState := c.callRunningState, conferenceState := .idle }) = w₂
      at hbook₂ hn₂ hc₂ hlist₂ hcs₂ ⊢
  -- the old object is taken off the list
  have hok₂ : w₂.book.Ok := hbook₂ ▸ hok₁
  have hfree₂ : ∀ callId, w.book.Free callId → w₂.book.Free callId := hbook₂ ▸ hfree₁
  have hok₃ := ok_deleteOneCallObject hok₂ env (hfree₂ _ hfree)
  have hbook₃ := book_deleteOneCallObject hok₂.toLoose env c.callId
  have hnot₃ : call ∉ (w₂.deleteOneCallObject env c.callId).book.list := by
    rw [hbook₃]
    intro hmem
    have hkept := (List.mem_filter.mp hmem).2
    rw [object_eq hc₂] at hkept
    simp at hkept
  -- and its id is given to the new one
  have hfinal : (((w₂.deleteOneCallObject env c.callId).modify newCall (takeOver c)).destroy
      call).book.Ok := by
    have hn₃ : (w₂.deleteOneCallObject env c.callId).heap newCall = some n₂ := hn₂
    rw [book_takeOver c hn₃ hin₂]
    exact hok₃.replace (book_calls hc₂) (book_calls hn₂) hne (hfree₂ _ hfree)
      (by rw [hentry₂]; exact hfree₂ _ hfree') hnot₃
  split_ifs with hims
  · -- the CS conference gets the id
    obtain ⟨hins, hempty⟩ := hcs hims.1 hims.2.1 hims.2.2
    refine hfinal.setCs (hfinal.csOk.updateConferenceId ?_ ?_)
    · show w₂.csConference.subCallIdSet = ∅
      rw [hcs₂, hcs₁, hempty]
    · refine ⟨newCall, ?_, (takeOver c n₂).entry, ?_, ?_, ?_⟩
      · show newCall ∈ (w₂.deleteOneCallObject env c.callId).book.list
        rw [hbook₃]
        refine List.mem_filter.mpr ⟨?_, ?_⟩
        · show newCall ∈ w₂.store.callObjectPtrList
          have hnot : ¬ (ins = .asWritten ∨ CallObjectManager.Stored w.object w.store n.callId) := by
            rintro (heq | hstored)
            · rw [hins] at heq
              cases heq
            · exact hnew hstored
          rw [hlist₂, hlist₁, if_neg hnot]
          exact List.mem_append_right _ (List.mem_singleton_self newCall)
        · rw [object_eq hn₂, hid₂]
          exact decide_eq_true hid
      · refine book_calls ?_
        have hn₃ : (w₂.deleteOneCallObject env c.callId).heap newCall = some n₂ := hn₂
        rw [destroy_heap_of_ne _ hne, modify_heap_self, hn₃, Option.map_some]
      · rw [takeOver_entry]
      · rw [takeOver_entry, hentry₂]
        exact htype.trans hims.2.1
  · exact hfinal

/-- A conversion of a call in no conference. -/
theorem ok_refreshCall_some (h : w.book.Ok) {info : CallDetailInfo} {newCall : Ref}
    (hc : w.heap call = some c) (hnew : w.createNewCall env info = (some newCall, w'))
    (hfree : w.book.Free c.callId) (hidle : c.conferenceState = .idle)
    (hcs : c.callType = .ims → info.callType = .cs → info.mpty = 1 →
      ins = .restored ∧ w.csConference.subCallIdSet = ∅) :
    (((w'.exchangeCall ins env newCall c info).modify newCall (takeOver c)).destroy call).book.Ok := by
  have hok : w'.book.Ok := by
    rw [book_createNewCall_some hnew]
    exact h.alloc rfl rfl
  obtain ⟨rfl, n, hn, rfl⟩ := createNewCall_eq_some hnew
  obtain ⟨hid, -, htype, -⟩ := newCall_some hn
  have hlive := h.callsOk.live call c.entry (book_calls hc)
  have hlt : c.callId < n.callId := by
    have hle : c.callId ≤ w.store.callId := hlive.2
    omega
  have hold : ({ w with store := w.store.getNewCallId.2 }.alloc n).heap call = some c :=
    (alloc_heap_of_ne _ n (Nat.ne_of_lt hlive.1)).trans hc
  have hfresh : w.book.Free n.callId := by
    refine h.free_next ?_
    show w.store.callId < n.callId
    omega
  refine ok_exchangeCall hok hold (alloc_heap_self _ n) (ne_of_gt hlt) htype hfree hfresh hidle
    ?_ hcs
  rintro ⟨r, hr, heq⟩
  obtain ⟨e, he⟩ := h.callsOk.listed r hr
  obtain ⟨d, hd, -⟩ := calls_eq_some he
  have hlive' := h.callsOk.live r d.entry (book_calls hd)
  have hd' : ({ w with store := w.store.getNewCallId.2 }.alloc n).heap r = some d :=
    (alloc_heap_of_ne _ n (Nat.ne_of_lt hlive'.1)).trans hd
  have hle : d.callId ≤ w.store.callId := hlive'.2
  rw [object_eq hd'] at heq
  omega

theorem refreshVideoState_keeps (c : CallBase) (info : CallDetailInfo) :
    (c.refreshVideoState info).callId = c.callId ∧ (c.refreshVideoState info).callType = c.callType ∧
      (c.refreshVideoState info).conferenceState = c.conferenceState := by
  obtain ⟨videoState, h⟩ := c.refreshVideoState_eq info
  rw [h]
  exact ⟨rfl, rfl, rfl⟩

/-- `RefreshCallIfNecessary` of a call in no conference, if it converts it. The
    object it returns is of the reported type, unless that has no class. -/
theorem ok_refreshCallIfNecessary (h : w.book.Ok) (env : StatusEnv) {info : CallDetailInfo}
    (hc : w.heap call = some c) (hok : w.RefreshOk ins call info) :
    (w.refreshCallIfNecessary ins env call info).2.book.Ok ∧
      ∃ c', (w.refreshCallIfNecessary ins env call info).2.heap
          (w.refreshCallIfNecessary ins env call info).1 = some c' ∧
        (c'.callType = info.callType ∨
          info.callType = .errCall ∧ c'.callId = c.callId ∧
            ∀ callId, w.book.Free callId →
              (w.refreshCallIfNecessary ins env call info).2.book.Free callId) := by
  obtain ⟨hid₁, htype₁, hidle₁⟩ := refreshVideoState_keeps c info
  have hbook₁ := book_refreshVideoState w call info
  have hc₁ : (w.modify call fun c => c.refreshVideoState info).heap call =
      some (c.refreshVideoState info) := by
    rw [modify_heap_self, hc, Option.map_some]
  unfold RefreshOk at hok
  rw [object_eq hc] at hok
  unfold refreshCallIfNecessary
  dsimp only
  rw [object_eq hc₁, htype₁]
  have hok₁ : (w.modify call fun c => c.refreshVideoState info).book.Ok := hbook₁ ▸ h
  have hfree₁ : ∀ callId, w.book.Free callId →
      (w.modify call fun c => c.refreshVideoState info).book.Free callId :=
    fun _ hfree => hbook₁ ▸ hfree
  have hcs₁ : (w.modify call fun c => c.refreshVideoState info).csConference = w.csConference := rfl
  generalize (w.modify call fun c => c.refreshVideoState info) = w₁ at hc₁ hok₁ hfree₁ hcs₁ ⊢
  by_cases htype : c.callType = info.callType
  · rw [if_pos htype]
    exact ⟨hok₁, _, hc₁, .inl (htype₁.trans htype)⟩
  · rw [if_neg htype]
    rcases hnew : w₁.createNewCall env info with ⟨_ | newCall, w'⟩
    · -- no class for the type
      obtain ⟨herr, rfl⟩ := createNewCall_eq_none hnew
      rw [refreshCall_none hc₁ hnew]
      have hbook' := book_createNewCall_none hnew
      refine ⟨?_, _, hc₁, .inr ⟨herr, hid₁, fun _ hfree => hfree₁ _ hfree⟩⟩
      rw [hbook']
      exact hok₁.setCallId
    · have herr : info.callType ≠ .errCall := by
        obtain ⟨-, n, hn, -⟩ := createNewCall_eq_some hnew
        intro herr
        rw [CallBase.newCall, if_pos herr] at hn
        cases hn
      obtain ⟨⟨hfree, hidle⟩, hcs⟩ := hok htype herr
      rw [object_eq hc] at hfree hidle
      rw [refreshCall_some hc₁ hnew]
      refine ⟨ok_refreshCall_some hok₁ hc₁ hnew (hid₁ ▸ hfree₁ _ hfree) (hidle₁.trans hidle) ?_, ?_⟩
      · rw [htype₁, hcs₁]
        exact hcs
      · have hne : newCall ≠ call := by
          rw [(createNewCall_some hnew).1]
          exact (Nat.ne_of_lt (hok₁.callsOk.live call _ (book_calls hc₁)).1).symm
        obtain ⟨n, hn, hheap⟩ := refreshCall_heap_new ins hc₁ hnew hne
        rw [refreshCall_some hc₁ hnew] at hheap
        refine ⟨_, hheap, .inl ?_⟩
        exact (congrArg CallEntry.callType (takeOver_entry _ _)).trans (newCall_some hn).2.2.1

theorem adopt_entry (c : CallBase) (info : CallDetailInfo) (oriNum : String) :
    (c.adopt info oriNum).entry = { c.entry with callType := info.callType } := by
  unfold CallBase.adopt CallBase.entry
  dsimp only
  split_ifs <;> simp [CallBase.setTelCallState_objectType]

theorem adopt_conferenceState (c : CallBase) (info : CallDetailInfo) (oriNum : String) :
    (c.adopt info oriNum).conferenceState = .idle ↔ c.conferenceState = .idle := by
  unfold CallBase.adopt
  dsimp only
  split_ifs <;> exact CallBase.setTelCallState_conferenceState _ _

/-- What `UpdateDialingCallInfo` writes to the pending call. -/
theorem ok_adopt (h : w.book.Ok) (hc : w.heap call = some c) {info : CallDetailInfo}
    (hok : c.callType = info.callType ∨ info.callType = .errCall ∧ w.book.Free c.callId)
    (oriNum : String) : (w.modify call fun c => c.adopt info oriNum).book.Ok := by
  by_cases htype : c.callType = info.callType
  · have hbook : (w.modify call fun c => c.adopt info oriNum).book = w.book := by
      refine book_modify_eq fun c' hc' => ?_
      rw [hc] at hc'
      obtain rfl := Option.some.inj hc'
      refine ⟨?_, CallBase.inConference_congr ?_ (adopt_conferenceState c info oriNum)⟩
      · rw [adopt_entry, ← htype]
        rfl
      · exact (congrArg CallEntry.callType (adopt_entry c info oriNum)).trans htype.symm
    rw [hbook]
    exact h
  · obtain ⟨herr, hfree⟩ := hok.resolve_left htype
    have hin : (c.adopt info oriNum).inConference = false := by
      refine CallBase.inConference_of_not_carrier ?_
      have htype' : (c.adopt info oriNum).callType = info.callType :=
        congrArg CallEntry.callType (adopt_entry c info oriNum)
      rw [htype', herr]
      decide
    rw [book_modify hc, hin, adopt_entry, herr]
    exact h.void (book_calls hc) hfree

/-- A stored call has an object. -/
theorem heap_of_mem (h : w.book.Loose) (hmem : call ∈ w.store.callObjectPtrList) :
    ∃ c, w.heap call = some c := by
  obtain ⟨e, he⟩ := h.callsOk.listed call hmem
  obtain ⟨c, hc, -⟩ := calls_eq_some he
  exact ⟨c, hc⟩

theorem ok_updateDialingCallInfo (h : w.book.Ok) (env : StatusEnv) {info : CallDetailInfo}
    (hok : w.DialingOk ins info) : (w.updateDialingCallInfo ins env info).2.book.Ok := by
  unfold updateDialingCallInfo
  unfold DialingOk at hok
  split
  · rename_i call hkey
    rw [hkey] at hok
    obtain ⟨c, hc⟩ := heap_of_mem h.toLoose (List.mem_of_find?_eq_some hkey)
    exact (ok_refreshCallIfNecessary h env hc hok).1
  · rename_i hkey
    rw [hkey] at hok
    split
    · exact h
    · rename_i call hpending
      rw [hpending] at hok
      obtain ⟨hrefresh, hfree⟩ := hok
      obtain ⟨c, hc⟩ := heap_of_mem h.toLoose (List.mem_of_find?_eq_some hpending)
      rw [object_eq hc] at hfree
      obtain ⟨hok', c', hc', htype⟩ := ok_refreshCallIfNecessary h env hc hrefresh
      dsimp only
      rw [book_clearPendingState]
      refine ok_adopt hok' hc' (htype.imp_right ?_) _
      rintro ⟨herr, hid, hkeep⟩
      exact ⟨herr, hid ▸ hkeep _ (hfree herr)⟩

theorem book_setPhoneOrWatchDial (w : StatusWorld) (call : Ref) (phoneOrWatch : ℤ) :
    (w.setPhoneOrWatchDial call phoneOrWatch).book = w.book :=
  book_modify_eq fun _ _ => ⟨rfl, rfl⟩

theorem ok_btCallDialingHandleFirst (h : w.book.Ok) (env : StatusEnv) (call : Ref)
    {info : CallDetailInfo}
    (hok : info.state = .alerting →
      (w.setPhoneOrWatchDial call CallObjectManager.watchDial).DialingOk ins info) :
    (w.btCallDialingHandleFirst ins env call info).book.Ok := by
  have hdial := book_setPhoneOrWatchDial w call CallObjectManager.watchDial
  unfold btCallDialingHandleFirst
  split_ifs with hnone hstate
  · exact h
  · have hupdate := ok_updateDialingCallInfo (hdial ▸ h) env (hok hstate)
    dsimp only
    split_ifs
    · rw [book_setTelCallState]
      exact hupdate
    · exact hupdate
  · dsimp only
    rw [hdial]
    exact h

/-! ## Conferences -/

/-- The class of an object that is there. -/
theorem exists_of_class (h : (w.object call).objectType ≠ .cs) : ∃ c, w.heap call = some c := by
  cases hc : w.heap call with
  | some c => exact ⟨c, rfl⟩
  | none =>
    rw [object, hc] at h
    exact absurd rfl h

/-- A call that is no member is in no conference by its own state. -/
theorem not_inConference (h : w.book.Loose) (hc : w.heap call = some c)
    (hmem : c.callId ∉ w.imsConference.subCallIdSet) : c.inConference = false := by
  rw [← book_inConference hc]
  exact h.not_inConference (book_calls hc) hmem

/-- A member of the IMS conference is of class IMS. -/
theorem class_of_member (h : w.book.Loose) (hc : w.heap call = some c)
    (hmem : c.callId ∈ w.imsConference.subCallIdSet) : c.callType = .ims ∧ c.objectType = .ims :=
  (h.ims_of_member (book_calls hc) hmem).2

/-- An OTT call is in no conference that is looked at. -/
theorem not_inConference_ott (h : w.book.Loose) (hc : w.heap call = some c)
    (hott : c.objectType = .ott) (state : TelConferenceState) :
    { c with conferenceState := state }.inConference = false := by
  refine CallBase.inConference_of_not_carrier ?_
  rcases h.callsOk.typed call c.entry (book_calls hc) with htype | htype
  · have htype' : c.callType = .ott := Eq.trans htype hott
    rw [htype']
    decide
  · have htype' : c.callType = .errCall := htype
    rw [htype']
    decide

/-- The end of the conference functions of a call, for a call that is in no
    conference that is looked at, before and after. -/
theorem ok_conference (h : w.book.Ok) {state : TelConferenceState} (ret : ErrorCode)
    (hstate : ∀ c, w.heap call = some c → c.inConference = false ∧
      { c with conferenceState := state }.inConference = false) :
    (if ret = .telephonySuccess then w.setTelConferenceState call state else w).book.Ok := by
  split_ifs
  · rw [book_setTelConferenceState_eq hstate]
    exact h
  · exact h

/-- No CS call is in a conference by its own state. -/
theorem not_inConference_cs (h : w.book.Loose) (hc : w.heap call = some c)
    (hcs : c.objectType = .cs) : c.inConference = false := by
  refine not_inConference h hc fun hmem => ?_
  rw [(class_of_member h hc hmem).2] at hcs
  cases hcs

/-- `ExitConference` of the object's class. -/
theorem ok_exitConference (h : w.book.Ok) (env : StatusEnv) (call : Ref) :
    (w.exitConference env call).2.book.Ok := by
  unfold exitConference
  dsimp only
  cases hclass : (w.object call).objectType with
  | cs =>
    dsimp only
    refine ok_conference ?_ _ fun c hc => ⟨?_, CallBase.inConference_idle rfl⟩
    · exact h.setCs (h.csOk.leave _ _)
    · have hc' : w.heap call = some c := hc
      exact not_inConference_cs h.toLoose hc' (object_eq hc' ▸ hclass)
  | ims =>
    obtain ⟨c, hc⟩ : ∃ c, w.heap call = some c := exists_of_class (by rw [hclass]; decide)
    rw [object_eq hc]
    dsimp only
    by_cases hmem : c.callId ∈ w.imsConference.subCallIdSet
    · have hleave := h.leave (book_calls hc) hmem env.junk
      have hret : (ImsConference.leaveFromConference env.junk w.imsConference c.callId).1 =
          .telephonySuccess := by
        rw [ImsConference.leaveFromConference, Conference.leaveFromConference, if_pos hmem]
      rw [if_pos hret]
      have hheap : ({ w with imsConference := (ImsConference.leaveFromConference env.junk
          w.imsConference c.callId).2 } : StatusWorld).heap call = some c := hc
      rw [book_setTelConferenceState hheap, CallBase.inConference_idle rfl]
      exact hleave
    · have hret : ImsConference.leaveFromConference env.junk w.imsConference c.callId =
          (.callErrConferenceSeperateFailed, w.imsConference) := by
        rw [ImsConference.leaveFromConference, Conference.leaveFromConference, if_neg hmem]
      rw [hret]
      exact h
  | ott =>
    dsimp only
    refine ok_conference ?_ _ fun c hc => ?_
    · exact h
    · have hc' : w.heap call = some c := hc
      have hott := object_eq hc' ▸ hclass
      exact ⟨not_inConference_ott h.toLoose hc' hott c.conferenceState,
        not_inConference_ott h.toLoose hc' hott .idle⟩
  | satellite | voip | bluetooth | errCall => exact h

/-- A member puts the conference on hold, or it is on hold already. -/
theorem holdConference_member {conference : Conference} {callId : ℤ}
    (hmem : callId ∈ conference.subCallIdSet)
    (hstates : conference.state ≠ .idle ∧ conference.oldState ≠ .idle) :
    ∃ conference', ImsConference.holdConference conference callId = (.telephonySuccess, conference') ∧
      conference'.subCallIdSet = conference.subCallIdSet ∧
      conference'.mainCallId = conference.mainCallId ∧
      conference'.state ≠ .idle ∧ conference'.oldState ≠ .idle := by
  unfold ImsConference.holdConference Conference.holdConference
  by_cases hholding : conference.state = .holding
  · rw [if_pos hholding]
    exact ⟨conference, rfl, rfl, rfl, hstates⟩
  · rw [if_neg hholding, if_neg (not_not_intro hmem), if_neg (Finset.ne_empty_of_mem hmem)]
    exact ⟨_, rfl, rfl, rfl, by simp⟩

/-- `HoldConference` of the object's class. -/
theorem ok_holdConference (h : w.book.Ok) (hok : w.HoldOk call) :
    (w.holdConference call).2.book.Ok := by
  unfold holdConference
  unfold HoldOk at hok
  dsimp only
  cases hclass : (w.object call).objectType with
  | cs =>
    rw [hclass] at hok
    have hret : CsConference.holdConference w.csConference (w.object call).callId =
        (.callErrConferenceSeperateFailed, w.csConference) := h.csOk.hold hok
    dsimp only
    rw [hret]
    exact h
  | ims =>
    rw [hclass] at hok
    obtain ⟨c, hc⟩ : ∃ c, w.heap call = some c := exists_of_class (by rw [hclass]; decide)
    rw [object_eq hc] at hok ⊢
    dsimp only at hok ⊢
    by_cases hmem : c.callId ∈ w.imsConference.subCallIdSet
    · obtain ⟨conference, hret, hset, hmain, hstate⟩ := holdConference_member hmem
        (h.states ⟨_, hmem⟩)
      have hhold := h.hold (book_calls hc) hmem hset hmain hstate
      have hheap : ({ w with imsConference := conference } : StatusWorld).heap call = some c := hc
      have htype := (class_of_member h.toLoose hc hmem).1
      have hin : { c with conferenceState := .holding }.inConference = true := by
        simp [CallBase.inConference, htype, carrierTypes]
      rw [hret, if_pos rfl, book_setTelConferenceState hheap, hin]
      exact hhold
    · have hret : ImsConference.holdConference w.imsConference c.callId =
          (.callErrConferenceSeperateFailed, w.imsConference) := by
        rw [ImsConference.holdConference, Conference.holdConference,
          if_neg fun hholding => hmem (hok hholding), if_pos hmem]
      rw [hret]
      exact h
  | ott =>
    dsimp only
    refine ok_conference ?_ _ fun c hc => ?_
    · exact h
    · have hc' : w.heap call = some c := hc
      have hott := object_eq hc' ▸ hclass
      exact ⟨not_inConference_ott h.toLoose hc' hott c.conferenceState,
        not_inConference_ott h.toLoose hc' hott .holding⟩
  | satellite | voip | bluetooth | errCall => exact h

/-- The last conference call of a slot, if it is the main call or no member. -/
theorem ok_endConferenceOfOne (h : w.book.Ok) {slotId : ℤ}
    (hok : ∀ left, w.getConferenceCallList slotId = [left] →
      (w.object left).callId ∈ w.imsConference.subCallIdSet →
        (w.object left).callId = w.imsConference.mainCallId) :
    (w.endConferenceOfOne slotId).book.Ok := by
  unfold endConferenceOfOne
  split
  · rename_i left hlist
    have hmain := hok left hlist
    dsimp only
    split_ifs
    · rw [book_updateCallState]
      cases hc : w.heap left with
      | none =>
        rw [setTelConferenceState, modify_none hc]
        exact h
      | some c =>
        rw [object_eq hc] at hmain
        rw [book_setTelConferenceState hc, CallBase.inConference_idle rfl]
        exact h.mainIdle (book_calls hc) hmain
    · exact h
  · exact h

/-- A stored call is found under its id. -/
theorem getOneCallObject_iff (h : w.book.Loose) {callId : ℤ} :
    w.getOneCallObject callId = some call ↔
      call ∈ w.store.callObjectPtrList ∧ (w.object call).callId = callId :=
  CallObjectManager.getOneCallObject_eq_some (distinct_of_ok h)

theorem holds_of_mem (hmem : call ∈ w.store.callObjectPtrList) (hc : w.heap call = some c) :
    w.book.Holds c.callId c.callType :=
  ⟨call, hmem, c.entry, book_calls hc, rfl, rfl⟩

/-! ### `SetConferenceCall` -/

/-- A join that the conference does not refuse. -/
theorem joinToConference_of_not_idle {conference : Conference} (callId : ℤ)
    (h : conference.state ≠ .idle) :
    ImsConference.joinToConference conference callId =
      (.telephonySuccess,
        { conference with
          subCallIdSet := insert callId conference.subCallIdSet
          state := .active
          oldState := .active }) := by
  unfold ImsConference.joinToConference Conference.joinToConference
  refine if_neg (not_not_intro ?_)
  cases hstate : conference.state with
  | idle => exact absurd hstate h
  | creating | holding | active | leaving => decide

theorem joinToConference_of_idle {conference : Conference} (callId : ℤ)
    (h : conference.state = .idle) :
    ImsConference.joinToConference conference callId =
      (.callErrIllegalCallOperation, conference) := by
  unfold ImsConference.joinToConference Conference.joinToConference
  rw [h]
  exact if_pos (by decide)

/-- Nothing is recorded of a call that joins no conference. -/
theorem joined_same (h : w.book.Loose) (hc : w.heap call = some c)
    (hnot : c.objectType = .ims → w.imsConference.state = .idle) (hbook : w'.book = w.book) :
    w.book.Joined w'.book [call] := by
  rw [hbook]
  refine ConferenceBook.Joined.other h h.csOk fun e he hims => ?_
  rw [book_calls hc] at he
  obtain rfl := Option.some.inj he
  exact hnot hims

theorem heap_setTelConferenceState (hc : w.heap call = some c) (state : TelConferenceState) :
    (w.setTelConferenceState call state).heap call = some { c with conferenceState := state } := by
  rw [setTelConferenceState, modify_heap_self, hc, Option.map_some]

/-- To set a call to IDLE changes nothing for one that is in no conference. -/
theorem book_setIdle (h : w.book.Loose) (hc : w.heap call = some c)
    (hnot : c.callId ∉ w.imsConference.subCallIdSet) :
    (w.setTelConferenceState call .idle).book = w.book := by
  refine book_setTelConferenceState_eq fun c' hc' => ⟨?_, CallBase.inConference_idle rfl⟩
  rw [hc] at hc'
  obtain rfl := Option.some.inj hc'
  exact not_inConference h hc hnot

/-- An IMS call that has joined is in the conference, and the conference has changed. -/
theorem book_joined_ims (hc : w.heap call = some c) (htype : c.callType = .ims)
    (conference : Conference) :
    (({ w.setTelConferenceState call .idle with imsConference := conference } :
      StatusWorld).setTelConferenceState call .active).book =
      w.book.setIms conference (Function.update w.book.inConference call true) := by
  have hheap : ({ w.setTelConferenceState call .idle with imsConference := conference } :
      StatusWorld).heap call = some { c with conferenceState := .idle } :=
    heap_setTelConferenceState hc .idle
  have hin : { { c with conferenceState := .idle } with conferenceState := .active
      }.inConference = true := by
    simp [CallBase.inConference, htype, carrierTypes]
  have hidle : ({ w.setTelConferenceState call .idle with imsConference := conference } :
      StatusWorld).book = (w.setTelConferenceState call .idle).book.setIms conference
        (w.setTelConferenceState call .idle).book.inConference := rfl
  rw [book_setTelConferenceState hheap, hin, hidle, book_setTelConferenceState hc]
  simp only [ConferenceBook.setIms, Function.update_idem]

/-- Nothing is recorded of an OTT call that has joined. -/
theorem book_joined_ott (h : w.book.Loose) (hc : w.heap call = some c)
    (hobject : c.objectType = .ott) (hnot : c.callId ∉ w.imsConference.subCallIdSet)
    (ottConference : Conference) :
    (({ w.setTelConferenceState call .idle with ottConference := ottConference } :
      StatusWorld).setTelConferenceState call .active).book = w.book := by
  have hott := not_inConference_ott h hc hobject
  refine (book_setTelConferenceState_eq fun c' hc' => ?_).trans (book_setIdle h hc hnot)
  have hheap : (w.setTelConferenceState call .idle).heap call = some c' := hc'
  rw [heap_setTelConferenceState hc] at hheap
  rw [← Option.some.inj hheap]
  exact ⟨hott .idle, hott .active⟩

/-- A conference call is set to IDLE and joins the conference of its class. -/
theorem joined_launch (h : w.book.Loose) (hc : w.heap call = some c)
    (hmem : call ∈ w.store.callObjectPtrList)
    (htype : c.objectType = .ims → w.imsConference.state ≠ .idle → c.callType = .ims) :
    w.book.Joined ((w.setTelConferenceState call .idle).launchConference call).2.book [call] := by
  have hfree : c.objectType ≠ .ims → c.callId ∉ w.imsConference.subCallIdSet :=
    fun hne hin => hne (class_of_member h hc hin).2
  unfold launchConference
  rw [object_eq (heap_setTelConferenceState hc .idle)]
  dsimp only
  cases hobject : c.objectType with
  | cs =>
    have hnot : c.objectType ≠ .ims := by rw [hobject]; decide
    have hcs : (w.setTelConferenceState call .idle).csConference = w.csConference := rfl
    dsimp only
    rw [hcs, ConferenceBook.join_idle w.csConference c.callId]
    have hother : w.book.Joined { w.book with cs := w.csConference.setConferenceState .idle }
        [call] := by
      refine ConferenceBook.Joined.other h (h.csOk.setConferenceState (by decide)) fun e he hims => ?_
      rw [book_calls hc] at he
      obtain rfl := Option.some.inj he
      exact absurd hims hnot
    have hbook : ({ w.setTelConferenceState call .idle with
        csConference := w.csConference.setConferenceState .idle } : StatusWorld).book =
        { w.book with cs := w.csConference.setConferenceState .idle } := by
      rw [← book_setIdle h hc (hfree hnot)]
      rfl
    rw [← hbook] at hother
    exact hother
  | ims =>
    have hims : (w.setTelConferenceState call .idle).imsConference = w.imsConference := rfl
    dsimp only
    rw [hims]
    by_cases hidle : w.imsConference.state = .idle
    · rw [joinToConference_of_idle _ hidle]
      refine joined_same h hc (fun _ => hidle) (book_setIdle h hc fun hin => ?_)
      exact (h.states ⟨_, hin⟩).1 hidle
    · rw [joinToConference_of_not_idle _ hidle, if_pos rfl]
      have hjoined := ConferenceBook.Joined.ims h (book_calls hc) hmem (htype hobject hidle) hidle
        hobject
      rw [book_joined_ims hc (htype hobject hidle)]
      exact hjoined
  | ott =>
    have hnot : c.objectType ≠ .ims := by rw [hobject]; decide
    refine joined_same h hc (fun hims => absurd hims hnot) ?_
    dsimp only
    split_ifs
    · exact book_joined_ott h hc hobject (hfree hnot) _
    · exact book_setIdle h hc (hfree hnot)
  | satellite | voip | bluetooth | errCall =>
    refine joined_same h hc (fun hims => ?_) (book_setIdle h hc (hfree ?_))
    · rw [hobject] at hims
      cases hims
    · rw [hobject]
      decide

/-- `SetConferenceCall` on a list of stored calls. -/
theorem joined_setConferenceCall (h : w.book.Loose) {list : List Ref}
    (hmem : ∀ call ∈ list, call ∈ w.store.callObjectPtrList)
    (htype : ∀ call ∈ list, ∀ e, w.book.calls call = some e → e.objectType = .ims →
      w.book.ims.state ≠ .idle → e.callType = .ims) :
    w.book.Joined (list.foldl (fun w conferenceCall =>
      let w := w.setTelConferenceState conferenceCall .idle
      let w := (w.launchConference conferenceCall).2
      w.updateCallState conferenceCall (w.object conferenceCall).callState) w).book list := by
  induction list generalizing w with
  | nil => exact ConferenceBook.Joined.nil h
  | cons call list ih =>
    rw [List.foldl_cons]
    obtain ⟨c, hc⟩ := heap_of_mem h (hmem call List.mem_cons_self)
    have hfirst := joined_launch h hc (hmem call List.mem_cons_self) fun hims hstate =>
      htype call List.mem_cons_self c.entry (book_calls hc) hims hstate
    have hupdate := book_updateCallState ((w.setTelConferenceState call .idle).launchConference call).2
      call (((w.setTelConferenceState call .idle).launchConference call).2.object call).callState
    rw [← hupdate] at hfirst
    refine hfirst.cons (ih hfirst.loose (fun r hr => ?_) fun r hr e he hims hstate => ?_)
    · have hin : r ∈ w.book.list := hmem r (List.mem_cons_of_mem _ hr)
      rw [← hfirst.stored] at hin
      exact hin
    · rw [hfirst.calls] at he
      refine htype r (List.mem_cons_of_mem _ hr) e he hims fun hidle => hstate ?_
      exact hfirst.state.mpr hidle

/-- The conference calls of a slot are stored. -/
theorem mem_of_getConferenceCallList {slotId : ℤ} (h : call ∈ w.getConferenceCallList slotId) :
    call ∈ w.store.callObjectPtrList := by
  unfold getConferenceCallList at h
  split_ifs at h
  · cases h
  · obtain ⟨it, -, hit⟩ := List.mem_filterMap.mp h
    split_ifs at hit
    exact List.mem_of_find?_eq_some hit

theorem ok_setConferenceCall (h : w.book.Ok) {slotId : ℤ}
    (hok : w.JoinOk (w.getConferenceCallList slotId)) : (w.setConferenceCall slotId).book.Ok := by
  have hjoin : ∀ r ∈ w.getConferenceCallList slotId, ∀ e, w.book.calls r = some e →
      e.objectType = .ims → w.book.ims.state ≠ .idle → e.callType = .ims ∧
        (w.book.ims.mainCallId ∈ w.book.ims.subCallIdSet ∨
          ∃ other ∈ w.getConferenceCallList slotId, ∃ e', w.book.calls other = some e' ∧
            e'.objectType = .ims ∧ e'.callId = w.book.ims.mainCallId) := by
    intro r hr e he hims hstate
    obtain ⟨c, hc, rfl⟩ := calls_eq_some he
    obtain ⟨htype, hmain⟩ := hok r hr (by rw [object_eq hc]; exact hims) hstate
    rw [object_eq hc] at htype
    refine ⟨htype, hmain.imp_right ?_⟩
    rintro ⟨other, hother, hims', hid⟩
    obtain ⟨c', hc'⟩ := heap_of_mem h.toLoose (mem_of_getConferenceCallList hother)
    rw [object_eq hc'] at hims' hid
    exact ⟨other, hother, c'.entry, book_calls hc', hims', hid⟩
  have hjoined := joined_setConferenceCall h.toLoose
    (fun r hr => mem_of_getConferenceCallList hr)
    (fun r hr e he hims hstate => (hjoin r hr e he hims hstate).1)
  exact hjoined.ok h fun r hr e he hims hstate => (hjoin r hr e he hims hstate).2

/-! ## Actions -/

/-- The step lemma for actions. -/
theorem ok_statusAction (h : w.book.Ok) {a : StatusAction} (hkeeps : a.Keeps)
    (hok : ActionInStep ins w a) :
    (statusAction ins env w a).book.Ok := by
  cases a with
  | createNewCall info => exact ok_createNewCall h env info
  | addOneCallObject call => exact ok_addOneCallObject h ins env call
  | deleteOneCallObject callId => exact hkeeps.elim
  | setTelCallState call nextState =>
    show (w.setTelCallState call nextState).book.Ok
    rw [book_setTelCallState]
    exact h
  | updateCallState call nextState =>
    show (w.updateCallState call nextState).book.Ok
    rw [book_updateCallState]
    exact h
  | refreshCallIfNecessary call info =>
    show (w.refreshCallIfNecessary ins env call info).2.book.Ok
    cases hc : w.heap call with
    | some c => exact (ok_refreshCallIfNecessary h env hc hok).1
    | none =>
      unfold refreshCallIfNecessary
      rw [modify_none hc]
      dsimp only
      split_ifs
      · exact h
      · rw [refreshCall, hc]
        exact h
  | updateDialingCallInfo info => exact ok_updateDialingCallInfo h env hok
  | btCallDialingHandleFirst call info => exact ok_btCallDialingHandleFirst h env call hok
  | setPhoneOrWatchDial call phoneOrWatch => exact ok_modify h fun _ _ => ⟨rfl, rfl⟩
  | dialingProcess call =>
    refine ok_modify h fun c _ => ?_
    split_ifs <;> exact ⟨rfl, rfl⟩
  | incomingCallBase call => exact ok_modify h fun _ _ => ⟨rfl, rfl⟩
  | setNonVirtualCall call isNonVirtualCall => exact ok_modify h fun _ _ => ⟨rfl, rfl⟩
  | clearPendingState call =>
    show (w.clearPendingState call).book.Ok
    rw [book_clearPendingState]
    exact h
  | setPendingMo callId => exact h
  | clearPendingHangup => exact h
  | clearNeedWaitHold => exact h
  | setConferenceCall slotId => exact ok_setConferenceCall h hok
  | exitConference call => exact ok_exitConference h env call
  | holdConference call => exact ok_holdConference h hok
  | endConferenceOfOne slotId => exact hkeeps.elim

end StatusWorld

end CallManager
