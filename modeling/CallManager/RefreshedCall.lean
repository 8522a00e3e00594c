import CallManager.CallStatusManager
import Mathlib.Data.List.Perm.Basic

/-!
# What a refreshed call keeps

When a report gives a call another type, `RefreshCall` makes a new object of the
new type, copies the states, the times and the settings of the old one to it,
exchanges the two in the store, and gives the new object the old id. Last it
calls `SetTelCallState` with the old state.

That last call is not a copy. Unless the report has the state that the call is
in, it does what is done when a call comes into the state: it writes the running
state and the conference state, and it writes the times anew. A call that is
ringing when it is refreshed by the report that it is active starts to ring now.

The status model has the store, the ids and the states; here every object has
the times and settings that are copied as well, its `CallHistory`. The direction,
the number's location and mark, and the IMS domain are left out.

Results:
* `refreshCall_status`, `refreshCall_fst`: without the histories, this is
  `RefreshCall` of the status model.
* `refreshed_iff`: the store, the identity and the history are kept iff the new id
  is new to the store and either the report has the call's own state or coming
  into that state once more changes nothing.
* `ringing_call_rings_anew`: a ringing IMS call that becomes an active CS call
  loses the time at which it began to ring.
-/

namespace CallManager

/-- `CallAnswerType` (call_manager_base.h:413-438). -/
inductive CallAnswerType
  | missed | actived | reject | blocked | answeredElsewhere | disconnectedByRemote
  deriving DecidableEq, Repr

/-- The times and settings of a `CallBase` that `RefreshCall` copies (call_base.h:179-240). -/
@[ext] structure CallHistory where
  startTime : ℤ
  policyFlag : BitVec 64
  isSpeakerphoneOn : Bool
  callBeginTime : ℤ
  callCreateTime : ℤ
  callEndTime : ℤ
  ringBeginTime : ℤ
  ringEndTime : ℤ
  answerType : CallAnswerType
  isMuted : Bool
  deriving DecidableEq, Repr

/-- `time(nullptr)` and, in milliseconds, `gettimeofday`. -/
structure Clock where
  time : ℤ
  timeMillis : ℤ
  deriving DecidableEq, Repr

namespace CallHistory

/-- What the constructors write (call_base.cpp:33-73). -/
def zero : CallHistory where
  startTime := 0
  policyFlag := 0
  isSpeakerphoneOn := false
  callBeginTime := 0
  callCreateTime := 0
  callEndTime := 0
  ringBeginTime := 0
  ringEndTime := 0
  answerType := .missed
  isMuted := false

/-- A new object, with `SetCallParams`, which gives a VoIP call no creation time
    (call_status_manager.cpp:2029-2070). -/
def created (clock : Clock) (info : CallDetailInfo) : CallHistory :=
  { zero with callCreateTime := if info.callType = .voip then 0 else max clock.time 0 }

/-- The part of `GetCallAttributeBaseInfo` that `RefreshCall` copies from
    (call_base.cpp:174-240): nothing is filled in if the number is too long. -/
def getCallAttributeBaseInfo (c : CallBase) (h : CallHistory) : CallHistory :=
  if maxNumberLen < c.accountNumber.utf8ByteSize then zero else h

/-- What the `StateChangesTo…` functions do to the times (call_base.cpp:295-364). -/
def stateChangesTo (clock : Clock) (c : CallBase) (h : CallHistory) : TelCallState → CallHistory
  | .incoming | .waiting | .alerting => { h with ringBeginTime := clock.time }
  | .active =>
    if h.callBeginTime = 0 then
      { h with
        callBeginTime := clock.time
        ringEndTime := clock.time
        startTime := if c.callType = .voip then clock.timeMillis else clock.time
        answerType := .actived }
    else h
  | .disconnected =>
    { h with
      callEndTime := clock.time
      ringEndTime := if h.ringEndTime = 0 then clock.time else h.ringEndTime }
  | .disconnecting =>
    { h with ringEndTime := if h.ringEndTime = 0 then clock.time else h.ringEndTime }
  | .dialing | .holding | .unknown | .idle | .answered => h

/-- What `SetTelCallState` does to the times of the object with the fields `c`
    (call_base.cpp:252-293). -/
def setTelCallState (clock : Clock) (c : CallBase) (h : CallHistory) (nextState : TelCallState) :
    CallHistory :=
  if c.callRunningState ≠ .create ∧ c.callState = nextState ∧ nextState ≠ .dialing then h
  else h.stateChangesTo clock c nextState

/-- What `RefreshCall` writes to the new object, from the attributes of the old one and from the
    old object itself (call_status_manager.cpp:1897-1907). -/
def copy (attrInfo old h : CallHistory) : CallHistory where
  startTime := attrInfo.startTime
  policyFlag := h.policyFlag ||| old.policyFlag
  isSpeakerphoneOn := old.isSpeakerphoneOn
  callBeginTime := attrInfo.callBeginTime
  callCreateTime := attrInfo.callCreateTime
  callEndTime := attrInfo.callEndTime
  ringBeginTime := attrInfo.ringBeginTime
  ringEndTime := attrInfo.ringEndTime
  answerType := attrInfo.answerType
  isMuted := old.isMuted

/-- The attributes of a call whose number fits are those of the call, and a new
    object has no policy flag: the copy is the history of the old object. -/
theorem copy_created {c : CallBase} (hfits : c.accountNumber.utf8ByteSize ≤ maxNumberLen)
    (clock : Clock) (info : CallDetailInfo) (old : CallHistory) :
    copy (old.getCallAttributeBaseInfo c) old (created clock info) = old := by
  have hattr : old.getCallAttributeBaseInfo c = old := if_neg (by omega)
  have hflag : (created clock info).policyFlag = 0#64 := rfl
  rw [hattr, copy, hflag, BitVec.zero_or]

end CallHistory

/-! ## The objects with their histories -/

/-- The state of the service, and the history of each object. -/
structure RefreshWorld where
  status : StatusWorld
  history : Ref → CallHistory

namespace RefreshWorld

/-- `SetTelCallState`. -/
def setTelCallState (clock : Clock) (w : RefreshWorld) (call : Ref) (nextState : TelCallState) :
    RefreshWorld where
  status := w.status.setTelCallState call nextState
  history := Function.update w.history call
    ((w.history call).setTelCallState clock (w.status.object call) nextState)

/-- `RefreshCall` (call_status_manager.cpp:1884-1925). The setters between `AddOneCallObject`
    and `DeleteOneCallObject` that are not in `exchangeCall` write the history only. -/
def refreshCall (ins : Insertion) (env : StatusEnv) (clock : Clock) (w : RefreshWorld) (call : Ref)
    (info : CallDetailInfo) : Ref × RefreshWorld :=
  match w.status.heap call with
  | none => (call, w)
  | some c =>
    let priorState := c.callState
    let attrInfo := (w.history call).getCallAttributeBaseInfo c
    match w.status.createNewCall env info with
    | (none, status) => (call, { w with status := status })
    | (some newCall, status) =>
      let newHistory := CallHistory.copy attrInfo (w.history call) (CallHistory.created clock info)
      let w : RefreshWorld :=
        { status := status.exchangeCall ins env newCall c info
          history := Function.update w.history newCall newHistory }
      let w := { w with status := w.status.modify newCall fun n => { n with callId := c.callId } }
      let w := w.setTelCallState clock newCall priorState
      (newCall, { w with status := w.status.destroy call })

/-- Without the histories, this is `RefreshCall` of the status model. -/
theorem refreshCall_status (ins : Insertion) (env : StatusEnv) (clock : Clock) (w : RefreshWorld)
    (call : Ref) (info : CallDetailInfo) :
    (w.refreshCall ins env clock call info).2.status =
      (w.status.refreshCall ins env call info).2 := by
  unfold refreshCall StatusWorld.refreshCall
  cases w.status.heap call with
  | none => rfl
  | some c =>
    dsimp only
    rcases w.status.createNewCall env info with ⟨_ | newCall, status⟩ <;> rfl

theorem refreshCall_fst (ins : Insertion) (env : StatusEnv) (clock : Clock) (w : RefreshWorld)
    (call : Ref) (info : CallDetailInfo) :
    (w.refreshCall ins env clock call info).1 = (w.status.refreshCall ins env call info).1 := by
  unfold refreshCall StatusWorld.refreshCall
  cases w.status.heap call with
  | none => rfl
  | some c =>
    dsimp only
    rcases w.status.createNewCall env info with ⟨_ | newCall, status⟩ <;> rfl

/-! ## Specification -/

/-- The ids of the stored calls, in their order. -/
def ids (w : RefreshWorld) : List ℤ :=
  w.status.store.callObjectPtrList.map fun it => (w.status.object it).callId

/-- A store with distinct ids: what is stored is in the heap, and its number fits
    into the `phoneNum` of a report. -/
structure Sound (w : RefreshWorld) : Prop where
  distinct : CallObjectManager.Distinct w.status.object w.status.store
  live : ∀ call ∈ w.status.store.callObjectPtrList, call < w.status.nextRef ∧
    ∃ c, w.status.heap call = some c ∧ c.accountNumber.utf8ByteSize ≤ maxNumberLen

/-- The object `r` in the state `w'` is what a refresh of `call` should lead to. -/
structure Refreshed (w : RefreshWorld) (call r : Ref) (w' : RefreshWorld) : Prop where
  stored : r ∈ w'.status.store.callObjectPtrList
  callId : (w'.status.object r).callId = (w.status.object call).callId
  ids : w'.ids.Perm w.ids
  others : ∀ it ∈ w.status.store.callObjectPtrList, it ≠ call →
    it ∈ w'.status.store.callObjectPtrList ∧ w'.status.heap it = w.status.heap it ∧
      w'.history it = w.history it
  callState : (w'.status.object r).callState = (w.status.object call).callState
  callRunningState :
    (w'.status.object r).callRunningState = (w.status.object call).callRunningState
  conferenceState : (w'.status.object r).conferenceState = (w.status.object call).conferenceState
  history : w'.history r = w.history call

/-- The report has the state that the call is in, which is not taken for a new one. -/
def SameState (c : CallBase) (info : CallDetailInfo) : Prop :=
  c.callRunningState ≠ .create ∧ info.state = c.callState ∧ c.callState ≠ .dialing

instance (c : CallBase) (info : CallDetailInfo) : Decidable (SameState c info) := by
  unfold SameState
  infer_instance

/-- Coming into its state once more changes nothing of a call. -/
def EntryKeeps (clock : Clock) (c : CallBase) (h : CallHistory) (callType : CallType) : Prop :=
  match c.callState with
  | .dialing => c.callRunningState = .dialing
  | .incoming | .waiting => c.callRunningState = .ringing ∧ h.ringBeginTime = clock.time
  | .alerting => c.callRunningState = .dialing ∧ h.ringBeginTime = clock.time
  | .active =>
    c.callRunningState = .active ∧ (h.callBeginTime = 0 → clock.time = 0 ∧ h.ringEndTime = 0 ∧
      h.startTime = (if callType = .voip then clock.timeMillis else 0) ∧ h.answerType = .actived)
  | .holding => c.callRunningState = .hold ∧ c.conferenceState ≠ .active
  | .disconnected =>
    c.callRunningState = .ended ∧
      (c.conferenceState ≠ .disconnecting ∧ c.conferenceState ≠ .active) ∧
      h.callEndTime = clock.time ∧ (h.ringEndTime = 0 → clock.time = 0)
  | .disconnecting =>
    c.callRunningState = .ending ∧ c.conferenceState ≠ .active ∧
      (h.ringEndTime = 0 → clock.time = 0)
  | .unknown | .idle | .answered => True

instance (clock : Clock) (c : CallBase) (h : CallHistory) (callType : CallType) :
    Decidable (EntryKeeps clock c h callType) := by
  unfold EntryKeeps
  cases c.callState <;> infer_instance

/-! ## Coming into the old state -/

/-! Which conference states are not left when a call comes into a state. -/

theorem holding_conference_iff (s : TelConferenceState) :
    (if s = .active then .disconnected else s) = s ↔ s ≠ .active := by
  cases s <;> decide

theorem disconnecting_conference_iff (s : TelConferenceState) :
    (if s = .active then .disconnecting else s) = s ↔ s ≠ .active := by
  cases s <;> decide

theorem disconnected_conference_iff (s : TelConferenceState) :
    (if s = .disconnecting ∨ s = .active then .disconnected else s) = s ↔
      s ≠ .disconnecting ∧ s ≠ .active := by
  cases s <;> decide

theorem ringBeginTime_keeps_iff (h : CallHistory) (time : ℤ) :
    { h with ringBeginTime := time } = h ↔ h.ringBeginTime = time := by
  simp [CallHistory.ext_iff, eq_comm]

theorem active_keeps_iff (h : CallHistory) (clock : Clock) (n : CallBase) :
    h.stateChangesTo clock n .active = h ↔
      (h.callBeginTime = 0 → clock.time = 0 ∧ h.ringEndTime = 0 ∧
        h.startTime = (if n.callType = .voip then clock.timeMillis else 0) ∧
        h.answerType = .actived) := by
  unfold CallHistory.stateChangesTo
  dsimp only
  by_cases hbegin : h.callBeginTime = 0
  · rw [if_pos hbegin]
    simp only [CallHistory.ext_iff, hbegin, true_and, and_true, forall_const]
    constructor
    · rintro ⟨hstart, htime, hend, hanswer⟩
      rw [htime] at hstart hend
      exact ⟨htime, hend.symm, hstart.symm, hanswer.symm⟩
    · rintro ⟨htime, hend, hstart, hanswer⟩
      rw [htime]
      exact ⟨hstart.symm, rfl, hend.symm, hanswer.symm⟩
  · rw [if_neg hbegin]
    simp [hbegin]

theorem disconnecting_keeps_iff (h : CallHistory) (clock : Clock) (n : CallBase) :
    h.stateChangesTo clock n .disconnecting = h ↔ (h.ringEndTime = 0 → clock.time = 0) := by
  unfold CallHistory.stateChangesTo
  by_cases hend : h.ringEndTime = 0 <;> simp [hend, CallHistory.ext_iff]

theorem disconnected_keeps_iff (h : CallHistory) (clock : Clock) (n : CallBase) :
    h.stateChangesTo clock n .disconnected = h ↔
      h.callEndTime = clock.time ∧ (h.ringEndTime = 0 → clock.time = 0) := by
  unfold CallHistory.stateChangesTo
  by_cases hend : h.ringEndTime = 0 <;> simp [hend, CallHistory.ext_iff, eq_comm]

/-- An object that has the running state and the conference state of the old one keeps them, and
    its history, when it comes into the old state iff that changes nothing of the old one. -/
theorem stateChangesTo_keeps_iff (clock : Clock) {c n : CallBase} (h : CallHistory)
    (hrunning : n.callRunningState = c.callRunningState)
    (hconference : n.conferenceState = c.conferenceState) :
    (n.stateChangesTo c.callState).callRunningState = c.callRunningState ∧
        (n.stateChangesTo c.callState).conferenceState = c.conferenceState ∧
        h.stateChangesTo clock n c.callState = h ↔
      EntryKeeps clock c h n.callType := by
  unfold EntryKeeps
  cases c.callState with
  | dialing => simp [CallBase.stateChangesTo, CallHistory.stateChangesTo, hconference, eq_comm]
  | incoming | waiting | alerting =>
    refine and_congr eq_comm ?_
    show n.conferenceState = c.conferenceState ∧ { h with ringBeginTime := clock.time } = h ↔ _
    rw [and_iff_right hconference, ringBeginTime_keeps_iff]
  | active =>
    refine and_congr eq_comm ?_
    rw [active_keeps_iff]
    exact and_iff_right hconference
  | holding =>
    refine and_congr eq_comm ?_
    show (if n.conferenceState = .active then .disconnected else n.conferenceState) =
      c.conferenceState ∧ h = h ↔ _
    rw [hconference, holding_conference_iff, and_iff_left rfl]
  | disconnecting =>
    refine and_congr eq_comm ?_
    rw [disconnecting_keeps_iff]
    show (if n.conferenceState = .active then .disconnecting else n.conferenceState) =
      c.conferenceState ∧ _ ↔ _
    rw [hconference, disconnecting_conference_iff]
  | disconnected =>
    refine and_congr eq_comm ?_
    rw [disconnected_keeps_iff]
    show (if n.conferenceState = .disconnecting ∨ n.conferenceState = .active then .disconnected
      else n.conferenceState) = c.conferenceState ∧ _ ↔ _
    rw [hconference, disconnected_conference_iff]
  | unknown | idle | answered =>
    simp [CallBase.stateChangesTo, CallHistory.stateChangesTo, hrunning, hconference]

/-- `SetTelCallState` with the old state keeps what was copied iff the report has
    the old state, or coming into it changes nothing. -/
theorem setTelCallState_keeps_iff (clock : Clock) {c n : CallBase} (h : CallHistory)
    {info : CallDetailInfo} (hrunning : n.callRunningState = c.callRunningState)
    (hconference : n.conferenceState = c.conferenceState) (hstate : n.callState = info.state) :
    (n.setTelCallState c.callState).2.callRunningState = c.callRunningState ∧
        (n.setTelCallState c.callState).2.conferenceState = c.conferenceState ∧
        h.setTelCallState clock n c.callState = h ↔
      SameState c info ∨ EntryKeeps clock c h n.callType := by
  have hsame : (n.callRunningState ≠ .create ∧ n.callState = c.callState ∧
      c.callState ≠ .dialing) ↔ SameState c info := by
    rw [hrunning, hstate]
    rfl
  unfold CallBase.setTelCallState CallHistory.setTelCallState
  by_cases hdup : SameState c info
  · rw [if_pos (hsame.mpr hdup), if_pos (hsame.mpr hdup)]
    simp [hdup, hrunning, hconference]
  · rw [if_neg (mt hsame.mp hdup), if_neg (mt hsame.mp hdup)]
    rw [or_iff_right hdup]
    exact stateChangesTo_keeps_iff clock (n := { n with callState := c.callState }) h hrunning
      hconference

/-! ## The exchange -/

open StatusWorld

variable {ins : Insertion} {env : StatusEnv} {clock : Clock} {w : RefreshWorld} {call : Ref}
  {c : CallBase} {info : CallDetailInfo}

/-- The store splits at a stored call, and no call before it has its id. -/
theorem Sound.split (h : w.Sound) (hmem : call ∈ w.status.store.callObjectPtrList) :
    ∃ before after, w.status.store.callObjectPtrList = before ++ call :: after ∧
      (∀ it ∈ before, (w.status.object it).callId ≠ (w.status.object call).callId) ∧
      ∀ it ∈ before ++ after, it ≠ call := by
  obtain ⟨before, after, hlist⟩ := List.append_of_mem hmem
  have hdistinct := h.distinct
  unfold CallObjectManager.Distinct at hdistinct
  rw [hlist, List.map_append, List.map_cons, List.nodup_middle, List.nodup_cons] at hdistinct
  have hne : ∀ it ∈ before ++ after,
      (w.status.object it).callId ≠ (w.status.object call).callId := by
    intro it hit heq
    apply hdistinct.1
    rw [← List.map_append, ← heq]
    exact List.mem_map_of_mem hit
  refine ⟨before, after, hlist, fun it hit => hne it (List.mem_append_left _ hit), ?_⟩
  rintro it hit rfl
  exact hne it hit rfl

/-- The state `s` after `CreateNewCall` has made the object `n` of a report. -/
structure Created (w : StatusWorld) (info : CallDetailInfo) (n : CallBase) (s : StatusWorld) :
    Prop where
  callId : n.callId = w.store.callId + 1
  callState : n.callState = info.state
  callType : n.callType = info.callType
  heap : s.heap w.nextRef = some n
  others : ∀ it, it ≠ w.nextRef → s.heap it = w.heap it
  list : s.store.callObjectPtrList = w.store.callObjectPtrList

/-- A report whose type has a class gives an object. -/
theorem createNewCall_created (env : StatusEnv) (w : StatusWorld)
    (hnew : info.callType ≠ .errCall) :
    ∃ n s, w.createNewCall env info = (some w.nextRef, s) ∧ Created w info n s := by
  obtain ⟨n, hn, hstate, htype, hid⟩ : ∃ n, CallBase.newCall env info (w.store.callId + 1) =
      some n ∧ n.callState = info.state ∧ n.callType = info.callType ∧
      n.callId = w.store.callId + 1 := by
    unfold CallBase.newCall
    rw [if_neg hnew]
    exact ⟨_, rfl, rfl, rfl, rfl⟩
  refine ⟨n, ({ w with store := w.store.getNewCallId.2 } : StatusWorld).alloc n, ?_, hid, hstate,
    htype, alloc_heap_self _ n, fun it hit => alloc_heap_of_ne _ n hit, rfl⟩
  unfold StatusWorld.createNewCall
  show (match CallBase.newCall env info (w.store.callId + 1) with
    | none => _
    | some c => _) = _
  rw [hn]
  rfl

/-- Stored objects are read as before after `CreateNewCall`. -/
theorem Created.object {w s : StatusWorld} {n : CallBase} (h : Created w info n s) {it : Ref}
    (hit : it ≠ w.nextRef) : s.object it = w.object it := by
  rw [StatusWorld.object, StatusWorld.object, h.others it hit]

/-- Erasing the first entry found takes the entry out of its place. -/
theorem eraseP_middle {α : Type*} {p : α → Bool} {before after : List α} {a : α}
    (hbefore : ∀ b ∈ before, ¬ p b = true) (ha : p a = true) :
    (before ++ a :: after).eraseP p = before ++ after := by
  rw [List.eraseP_append_right _ hbefore, List.eraseP_cons_of_pos ha]

/-- The list after the exchange: the new object comes last if its id is new to the
    store, and the old one is gone. -/
theorem exchangeCall_list {s : StatusWorld} {newCall : Ref} {n : CallBase}
    {before after : List Ref} (hnew : s.heap newCall = some n)
    (hlist : s.store.callObjectPtrList = before ++ call :: after)
    (hne : ∀ it ∈ before ++ call :: after, it ≠ newCall)
    (hbefore : ∀ it ∈ before, (s.object it).callId ≠ c.callId)
    (hcall : (s.object call).callId = c.callId) :
    (s.exchangeCall .restored env newCall c info).store.callObjectPtrList =
      if CallObjectManager.Stored s.object s.store n.callId then before ++ after
      else before ++ (after ++ [newCall]) := by
  set f : CallBase → CallBase := fun n =>
    { n with callRunningState := c.callRunningState, conferenceState := c.conferenceState }
  set s' := (s.addOneCallObject .restored env newCall).modify newCall f with hs'
  have hread : ∀ it ∈ before ++ call :: after, s'.object it = s.object it := by
    intro it hit
    rw [StatusWorld.object, hs', modify_heap_of_ne _ f (hne it hit)]
    rfl
  have hexchange : (s.exchangeCall .restored env newCall c info).store.callObjectPtrList =
      (s.addOneCallObject .restored env newCall).store.callObjectPtrList.eraseP fun it =>
        (s'.object it).callId = c.callId := by
    unfold StatusWorld.exchangeCall
    dsimp only
    split_ifs <;> exact CallObjectManager.deleteOneCallObject_list _ _
  have hnot : ∀ it ∈ before, ¬ decide ((s'.object it).callId = c.callId) = true := by
    intro it hit
    rw [hread it (List.mem_append_left _ hit)]
    simpa using hbefore it hit
  have hyes : decide ((s'.object call).callId = c.callId) = true := by
    rw [hread call (by simp), hcall]
    exact decide_eq_true rfl
  rw [hexchange, list_addOneCallObject .restored env hnew, hlist]
  by_cases hst : CallObjectManager.Stored s.object s.store n.callId
  · rw [if_pos (.inr hst), if_pos hst]
    exact eraseP_middle hnot hyes
  · have hnotStored : ¬ (Insertion.restored = .asWritten ∨
        CallObjectManager.Stored s.object s.store n.callId) := by
      rintro (heq | hmem)
      · cases heq
      · exact hst hmem
    rw [if_neg hnotStored, if_neg hst, List.append_assoc, List.cons_append]
    exact eraseP_middle hnot hyes

/-- The new object of a report before it comes into the old state: it has taken over
    the running state, the conference state and the id of the old one. -/
structure Successor (c : CallBase) (info : CallDetailInfo) (n : CallBase) : Prop where
  callId : n.callId = c.callId
  callRunningState : n.callRunningState = c.callRunningState
  conferenceState : n.conferenceState = c.conferenceState
  callState : n.callState = info.state
  callType : n.callType = info.callType

/-- What a refresh leaves: the new object `n` comes into the old state, every other
    object but the old one is as it was, and the list is the one given. -/
structure Leaves (w : RefreshWorld) (clock : Clock) (call : Ref) (c n : CallBase) (list : List Ref)
    (w' : RefreshWorld) : Prop where
  list : w'.status.store.callObjectPtrList = list
  heap : w'.status.heap w.status.nextRef = some (n.setTelCallState c.callState).2
  history : w'.history w.status.nextRef =
    (w.history call).setTelCallState clock n c.callState
  others : ∀ it, it ≠ call → it ≠ w.status.nextRef →
    w'.status.heap it = w.status.heap it ∧ w'.history it = w.history it

/-- The list after the refresh of `call`, which stands between `before` and `after`. -/
def listAfter (w : RefreshWorld) (before after : List Ref) : List Ref :=
  if CallObjectManager.Stored w.status.object w.status.store (w.status.store.callId + 1) then
    before ++ after
  else before ++ (after ++ [w.status.nextRef])

variable (env) (clock) in
theorem refreshCall_leaves (h : w.Sound) {before after : List Ref}
    (hlist : w.status.store.callObjectPtrList = before ++ call :: after)
    (hbefore : ∀ it ∈ before, (w.status.object it).callId ≠ (w.status.object call).callId)
    (hc : w.status.heap call = some c) (hnew : info.callType ≠ .errCall) :
    ∃ n, Successor c info n ∧ (w.refreshCall .restored env clock call info).1 = w.status.nextRef ∧
      Leaves w clock call c n (w.listAfter before after)
        (w.refreshCall .restored env clock call info).2 := by
  obtain ⟨n, s, hcreate, hs⟩ := createNewCall_created env w.status hnew
  have hmem : call ∈ w.status.store.callObjectPtrList := by simp [hlist]
  have hlt : ∀ it ∈ w.status.store.callObjectPtrList, it ≠ w.status.nextRef :=
    fun it hit => ((h.live it hit).1).ne
  have hfits : c.accountNumber.utf8ByteSize ≤ maxNumberLen := by
    obtain ⟨-, c', hc', hfits⟩ := h.live call hmem
    rw [hc] at hc'
    exact Option.some.inj hc' ▸ hfits
  have hobject : (w.status.object call).callId = c.callId := by rw [object_eq hc]
  have hstored : CallObjectManager.Stored s.object s.store n.callId ↔
      CallObjectManager.Stored w.status.object w.status.store (w.status.store.callId + 1) := by
    unfold CallObjectManager.Stored
    rw [hs.callId, hs.list]
    exact exists_congr fun it => and_congr_right fun hit => by rw [hs.object (hlt it hit)]
  have hexlist : (s.exchangeCall .restored env w.status.nextRef c info).store.callObjectPtrList =
      w.listAfter before after := by
    rw [exchangeCall_list hs.heap (hs.list.trans hlist) (fun it hit => hlt it (hlist ▸ hit)) ?_ ?_,
      listAfter, if_congr hstored rfl rfl]
    · intro it hit
      rw [hs.object (hlt it (by simp [hlist, hit])), ← hobject]
      exact hbefore it hit
    · rw [hs.object (hlt call hmem), hobject]
  -- the new object before `SetTelCallState`
  set f : CallBase → CallBase := fun n =>
    { n with callRunningState := c.callRunningState, conferenceState := c.conferenceState }
  set t := (s.exchangeCall .restored env w.status.nextRef c info).modify w.status.nextRef
    (fun n => { n with callId := c.callId }) with ht
  have hnewheap : t.heap w.status.nextRef = some { f n with callId := c.callId } := by
    rw [ht, modify_heap_self, exchangeCall_heap_self, hs.heap]
    rfl
  have hothers : ∀ it, it ≠ w.status.nextRef → t.heap it = w.status.heap it := by
    intro it hit
    rw [ht, modify_heap_of_ne _ _ hit, exchangeCall_heap hit, hs.others it hit]
  have hrefresh : w.refreshCall .restored env clock call info =
      (w.status.nextRef,
        { status := (t.setTelCallState w.status.nextRef c.callState).destroy call
          history := Function.update w.history w.status.nextRef
            ((w.history call).setTelCallState clock { f n with callId := c.callId }
              c.callState) }) := by
    unfold refreshCall
    rw [hc]
    dsimp only
    rw [hcreate]
    dsimp only [setTelCallState]
    rw [← ht, CallHistory.copy_created hfits, Function.update_self, Function.update_idem,
      object_eq hnewheap]
  rw [hrefresh]
  refine ⟨{ f n with callId := c.callId }, ⟨rfl, rfl, rfl, hs.callState, hs.callType⟩, rfl, ?_⟩
  refine ⟨hexlist, ?_, Function.update_self .., fun it hcall hit => ⟨?_, ?_⟩⟩
  · show ((t.setTelCallState w.status.nextRef c.callState).destroy call).heap w.status.nextRef = _
    rw [destroy_heap_of_ne _ (hlt call hmem).symm, StatusWorld.setTelCallState, modify_heap_self,
      hnewheap]
    rfl
  · show ((t.setTelCallState w.status.nextRef c.callState).destroy call).heap it = _
    rw [destroy_heap_of_ne _ hcall, StatusWorld.setTelCallState, modify_heap_of_ne _ _ hit,
      hothers it hit]
  · exact Function.update_of_ne hit ..

/-! ## What is kept -/

theorem Sound.object (h : w.Sound) (hmem : call ∈ w.status.store.callObjectPtrList) :
    w.status.heap call = some (w.status.object call) := by
  obtain ⟨-, c, hc, -⟩ := h.live call hmem
  rw [object_eq hc, hc]

/-- The new object has what was copied iff coming into the old state keeps it. -/
theorem Leaves.copied_iff {w' : RefreshWorld} {n : CallBase} {list : List Ref}
    (h : Leaves w clock call c n list w') (hn : Successor c info n) :
    (w'.status.object w.status.nextRef).callRunningState = c.callRunningState ∧
        (w'.status.object w.status.nextRef).conferenceState = c.conferenceState ∧
        w'.history w.status.nextRef = w.history call ↔
      SameState c info ∨ EntryKeeps clock c (w.history call) info.callType := by
  rw [object_eq h.heap, h.history, ← hn.callType]
  exact setTelCallState_keeps_iff clock _ hn.callRunningState hn.conferenceState hn.callState

/-- With an id that is new to the store, the store keeps its ids and its other calls. -/
theorem Leaves.identity {w' : RefreshWorld} {n : CallBase} {before after : List Ref}
    (h : Leaves w clock call c n (before ++ (after ++ [w.status.nextRef])) w')
    (hn : Successor c info n) (hs : w.Sound)
    (hlist : w.status.store.callObjectPtrList = before ++ call :: after)
    (hne : ∀ it ∈ before ++ after, it ≠ call) (hc : w.status.object call = c) :
    w'.ids.Perm w.ids ∧
      ∀ it ∈ w.status.store.callObjectPtrList, it ≠ call →
        it ∈ w'.status.store.callObjectPtrList ∧ w'.status.heap it = w.status.heap it ∧
          w'.history it = w.history it := by
  have hlt : ∀ it ∈ w.status.store.callObjectPtrList, it ≠ w.status.nextRef :=
    fun it hit => ((hs.live it hit).1).ne
  have hmem : ∀ it ∈ before ++ after, it ∈ w.status.store.callObjectPtrList := by
    intro it hit
    rw [hlist]
    rcases List.mem_append.mp hit with hit | hit
    · exact List.mem_append_left _ hit
    · exact List.mem_append_right _ (List.mem_cons_of_mem _ hit)
  have hobject : ∀ it ∈ before ++ after, (w'.status.object it).callId =
      (w.status.object it).callId := by
    intro it hit
    rw [StatusWorld.object, (h.others it (hne it hit) (hlt it (hmem it hit))).1]
    rfl
  have hnew : (w'.status.object w.status.nextRef).callId = (w.status.object call).callId := by
    rw [object_eq h.heap, hc, CallBase.setTelCallState_callId, hn.callId]
  constructor
  · unfold RefreshWorld.ids
    rw [h.list, hlist, List.map_append, List.map_append, List.map_append, List.map_cons,
      List.map_cons, List.map_nil, hnew,
      List.map_congr_left fun it hit => hobject it (List.mem_append_left _ hit),
      List.map_congr_left fun it hit => hobject it (List.mem_append_right _ hit)]
    exact List.Perm.append_left _ (List.perm_append_singleton _ _)
  · intro it hit hcall
    refine ⟨?_, h.others it hcall (hlt it hit)⟩
    rw [hlist] at hit
    rw [h.list, ← List.append_assoc]
    apply List.mem_append_left
    rcases List.mem_append.mp hit with hit | hit
    · exact List.mem_append_left _ hit
    · rcases List.mem_cons.mp hit with heq | hit
      · exact absurd heq hcall
      · exact List.mem_append_right _ hit

/-- **Refresh.** In a store with distinct ids, the refresh of a stored call keeps its id, its
    states, its times and its settings, the ids of the store and the other calls, iff the id of
    the new object is new to the store and either the report has the state that the call is in
    or coming into that state once more changes nothing. -/
theorem refreshed_iff (env : StatusEnv) (clock : Clock) (h : w.Sound)
    (hmem : call ∈ w.status.store.callObjectPtrList) (hnew : info.callType ≠ .errCall) :
    Refreshed w call (w.refreshCall .restored env clock call info).1
        (w.refreshCall .restored env clock call info).2 ↔
      ¬ CallObjectManager.Stored w.status.object w.status.store (w.status.store.callId + 1) ∧
        (SameState (w.status.object call) info ∨
          EntryKeeps clock (w.status.object call) (w.history call) info.callType) := by
  obtain ⟨before, after, hlist, hbefore, hne⟩ := h.split hmem
  obtain ⟨n, hn, href, hleaves⟩ := refreshCall_leaves env clock h hlist hbefore (h.object hmem)
    hnew
  rw [href]
  constructor
  · intro hrefreshed
    have hfresh : ¬ CallObjectManager.Stored w.status.object w.status.store
        (w.status.store.callId + 1) := by
      intro hstored
      have hlast := hrefreshed.stored
      rw [hleaves.list, listAfter, if_pos hstored] at hlast
      have hmem' : w.status.nextRef ∈ w.status.store.callObjectPtrList := by
        rw [hlist]
        rcases List.mem_append.mp hlast with hit | hit
        · exact List.mem_append_left _ hit
        · exact List.mem_append_right _ (List.mem_cons_of_mem _ hit)
      exact absurd (h.live _ hmem').1 (lt_irrefl _)
    exact ⟨hfresh, (hleaves.copied_iff hn).mp
      ⟨hrefreshed.callRunningState, hrefreshed.conferenceState, hrefreshed.history⟩⟩
  · rintro ⟨hfresh, hkeeps⟩
    obtain ⟨hrunning, hconference, hhistory⟩ := (hleaves.copied_iff hn).mpr hkeeps
    rw [listAfter, if_neg hfresh] at hleaves
    obtain ⟨hids, hothers⟩ := hleaves.identity hn h hlist hne rfl
    exact
      { stored := by simp [hleaves.list]
        callId := by rw [object_eq hleaves.heap, CallBase.setTelCallState_callId, hn.callId]
        ids := hids
        others := hothers
        callState := by rw [object_eq hleaves.heap, CallBase.setTelCallState_callState]
        callRunningState := hrunning
        conferenceState := hconference
        history := hhistory }

/-! ## A ringing call that is reported active -/

/-- An IMS call that rings. -/
private def ringing : CallBase where
  callId := 1
  objectType := .ims
  callType := .ims
  accountNumber := "5550100"
  callState := .incoming
  callRunningState := .ringing
  conferenceState := .idle
  slotId := 0
  index := 1
  phoneIndex := 0
  phoneOrWatch := 0
  videoState := .voice
  voipCallInfo := {}
  isNonVirtualCall := false

/-- The store with this call, which began to ring at 100. -/
private def ringingSince : RefreshWorld where
  status :=
    { StatusWorld.init with
      heap := fun r => if r = 0 then some ringing else none
      nextRef := 1
      store := { CallObjectManager.init with callObjectPtrList := [0], callId := 1 } }
  history := fun _ => { CallHistory.zero with ringBeginTime := 100 }

private theorem ringingSince_sound : ringingSince.Sound where
  distinct := List.nodup_singleton _
  live := by
    intro call hcall
    have hzero : call = 0 := List.mem_singleton.mp hcall
    rw [hzero]
    exact ⟨by decide, ringing, rfl, by decide⟩

/-- The call is refreshed at 160 by the report that it is a CS call in this state. -/
private def refreshedBy (state : TelCallState) : Ref × RefreshWorld :=
  ringingSince.refreshCall .restored modemEnv ⟨160, 160000⟩ 0 (slotCall .cs 1 state 0)

/-- A report with the call's own state keeps it. -/
theorem refreshed_ringing :
    Refreshed ringingSince 0 (refreshedBy .incoming).1 (refreshedBy .incoming).2 :=
  (refreshed_iff modemEnv ⟨160, 160000⟩ ringingSince_sound (by decide) (by decide)).mpr (by decide)

/-- **A ringing call rings anew.** The call is answered, and the report that makes it
    a CS call says that it is active: the object that rings since 100 is replaced by
    one that rings since now. -/
theorem ringing_call_rings_anew :
    ringingSince.Sound ∧ (ringingSince.history 0).ringBeginTime = 100 ∧
      ((refreshedBy .active).2.history (refreshedBy .active).1).ringBeginTime = 160 ∧
      ¬ Refreshed ringingSince 0 (refreshedBy .active).1 (refreshedBy .active).2 := by
  refine ⟨ringingSince_sound, rfl, rfl, fun h => ?_⟩
  have htime := congrArg CallHistory.ringBeginTime h.history
  exact absurd htime (by decide)

end RefreshWorld

end CallManager
