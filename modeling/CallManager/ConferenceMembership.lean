import CallManager.ConferenceLeave

/-!
# Conferences have live calls

The members and the main calls of the IMS and the CS conference are ids, kept
by the conferences; the calls they belong to are in the store and may be
converted, disconnected and deleted there. `GetCurrentCallNum` relies on both:
it counts a call that is in no conference by its own state, and the call that
is the main call of the IMS conference.

A call that is disconnected leaves its conference before it goes from the
list. Nothing takes the id of a converted call out of the conference of its
former type, so the handlers keep the two in step only if they convert calls
that are in no conference.

Results:
* `conference_membership`: in a run of that kind, every member and main call is
  a stored call of the conference's type, and each conference and each other
  carrier call counts once.
* `conversion_leaves_conference`: a report that converts a member from IMS to
  CS leaves its id in the IMS conference.
-/

namespace CallManager

/-! ## Specification -/

namespace StatusWorld

/-- There is a stored call of this id and type. -/
def Holds (w : StatusWorld) (callId : ℤ) (callType : CallType) : Prop :=
  ∃ call ∈ w.store.callObjectPtrList, ∃ c, w.heap call = some c ∧ c.callId = callId ∧
    c.callType = callType

/-- Every member and every main call of a conference is a stored call of its type. -/
def MembersLive (w : StatusWorld) : Prop :=
  (∀ callId ∈ w.imsConference.subCallIdSet, w.Holds callId .ims) ∧
    (w.imsConference.mainCallId ≠ errId → w.Holds w.imsConference.mainCallId .ims) ∧
    (∀ callId ∈ w.csConference.subCallIdSet, w.Holds callId .cs) ∧
    (w.csConference.mainCallId ≠ errId → w.Holds w.csConference.mainCallId .cs)

/-- The number of conferences with members. -/
def conferenceNum (w : StatusWorld) : ℕ :=
  (if w.imsConference.subCallIdSet.Nonempty then 1 else 0) +
    if w.csConference.subCallIdSet.Nonempty then 1 else 0

/-- Each conference counts once, and so does each carrier call in none. -/
def CountsOnce (w : StatusWorld) : Prop :=
  w.getCurrentCallNum =
    w.conferenceNum +
      w.getCarrierCallList.countP fun callId =>
        callId ∉ w.imsConference.subCallIdSet ∧ callId ∉ w.csConference.subCallIdSet

end StatusWorld

/-! ## The condition -/

namespace StatusWorld

/-- The condition on a report that takes calls off the list, in the state
    before it. A DISCONNECTED report of a call that is not stored is handled as
    a DIALING report first, and the state before is then the one after that. -/
def EndsOk (ins : Insertion) (env : StatusEnv) (w : StatusWorld) (info : CallDetailInfo) : Prop :=
  info.callType ≠ .voip →
  match info.state with
  | .disconnected =>
    match w.getOneCallObjectByKey info.index info with
    | some call => w.LeaveOk env call info
    | none =>
      let (call, w) := (CallStatusManager.refreshDialingStateByOtherState ins env info).run
        (statusAction ins env) w
      ∀ found ∈ call, w.LeaveOk env found info
  | .holding => env.isDsdaMode = true → w.HangUpOk
  | _ => True

/-- The stored members but `callId` are in a conference by their own state. -/
def OthersApart (w : StatusWorld) (callId : ℤ) : Prop :=
  ∀ call ∈ w.store.callObjectPtrList,
    (w.object call).callId ∈ w.imsConference.subCallIdSet → (w.object call).callId ≠ callId →
      (w.object call).conferenceState ≠ .idle

/-- A call becomes the main call of an IMS conference that has no members, or of which it is one
    and the others are in a conference by their own state; its type is that of its class. -/
def CombineOk (w : StatusWorld) (callId : ℤ) : Prop :=
  match w.getOneCallObject callId with
  | none => True
  | some call =>
    match (w.object call).objectType with
    | .ims =>
      (w.object call).callType = .ims ∧
        (w.imsConference.subCallIdSet.Nonempty →
          callId ∈ w.imsConference.subCallIdSet ∧ w.OthersApart callId)
    | .cs => (w.object call).callType = .cs
    | _ => True

/-- If the failure of a combination makes a member the main call, the others
    are in a conference by their own state. -/
def CombineFailedOk (w : StatusWorld) : Prop :=
  match w.store.callObjectPtrList.reverse.find? fun it =>
      (w.object it).callRunningState = .active with
  | none => True
  | some activeCall =>
    (w.object activeCall).objectType = .ims →
      w.OthersApart (Conference.begin w.imsConference.subCallIdSet errId)

end StatusWorld

/-- The condition on an operation. -/
def InStep (ins : Insertion) (w : StatusWorld) : StatusOp → Prop
  | .report env info =>
    w.EndsOk ins env info ∧
      (CallStatusManager.handleCallReportInfo ins env info).Meets (statusAction ins env)
        (ActionInStep ins) w
  | .combineConference callId _ => w.CombineOk callId
  | .combineConferenceFailed => w.CombineFailedOk
  | _ => True

/-! Every condition is decidable. -/

namespace StatusWorld

variable (ins : Insertion) (env : StatusEnv) (w : StatusWorld)

instance (info : CallDetailInfo) : Decidable (w.EndsOk ins env info) := by
  unfold EndsOk
  refine @instDecidableForall _ _ _ (match info.state with
    | .disconnected => ?_
    | .holding => inferInstanceAs (Decidable (env.isDsdaMode = true → w.HangUpOk))
    | .unknown | .active | .dialing | .alerting | .incoming | .waiting | .disconnecting | .idle
    | .answered => instDecidableTrue)
  dsimp only
  exact match w.getOneCallObjectByKey info.index info with
    | some call => inferInstanceAs (Decidable (w.LeaveOk env call info))
    | none => Option.decidableForallMem _

instance (callId : ℤ) : Decidable (w.OthersApart callId) :=
  inferInstanceAs (Decidable (∀ call ∈ w.store.callObjectPtrList, _))

instance (callId : ℤ) : Decidable (w.CombineOk callId) := by
  unfold CombineOk
  refine match w.getOneCallObject callId with
    | none => instDecidableTrue
    | some call => ?_
  dsimp only
  exact match (w.object call).objectType with
    | .ims => inferInstanceAs (Decidable ((w.object call).callType = .ims ∧
        (w.imsConference.subCallIdSet.Nonempty →
          callId ∈ w.imsConference.subCallIdSet ∧ w.OthersApart callId)))
    | .cs => inferInstanceAs (Decidable ((w.object call).callType = .cs))
    | .ott | .errCall | .voip | .satellite | .bluetooth => instDecidableTrue

instance : Decidable w.CombineFailedOk := by
  unfold CombineFailedOk
  split <;> infer_instance

end StatusWorld

instance (ins : Insertion) (w : StatusWorld) : (op : StatusOp) → Decidable (InStep ins w op)
  | .report env info =>
    inferInstanceAs (Decidable (w.EndsOk ins env info ∧
      (CallStatusManager.handleCallReportInfo ins env info).Meets (statusAction ins env)
        (ActionInStep ins) w))
  | .combineConference callId _ => inferInstanceAs (Decidable (w.CombineOk callId))
  | .combineConferenceFailed => inferInstanceAs (Decidable w.CombineFailedOk)
  | .callsReport _ _ | .waitHold _ | .hangUpPendingCall _ => .isTrue trivial

/-! ## Handlers that keep the calls -/

namespace CallStatusManager

open Program

/-- The program performs no action that takes a call off the list or ends a conference. -/
abbrev KeepsCalls {α : Type} (p : StatusProgram α) : Prop := p.Only StatusAction.Keeps

variable {ins : Insertion} {env : StatusEnv} {info : CallDetailInfo}

theorem createNewCall_keeps : KeepsCalls (createNewCall env info) := fun _ => ⟨trivial, trivial⟩

theorem updateCallState_keeps (call : Ref) (nextState : TelCallState) :
    KeepsCalls (updateCallState env call nextState) := by
  refine ⟨trivial, ?_⟩
  show KeepsCalls (if _ then _ else _)
  split_ifs <;> trivial

theorem refreshCallIfNecessary_keeps (call : Ref) :
    KeepsCalls (refreshCallIfNecessary ins env call info) := fun _ => ⟨trivial, trivial⟩

theorem updateDialingCallInfo_keeps : KeepsCalls (updateDialingCallInfo ins env info) :=
  fun _ => ⟨trivial, trivial⟩

theorem updateDialingHandle_keeps : KeepsCalls (updateDialingHandle info) := by
  refine Only.get fun w => ?_
  dsimp only
  split_ifs
  · refine Only.bind ?_ fun call => Only.pure _
    unfold btCallDialingHandle
    split
    · exact ⟨trivial, trivial⟩
    · refine Only.get fun w => ?_
      split
      · exact ⟨trivial, trivial⟩
      · exact Only.pure _
  · exact Only.pure _

theorem dialingNewCall_keeps : KeepsCalls (dialingNewCall env info) := by
  refine Only.bind createNewCall_keeps fun call => ?_
  cases call with
  | none => exact Only.pure _
  | some call =>
    refine ⟨trivial, Only.get fun w => ?_⟩
    dsimp only
    split_ifs
    · exact ⟨trivial, trivial, trivial, updateCallState_keeps call .dialing⟩
    · exact ⟨trivial, updateCallState_keeps call .dialing⟩

theorem dialingHandle_keeps (info : CallDetailInfo) : KeepsCalls (dialingHandle ins env info) := by
  unfold dialingHandle
  split_ifs
  · refine Only.bind updateDialingHandle_keeps fun update => ?_
    split_ifs
    · exact updateDialingCallInfo_keeps
    · exact dialingNewCall_keeps
  · exact dialingNewCall_keeps

theorem createAndSaveNewCall_keeps : KeepsCalls (createAndSaveNewCall ins env info) := by
  refine Only.get fun w => ?_
  split_ifs
  · exact Only.bind updateDialingCallInfo_keeps fun _ => Only.pure _
  · refine Only.bind createNewCall_keeps fun call => ?_
    cases call with
    | none => exact Only.pure _
    | some call => exact Only.perform trivial

theorem refreshDialingStateByOtherState_keeps :
    KeepsCalls (refreshDialingStateByOtherState ins env info) := by
  refine Only.get fun w => ?_
  split_ifs
  · exact Only.pure _
  · exact Only.bind (dialingHandle_keeps _) fun _ => Only.get fun w => Only.pure _

theorem findOrCreate_keeps : KeepsCalls (findOrCreate ins env info) := by
  refine Only.get fun w => ?_
  dsimp only
  split_ifs
  · refine Only.bind createAndSaveNewCall_keeps fun _ => Only.get fun w => ?_
    split
    · exact Only.pure _
    · exact refreshDialingStateByOtherState_keeps
  · exact refreshDialingStateByOtherState_keeps
  · exact Only.pure _

theorem activeHandle_keeps : KeepsCalls (activeHandle ins env info) := by
  refine Only.bind findOrCreate_keeps fun call => ?_
  cases call with
  | none => exact Only.pure _
  | some call =>
    refine Only.bind (Only.perform trivial) fun _ =>
      Only.bind (refreshCallIfNecessary_keeps call) fun call => Only.get fun w => ?_
    dsimp only
    split_ifs
    · exact ⟨trivial, updateCallState_keeps call .active⟩
    · exact ⟨trivial, updateCallState_keeps call .active⟩

theorem alertHandle_keeps : KeepsCalls (alertHandle ins env info) := by
  refine Only.bind findOrCreate_keeps fun call => ?_
  cases call with
  | none => exact Only.pure _
  | some call =>
    refine ⟨trivial, Only.get fun w => ?_⟩
    split_ifs
    · exact Only.pure _
    · exact Only.bind (refreshCallIfNecessary_keeps call) fun call => updateCallState_keeps call _

theorem disconnectingHandle_keeps : KeepsCalls (disconnectingHandle ins env info) := by
  refine Only.get fun w => ?_
  split
  · exact Only.pure _
  · exact Only.bind (refreshCallIfNecessary_keeps _) fun call => updateCallState_keeps call _

theorem incomingNewCall_keeps : KeepsCalls (incomingNewCall env info) := by
  refine Only.bind createNewCall_keeps fun call => ?_
  cases call with
  | none => exact Only.pure _
  | some call =>
    dsimp only
    split_ifs
    · exact ⟨trivial, Only.pure _⟩
    · exact ⟨trivial, Only.pure _⟩
    · exact ⟨trivial, Only.pure _⟩
    · refine Only.bind (Only.perform trivial) fun _ =>
        Only.bind (updateCallState_keeps call _) fun ret => ?_
      split_ifs
      · exact Only.pure _
      · refine Only.get fun w => ?_
        split_ifs
        · exact Only.pure _
        · exact Only.pure _
        · exact ⟨trivial, Only.pure _⟩

theorem refreshOldCall_keeps (call : Ref) : KeepsCalls (refreshOldCall ins env call info) := by
  refine Only.get fun w => ?_
  dsimp only
  split_ifs
  · exact Only.bind (refreshCallIfNecessary_keeps call) fun call => updateCallState_keeps call _
  · exact Only.bind (refreshCallIfNecessary_keeps call) fun call => Only.pure _
  · exact Only.pure _

theorem incomingHandle_keeps : KeepsCalls (incomingHandle ins env info) := by
  refine Only.get fun w => ?_
  split
  · exact refreshOldCall_keeps _
  · split_ifs
    · exact Only.pure _
    · exact incomingNewCall_keeps

theorem handleBluetoothCallReportInfo_keeps :
    KeepsCalls (handleBluetoothCallReportInfo env info) := by
  unfold handleBluetoothCallReportInfo
  by_cases hnone : info.state = .waiting ∨ info.state = .incoming ∨ info.index ≤ 0
  · rw [if_pos hnone]
    exact Only.pure _
  · rw [if_neg hnone]
    refine Only.get fun w => ?_
    dsimp only
    generalize (if info.state = .dialing ∨ info.state = .alerting then
      w.getOneCallObjectByKey StatusWorld.initIndex info else none) = first
    split
    · exact Only.perform trivial
    · split_ifs
      · exact Only.pure _
      · refine Only.bind createNewCall_keeps fun call => ?_
        cases call with
        | none => exact Only.pure _
        | some call => exact Only.perform trivial

theorem newVoipCall_keeps {k : Ref → StatusProgram ErrorCode} (hk : ∀ call, KeepsCalls (k call)) :
    KeepsCalls (do
      match ← createNewCall env info with
      | none => return .callErrCallObjectIsNull
      | some call => k call) := by
  refine Only.bind createNewCall_keeps fun call => ?_
  cases call with
  | none => exact Only.pure _
  | some call => exact hk call

/-- A VoIP report, unless it is DISCONNECTED. -/
theorem handleVoipCallReportInfo_keeps (hstate : info.state ≠ .disconnected) :
    KeepsCalls (handleVoipCallReportInfo env info) := by
  unfold handleVoipCallReportInfo
  cases hinfo : info.state with
  | disconnected => exact absurd hinfo hstate
  | active =>
    refine Only.get fun w => ?_
    split
    · exact Only.pure _
    · refine Only.bind (updateCallState_keeps _ _) fun ret => ?_
      split_ifs <;> exact Only.pure _
  | incoming =>
    refine Only.get fun w => ?_
    split
    · exact Only.pure _
    · exact newVoipCall_keeps fun call => ⟨trivial, trivial, trivial, updateCallState_keeps call _⟩
  | dialing =>
    refine Only.get fun w => ?_
    split
    · exact updateCallState_keeps _ _
    · exact newVoipCall_keeps fun call => ⟨trivial, trivial, updateCallState_keeps call _⟩
  | answered =>
    refine Only.get fun w => ?_
    split
    · exact Only.pure _
    · split_ifs <;> exact Only.pure _
  | disconnecting =>
    refine Only.get fun w => ?_
    split
    · exact Only.pure _
    · exact ⟨trivial, updateCallState_keeps _ _⟩
  | holding | alerting | waiting | unknown | idle => exact Only.pure _

end CallStatusManager

/-! ## Reports -/

namespace StatusWorld

variable {w w' : StatusWorld} {ins : Insertion} {env : StatusEnv} {info : CallDetailInfo}
  {call : Ref} {c : CallBase}

/-- A call of another type than the two conferences is in neither. -/
theorem free_of_type (h : w.book.Ok) (hc : w.heap call = some c) (hims : c.callType ≠ .ims)
    (hcs : c.callType ≠ .cs) : w.book.Free c.callId := by
  have hgone : ∀ callType, w.book.Holds c.callId callType → c.callType = callType :=
    fun _ hheld => (h.callsOk.type_of_holds (book_calls hc) hheld).2
  refine ⟨fun hmem => hims (hgone _ (h.members _ hmem)),
    fun hmem => hcs (hgone _ (h.csOk.members _ hmem)), fun hmain => ?_, fun hmain => ?_⟩
  · rcases h.main with herr | hheld
    · exact hmain.symm.trans herr
    · exact absurd (hgone _ (hmain ▸ hheld)) hims
  · rcases h.csOk.main with herr | hheld
    · exact hmain.symm.trans herr
    · exact absurd (hgone _ (hmain ▸ hheld)) hcs

/-- A program that keeps the calls and whose actions meet their conditions. -/
theorem ok_program {α : Type} {p : StatusProgram α} (h : w.book.Ok)
    (hkeeps : CallStatusManager.KeepsCalls p)
    (hmeets : p.Meets (statusAction ins env) (ActionInStep ins) w) :
    (p.run (statusAction ins env) w).2.book.Ok :=
  Program.run_preserves (I := fun w => w.book.Ok)
    (fun _ _ hI hcond => ok_statusAction hI hcond.1 hcond.2) p h ((hkeeps.meets w).and hmeets)

/-- A DISCONNECTED report of a VoIP call. -/
theorem ok_disconnectedVoipCallHandle (h : w.book.Ok) :
    ((CallStatusManager.disconnectedVoipCallHandle env info).run (statusAction ins env)
      w).2.book.Ok := by
  unfold CallStatusManager.disconnectedVoipCallHandle
  rw [Program.run_bind]
  show ((match w.getOneCallObjectByVoipCallId info.voipCallInfo with
    | none => _
    | some call => _ : StatusProgram ErrorCode).run (statusAction ins env) w).2.book.Ok
  cases hcall : w.getOneCallObjectByVoipCallId info.voipCallInfo with
  | none => exact h
  | some call =>
    obtain ⟨c, hc⟩ := heap_of_mem h.toLoose (List.mem_of_find?_eq_some hcall)
    have hvoip : c.callType = .voip := by
      have hfound := List.find?_some hcall
      rw [object_eq hc] at hfound
      exact (of_decide_eq_true hfound).1
    have hfree : w.book.Free (w.object call).callId := by
      rw [object_eq hc]
      exact free_of_type h hc (by rw [hvoip]; decide) (by rw [hvoip]; decide)
    have hbook := book_updateCallState w call .disconnected
    dsimp only
    rw [Program.run_bind, run_updateCallState]
    generalize w.updateCallState call .disconnected = w₁ at hbook ⊢
    have hok₁ : w₁.book.Ok := hbook ▸ h
    split_ifs
    · exact hok₁
    · have hbook₂ : (w₁.setNonVirtualCall call false).book = w₁.book :=
        book_modify_eq fun _ _ => ⟨rfl, rfl⟩
      have hfree₂ : (w₁.setNonVirtualCall call false).book.Free (w.object call).callId := by
        rw [hbook₂, hbook]
        exact hfree
      exact ok_deleteOneCallObject (hbook₂ ▸ hok₁) env hfree₂

/-! ### HOLDING reports -/

/-- Of a pending hang-up nothing has changed. -/
theorem HangUpOk.of_rest (h : w.HangUpOk)
    (hfields : w'.needWaitHold = w.needWaitHold ∧ w'.pendingHangup = w.pendingHangup ∧
      w'.pendingHangupCallId = w.pendingHangupCallId)
    (hfree : w.book.Free w.pendingHangupCallId → w'.book.Free w.pendingHangupCallId) :
    w'.HangUpOk := by
  intro hwait hpending hset
  rw [hfields.1] at hwait
  rw [hfields.2.1] at hpending
  rw [hfields.2.2] at hset ⊢
  exact hfree (h hwait hpending hset)

theorem HangUpOk.createNewCall (h : w.HangUpOk) (env : StatusEnv) (info : CallDetailInfo) :
    (w.createNewCall env info).2.HangUpOk := by
  rcases hnew : w.createNewCall env info with ⟨_ | newCall, w'⟩
  · obtain ⟨-, rfl⟩ := createNewCall_eq_none hnew
    exact h
  · obtain ⟨-, n, -, rfl⟩ := createNewCall_eq_some hnew
    exact h

/-- A new call that is stored, if there is one. -/
theorem hangUpOk_newCall (h : w.HangUpOk) (ins : Insertion) (env : StatusEnv)
    (info : CallDetailInfo) :
    ((do
      match ← CallStatusManager.createNewCall env info with
      | none => return
      | some call => Program.perform (.addOneCallObject call) : StatusProgram PUnit).run
        (statusAction ins env) w).2.HangUpOk := by
  have hcreate := h.createNewCall env info
  rw [Program.run_bind]
  show ((match (w.createNewCall env info).1 with
    | none => _
    | some call => _ : StatusProgram PUnit).run (statusAction ins env)
      (w.createNewCall env info).2).2.HangUpOk
  cases (w.createNewCall env info).1 with
  | none => exact hcreate
  | some call => exact hcreate

/-- The pending call is adopted. -/
theorem HangUpOk.updateDialingCallInfo (h : w.HangUpOk) (hw : w.book.Ok)
    (hnone : w.getOneCallObjectByKey info.index info = none) (ins : Insertion) (env : StatusEnv) :
    (w.updateDialingCallInfo ins env info).2.HangUpOk := by
  unfold StatusWorld.updateDialingCallInfo
  rw [hnone]
  dsimp only
  cases hpending : w.getOneCallObjectByIndex initIndex with
  | none => exact h
  | some call =>
    obtain ⟨c, hc⟩ := heap_of_mem hw.toLoose (List.mem_of_find?_eq_some hpending)
    obtain ⟨d, hd, hkey, -⟩ :=
      refreshCallIfNecessary_object (hw.callsOk.live call _ (book_calls hc)).1 ins hc env info
    have hid : d.callId = c.callId :=
      (congrArg CallKey.callId hkey).trans (refreshed_callId env c info)
    have hfree : ∀ other, other ≠ c.callId → w.book.Free other →
        (w.refreshCallIfNecessary ins env call info).2.book.Free other := by
      intro other hne hother
      exact free_refreshCallIfNecessary hother (by rwa [object_eq hc]) ins env info
    obtain ⟨heap, nextRef, store, cs, hrest, -⟩ := refreshCallIfNecessary_rest w ins env call info
    dsimp only
    rcases hcall' : w.refreshCallIfNecessary ins env call info with ⟨call', w₁⟩
    rw [hcall'] at hd hfree hrest
    dsimp only at hd hfree hrest ⊢
    refine hangUpOk_clearPendingState (fun _ => h) ?_ ?_ hfree
    · rw [w₁.modify_object_callId call' call' fun c => c.adopt_callId info _, object_eq hd, hid]
    · rw [hrest]
      exact ⟨rfl, rfl, rfl⟩

theorem HangUpOk.createAndSaveNewCall (h : w.HangUpOk) (hw : w.book.Ok)
    (hnone : w.getOneCallObjectByKey info.index info = none) (ins : Insertion) (env : StatusEnv) :
    ((CallStatusManager.createAndSaveNewCall ins env info).run
      (statusAction ins env) w).2.HangUpOk := by
  show ((if (w.getOneCallObjectByIndex initIndex).isSome = true then _ else _ :
    StatusProgram PUnit).run (statusAction ins env) w).2.HangUpOk
  split_ifs
  · exact h.updateDialingCallInfo hw hnone ins env
  · exact hangUpOk_newCall h ins env info

/-- A HOLDING report of a Bluetooth call stores one at most at first. -/
theorem HangUpOk.handleBluetoothCallReportInfo (h : w.HangUpOk) (hstate : info.state = .holding)
    (ins : Insertion) (env : StatusEnv) :
    ((CallStatusManager.handleBluetoothCallReportInfo env info).run
      (statusAction ins env) w).2.HangUpOk := by
  unfold CallStatusManager.handleBluetoothCallReportInfo
  rw [hstate]
  by_cases hindex : info.index ≤ 0
  · rw [if_pos (.inr (.inr hindex))]
    exact h
  · rw [if_neg (by simp [hindex])]
    show ((if (w.getOneCallObjectByKey info.index info).isSome = true ∨
      TelCallState.holding = .disconnected then _ else _ :
        StatusProgram PUnit).run (statusAction ins env) w).2.HangUpOk
    by_cases hcall : (w.getOneCallObjectByKey info.index info).isSome = true ∨
      TelCallState.holding = .disconnected
    · rw [if_pos hcall]
      exact h
    · rw [if_neg hcall]
      exact hangUpOk_newCall h ins env info

/-- A call that is converted into a conference call of the CS conference cannot
    be put on hold with it. -/
theorem HangUpOk.refreshCallIfNecessary (h : w.HangUpOk) (hw : w.book.Ok)
    (hc : w.heap call = some c) (ins : Insertion) (env : StatusEnv)
    (hhold : info.mpty = 1 → (w.refreshCallIfNecessary ins env call info).2.HoldOk
      (w.refreshCallIfNecessary ins env call info).1) :
    (w.refreshCallIfNecessary ins env call info).2.HangUpOk := by
  have hfree : w.pendingHangupCallId ≠ c.callId → w.book.Free w.pendingHangupCallId →
      (w.refreshCallIfNecessary ins env call info).2.book.Free w.pendingHangupCallId :=
    fun hne hfree => free_refreshCallIfNecessary hfree (by rwa [object_eq hc]) ins env info
  obtain ⟨d, hd, hkey, hclass⟩ :=
    refreshCallIfNecessary_object (hw.callsOk.live call _ (book_calls hc)).1 ins hc env info
  have hid : d.callId = c.callId := (congrArg CallKey.callId hkey).trans (refreshed_callId env c info)
  obtain ⟨heap, nextRef, store, cs, hrest, hcs⟩ := refreshCallIfNecessary_rest w ins env call info
  rw [object_eq hc] at hcs
  refine h.of_rest ?_ fun hpending => ?_
  · rw [hrest]
    exact ⟨rfl, rfl, rfl⟩
  by_cases hne : w.pendingHangupCallId = c.callId
  swap
  · exact hfree hne hpending
  rcases hcs with rfl | ⟨⟨hims, hinfo, hmpty⟩, rfl⟩
  · rw [hrest]
    exact hpending
  · have hcs : d.objectType = .cs := by
      have hconv : Converts c info := ⟨by rw [hims, hinfo]; decide, by rw [hinfo]; decide⟩
      rw [hclass, refreshed, if_pos hconv, CallBase.newCall, if_neg hconv.2]
      exact hinfo
    have hnot := hhold hmpty
    unfold HoldOk at hnot
    rw [object_eq hd, hcs] at hnot
    refine absurd ?_ hnot
    rw [hrest, hid]
    exact Finset.mem_insert_self _ _

theorem holdConference_members (conference : Conference) (callId : ℤ) :
    (conference.holdConference callId).2.subCallIdSet = conference.subCallIdSet ∧
      (conference.holdConference callId).2.mainCallId = conference.mainCallId := by
  unfold Conference.holdConference
  by_cases hmem : callId ∈ conference.subCallIdSet
  · rw [if_neg (not_not_intro hmem), if_neg (Finset.ne_empty_of_mem hmem)]
    split_ifs <;> exact ⟨rfl, rfl⟩
  · rw [if_pos hmem]
    split_ifs <;> exact ⟨rfl, rfl⟩

theorem HangUpOk.holdConference (h : w.HangUpOk) (call : Ref) :
    (w.holdConference call).2.HangUpOk := by
  have hcs := holdConference_members w.csConference (w.object call).callId
  have hims := holdConference_members w.imsConference (w.object call).callId
  unfold StatusWorld.holdConference
  dsimp only
  cases (w.object call).objectType with
  | cs =>
    dsimp only
    split_ifs
    all_goals
      refine h.of_rest ⟨rfl, rfl, rfl⟩ fun ⟨hset, hset', hmain, hmain'⟩ => ⟨hset, ?_, hmain, ?_⟩
      · exact fun hmem => hset' (hcs.1 ▸ hmem)
      · exact fun heq => hmain' (hcs.2 ▸ heq)
  | ims =>
    dsimp only
    split_ifs
    all_goals
      refine h.of_rest ⟨rfl, rfl, rfl⟩ fun ⟨hset, hset', hmain, hmain'⟩ => ⟨?_, hset', ?_, hmain'⟩
      · exact fun hmem => hset (hims.1 ▸ hmem)
      · exact fun heq => hmain (hims.2 ▸ heq)
  | ott =>
    dsimp only
    split_ifs <;> exact h
  | satellite | voip | bluetooth | errCall => exact h

/-- The end of `HoldingHandle`. -/
theorem ok_updateCallStateAndHandleDsdsMode (h : w.book.Ok)
    (hhang : env.isDsdaMode = true → w.HangUpOk) (call : Ref) (ins : Insertion) :
    ((CallStatusManager.updateCallStateAndHandleDsdsMode env call).run
      (statusAction ins env) w).2.book.Ok := by
  unfold CallStatusManager.updateCallStateAndHandleDsdsMode
  have hbook := book_updateCallState w call .holding
  obtain ⟨heap, notifications, hrest⟩ := updateCallState_rest w call .holding
  have hhang' : env.isDsdaMode = true → (w.updateCallState call .holding).HangUpOk := by
    rw [hrest]
    exact hhang
  rw [Program.run_bind, run_updateCallState]
  generalize w.updateCallState call .holding = w₁ at hbook hhang' ⊢
  have hok₁ : w₁.book.Ok := hbook ▸ h
  show ((if env.isDsdaMode = true ∧ w₁.needWaitHold = true ∧ w₁.getCallNum .active = 0 then _ else _ :
    StatusProgram ErrorCode).run (statusAction ins env) w₁).2.book.Ok
  split_ifs with hdial
  · have hdeferred := (ok_deferredDial hok₁ (hhang' hdial.1) ins env).1
    rw [if_pos hdial.2] at hdeferred
    rw [Program.run_bind, Program.run_bind]
    exact hdeferred
  · exact hok₁

/-- `HoldingHandle` from the lookup on. -/
theorem ok_holdingCall (h : w.book.Ok) (hhang : env.isDsdaMode = true → w.HangUpOk)
    (hmeets : (do
      let w ← Program.get
      match w.getOneCallObjectByKey info.index info with
      | none => return .telephonyErrLocalPtrNull
      | some call => do
        let call ← CallStatusManager.refreshCallIfNecessary ins env call info
        if info.mpty = 1 then
          Program.perform (.holdConference call)
        CallStatusManager.updateCallStateAndHandleDsdsMode env call : StatusProgram ErrorCode).Meets
          (statusAction ins env) (ActionInStep ins) w) :
    ((do
      let w ← Program.get
      match w.getOneCallObjectByKey info.index info with
      | none => return .telephonyErrLocalPtrNull
      | some call => do
        let call ← CallStatusManager.refreshCallIfNecessary ins env call info
        if info.mpty = 1 then
          Program.perform (.holdConference call)
        CallStatusManager.updateCallStateAndHandleDsdsMode env call : StatusProgram ErrorCode).run
          (statusAction ins env) w).2.book.Ok := by
  have hmeets := (Program.meets_bind _ _ w).mp hmeets |>.2
  rw [Program.run_bind]
  change Program.Meets _ _ (match w.getOneCallObjectByKey info.index info with
    | none => _
    | some call => _) w at hmeets
  show (Program.run _ (match w.getOneCallObjectByKey info.index info with
    | none => _
    | some call => _) w).2.book.Ok
  cases hcall : w.getOneCallObjectByKey info.index info with
  | none => exact h
  | some call =>
    rw [hcall] at hmeets
    dsimp only at hmeets ⊢
    obtain ⟨c, hc⟩ := heap_of_mem h.toLoose (List.mem_of_find?_eq_some hcall)
    obtain ⟨hrefresh, hmeets⟩ := (Program.meets_bind _ _ w).mp hmeets
    have hrefresh : w.RefreshOk ins call info := hrefresh.1
    have hok₁ := (ok_refreshCallIfNecessary h env hc hrefresh).1
    rw [Program.run_bind]
    have hrun : (CallStatusManager.refreshCallIfNecessary ins env call info).run
        (statusAction ins env) w = w.refreshCallIfNecessary ins env call info := rfl
    rw [hrun] at hmeets ⊢
    by_cases hmpty : info.mpty = 1
    · rw [if_pos hmpty] at hmeets ⊢
      have hhold : (w.refreshCallIfNecessary ins env call info).2.HoldOk
        (w.refreshCallIfNecessary ins env call info).1 := ((Program.meets_bind _ _ _).mp hmeets).1.1
      rw [Program.run_bind]
      refine ok_updateCallStateAndHandleDsdsMode (ok_holdConference hok₁ hhold) (fun hdsda => ?_) _ ins
      exact ((hhang hdsda).refreshCallIfNecessary h hc ins env fun _ => hhold).holdConference _
    · rw [if_neg hmpty]
      refine ok_updateCallStateAndHandleDsdsMode hok₁ (fun hdsda => ?_) _ ins
      exact (hhang hdsda).refreshCallIfNecessary h hc ins env fun heq => absurd heq hmpty

theorem ok_holdingHandle (h : w.book.Ok) (hhang : env.isDsdaMode = true → w.HangUpOk)
    (hmeets : (CallStatusManager.holdingHandle ins env info).Meets (statusAction ins env)
      (ActionInStep ins) w) :
    ((CallStatusManager.holdingHandle ins env info).run (statusAction ins env) w).2.book.Ok := by
  unfold CallStatusManager.holdingHandle at hmeets ⊢
  have hmeets := (Program.meets_bind _ _ w).mp hmeets |>.2
  rw [Program.run_bind]
  by_cases hnew : (w.getOneCallObjectByKey info.index info).isNone = true ∧
      env.isDcCallConneceted = true
  · change Program.Meets _ _ (if (w.getOneCallObjectByKey info.index info).isNone = true ∧
      env.isDcCallConneceted = true then _ else _) w at hmeets
    show (Program.run _ (if (w.getOneCallObjectByKey info.index info).isNone = true ∧
      env.isDcCallConneceted = true then _ else _) w).2.book.Ok
    rw [if_pos hnew] at hmeets ⊢
    obtain ⟨hsave, hmeets⟩ := (Program.meets_bind _ _ w).mp hmeets
    rw [Program.run_bind]
    refine ok_holdingCall (ok_program h CallStatusManager.createAndSaveNewCall_keeps hsave)
      (fun hdsda => ?_) hmeets
    exact (hhang hdsda).createAndSaveNewCall h (Option.isNone_iff_eq_none.mp hnew.1) ins env
  · change Program.Meets _ _ (if (w.getOneCallObjectByKey info.index info).isNone = true ∧
      env.isDcCallConneceted = true then _ else _) w at hmeets
    show (Program.run _ (if (w.getOneCallObjectByKey info.index info).isNone = true ∧
      env.isDcCallConneceted = true then _ else _) w).2.book.Ok
    rw [if_neg hnew] at hmeets ⊢
    exact ok_holdingCall h hhang hmeets

/-! ### DISCONNECTED reports -/

/-- The program goes on to convert the call, if it has to. -/
theorem refreshOk_of_disconnectCall
    (hmeets : (CallStatusManager.disconnectCall ins env call info).Meets (statusAction ins env)
      (ActionInStep ins) w) : w.RefreshOk ins call info :=
  ((Program.meets_bind _ _ w).mp hmeets).1.1

theorem ok_disconnectedHandle (h : w.book.Ok)
    (hok : match w.getOneCallObjectByKey info.index info with
      | some call => w.LeaveOk env call info
      | none =>
        let (call, w) := (CallStatusManager.refreshDialingStateByOtherState ins env info).run
          (statusAction ins env) w
        ∀ found ∈ call, w.LeaveOk env found info)
    (hmeets : (CallStatusManager.disconnectedHandle ins env info).Meets (statusAction ins env)
      (ActionInStep ins) w) :
    ((CallStatusManager.disconnectedHandle ins env info).run (statusAction ins env)
      w).2.book.Ok := by
  unfold CallStatusManager.disconnectedHandle at hmeets ⊢
  have hmeets := (Program.meets_bind _ _ w).mp hmeets |>.2
  rw [Program.run_bind]
  change Program.Meets _ _ (match w.getOneCallObjectByKey info.index info with
    | some call => _
    | none => _) w at hmeets
  show (Program.run _ (match w.getOneCallObjectByKey info.index info with
    | some call => _
    | none => _) w).2.book.Ok
  cases hcall : w.getOneCallObjectByKey info.index info with
  | some call =>
    rw [hcall] at hmeets hok
    obtain ⟨c, hc⟩ := heap_of_mem h.toLoose (List.mem_of_find?_eq_some hcall)
    exact ok_disconnectCall h hc (refreshOk_of_disconnectCall hmeets) hok
  | none =>
    rw [hcall] at hmeets hok
    dsimp only at hmeets hok ⊢
    obtain ⟨hdial, hmeets⟩ := (Program.meets_bind _ _ w).mp hmeets
    have hok₁ := ok_program h CallStatusManager.refreshDialingStateByOtherState_keeps hdial
    rw [Program.run_bind]
    rcases hrun : (CallStatusManager.refreshDialingStateByOtherState ins env info).run
      (statusAction ins env) w with ⟨_ | call, w₁⟩
    · rw [hrun] at hok₁
      exact hok₁
    · have hfound : w₁.getOneCallObjectByKey info.index info = some call := by
        have hlookup := CallStatusManager.refreshDialingStateByOtherState_found (congrArg Prod.fst hrun)
        rwa [hrun] at hlookup
      rw [hrun] at hok₁ hok hmeets
      obtain ⟨c, hc⟩ := heap_of_mem hok₁.toLoose (List.mem_of_find?_eq_some hfound)
      exact ok_disconnectCall hok₁ hc (refreshOk_of_disconnectCall hmeets) (hok call rfl)

/-! ### The report -/

/-- A DISCONNECTED report of a Bluetooth call does nothing at first. -/
theorem run_handleBluetoothCallReportInfo_disconnected (hstate : info.state = .disconnected)
    (ins : Insertion) (env : StatusEnv) (w : StatusWorld) :
    ((CallStatusManager.handleBluetoothCallReportInfo env info).run
      (statusAction ins env) w).2 = w := by
  unfold CallStatusManager.handleBluetoothCallReportInfo
  rw [hstate]
  by_cases hindex : info.index ≤ 0
  · rw [if_pos (.inr (.inr hindex))]
    rfl
  · rw [if_neg (by simp [hindex])]
    show (Program.run _ (if (w.getOneCallObjectByKey info.index info).isSome = true ∨
      TelCallState.disconnected = .disconnected then _ else _ : StatusProgram PUnit) w).2 = w
    rw [if_pos (.inr rfl)]
    rfl

/-- The report of a call that is no VoIP call, for its state. -/
theorem ok_stateHandle (h : w.book.Ok) (hvoip : info.callType ≠ .voip)
    (hdisconnected : info.state = .disconnected → w.EndsOk ins env info)
    (hholding : info.state = .holding → env.isDsdaMode = true → w.HangUpOk)
    (hmeets : (match info.state with
      | .active => CallStatusManager.activeHandle ins env info
      | .holding => CallStatusManager.holdingHandle ins env info
      | .dialing => CallStatusManager.dialingHandle ins env info
      | .alerting => CallStatusManager.alertHandle ins env info
      | .incoming | .waiting => CallStatusManager.incomingHandle ins env info
      | .disconnected => CallStatusManager.disconnectedHandle ins env info
      | .disconnecting => CallStatusManager.disconnectingHandle ins env info
      | .unknown | .idle | .answered => pure .telephonyErrFail).Meets (statusAction ins env)
        (ActionInStep ins) w) :
    ((match info.state with
      | .active => CallStatusManager.activeHandle ins env info
      | .holding => CallStatusManager.holdingHandle ins env info
      | .dialing => CallStatusManager.dialingHandle ins env info
      | .alerting => CallStatusManager.alertHandle ins env info
      | .incoming | .waiting => CallStatusManager.incomingHandle ins env info
      | .disconnected => CallStatusManager.disconnectedHandle ins env info
      | .disconnecting => CallStatusManager.disconnectingHandle ins env info
      | .unknown | .idle | .answered => pure .telephonyErrFail).run
        (statusAction ins env) w).2.book.Ok := by
  cases hstate : info.state with
  | disconnected =>
    rw [hstate] at hmeets
    have hok := hdisconnected hstate hvoip
    rw [hstate] at hok
    exact ok_disconnectedHandle h hok hmeets
  | holding =>
    rw [hstate] at hmeets
    exact ok_holdingHandle h (hholding hstate) hmeets
  | active =>
    rw [hstate] at hmeets
    exact ok_program h CallStatusManager.activeHandle_keeps hmeets
  | dialing =>
    rw [hstate] at hmeets
    exact ok_program h (CallStatusManager.dialingHandle_keeps info) hmeets
  | alerting =>
    rw [hstate] at hmeets
    exact ok_program h CallStatusManager.alertHandle_keeps hmeets
  | incoming | waiting =>
    rw [hstate] at hmeets
    exact ok_program h CallStatusManager.incomingHandle_keeps hmeets
  | disconnecting =>
    rw [hstate] at hmeets
    exact ok_program h CallStatusManager.disconnectingHandle_keeps hmeets
  | unknown | idle | answered => exact h

/-- The step lemma for reports. -/
theorem ok_report (h : w.book.Ok) (hends : w.EndsOk ins env info)
    (hmeets : (CallStatusManager.handleCallReportInfo ins env info).Meets (statusAction ins env)
      (ActionInStep ins) w) :
    ((CallStatusManager.handleCallReportInfo ins env info).run (statusAction ins env)
      w).2.book.Ok := by
  unfold CallStatusManager.handleCallReportInfo at hmeets ⊢
  have hholding : info.callType ≠ .voip → info.state = .holding → env.isDsdaMode = true →
      w.HangUpOk := by
    intro hvoip hstate
    have hok := hends hvoip
    rw [hstate] at hok
    exact hok
  by_cases hvoip : info.callType = .voip
  · rw [if_pos hvoip] at hmeets ⊢
    by_cases hstate : info.state = .disconnected
    · have hhandle : CallStatusManager.handleVoipCallReportInfo env info =
          CallStatusManager.disconnectedVoipCallHandle env info := by
        rw [CallStatusManager.handleVoipCallReportInfo, hstate]
      rw [hhandle]
      exact ok_disconnectedVoipCallHandle h
    · exact ok_program h (CallStatusManager.handleVoipCallReportInfo_keeps hstate) hmeets
  · rw [if_neg hvoip] at hmeets ⊢
    dsimp only at hmeets ⊢
    split_ifs at hmeets ⊢ with hbluetooth
    · obtain ⟨hfirst, hmeets⟩ := (Program.meets_bind _ _ w).mp hmeets
      rw [Program.run_bind]
      refine ok_stateHandle
        (ok_program h CallStatusManager.handleBluetoothCallReportInfo_keeps hfirst) hvoip
        (fun hstate => ?_) (fun hstate hdsda => ?_) hmeets
      · rw [run_handleBluetoothCallReportInfo_disconnected hstate]
        exact hends
      · exact (hholding hvoip hstate hdsda).handleBluetoothCallReportInfo hstate ins env
    · exact ok_stateHandle h hvoip (fun _ => hends) (hholding hvoip) hmeets

/-! ## Combinations -/

/-- The members but `callId` are in a conference by their own state. -/
theorem apart_of_othersApart (h : w.book.Loose) {callId : ℤ} (hothers : w.OthersApart callId)
    {e : CallEntry} (he : w.book.calls call = some e) (hmem : e.callId ∈ w.book.ims.subCallIdSet)
    (hne : e.callId ≠ callId) : w.book.inConference call = true := by
  obtain ⟨hlist, htype, -⟩ := h.ims_of_member he hmem
  obtain ⟨c, hc, rfl⟩ := calls_eq_some he
  have hidle := hothers call hlist
  rw [object_eq hc] at hidle
  have htype' : c.callType = .ims := htype
  rw [book_inConference hc]
  simp [CallBase.inConference, htype', carrierTypes, hidle hmem hne]

theorem combine_eq (conference : Conference) (callId : ℤ) :
    conference.combine callId =
      if callId < errId then conference
      else { conference with mainCallId := callId, state := .creating } := by
  unfold Conference.combine Conference.setMainCall
  by_cases hid : callId < errId
  · rw [if_pos hid, if_pos hid]
    exact if_pos (.inl (by simp))
  · rw [if_neg hid, if_neg hid]
    dsimp only
    by_cases hstate : conference.state = .creating
    · rw [if_pos (.inr hstate), ← hstate]
    · rw [if_neg (by simp [hstate])]
      rfl

/-- The IMS conference gets a main call. -/
theorem ok_combine (h : w.book.Ok) (hmem : call ∈ w.store.callObjectPtrList)
    (hc : w.heap call = some c) (htype : c.callType = .ims)
    (hok : w.imsConference.subCallIdSet.Nonempty →
      c.callId ∈ w.imsConference.subCallIdSet ∧ w.OthersApart c.callId) :
    ({ w with imsConference := w.imsConference.combine c.callId } : StatusWorld).book.Ok := by
  rw [combine_eq]
  split_ifs
  · exact h
  · refine h.setMainCall rfl (fun hne => ⟨by simp, (h.states hne).2⟩)
      (.inr (htype ▸ holds_of_mem hmem hc)) (fun hne => (hok hne).1) fun r e he hin hne => ?_
    exact apart_of_othersApart h.toLoose (hok ⟨_, hin⟩).2 he hin hne

theorem ok_combineConference (h : w.book.Ok) {callId : ℤ} (packOttCallRequestInfo : ErrorCode)
    (hok : w.CombineOk callId) : (w.combineConference callId packOttCallRequestInfo).book.Ok := by
  unfold combineConference
  unfold CombineOk at hok
  split
  · exact h
  · rename_i call hget
    rw [hget] at hok
    obtain ⟨hmem, hid⟩ := (getOneCallObject_iff h.toLoose).mp hget
    obtain ⟨c, hc⟩ := heap_of_mem h.toLoose hmem
    dsimp only at hok
    rw [object_eq hc] at hok hid ⊢
    subst hid
    cases hclass : c.objectType with
    | cs =>
      rw [hclass] at hok
      refine h.setCs ?_
      show ConferenceBook.CsOk w.book (w.csConference.combine c.callId)
      rw [combine_eq]
      split_ifs
      · exact h.csOk
      · exact ⟨h.csOk.members, .inr (hok ▸ holds_of_mem hmem hc), h.csOk.one, by simp,
          h.csOk.states.2⟩
    | ims =>
      rw [hclass] at hok
      exact ok_combine h hmem hc hok.1 hok.2
    | ott =>
      dsimp only
      split_ifs <;> exact h
    | satellite | voip | bluetooth | errCall => exact h

theorem begin_errId_or_mem (set : Finset ℤ) :
    Conference.begin set errId = errId ∨ Conference.begin set errId ∈ set := by
  by_cases hne : set.Nonempty
  · exact .inr (begin_mem hne errId)
  · left
    rw [Conference.begin, dif_neg hne]

theorem combineFailed_eq (conference : Conference) :
    conference.combineFailed =
      if Conference.begin conference.subCallIdSet errId < errId then
        { conference with state := conference.oldState }
      else
        { conference with
          mainCallId := Conference.begin conference.subCallIdSet errId
          state := conference.oldState } := by
  unfold Conference.combineFailed Conference.setMainCall
  split_ifs <;> rfl

theorem ok_combineConferenceFailed (h : w.book.Ok) (hok : w.CombineFailedOk) :
    w.combineConferenceFailed.book.Ok := by
  unfold combineConferenceFailed
  unfold CombineFailedOk at hok
  split
  · exact h
  · rename_i activeCall hfind
    rw [hfind] at hok
    dsimp only at hok
    cases hclass : (w.object activeCall).objectType with
    | cs =>
      have hbegin : Conference.begin w.csConference.subCallIdSet errId = errId ∨
          w.book.Holds (Conference.begin w.csConference.subCallIdSet errId) .cs :=
        (begin_errId_or_mem _).imp_right (h.csOk.members _)
      have hmain := h.csOk.setMainCall hbegin
      exact h.setCs (hmain.setConferenceState hmain.states.2)
    | ims =>
      have hothers := hok hclass
      show ({ w with imsConference := w.imsConference.combineFailed } : StatusWorld).book.Ok
      rw [combineFailed_eq]
      split_ifs with hlt
      · exact h.setMainCall rfl (fun hne => ⟨(h.states hne).2, (h.states hne).2⟩) h.main
          h.mainMember h.apart
      · refine h.setMainCall rfl (fun hne => ⟨(h.states hne).2, (h.states hne).2⟩)
          ((begin_errId_or_mem _).imp_right (h.members _)) (fun hne => begin_mem hne errId)
          fun r e he hin hne => ?_
        exact apart_of_othersApart h.toLoose hothers he hin hne
    | ott => exact h
    | satellite | voip | bluetooth | errCall => exact h

/-! ## Runs -/

/-- The step lemma for operations. -/
theorem ok_statusStep (h : w.book.Ok) {op : StatusOp} (hok : InStep ins w op) :
    (statusStep ins w op).book.Ok := by
  cases op with
  | report env info => exact ok_report h hok.1 hok.2
  | callsReport slotId callVec => exact h
  | waitHold needWaitHold => exact h
  | hangUpPendingCall callId =>
    show (w.hangUpPendingCall callId).book.Ok
    unfold hangUpPendingCall
    split_ifs <;> exact h
  | combineConference callId packOttCallRequestInfo =>
    exact ok_combineConference h packOttCallRequestInfo hok
  | combineConferenceFailed => exact ok_combineConferenceFailed h hok

/-- The run lemma. -/
theorem ok_run (h : w.book.Ok) (ops : List StatusOp)
    (hops : Run.StepsMeet (statusStep ins) (InStep ins) w ops) :
    Run.StatesMeet (statusStep ins) (fun w : StatusWorld => w.book.Ok) w ops :=
  Run.statesMeet_of_stepsMeet (fun _ _ h hok => ok_statusStep h hok) h hops

/-! ## The members and the count -/

theorem ok_init : init.book.Ok where
  callsOk :=
    { live := fun _ _ h => by cases h
      inj := fun _ _ _ _ h => by cases h
      typed := fun _ _ h => by cases h
      listed := fun _ h => by cases h
      nodup := List.nodup_nil }
  members _ h := by cases h
  main := .inl rfl
  states h := by cases h.choose_spec
  member _ _ h := by cases h
  apart _ _ h := by cases h
  csOk :=
    { members := fun _ h => by cases h
      main := .inl rfl
      one := Nat.zero_le 1
      states := by decide }
  mainMember h := by cases h.choose_spec

theorem holds_of_book {callId : ℤ} {callType : CallType} (h : w.book.Holds callId callType) :
    w.Holds callId callType := by
  obtain ⟨call, hmem, e, he, hid, htype⟩ := h
  obtain ⟨c, hc, rfl⟩ := calls_eq_some he
  exact ⟨call, hmem, c, hc, hid, htype⟩

theorem membersLive (h : w.book.Ok) : w.MembersLive :=
  ⟨fun _ hmem => holds_of_book (h.members _ hmem),
    fun hne => holds_of_book (h.main.resolve_left hne),
    fun _ hmem => holds_of_book (h.csOk.members _ hmem),
    fun hne => holds_of_book (h.csOk.main.resolve_left hne)⟩

/-- What is counted of the list of the carrier calls is counted of the stored calls. -/
theorem countP_getCarrierCallList (w : StatusWorld) (p : ℤ → Bool) :
    w.getCarrierCallList.countP p =
      w.store.callObjectPtrList.countP fun it =>
        p (w.object it).callId && decide ((w.object it).callType ∈ carrierTypes) := by
  rw [getCarrierCallList, List.countP_map, StoredCalls.getCarrierCallList, List.countP_filter]
  rfl

theorem countsOnce (h : w.book.Ok) : w.CountsOnce := by
  have hcount := h.countP_counted
  have hcurrent : w.getCurrentCallNum = w.book.list.countP w.book.counted := by
    rw [getCurrentCallNum, countP_getCarrierCallList]
    refine List.countP_congr fun r hr => ?_
    obtain ⟨c, hc⟩ := heap_of_mem h.toLoose hr
    have hget := (getOneCallObject_iff h.toLoose).mpr ⟨hr, rfl⟩
    rw [object_eq hc] at hget
    rw [object_eq hc, hget, ConferenceBook.counted, book_calls hc, book_inConference hc]
    dsimp only
    rw [object_eq hc]
    simp only [CallBase.inConference, CallBase.entry, book, Bool.and_eq_true, decide_eq_true_eq]
    by_cases hidle : c.conferenceState = .idle <;> by_cases hcarrier : c.callType ∈ carrierTypes <;>
      simp [hidle, hcarrier, CountsAsCurrent]
  have halone : (w.getCarrierCallList.countP fun callId =>
      callId ∉ w.imsConference.subCallIdSet ∧ callId ∉ w.csConference.subCallIdSet) =
      w.book.list.countP w.book.alone := by
    rw [countP_getCarrierCallList]
    refine List.countP_congr fun r hr => ?_
    obtain ⟨c, hc⟩ := heap_of_mem h.toLoose hr
    rw [object_eq hc, ConferenceBook.alone, book_calls hc]
    simp only [Bool.and_eq_true, decide_eq_true_eq]
    exact and_comm
  rw [CountsOnce, hcurrent, halone, hcount]
  rfl

end StatusWorld

/-- **Main theorem.** From a state in which the calls and the conferences agree, in a run whose
    actions convert calls, let them join and hold, and make main calls in step with the
    conferences, and whose disconnected calls are members of the conferences they are the main
    calls of, every member and main call is a stored call of its conference's type, and each
    conference and each other carrier call counts once, in every state of the run. -/
theorem conference_membership (ins : Insertion) {w : StatusWorld} (hw : w.book.Ok)
    (ops : List StatusOp) (hops : Run.StepsMeet (statusStep ins) (InStep ins) w ops) :
    Run.StatesMeet (statusStep ins) (fun w => w.MembersLive ∧ w.CountsOnce) w ops :=
  (StatusWorld.ok_run hw ops hops).mono fun _ h =>
    ⟨StatusWorld.membersLive h, StatusWorld.countsOnce h⟩

/-- Two IMS calls that become a conference: they are dialed and answered, the
    first is combined, and an ACTIVE report finds both in a conference. -/
def conferenceOps : List StatusOp :=
  [.report modemEnv (slotCall .ims 1 .dialing 0), .report modemEnv (slotCall .ims 1 .active 0),
    .report modemEnv (slotCall .ims 2 .dialing 0), .report modemEnv (slotCall .ims 2 .active 0),
    .combineConference 1 .telephonySuccess,
    .callsReport 0 [slotCall .ims 1 .active 1, slotCall .ims 2 .active 1],
    .report modemEnv (slotCall .ims 1 .active 1)]

/-- The conference is formed, put on hold, and ended by the second call. -/
theorem conference_membership_formed :
    Run.StatesMeet (statusStep .restored) (fun w => w.MembersLive ∧ w.CountsOnce) StatusWorld.init
      (conferenceOps ++ [.report modemEnv (slotCall .ims 1 .holding 1),
        .report modemEnv (slotCall .ims 2 .disconnected 1)]) :=
  conference_membership .restored StatusWorld.ok_init _ (by decide)

/-- A member of no stored IMS call. -/
theorem not_membersLive {w : StatusWorld} (callId : ℤ) (hmem : callId ∈ w.imsConference.subCallIdSet)
    (hgone : ∀ call ∈ w.store.callObjectPtrList,
      (w.object call).callId = callId → (w.object call).callType ≠ .ims) : ¬ w.MembersLive := by
  rintro ⟨hlive, -⟩
  obtain ⟨call, hcall, c, hc, hid, htype⟩ := hlive callId hmem
  rw [← StatusWorld.object_eq hc] at hid htype
  exact hgone call hcall hid htype

/-- The report that converts the first of two conference calls from IMS to CS leaves its id in
    the IMS conference: in a run from the start whose calls are put on the list, and, as the
    list is left alone, in the state with the two calls on it. -/
theorem conversion_leaves_conference :
    ¬ Run.StatesMeet (statusStep .restored) StatusWorld.MembersLive StatusWorld.init
        (conferenceOps ++ [.report modemEnv (slotCall .cs 1 .active 1)]) ∧
      (Run.run (statusStep .restored) StatusWorld.init conferenceOps).book.Ok ∧
        ¬ (statusStep .asWritten (Run.run (statusStep .restored) StatusWorld.init conferenceOps)
          (.report modemEnv (slotCall .cs 1 .active 1))).MembersLive := by
  refine ⟨fun h => ?_, ?_, ?_⟩
  · have hlast := h.last
    rw [Run.run_append] at hlast
    exact not_membersLive 1 (by decide +kernel) (by decide +kernel) hlast
  · exact (StatusWorld.ok_run StatusWorld.ok_init conferenceOps (by decide)).last
  · exact not_membersLive 1 (by decide +kernel) (by decide +kernel)

end CallManager
