import CallManager.CallStatusManager
import CallManager.Library.KeyedLog

/-!
# The chain of state notifications

The observers of call states are told the prior and the next state of a call,
and they keep their own books by both. So the notifications of a call have to
form a chain: each one starts in the state in which the one before it ended.

They do if every state that a handler writes without a notification is the one
last notified. Two functions write states of calls that have been notified:
`UpdateDialingCallInfo` gives the pending call the state of the report that
adopts it, and `BtCallDialingHandleFirst` sets an alerting call back to
DIALING.

Results:
* `notifications_chain`: in a run whose writes are of that kind, the
  notifications of each call form a chain, and each call is in the state last
  notified of it.
* `active_report_adopts_pending_call`: with the distributed modem connected,
  an ACTIVE report adopts the pending call as ACTIVE and then notifies
  ACTIVE → ACTIVE.
-/

namespace CallManager

/-! ## Specification -/

/-- The latest notification of a call id. -/
def StatusWorld.lastNotification (w : StatusWorld) (callId : ℤ) : Option Notification :=
  KeyedLog.last? Notification.callId w.notifications callId

/-- The notifications of each call id form a chain. -/
def StatusWorld.NotificationsChain (w : StatusWorld) : Prop :=
  KeyedLog.Chained Notification.callId (fun last n => n.priorState = last.nextState)
    w.notifications

/-- Every call object is in the state last notified of its id. -/
def StatusWorld.StatesNotified (w : StatusWorld) : Prop :=
  ∀ call c, w.heap call = some c → ∀ last ∈ w.lastNotification c.callId,
    last.nextState = c.callState

/-- The state `nextState` may be written to the call without a notification:
    it is the one last notified, or none has been notified. -/
def StatusWorld.Writable (w : StatusWorld) (call : Ref) (nextState : TelCallState) : Prop :=
  ∀ last ∈ w.lastNotification (w.object call).callId, last.nextState = nextState

/-- The pending call that `UpdateDialingCallInfo` adopts, if it does. -/
def StatusWorld.adopted (w : StatusWorld) (info : CallDetailInfo) : Option Ref :=
  if (w.getOneCallObjectByKey info.index info).isSome then none
  else w.getOneCallObjectByIndex StatusWorld.initIndex

/-- What `BtCallDialingHandleFirst` may write for an ALERTING report: a pending call that is
    adopted becomes ALERTING, the call at hand is set back to DIALING. -/
def StatusWorld.FirstOk (w : StatusWorld) (call : Ref) (info : CallDetailInfo) : Prop :=
  match w.adopted info with
  | none => (w.object call).callState = .alerting → w.Writable call .dialing
  | some pending =>
    if pending = call ∧ (w.object call).callType = info.callType then w.Writable call .dialing
    else
      w.Writable pending .alerting ∧
        ((w.object call).callState = .alerting → w.Writable call .dialing)

/-- The condition on an action: it writes no state behind the observers' back. -/
def ActionOk (w : StatusWorld) : StatusAction → Prop
  | .setTelCallState call nextState => w.Writable call nextState
  | .updateDialingCallInfo info => ∀ pending ∈ w.adopted info, w.Writable pending info.state
  | .btCallDialingHandleFirst call info =>
    info.state = .alerting →
      (w.setPhoneOrWatchDial call CallObjectManager.watchDial).FirstOk call info
  | _ => True

/-- The condition on an operation: every action of the handler of a report is of that kind. -/
def StatusOk (ins : Insertion) (w : StatusWorld) : StatusOp → Prop
  | .report env info =>
    (CallStatusManager.handleCallReportInfo ins env info).Meets (statusAction ins env) ActionOk w
  | _ => True

namespace StatusWorld

instance (w : StatusWorld) (call : Ref) (nextState : TelCallState) :
    Decidable (w.Writable call nextState) :=
  inferInstanceAs (Decidable (∀ last ∈ _, _))

instance (w : StatusWorld) (call : Ref) (info : CallDetailInfo) :
    Decidable (w.FirstOk call info) := by
  unfold FirstOk
  split <;> infer_instance

end StatusWorld

instance (w : StatusWorld) : (a : StatusAction) → Decidable (ActionOk w a)
  | .setTelCallState call nextState => inferInstanceAs (Decidable (w.Writable call nextState))
  | .updateDialingCallInfo info =>
    inferInstanceAs (Decidable (∀ pending ∈ w.adopted info, w.Writable pending info.state))
  | .btCallDialingHandleFirst call info =>
    inferInstanceAs (Decidable (info.state = .alerting →
      (w.setPhoneOrWatchDial call CallObjectManager.watchDial).FirstOk call info))
  | .createNewCall _ | .addOneCallObject _ | .deleteOneCallObject _ | .updateCallState _ _
  | .refreshCallIfNecessary _ _ | .setPhoneOrWatchDial _ _ | .dialingProcess _
  | .incomingCallBase _ | .setNonVirtualCall _ _ | .clearPendingState _ | .setPendingMo _
  | .clearPendingHangup | .clearNeedWaitHold | .setConferenceCall _ | .exitConference _
  | .holdConference _ | .endConferenceOfOne _ => .isTrue trivial

instance (ins : Insertion) (w : StatusWorld) : (op : StatusOp) → Decidable (StatusOk ins w op)
  | .report env info =>
    inferInstanceAs (Decidable ((CallStatusManager.handleCallReportInfo ins env info).Meets
      (statusAction ins env) ActionOk w))
  | .callsReport _ _ | .waitHold _ | .hangUpPendingCall _ | .combineConference _ _
  | .combineConferenceFailed => .isTrue trivial

/-! ## Writes to the call objects -/

namespace StatusWorld

variable {w w' w'' : StatusWorld} {P : CallBase → CallBase → Prop} {ins : Insertion}
  {env : StatusEnv}

/-- `w'` has objects of `w` only, each with its id and with fields related by
    `P`, and nothing has been created or notified. -/
structure Writes (P : CallBase → CallBase → Prop) (w w' : StatusWorld) : Prop where
  heap : ∀ call c', w'.heap call = some c' →
    ∃ c, w.heap call = some c ∧ c'.callId = c.callId ∧ P c c'
  nextRef : w'.nextRef = w.nextRef
  callId : w'.store.callId = w.store.callId
  notifications : w'.notifications = w.notifications

/-- The fields related are the states, which stay as they are. -/
abbrev Quiet (w w' : StatusWorld) : Prop :=
  Writes (fun c c' => c'.callState = c.callState) w w'

theorem Writes.of_heap (hP : ∀ c, P c c) (hheap : w'.heap = w.heap)
    (hnextRef : w'.nextRef = w.nextRef) (hcallId : w'.store.callId = w.store.callId)
    (hnotifications : w'.notifications = w.notifications) : Writes P w w' where
  heap _ c' h := ⟨c', hheap ▸ h, rfl, hP c'⟩
  nextRef := hnextRef
  callId := hcallId
  notifications := hnotifications

theorem Writes.refl (hP : ∀ c, P c c) : Writes P w w := Writes.of_heap hP rfl rfl rfl rfl

theorem Writes.trans (hP : ∀ a b c, b.callId = a.callId → P a b → P b c → P a c)
    (h : Writes P w w') (h' : Writes P w' w'') : Writes P w w'' where
  heap call c'' hc'' := by
    obtain ⟨c', hc', hid', hP'⟩ := h'.heap call c'' hc''
    obtain ⟨c, hc, hid, hPc⟩ := h.heap call c' hc'
    exact ⟨c, hc, hid'.trans hid, hP c c' c'' hid hPc hP'⟩
  nextRef := h'.nextRef.trans h.nextRef
  callId := h'.callId.trans h.callId
  notifications := h'.notifications.trans h.notifications

theorem Writes.modify {call : Ref} {f : CallBase → CallBase} (hP : ∀ c, P c c)
    (hf : ∀ c, w.heap call = some c → (f c).callId = c.callId ∧ P c (f c)) :
    Writes P w (w.modify call f) where
  heap r c' h := by
    by_cases hr : r = call
    · rw [hr, modify_heap_self] at h
      obtain ⟨c, hc, rfl⟩ := Option.map_eq_some_iff.mp h
      exact ⟨c, hr ▸ hc, hf c hc⟩
    · rw [modify_heap_of_ne w f hr] at h
      exact ⟨c', h, rfl, hP c'⟩
  nextRef := rfl
  callId := rfl
  notifications := rfl

theorem Quiet.trans (h : Quiet w w') (h' : Quiet w' w'') : Quiet w w'' :=
  Writes.trans (fun _ _ _ _ hab hbc => hbc.trans hab) h h'

theorem Quiet.of_heap (hheap : w'.heap = w.heap) (hnextRef : w'.nextRef = w.nextRef)
    (hcallId : w'.store.callId = w.store.callId)
    (hnotifications : w'.notifications = w.notifications) : Quiet w w' :=
  Writes.of_heap (fun _ => rfl) hheap hnextRef hcallId hnotifications

theorem Quiet.refl : Quiet w w := Writes.refl fun _ => rfl

theorem Quiet.modify {call : Ref} {f : CallBase → CallBase}
    (hf : ∀ c, (f c).callId = c.callId ∧ (f c).callState = c.callState) :
    Quiet w (w.modify call f) :=
  Writes.modify (fun _ => rfl) fun c _ => hf c

theorem Quiet.addOneCallObject (ins : Insertion) (env : StatusEnv) (call : Ref) :
    Quiet w (w.addOneCallObject ins env call) := by
  refine Quiet.of_heap rfl rfl ?_ rfl
  unfold StatusWorld.addOneCallObject
  dsimp only
  split_ifs
  · rfl
  · exact Insertion.addOneCallObject_callId

theorem Quiet.deleteOneCallObject (env : StatusEnv) (callId : ℤ) :
    Quiet w (w.deleteOneCallObject env callId) :=
  Quiet.of_heap rfl rfl (CallObjectManager.deleteOneCallObject_callId env.store callId) rfl

/-! ## The invariant -/

/-- The ids of the objects are their own and have been given out, as have those of the log. -/
structure Numbered (w : StatusWorld) : Prop where
  live : ∀ call c, w.heap call = some c → call < w.nextRef ∧ c.callId ≤ w.store.callId
  inj : ∀ call call' c c', w.heap call = some c → w.heap call' = some c' →
    c.callId = c'.callId → call = call'
  logged : ∀ n ∈ w.notifications, n.callId ≤ w.store.callId

/-- The notifications form chains, and every object is in the state last notified of it. -/
structure Synced (w : StatusWorld) : Prop extends Numbered w where
  states : w.StatesNotified
  chain : w.NotificationsChain

theorem Synced.init : Synced init where
  live _ _ h := nomatch h
  inj _ _ _ _ h := nomatch h
  logged _ h := nomatch h
  states _ _ h := nomatch h
  chain := KeyedLog.chained_nil

theorem Numbered.writes (h : Numbered w) (hw : Writes P w w') : Numbered w' where
  live call c' hc' := by
    obtain ⟨c, hc, hid, -⟩ := hw.heap call c' hc'
    rw [hw.nextRef, hw.callId, hid]
    exact h.live call c hc
  inj call call' c' d' hc' hd' heq := by
    obtain ⟨c, hc, hidc, -⟩ := hw.heap call c' hc'
    obtain ⟨d, hd, hidd, -⟩ := hw.heap call' d' hd'
    exact h.inj call call' c d hc hd (hidc ▸ hidd ▸ heq)
  logged n hn := by
    rw [hw.callId]
    exact h.logged n (hw.notifications ▸ hn)

/-- Writes that leave every object in the state last notified keep the invariant. -/
theorem Synced.writes (h : Synced w) (hw : Writes P w w')
    (hP : ∀ call c c', w.heap call = some c → P c c' →
      ∀ last ∈ w.lastNotification c.callId, last.nextState = c'.callState) : Synced w' where
  toNumbered := h.toNumbered.writes hw
  states call c' hc' last hlast := by
    obtain ⟨c, hc, hid, hPc⟩ := hw.heap call c' hc'
    rw [lastNotification, hw.notifications, hid] at hlast
    exact hP call c c' hc hPc last hlast
  chain := by
    unfold NotificationsChain
    rw [hw.notifications]
    exact h.chain

theorem Synced.quiet (h : Synced w) (hw : Quiet w w') : Synced w' :=
  h.writes hw fun call c _ hc hstate last hlast => by
    rw [hstate]
    exact h.states call c hc last hlast

/-- An object keeps its state, or it has the id `callId` and comes to `s`. -/
def ComesTo (callId : ℤ) (s : TelCallState) (c c' : CallBase) : Prop :=
  c'.callState = c.callState ∨ c.callId = callId ∧ c'.callState = s

theorem ComesTo.refl {callId : ℤ} {s : TelCallState} (c : CallBase) : ComesTo callId s c c := .inl rfl

theorem ComesTo.trans {callId : ℤ} {s : TelCallState} {a b c : CallBase}
    (hid : b.callId = a.callId) (hab : ComesTo callId s a b) (hbc : ComesTo callId s b c) :
    ComesTo callId s a c := by
  rcases hbc with hbc | ⟨hb, hc⟩
  · rcases hab with hab | ⟨ha, hb⟩
    · exact .inl (hbc.trans hab)
    · exact .inr ⟨ha, hbc.trans hb⟩
  · exact .inr ⟨hid ▸ hb, hc⟩

/-- Bringing one object to a state keeps the invariant if that state is the one last notified. -/
theorem Synced.comesTo (h : Synced w) {call : Ref} {s : TelCallState}
    (hw : Writes (ComesTo (w.object call).callId s) w w') (hs : w.Writable call s) : Synced w' := by
  refine h.writes hw fun r c c' hc hcomes last hlast => ?_
  rcases hcomes with hstate | ⟨hid, hstate⟩
  · rw [hstate]
    exact h.states r c hc last hlast
  · rw [hstate]
    exact hs last (hid ▸ hlast)

theorem Writes.comesTo {call : Ref} {f : CallBase → CallBase} {s : TelCallState}
    (hf : ∀ c, (f c).callId = c.callId ∧ (f c).callState = s) :
    Writes (ComesTo (w.object call).callId s) w (w.modify call f) := by
  refine Writes.modify ComesTo.refl fun c hc => ⟨(hf c).1, .inr ⟨?_, (hf c).2⟩⟩
  rw [object_eq hc]

theorem Synced.modify (h : Synced w) {call : Ref} {f : CallBase → CallBase} {s : TelCallState}
    (hf : ∀ c, (f c).callId = c.callId ∧ (f c).callState = s) (hs : w.Writable call s) :
    Synced (w.modify call f) :=
  h.comesTo (Writes.comesTo hf) hs

/-- No notification has an id that has not been given out. -/
theorem Synced.lastNotification_eq_none (h : Synced w) {callId : ℤ} (hid : w.store.callId < callId) :
    w.lastNotification callId = none := by
  refine KeyedLog.last?_eq_none fun n hn heq => ?_
  have := h.logged n hn
  omega

/-- A new object has an id of its own. -/
theorem Numbered.alloc (h : Numbered w) {c : CallBase} (hid : c.callId = w.store.callId)
    (hfresh : ∀ call d, w.heap call = some d → d.callId < c.callId) : Numbered (w.alloc c) where
  live call d hd := by
    by_cases hcall : call = w.nextRef
    · rw [hcall, alloc_heap_self] at hd
      rw [hcall, ← Option.some.inj hd, hid]
      exact ⟨Nat.lt_succ_self _, le_refl _⟩
    · rw [alloc_heap_of_ne w c hcall] at hd
      obtain ⟨hlt, hle⟩ := h.live call d hd
      exact ⟨Nat.lt_succ_of_lt hlt, hle⟩
  inj call call' d d' hd hd' heq := by
    by_cases hcall : call = w.nextRef
    · by_cases hcall' : call' = w.nextRef
      · rw [hcall, hcall']
      · rw [hcall, alloc_heap_self] at hd
        rw [alloc_heap_of_ne w c hcall'] at hd'
        have := hfresh call' d' hd'
        rw [← heq, ← Option.some.inj hd] at this
        exact absurd this (lt_irrefl _)
    · rw [alloc_heap_of_ne w c hcall] at hd
      by_cases hcall' : call' = w.nextRef
      · rw [hcall', alloc_heap_self] at hd'
        have := hfresh call d hd
        rw [heq, ← Option.some.inj hd'] at this
        exact absurd this (lt_irrefl _)
      · rw [alloc_heap_of_ne w c hcall'] at hd'
        exact h.inj call call' d d' hd hd' heq
  logged := h.logged

/-- Nothing has been notified of a new object. -/
theorem Synced.alloc (h : Synced w) {c : CallBase} (hid : c.callId = w.store.callId)
    (hfresh : ∀ call d, w.heap call = some d → d.callId < c.callId)
    (hnone : w.lastNotification c.callId = none) : Synced (w.alloc c) where
  toNumbered := h.toNumbered.alloc hid hfresh
  states call d hd last hlast := by
    by_cases hcall : call = w.nextRef
    · rw [hcall, alloc_heap_self] at hd
      rw [← Option.some.inj hd] at hlast
      have hnot : last ∈ w.lastNotification c.callId := hlast
      rw [hnone] at hnot
      cases hnot
    · rw [alloc_heap_of_ne w c hcall] at hd
      exact h.states call d hd last hlast
  chain := h.chain

/-- Taking an id keeps the invariant. -/
theorem Numbered.getNewCallId (h : Numbered w) :
    Numbered { w with store := w.store.getNewCallId.2 } where
  live call c hc := by
    obtain ⟨hlt, hle⟩ := h.live call c hc
    refine ⟨hlt, ?_⟩
    show c.callId ≤ w.store.callId + 1
    omega
  inj := h.inj
  logged n hn := by
    have := h.logged n hn
    show n.callId ≤ w.store.callId + 1
    omega

theorem Synced.getNewCallId (h : Synced w) :
    Synced { w with store := w.store.getNewCallId.2 } where
  toNumbered := h.toNumbered.getNewCallId
  states := h.states
  chain := h.chain

theorem Numbered.createNewCall (h : Numbered w) (env : StatusEnv) (info : CallDetailInfo) :
    Numbered (w.createNewCall env info).2 := by
  unfold StatusWorld.createNewCall
  dsimp only
  split
  · exact h.getNewCallId
  · rename_i c hc
    have hid : c.callId = w.store.callId + 1 := (newCall_some hc).1
    refine h.getNewCallId.alloc hid fun call d hd => ?_
    have := (h.live call d hd).2
    omega

theorem Synced.createNewCall (h : Synced w) (env : StatusEnv) (info : CallDetailInfo) :
    Synced (w.createNewCall env info).2 := by
  unfold StatusWorld.createNewCall
  dsimp only
  split
  · exact h.getNewCallId
  · rename_i c hc
    have hid : c.callId = w.store.callId + 1 := (newCall_some hc).1
    refine h.getNewCallId.alloc hid (fun call d hd => ?_) (h.lastNotification_eq_none ?_)
    · have := (h.live call d hd).2
      omega
    · omega

/-! ## `UpdateCallState` -/

theorem setTelCallState_comesTo (w : StatusWorld) (call : Ref) (s : TelCallState) :
    Writes (ComesTo (w.object call).callId s) w (w.setTelCallState call s) :=
  Writes.comesTo fun c => ⟨c.setTelCallState_callId s, c.setTelCallState_callState s⟩

theorem updateOneCallObjectByCallId_comesTo (w : StatusWorld) (callId : ℤ) (s : TelCallState) :
    Writes (ComesTo callId s) w (w.updateOneCallObjectByCallId callId s) := by
  unfold updateOneCallObjectByCallId
  generalize w.store.callObjectPtrList = list
  induction list generalizing w with
  | nil => exact Writes.refl ComesTo.refl
  | cons it list ih =>
    rw [List.foldl_cons]
    refine Writes.trans (fun _ _ _ => ComesTo.trans) ?_ (ih _)
    split_ifs with hid
    · rw [← hid]
      exact setTelCallState_comesTo w it s
    · exact Writes.refl ComesTo.refl

theorem Numbered.notify (h : Numbered w) {call : Ref} {c : CallBase} (hc : w.heap call = some c)
    (hw : Writes P w w') (priorState nextState : TelCallState) :
    Numbered { w' with notifications := ⟨c.callId, priorState, nextState⟩ :: w'.notifications } where
  live := (h.writes hw).live
  inj := (h.writes hw).inj
  logged n hn := by
    rcases List.mem_cons.mp hn with rfl | hn
    · exact hw.callId ▸ (h.live call c hc).2
    · exact (h.writes hw).logged n hn

/-- Bringing an object to a state and notifying the change keeps the invariant. -/
theorem Synced.notify (h : Synced w) {call : Ref} {c : CallBase} {s : TelCallState}
    (hc : w.heap call = some c) (hw : Writes (ComesTo c.callId s) w w')
    (hs : ∀ r d, w'.heap r = some d → d.callId = c.callId → d.callState = s) :
    Synced { w' with notifications := ⟨c.callId, c.callState, s⟩ :: w'.notifications } where
  toNumbered := h.toNumbered.notify hc hw c.callState s
  states r d hd last hlast := by
    by_cases hid : c.callId = d.callId
    · rw [lastNotification, ← hid, KeyedLog.last?_cons_self] at hlast
      rw [← Option.some.inj hlast]
      exact (hs r d hd hid.symm).symm
    · have hne : Notification.callId ⟨c.callId, c.callState, s⟩ ≠ d.callId := hid
      rw [lastNotification, KeyedLog.last?_cons_of_ne hne, hw.notifications] at hlast
      obtain ⟨d₀, hd₀, hid₀, hcomes⟩ := hw.heap r d hd
      rcases hcomes with hstate | ⟨hid', -⟩
      · rw [hstate]
        exact h.states r d₀ hd₀ last (hid₀ ▸ hlast)
      · exact absurd (hid'.symm.trans hid₀.symm) hid
  chain := by
    rw [NotificationsChain, KeyedLog.chained_cons, hw.notifications]
    exact ⟨fun last hlast => (h.states call c hc last hlast).symm, h.chain⟩

/-- `UpdateCallState` notifies the change it makes. -/
theorem Synced.updateCallState (h : Synced w) (call : Ref) (s : TelCallState) :
    Synced (w.updateCallState call s) := by
  unfold StatusWorld.updateCallState
  split
  · exact h
  · rename_i c hc
    have hfirst : Writes (ComesTo c.callId s) w (w.setTelCallState call s) :=
      object_eq hc ▸ setTelCallState_comesTo w call s
    have hsecond := updateOneCallObjectByCallId_comesTo (w.setTelCallState call s) c.callId s
    refine h.notify hc (hfirst.trans (fun _ _ _ => ComesTo.trans) hsecond) fun r d hd hid => ?_
    -- the only object with this id is the one the first write brought to `s`
    obtain ⟨d₁, hd₁, hid₁, hcomes⟩ := hsecond.heap r d hd
    rcases hcomes with hstate | ⟨-, hstate⟩
    · obtain ⟨d₀, hd₀, hid₀, -⟩ := hfirst.heap r d₁ hd₁
      have hr : r = call := h.inj r call d₀ c hd₀ hc (by rw [← hid₀, ← hid₁, hid])
      rw [hr, StatusWorld.setTelCallState, modify_heap_self, hc, Option.map_some] at hd₁
      rw [hstate, ← Option.some.inj hd₁, CallBase.setTelCallState_callState]
    · exact hstate

/-! ## `RefreshCall` -/

/-- Where an object of the replaced state comes from: the new object stands for
    the old one, the others are as they were. -/
theorem replace_heap {call newCall r : Ref} {c d : CallBase} {f : CallBase → CallBase}
    (hc : w.heap call = some c)
    (hf : ∀ n, (f n).callId = c.callId ∧ (f n).callState = c.callState)
    (hd : ((w.modify newCall f).destroy call).heap r = some d) :
    r ≠ call ∧ ∃ d₀, w.heap (if r = newCall then call else r) = some d₀ ∧
      d.callId = d₀.callId ∧ d.callState = d₀.callState := by
  by_cases hr : r = call
  · rw [hr, destroy_heap_self] at hd
    cases hd
  rw [destroy_heap_of_ne _ hr] at hd
  refine ⟨hr, ?_⟩
  by_cases hnew : r = newCall
  · rw [hnew, modify_heap_self] at hd
    obtain ⟨n, -, rfl⟩ := Option.map_eq_some_iff.mp hd
    rw [if_pos hnew]
    exact ⟨c, hc, hf n⟩
  · rw [modify_heap_of_ne w f hnew] at hd
    rw [if_neg hnew]
    exact ⟨d, hd, rfl, rfl⟩

/-- A new object that takes over the id and the state of another one keeps the invariant. -/
theorem Numbered.replace (h : Numbered w) {call newCall : Ref} {c : CallBase}
    {f : CallBase → CallBase} (hc : w.heap call = some c) (hnew : newCall < w.nextRef)
    (hf : ∀ n, (f n).callId = c.callId ∧ (f n).callState = c.callState) :
    Numbered ((w.modify newCall f).destroy call) where
  live r d hd := by
    obtain ⟨-, d₀, hd₀, hid, -⟩ := replace_heap hc hf hd
    obtain ⟨hlt, hle⟩ := h.live _ d₀ hd₀
    refine ⟨?_, hid ▸ hle⟩
    split_ifs at hlt with hr
    · exact hr ▸ hnew
    · exact hlt
  inj r r' d d' hd hd' heq := by
    obtain ⟨hr, d₀, hd₀, hid, -⟩ := replace_heap hc hf hd
    obtain ⟨hr', d₀', hd₀', hid', -⟩ := replace_heap hc hf hd'
    have horigin := h.inj _ _ d₀ d₀' hd₀ hd₀' (by rw [← hid, ← hid', heq])
    split_ifs at horigin with hn hn' hn'
    · rw [hn, hn']
    · exact absurd horigin.symm hr'
    · exact absurd horigin hr
    · exact horigin
  logged := h.logged

theorem Synced.replace (h : Synced w) {call newCall : Ref} {c : CallBase} {f : CallBase → CallBase}
    (hc : w.heap call = some c) (hnew : newCall < w.nextRef)
    (hf : ∀ n, (f n).callId = c.callId ∧ (f n).callState = c.callState) :
    Synced ((w.modify newCall f).destroy call) where
  toNumbered := h.toNumbered.replace hc hnew hf
  states r d hd last hlast := by
    obtain ⟨-, d₀, hd₀, hid, hstate⟩ := replace_heap hc hf hd
    rw [hid] at hlast
    rw [hstate]
    exact h.states _ d₀ hd₀ last hlast
  chain := h.chain

theorem Quiet.exchangeCall (newCall : Ref) (c : CallBase) (info : CallDetailInfo) :
    Quiet w (w.exchangeCall ins env newCall c info) := by
  have hadd : Quiet w (w.addOneCallObject ins env newCall) :=
    Quiet.addOneCallObject ins env newCall
  have hstates : Quiet w ((w.addOneCallObject ins env newCall).modify newCall fun n =>
      { n with callRunningState := c.callRunningState, conferenceState := c.conferenceState }) :=
    hadd.trans (Quiet.modify fun _ => ⟨rfl, rfl⟩)
  have hdelete := hstates.trans (Quiet.deleteOneCallObject env c.callId)
  unfold StatusWorld.exchangeCall
  dsimp only
  split_ifs
  · exact hdelete.trans (Quiet.of_heap rfl rfl rfl rfl)
  · exact hdelete

/-- `RefreshCall` with a new object, in a state whose objects are numbered. -/
theorem Numbered.refreshCall_some (h : Numbered w) (ins : Insertion) {call newCall : Ref}
    {c : CallBase} {info : CallDetailInfo} (hc : w.heap call = some c)
    (hnew : w.createNewCall env info = (some newCall, w')) :
    (w'.exchangeCall ins env newCall c info).heap call = some c ∧
      newCall < (w'.exchangeCall ins env newCall c info).nextRef := by
  obtain ⟨href, hnext, -, -, hheap⟩ := createNewCall_some hnew
  have hne : call ≠ newCall := href ▸ Nat.ne_of_lt (h.live call c hc).1
  refine ⟨?_, ?_⟩
  · rw [exchangeCall_heap hne, hheap call hne, hc]
  · rw [(Quiet.exchangeCall newCall c info).nextRef, hnext, href]
    exact Nat.lt_succ_self _

theorem Numbered.refreshCall (h : Numbered w) (ins : Insertion) (env : StatusEnv) (call : Ref)
    (info : CallDetailInfo) :
    Numbered (w.refreshCall ins env call info).2 := by
  cases hc : w.heap call with
  | none => rwa [StatusWorld.refreshCall, hc]
  | some c =>
    have hnumbered := h.createNewCall env info
    rcases hnew : w.createNewCall env info with ⟨_ | newCall, w'⟩
    · rw [hnew] at hnumbered
      rwa [refreshCall_none hc hnew]
    · rw [hnew] at hnumbered
      obtain ⟨hcall, hlt⟩ := h.refreshCall_some ins hc hnew
      rw [StatusWorld.refreshCall_some hc hnew]
      exact (hnumbered.writes (Quiet.exchangeCall newCall c info)).replace hcall hlt (takeOver_keeps c)

theorem Synced.refreshCall (h : Synced w) (ins : Insertion) (env : StatusEnv) (call : Ref)
    (info : CallDetailInfo) :
    Synced (w.refreshCall ins env call info).2 := by
  cases hc : w.heap call with
  | none => rwa [StatusWorld.refreshCall, hc]
  | some c =>
    have hsynced := h.createNewCall env info
    rcases hnew : w.createNewCall env info with ⟨_ | newCall, w'⟩
    · rw [hnew] at hsynced
      rwa [refreshCall_none hc hnew]
    · rw [hnew] at hsynced
      obtain ⟨hcall, hlt⟩ := h.toNumbered.refreshCall_some ins hc hnew
      rw [StatusWorld.refreshCall_some hc hnew]
      exact (hsynced.quiet (Quiet.exchangeCall newCall c info)).replace hcall hlt (takeOver_keeps c)

/-- `RefreshCall` notifies nothing. -/
theorem refreshCall_notifications (w : StatusWorld) (call : Ref) (info : CallDetailInfo) :
    (w.refreshCall ins env call info).2.notifications = w.notifications := by
  cases hc : w.heap call with
  | none => rw [StatusWorld.refreshCall, hc]
  | some c =>
    rcases hnew : w.createNewCall env info with ⟨_ | newCall, w'⟩
    · rw [refreshCall_none hc hnew]
      exact (createNewCall_none hnew).1
    · rw [refreshCall_some hc hnew]
      exact ((Quiet.exchangeCall newCall c info).notifications).trans (createNewCall_some hnew).2.2.1

/-- The object that `RefreshCall` returns has the id of the one it was given. -/
theorem Synced.refreshCall_callId (h : Synced w) (call : Ref) (info : CallDetailInfo) :
    ((w.refreshCall ins env call info).2.object (w.refreshCall ins env call info).1).callId =
      (w.object call).callId := by
  cases hc : w.heap call with
  | none => rw [StatusWorld.refreshCall, hc]
  | some c =>
    rcases hnew : w.createNewCall env info with ⟨_ | newCall, w'⟩
    · rw [refreshCall_none hc hnew]
      simp only [object, (createNewCall_none hnew).2]
    · obtain ⟨href, -⟩ := createNewCall_some hnew
      have hne : newCall ≠ call := href ▸ (Nat.ne_of_lt (h.live call c hc).1).symm
      obtain ⟨n, -, hheap⟩ := refreshCall_heap_new ins hc hnew hne
      have hfst : (w.refreshCall ins env call info).1 = newCall := by rw [refreshCall_some hc hnew]
      rw [hfst, object_eq hheap, object_eq hc]
      exact (takeOver_keeps c _).1

theorem Quiet.refreshVideoState (w : StatusWorld) (call : Ref) (info : CallDetailInfo) :
    Quiet w (w.modify call fun c => c.refreshVideoState info) :=
  Quiet.modify fun c => ⟨c.refreshVideoState_callId info, c.refreshVideoState_callState info⟩

theorem Numbered.refreshCallIfNecessary (h : Numbered w) (ins : Insertion) (env : StatusEnv)
    (call : Ref) (info : CallDetailInfo) :
    Numbered (w.refreshCallIfNecessary ins env call info).2 := by
  have hvideo := h.writes (Quiet.refreshVideoState w call info)
  unfold StatusWorld.refreshCallIfNecessary
  dsimp only
  split_ifs
  · exact hvideo
  · exact hvideo.refreshCall ins env call info

theorem Synced.refreshCallIfNecessary (h : Synced w) (ins : Insertion) (env : StatusEnv) (call : Ref)
    (info : CallDetailInfo) :
    Synced (w.refreshCallIfNecessary ins env call info).2 := by
  have hvideo := h.quiet (Quiet.refreshVideoState w call info)
  unfold StatusWorld.refreshCallIfNecessary
  dsimp only
  split_ifs
  · exact hvideo
  · exact hvideo.refreshCall ins env call info

/-- What may be written to a call may be written to the object that stands for
    it after `RefreshCallIfNecessary`. -/
theorem Synced.refreshCallIfNecessary_writable (h : Synced w) {call : Ref} {s : TelCallState}
    (hs : w.Writable call s) (ins : Insertion) (env : StatusEnv) (info : CallDetailInfo) :
    (w.refreshCallIfNecessary ins env call info).2.Writable
      (w.refreshCallIfNecessary ins env call info).1 s := by
  have hvideo := h.quiet (Quiet.refreshVideoState w call info)
  have hid := w.modify_object_callId call call fun c => c.refreshVideoState_callId info
  unfold StatusWorld.refreshCallIfNecessary
  dsimp only
  split_ifs
  · rwa [Writable, hid]
  · rw [Writable, hvideo.refreshCall_callId, hid, lastNotification, refreshCall_notifications]
    exact hs

/-- `RefreshCall` leaves the objects there were as they are, but for the one it replaces. -/
theorem refreshCall_heap_of_ne {call r : Ref} {info : CallDetailInfo} (hr : r < w.nextRef)
    (hne : r ≠ call) : (w.refreshCall ins env call info).2.heap r = w.heap r := by
  cases hcall : w.heap call with
  | none => rw [StatusWorld.refreshCall, hcall]
  | some old =>
    rcases hnew : w.createNewCall env info with ⟨_ | newCall, w'⟩
    · rw [refreshCall_none hcall hnew, (createNewCall_none hnew).2]
    · obtain ⟨href, -, -, -, hheap⟩ := createNewCall_some hnew
      have hnot : r ≠ newCall := href ▸ Nat.ne_of_lt hr
      rw [refreshCall_some hcall hnew, destroy_heap_of_ne _ hne, modify_heap_of_ne _ _ hnot,
        exchangeCall_heap hnot, hheap r hnot]

/-- The objects there were keep their ids and states over `RefreshCall`, if they stay. -/
theorem refreshCall_heap {call r : Ref} {info : CallDetailInfo} {c d : CallBase}
    (hr : r < w.nextRef) (hc : w.heap r = some c)
    (hd : (w.refreshCall ins env call info).2.heap r = some d) : d = c := by
  by_cases hcall : r = call
  · subst hcall
    rcases hnew : w.createNewCall env info with ⟨_ | newCall, w'⟩
    · rw [refreshCall_none hc hnew, (createNewCall_none hnew).2, hc] at hd
      exact (Option.some.inj hd).symm
    · rw [refreshCall_some hc hnew, destroy_heap_self] at hd
      cases hd
  · rw [refreshCall_heap_of_ne hr hcall, hc] at hd
    exact (Option.some.inj hd).symm

theorem refreshCallIfNecessary_heap {call r : Ref} {info : CallDetailInfo} {c d : CallBase}
    (hr : r < w.nextRef) (hc : w.heap r = some c)
    (hd : (w.refreshCallIfNecessary ins env call info).2.heap r = some d) :
    d.callId = c.callId ∧ d.callState = c.callState := by
  obtain ⟨c', hc', hkeep⟩ : ∃ c', (w.modify call fun c => c.refreshVideoState info).heap r = some c' ∧
      c'.callId = c.callId ∧ c'.callState = c.callState := by
    by_cases hcall : r = call
    · rw [hcall, modify_heap_self, ← hcall, hc, Option.map_some]
      exact ⟨_, rfl, c.refreshVideoState_callId info, c.refreshVideoState_callState info⟩
    · rw [modify_heap_of_ne w _ hcall]
      exact ⟨c, hc, rfl, rfl⟩
  unfold StatusWorld.refreshCallIfNecessary at hd
  dsimp only at hd
  split_ifs at hd
  · rw [hc'] at hd
    rw [← Option.some.inj hd]
    exact hkeep
  · rw [refreshCall_heap (by exact hr) hc' hd]
    exact hkeep

/-- `RefreshCallIfNecessary` returns the object it was given or a new one. -/
theorem refreshCallIfNecessary_fst (w : StatusWorld) (call : Ref) (info : CallDetailInfo) :
    (w.refreshCallIfNecessary ins env call info).1 = call ∨
      (w.refreshCallIfNecessary ins env call info).1 = w.nextRef := by
  unfold StatusWorld.refreshCallIfNecessary
  dsimp only
  split_ifs
  · exact .inl rfl
  · generalize hw : w.modify call _ = w₁
    have hnext : w₁.nextRef = w.nextRef := hw ▸ rfl
    cases hcall : w₁.heap call with
    | none =>
      rw [StatusWorld.refreshCall, hcall]
      exact .inl rfl
    | some old =>
      rcases hnew : w₁.createNewCall env info with ⟨_ | newCall, w'⟩
      · rw [refreshCall_none hcall hnew]
        exact .inl rfl
      · rw [refreshCall_some hcall hnew, ← hnext]
        exact .inr (createNewCall_some hnew).1

/-! ## `UpdateDialingCallInfo` -/

theorem Quiet.clearPendingState (w : StatusWorld) (call : Ref) :
    Quiet w (w.clearPendingState call) := by
  unfold StatusWorld.clearPendingState
  dsimp only
  split_ifs <;> exact Quiet.of_heap rfl rfl rfl rfl

/-- `UpdateDialingCallInfo` writes a state to the pending call it adopts, and to no other one. -/
theorem Synced.updateDialingCallInfo (h : Synced w) (ins : Insertion) (env : StatusEnv)
    (info : CallDetailInfo) (hok : ∀ pending ∈ w.adopted info, w.Writable pending info.state) :
    Synced (w.updateDialingCallInfo ins env info).2 := by
  unfold StatusWorld.updateDialingCallInfo
  unfold adopted at hok
  split
  · exact h.refreshCallIfNecessary ins env _ info
  · rename_i hkey
    rw [hkey, if_neg (by simp)] at hok
    split
    · exact h
    · rename_i pending hpending
      have hwritable := h.refreshCallIfNecessary_writable (hok pending hpending) ins env info
      have hadopt := (h.refreshCallIfNecessary ins env pending info).modify
        (fun c => ⟨c.adopt_callId info (w.object pending).accountNumber,
          c.adopt_callState info (w.object pending).accountNumber⟩) hwritable
      exact hadopt.quiet (Quiet.clearPendingState _ _)

theorem refreshCallIfNecessary_notifications (w : StatusWorld) (call : Ref)
    (info : CallDetailInfo) :
    (w.refreshCallIfNecessary ins env call info).2.notifications = w.notifications := by
  unfold StatusWorld.refreshCallIfNecessary
  dsimp only
  split_ifs
  · rfl
  · exact refreshCall_notifications _ call info

theorem updateDialingCallInfo_notifications (w : StatusWorld) (info : CallDetailInfo) :
    (w.updateDialingCallInfo ins env info).2.notifications = w.notifications := by
  unfold StatusWorld.updateDialingCallInfo
  split
  · exact refreshCallIfNecessary_notifications w _ info
  · split
    · rfl
    · exact ((Quiet.clearPendingState _ _).notifications).trans
        (refreshCallIfNecessary_notifications w _ info)

/-- The objects there were keep their ids over `UpdateDialingCallInfo`, and
    their states but for the pending call that is adopted. -/
theorem updateDialingCallInfo_heap {r : Ref} {info : CallDetailInfo} {c d : CallBase}
    (hr : r < w.nextRef) (hc : w.heap r = some c)
    (hd : (w.updateDialingCallInfo ins env info).2.heap r = some d) :
    d.callId = c.callId ∧ (d.callState = c.callState ∨ w.adopted info = some r) := by
  unfold StatusWorld.updateDialingCallInfo at hd
  unfold adopted
  split at hd
  · obtain ⟨hid, hstate⟩ := refreshCallIfNecessary_heap hr hc hd
    exact ⟨hid, .inl hstate⟩
  · rename_i hkey
    rw [hkey, if_neg (by simp)]
    split at hd
    · rw [hc] at hd
      rw [← Option.some.inj hd]
      exact ⟨rfl, .inl rfl⟩
    · rename_i pending hpending
      dsimp only at hd
      rw [clearPendingState_heap] at hd
      by_cases hcall : r = (w.refreshCallIfNecessary ins env pending info).1
      · rw [hcall, modify_heap_self, ← hcall] at hd
        obtain ⟨d₁, hd₁, rfl⟩ := Option.map_eq_some_iff.mp hd
        refine ⟨(d₁.adopt_callId info _).trans (refreshCallIfNecessary_heap hr hc hd₁).1, .inr ?_⟩
        rcases refreshCallIfNecessary_fst w pending info with hfst | hfst
        · rw [hpending, hcall, hfst]
        · rw [hcall, hfst] at hr
          exact absurd hr (Nat.lt_irrefl _)
      · rw [modify_heap_of_ne _ _ hcall] at hd
        obtain ⟨hid, hstate⟩ := refreshCallIfNecessary_heap hr hc hd
        exact ⟨hid, .inl hstate⟩

/-! ## `BtCallDialingHandleFirst` -/

/-- The reset of an alerting call to DIALING after `UpdateDialingCallInfo`. -/
theorem Synced.resetDialing (h : Synced w) {call : Ref} {c : CallBase} {info : CallDetailInfo}
    (hc : w.heap call = some c) (hinfo : ∀ pending ∈ w.adopted info, w.Writable pending info.state)
    (hreset : c.callState = .alerting → w.Writable call .dialing) (hstate : info.state = .alerting) :
    Synced (if ((w.updateDialingCallInfo ins env info).2.object call).callState = .alerting then
      (w.updateDialingCallInfo ins env info).2.setTelCallState call .dialing
      else (w.updateDialingCallInfo ins env info).2) := by
  have hupdate := h.updateDialingCallInfo ins env info hinfo
  split_ifs with halerting
  · refine hupdate.modify (fun d => ⟨d.setTelCallState_callId _, d.setTelCallState_callState _⟩) ?_
    cases hd : (w.updateDialingCallInfo ins env info).2.heap call with
    | none =>
      rw [object, hd] at halerting
      cases halerting
    | some d =>
      rw [object_eq hd] at halerting
      obtain ⟨hid, hkeep⟩ := updateDialingCallInfo_heap (h.live call c hc).1 hc hd
      intro last hlast
      rw [object_eq hd, hid, lastNotification, updateDialingCallInfo_notifications] at hlast
      rw [← object_eq hc] at hlast
      refine hreset ?_ last hlast
      rcases hkeep with hkeep | hadopted
      · rw [← hkeep, halerting]
      · rw [← h.states call c hc last (object_eq hc ▸ hlast), hinfo call hadopted last hlast, hstate]
  · exact hupdate

/-- `UpdateDialingCallInfo` for a pending call of the reported type. -/
theorem updateDialingCallInfo_adopted {call : Ref} {c : CallBase} {info : CallDetailInfo}
    (hc : w.heap call = some c) (hadopted : w.adopted info = some call)
    (htype : c.callType = info.callType) :
    (w.updateDialingCallInfo ins env info).2 =
      (w.modify call fun c => (c.refreshVideoState info).adopt info
        (w.object call).accountNumber).clearPendingState call := by
  obtain ⟨hkey, hpending⟩ : w.getOneCallObjectByKey info.index info = none ∧
      w.getOneCallObjectByIndex initIndex = some call := by
    unfold adopted at hadopted
    split_ifs at hadopted with hsome
    exact ⟨by simpa using hsome, hadopted⟩
  have hrefresh : w.refreshCallIfNecessary ins env call info =
      (call, w.modify call fun c => c.refreshVideoState info) := by
    have hvideo := w.modify_heap_self call fun c => c.refreshVideoState info
    rw [hc, Option.map_some] at hvideo
    unfold StatusWorld.refreshCallIfNecessary
    dsimp only
    rw [if_pos]
    rw [object_eq hvideo, CallBase.refreshVideoState_callType, htype]
  unfold StatusWorld.updateDialingCallInfo
  rw [hkey, hpending]
  dsimp only
  rw [hrefresh]
  dsimp only
  rw [modify_modify]
  rfl

/-- The pending call is the one at hand and keeps its type: it becomes ALERTING
    and then DIALING. -/
theorem Synced.adoptAndReset (h : Synced w) {call : Ref} {c : CallBase} {info : CallDetailInfo}
    (hc : w.heap call = some c) (hadopted : w.adopted info = some call)
    (htype : c.callType = info.callType) (hstate : info.state = .alerting)
    (hs : w.Writable call .dialing) :
    Synced (if ((w.updateDialingCallInfo ins env info).2.object call).callState = .alerting then
      (w.updateDialingCallInfo ins env info).2.setTelCallState call .dialing
      else (w.updateDialingCallInfo ins env info).2) := by
  rw [updateDialingCallInfo_adopted hc hadopted htype]
  generalize hadopt : w.modify call _ = w₁
  have hcall : w₁.heap call =
      some ((c.refreshVideoState info).adopt info (w.object call).accountNumber) := by
    rw [← hadopt, modify_heap_self, hc, Option.map_some]
  have halerting : ((w₁.clearPendingState call).object call).callState = .alerting := by
    rw [object, clearPendingState_heap, hcall, Option.getD_some, CallBase.adopt_callState, hstate]
  rw [if_pos halerting]
  have hclear := Quiet.clearPendingState w₁ call
  have hdialing : Synced (w₁.setTelCallState call .dialing) := by
    rw [← hadopt, StatusWorld.setTelCallState, modify_modify]
    exact h.modify (fun c => by simp [CallBase.adopt_callId]) hs
  refine hdialing.quiet (Quiet.of_heap ?_ hclear.nextRef hclear.callId hclear.notifications)
  simp only [StatusWorld.setTelCallState, StatusWorld.modify, clearPendingState_heap]

theorem Synced.btCallDialingHandleFirst (h : Synced w) (call : Ref) (info : CallDetailInfo)
    (hok : info.state = .alerting →
      (w.setPhoneOrWatchDial call CallObjectManager.watchDial).FirstOk call info) :
    Synced (w.btCallDialingHandleFirst ins env call info) := by
  unfold StatusWorld.btCallDialingHandleFirst
  cases hcall : w.heap call with
  | none =>
    rw [if_pos (by rfl)]
    exact h
  | some c₀ =>
    rw [if_neg (by simp)]
    dsimp only
    have hdial : Synced (w.setPhoneOrWatchDial call CallObjectManager.watchDial) :=
      h.quiet (Quiet.modify fun _ => ⟨rfl, rfl⟩)
    obtain ⟨c, hc⟩ : ∃ c, (w.setPhoneOrWatchDial call CallObjectManager.watchDial).heap call
        = some c := by
      rw [StatusWorld.setPhoneOrWatchDial, modify_heap_self, hcall]
      exact ⟨_, rfl⟩
    generalize w.setPhoneOrWatchDial call CallObjectManager.watchDial = w₁ at hok hdial hc ⊢
    by_cases hstate : info.state = .alerting
    · rw [if_pos hstate]
      have hfirst := hok hstate
      unfold FirstOk at hfirst
      rw [object_eq hc] at hfirst
      cases hadopted : w₁.adopted info with
      | none =>
        rw [hadopted] at hfirst
        refine hdial.resetDialing hc (fun pending hpending => ?_) hfirst hstate
        rw [hadopted] at hpending
        cases hpending
      | some pending =>
        rw [hadopted] at hfirst
        dsimp only at hfirst
        split_ifs at hfirst with hsame
        · obtain ⟨rfl, htype⟩ := hsame
          exact hdial.adoptAndReset hc hadopted htype hstate hfirst
        · refine hdial.resetDialing hc (fun r hr => ?_) hfirst.2 hstate
          rw [hadopted] at hr
          rw [← Option.some.inj hr, hstate]
          exact hfirst.1
    · rw [if_neg hstate]
      exact hdial

/-! ## Conferences -/

theorem Quiet.setTelConferenceState (w : StatusWorld) (call : Ref) (state : TelConferenceState) :
    Quiet w (w.setTelConferenceState call state) :=
  Quiet.modify fun _ => ⟨rfl, rfl⟩

/-- The end of the three conference functions of a call, after the conference
    has changed: the conference state of the call changes if that succeeded. -/
theorem Quiet.conference (h : Quiet w w') (ret : ErrorCode) (call : Ref)
    (state : TelConferenceState) :
    Quiet w (if ret = .telephonySuccess then w'.setTelConferenceState call state else w') := by
  split_ifs
  · exact h.trans (Quiet.setTelConferenceState w' call state)
  · exact h

theorem Quiet.launchConference (w : StatusWorld) (call : Ref) :
    Quiet w (w.launchConference call).2 := by
  unfold StatusWorld.launchConference
  dsimp only
  cases (w.object call).objectType with
  | cs | ims | ott =>
    dsimp only
    refine Quiet.conference ?_ _ call .active
    exact Quiet.of_heap rfl rfl rfl rfl
  | satellite | voip | bluetooth | errCall => exact Quiet.refl

theorem Quiet.exitConference (w : StatusWorld) (call : Ref) :
    Quiet w (w.exitConference env call).2 := by
  unfold StatusWorld.exitConference
  dsimp only
  cases (w.object call).objectType with
  | cs | ims | ott =>
    dsimp only
    refine Quiet.conference ?_ _ call .idle
    exact Quiet.of_heap rfl rfl rfl rfl
  | satellite | voip | bluetooth | errCall => exact Quiet.refl

theorem Quiet.holdConference (w : StatusWorld) (call : Ref) :
    Quiet w (w.holdConference call).2 := by
  unfold StatusWorld.holdConference
  dsimp only
  cases (w.object call).objectType with
  | cs | ims | ott =>
    dsimp only
    refine Quiet.conference ?_ _ call .holding
    exact Quiet.of_heap rfl rfl rfl rfl
  | satellite | voip | bluetooth | errCall => exact Quiet.refl

theorem Synced.setConferenceCall (h : Synced w) (slotId : ℤ) :
    Synced (w.setConferenceCall slotId) := by
  unfold StatusWorld.setConferenceCall
  generalize w.getConferenceCallList slotId = list
  induction list generalizing w with
  | nil => exact h
  | cons conferenceCall list ih =>
    rw [List.foldl_cons]
    have hidle := h.quiet (Quiet.setTelConferenceState w conferenceCall .idle)
    have hlaunch := hidle.quiet (Quiet.launchConference _ conferenceCall)
    exact ih (hlaunch.updateCallState conferenceCall _)

theorem Synced.endConferenceOfOne (h : Synced w) (slotId : ℤ) :
    Synced (w.endConferenceOfOne slotId) := by
  unfold StatusWorld.endConferenceOfOne
  split
  · dsimp only
    split_ifs
    · exact (h.quiet (Quiet.setTelConferenceState w _ .idle)).updateCallState _ _
    · exact h
  · exact h

/-! ## Actions and operations -/

/-- The step lemma for actions: one that meets the condition keeps the invariant. -/
theorem Synced.statusAction (h : Synced w) {a : StatusAction} (hok : ActionOk w a) :
    Synced (statusAction ins env w a) := by
  cases a with
  | createNewCall info => exact h.createNewCall env info
  | addOneCallObject call => exact h.quiet (Quiet.addOneCallObject ins env call)
  | deleteOneCallObject callId => exact h.quiet (Quiet.deleteOneCallObject env callId)
  | setTelCallState call nextState =>
    exact h.modify (fun c => ⟨c.setTelCallState_callId _, c.setTelCallState_callState _⟩) hok
  | updateCallState call nextState => exact h.updateCallState call nextState
  | refreshCallIfNecessary call info => exact h.refreshCallIfNecessary ins env call info
  | updateDialingCallInfo info => exact h.updateDialingCallInfo ins env info hok
  | btCallDialingHandleFirst call info => exact h.btCallDialingHandleFirst call info hok
  | setPhoneOrWatchDial call phoneOrWatch => exact h.quiet (Quiet.modify fun _ => ⟨rfl, rfl⟩)
  | dialingProcess call =>
    refine h.quiet (Quiet.modify fun c => ?_)
    split_ifs <;> exact ⟨rfl, rfl⟩
  | incomingCallBase call => exact h.quiet (Quiet.modify fun _ => ⟨rfl, rfl⟩)
  | setNonVirtualCall call isNonVirtualCall => exact h.quiet (Quiet.modify fun _ => ⟨rfl, rfl⟩)
  | clearPendingState call => exact h.quiet (Quiet.clearPendingState w call)
  | setPendingMo callId => exact h.quiet (Quiet.of_heap rfl rfl rfl rfl)
  | clearPendingHangup => exact h.quiet (Quiet.of_heap rfl rfl rfl rfl)
  | clearNeedWaitHold => exact h.quiet (Quiet.of_heap rfl rfl rfl rfl)
  | setConferenceCall slotId => exact h.setConferenceCall slotId
  | exitConference call => exact h.quiet (Quiet.exitConference w call)
  | holdConference call => exact h.quiet (Quiet.holdConference w call)
  | endConferenceOfOne slotId => exact h.endConferenceOfOne slotId

theorem Quiet.combineConference (w : StatusWorld) (callId : ℤ) (packOttCallRequestInfo : ErrorCode) :
    Quiet w (w.combineConference callId packOttCallRequestInfo) := by
  unfold StatusWorld.combineConference
  split
  · exact Quiet.refl
  · split
    · exact Quiet.of_heap rfl rfl rfl rfl
    · exact Quiet.of_heap rfl rfl rfl rfl
    · split_ifs <;> exact Quiet.of_heap rfl rfl rfl rfl
    all_goals exact Quiet.refl

theorem Quiet.combineConferenceFailed (w : StatusWorld) : Quiet w w.combineConferenceFailed := by
  unfold StatusWorld.combineConferenceFailed
  split
  · exact Quiet.refl
  · split
    · exact Quiet.of_heap rfl rfl rfl rfl
    · exact Quiet.of_heap rfl rfl rfl rfl
    · exact Quiet.of_heap rfl rfl rfl rfl
    all_goals exact Quiet.refl

theorem Quiet.hangUpPendingCall (w : StatusWorld) (callId : ℤ) :
    Quiet w (w.hangUpPendingCall callId) := by
  unfold StatusWorld.hangUpPendingCall
  split_ifs
  · exact Quiet.of_heap rfl rfl rfl rfl
  · exact Quiet.refl

/-- The step lemma for operations. -/
theorem Synced.statusStep (h : Synced w) {op : StatusOp} (hok : StatusOk ins w op) :
    Synced (statusStep ins w op) := by
  cases op with
  | report env info =>
    exact Program.run_preserves (I := Synced) (fun _ _ hI hcond => hI.statusAction hcond) _ h hok
  | callsReport slotId callVec => exact h.quiet (Quiet.of_heap rfl rfl rfl rfl)
  | waitHold needWaitHold => exact h.quiet (Quiet.of_heap rfl rfl rfl rfl)
  | hangUpPendingCall callId => exact h.quiet (Quiet.hangUpPendingCall w callId)
  | combineConference callId packOttCallRequestInfo =>
    exact h.quiet (Quiet.combineConference w callId packOttCallRequestInfo)
  | combineConferenceFailed => exact h.quiet (Quiet.combineConferenceFailed w)

end StatusWorld

/-- **Main theorem.** From a state in which every call is in the state last notified of it, in a
    run whose handlers write no state behind the observers' back, the notifications of each call
    form a chain, and every call is in the state last notified of it, in every state of the run. -/
theorem notifications_chain (ins : Insertion) {w : StatusWorld} (hw : w.Synced)
    (ops : List StatusOp) (hops : Run.StepsMeet (statusStep ins) (StatusOk ins) w ops) :
    Run.StatesMeet (statusStep ins) (fun w => w.NotificationsChain ∧ w.StatesNotified) w ops :=
  (Run.statesMeet_of_stepsMeet (P := StatusWorld.Synced)
    (fun _ _ h hok => h.statusStep hok) hw hops).mono fun _ h => ⟨h.chain, h.states⟩

/-- The distributed modem is connected, and nothing else is out of the ordinary. -/
def dcEnv : StatusEnv where
  store := ⟨false, false⟩
  isDcCallConneceted := true
  hasCallStateListener := true
  incomingFilterPolicy := .telephonySuccess
  isRejectCall := false
  isRingOnceCall := false
  rejectCall := .telephonySuccess
  hangUpCall := .telephonySuccess
  addCallLog := .telephonySuccess
  isVoipCallRinging := false
  isVirtualCall := true
  isDsdaMode := false
  illegalCallOperation := 99
  junk := 0

/-- A report of an IMS call. -/
def imsReport (index : ℤ) (state : TelCallState) : StatusOp :=
  .report dcEnv
    { index := index, phoneNum := "10086", accountId := 0, callType := .ims, callMode := .voice,
      state := state, mpty := 0, phoneOrWatch := 0, antiFraudState := 0, phoneIndex := 0,
      voipCallInfo := {} }

/-- A call that is dialed, answered and hung up, with the pending call adopted
    by the second report. -/
theorem notifications_chain_dial :
    Run.StatesMeet (statusStep .restored) (fun w => w.NotificationsChain ∧ w.StatesNotified)
      StatusWorld.init
      [imsReport 0 .dialing, imsReport 1 .dialing, imsReport 1 .active,
        imsReport 1 .disconnected] :=
  notifications_chain .restored StatusWorld.Synced.init _ (by decide)

/-- A dialed call that the modem has not reported yet, on the list. -/
def pendingWorld : StatusWorld :=
  let w := statusStep .asWritten StatusWorld.init (imsReport 0 .dialing)
  { w with store := { w.store with callObjectPtrList := [0] } }

theorem pendingWorld_synced : pendingWorld.Synced := by
  have hok : StatusOk .asWritten StatusWorld.init (imsReport 0 .dialing) := by decide
  have hdial := StatusWorld.Synced.init.statusStep hok
  exact hdial.quiet (StatusWorld.Quiet.of_heap rfl rfl rfl rfl)

/-- A notification ACTIVE → ACTIVE after DIALING → DIALING does not chain. -/
theorem not_chained_adopted :
    ¬ KeyedLog.Chained Notification.callId (fun last n => n.priorState = last.nextState)
      [⟨1, .active, .active⟩, ⟨1, .dialing, .dialing⟩] := by
  intro h
  have hlast := (KeyedLog.chained_cons.mp h).1 ⟨1, .dialing, .dialing⟩ (by decide)
  cases hlast

/-- With the distributed modem connected, an ACTIVE report of a dialed call adopts the pending
    call as ACTIVE, and then notifies ACTIVE → ACTIVE: in a run from the start whose calls are
    put on the list, and, as the list is left alone, in a state with the call on it. -/
theorem active_report_adopts_pending_call :
    ¬ Run.StatesMeet (statusStep .restored) StatusWorld.NotificationsChain StatusWorld.init
        [imsReport 0 .dialing, imsReport 1 .active] ∧
      pendingWorld.Synced ∧
        ¬ (statusStep .asWritten pendingWorld (imsReport 1 .active)).NotificationsChain := by
  refine ⟨fun h => ?_, pendingWorld_synced, fun h => ?_⟩
  · have hlog : (Run.run (statusStep .restored) StatusWorld.init
        [imsReport 0 .dialing, imsReport 1 .active]).notifications =
        [⟨1, .active, .active⟩, ⟨1, .dialing, .dialing⟩] := by decide
    have hchain := h.last
    rw [StatusWorld.NotificationsChain, hlog] at hchain
    exact not_chained_adopted hchain
  · have hlog : (statusStep .asWritten pendingWorld (imsReport 1 .active)).notifications =
        [⟨1, .active, .active⟩, ⟨1, .dialing, .dialing⟩] := by decide
    rw [StatusWorld.NotificationsChain, hlog] at h
    exact not_chained_adopted h

end CallManager
