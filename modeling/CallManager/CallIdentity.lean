import CallManager.CallObjectManager
import CallManager.CallsReport

/-!
# The diff key against the lookup key

`HandleCallsReportInfo` compares the entries of a report with those of the
snapshot by index alone. The store tells calls apart by more: Bluetooth calls
by index and phone index, the other carrier calls by index and slot, and the
two kinds are never confused. So an entry can be taken for another call's.

Results:
* `keyAgrees_iff`: a report hands every call that has disappeared to
  `DisconnectedHandle` and dispatches every call that has appeared as new iff
  none of these calls shares its index with an entry of the other list.
* `reports_keyAgree_iff`: the same over runs.
-/

namespace CallManager

open CallObjectManager

/-! ## Model -/

/-- The handlers of `HandleCallReportInfo`. -/
inductive ReportHandler
  | voip | active | holding | dialing | alert | incoming | waiting | disconnected | disconnecting
  deriving DecidableEq, Repr

/-- The handler `HandleCallReportInfo` calls (call_status_manager.cpp:134-187 and
    `HandleCallReportInfoEx`, lines 2605-2623); the other states are refused. -/
def handlerOf (info : CallDetailInfo) : Option ReportHandler :=
  if info.callType = .voip then some .voip
  else
    match info.state with
    | .active => some .active
    | .holding => some .holding
    | .dialing => some .dialing
    | .alerting => some .alert
    | .incoming => some .incoming
    | .waiting => some .waiting
    | .disconnected => some .disconnected
    | .disconnecting => some .disconnecting
    | .unknown | .idle | .answered => none

/-- The stored call a handler works on (call_status_manager.cpp:1484-1485). -/
def storedCall (objects : Ref → CallBase) (m : CallObjectManager) (info : CallDetailInfo) :
    Option Ref :=
  getOneCallObjectByIndexSlotIdAndCallType objects m info.index info.accountId info.callType
    info.phoneIndex

/-! ## Specification -/

/-- The identity of a reported call, in the terms of the lookup. -/
inductive Identity
  | bluetooth (index phoneIndex : ℤ)
  | carrier (index slotId : ℤ)
  | voip (index slotId : ℤ)
  deriving DecidableEq, Repr

/-- The identity of an entry of a report. -/
def identity (info : CallDetailInfo) : Identity :=
  match info.callType with
  | .bluetooth => .bluetooth info.index info.phoneIndex
  | .voip => .voip info.index info.accountId
  | .cs | .ims | .ott | .errCall | .satellite => .carrier info.index info.accountId

/-- What the lookup reads of an entry. -/
def lookupKey (info : CallDetailInfo) : ℤ × ℤ × CallType × ℤ :=
  (info.index, info.accountId, info.callType, info.phoneIndex)

/-- The identity of the carrier call `d` is that of no call of `list`. -/
def Unmatched (d : CallDetailInfo) (list : List CallDetailInfo) : Prop :=
  d.callType ≠ .voip ∧ ∀ e ∈ list, identity e ≠ identity d

/-- **The two keys agree on a report**: whatever the store holds, the stored call of a snapshot
    entry whose identity is not reported any more is handed to `DisconnectedHandle`, and a
    reported call whose identity is not in the snapshot is dispatched as new. -/
def KeyAgrees {σ : Type*} (calls : ReportCalls σ) (w : ReportWorld σ) (info : CallDetailsInfo) :
    Prop :=
  isValidSlotId calls info.slotId = true →
    (∀ it2 ∈ w.callDetailsInfo info.slotId, Unmatched it2 info.callVec →
      ∀ objects m call, storedCall objects m it2 = some call →
        ∃ e ∈ (handleCallsReportInfo calls w info).2.1, ∃ sent, e.dispatched = some sent ∧
          handlerOf sent = some .disconnected ∧ storedCall objects m sent = some call) ∧
    ∀ it ∈ info.callVec, Unmatched it (w.callDetailsInfo info.slotId) →
      ∃ tempInfo, (tempInfo = it ∨ it.state = .incoming ∧ tempInfo = { it with state := .waiting }) ∧
        .connecting tempInfo ∈ (handleCallsReportInfo calls w info).2.1

/-- No call that has disappeared or appeared shares its index with an entry of the other list. -/
def NoIndexCollision {σ : Type*} (calls : ReportCalls σ) (w : ReportWorld σ)
    (info : CallDetailsInfo) : Prop :=
  isValidSlotId calls info.slotId = true →
    (∀ it2 ∈ w.callDetailsInfo info.slotId, Unmatched it2 info.callVec →
      it2.index ∉ info.callVec.map (·.index)) ∧
    ∀ it ∈ info.callVec, Unmatched it (w.callDetailsInfo info.slotId) →
      it.index ∉ (w.callDetailsInfo info.slotId).map (·.index)

/-! ## Lookups -/

section Lookup

variable {objects : Ref → CallBase} {m : CallObjectManager} {d e : CallDetailInfo}

theorem storedCall_congr (h : lookupKey d = lookupKey e) :
    storedCall objects m d = storedCall objects m e := by
  simp only [lookupKey, Prod.mk.injEq] at h
  obtain ⟨hi, ha, ht, hp⟩ := h
  simp only [storedCall, hi, ha, ht, hp]

theorem storedCall_index {call : Ref} (h : storedCall objects m d = some call) :
    (objects call).index = d.index := by
  have hm : MatchesKey d.index d.accountId d.callType d.phoneIndex (objects call) := by
    simpa using List.find?_some h
  unfold MatchesKey at hm
  split_ifs at hm
  · exact hm.2.1
  · exact hm.2.1

/-- A call object the lookup finds for the entry `d` and for no other identity. -/
def callOf (d : CallDetailInfo) : CallBase where
  callId := 1
  objectType := d.callType
  callType := d.callType
  accountNumber := d.phoneNum
  callState := d.state
  callRunningState := .create
  conferenceState := .idle
  slotId := d.accountId
  index := d.index
  phoneIndex := d.phoneIndex
  phoneOrWatch := 0
  videoState := d.callMode
  voipCallInfo := {}
  isNonVirtualCall := false

theorem matchesKey_callOf (h : d.callType ≠ .voip) :
    MatchesKey e.index e.accountId e.callType e.phoneIndex (callOf d) → e.callType ≠ .voip →
      identity e = identity d := by
  intro hm he
  unfold MatchesKey at hm
  split_ifs at hm with hbt
  · obtain ⟨ht, hi, -, hp⟩ := hm
    simp only [callOf] at ht hi hp
    simp [identity, hbt, ht, hi, hp]
  · obtain ⟨ht, hi, ha, -⟩ := hm
    simp only [callOf] at ht hi ha
    cases hd : d.callType <;> cases he' : e.callType <;> simp_all [identity]

theorem matchesKey_callOf_self (h : d.callType ≠ .voip) :
    MatchesKey d.index d.accountId d.callType d.phoneIndex (callOf d) := by
  unfold MatchesKey
  split_ifs with hbt
  · exact ⟨hbt, rfl, Or.inl rfl, rfl⟩
  · exact ⟨hbt, rfl, rfl, h⟩

/-- A store that holds the call of `d` only. -/
def storeOf : CallObjectManager := { CallObjectManager.init with callObjectPtrList := [0] }

theorem storedCall_callOf_self (h : d.callType ≠ .voip) :
    storedCall (fun _ => callOf d) storeOf d = some 0 := by
  simp [storedCall, getOneCallObjectByIndexSlotIdAndCallType, storeOf, matchesKey_callOf_self h]

/-- What `DisconnectedHandle` finds in that store has the identity of `d`. -/
theorem identity_of_storedCall_callOf (h : d.callType ≠ .voip)
    (hhandler : handlerOf e = some .disconnected)
    (hfind : storedCall (fun _ => callOf d) storeOf e = some 0) :
    identity e = identity d ∧ e.state = .disconnected := by
  have hvoip : e.callType ≠ .voip := by
    intro hv
    simp [handlerOf, hv] at hhandler
  have hm : MatchesKey e.index e.accountId e.callType e.phoneIndex (callOf d) := by
    simpa using List.find?_some hfind
  refine ⟨matchesKey_callOf h hm hvoip, ?_⟩
  simp only [handlerOf, if_neg hvoip] at hhandler
  cases hs : e.state <;> simp [hs] at hhandler
  rfl

theorem handlerOf_disconnected (hvoip : e.callType ≠ .voip) (hs : e.state = .disconnected) :
    handlerOf e = some .disconnected := by
  simp [handlerOf, hvoip, hs]

end Lookup

/-! ## When the keys agree -/

section Agreement

variable {σ : Type*} {calls : ReportCalls σ} {w : ReportWorld σ} {info : CallDetailsInfo}

/-- The events of a report, with all that the lookup reads of the entries. -/
theorem events_with_keys (hk : calls.Keeps lookupKey)
    (hslot : isValidSlotId calls info.slotId = true) :
    ∃ (events : List ReportEvent) (ds : List CallDetailInfo),
      (handleCallsReportInfo calls w info).2.1 = events ++ ds.map .disconnected ∧
      List.Forall₂ (Reported lookupKey Prod.fst ((w.callDetailsInfo info.slotId).map lookupKey))
        info.callVec events ∧
      (∀ d ∈ ds, d.state = .disconnected) ∧
      ds.map lookupKey = ((w.callDetailsInfo info.slotId).map lookupKey).filter
        fun k => k.1 ∉ info.callVec.map (·.index) :=
  handleCallsReportInfo_events hk (fun _ => rfl) hk (fun _ => rfl) (fun _ => rfl) hslot

theorem not_mem_index_of_reported_connecting {it tempInfo : CallDetailInfo}
    (h : Reported lookupKey Prod.fst ((w.callDetailsInfo info.slotId).map lookupKey) it
      (.connecting tempInfo)) :
    tempInfo.index ∉ (w.callDetailsInfo info.slotId).map (·.index) := by
  cases h with
  | connecting hnot => simpa [Function.comp_def, lookupKey] using hnot
  | waiting hnot _ => simpa [Function.comp_def, lookupKey] using hnot

theorem exists_of_forall₂_right {γ δ : Type*} {R : γ → δ → Prop} {l : List γ} {l' : List δ}
    (h : List.Forall₂ R l l') {b : δ} (hb : b ∈ l') : ∃ a ∈ l, R a b :=
  exists_of_forall₂_left h.flip hb

/-- **One report**: the diff agrees with the lookup exactly when no call that
    has disappeared or appeared shares its index. -/
theorem keyAgrees_iff (hk : calls.Keeps lookupKey) :
    KeyAgrees calls w info ↔ NoIndexCollision calls w info := by
  unfold KeyAgrees NoIndexCollision
  refine imp_congr_right fun hslot => ?_
  obtain ⟨events, ds, hevents, hreported, hstate, hgone⟩ := events_with_keys (w := w) hk hslot
  constructor
  · rintro ⟨hdisappeared, happeared⟩
    refine ⟨fun it2 hit2 hun hmem => ?_, fun it hit hun hmem => ?_⟩
    · -- in a store with this call only, nothing handed to the handler is the call
      obtain ⟨e, he, sent, hsent, hhandler, hfind⟩ := hdisappeared it2 hit2 hun
        (fun _ => callOf it2) storeOf 0 (storedCall_callOf_self hun.1)
      obtain ⟨hid, hdisc⟩ := identity_of_storedCall_callOf hun.1 hhandler hfind
      rw [hevents, List.mem_append] at he
      rcases he with he | he
      · obtain ⟨it, hit, hR⟩ := exists_of_forall₂_right hreported he
        cases hR with
        | unchanged _ _ _ => simp [ReportEvent.dispatched] at hsent
        | updated _ _ _ =>
          simp only [ReportEvent.dispatched, Option.some.injEq] at hsent
          exact hun.2 it hit (hsent ▸ hid)
        | connecting _ =>
          simp only [ReportEvent.dispatched, Option.some.injEq] at hsent
          exact hun.2 it hit (hsent ▸ hid)
        | waiting _ _ =>
          simp only [ReportEvent.dispatched, Option.some.injEq] at hsent
          rw [← hsent] at hdisc
          simp at hdisc
      · obtain ⟨d, hd, rfl⟩ := List.mem_map.mp he
        simp only [ReportEvent.dispatched, Option.some.injEq] at hsent
        subst hsent
        have hdi : d.index = it2.index :=
          (storedCall_index hfind).symm.trans rfl
        have hkey : lookupKey d ∈ ds.map lookupKey := List.mem_map_of_mem hd
        rw [hgone] at hkey
        have hout := (List.mem_filter.mp hkey).2
        simp only [lookupKey, hdi] at hout
        simp [hmem] at hout
    · obtain ⟨tempInfo, htemp, he⟩ := happeared it hit hun
      have hindex : tempInfo.index = it.index := by
        rcases htemp with rfl | ⟨-, rfl⟩ <;> rfl
      rw [hevents, List.mem_append] at he
      rcases he with he | he
      · obtain ⟨it', -, hR⟩ := exists_of_forall₂_right hreported he
        exact not_mem_index_of_reported_connecting hR (hindex ▸ hmem)
      · simp at he
  · rintro ⟨hdisappeared, happeared⟩
    refine ⟨fun it2 hit2 hun objects m call hfind => ?_, fun it hit hun => ?_⟩
    · have hkey : lookupKey it2 ∈ ds.map lookupKey := by
        rw [hgone]
        refine List.mem_filter.mpr ⟨List.mem_map_of_mem hit2, ?_⟩
        simpa [lookupKey] using hdisappeared it2 hit2 hun
      obtain ⟨d, hd, heq⟩ := List.mem_map.mp hkey
      have htype : d.callType = it2.callType := by
        simp only [lookupKey, Prod.mk.injEq] at heq
        exact heq.2.2.1
      refine ⟨.disconnected d, ?_, d, rfl, ?_, ?_⟩
      · rw [hevents]
        exact List.mem_append_right _ (List.mem_map_of_mem hd)
      · exact handlerOf_disconnected (htype ▸ hun.1) (hstate d hd)
      · rw [storedCall_congr heq]
        exact hfind
    · obtain ⟨e, he, hR⟩ := exists_of_forall₂_left hreported hit
      have hout := happeared it hit hun
      have hold : ∀ it1 : CallDetailInfo, it1.index = it.index →
          lookupKey it1 ∈ (w.callDetailsInfo info.slotId).map lookupKey → False := by
        intro it1 hi hmem
        obtain ⟨it2, hit2, heq⟩ := List.mem_map.mp hmem
        have hi2 : it2.index = it.index := (congrArg Prod.fst heq).trans hi
        exact hout (hi2 ▸ List.mem_map_of_mem hit2)
      have hin : e ∈ (handleCallsReportInfo calls w info).2.1 := by
        rw [hevents]
        exact List.mem_append_left _ he
      cases hR with
      | unchanged hi hmem _ => exact (hold _ hi hmem).elim
      | updated hi hmem _ => exact (hold _ hi hmem).elim
      | connecting _ => exact ⟨it, Or.inl rfl, hin⟩
      | waiting _ hs => exact ⟨_, Or.inr ⟨hs, rfl⟩, hin⟩

/-- **Main theorem.** Over every run of reports, on any slots and from any snapshots, the diff
    agrees with the lookup in every report iff in every report no call that has disappeared or
    appeared, by its identity, shares its index with an entry of the other list. -/
theorem reports_keyAgree_iff (hk : calls.Keeps lookupKey) (reports : List CallDetailsInfo) :
    Run.StepsMeet (fun w info => (handleCallsReportInfo calls w info).2.2) (KeyAgrees calls) w
      reports ↔
    Run.StepsMeet (fun w info => (handleCallsReportInfo calls w info).2.2)
      (NoIndexCollision calls) w reports := by
  induction reports generalizing w with
  | nil => rfl
  | cons info reports ih => exact and_congr (keyAgrees_iff hk) ih

end Agreement

/-! ## Two calls with one index -/

/-- A Bluetooth call of the report of slot 0. -/
def bluetoothDetail (index : ℤ) (state : TelCallState) : CallDetailInfo :=
  { reportedDetail index state with callType := .bluetooth }

theorem antiFraudCalls_keeps_lookupKey : antiFraudCalls.Keeps lookupKey where
  handle w d slot := by simp [antiFraudCalls, Function.comp_def, lookupKey]
  refresh w d slot := rfl

/-- Reports of a Bluetooth call and an IMS call with different indices. -/
theorem reports_keyAgree_distinct_indices :
    Run.StepsMeet (fun w info => (handleCallsReportInfo antiFraudCalls w info).2.2)
      (KeyAgrees antiFraudCalls) (ReportWorld.init ())
      [⟨[bluetoothDetail 1 .active], 0⟩, ⟨[reportedDetail 2 .active], 0⟩] := by
  rw [reports_keyAgree_iff antiFraudCalls_keeps_lookupKey]
  refine ⟨fun _ => ⟨?_, ?_⟩, fun _ => ⟨?_, ?_⟩, trivial⟩ <;> intro d hd _
  · simp [ReportWorld.init] at hd
  · simp [ReportWorld.init]
  · rw [handleCallsReportInfo_snapshot (by decide)] at hd
    simp [bluetoothDetail, reportedDetail] at hd
    simp [hd, reportedDetail]
  · rw [handleCallsReportInfo_snapshot (by decide)]
    simp [bluetoothDetail, reportedDetail] at hd ⊢
    simp [hd]

/-- A Bluetooth call with index 1 ends and an IMS call with index 1 appears in its place: the
    IMS call is dispatched as an update of the Bluetooth call, which nobody disconnects. -/
theorem bluetooth_call_swallows_ims_call :
    (Run.emit (fun w info => (handleCallsReportInfo antiFraudCalls w info).2)
      (ReportWorld.init ())
      [⟨[bluetoothDetail 1 .active], 0⟩, ⟨[reportedDetail 1 .incoming], 0⟩]).1 =
      [.connecting (bluetoothDetail 1 .active),
        .updated (reportedDetail 1 .incoming)
          (bluetoothDetail 1 .active)] ∧
    ¬ Run.StepsMeet (fun w info => (handleCallsReportInfo antiFraudCalls w info).2.2)
      (KeyAgrees antiFraudCalls) (ReportWorld.init ())
      [⟨[bluetoothDetail 1 .active], 0⟩, ⟨[reportedDetail 1 .incoming], 0⟩] := by
  refine ⟨by decide, ?_⟩
  rintro ⟨-, hsecond, -⟩
  rw [keyAgrees_iff antiFraudCalls_keeps_lookupKey] at hsecond
  refine (hsecond (by decide)).2 (reportedDetail 1 .incoming) (by simp) ?_ ?_
  · refine ⟨by decide, ?_⟩
    rw [handleCallsReportInfo_snapshot (by decide)]
    decide
  · rw [handleCallsReportInfo_snapshot (by decide)]
    decide

end CallManager
