import CallManager.Types
import CallManager.Library.Alternation
import CallManager.Library.OrderedMap
import CallManager.Library.Run
import Mathlib.Data.List.Forall2

/-!
# The modem's call lists and the calls they report

The modem reports the whole call list of a slot every time something changes.
`HandleCallsReportInfo` compares the report with the snapshot of the previous
one and hands single calls to `HandleCallReportInfo`: those that are new, those
that changed, and those that are gone.

What `HandleCallReportInfo` does to the rest of the process is a parameter
here. It may edit the snapshots too (`TriggerAntiFraud` does), but neither the
index nor the state of an entry.

Results:
* `handleCallsReportInfo_once`: one report dispatches every index once, as new,
  as updated or as gone, or, if nothing changed, not at all, and leaves the
  report without its disconnected entries as the snapshot.
* `reports_once`: every report of a run does so, and from one dispatch of an
  index as new up to the next there is exactly one with state DISCONNECTED.
* `new_and_disconnected`: that one may be the dispatch as new itself.
-/

namespace CallManager

/-! ## Model -/

/-- The process as the comparison sees it: the snapshots of the two lists of `CallStatusManager`
    (call_status_manager.h:200-201), by slot, and the rest. -/
structure ReportWorld (σ : Type*) where
  callDetailsInfo : ℤ → List CallDetailInfo
  tmpCallDetailsInfo : ℤ → List CallDetailInfo
  rest : σ

/-- The functions the comparison calls, and the number of SIM slots (`SIM_SLOT_COUNT_MD`). -/
structure ReportCalls (σ : Type*) where
  handleCallReportInfo : ReportWorld σ → CallDetailInfo → ReportWorld σ
  refreshRttManager : ReportWorld σ → CallDetailInfo → ReportWorld σ
  isVoipCallActive : ReportWorld σ → Bool
  simSlotCount : ℕ

/-- What happens to one entry of a report or of a snapshot. -/
inductive ReportEvent
  /-- The entry `it` is the snapshot's `it1`, and nothing changed. -/
  | unchanged (it it1 : CallDetailInfo)
  /-- The entry `it` differs from the snapshot's `it1` and is handed on. -/
  | updated (it it1 : CallDetailInfo)
  /-- `tempInfo` is handed on for an entry that the snapshot does not have. -/
  | connecting (tempInfo : CallDetailInfo)
  /-- The snapshot's entry `it2`, now DISCONNECTED, is handed on. -/
  | disconnected (it2 : CallDetailInfo)
  deriving DecidableEq

namespace ReportEvent

/-- What an event hands to `HandleCallReportInfo`. -/
def dispatched : ReportEvent → Option CallDetailInfo
  | unchanged _ _ => none
  | updated it _ => some it
  | connecting tempInfo => some tempInfo
  | disconnected it2 => some it2

/-- The index of the entry an event is about. -/
def index : ReportEvent → ℤ
  | unchanged it _ => it.index
  | updated it _ => it.index
  | connecting tempInfo => tempInfo.index
  | disconnected it2 => it2.index

end ReportEvent

section Model

variable {σ : Type*} (calls : ReportCalls σ)

/-- `IsValidSlotId` (call_number_utils.cpp:169-175). -/
def isValidSlotId (slotId : ℤ) : Bool := 0 ≤ slotId ∧ slotId < calls.simSlotCount

/-- The test of `HandleCallsReportInfo` for a changed call (call_status_manager.cpp:285-286). -/
def Changed (it it1 : CallDetailInfo) : Prop :=
  it.state ≠ it1.state ∨ it.mpty ≠ it1.mpty ∨ it.state = .alerting ∨ it.callType = .voip ∨
    it.callMode ≠ it1.callMode ∨ it.callType ≠ it1.callType

instance (it it1 : CallDetailInfo) : Decidable (Changed it it1) :=
  inferInstanceAs (Decidable (_ ∨ _))

/-- `HandleConnectingCallReportInfo` (call_status_manager.cpp:325-336). -/
def handleConnectingCallReportInfo (w : ReportWorld σ) (info : CallDetailInfo) :
    List ReportEvent × ReportWorld σ :=
  let tempInfo :=
    if calls.isVoipCallActive w ∧ info.state = .incoming then { info with state := .waiting }
    else info
  ([.connecting tempInfo], calls.handleCallReportInfo w tempInfo)

/-- The first loop's body for the entry `it` (call_status_manager.cpp:282-299). The inner loop
    stops at the snapshot's first entry with the index of `it`; `flag` says that there is one. -/
def reportedCall (slot : ℤ) (w : ReportWorld σ) (it : CallDetailInfo) :
    List ReportEvent × ReportWorld σ :=
  let (events, flag, w) :=
    match (w.callDetailsInfo slot).find? fun it1 => it.index = it1.index with
    | some it1 =>
      if Changed it it1 then ([ReportEvent.updated it it1], true, calls.handleCallReportInfo w it)
      else ([.unchanged it it1], true, w)
    | none => ([], false, w)
  if flag = false ∨ w.callDetailsInfo slot = [] then
    let r := handleConnectingCallReportInfo calls w it
    (events ++ r.1, r.2)
  else (events, w)

/-- The second loop's body for the snapshot's entry at `pos` (call_status_manager.cpp:301-320):
    the entry is marked DISCONNECTED in place if no reported call has its index. -/
def snapshotCall (slot : ℤ) (callVec : List CallDetailInfo) (w : ReportWorld σ) (pos : ℕ) :
    List ReportEvent × ReportWorld σ :=
  match (w.callDetailsInfo slot)[pos]? with
  | none => ([], w)
  | some it2 =>
    match callVec.find? fun it3 => it2.index = it3.index with
    | some it3 => ([], calls.refreshRttManager w it3)
    | none =>
      let it2 := { it2 with state := .disconnected }
      let list := (w.callDetailsInfo slot).set pos it2
      let w := { w with callDetailsInfo := Function.update w.callDetailsInfo slot list }
      ([.disconnected it2], calls.handleCallReportInfo w it2)

/-- `UpdateCallDetailsInfo` (call_status_manager.cpp:338-353). -/
def updateCallDetailsInfo (w : ReportWorld σ) (info : CallDetailsInfo) : ReportWorld σ :=
  let list := info.callVec.filter fun i => i.state ≠ .disconnected
  let w := { w with callDetailsInfo := Function.update w.callDetailsInfo info.slotId list }
  if list = [] then
    { w with tmpCallDetailsInfo := Function.update w.tmpCallDetailsInfo info.slotId [] }
  else w

/-- `HandleCallsReportInfo` (call_status_manager.cpp:270-323), with the events of its two loops. -/
def handleCallsReportInfo (w : ReportWorld σ) (info : CallDetailsInfo) :
    ErrorCode × List ReportEvent × ReportWorld σ :=
  if isValidSlotId calls info.slotId = false then (.callErrInvalidSlotId, [], w)
  else
    let w :=
      { w with tmpCallDetailsInfo := Function.update w.tmpCallDetailsInfo info.slotId info.callVec }
    let r1 := Run.emit (reportedCall calls info.slotId) w info.callVec
    let positions := List.range (r1.2.callDetailsInfo info.slotId).length
    let r2 := Run.emit (snapshotCall calls info.slotId info.callVec) r1.2 positions
    (.telephonySuccess, r1.1 ++ r2.1, updateCallDetailsInfo r2.2 info)

end Model

/-! ## Specification -/

/-- The functions called leave `f` of every snapshot entry as it is. -/
structure ReportCalls.Keeps {σ α : Type*} (calls : ReportCalls σ) (f : CallDetailInfo → α) :
    Prop where
  handle : ∀ w d slot,
    ((calls.handleCallReportInfo w d).callDetailsInfo slot).map f =
      (w.callDetailsInfo slot).map f
  refresh : ∀ w d slot,
    ((calls.refreshRttManager w d).callDetailsInfo slot).map f = (w.callDetailsInfo slot).map f

/-- What the event of a reported call says, given what the snapshot's entries
    hold of `f`, among it their index `idx`. -/
inductive Reported {α : Type*} (f : CallDetailInfo → α) (idx : α → ℤ) (old : List α)
    (it : CallDetailInfo) : ReportEvent → Prop
  | unchanged {it1 : CallDetailInfo} :
    it1.index = it.index → f it1 ∈ old → ¬ Changed it it1 →
      Reported f idx old it (.unchanged it it1)
  | updated {it1 : CallDetailInfo} :
    it1.index = it.index → f it1 ∈ old → Changed it it1 → Reported f idx old it (.updated it it1)
  | connecting : it.index ∉ old.map idx → Reported f idx old it (.connecting it)
  | waiting : it.index ∉ old.map idx → it.state = .incoming →
    Reported f idx old it (.connecting { it with state := .waiting })

/-! ## The two loops -/

section Loops

variable {σ α : Type*} {calls : ReportCalls σ} {f : CallDetailInfo → α} {idx : α → ℤ}

theorem ReportCalls.Keeps.comp (h : calls.Keeps f) {β : Type*} (g : α → β) :
    calls.Keeps (g ∘ f) where
  handle w d slot := by simpa using congrArg (List.map g) (h.handle w d slot)
  refresh w d slot := by simpa using congrArg (List.map g) (h.refresh w d slot)

/-- The snapshots hold `K` of `f`. -/
def Holds (f : CallDetailInfo → α) (K : ℤ → List α) (w : ReportWorld σ) : Prop :=
  ∀ slot, (w.callDetailsInfo slot).map f = K slot

theorem Holds.handle {K : ℤ → List α} {w : ReportWorld σ} (h : Holds f K w) (hk : calls.Keeps f)
    (d : CallDetailInfo) : Holds f K (calls.handleCallReportInfo w d) :=
  fun slot => (hk.handle w d slot).trans (h slot)

theorem Holds.refresh {K : ℤ → List α} {w : ReportWorld σ} (h : Holds f K w) (hk : calls.Keeps f)
    (d : CallDetailInfo) : Holds f K (calls.refreshRttManager w d) :=
  fun slot => (hk.refresh w d slot).trans (h slot)

/-- A new call gives one event, with the reported entry or, during a MeeTime
    call, with the entry as a waiting one. -/
theorem handleConnectingCallReportInfo_spec {K : ℤ → List α} {w : ReportWorld σ}
    {it : CallDetailInfo} {slot : ℤ} (hk : calls.Keeps f) (h : Holds f K w)
    (hnew : it.index ∉ (K slot).map idx) :
    Holds f K (handleConnectingCallReportInfo calls w it).2 ∧
      ∃ e, (handleConnectingCallReportInfo calls w it).1 = [e] ∧ Reported f idx (K slot) it e := by
  refine ⟨h.handle hk _, _, rfl, ?_⟩
  split_ifs with hw
  · exact Reported.waiting hnew hw.2
  · exact Reported.connecting hnew

/-- **One iteration of the first loop** gives the entry exactly one event. -/
theorem reportedCall_spec {K : ℤ → List α} {w : ReportWorld σ} (hk : calls.Keeps f)
    (hidx : ∀ d, idx (f d) = d.index) (slot : ℤ) (it : CallDetailInfo) (h : Holds f K w) :
    Holds f K (reportedCall calls slot w it).2 ∧
      ∃ e, (reportedCall calls slot w it).1 = [e] ∧ Reported f idx (K slot) it e := by
  have hmap : (K slot).map idx = (w.callDetailsInfo slot).map (·.index) := by
    rw [← h slot, List.map_map]
    exact List.map_congr_left fun d _ => hidx d
  unfold reportedCall
  cases hfind : (w.callDetailsInfo slot).find? fun it1 => it.index = it1.index with
  | none =>
    have hnew : it.index ∉ (K slot).map idx := by
      rw [hmap, List.mem_map]
      rintro ⟨it1, hmem, heq⟩
      simpa [heq] using List.find?_eq_none.mp hfind it1 hmem
    simpa using handleConnectingCallReportInfo_spec hk h hnew
  | some it1 =>
    have hmem : it1 ∈ w.callDetailsInfo slot := List.mem_of_find?_eq_some hfind
    have hindex : it1.index = it.index := by simpa [eq_comm] using List.find?_some hfind
    have hold : f it1 ∈ K slot := by
      rw [← h slot]
      exact List.mem_map_of_mem hmem
    -- the snapshot stays non-empty, whatever the handler does
    have hne : ∀ {w' : ReportWorld σ}, Holds f K w' → w'.callDetailsInfo slot ≠ [] := by
      intro w' h' hnil
      have hK : K slot = [] := by rw [← h' slot, hnil, List.map_nil]
      simp [hK] at hold
    by_cases hc : Changed it it1
    · have h' := h.handle hk it
      simp only [if_pos hc, Bool.true_eq_false, hne h', or_self, if_false]
      exact ⟨h', _, rfl, Reported.updated hindex hold hc⟩
    · simp only [if_neg hc, Bool.true_eq_false, hne h, or_self, if_false]
      exact ⟨h, _, rfl, Reported.unchanged hindex hold hc⟩

/-- **The first loop** gives every reported entry exactly one event. -/
theorem reportedCalls_spec {K : ℤ → List α} {w : ReportWorld σ} (hk : calls.Keeps f)
    (hidx : ∀ d, idx (f d) = d.index) (slot : ℤ) (callVec : List CallDetailInfo)
    (h : Holds f K w) :
    Holds f K (Run.emit (reportedCall calls slot) w callVec).2 ∧
      List.Forall₂ (Reported f idx (K slot)) callVec
        (Run.emit (reportedCall calls slot) w callVec).1 :=
  Run.emit_forall₂ (fun _ it hw => reportedCall_spec hk hidx slot it hw) callVec h

/-- One iteration of the second loop: the entry at `pos` gives one event if no
    reported call has its index, and none otherwise. Marking it DISCONNECTED
    keeps what `f` sees, as `f` does not look at the state. -/
theorem snapshotCall_spec {K : ℤ → List α} {w : ReportWorld σ} (hk : calls.Keeps f)
    (hidx : ∀ d, idx (f d) = d.index)
    (hblind : ∀ d : CallDetailInfo, f { d with state := .disconnected } = f d) (slot : ℤ)
    (callVec : List CallDetailInfo) (h : Holds f K w) {pos : ℕ} {k : α}
    (hpos : (K slot)[pos]? = some k) :
    Holds f K (snapshotCall calls slot callVec w pos).2 ∧
      ∃ ds : List CallDetailInfo,
        (snapshotCall calls slot callVec w pos).1 = ds.map .disconnected ∧
        (∀ d ∈ ds, d.state = .disconnected) ∧
        ds.map f = if idx k ∈ callVec.map (·.index) then [] else [k] := by
  obtain ⟨it2, hit2, rfl⟩ : ∃ it2, (w.callDetailsInfo slot)[pos]? = some it2 ∧ f it2 = k := by
    simpa [← h slot] using hpos
  unfold snapshotCall
  rw [hit2, hidx]
  dsimp only
  cases hfind : callVec.find? fun it3 => it2.index = it3.index with
  | some it3 =>
    have hmem : it2.index ∈ callVec.map (·.index) := by
      refine List.mem_map.mpr ⟨it3, List.mem_of_find?_eq_some hfind, ?_⟩
      simpa [eq_comm] using List.find?_some hfind
    exact ⟨h.refresh hk it3, [], rfl, by simp, by simp [hmem]⟩
  | none =>
    have hmem : it2.index ∉ callVec.map (·.index) := by
      rw [List.mem_map]
      rintro ⟨it3, hit3, heq⟩
      simpa [heq] using List.find?_eq_none.mp hfind it3 hit3
    refine ⟨?_, [{ it2 with state := .disconnected }], rfl, by simp, by simp [hmem, hblind]⟩
    apply Holds.handle _ hk
    intro slot'
    by_cases hs : slot' = slot
    · subst hs
      simp only [Function.update_self, List.map_set, hblind, h slot']
      obtain ⟨hlt, hget⟩ := List.getElem?_eq_some_iff.mp hpos
      rw [← hget, List.set_getElem_self]
    · simpa [Function.update_of_ne hs] using h slot'

theorem snapshotCalls_spec {K : ℤ → List α} (hk : calls.Keeps f) (hidx : ∀ d, idx (f d) = d.index)
    (hblind : ∀ d : CallDetailInfo, f { d with state := .disconnected } = f d) (slot : ℤ)
    (callVec : List CallDetailInfo) {positions : List ℕ} {ks : List α}
    (hpos : List.Forall₂ (fun pos k => (K slot)[pos]? = some k) positions ks)
    {w : ReportWorld σ} (h : Holds f K w) :
    Holds f K (Run.emit (snapshotCall calls slot callVec) w positions).2 ∧
      ∃ ds : List CallDetailInfo,
        (Run.emit (snapshotCall calls slot callVec) w positions).1 = ds.map .disconnected ∧
        (∀ d ∈ ds, d.state = .disconnected) ∧
        ds.map f = ks.filter fun k => idx k ∉ callVec.map (·.index) := by
  induction hpos generalizing w with
  | nil => exact ⟨h, [], rfl, by simp, rfl⟩
  | @cons pos k positions ks hget _ ih =>
    obtain ⟨h1, ds1, he1, hd1, hf1⟩ := snapshotCall_spec hk hidx hblind slot callVec h hget
    obtain ⟨h2, ds2, he2, hd2, hf2⟩ := ih h1
    refine ⟨h2, ds1 ++ ds2, ?_, ?_, ?_⟩
    · simp only [Run.emit, he1, he2, List.map_append]
    · intro d hd
      rcases List.mem_append.mp hd with hd | hd
      · exact hd1 d hd
      · exact hd2 d hd
    · rw [List.map_append, hf1, hf2, List.filter_cons]
      by_cases hmem : idx k ∈ callVec.map (·.index) <;> simp [hmem]

/-- The positions of a list, against its elements. -/
theorem forall₂_range (l : List α) :
    List.Forall₂ (fun pos k => l[pos]? = some k) (List.range l.length) l := by
  rw [List.forall₂_iff_get]
  refine ⟨List.length_range, fun i h1 h2 => ?_⟩
  simp

/-- Whatever `f` sees of the other slots' snapshots, the second loop keeps. -/
theorem snapshotCalls_other {slot slot' : ℤ} (hs : slot' ≠ slot) (hk : calls.Keeps f)
    (callVec : List CallDetailInfo) (w : ReportWorld σ) (positions : List ℕ) :
    ((Run.emit (snapshotCall calls slot callVec) w positions).2.callDetailsInfo slot').map f =
      (w.callDetailsInfo slot').map f := by
  rw [Run.emit_state]
  refine Run.run_invariant
    (P := fun w' : ReportWorld σ => (w'.callDetailsInfo slot').map f =
      (w.callDetailsInfo slot').map f) (fun w' pos hw' => ?_) positions rfl
  rw [← hw']
  unfold snapshotCall
  split
  · rfl
  · split
    · exact hk.refresh _ _ _
    · rw [hk.handle]
      simp [Function.update_of_ne hs]

end Loops

/-! ## One report -/

section Report

variable {σ α β : Type*} {calls : ReportCalls σ}

theorem handleCallsReportInfo_invalid {w : ReportWorld σ} {info : CallDetailsInfo}
    (hslot : isValidSlotId calls info.slotId = false) :
    handleCallsReportInfo calls w info = (.callErrInvalidSlotId, [], w) :=
  if_pos hslot

theorem handleCallsReportInfo_code {w : ReportWorld σ} {info : CallDetailsInfo}
    (hslot : isValidSlotId calls info.slotId = true) :
    (handleCallsReportInfo calls w info).1 = .telephonySuccess := by
  simp [handleCallsReportInfo, hslot]

/-- **The events of a report**: one for each reported call, in order, and then
    the entries of the snapshot that are gone, in order. -/
theorem handleCallsReportInfo_events {f : CallDetailInfo → α} {idx : α → ℤ}
    {g : CallDetailInfo → β} {j : β → ℤ} {w : ReportWorld σ} {info : CallDetailsInfo}
    (hf : calls.Keeps f) (hidx : ∀ d, idx (f d) = d.index) (hg : calls.Keeps g)
    (hidg : ∀ d, j (g d) = d.index)
    (hblind : ∀ d : CallDetailInfo, g { d with state := .disconnected } = g d)
    (hslot : isValidSlotId calls info.slotId = true) :
    ∃ (events : List ReportEvent) (ds : List CallDetailInfo),
      (handleCallsReportInfo calls w info).2.1 = events ++ ds.map .disconnected ∧
      List.Forall₂ (Reported f idx ((w.callDetailsInfo info.slotId).map f)) info.callVec events ∧
      (∀ d ∈ ds, d.state = .disconnected) ∧
      ds.map g = ((w.callDetailsInfo info.slotId).map g).filter
        fun k => j k ∉ info.callVec.map (·.index) := by
  -- the world in which the first loop starts holds the snapshots of `w`
  let w0 : ReportWorld σ :=
    { w with tmpCallDetailsInfo := Function.update w.tmpCallDetailsInfo info.slotId info.callVec }
  have hf0 : Holds f (fun slot => (w.callDetailsInfo slot).map f) w0 := fun slot => rfl
  have hg0 : Holds g (fun slot => (w.callDetailsInfo slot).map g) w0 := fun slot => rfl
  obtain ⟨-, hevents⟩ := reportedCalls_spec hf hidx info.slotId info.callVec hf0
  obtain ⟨hg1, -⟩ := reportedCalls_spec hg hidg info.slotId info.callVec hg0
  obtain ⟨-, ds, hds, hstate, hmap⟩ := snapshotCalls_spec hg hidg hblind info.slotId info.callVec
    (forall₂_range _) hg1
  refine ⟨_, ds, ?_, hevents, hstate, hmap⟩
  have hlen : ((Run.emit (reportedCall calls info.slotId) w0 info.callVec).2.callDetailsInfo
      info.slotId).length = ((w.callDetailsInfo info.slotId).map g).length := by
    simpa using congrArg List.length (hg1 info.slotId)
  rw [← hds, ← hlen]
  simp only [handleCallsReportInfo, hslot, Bool.true_eq_false, if_false]
  rfl

/-- The slot's snapshot after a report is the report without its DISCONNECTED
    entries, whatever the handlers did. -/
theorem handleCallsReportInfo_snapshot {w : ReportWorld σ} {info : CallDetailsInfo}
    (hslot : isValidSlotId calls info.slotId = true) :
    (handleCallsReportInfo calls w info).2.2.callDetailsInfo info.slotId =
      info.callVec.filter fun i => i.state ≠ .disconnected := by
  simp only [handleCallsReportInfo, hslot, Bool.true_eq_false, if_false, updateCallDetailsInfo]
  split_ifs <;> simp

/-- A report leaves the snapshots of the other slots as the handlers do. -/
theorem handleCallsReportInfo_other {f : CallDetailInfo → α} {idx : α → ℤ} {w : ReportWorld σ}
    {info : CallDetailsInfo} (hf : calls.Keeps f) (hidx : ∀ d, idx (f d) = d.index) {slot : ℤ}
    (hs : slot ≠ info.slotId) :
    ((handleCallsReportInfo calls w info).2.2.callDetailsInfo slot).map f =
      (w.callDetailsInfo slot).map f := by
  unfold handleCallsReportInfo
  split_ifs with hslot
  · rfl
  · have hupdate : ∀ w' : ReportWorld σ,
        (updateCallDetailsInfo w' info).callDetailsInfo slot = w'.callDetailsInfo slot := by
      intro w'
      unfold updateCallDetailsInfo
      dsimp only
      split_ifs <;> simp [Function.update_of_ne hs]
    dsimp only
    rw [hupdate, snapshotCalls_other hs hf]
    have hf0 : Holds f (fun slot => (w.callDetailsInfo slot).map f)
        { w with
          tmpCallDetailsInfo :=
            Function.update w.tmpCallDetailsInfo info.slotId info.callVec } := fun _ => rfl
    exact (reportedCalls_spec hf hidx info.slotId info.callVec hf0).1 slot

/-- The snapshots between reports: distinct indices, nothing DISCONNECTED. -/
def SnapshotsOk (w : ReportWorld σ) : Prop :=
  ∀ slot, ((w.callDetailsInfo slot).map (·.index)).Nodup ∧
    ∀ d ∈ w.callDetailsInfo slot, d.state ≠ .disconnected

/-- The events of a report that are about the index `i`. -/
def eventsOf (i : ℤ) (events : List ReportEvent) : List ReportEvent :=
  events.filter fun e => e.index = i

/-- **What a report has to do**, where `f` is what the handlers leave of an entry: the entries
    that are gone, new or in both lists give one event each, and there are no other events; an
    entry in both is handed on if it changed since the snapshot was taken; the slot's snapshot
    becomes the report without its DISCONNECTED entries and the other slots' stay. -/
structure ReportedOnce (calls : ReportCalls σ) (f : CallDetailInfo → α) (w : ReportWorld σ)
    (info : CallDetailsInfo) : Prop where
  gone : ∀ it2 ∈ w.callDetailsInfo info.slotId, it2.index ∉ info.callVec.map (·.index) →
    ∃ d : CallDetailInfo, d.index = it2.index ∧ d.state = .disconnected ∧
      eventsOf it2.index (handleCallsReportInfo calls w info).2.1 = [.disconnected d]
  fresh : ∀ it ∈ info.callVec, it.index ∉ (w.callDetailsInfo info.slotId).map (·.index) →
    ∃ tempInfo, (tempInfo = it ∨ it.state = .incoming ∧ tempInfo = { it with state := .waiting }) ∧
      eventsOf it.index (handleCallsReportInfo calls w info).2.1 = [.connecting tempInfo]
  both : ∀ it ∈ info.callVec, ∀ it2 ∈ w.callDetailsInfo info.slotId, it2.index = it.index →
    ∃ it1, f it1 = f it2 ∧ eventsOf it.index (handleCallsReportInfo calls w info).2.1 =
      [if Changed it it1 then .updated it it1 else .unchanged it it1]
  only : ∀ e ∈ (handleCallsReportInfo calls w info).2.1,
    e.index ∈ info.callVec.map (·.index) ∨
      e.index ∈ (w.callDetailsInfo info.slotId).map (·.index)
  snapshot : (handleCallsReportInfo calls w info).2.2.callDetailsInfo info.slotId =
    info.callVec.filter fun i => i.state ≠ .disconnected
  others : ∀ slot ≠ info.slotId,
    ((handleCallsReportInfo calls w info).2.2.callDetailsInfo slot).map f =
      (w.callDetailsInfo slot).map f

theorem Reported.index_eq {f : CallDetailInfo → α} {idx : α → ℤ} {old : List α}
    {it : CallDetailInfo} {e : ReportEvent} (h : Reported f idx old it e) : e.index = it.index := by
  cases h <;> rfl

theorem forall₂_map_eq {γ δ κ : Type*} {R : γ → δ → Prop} {key : γ → κ} {key' : δ → κ}
    (hR : ∀ a b, R a b → key' b = key a) {l : List γ} {l' : List δ} (h : List.Forall₂ R l l') :
    l'.map key' = l.map key := by
  induction h with
  | nil => rfl
  | cons hab _ ih => rw [List.map_cons, List.map_cons, hR _ _ hab, ih]

theorem exists_of_forall₂_left {γ δ : Type*} {R : γ → δ → Prop} {l : List γ} {l' : List δ}
    (h : List.Forall₂ R l l') {a : γ} (ha : a ∈ l) : ∃ b ∈ l', R a b := by
  induction h with
  | nil => simp at ha
  | cons hab _ ih =>
    rcases List.mem_cons.mp ha with rfl | ha
    · exact ⟨_, List.mem_cons_self, hab⟩
    · obtain ⟨b, hb, hR⟩ := ih ha
      exact ⟨b, List.mem_cons_of_mem _ hb, hR⟩

/-- **One report** with distinct indices does what it has to, from snapshots
    with distinct indices, whatever its handlers do besides keeping `f`. -/
theorem handleCallsReportInfo_once {f : CallDetailInfo → α} {idx : α → ℤ} {w : ReportWorld σ}
    {info : CallDetailsInfo} (hf : calls.Keeps f) (hidx : ∀ d, idx (f d) = d.index)
    (hw : SnapshotsOk w) (hinfo : (info.callVec.map (·.index)).Nodup)
    (hslot : isValidSlotId calls info.slotId = true) : ReportedOnce calls f w info := by
  have hindex : calls.Keeps (idx ∘ f) := hf.comp idx
  obtain ⟨evs, ds, hevents, hreported, hstate, hgone⟩ := handleCallsReportInfo_events
    (g := idx ∘ f) (j := id) hf hidx hindex hidx (fun d => by simp [hidx]) hslot
  have hidxf : idx ∘ f = (·.index) := funext hidx
  simp only [hidxf, id_eq] at hgone
  have hevIndex : evs.map (·.index) = info.callVec.map (·.index) :=
    forall₂_map_eq (fun _ _ h => h.index_eq) hreported
  -- the two kinds of events, as maps keyed by their index
  let evMap : OrderedMap ReportEvent.index := ⟨evs, by rw [hevIndex]; exact hinfo⟩
  have hdsNodup : (ds.map (·.index)).Nodup := by
    rw [hgone]
    exact (hw info.slotId).1.sublist List.filter_sublist
  let dsMap : OrderedMap CallDetailInfo.index := ⟨ds, hdsNodup⟩
  have hdsIndex : ∀ d ∈ ds, d.index ∉ info.callVec.map (·.index) := by
    intro d hd
    have hmem : d.index ∈ ds.map (·.index) := List.mem_map_of_mem hd
    rw [hgone] at hmem
    simpa using (List.mem_filter.mp hmem).2
  have hfilter : ∀ i, eventsOf i (handleCallsReportInfo calls w info).2.1 =
      evs.filter (fun e => e.index = i) ++
        (ds.filter fun d => d.index = i).map .disconnected := by
    intro i
    rw [eventsOf, hevents, List.filter_append, List.filter_map]
    rfl
  -- a reported entry has one event
  have hone : ∀ it ∈ info.callVec, ∃ e, Reported f idx ((w.callDetailsInfo info.slotId).map f) it e ∧
      eventsOf it.index (handleCallsReportInfo calls w info).2.1 = [e] := by
    intro it hit
    obtain ⟨e, he, hR⟩ := exists_of_forall₂_left hreported hit
    refine ⟨e, hR, ?_⟩
    have hnone : ds.filter (fun d => d.index = it.index) = [] := by
      rw [List.filter_eq_nil_iff]
      intro d hd hdi
      simp only [decide_eq_true_eq] at hdi
      exact hdsIndex d hd (hdi ▸ List.mem_map_of_mem hit)
    have hself : evs.filter (fun e' => e'.index = it.index) = [e] := by
      rw [← hR.index_eq]
      exact evMap.filter_key he
    rw [hfilter, hself, hnone, List.map_nil, List.append_nil]
  constructor
  case gone =>
    intro it2 hit2 hnot
    have hmem : it2.index ∈ ds.map (·.index) := by
      rw [hgone]
      exact List.mem_filter.mpr ⟨List.mem_map_of_mem hit2, by simpa using hnot⟩
    obtain ⟨d, hd, hdi⟩ := List.mem_map.mp hmem
    have hself : ds.filter (fun d' => d'.index = it2.index) = [d] := by
      rw [← hdi]
      exact dsMap.filter_key hd
    have hnone : evs.filter (fun e => e.index = it2.index) = [] := by
      rw [List.filter_eq_nil_iff]
      intro e he hei
      simp only [decide_eq_true_eq] at hei
      exact hnot (hevIndex ▸ hei ▸ List.mem_map_of_mem he)
    exact ⟨d, hdi, hstate d hd, by rw [hfilter, hself, hnone]; rfl⟩
  case fresh =>
    intro it hit hnot
    obtain ⟨e, hR, he⟩ := hone it hit
    have hnot' : it.index ∉ ((w.callDetailsInfo info.slotId).map f).map idx := by
      rw [List.map_map, hidxf]
      exact hnot
    have hold : ∀ it1 : CallDetailInfo, it1.index = it.index →
        f it1 ∈ (w.callDetailsInfo info.slotId).map f → False := by
      intro it1 hi hmem
      apply hnot'
      rw [← hi, ← hidx it1]
      exact List.mem_map_of_mem hmem
    cases hR with
    | unchanged hi hmem _ => exact (hold _ hi hmem).elim
    | updated hi hmem _ => exact (hold _ hi hmem).elim
    | connecting _ => exact ⟨it, Or.inl rfl, he⟩
    | waiting _ hs => exact ⟨_, Or.inr ⟨hs, rfl⟩, he⟩
  case both =>
    intro it hit it2 hit2 heq
    obtain ⟨e, hR, he⟩ := hone it hit
    -- the compared entry holds what the snapshot's entry of the index held
    have hsame : ∀ it1 : CallDetailInfo, it1.index = it.index →
        f it1 ∈ (w.callDetailsInfo info.slotId).map f → f it1 = f it2 := by
      intro it1 hi hmem
      obtain ⟨it1', hit1', hfeq⟩ := List.mem_map.mp hmem
      have hi' : it1'.index = it2.index := by
        rw [← hidx, hfeq, hidx, hi, heq]
      rw [← hfeq, List.inj_on_of_nodup_map (hw info.slotId).1 hit1' hit2 hi']
    have hmem2 : it.index ∈ ((w.callDetailsInfo info.slotId).map f).map idx := by
      rw [List.map_map, hidxf, ← heq]
      exact List.mem_map_of_mem hit2
    cases hR with
    | unchanged hi hmem hc => exact ⟨_, hsame _ hi hmem, by rw [he, if_neg hc]⟩
    | updated hi hmem hc => exact ⟨_, hsame _ hi hmem, by rw [he, if_pos hc]⟩
    | connecting hnot => exact absurd hmem2 hnot
    | waiting hnot _ => exact absurd hmem2 hnot
  case only =>
    intro e he
    rw [hevents, List.mem_append] at he
    rcases he with he | he
    · left
      rw [← hevIndex]
      exact List.mem_map_of_mem he
    · right
      obtain ⟨d, hd, rfl⟩ := List.mem_map.mp he
      have hmem : d.index ∈ ds.map (·.index) := List.mem_map_of_mem hd
      rw [hgone] at hmem
      exact (List.mem_filter.mp hmem).1
  case snapshot => exact handleCallsReportInfo_snapshot hslot
  case others => exact fun slot hs => handleCallsReportInfo_other hf hidx hs

end Report

/-! ## Runs of reports -/

/-- A report with pairwise distinct indices. -/
structure DistinctReport where
  info : CallDetailsInfo
  nodup : (info.callVec.map (·.index)).Nodup

namespace ReportEvent

/-- The index is dispatched as new. -/
def opens : ReportEvent → Bool
  | connecting _ => true
  | _ => false

/-- The index is dispatched with state DISCONNECTED. -/
def closes (e : ReportEvent) : Bool :=
  match e.dispatched with
  | some d => d.state = .disconnected
  | none => false

end ReportEvent

section Runs

variable {σ α : Type*} (calls : ReportCalls σ)

/-- The process after a report. -/
def reportStep (w : ReportWorld σ) (r : DistinctReport) : ReportWorld σ :=
  (handleCallsReportInfo calls w r.info).2.2

/-- What a report dispatches about the index `i` on `slot`. -/
def dispatchesOf (slot i : ℤ) (w : ReportWorld σ) (r : DistinctReport) : List ReportEvent :=
  if r.info.slotId = slot then
    (eventsOf i (handleCallsReportInfo calls w r.info).2.1).filter fun e => e.dispatched.isSome
  else []

/-- What a run dispatches about the index `i` on `slot`, in order. -/
def runDispatches (slot i : ℤ) (w : ReportWorld σ) (reports : List DistinctReport) :
    List ReportEvent :=
  (Run.emit (fun w r => (dispatchesOf calls slot i w r, reportStep calls w r)) w reports).1

/-- The slot's snapshot has an entry of the index. -/
def InSnapshot (slot i : ℤ) (w : ReportWorld σ) : Bool :=
  (w.callDetailsInfo slot).any fun d => d.index = i

variable {calls} {f : CallDetailInfo → α} {idx : α → ℤ} {st : α → TelCallState}
  {w : ReportWorld σ} {r : DistinctReport}

theorem inSnapshot_iff {slot i : ℤ} :
    InSnapshot slot i w = true ↔ i ∈ (w.callDetailsInfo slot).map (·.index) := by
  simp [InSnapshot]

/-- A slot that `f` finds unchanged still has distinct indices and no DISCONNECTED entry. -/
theorem snapshot_ok_of_map_eq {l l' : List CallDetailInfo} (hidx : ∀ d, idx (f d) = d.index)
    (hst : ∀ d, st (f d) = d.state) (h : l'.map f = l.map f)
    (hl : (l.map (·.index)).Nodup ∧ ∀ d ∈ l, d.state ≠ .disconnected) :
    (l'.map (·.index)).Nodup ∧ ∀ d ∈ l', d.state ≠ .disconnected := by
  have hindex : l'.map (·.index) = l.map (·.index) := by
    simpa [Function.comp_def, hidx] using congrArg (List.map idx) h
  have hstate : l'.map (·.state) = l.map (·.state) := by
    simpa [Function.comp_def, hst] using congrArg (List.map st) h
  refine ⟨hindex ▸ hl.1, fun d hd => ?_⟩
  have hmem : d.state ∈ l.map (·.state) := hstate ▸ List.mem_map_of_mem hd
  obtain ⟨d', hd', heq⟩ := List.mem_map.mp hmem
  rw [← heq]
  exact hl.2 d' hd'

theorem SnapshotsOk.step (hf : calls.Keeps f) (hidx : ∀ d, idx (f d) = d.index)
    (hst : ∀ d, st (f d) = d.state) (hw : SnapshotsOk w) (r : DistinctReport) :
    SnapshotsOk (reportStep calls w r) := by
  intro slot
  by_cases hslot : isValidSlotId calls r.info.slotId = true
  · by_cases hs : slot = r.info.slotId
    · subst hs
      rw [reportStep, handleCallsReportInfo_snapshot hslot]
      refine ⟨r.nodup.sublist (List.filter_sublist.map _), fun d hd => ?_⟩
      simpa using (List.mem_filter.mp hd).2
    · exact snapshot_ok_of_map_eq hidx hst (handleCallsReportInfo_other hf hidx hs) (hw slot)
  · rw [reportStep, handleCallsReportInfo_invalid (by simpa using hslot)]
    exact hw slot

/-- **One report, seen from one index of one slot**: a new index is opened, a
    known one is closed at most once, and whether the index is in the snapshot
    afterwards says whether it is open. -/
theorem dispatchesOf_alternates (hf : calls.Keeps f) (hidx : ∀ d, idx (f d) = d.index)
    (hst : ∀ d, st (f d) = d.state) (hw : SnapshotsOk w) (r : DistinctReport) (slot i : ℤ) :
    Alternates ReportEvent.opens ReportEvent.closes (InSnapshot slot i w)
      (dispatchesOf calls slot i w r) ∧
    liveAfter ReportEvent.closes (InSnapshot slot i w) (dispatchesOf calls slot i w r) =
      InSnapshot slot i (reportStep calls w r) := by
  by_cases hs : r.info.slotId = slot
  swap
  · -- another slot: nothing is dispatched and the snapshot's indices stay
    have hindex : ((reportStep calls w r).callDetailsInfo slot).map (·.index) =
        (w.callDetailsInfo slot).map (·.index) := by
      by_cases hslot : isValidSlotId calls r.info.slotId = true
      · have h := handleCallsReportInfo_other (w := w) hf hidx (Ne.symm hs)
        simpa [reportStep, Function.comp_def, hidx] using congrArg (List.map idx) h
      · rw [reportStep, handleCallsReportInfo_invalid (by simpa using hslot)]
    rw [dispatchesOf, if_neg hs]
    refine ⟨trivial, ?_⟩
    rw [liveAfter, Bool.eq_iff_iff, inSnapshot_iff, inSnapshot_iff, hindex]
  by_cases hslot : isValidSlotId calls r.info.slotId = true
  swap
  · rw [dispatchesOf, if_pos hs, reportStep, handleCallsReportInfo_invalid (by simpa using hslot)]
    exact ⟨trivial, rfl⟩
  subst hs
  have honce := handleCallsReportInfo_once hf hidx hw r.nodup hslot
  rw [dispatchesOf, if_pos rfl]
  -- the snapshot afterwards has the reported index unless it is DISCONNECTED
  have hafter : ∀ it ∈ r.info.callVec, it.index = i →
      InSnapshot r.info.slotId i (reportStep calls w r) = !decide (it.state = .disconnected) := by
    intro it hit hi
    rw [Bool.eq_iff_iff, inSnapshot_iff, reportStep, honce.snapshot, List.mem_map]
    constructor
    · rintro ⟨d, hd, hdi⟩
      obtain ⟨hd, hds⟩ := List.mem_filter.mp hd
      have heq : d = it := List.inj_on_of_nodup_map r.nodup hd hit (hdi.trans hi.symm)
      simpa [heq] using hds
    · intro hst'
      exact ⟨it, List.mem_filter.mpr ⟨hit, by simpa using hst'⟩, hi⟩
  by_cases hnew : i ∈ r.info.callVec.map (·.index)
  · obtain ⟨it, hit, rfl⟩ := List.mem_map.mp hnew
    by_cases hold : it.index ∈ (w.callDetailsInfo r.info.slotId).map (·.index)
    · -- in both lists
      obtain ⟨it2, hit2, heq⟩ := List.mem_map.mp hold
      obtain ⟨it1, hfeq, hevents⟩ := honce.both it hit it2 hit2 heq
      have hstate : it1.state ≠ .disconnected := by
        rw [← hst, hfeq, hst]
        exact (hw r.info.slotId).2 it2 hit2
      rw [hafter it hit rfl, inSnapshot_iff.mpr hold, hevents]
      by_cases hc : Changed it it1
      · rw [if_pos hc]
        simp [Alternates, liveAfter, ReportEvent.opens, ReportEvent.closes,
          ReportEvent.dispatched]
      · have hsame : it.state ≠ .disconnected := by
          intro h
          exact hc (Or.inl (by rw [h]; exact hstate.symm))
        rw [if_neg hc]
        simp [Alternates, liveAfter, ReportEvent.dispatched, hsame]
    · -- a new index
      obtain ⟨tempInfo, htemp, hevents⟩ := honce.fresh it hit hold
      have hlive : InSnapshot r.info.slotId it.index w = false := by
        rw [← Bool.not_eq_true, inSnapshot_iff]
        exact hold
      have hstate : tempInfo.state = .disconnected ↔ it.state = .disconnected := by
        rcases htemp with rfl | ⟨hinc, rfl⟩
        · rfl
        · simp [hinc]
      rw [hafter it hit rfl, hlive, hevents]
      simp [Alternates, liveAfter, ReportEvent.opens, ReportEvent.closes, ReportEvent.dispatched,
        hstate]
  · have hout : InSnapshot r.info.slotId i (reportStep calls w r) = false := by
      rw [← Bool.not_eq_true, inSnapshot_iff, reportStep, honce.snapshot, List.mem_map]
      rintro ⟨d, hd, rfl⟩
      exact hnew (List.mem_map_of_mem (List.mem_filter.mp hd).1)
    by_cases hold : i ∈ (w.callDetailsInfo r.info.slotId).map (·.index)
    · -- the index is gone
      obtain ⟨it2, hit2, rfl⟩ := List.mem_map.mp hold
      obtain ⟨d, -, hds, hevents⟩ := honce.gone it2 hit2 hnew
      rw [hout, inSnapshot_iff.mpr hold, hevents]
      simp [Alternates, liveAfter, ReportEvent.opens, ReportEvent.closes, ReportEvent.dispatched,
        hds]
    · -- the index is in neither list
      have hlive : InSnapshot r.info.slotId i w = false := by
        rw [← Bool.not_eq_true, inSnapshot_iff]
        exact hold
      have hnone : eventsOf i (handleCallsReportInfo calls w r.info).2.1 = [] := by
        rw [eventsOf, List.filter_eq_nil_iff]
        intro e he hei
        simp only [decide_eq_true_eq] at hei
        rcases honce.only e he with h | h
        · exact hnew (hei ▸ h)
        · exact hold (hei ▸ h)
      rw [hout, hlive, hnone]
      simp [Alternates, liveAfter]

/-- The dispatches of an index over a whole run alternate. -/
theorem runDispatches_alternates (hf : calls.Keeps f) (hidx : ∀ d, idx (f d) = d.index)
    (hst : ∀ d, st (f d) = d.state) (slot i : ℤ) (reports : List DistinctReport)
    (hw : SnapshotsOk w) :
    Alternates ReportEvent.opens ReportEvent.closes (InSnapshot slot i w)
      (runDispatches calls slot i w reports) := by
  induction reports generalizing w with
  | nil => trivial
  | cons r reports ih =>
    obtain ⟨halt, hlive⟩ := dispatchesOf_alternates hf hidx hst hw r slot i
    refine halt.append ?_
    rw [hlive]
    exact ih (hw.step hf hidx hst r)

/-- The process before its first report: no snapshot has an entry. -/
def ReportWorld.init (rest : σ) : ReportWorld σ := ⟨fun _ => [], fun _ => [], rest⟩

theorem SnapshotsOk.init (rest : σ) : SnapshotsOk (ReportWorld.init rest) :=
  fun _ => ⟨List.nodup_nil, fun _ hd => absurd hd List.not_mem_nil⟩

/-- What each report of a run does: one with an invalid slot id changes
    nothing, and any other does what it has to. -/
def ReportMeets (calls : ReportCalls σ) (f : CallDetailInfo → α) (w : ReportWorld σ)
    (r : DistinctReport) : Prop :=
  if isValidSlotId calls r.info.slotId = true then
    (handleCallsReportInfo calls w r.info).1 = .telephonySuccess ∧ ReportedOnce calls f w r.info
  else handleCallsReportInfo calls w r.info = (.callErrInvalidSlotId, [], w)

theorem steps_reportMeets (hf : calls.Keeps f) (hidx : ∀ d, idx (f d) = d.index)
    (hst : ∀ d, st (f d) = d.state) (reports : List DistinctReport) (hw : SnapshotsOk w) :
    Run.StepsMeet (reportStep calls) (ReportMeets calls f) w reports := by
  induction reports generalizing w with
  | nil => trivial
  | cons r reports ih =>
    refine ⟨?_, ih (hw.step hf hidx hst r)⟩
    unfold ReportMeets
    split_ifs with hslot
    · exact ⟨handleCallsReportInfo_code hslot,
        handleCallsReportInfo_once hf hidx hw r.nodup hslot⟩
    · exact handleCallsReportInfo_invalid (by simpa using hslot)

/-- **Main theorem.** In every run of reports with pairwise distinct indices, on any slots, with
    any handler that keeps of a snapshot's entries at least their index and state, every report
    does what it has to; and from one dispatch of an index as new, that one included, up to the
    next there is exactly one with state DISCONNECTED. -/
theorem reports_once (hf : calls.Keeps f) (hidx : ∀ d, idx (f d) = d.index)
    (hst : ∀ d, st (f d) = d.state) (rest : σ) (reports : List DistinctReport) :
    Run.StepsMeet (reportStep calls) (ReportMeets calls f) (ReportWorld.init rest) reports ∧
    ∀ slot i pre a mid b post,
      runDispatches calls slot i (ReportWorld.init rest) reports = pre ++ a :: (mid ++ b :: post) →
      ReportEvent.opens a = true → ReportEvent.opens b = true →
      (∀ e ∈ mid, ReportEvent.opens e = false) →
      (a :: mid).countP ReportEvent.closes = 1 ∧
      (ReportEvent.closes a = false → mid.countP ReportEvent.closes = 1) := by
  have hinit : SnapshotsOk (ReportWorld.init rest) := SnapshotsOk.init rest
  refine ⟨steps_reportMeets hf hidx hst reports hinit, ?_⟩
  intro slot i pre a mid b post hrun ha hb hmid
  have halt := runDispatches_alternates hf hidx hst slot i reports hinit
  rw [hrun] at halt
  have hone := halt.closings_between hb hmid
  refine ⟨hone, fun hclose => ?_⟩
  simpa [List.countP_cons, hclose] using hone

/-- A handler that, like `TriggerAntiFraud`, writes the anti-fraud state of the
    snapshots' entries. -/
def antiFraudCalls : ReportCalls Unit where
  handleCallReportInfo w _ :=
    { w with callDetailsInfo := fun slot =>
        (w.callDetailsInfo slot).map fun d => { d with antiFraudState := 1 } }
  refreshRttManager w _ := w
  isVoipCallActive _ := false
  simSlotCount := 2

theorem antiFraudCalls_keeps : antiFraudCalls.Keeps fun d => (d.index, d.state) where
  handle w d slot := by simp [antiFraudCalls, Function.comp_def]
  refresh w d slot := rfl

/-- A reported call of slot 0. -/
def reportedDetail (index : ℤ) (state : TelCallState) : CallDetailInfo where
  index := index
  phoneNum := "10086"
  accountId := 0
  callType := .ims
  callMode := .voice
  state := state
  mpty := 0
  phoneOrWatch := 0
  antiFraudState := 0
  phoneIndex := 0
  voipCallInfo := {}

/-- A report of one call on slot 0. -/
def oneCallReport (index : ℤ) (state : TelCallState) : DistinctReport :=
  ⟨⟨[reportedDetail index state], 0⟩, by simp⟩

theorem reports_once_active_then_gone :
    Run.StepsMeet (reportStep antiFraudCalls)
      (ReportMeets antiFraudCalls fun d => (d.index, d.state)) (ReportWorld.init ())
      [oneCallReport 1 .active, oneCallReport 2 .incoming] := by
  have hidx : ∀ d : CallDetailInfo, Prod.fst (d.index, d.state) = d.index := fun _ => rfl
  have hst : ∀ d : CallDetailInfo, Prod.snd (d.index, d.state) = d.state := fun _ => rfl
  exact (reports_once antiFraudCalls_keeps hidx hst () _).1

/-- An index that is first reported as DISCONNECTED and then reported again is
    dispatched as new twice, with no dispatch in between. -/
theorem new_and_disconnected :
    ¬ ∀ pre a mid b post,
      runDispatches antiFraudCalls 0 1 (ReportWorld.init ())
        [oneCallReport 1 .disconnected, oneCallReport 1 .active] = pre ++ a :: (mid ++ b :: post) →
      ReportEvent.opens a = true → ReportEvent.opens b = true →
      (∀ e ∈ mid, ReportEvent.opens e = false) → mid.countP ReportEvent.closes = 1 := by
  intro h
  have hrun : runDispatches antiFraudCalls 0 1 (ReportWorld.init ())
      [oneCallReport 1 .disconnected, oneCallReport 1 .active] =
      [] ++ .connecting (reportedDetail 1 .disconnected) ::
        ([] ++ .connecting (reportedDetail 1 .active) :: []) := by
    decide
  have := h _ _ _ _ _ hrun rfl rfl (by simp)
  simp at this

end Runs

end CallManager
