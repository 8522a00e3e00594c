import Mathlib.Data.Finset.Basic
import CallManager.Library.OrderedMap
import CallManager.Library.Run
import CallManager.Types

/-!
# The session of a real-time text call

`RttCallListener` has one `rttManager_`, for the text of the one call that has
any. It makes it, or turns it to another call, when an IMS call whose state is
`RTT_STATE_YES` becomes active or is reported active, and destroys it when an
IMS call is DISCONNECTED and when the modem reports that real-time text is
closed or failed.

Specification (`Sound`): the calls whose session is due are those that have
become active with real-time text and have neither been DISCONNECTED nor closed
by their own report since; each of them has the session, with its channel, and
no other call has one. And a session is torn down by an event of its call
(`TornByOwn`).

None of the two destructions looks whose session it is: the notification is
tested for the type of its call, and the report, which has been resolved to a
call for the application, is passed on without it. The end of a call that has
become a CS call does not count as the end of an IMS call.

Results:
* `session_belongs_to_call`: the runs that keep the specification are those in
  which one call at a time has real-time text and no other IMS call ends, and
  no report comes of another, before its session is gone.
* `other_call_ends_session`: a second IMS call that ends, or that an error is
  reported of.
-/

namespace CallManager.Rtt

/-! ## Model of the code -/

/-- `ImsRTTEventType` (call_manager_inner_type.h:418-423). -/
inductive ImsRTTEventType
  | rttEnabled
  | rttClosed
  | remoteRequestEnableRtt
  | rttParamChange
  deriving DecidableEq, Repr

/-- A call in `callObjectPtrList_`. The last two fields are those of an `IMSCall`. -/
structure RttCall where
  callId : ℤ
  callType : CallType
  index : ℤ
  slotId : ℤ
  rttState : RttCallState
  rttChannelId : ℤ
  deriving DecidableEq, Repr

/-- `SetRttState` and `SetRttChannelId`. -/
def RttCall.setRtt (rttState : RttCallState) (rttChannelId : ℤ) (c : RttCall) : RttCall :=
  { c with rttState, rttChannelId }

theorem RttCall.callId_setRtt (rttState : RttCallState) (rttChannelId : ℤ) (c : RttCall) :
    (c.setRtt rttState rttChannelId).callId = c.callId := rfl

/-- `RefreshCallIfNecessary`, as far as it sets them (call_status_manager.cpp:1869-1876). -/
def RttCall.refreshRtt (rttState : RttCallState) (rttChannelId : ℤ) (c : RttCall) : RttCall :=
  if c.callType = .ims then c.setRtt rttState rttChannelId else c

theorem RttCall.callId_refreshRtt (rttState : RttCallState) (rttChannelId : ℤ) (c : RttCall) :
    (c.refreshRtt rttState rttChannelId).callId = c.callId := by
  rw [refreshRtt]
  split_ifs <;> rfl

/-- `ImsRttManager`: its call and channel. The channel id has 16 bits. -/
structure ImsRttManager where
  callId : ℤ
  channelId : BitVec 16
  deriving DecidableEq, Repr

/-- The fields of a report that `RefreshRttManager` reads. -/
structure RttReport where
  state : TelCallState
  callType : CallType
  index : ℤ
  accountId : ℤ
  rttState : RttCallState
  rttChannelId : ℤ
  deriving DecidableEq, Repr

/-- The calls, `rttManager_`, and the tasks that the RTT reports have left in
    `reportCallInfoQueue`, each with the call it was resolved to. `due` records
    the calls whose session is due; no operation reads it. -/
structure RttWorld where
  calls : OrderedMap RttCall.callId
  rttManager : Option ImsRttManager
  reportCallInfoQueue : List (ImsRTTEventType × Option ℤ)
  due : Finset ℤ

/-- What can happen: a call is stored, or gets another object (`RefreshCall`), or its RTT fields
    are set from a report (`RefreshCallIfNecessary`), or it is deleted; it is notified, or
    refreshed from a report; and the RTT reports come, and are carried out. -/
inductive RttOp
  | setCall (c : RttCall)
  | setRtt (callId : ℤ) (rttState : RttCallState) (rttChannelId : ℤ)
  | deleteOneCallObject (callId : ℤ)
  | callStateUpdated (callId : ℤ) (nextState : TelCallState)
  | refreshRttManager (info : RttReport)
  | handleRttEvtChanged (index slotId : ℤ) (eventType : ImsRTTEventType)
  | handleRttErrReport (index slotId : ℤ)
  | runReport
  deriving DecidableEq, Repr

namespace RttWorld

/-- `GetOneCallObjectByIndexAndSlotId` (call_object_manager.cpp:731-743). -/
def getOneCallObjectByIndexAndSlotId (w : RttWorld) (index slotId : ℤ) : Option RttCall :=
  w.calls.entries.find? fun it => it.index = index ∧ it.slotId = slotId ∧ it.callType ≠ .voip

/-- `GetOneCallObjectByIndexSlotIdAndCallType`, for an IMS call (lines 745-771). It does not
    test that the call it finds is one. -/
def getOneCallObjectByIndexSlotIdAndCallType (w : RttWorld) (index slotId : ℤ) :
    Option RttCall :=
  w.calls.entries.find? fun it =>
    it.callType ≠ .bluetooth ∧ it.index = index ∧ it.slotId = slotId ∧ it.callType ≠ .voip

/-- `InitRttManager`, which makes the manager or turns it to the call
    (rtt_call_listener.cpp:47-69). -/
def initRttManager (w : RttWorld) (imsCall : RttCall) : RttWorld :=
  if imsCall.rttState ≠ .yes then w
  else { w with rttManager := some ⟨imsCall.callId, BitVec.ofInt 16 imsCall.rttChannelId⟩ }

/-- `UnInitRttManager` (lines 71-82). -/
def unInitRttManager (w : RttWorld) : RttWorld := { w with rttManager := none }

/-- `CallStateUpdated` (lines 26-45). -/
def callStateUpdated (w : RttWorld) (call : RttCall) (nextState : TelCallState) : RttWorld :=
  if call.callType ≠ .ims then w
  else
    match nextState with
    | .active => w.initRttManager call
    | .disconnected => w.unInitRttManager
    | _ => w

/-- The notification of a stored call. -/
def notify (w : RttWorld) (callId : ℤ) (nextState : TelCallState) : RttWorld :=
  match w.calls.lookup callId with
  | none => w
  | some c => w.callStateUpdated c nextState

/-- `RefreshRttManager` (call_control_manager.cpp:2482-2501). -/
def refreshRttManager (w : RttWorld) (info : RttReport) : RttWorld :=
  if info.state ≠ .active ∨ info.callType ≠ .ims ∨ info.rttState ≠ .yes then w
  else
    match w.getOneCallObjectByIndexSlotIdAndCallType info.index info.accountId with
    | none => w
    | some c =>
      let calls := w.calls.modify c.callId (RttCall.setRtt info.rttState info.rttChannelId)
        (RttCall.callId_setRtt info.rttState info.rttChannelId)
      { w with calls }.initRttManager (c.setRtt info.rttState info.rttChannelId)

/-- `HandleRttEvtChanged`, which leaves a task (call_status_callback.cpp:612-625). -/
def handleRttEvtChanged (w : RttWorld) (index slotId : ℤ) (eventType : ImsRTTEventType) :
    RttWorld :=
  { w with reportCallInfoQueue := w.reportCallInfoQueue ++
      [(eventType, (w.getOneCallObjectByIndexAndSlotId index slotId).map RttCall.callId)] }

/-- `HandleRttErrReport` (lines 627-642). -/
def handleRttErrReport (w : RttWorld) (index slotId : ℤ) : RttWorld :=
  w.handleRttEvtChanged index slotId .rttClosed

/-- `HandleRttEventInfo` (call_status_manager.cpp:3011-3025). -/
def handleRttEventInfo (w : RttWorld) (eventType : ImsRTTEventType) : RttWorld :=
  match eventType with
  | .rttClosed => w.unInitRttManager
  | _ => w

/-- The first task of the queue runs. -/
def runReport (w : RttWorld) : RttWorld :=
  match w.reportCallInfoQueue with
  | [] => w
  | task :: tasks => { w with reportCallInfoQueue := tasks }.handleRttEventInfo task.1

/-! ### What the record keeps -/

/-- The call, with its RTT fields, that an operation makes or reports active with
    real-time text. -/
def activated (w : RttWorld) : RttOp → Option RttCall
  | .callStateUpdated callId .active =>
    (w.calls.lookup callId).filter fun c => c.callType = .ims ∧ c.rttState = .yes
  | .refreshRttManager info =>
    if info.state = .active ∧ info.callType = .ims ∧ info.rttState = .yes then
      (w.getOneCallObjectByIndexSlotIdAndCallType info.index info.accountId).map
        (RttCall.setRtt info.rttState info.rttChannelId)
    else none
  | _ => none

/-- The call that an operation disconnects or closes the real-time text of. -/
def finished (w : RttWorld) : RttOp → Option ℤ
  | .callStateUpdated callId .disconnected => (w.calls.lookup callId).map RttCall.callId
  | .runReport =>
    (w.reportCallInfoQueue.head?.filter fun task => task.1 = .rttClosed).bind Prod.snd
  | _ => none

/-- The calls whose session is due after an operation. -/
def dueAfter (w : RttWorld) (op : RttOp) : Finset ℤ :=
  match w.activated op with
  | some c => insert c.callId w.due
  | none => w.due.filter fun callId => w.finished op ≠ some callId

/-- What the code does. -/
def code (w : RttWorld) : RttOp → RttWorld
  | .setCall c => { w with calls := (w.calls.erase c.callId).insert c }
  | .setRtt callId rttState rttChannelId =>
    let calls := w.calls.modify callId (RttCall.refreshRtt rttState rttChannelId)
      (RttCall.callId_refreshRtt rttState rttChannelId)
    { w with calls }
  | .deleteOneCallObject callId => { w with calls := w.calls.erase callId }
  | .callStateUpdated callId nextState => w.notify callId nextState
  | .refreshRttManager info => w.refreshRttManager info
  | .handleRttEvtChanged index slotId eventType => w.handleRttEvtChanged index slotId eventType
  | .handleRttErrReport index slotId => w.handleRttErrReport index slotId
  | .runReport => w.runReport

/-- One operation. -/
def step (w : RttWorld) (op : RttOp) : RttWorld := { w.code op with due := w.dueAfter op }

/-- No call yet. -/
def init : RttWorld := ⟨OrderedMap.empty _, none, [], ∅⟩

/-! ## Specification -/

/-- The session is that of the call it is due to. -/
structure Sound (w : RttWorld) : Prop where
  kept : ∀ callId ∈ w.due, ∃ m ∈ w.rttManager, m.callId = callId ∧
    ∀ c ∈ w.calls.lookup callId, c.callType = .ims → (m.channelId.toNat : ℤ) = c.rttChannelId
  gone : ∀ m ∈ w.rttManager, m.callId ∈ w.due

/-- A session is torn down by an event of its call. -/
def TornByOwn (w : RttWorld) (op : RttOp) : Prop :=
  ∀ m ∈ w.rttManager, (w.step op).rttManager = none → w.finished op = some m.callId

/-- The condition on an operation. A call that becomes active with real-time text
    is the one that has the session, if any has, and its channel has 16 bits. The
    channel of the call that has the session changes only so. A call that ends is an
    IMS call iff the session, if there is one, is its own. A task that closes is that
    of a report of the call that has the session, if any has. -/
def StepOk (w : RttWorld) (op : RttOp) : Prop :=
  (∀ c ∈ w.activated op, (∀ m ∈ w.rttManager, m.callId = c.callId) ∧
    (c.callType = .ims → 0 ≤ c.rttChannelId ∧ c.rttChannelId < 65536)) ∧
    match op with
    | .setCall c => c.callType = .ims → ∀ m ∈ w.rttManager, m.callId = c.callId →
        (m.channelId.toNat : ℤ) = c.rttChannelId
    | .setRtt callId _ rttChannelId => ∀ c ∈ w.calls.lookup callId, c.callType = .ims →
        ∀ m ∈ w.rttManager, m.callId = callId → (m.channelId.toNat : ℤ) = rttChannelId
    | .callStateUpdated callId .disconnected => ∀ c ∈ w.calls.lookup callId,
        ∀ m ∈ w.rttManager, (c.callType = .ims ↔ m.callId = callId)
    | .runReport => ∀ task ∈ w.reportCallInfoQueue.head?, task.1 = .rttClosed →
        ∀ m ∈ w.rttManager, task.2 = some m.callId
    | _ => True

/-! ## What an operation does -/

variable {w w' : RttWorld}

theorem toNat_ofInt_iff (channelId : ℤ) :
    (((BitVec.ofInt 16 channelId).toNat : ℕ) : ℤ) = channelId ↔
      0 ≤ channelId ∧ channelId < 65536 := by
  rw [BitVec.toNat_ofInt]
  omega

theorem Sound.due_iff (h : w.Sound) (callId : ℤ) :
    callId ∈ w.due ↔ ∃ m ∈ w.rttManager, m.callId = callId := by
  constructor
  · intro hdue
    obtain ⟨m, hm, hid, -⟩ := h.kept callId hdue
    exact ⟨m, hm, hid⟩
  · rintro ⟨m, hm, rfl⟩
    exact h.gone m hm

theorem dueAfter_of_none {op : RttOp} (h : w.activated op = none) :
    w.dueAfter op = w.due.filter fun callId => w.finished op ≠ some callId := by
  rw [dueAfter, h]

theorem dueAfter_of_some {op : RttOp} {c : RttCall} (h : w.activated op = some c) :
    w.dueAfter op = insert c.callId w.due := by
  rw [dueAfter, h]

theorem dueAfter_of_idle {op : RttOp} (h : w.activated op = none) (h' : w.finished op = none) :
    w.dueAfter op = w.due := by
  rw [dueAfter_of_none h, h']
  exact Finset.filter_true_of_mem fun callId _ => (Option.some_ne_none callId).symm

/-- A call becomes active with real-time text. -/
theorem Sound.activate {op : RttOp} (h : w.Sound) {c : RttCall}
    (hactivated : w.activated op = some c)
    (hmanager : (w.code op).rttManager = some ⟨c.callId, BitVec.ofInt 16 c.rttChannelId⟩)
    (hself : (w.code op).calls.lookup c.callId = some c) :
    (w.step op).Sound ↔ (∀ m ∈ w.rttManager, m.callId = c.callId) ∧
      (c.callType = .ims → 0 ≤ c.rttChannelId ∧ c.rttChannelId < 65536) := by
  have hdue : (w.step op).due = insert c.callId w.due := dueAfter_of_some hactivated
  replace hmanager : (w.step op).rttManager = _ := hmanager
  constructor
  · intro h'
    constructor
    · intro m hm
      have hin : m.callId ∈ (w.step op).due := by
        rw [hdue]
        exact Finset.mem_insert_of_mem (h.gone m hm)
      obtain ⟨m', hm', hid⟩ := (h'.due_iff m.callId).mp hin
      rw [hmanager] at hm'
      rw [← hid, ← Option.some.inj hm']
    · intro hims
      have hin : c.callId ∈ (w.step op).due := by
        rw [hdue]
        exact Finset.mem_insert_self _ _
      obtain ⟨m', hm', -, hchannel⟩ := h'.kept c.callId hin
      rw [hmanager] at hm'
      rw [← toNat_ofInt_iff]
      have hfits := hchannel c hself hims
      rwa [← Option.some.inj hm'] at hfits
  · rintro ⟨hown, hfits⟩
    constructor
    · intro callId hin
      have hid : callId = c.callId := by
        rw [hdue] at hin
        rcases Finset.mem_insert.mp hin with hid | hin
        · exact hid
        · obtain ⟨m, hm, hid⟩ := (h.due_iff callId).mp hin
          rw [← hid, hown m hm]
      refine ⟨_, hmanager, hid.symm, fun c' hc' hims => ?_⟩
      rw [hid] at hc'
      replace hc' : (w.code op).calls.lookup c.callId = some c' := hc'
      rw [hself] at hc'
      obtain rfl := Option.some.inj hc'
      exact (toNat_ofInt_iff _).mpr (hfits hims)
    · intro m' hm'
      rw [hmanager] at hm'
      rw [hdue, ← Option.some.inj hm']
      exact Finset.mem_insert_self _ _

/-- The manager is destroyed. -/
theorem Sound.tear {op : RttOp} (h : w.Sound) (hidle : w.activated op = none)
    (hmanager : (w.code op).rttManager = none) :
    (w.step op).Sound ↔ ∀ m ∈ w.rttManager, w.finished op = some m.callId := by
  have hdue : (w.step op).due = _ := dueAfter_of_none hidle
  replace hmanager : (w.step op).rttManager = none := hmanager
  constructor
  · intro h' m hm
    by_contra hother
    have hin : m.callId ∈ (w.step op).due := by
      rw [hdue]
      exact Finset.mem_filter.mpr ⟨h.gone m hm, hother⟩
    obtain ⟨m', hm', -⟩ := (h'.due_iff m.callId).mp hin
    rw [hmanager] at hm'
    cases hm'
  · intro hown
    constructor
    · intro callId hin
      rw [hdue] at hin
      obtain ⟨hin, hother⟩ := Finset.mem_filter.mp hin
      obtain ⟨m, hm, rfl⟩ := (h.due_iff callId).mp hin
      exact absurd (hown m hm) hother
    · intro m' hm'
      rw [hmanager] at hm'
      cases hm'

/-- A call ends, and the manager stays. -/
theorem Sound.stay {op : RttOp} (h : w.Sound) (hidle : w.activated op = none)
    (hmanager : (w.code op).rttManager = w.rttManager) (hcalls : (w.code op).calls = w.calls) :
    (w.step op).Sound ↔ ∀ m ∈ w.rttManager, w.finished op ≠ some m.callId := by
  have hdue : (w.step op).due = _ := dueAfter_of_none hidle
  replace hmanager : (w.step op).rttManager = w.rttManager := hmanager
  replace hcalls : (w.step op).calls = w.calls := hcalls
  constructor
  · intro h' m hm
    have hin := h'.gone m (hmanager ▸ hm)
    rw [hdue] at hin
    exact (Finset.mem_filter.mp hin).2
  · intro hother
    constructor
    · intro callId hin
      rw [hdue] at hin
      rw [hmanager, hcalls]
      exact h.kept callId (Finset.mem_filter.mp hin).1
    · intro m hm
      rw [hmanager] at hm
      rw [hdue]
      exact Finset.mem_filter.mpr ⟨h.gone m hm, hother m hm⟩

/-- The store changes, at one call at most. -/
theorem Sound.store (h : w.Sound) (callId : ℤ) (hmanager : w'.rttManager = w.rttManager)
    (hdue : w'.due = w.due) (hrest : ∀ id, id ≠ callId → w'.calls.lookup id = w.calls.lookup id) :
    w'.Sound ↔ ∀ c ∈ w'.calls.lookup callId, c.callType = .ims → ∀ m ∈ w.rttManager,
      m.callId = callId → (m.channelId.toNat : ℤ) = c.rttChannelId := by
  constructor
  · rintro h' c hc hims m hm rfl
    obtain ⟨m', hm', -, hchannel⟩ := h'.kept m.callId (hdue ▸ h.gone m hm)
    rw [hmanager, Option.mem_def.mp hm] at hm'
    rw [Option.some.inj hm']
    exact hchannel c hc hims
  · intro hchannel
    constructor
    · intro id hin
      rw [hdue] at hin
      obtain ⟨m, hm, hid, hkept⟩ := h.kept id hin
      refine ⟨m, hmanager ▸ hm, hid, fun c hc hims => ?_⟩
      by_cases hsame : id = callId
      · rw [hsame] at hc hid
        exact hchannel c hc hims m hm hid
      · rw [hrest id hsame] at hc
        exact hkept c hc hims
    · intro m hm
      rw [hmanager] at hm
      rw [hdue]
      exact h.gone m hm

/-- What is left of the condition when no call becomes active. -/
theorem not_activated {op : RttOp} (h : w.activated op = none) :
    ∀ c ∈ w.activated op, (∀ m ∈ w.rttManager, m.callId = c.callId) ∧
      (c.callType = .ims → 0 ≤ c.rttChannelId ∧ c.rttChannelId < 65536) := by
  intro c hc
  rw [h] at hc
  cases hc

theorem sound_setCall_iff (h : w.Sound) (c : RttCall) :
    (w.step (.setCall c)).Sound ↔ w.StepOk (.setCall c) := by
  have hlookup : ∀ id, (w.step (.setCall c)).calls.lookup id =
      if c.callId = id then some c else (w.calls.erase c.callId).lookup id :=
    OrderedMap.lookup_insert fun hmem => (OrderedMap.mem_erase.mp hmem).1 rfl
  have hidle : w.activated (.setCall c) = none := rfl
  have hdue : (w.step (.setCall c)).due = w.due := dueAfter_of_idle hidle rfl
  have hmanager : (w.step (.setCall c)).rttManager = w.rttManager := rfl
  have hstore := h.store c.callId hmanager hdue fun id hid => by
    rw [hlookup, if_neg (Ne.symm hid), OrderedMap.lookup_erase, if_neg hid]
  rw [hstore, hlookup, if_pos rfl]
  constructor
  · exact fun hok => ⟨not_activated hidle, hok c rfl⟩
  · rintro ⟨-, hok⟩ c' hc'
    obtain rfl := Option.some.inj hc'
    exact hok

theorem sound_setRtt_iff (h : w.Sound) (callId : ℤ) (rttState : RttCallState) (rttChannelId : ℤ) :
    (w.step (.setRtt callId rttState rttChannelId)).Sound ↔
      w.StepOk (.setRtt callId rttState rttChannelId) := by
  have hlookup : ∀ id, (w.step (.setRtt callId rttState rttChannelId)).calls.lookup id =
      if id = callId then (w.calls.lookup id).map (RttCall.refreshRtt rttState rttChannelId)
      else w.calls.lookup id :=
    OrderedMap.lookup_modify w.calls callId (RttCall.callId_refreshRtt rttState rttChannelId)
  have hidle : w.activated (.setRtt callId rttState rttChannelId) = none := rfl
  have hdue : (w.step (.setRtt callId rttState rttChannelId)).due = w.due :=
    dueAfter_of_idle hidle rfl
  have hmanager : (w.step (.setRtt callId rttState rttChannelId)).rttManager = w.rttManager := rfl
  have hstore := h.store callId hmanager hdue fun id hid => by rw [hlookup, if_neg hid]
  rw [hstore, hlookup, if_pos rfl]
  constructor
  · intro hok
    refine ⟨not_activated hidle, fun c hc hims m hm hid => ?_⟩
    have hset : c.setRtt rttState rttChannelId ∈
        (w.calls.lookup callId).map (RttCall.refreshRtt rttState rttChannelId) := by
      rw [Option.mem_def.mp hc, Option.map_some, RttCall.refreshRtt, if_pos hims]
      rfl
    exact hok _ hset hims m hm hid
  · rintro ⟨-, hok⟩ c' hc' hims m hm hid
    obtain ⟨c, hc, rfl⟩ := Option.map_eq_some_iff.mp hc'
    by_cases hwas : c.callType = .ims
    · rw [RttCall.refreshRtt, if_pos hwas]
      exact hok c hc hwas m hm hid
    · rw [RttCall.refreshRtt, if_neg hwas] at hims
      exact absurd hims hwas

theorem sound_deleteOneCallObject (h : w.Sound) (callId : ℤ) :
    (w.step (.deleteOneCallObject callId)).Sound := by
  have hlookup : ∀ id, (w.step (.deleteOneCallObject callId)).calls.lookup id =
      if id = callId then none else w.calls.lookup id := OrderedMap.lookup_erase w.calls callId
  have hidle : w.activated (.deleteOneCallObject callId) = none := rfl
  have hdue : (w.step (.deleteOneCallObject callId)).due = w.due := dueAfter_of_idle hidle rfl
  have hmanager : (w.step (.deleteOneCallObject callId)).rttManager = w.rttManager := rfl
  have hstore := h.store callId hmanager hdue fun id hid => by rw [hlookup, if_neg hid]
  rw [hstore, hlookup, if_pos rfl]
  intro c hc
  cases hc

/-! ### The notification -/

theorem activated_callStateUpdated {callId : ℤ} {c : RttCall}
    (hc : w.calls.lookup callId = some c) (hims : c.callType = .ims) (hyes : c.rttState = .yes) :
    w.activated (.callStateUpdated callId .active) = some c := by
  show (w.calls.lookup callId).filter _ = some c
  rw [hc, Option.filter_some, if_pos (decide_eq_true ⟨hims, hyes⟩)]

theorem activated_callStateUpdated_of_not {callId : ℤ}
    (hnot : ∀ c ∈ w.calls.lookup callId, ¬ (c.callType = .ims ∧ c.rttState = .yes)) :
    w.activated (.callStateUpdated callId .active) = none := by
  show (w.calls.lookup callId).filter _ = none
  cases hc : w.calls.lookup callId with
  | none => rfl
  | some c =>
    have hfalse : decide (c.callType = .ims ∧ c.rttState = .yes) = false :=
      decide_eq_false (hnot c hc)
    rw [Option.filter_some, hfalse]
    rfl

theorem notify_none {callId : ℤ} (hc : w.calls.lookup callId = none) (nextState : TelCallState) :
    w.notify callId nextState = w := by
  rw [notify, hc]

theorem notify_some {callId : ℤ} {c : RttCall} (hc : w.calls.lookup callId = some c)
    (nextState : TelCallState) : w.notify callId nextState = w.callStateUpdated c nextState := by
  rw [notify, hc]

theorem notify_of_ne (callId : ℤ) {nextState : TelCallState} (hactive : nextState ≠ .active)
    (hdisconnected : nextState ≠ .disconnected) : w.notify callId nextState = w := by
  cases hc : w.calls.lookup callId with
  | none => exact notify_none hc _
  | some c =>
    rw [notify_some hc]
    unfold callStateUpdated
    split_ifs
    · rfl
    · split
      · exact absurd rfl hactive
      · exact absurd rfl hdisconnected
      · rfl

/-- A call with the key it was looked up by. -/
theorem callId_of_lookup {callId : ℤ} {c : RttCall} (hc : w.calls.lookup callId = some c) :
    c.callId = callId := by
  simpa using List.find?_some hc

/-- An operation that neither activates nor ends a call, and leaves the calls and the manager. -/
theorem Sound.idle {op : RttOp} (h : w.Sound) (hidle : w.activated op = none)
    (hfinished : w.finished op = none) (hmanager : (w.code op).rttManager = w.rttManager)
    (hcalls : (w.code op).calls = w.calls) : (w.step op).Sound := by
  rw [h.stay hidle hmanager hcalls, hfinished]
  exact fun m _ => (Option.some_ne_none m.callId).symm

theorem sound_active_iff (h : w.Sound) (callId : ℤ) :
    (w.step (.callStateUpdated callId .active)).Sound ↔
      w.StepOk (.callStateUpdated callId .active) := by
  by_cases hnot : ∀ c ∈ w.calls.lookup callId, ¬ (c.callType = .ims ∧ c.rttState = .yes)
  · have hidle := activated_callStateUpdated_of_not hnot
    have hcode : w.code (.callStateUpdated callId .active) = w := by
      show w.notify callId .active = w
      cases hc : w.calls.lookup callId with
      | none => exact notify_none hc _
      | some c =>
        rw [notify_some hc]
        unfold callStateUpdated initRttManager
        split_ifs with hims hyes
        · rfl
        · rfl
        · exact absurd ⟨not_not.mp hims, not_not.mp hyes⟩ (hnot c hc)
    refine iff_of_true ?_ ⟨not_activated hidle, trivial⟩
    exact h.idle hidle rfl (congrArg rttManager hcode) (congrArg calls hcode)
  · push Not at hnot
    obtain ⟨c, hc, hims, hyes⟩ := hnot
    have hactivated := activated_callStateUpdated hc hims hyes
    have hcode : w.code (.callStateUpdated callId .active) =
        { w with rttManager := some ⟨c.callId, BitVec.ofInt 16 c.rttChannelId⟩ } := by
      show w.notify callId .active = _
      rw [notify_some hc]
      unfold callStateUpdated initRttManager
      rw [if_neg (not_not_intro hims), if_neg (not_not_intro hyes)]
    have hself : (w.code (.callStateUpdated callId .active)).calls.lookup c.callId = some c := by
      rw [hcode, callId_of_lookup hc]
      exact hc
    rw [h.activate hactivated (congrArg rttManager hcode) hself]
    constructor
    · intro hok
      refine ⟨fun c' hc' => ?_, trivial⟩
      rw [hactivated] at hc'
      obtain rfl := Option.some.inj hc'
      exact hok
    · exact fun hok => hok.1 c hactivated

theorem sound_disconnected_iff (h : w.Sound) (callId : ℤ) :
    (w.step (.callStateUpdated callId .disconnected)).Sound ↔
      w.StepOk (.callStateUpdated callId .disconnected) := by
  have hidle : w.activated (.callStateUpdated callId .disconnected) = none := rfl
  cases hc : w.calls.lookup callId with
  | none =>
    have hfinished : w.finished (.callStateUpdated callId .disconnected) = none := by
      show (w.calls.lookup callId).map RttCall.callId = none
      rw [hc]
      rfl
    have hcode : w.code (.callStateUpdated callId .disconnected) = w := notify_none hc _
    refine iff_of_true ?_ ⟨not_activated hidle, fun c hc' => ?_⟩
    · exact h.idle hidle hfinished (congrArg rttManager hcode) (congrArg calls hcode)
    · rw [hc] at hc'
      cases hc'
  | some c =>
    have hfinished : w.finished (.callStateUpdated callId .disconnected) = some callId := by
      show (w.calls.lookup callId).map RttCall.callId = some callId
      rw [hc, Option.map_some, callId_of_lookup hc]
    have hok : w.StepOk (.callStateUpdated callId .disconnected) ↔
        ∀ m ∈ w.rttManager, (c.callType = .ims ↔ m.callId = callId) := by
      constructor
      · exact fun hok => hok.2 c hc
      · refine fun hok => ⟨not_activated hidle, fun c' hc' => ?_⟩
        rw [hc] at hc'
        obtain rfl := Option.some.inj hc'
        exact hok
    have hcode : w.code (.callStateUpdated callId .disconnected) =
        w.callStateUpdated c .disconnected := notify_some hc _
    rw [hok]
    by_cases hims : c.callType = .ims
    · have hmanager : (w.code (.callStateUpdated callId .disconnected)).rttManager = none := by
        rw [hcode, callStateUpdated, if_neg (not_not_intro hims)]
        rfl
      rw [h.tear hidle hmanager, hfinished]
      refine forall₂_congr fun m _ => ?_
      rw [Option.some.injEq, eq_comm]
      exact (iff_true_left hims).symm
    · have hsame : w.code (.callStateUpdated callId .disconnected) = w := by
        rw [hcode, callStateUpdated, if_pos hims]
      rw [h.stay hidle (congrArg rttManager hsame) (congrArg calls hsame), hfinished]
      refine forall₂_congr fun m _ => ?_
      rw [Ne, Option.some.injEq, eq_comm]
      exact (iff_false_left hims).symm

theorem sound_callStateUpdated_iff (h : w.Sound) (callId : ℤ) (nextState : TelCallState) :
    (w.step (.callStateUpdated callId nextState)).Sound ↔
      w.StepOk (.callStateUpdated callId nextState) := by
  cases nextState with
  | active => exact sound_active_iff h callId
  | disconnected => exact sound_disconnected_iff h callId
  | unknown | holding | dialing | alerting | incoming | waiting | disconnecting | idle
  | answered =>
    refine iff_of_true ?_ ⟨not_activated rfl, trivial⟩
    refine h.idle rfl rfl (congrArg rttManager ?_) (congrArg calls ?_)
    all_goals exact notify_of_ne callId (by decide) (by decide)

/-! ### The reports -/

theorem sound_refreshRttManager_iff (h : w.Sound) (info : RttReport) :
    (w.step (.refreshRttManager info)).Sound ↔ w.StepOk (.refreshRttManager info) := by
  by_cases hguard : info.state = .active ∧ info.callType = .ims ∧ info.rttState = .yes
  · have hpast : ¬ (info.state ≠ .active ∨ info.callType ≠ .ims ∨ info.rttState ≠ .yes) := by
      rintro (hstate | htype | hrtt)
      · exact hstate hguard.1
      · exact htype hguard.2.1
      · exact hrtt hguard.2.2
    have hactivated : w.activated (.refreshRttManager info) =
        (w.getOneCallObjectByIndexSlotIdAndCallType info.index info.accountId).map
          (RttCall.setRtt info.rttState info.rttChannelId) := if_pos hguard
    cases hc : w.getOneCallObjectByIndexSlotIdAndCallType info.index info.accountId with
    | none =>
      rw [hc] at hactivated
      have hcode : w.refreshRttManager info = w := by
        rw [refreshRttManager, if_neg hpast, hc]
      refine iff_of_true ?_ ⟨not_activated hactivated, trivial⟩
      exact h.idle hactivated rfl (congrArg rttManager hcode) (congrArg calls hcode)
    | some c =>
      rw [hc, Option.map_some] at hactivated
      have hcode : w.refreshRttManager info =
          { w with
            calls := w.calls.modify c.callId (RttCall.setRtt info.rttState info.rttChannelId)
              (RttCall.callId_setRtt info.rttState info.rttChannelId)
            rttManager := some ⟨c.callId, BitVec.ofInt 16 info.rttChannelId⟩ } := by
        rw [refreshRttManager, if_neg hpast, hc]
        exact if_neg (not_not_intro hguard.2.2)
      have hself : (w.refreshRttManager info).calls.lookup c.callId =
          some (c.setRtt info.rttState info.rttChannelId) := by
        have hlookup : w.calls.lookup c.callId = some c :=
          OrderedMap.lookup_key (List.mem_of_find?_eq_some hc)
        rw [hcode]
        refine (OrderedMap.lookup_modify w.calls c.callId
          (RttCall.callId_setRtt info.rttState info.rttChannelId) c.callId).trans ?_
        rw [if_pos rfl, hlookup, Option.map_some]
      have hmanager : (w.refreshRttManager info).rttManager =
          some ⟨c.callId, BitVec.ofInt 16 info.rttChannelId⟩ := congrArg rttManager hcode
      rw [h.activate hactivated hmanager hself]
      constructor
      · intro hok
        refine ⟨fun c' hc' => ?_, trivial⟩
        rw [hactivated] at hc'
        obtain rfl := Option.some.inj hc'
        exact hok
      · exact fun hok => hok.1 _ hactivated
  · have hidle : w.activated (.refreshRttManager info) = none := if_neg hguard
    have hcode : w.refreshRttManager info = w := by
      refine if_pos ?_
      by_contra hpast
      push Not at hpast
      exact hguard hpast
    refine iff_of_true ?_ ⟨not_activated hidle, trivial⟩
    exact h.idle hidle rfl (congrArg rttManager hcode) (congrArg calls hcode)

theorem runReport_of_ne {task : ImsRTTEventType × Option ℤ}
    {tasks : List (ImsRTTEventType × Option ℤ)}
    (hqueue : w.reportCallInfoQueue = task :: tasks) (hne : task.1 ≠ .rttClosed) :
    w.runReport = { w with reportCallInfoQueue := tasks } := by
  rw [runReport, hqueue]
  show RttWorld.handleRttEventInfo _ task.1 = _
  unfold handleRttEventInfo
  split
  · next htype => exact absurd htype hne
  · rfl

theorem sound_runReport_iff (h : w.Sound) : (w.step .runReport).Sound ↔ w.StepOk .runReport := by
  have hidle : w.activated .runReport = none := rfl
  cases hqueue : w.reportCallInfoQueue with
  | nil =>
    have hcode : w.runReport = w := by rw [runReport, hqueue]
    have hfinished : w.finished .runReport = none := by
      show (w.reportCallInfoQueue.head?.filter _).bind _ = none
      rw [hqueue]
      rfl
    refine iff_of_true ?_ ⟨not_activated hidle, ?_⟩
    · exact h.idle hidle hfinished (congrArg rttManager hcode) (congrArg calls hcode)
    · intro task htask
      rw [hqueue] at htask
      cases htask
  | cons task tasks =>
    have hok : w.StepOk .runReport ↔
        (task.1 = .rttClosed → ∀ m ∈ w.rttManager, task.2 = some m.callId) := by
      constructor
      · intro hok
        refine hok.2 task ?_
        rw [hqueue]
        rfl
      · refine fun hok => ⟨not_activated hidle, fun task' htask' => ?_⟩
        rw [hqueue] at htask'
        obtain rfl := Option.some.inj htask'
        exact hok
    have hfinished : w.finished .runReport =
        ((some task).filter fun task => task.1 = .rttClosed).bind Prod.snd := by
      show (w.reportCallInfoQueue.head?.filter _).bind _ = _
      rw [hqueue]
      rfl
    rw [hok]
    by_cases hclosed : task.1 = .rttClosed
    · have hmanager : w.runReport.rttManager = none := by
        rw [runReport, hqueue]
        show (RttWorld.handleRttEventInfo _ task.1).rttManager = none
        rw [hclosed]
        rfl
      rw [Option.filter_some, if_pos (decide_eq_true hclosed)] at hfinished
      rw [h.tear hidle hmanager, hfinished]
      exact ⟨fun hown _ => hown, fun hown => hown hclosed⟩
    · have hcode := runReport_of_ne hqueue hclosed
      have hmanager : w.runReport.rttManager = w.rttManager := by rw [hcode]
      have hcalls : w.runReport.calls = w.calls := by rw [hcode]
      rw [Option.filter_some, if_neg (ne_true_of_eq_false (decide_eq_false hclosed))] at hfinished
      exact iff_of_true (h.idle hidle hfinished hmanager hcalls)
        fun hclosed' => absurd hclosed' hclosed

/-- One operation keeps the session that of its call iff it meets the condition. -/
theorem sound_step_iff (h : w.Sound) (op : RttOp) : (w.step op).Sound ↔ w.StepOk op := by
  cases op with
  | setCall c => exact sound_setCall_iff h c
  | setRtt callId rttState rttChannelId => exact sound_setRtt_iff h callId rttState rttChannelId
  | deleteOneCallObject callId =>
    exact iff_of_true (sound_deleteOneCallObject h callId) ⟨not_activated rfl, trivial⟩
  | callStateUpdated callId nextState => exact sound_callStateUpdated_iff h callId nextState
  | refreshRttManager info => exact sound_refreshRttManager_iff h info
  | handleRttEvtChanged index slotId eventType =>
    exact iff_of_true (h.idle rfl rfl rfl rfl) ⟨not_activated rfl, trivial⟩
  | handleRttErrReport index slotId =>
    exact iff_of_true (h.idle rfl rfl rfl rfl) ⟨not_activated rfl, trivial⟩
  | runReport => exact sound_runReport_iff h

/-- If the session is due before and after, only an event of its call tears it down. -/
theorem Sound.tornByOwn {op : RttOp} (h : w.Sound) (h' : (w.step op).Sound) : w.TornByOwn op := by
  intro m hm hnone
  have hnot : ∀ callId, callId ∉ w.dueAfter op := by
    intro callId hin
    obtain ⟨m', hm', -⟩ := (h'.due_iff callId).mp hin
    rw [hnone] at hm'
    cases hm'
  cases hactivated : w.activated op with
  | none =>
    by_contra hother
    have hin := hnot m.callId
    rw [dueAfter_of_none hactivated] at hin
    exact hin (Finset.mem_filter.mpr ⟨h.gone m hm, hother⟩)
  | some c =>
    have hin := hnot c.callId
    rw [dueAfter_of_some hactivated] at hin
    exact absurd (Finset.mem_insert_self _ _) hin

theorem sound_init : init.Sound where
  kept := fun _ hin => absurd hin (Finset.notMem_empty _)
  gone := fun _ hm => by cases hm

end RttWorld

/-! ## Main result -/

/-- **Main theorem.** The runs in which the session is always that of the call it is due to, and
    torn down only by events of that call, are those whose operations meet the condition. -/
theorem session_belongs_to_call (ops : List RttOp) :
    (Run.StatesMeet RttWorld.step RttWorld.Sound .init ops ∧
        Run.StepsMeet RttWorld.step RttWorld.TornByOwn .init ops) ↔
      Run.StepsMeet RttWorld.step RttWorld.StepOk .init ops := by
  have hstates : Run.StatesMeet RttWorld.step RttWorld.Sound .init ops ↔
      Run.StepsMeet RttWorld.step RttWorld.StepOk .init ops :=
    Run.statesMeet_iff_stepsMeet (fun _ op h => RttWorld.sound_step_iff h op) ops
      RttWorld.sound_init
  rw [hstates]
  refine ⟨And.left, fun h => ⟨h, ?_⟩⟩
  refine Run.StepsMeet.of_invariant (fun w op hsound hok => ?_) RttWorld.sound_init h
  have hsound' := (RttWorld.sound_step_iff hsound op).mpr hok
  exact ⟨hsound', hsound.tornByOwn hsound'⟩

/-- Call 1 has real-time text on channel 7; call 2, an IMS call without it, is waiting. -/
def twoCalls : List RttOp :=
  [.setCall ⟨1, .ims, 1, 0, .yes, 7⟩, .callStateUpdated 1 .active,
    .setCall ⟨2, .ims, 2, 0, .no, -1⟩]

/-- Call 1 goes on as a CS call, and ends as such. -/
def convertedCall : List RttOp :=
  [.setCall ⟨1, .ims, 1, 0, .yes, 7⟩, .callStateUpdated 1 .active,
    .setCall ⟨1, .cs, 1, 0, .no, -1⟩, .callStateUpdated 1 .disconnected]

/-- The end of call 2, and an error report of call 2, take the session of call 1;
    the end of a converted call leaves its session. -/
theorem other_call_ends_session :
    ¬ Run.StatesMeet RttWorld.step RttWorld.Sound .init
        (twoCalls ++ [.callStateUpdated 2 .disconnected]) ∧
      ¬ Run.StepsMeet RttWorld.step RttWorld.TornByOwn .init
        (twoCalls ++ [.handleRttErrReport 2 0, .runReport]) ∧
      ¬ Run.StatesMeet RttWorld.step RttWorld.Sound .init convertedCall := by
  refine ⟨fun h => ?_, ?_, fun h => ?_⟩
  · obtain ⟨m, hm, -⟩ := h.last.kept 1 (by decide)
    cases hm
  · rintro ⟨-, -, -, -, htorn, -⟩
    have hown := htorn ⟨1, 7⟩ (by decide) (by decide)
    revert hown
    decide
  · have hgone := h.last.gone ⟨1, 7⟩ (by decide)
    revert hgone
    decide

end CallManager.Rtt
