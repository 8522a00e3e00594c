import CallManager.ConferenceBook
import CallManager.DistributedQuery

/-!
# The end of a distributed session

`DistributedCommunicationManager` opens the session of the sink with the first
CS or IMS call, and drops it, and the tables of both ends, with the last one. It
is told of a call's end up to three times, at its DISCONNECTING and
DISCONNECTED updates, while the call is still stored, and by `CallDestroyed`,
which comes with the disconnect cause. Each time it counts the carrier calls in
the store and takes one of them for the ending one.

Specification: no notification drops anything while a CS or IMS call other than
the ending one is stored (`Keeps`); the DISCONNECTED update of the last one
leaves nothing (`Drops`); and the sink has a session as long as a call that it
was opened for goes on (`SessionKept`).

The count is of all carrier calls, and `CallDestroyed` comes after the ending
call is gone: then the one that is left goes on. A satellite or Bluetooth call,
or one that has ended and is not deleted yet, keeps the count up.

Results:
* `tables_live_as_calls`: the runs that keep the specification are those whose
  steps meet the condition on the calls in the store.
* `call_destroyed_drops_session`: two IMS calls, of which one ends.
-/

namespace CallManager.DistributedTeardown

open DistributedQuery

/-! ## Model of the code -/

/-- A call in `callObjectPtrList_`: its id, type and data, whether `OnCallCreated` was called
    for it, and whether the manager was told of its end, and by its DISCONNECTED update. -/
structure TeardownCall where
  callId : ℤ
  callType : CallType
  call : DistributedCall
  announced : Bool
  ending : Bool
  ended : Bool

/-- The types of call that the manager serves (distributed_communication_manager.cpp:302-305). -/
def TeardownCall.Served (c : TeardownCall) : Prop := c.callType = .ims ∨ c.callType = .cs

instance (c : TeardownCall) : Decidable c.Served := inferInstanceAs (Decidable (_ ∨ _))

/-- `dataController_`. -/
inductive DataController
  | sink (c : SinkController)
  | source (c : SourceController)

namespace DataController

/-- `OnCallCreated` (distributed_data_sink_controller.cpp:26-32,
    distributed_data_source_controller.cpp:70-72). -/
def onCallCreated (call : DistributedCall) : DataController → DataController
  | sink c =>
    sink ((c.connectRemote.checkLocalData call .name).checkLocalData call .location
      |>.sendDataQueryReq.1)
  | source c => source c

/-- What `OnCallDestroyed` leaves, if it gets past its test. -/
def dropped : DataController → DataController
  | sink c => sink { c with session := .null, queryInfo := ∅ }
  | source c => source { c with localInfo := ∅, queryInfo := ∅ }

/-- `OnCallDestroyed`, with the number of carrier calls
    (distributed_data_sink_controller.cpp:34-53, distributed_data_source_controller.cpp:74-85). -/
def onCallDestroyed (c : DataController) (carrierCalls : ℕ) : DataController :=
  if 1 < carrierCalls then c else c.dropped

/-- `ProcessCallInfo` (distributed_data_sink_controller.cpp:55-59,
    distributed_data_source_controller.cpp:87-91). -/
def processCallInfo (call : DistributedCall) (type : DistributedDataType) :
    DataController → DataController
  | sink c => sink (c.checkLocalData call type).sendDataQueryReq.1
  | source c => source (c.saveLocalData call type).sendLocalDataRsp.1

/-- `OnSessionBind` with `OnConnected`. -/
def onConnected : DataController → DataController
  | sink c =>
    if c.session = .unbound then sink { c with session := .bound }.sendDataQueryReq.1 else sink c
  | source c =>
    if c.session = .unbound then source { c with session := .bound }.sendLocalDataRsp.1
    else source c

/-- A DATA_REQ at the source (distributed_data_source_controller.cpp:98-111). -/
def handleDataReq (type : ℕ) (num : ByteString) : DataController → DataController
  | sink c => sink c
  | source c => source (c.handleDataQueryMsg type num).sendLocalDataRsp.1

end DataController

/-- The call list and the controller. -/
structure TeardownWorld where
  callObjectPtrList : List TeardownCall
  dataController : DataController

namespace TeardownWorld

/-- The ids that `GetCarrierCallList` leaves in the list. -/
def getCarrierCallList (s : TeardownWorld) : List ℤ :=
  (StoredCalls.getCarrierCallList TeardownCall.callType s.callObjectPtrList).map TeardownCall.callId

/-- The stored call of an id. -/
def find (s : TeardownWorld) (callId : ℤ) : Option TeardownCall :=
  s.callObjectPtrList.find? fun it => it.callId = callId

/-- A new call is on the list when `NewCallCreated` is told of it, and `hasPeer` whether
    `peerDevices_` has a device (distributed_communication_manager.cpp:296-317). -/
def newCallCreated (s : TeardownWorld) (callId : ℤ) (callType : CallType) (call : DistributedCall)
    (hasPeer : Bool) : TeardownWorld :=
  let c : TeardownCall := ⟨callId, callType, call, false, false, false⟩
  if c.Served ∧ hasPeer = true then
    { callObjectPtrList := s.callObjectPtrList ++ [{ c with announced := true }]
      dataController := s.dataController.onCallCreated call }
  else { s with callObjectPtrList := s.callObjectPtrList ++ [c] }

/-- `OnCallDestroyed` of the controller. -/
def onCallDestroyed (s : TeardownWorld) : TeardownWorld :=
  { s with dataController := s.dataController.onCallDestroyed s.getCarrierCallList.length }

/-- The manager has been told of the end of `callId`. -/
def markEnding (s : TeardownWorld) (callId : ℤ) (ended : Bool) : TeardownWorld :=
  { s with
    callObjectPtrList := s.callObjectPtrList.map fun it =>
      if it.callId = callId then { it with ending := true, ended := it.ended || ended } else it }

/-- `CallStateUpdated` of a stored call (distributed_communication_manager.cpp:328-341). -/
def callStateUpdated (s : TeardownWorld) (callId : ℤ) (nextState : TelCallState) : TeardownWorld :=
  if (s.find callId).isSome ∧ (nextState = .disconnected ∨ nextState = .disconnecting) then
    s.onCallDestroyed.markEnding callId (nextState = .disconnected)
  else s

/-- `DeleteOneCallObject` of a call whose DISCONNECTED update has been delivered. -/
def deleteOneCallObject (s : TeardownWorld) (callId : ℤ) : TeardownWorld :=
  { s with
    callObjectPtrList := s.callObjectPtrList.filter fun it => ¬ (it.callId = callId ∧ it.ended) }

end TeardownWorld

/-- The operations of a run: a new call, an update, `CallDestroyed` of a call
    (the details do not say which), the deletion of a call, and what else reaches
    the controller: call data, its socket, and the requests of the other end. -/
inductive TeardownOp
  | newCallCreated (callId : ℤ) (callType : CallType) (call : DistributedCall) (hasPeer : Bool)
  | callStateUpdated (callId : ℤ) (nextState : TelCallState)
  | callDestroyed (callId : ℤ)
  | deleteOneCallObject (callId : ℤ)
  | processCallInfo (call : DistributedCall) (type : DistributedDataType)
  | onConnected
  | handleDataReq (type : ℕ) (num : ByteString)

/-- The state after one operation. -/
def teardownStep (s : TeardownWorld) : TeardownOp → TeardownWorld
  | .newCallCreated callId callType call hasPeer =>
    if (s.find callId).isSome then s else s.newCallCreated callId callType call hasPeer
  | .callStateUpdated callId nextState => s.callStateUpdated callId nextState
  | .callDestroyed callId => s.onCallDestroyed.markEnding callId false
  | .deleteOneCallObject callId => s.deleteOneCallObject callId
  | .processCallInfo call type =>
    { s with dataController := s.dataController.processCallInfo call type }
  | .onConnected => { s with dataController := s.dataController.onConnected }
  | .handleDataReq type num =>
    { s with dataController := s.dataController.handleDataReq type num }

/-! ## Specification -/

/-- There is nothing to drop. -/
def DataController.Empty : DataController → Prop
  | .sink c => c.session = .null ∧ c.queryInfo = ∅
  | .source c => c.localInfo = ∅ ∧ c.queryInfo = ∅

/-- The controller is a source, or a sink with a session. -/
def DataController.Connected : DataController → Prop
  | .sink c => c.session ≠ .null
  | .source _ => True

namespace TeardownWorld

/-- A CS or IMS call other than `callId` is stored. -/
def OthersServed (s : TeardownWorld) (callId : ℤ) : Prop :=
  ∃ c ∈ s.callObjectPtrList, c.Served ∧ c.callId ≠ callId

/-- The last CS or IMS call that has not ended is `callId`. -/
def LastServed (s : TeardownWorld) (callId : ℤ) : Prop :=
  (∃ c ∈ s.callObjectPtrList, c.Served ∧ c.callId = callId) ∧
    ∀ c ∈ s.callObjectPtrList, c.Served → c.callId ≠ callId → c.ended = true

instance (s : TeardownWorld) (callId : ℤ) : Decidable (s.OthersServed callId) :=
  inferInstanceAs (Decidable (∃ c ∈ s.callObjectPtrList, _))

instance (s : TeardownWorld) (callId : ℤ) : Decidable (s.LastServed callId) :=
  inferInstanceAs (Decidable ((∃ c ∈ s.callObjectPtrList, _) ∧ ∀ c ∈ s.callObjectPtrList, _))

/-- The call whose end an operation tells of. -/
def endingCall (s : TeardownWorld) : TeardownOp → Option ℤ
  | .callStateUpdated callId nextState =>
    if (s.find callId).isSome ∧ (nextState = .disconnected ∨ nextState = .disconnecting) then
      some callId
    else none
  | .callDestroyed callId => some callId
  | _ => none

/-- While another CS or IMS call is stored, the end of a call drops nothing. -/
def Keeps (s : TeardownWorld) (op : TeardownOp) : Prop :=
  ∀ callId ∈ s.endingCall op, s.OthersServed callId →
    (teardownStep s op).dataController = s.dataController

/-- The DISCONNECTED update of the last CS or IMS call leaves nothing. -/
def Drops (s : TeardownWorld) : TeardownOp → Prop
  | .callStateUpdated callId .disconnected =>
    s.LastServed callId →
      (teardownStep s (.callStateUpdated callId .disconnected)).dataController =
        s.dataController.dropped
  | _ => True

/-- A call that the sink's session was opened for goes on. -/
def Going (s : TeardownWorld) : Prop :=
  ∃ it ∈ s.callObjectPtrList, it.Served ∧ it.announced ∧ ¬ it.ending

/-- The sink has a session while a call that it was opened for goes on. -/
def SessionKept (s : TeardownWorld) : Prop := s.Going → s.dataController.Connected

/-! ### The condition -/

/-- The condition on an operation. When it tells of the end of a call, the
    carrier calls in the store are not just one CS or IMS call other than that;
    and when the last CS or IMS call ends, no other carrier call is stored. -/
def StepOk (s : TeardownWorld) (op : TeardownOp) : Prop :=
  (∀ callId ∈ s.endingCall op, s.getCarrierCallList.length ≤ 1 → s.OthersServed callId →
    s.dataController.Empty) ∧
    match op with
    | .callStateUpdated callId .disconnected =>
      s.LastServed callId → 1 < s.getCarrierCallList.length → s.dataController.Empty
    | _ => True

end TeardownWorld

instance : (c : DataController) → Decidable c.Empty
  | .sink c =>
    decidable_of_iff (c.session = .null ∧ c.queryInfo.isEmpty = true)
      (and_congr_right fun _ => Std.ExtTreeMap.isEmpty_iff)
  | .source c =>
    decidable_of_iff (c.localInfo.isEmpty = true ∧ c.queryInfo.isEmpty = true)
      (and_congr Std.ExtTreeMap.isEmpty_iff Std.ExtTreeMap.isEmpty_iff)

instance : (c : DataController) → Decidable c.Connected
  | .sink c => inferInstanceAs (Decidable (c.session ≠ .null))
  | .source _ => .isTrue trivial

instance (s : TeardownWorld) : (op : TeardownOp) → Decidable (s.StepOk op)
  | .callStateUpdated callId nextState => by
    unfold TeardownWorld.StepOk
    cases nextState <;> infer_instance
  | .newCallCreated .. | .callDestroyed _ | .deleteOneCallObject _ | .processCallInfo ..
  | .onConnected | .handleDataReq .. =>
    inferInstanceAs (Decidable ((∀ callId ∈ s.endingCall _, _) ∧ True))

/-! ## What an operation does -/

namespace DataController

theorem dropped_eq_self_iff (c : DataController) : c.dropped = c ↔ c.Empty := by
  cases c with
  | sink c =>
    obtain ⟨session, queryInfo⟩ := c
    simp only [dropped, Empty, sink.injEq, SinkController.mk.injEq]
    exact and_congr eq_comm eq_comm
  | source c =>
    obtain ⟨session, queryInfo, localInfo⟩ := c
    simp only [dropped, Empty, source.injEq, SourceController.mk.injEq, true_and]
    rw [and_comm]
    exact and_congr eq_comm eq_comm

end DataController

namespace TeardownWorld

variable {s : TeardownWorld} {op : TeardownOp} {callId : ℤ}

theorem teardownStep_ending (h : callId ∈ s.endingCall op) :
    (teardownStep s op).dataController =
      s.dataController.onCallDestroyed s.getCarrierCallList.length := by
  cases op with
  | callStateUpdated id nextState =>
    unfold teardownStep callStateUpdated
    dsimp only
    rw [endingCall] at h
    split_ifs at h ⊢
    · rfl
    · cases h
  | callDestroyed id => rfl
  | newCallCreated _ _ _ _ | deleteOneCallObject _ | processCallInfo _ _ | onConnected
  | handleDataReq _ _ => cases h

/-- The end of a call drops nothing iff the count is greater than one, or there
    is nothing to drop. -/
theorem onCallDestroyed_eq_self_iff (s : TeardownWorld) (n : ℕ) :
    s.dataController.onCallDestroyed n = s.dataController ↔ (n ≤ 1 → s.dataController.Empty) := by
  unfold DataController.onCallDestroyed
  by_cases hn : 1 < n
  · rw [if_pos hn]
    exact ⟨fun _ hle => absurd hn (Nat.not_lt.mpr hle), fun _ => rfl⟩
  · rw [if_neg hn, DataController.dropped_eq_self_iff]
    exact ⟨fun h _ => h, fun h => h (Nat.not_lt.mp hn)⟩

/-- It drops everything iff the count is one at most, or there is nothing to drop. -/
theorem onCallDestroyed_eq_dropped_iff (s : TeardownWorld) (n : ℕ) :
    s.dataController.onCallDestroyed n = s.dataController.dropped ↔
      (1 < n → s.dataController.Empty) := by
  unfold DataController.onCallDestroyed
  by_cases hn : 1 < n
  · rw [if_pos hn, eq_comm, DataController.dropped_eq_self_iff]
    exact ⟨fun h _ => h, fun h => h hn⟩
  · rw [if_neg hn]
    exact ⟨fun _ hlt => absurd hlt hn, fun _ => rfl⟩

theorem keeps_iff (s : TeardownWorld) (op : TeardownOp) :
    s.Keeps op ↔ ∀ callId ∈ s.endingCall op, s.getCarrierCallList.length ≤ 1 →
      s.OthersServed callId → s.dataController.Empty := by
  unfold Keeps
  refine forall₂_congr fun callId hending => ?_
  rw [teardownStep_ending hending, onCallDestroyed_eq_self_iff]
  exact ⟨fun h hcount hothers => h hothers hcount, fun h hothers hcount => h hcount hothers⟩

theorem LastServed.isSome (h : s.LastServed callId) : (s.find callId).isSome := by
  obtain ⟨c, hc, -, hid⟩ := h.1
  rw [find, List.find?_isSome]
  exact ⟨c, hc, decide_eq_true hid⟩

theorem drops_iff (s : TeardownWorld) (callId : ℤ) :
    s.Drops (.callStateUpdated callId .disconnected) ↔
      (s.LastServed callId → 1 < s.getCarrierCallList.length → s.dataController.Empty) := by
  unfold Drops
  refine forall_congr' fun hlast => ?_
  have hending : callId ∈ s.endingCall (.callStateUpdated callId .disconnected) :=
    if_pos ⟨hlast.isSome, .inl rfl⟩
  rw [teardownStep_ending hending, onCallDestroyed_eq_dropped_iff]

/-- One operation does as specified iff it meets the condition. -/
theorem stepOk_iff (s : TeardownWorld) (op : TeardownOp) :
    s.Keeps op ∧ s.Drops op ↔ s.StepOk op := by
  unfold StepOk
  refine and_congr (keeps_iff s op) ?_
  cases op with
  | callStateUpdated callId nextState =>
    cases nextState with
    | disconnected => exact drops_iff s callId
    | unknown | active | holding | dialing | alerting | incoming | waiting | disconnecting | idle
    | answered => exact Iff.rfl
  | newCallCreated _ _ _ _ | callDestroyed _ | deleteOneCallObject _ | processCallInfo _ _
  | onConnected | handleDataReq _ _ => exact Iff.rfl

end TeardownWorld

/-! ### The session of the sink -/

namespace DataController

theorem session_checkLocalData (c : SinkController) (call : DistributedCall)
    (type : DistributedDataType) : (c.checkLocalData call type).session = c.session := by
  unfold SinkController.checkLocalData
  split_ifs <;> rfl

theorem session_sendDataQueryReq (c : SinkController) :
    c.sendDataQueryReq.1.session = c.session := by
  unfold SinkController.sendDataQueryReq
  split_ifs <;> rfl

theorem connected_onCallCreated (c : DataController) (call : DistributedCall) :
    (c.onCallCreated call).Connected := by
  cases c with
  | sink c =>
    show SinkController.session _ ≠ .null
    rw [session_sendDataQueryReq, session_checkLocalData, session_checkLocalData,
      SinkController.connectRemote]
    split_ifs with hsession
    · exact hsession
    · exact SessionState.noConfusion
  | source c => exact trivial

theorem Connected.processCallInfo {c : DataController} (h : c.Connected) (call : DistributedCall)
    (type : DistributedDataType) : (c.processCallInfo call type).Connected := by
  cases c with
  | sink c =>
    show SinkController.session _ ≠ .null
    rw [session_sendDataQueryReq, session_checkLocalData]
    exact h
  | source c => exact trivial

theorem Connected.onConnected {c : DataController} (h : c.Connected) : c.onConnected.Connected := by
  cases c with
  | sink c =>
    rw [DataController.onConnected]
    split_ifs
    · show SinkController.session _ ≠ .null
      rw [session_sendDataQueryReq]
      exact SessionState.noConfusion
    · exact h
  | source c =>
    rw [DataController.onConnected]
    split_ifs <;> exact trivial

theorem Connected.handleDataReq {c : DataController} (h : c.Connected) (type : ℕ)
    (num : ByteString) : (c.handleDataReq type num).Connected := by
  cases c with
  | sink c => exact h
  | source c => exact trivial

end DataController

namespace TeardownWorld

variable {s : TeardownWorld} {op : TeardownOp} {callId : ℤ}

/-- A call that goes on after the manager was told of the end of `callId` went on
    before, and is another one. -/
theorem going_markEnding {ended : Bool} (h : (s.markEnding callId ended).Going) :
    s.Going ∧ s.OthersServed callId := by
  obtain ⟨it, hit, hserved, hannounced, hnot⟩ := h
  obtain ⟨c, hc, rfl⟩ := List.mem_map.mp hit
  by_cases hid : c.callId = callId
  · rw [if_pos hid] at hnot
    exact absurd rfl hnot
  · rw [if_neg hid] at hserved hannounced hnot
    exact ⟨⟨c, hc, hserved, hannounced, hnot⟩, c, hc, hserved, hid⟩

/-- What an operation that keeps the specification keeps. -/
theorem SessionKept.teardownStep (h : s.SessionKept) (hkeeps : s.Keeps op) :
    (teardownStep s op).SessionKept := by
  -- the end of a call: if another one goes on, nothing was dropped
  have hend : ∀ callId ended, callId ∈ s.endingCall op →
      (DistributedTeardown.teardownStep s op).callObjectPtrList =
        (s.onCallDestroyed.markEnding callId ended).callObjectPtrList →
      (DistributedTeardown.teardownStep s op).Going →
        (DistributedTeardown.teardownStep s op).dataController.Connected := by
    intro callId ended hending hlist hgoing
    have hmark : (s.onCallDestroyed.markEnding callId ended).Going := by
      unfold Going at hgoing ⊢
      rwa [hlist] at hgoing
    obtain ⟨hbefore, hothers⟩ := going_markEnding hmark
    rw [hkeeps callId hending hothers]
    exact h hbefore
  cases op with
  | callStateUpdated callId nextState =>
    by_cases hupdate : (s.find callId).isSome ∧
        (nextState = .disconnected ∨ nextState = .disconnecting)
    · refine hend callId (nextState = .disconnected) (if_pos hupdate) ?_
      exact congrArg callObjectPtrList (if_pos hupdate)
    · have hsame : DistributedTeardown.teardownStep s (.callStateUpdated callId nextState) = s :=
        if_neg hupdate
      rw [hsame]
      exact h
  | callDestroyed callId => exact hend callId false rfl rfl
  | newCallCreated callId callType call hasPeer =>
    rw [DistributedTeardown.teardownStep]
    split_ifs
    · exact h
    · unfold newCallCreated
      dsimp only
      split_ifs
      · exact fun _ => DataController.connected_onCallCreated s.dataController call
      · rintro ⟨it, hit, hserved, hannounced, hnot⟩
        rcases List.mem_append.mp hit with hit | hit
        · exact h ⟨it, hit, hserved, hannounced, hnot⟩
        · rw [List.mem_singleton.mp hit] at hannounced
          cases hannounced
  | deleteOneCallObject callId =>
    rintro ⟨it, hit, hgoing⟩
    exact h ⟨it, List.mem_of_mem_filter hit, hgoing⟩
  | processCallInfo call type => exact fun hgoing => (h hgoing).processCallInfo call type
  | onConnected => exact fun hgoing => (h hgoing).onConnected
  | handleDataReq type num => exact fun hgoing => (h hgoing).handleDataReq type num

/-- The state the process starts with, at a sink or at a source that comes online. -/
def init (c : DataController) : TeardownWorld := ⟨[], c⟩

theorem SessionKept.init (c : DataController) : SessionKept (init c) := by
  rintro ⟨it, hit, -⟩
  exact absurd hit List.not_mem_nil

end TeardownWorld

/-! ## Main result -/

/-- **Main theorem.** The operations of a run from a state in which the sink has
    its session do as specified, and keep it, iff each meets the condition. -/
theorem tables_live_as_calls {s : TeardownWorld} (hs : s.SessionKept) (ops : List TeardownOp) :
    (Run.StepsMeet teardownStep (fun s op => s.Keeps op ∧ s.Drops op) s ops ∧
        Run.StatesMeet teardownStep TeardownWorld.SessionKept s ops) ↔
      Run.StepsMeet teardownStep TeardownWorld.StepOk s ops := by
  have hsteps : ∀ s, Run.StepsMeet teardownStep (fun s op => s.Keeps op ∧ s.Drops op) s ops ↔
      Run.StepsMeet teardownStep TeardownWorld.StepOk s ops := fun s => by
    induction ops generalizing s with
    | nil => exact Iff.rfl
    | cons op ops ih => exact and_congr (TeardownWorld.stepOk_iff s op) (ih _)
  rw [← hsteps]
  refine ⟨And.left, fun h => ⟨h, ?_⟩⟩
  exact Run.statesMeet_of_stepsMeet (fun _ _ hs hstep => hs.teardownStep hstep.1) hs h

theorem nine_length : ([57] : ByteString).length ≤ maxNumberLen := by decide

theorem nine_text : 0 ∉ ([57] : ByteString) := by decide

theorem empty_text : 0 ∉ ([] : ByteString) := List.not_mem_nil

/-- A call of the number 9, with neither name nor location. -/
def namelessCall : DistributedCall :=
  ⟨[57], [], [], nine_length, nine_text, empty_text, empty_text⟩

/-- A sink that has no call yet. -/
def sinkWorld : TeardownWorld := .init (.sink ⟨.null, ∅⟩)

/-- Two IMS calls, one after the other, and all that is told of their ends. -/
def consecutiveOps : List TeardownOp :=
  [.newCallCreated 1 .ims namelessCall true, .onConnected, .callStateUpdated 1 .disconnecting,
    .callStateUpdated 1 .disconnected, .deleteOneCallObject 1, .callDestroyed 1,
    .newCallCreated 2 .ims namelessCall true, .callStateUpdated 2 .disconnected,
    .deleteOneCallObject 2, .callDestroyed 2]

theorem tables_live_as_calls_consecutive :
    Run.StepsMeet teardownStep (fun s op => s.Keeps op ∧ s.Drops op) sinkWorld consecutiveOps ∧
      Run.StatesMeet teardownStep TeardownWorld.SessionKept sinkWorld consecutiveOps :=
  (tables_live_as_calls (TeardownWorld.SessionKept.init _) consecutiveOps).mpr (by decide +kernel)

/-- The first of two IMS calls ends; its `CallDestroyed` comes when it has been deleted. -/
def destroyedOps : List TeardownOp :=
  [.newCallCreated 1 .ims namelessCall true, .newCallCreated 2 .ims namelessCall true,
    .callStateUpdated 1 .disconnected, .deleteOneCallObject 1, .callDestroyed 1]

/-- An IMS call ends while a Bluetooth call is stored. -/
def bluetoothOps : List TeardownOp :=
  [.newCallCreated 1 .ims namelessCall true, .newCallCreated 2 .bluetooth namelessCall true,
    .callStateUpdated 1 .disconnected]

/-- `CallDestroyed` drops the session of the call that goes on, and the end of the
    last IMS call leaves the session when there is a Bluetooth call. -/
theorem call_destroyed_drops_session :
    ¬ Run.StatesMeet teardownStep TeardownWorld.SessionKept sinkWorld destroyedOps ∧
      ¬ Run.StepsMeet teardownStep (fun s op => s.Keeps op ∧ s.Drops op) sinkWorld
        bluetoothOps := by
  constructor
  · intro h
    have hlast := h.last
    have hgoing : (Run.run teardownStep sinkWorld destroyedOps).Going :=
      ⟨⟨2, .ims, namelessCall, true, false, false⟩, .head _, .inl rfl, rfl, Bool.false_ne_true⟩
    exact hlast hgoing rfl
  · rintro ⟨-, -, ⟨-, hdrops⟩, -⟩
    have hlast : (Run.run teardownStep sinkWorld (bluetoothOps.take 2)).LastServed 1 := by
      decide +kernel
    have hdropped : (Run.run teardownStep sinkWorld bluetoothOps).dataController =
        (Run.run teardownStep sinkWorld (bluetoothOps.take 2)).dataController.dropped := hdrops hlast
    have hconnected : (Run.run teardownStep sinkWorld bluetoothOps).dataController.Connected := by
      decide +kernel
    rw [hdropped] at hconnected
    exact hconnected rfl

end CallManager.DistributedTeardown
