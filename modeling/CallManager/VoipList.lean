import CallManager.Types
import CallManager.Library.KeyedLog
import CallManager.Library.Run
import Std.Data.ExtTreeMap

/-!
# The list of MeeTime calls

A MeeTime call is reported to the call manager by its id, its state and its
number. `SetVoIPCallInfo` keeps the reported calls in a map from the ids, whose
first entry is the one of the smallest id, and tells the listeners.

The Bluetooth report and the result it gives, the virtual call of the audio
devices and the ringtone of a waiting call are left out.

Results:
* `voipListOk_iff`: the list follows the events, and every listener is told of
  the call of the event, throughout a run iff a call is reported dialing or
  incoming only when it is new or has that state, alerting also when it is
  dialing and the first of the list, and connected only when it is the first
  of the list.
* `connected_waiting_call`: the second of two calls is answered, and the
  listeners are told that the first one is.
-/

namespace CallManager

/-- `CallDirection` (call_manager_base.h:283-296). -/
inductive CallDirection
  | callDirectionIn | callDirectionOut | callDirectionUnknow
  deriving DecidableEq, Repr

/-- `ILLEGAL_CALLID` (call_manager_base.h:74). -/
def illegalCallId : ℤ := -1

/-- The fields of `CallAttributeInfo` that an event fills, with their initial values
    (call_manager_info.h, from line 275). -/
structure CallAttributeInfo where
  accountNumber : ByteString := []
  callType : CallType := .errCall
  callId : ℤ := 0
  callState : TelCallState := .unknown
  callDirection : CallDirection := .callDirectionUnknow
  deriving DecidableEq, Repr

/-- `VoipCallInfo` (call_control_manager.h:296-300), what the last event said. -/
structure VoipCallInfo where
  callId : ℤ := 10000
  state : TelCallState := .active
  phoneNumber : ByteString := []
  deriving DecidableEq, Repr

/-- The VoIP list of `CallObjectManager` and `VoipCallInfo_` of `CallControlManager`. -/
structure VoipCalls where
  voipCallObjectList : Std.ExtTreeMap ℤ CallAttributeInfo
  voipCallInfo : VoipCallInfo

/-- The states that an event reports; `idle` is the connected call. -/
def voipEventStates : List TelCallState :=
  [.dialing, .alerting, .idle, .incoming, .disconnected]

/-- One call of `SetVoIPCallInfo`, with what it finds: whether there is a call of a modem. -/
structure VoipEvent where
  callId : ℤ
  state : TelCallState
  phoneNumber : ByteString
  hasCallExist : Bool
  state_mem : state ∈ voipEventStates

/-- What `NotifyVoipCallStateUpdated` passes to the listeners. -/
structure VoipNotification where
  info : CallAttributeInfo
  priorState : TelCallState
  nextState : TelCallState
  deriving DecidableEq, Repr

namespace VoipCalls

/-! ## The list -/

/-- `AddOneVoipCallObject` (call_object_manager.cpp:101-112). -/
def addOneVoipCallObject (m : VoipCalls) (info : CallAttributeInfo) : VoipCalls :=
  if info.callId ∈ m.voipCallObjectList then m
  else { m with voipCallObjectList := m.voipCallObjectList.insert info.callId info }

/-- `DeleteOneVoipCallObject` (call_object_manager.cpp:114-123). -/
def deleteOneVoipCallObject (m : VoipCalls) (callId : ℤ) : VoipCalls :=
  { m with voipCallObjectList := m.voipCallObjectList.erase callId }

/-- `IsVoipCallExist()` (call_object_manager.cpp:125-131). -/
def isVoipCallExist (m : VoipCalls) : Bool := !m.voipCallObjectList.isEmpty

/-- `IsVoipCallExist(callState, callId)`: the id of the first call in a state
    (call_object_manager.cpp:133-145). -/
def voipCallInState (m : VoipCalls) (callState : TelCallState) : Option ℤ :=
  (m.voipCallObjectList.toList.find? fun it => it.2.callState = callState).map Prod.fst

/-- `ClearVoipList` (call_object_manager.cpp:147-155). -/
def clearVoipList (m : VoipCalls) : VoipCalls := { m with voipCallObjectList := ∅ }

/-- `UpdateOneVoipCallObjectByCallId` (call_object_manager.cpp:157-167). -/
def updateOneVoipCallObjectByCallId (m : VoipCalls) (callId : ℤ) (nextCallState : TelCallState) :
    VoipCalls :=
  { m with
    voipCallObjectList :=
      m.voipCallObjectList.modify callId fun info => { info with callState := nextCallState } }

/-- `GetVoipCallInfo`: the first call of the list, or the initial values
    (call_object_manager.cpp:169-179). -/
def getVoipCallInfo (m : VoipCalls) : CallAttributeInfo :=
  match m.voipCallObjectList.toList with
  | it :: _ => it.2
  | [] => {}

/-! ## The events -/

/-- The `info` that a handler fills from the event. -/
def eventInfo (callId : ℤ) (phoneNumber : ByteString) (callState : TelCallState)
    (callDirection : CallDirection) : CallAttributeInfo where
  accountNumber := cString (phoneNumber.take maxNumberLen)
  callType := .voip
  callId := callId
  callState := callState
  callDirection := callDirection

/-- `HandleVoipConnected` (call_control_manager.cpp:1574-1582). -/
def handleVoipConnected (m : VoipCalls) (callId : ℤ) : List VoipNotification × VoipCalls :=
  ([⟨m.getVoipCallInfo, .incoming, .active⟩], m.updateOneVoipCallObjectByCallId callId .active)

/-- `HandleVoipIncoming` (call_control_manager.cpp:1584-1606). -/
def handleVoipIncoming (m : VoipCalls) (hasCallExist : Bool) (callId : ℤ)
    (phoneNumber : ByteString) : List VoipNotification × VoipCalls :=
  let callState := if hasCallExist || m.isVoipCallExist then .waiting else .incoming
  let info := eventInfo callId phoneNumber callState .callDirectionIn
  ([⟨info, .incoming, .incoming⟩], m.addOneVoipCallObject info)

/-- `HandleVoipDisconnected` (call_control_manager.cpp:1608-1636). -/
def handleVoipDisconnected (m : VoipCalls) (callId : ℤ) (phoneNumber : ByteString) :
    List VoipNotification × VoipCalls :=
  let info := eventInfo callId phoneNumber .disconnected .callDirectionUnknow
  ([⟨info, .active, .disconnected⟩], m.deleteOneVoipCallObject callId)

/-- `HandleVoipDialing` (call_control_manager.cpp:1647-1660). -/
def handleVoipDialing (m : VoipCalls) (callId : ℤ) (phoneNumber : ByteString) :
    List VoipNotification × VoipCalls :=
  let info := eventInfo callId phoneNumber .dialing .callDirectionOut
  ([⟨info, .dialing, .dialing⟩], m.addOneVoipCallObject info)

/-- `HandleVoipAlerting` (call_control_manager.cpp:1662-1683). -/
def handleVoipAlerting (m : VoipCalls) (callId : ℤ) (phoneNumber : ByteString) :
    List VoipNotification × VoipCalls :=
  if m.voipCallInState .dialing = some callId then
    ([⟨m.getVoipCallInfo, .dialing, .alerting⟩],
      m.updateOneVoipCallObjectByCallId callId .alerting)
  else
    let info := eventInfo callId phoneNumber .alerting .callDirectionOut
    ([⟨info, .dialing, .dialing⟩], m.addOneVoipCallObject info)

/-- `SetVoipCallInfoInner` (call_control_manager.cpp:1690-1696). -/
def setVoipCallInfoInner (m : VoipCalls) (callId : ℤ) (state : TelCallState)
    (phoneNumber : ByteString) : VoipCalls :=
  { m with voipCallInfo := ⟨callId, state, phoneNumber⟩ }

/-- `SetVoIPCallInfo` (call_control_manager.cpp:1520-1562): what the listeners are told, and the
    state. -/
def setVoIPCallInfo (isSupportSetVoipInfo : Bool) (m : VoipCalls) (e : VoipEvent) :
    List VoipNotification × VoipCalls :=
  if isSupportSetVoipInfo = false then ([], m)
  else if e.callId = illegalCallId then ([], m.clearVoipList)
  else if e.state = .disconnected then m.handleVoipDisconnected e.callId e.phoneNumber
  else
    let (notifications, m) :=
      match e.state with
      | .dialing => m.handleVoipDialing e.callId e.phoneNumber
      | .idle => m.handleVoipConnected e.callId
      | .incoming => m.handleVoipIncoming e.hasCallExist e.callId e.phoneNumber
      | .alerting => m.handleVoipAlerting e.callId e.phoneNumber
      | _ => ([], m)
    (notifications, m.setVoipCallInfoInner e.callId e.state e.phoneNumber)

/-- The state of the call stored under an id. -/
def stored (m : VoipCalls) (callId : ℤ) : Option TelCallState :=
  m.voipCallObjectList[callId]?.map CallAttributeInfo.callState

/-- The id of the first call of the list. -/
def firstId (m : VoipCalls) : Option ℤ := m.voipCallObjectList.toList.head?.map Prod.fst

end VoipCalls

/-! ## Specification -/

/-- An event, and what the listeners were told of it. -/
structure VoipLogEntry where
  event : VoipEvent
  notifications : List VoipNotification

/-- A run: the calls, and the events so far, the latest first. -/
structure VoipRun where
  calls : VoipCalls
  log : List VoipLogEntry

/-- The initial state. -/
def VoipRun.init : VoipRun := ⟨⟨∅, {}⟩, []⟩

/-- The next event of a run. -/
def voipStep (isSupportSetVoipInfo : Bool) (r : VoipRun) (e : VoipEvent) : VoipRun :=
  let (notifications, calls) := r.calls.setVoIPCallInfo isSupportSetVoipInfo e
  ⟨calls, ⟨e, notifications⟩ :: r.log⟩

/-- The id an entry of the log is about. -/
def VoipLogEntry.callId (entry : VoipLogEntry) : ℤ := entry.event.callId

/-- What the last event of an id says of the list: no entry without an event or
    after DISCONNECTED, else the state the event implies. -/
def Implied : Option TelCallState → Option TelCallState → Prop
  | none, stored => stored = none
  | some .disconnected, stored => stored = none
  | some .idle, stored => stored = some .active
  | some .incoming, stored => stored = some .waiting ∨ stored = some .incoming
  | some state, stored => stored = some state

/-- The list follows the events, and what the listeners were told of an event is about its call. -/
structure VoipListOk (r : VoipRun) : Prop where
  implied : ∀ callId,
    Implied ((KeyedLog.last? VoipLogEntry.callId r.log callId).map fun entry => entry.event.state)
      (r.calls.stored callId)
  notified : ∀ entry ∈ r.log, ∀ n ∈ entry.notifications, n.info.callId = entry.callId

/-- The condition on an event. -/
def VoipRun.StepOk (isSupportSetVoipInfo : Bool) (r : VoipRun) (e : VoipEvent) : Prop :=
  if isSupportSetVoipInfo = false then e.state = .disconnected
  else if e.callId = illegalCallId then
    r.calls.isVoipCallExist = false ∧ e.state = .disconnected
  else
    match e.state with
    | .dialing => r.calls.stored e.callId = none ∨ r.calls.stored e.callId = some .dialing
    | .alerting =>
      r.calls.stored e.callId = none ∨ r.calls.stored e.callId = some .alerting ∨
        r.calls.firstId = some e.callId ∧ r.calls.stored e.callId = some .dialing
    | .idle => r.calls.firstId = some e.callId
    | .incoming =>
      r.calls.stored e.callId = none ∨ r.calls.stored e.callId = some .waiting ∨
        r.calls.stored e.callId = some .incoming
    | _ => True

namespace VoipCalls

/-! ## Reading the list -/

/-- What every state has: a call is stored under its own id, never under the
    illegal one, and none is where the platform does not support the events. -/
structure Keyed (isSupportSetVoipInfo : Bool) (m : VoipCalls) : Prop where
  key : ∀ callId (info : CallAttributeInfo), m.voipCallObjectList[callId]? = some info →
    info.callId = callId
  legal : m.voipCallObjectList[illegalCallId]? = none
  supported : isSupportSetVoipInfo = false → m.voipCallObjectList = ∅

theorem stored_eq_none {m : VoipCalls} {callId : ℤ} :
    m.stored callId = none ↔ callId ∉ m.voipCallObjectList := by
  simp [stored]

theorem stored_addOneVoipCallObject (m : VoipCalls) (info : CallAttributeInfo) (callId : ℤ) :
    (m.addOneVoipCallObject info).stored callId =
      if m.stored info.callId = none ∧ info.callId = callId then some info.callState
      else m.stored callId := by
  unfold addOneVoipCallObject
  by_cases h : info.callId ∈ m.voipCallObjectList
  · rw [if_pos h, if_neg fun hn => stored_eq_none.mp hn.1 h]
  · rw [if_neg h]
    simp only [stored_eq_none, h, not_false_eq_true, true_and]
    simp only [stored, Std.ExtTreeMap.getElem?_insert, Std.LawfulEqCmp.compare_eq_iff_eq]
    split
    · rfl
    · rfl

theorem stored_updateOneVoipCallObjectByCallId (m : VoipCalls) (callId callId' : ℤ)
    (state : TelCallState) :
    (m.updateOneVoipCallObjectByCallId callId state).stored callId' =
      if callId = callId' then (m.stored callId).map fun _ => state else m.stored callId' := by
  simp only [stored, updateOneVoipCallObjectByCallId, Std.ExtTreeMap.getElem?_modify,
    Std.LawfulEqCmp.compare_eq_iff_eq]
  split
  · rw [Option.map_map, Option.map_map]
    rfl
  · rfl

theorem stored_deleteOneVoipCallObject (m : VoipCalls) (callId callId' : ℤ) :
    (m.deleteOneVoipCallObject callId).stored callId' =
      if callId = callId' then none else m.stored callId' := by
  simp only [stored, deleteOneVoipCallObject, Std.ExtTreeMap.getElem?_erase,
    Std.LawfulEqCmp.compare_eq_iff_eq]
  split
  · rfl
  · rfl

/-- The call that `GetVoipCallInfo` returns is the first one of the list. -/
theorem Keyed.getVoipCallInfo_callId {sup : Bool} {m : VoipCalls} (h : m.Keyed sup)
    {callId : ℤ} : m.firstId = some callId → m.getVoipCallInfo.callId = callId := by
  unfold firstId getVoipCallInfo
  cases hlist : m.voipCallObjectList.toList with
  | nil => simp
  | cons it rest =>
    have hmem : (it.1, it.2) ∈ m.voipCallObjectList.toList := by simp [hlist]
    have hkey := h.key _ _ (Std.ExtTreeMap.mem_toList_iff_getElem?_eq_some.mp hmem)
    intro hfirst
    rw [hkey]
    simpa using hfirst

/-- A stored call is the first one if `GetVoipCallInfo` returns it. -/
theorem Keyed.firstId_of_getVoipCallInfo {sup : Bool} {m : VoipCalls} (h : m.Keyed sup)
    {callId : ℤ} (hs : m.stored callId ≠ none) (hg : m.getVoipCallInfo.callId = callId) :
    m.firstId = some callId := by
  have hne : m.voipCallObjectList.toList ≠ [] := by
    intro hnil
    rw [Std.ExtTreeMap.toList_eq_nil_iff] at hnil
    exact hs (by simp [stored, hnil])
  obtain ⟨it, rest, hlist⟩ := List.exists_cons_of_ne_nil hne
  have hfirst : m.firstId = some it.1 := by simp [firstId, hlist]
  rw [h.getVoipCallInfo_callId hfirst] at hg
  rw [hfirst, hg]

theorem stored_of_firstId {m : VoipCalls} {callId : ℤ} (h : m.firstId = some callId) :
    m.stored callId ≠ none := by
  obtain ⟨it, hit, rfl⟩ := Option.map_eq_some_iff.mp h
  have hmem : (it.1, it.2) ∈ m.voipCallObjectList.toList := List.mem_of_mem_head? hit
  have hsome := Std.ExtTreeMap.mem_toList_iff_getElem?_eq_some.mp hmem
  simp [stored, hsome]

theorem stored_of_voipCallInState {m : VoipCalls} {callState : TelCallState} {callId : ℤ}
    (h : m.voipCallInState callState = some callId) : m.stored callId = some callState := by
  obtain ⟨it, hit, rfl⟩ := Option.map_eq_some_iff.mp h
  have hmem : (it.1, it.2) ∈ m.voipCallObjectList.toList := List.mem_of_find?_eq_some hit
  have hsome := Std.ExtTreeMap.mem_toList_iff_getElem?_eq_some.mp hmem
  have hstate : it.2.callState = callState := by simpa using List.find?_some hit
  simp [stored, hsome, hstate]

theorem voipCallInState_of_firstId {m : VoipCalls} {callState : TelCallState} {callId : ℤ}
    (hf : m.firstId = some callId) (hs : m.stored callId = some callState) :
    m.voipCallInState callState = some callId := by
  unfold firstId at hf
  unfold voipCallInState
  cases hlist : m.voipCallObjectList.toList with
  | nil => simp [hlist] at hf
  | cons it rest =>
    have hmem : (it.1, it.2) ∈ m.voipCallObjectList.toList := by simp [hlist]
    have hsome := Std.ExtTreeMap.mem_toList_iff_getElem?_eq_some.mp hmem
    have hid : it.1 = callId := by simpa [hlist] using hf
    have hstate : it.2.callState = callState := by simpa [stored, ← hid, hsome] using hs
    simp [hstate, hid]

/-! ## The handlers -/

/-- What an event needs: the state stored under its id is the one it implies, and
    what the listeners are told is about its call. -/
def Right (state : TelCallState) (callId : ℤ) (out : List VoipNotification × VoipCalls) : Prop :=
  Implied (some state) (out.2.stored callId) ∧ ∀ n ∈ out.1, n.info.callId = callId

theorem right_handleVoipDialing (m : VoipCalls) (callId : ℤ) (phoneNumber : ByteString) :
    Right .dialing callId (m.handleVoipDialing callId phoneNumber) ↔
      m.stored callId = none ∨ m.stored callId = some .dialing := by
  simp only [Right, handleVoipDialing, stored_addOneVoipCallObject, eventInfo, Implied,
    List.mem_singleton, forall_eq, and_true]
  by_cases h : m.stored callId = none <;> simp [h]

theorem right_handleVoipIncoming (m : VoipCalls) (hasCallExist : Bool) (callId : ℤ)
    (phoneNumber : ByteString) :
    Right .incoming callId (m.handleVoipIncoming hasCallExist callId phoneNumber) ↔
      m.stored callId = none ∨ m.stored callId = some .waiting ∨
        m.stored callId = some .incoming := by
  simp only [Right, handleVoipIncoming, stored_addOneVoipCallObject, eventInfo, Implied,
    List.mem_singleton, forall_eq, and_true]
  by_cases h : m.stored callId = none
  · simp only [h, true_or, iff_true, if_true]
    split <;> simp
  · simp [h]

theorem right_handleVoipDisconnected (m : VoipCalls) (callId : ℤ) (phoneNumber : ByteString) :
    Right .disconnected callId (m.handleVoipDisconnected callId phoneNumber) := by
  simp [Right, handleVoipDisconnected, stored_deleteOneVoipCallObject, eventInfo, Implied]

theorem right_handleVoipConnected {sup : Bool} {m : VoipCalls} (h : m.Keyed sup) (callId : ℤ) :
    Right .idle callId (m.handleVoipConnected callId) ↔ m.firstId = some callId := by
  simp only [Right, handleVoipConnected, stored_updateOneVoipCallObjectByCallId, Implied,
    List.mem_singleton, forall_eq, if_true]
  constructor
  · rintro ⟨hs, hg⟩
    refine h.firstId_of_getVoipCallInfo ?_ hg
    intro hn
    simp [hn] at hs
  · intro hf
    obtain ⟨state, hs⟩ := Option.ne_none_iff_exists'.mp (stored_of_firstId hf)
    exact ⟨by simp [hs], h.getVoipCallInfo_callId hf⟩

theorem right_handleVoipAlerting {sup : Bool} {m : VoipCalls} (h : m.Keyed sup) (callId : ℤ)
    (phoneNumber : ByteString) :
    Right .alerting callId (m.handleVoipAlerting callId phoneNumber) ↔
      m.stored callId = none ∨ m.stored callId = some .alerting ∨
        m.firstId = some callId ∧ m.stored callId = some .dialing := by
  unfold handleVoipAlerting
  by_cases hd : m.voipCallInState .dialing = some callId
  · have hs := stored_of_voipCallInState hd
    rw [if_pos hd]
    simp only [Right, stored_updateOneVoipCallObjectByCallId, Implied, List.mem_singleton,
      forall_eq, if_true, hs]
    constructor
    · rintro ⟨-, hg⟩
      exact .inr (.inr ⟨h.firstId_of_getVoipCallInfo (by simp [hs]) hg, trivial⟩)
    · rintro (hn | hn | ⟨hf, -⟩)
      · simp at hn
      · simp at hn
      · exact ⟨rfl, h.getVoipCallInfo_callId hf⟩
  · rw [if_neg hd]
    have hnot : ¬ (m.firstId = some callId ∧ m.stored callId = some .dialing) :=
      fun hf => hd (voipCallInState_of_firstId hf.1 hf.2)
    simp only [Right, stored_addOneVoipCallObject, eventInfo, Implied, List.mem_singleton,
      forall_eq, and_true, hnot, or_false]
    by_cases hn : m.stored callId = none <;> simp [hn]

/-! ## One event -/

theorem Keyed.addOneVoipCallObject {m : VoipCalls} (h : m.Keyed true) {info : CallAttributeInfo}
    (hl : info.callId ≠ illegalCallId) : (m.addOneVoipCallObject info).Keyed true := by
  unfold VoipCalls.addOneVoipCallObject
  by_cases hmem : info.callId ∈ m.voipCallObjectList
  · rwa [if_pos hmem]
  · rw [if_neg hmem]
    refine ⟨fun callId info' hi => ?_, ?_, by simp⟩
    · simp only [Std.ExtTreeMap.getElem?_insert, Std.LawfulEqCmp.compare_eq_iff_eq] at hi
      split at hi
      · next hid =>
        cases hi
        exact hid
      · exact h.key _ _ hi
    · simp only [Std.ExtTreeMap.getElem?_insert, Std.LawfulEqCmp.compare_eq_iff_eq, hl, if_false]
      exact h.legal

theorem Keyed.updateOneVoipCallObjectByCallId {m : VoipCalls} (h : m.Keyed true) (callId : ℤ)
    (state : TelCallState) : (m.updateOneVoipCallObjectByCallId callId state).Keyed true := by
  refine ⟨fun callId' info hi => ?_, ?_, by simp⟩
  · simp only [VoipCalls.updateOneVoipCallObjectByCallId, Std.ExtTreeMap.getElem?_modify,
      Std.LawfulEqCmp.compare_eq_iff_eq] at hi
    split at hi
    · next hid =>
      obtain ⟨info', hi', rfl⟩ := Option.map_eq_some_iff.mp hi
      subst hid
      exact h.key callId info' hi'
    · exact h.key _ _ hi
  · simp only [VoipCalls.updateOneVoipCallObjectByCallId, Std.ExtTreeMap.getElem?_modify,
      Std.LawfulEqCmp.compare_eq_iff_eq]
    split
    · next hid =>
      subst hid
      rw [h.legal]
      rfl
    · exact h.legal

theorem Keyed.deleteOneVoipCallObject {m : VoipCalls} (h : m.Keyed true) (callId : ℤ) :
    (m.deleteOneVoipCallObject callId).Keyed true := by
  refine ⟨fun callId' info hi => ?_, ?_, by simp⟩
  · simp only [VoipCalls.deleteOneVoipCallObject, Std.ExtTreeMap.getElem?_erase] at hi
    split at hi
    · contradiction
    · exact h.key _ _ hi
  · simp only [VoipCalls.deleteOneVoipCallObject, Std.ExtTreeMap.getElem?_erase, h.legal]
    split
    · rfl
    · rfl

/-- What a handler does to the list: one of the three changes at its own id. -/
inductive Touches (callId : ℤ) (m : VoipCalls) : VoipCalls → Prop
  | add (info : CallAttributeInfo) (h : info.callId = callId) :
    Touches callId m (m.addOneVoipCallObject info)
  | update (state : TelCallState) :
    Touches callId m (m.updateOneVoipCallObjectByCallId callId state)
  | delete : Touches callId m (m.deleteOneVoipCallObject callId)

theorem Touches.stored_of_ne {callId callId' : ℤ} {m m' : VoipCalls} (h : Touches callId m m')
    (hne : callId ≠ callId') : m'.stored callId' = m.stored callId' := by
  cases h with
  | add info hid => rw [stored_addOneVoipCallObject, if_neg fun hn => hne (hid ▸ hn.2)]
  | update state => rw [stored_updateOneVoipCallObjectByCallId, if_neg hne]
  | delete => rw [stored_deleteOneVoipCallObject, if_neg hne]

theorem Touches.keyed {callId : ℤ} {m m' : VoipCalls} (h : Touches callId m m')
    (hl : callId ≠ illegalCallId) (hk : m.Keyed true) : m'.Keyed true := by
  cases h with
  | add info hid => exact hk.addOneVoipCallObject (hid ▸ hl)
  | update state => exact hk.updateOneVoipCallObjectByCallId callId state
  | delete => exact hk.deleteOneVoipCallObject callId

theorem touches_handleVoipAlerting (m : VoipCalls) (callId : ℤ) (phoneNumber : ByteString) :
    Touches callId m (m.handleVoipAlerting callId phoneNumber).2 := by
  unfold handleVoipAlerting
  split
  · exact .update .alerting
  · exact .add _ rfl

/-- An event touches its own call, and is right under the condition. -/
theorem setVoIPCallInfo_spec {r : VoipRun} (hk : r.calls.Keyed true) (e : VoipEvent)
    (hl : e.callId ≠ illegalCallId) :
    let out := r.calls.setVoIPCallInfo true e
    (∃ m', Touches e.callId r.calls m' ∧ out.2.voipCallObjectList = m'.voipCallObjectList) ∧
      (Right e.state e.callId out ↔ r.StepOk true e) := by
  obtain ⟨callId, state, phoneNumber, hasCallExist, hmem⟩ := e
  dsimp only at hl ⊢
  have hstates : state = .dialing ∨ state = .alerting ∨ state = .idle ∨ state = .incoming ∨
      state = .disconnected := by simpa [voipEventStates] using hmem
  unfold setVoIPCallInfo VoipRun.StepOk
  simp only [Bool.true_eq_false, if_false, hl]
  rcases hstates with rfl | rfl | rfl | rfl | rfl
  · exact ⟨⟨_, .add _ rfl, rfl⟩, right_handleVoipDialing r.calls callId phoneNumber⟩
  · exact ⟨⟨(r.calls.handleVoipAlerting callId phoneNumber).2, touches_handleVoipAlerting .., rfl⟩,
      right_handleVoipAlerting hk callId phoneNumber⟩
  · exact ⟨⟨_, .update .active, rfl⟩, right_handleVoipConnected hk callId⟩
  · exact ⟨⟨_, .add _ rfl, rfl⟩,
      right_handleVoipIncoming r.calls hasCallExist callId phoneNumber⟩
  · exact ⟨⟨_, .delete, rfl⟩,
      iff_of_true (right_handleVoipDisconnected r.calls callId phoneNumber) trivial⟩

end VoipCalls

/-! ## Runs -/

open VoipCalls

theorem implied_none {last stored : Option TelCallState} (h : Implied last stored) :
    Implied last none ↔ stored = none := by
  rcases last with _ | state
  · exact iff_of_true rfl h
  · cases state
    case disconnected => exact iff_of_true rfl h
    case incoming =>
      refine iff_of_false (fun hn => by simp [Implied] at hn) (fun hs => ?_)
      rcases h with h | h <;> simp [hs] at h
    all_goals
      refine iff_of_false (fun hn => by simp [Implied] at hn) (fun hs => ?_)
      simp [Implied, hs] at h

/-- An event that leaves the other calls alone keeps the list right iff it is right itself. -/
theorem VoipListOk.cons_iff {r : VoipRun} (h : VoipListOk r) (e : VoipEvent)
    (out : List VoipNotification × VoipCalls)
    (hframe : ∀ callId, e.callId ≠ callId → out.2.stored callId = r.calls.stored callId) :
    VoipListOk ⟨out.2, ⟨e, out.1⟩ :: r.log⟩ ↔ Right e.state e.callId out := by
  have hself : KeyedLog.last? VoipLogEntry.callId (⟨e, out.1⟩ :: r.log) e.callId =
      some ⟨e, out.1⟩ := KeyedLog.last?_cons_self
  have hother : ∀ callId, e.callId ≠ callId →
      KeyedLog.last? VoipLogEntry.callId (⟨e, out.1⟩ :: r.log) callId =
        KeyedLog.last? VoipLogEntry.callId r.log callId :=
    fun _ hid => KeyedLog.last?_cons_of_ne hid
  constructor
  · intro hok
    refine ⟨?_, hok.notified ⟨e, out.1⟩ List.mem_cons_self⟩
    have himplied := hok.implied e.callId
    rwa [hself] at himplied
  · rintro ⟨himplied, hnotified⟩
    refine ⟨fun callId => ?_, fun entry hentry => ?_⟩
    · by_cases hid : e.callId = callId
      · rw [← hid, hself]
        exact himplied
      · rw [hother callId hid, hframe callId hid]
        exact h.implied callId
    · rcases List.mem_cons.mp hentry with rfl | hentry
      · exact hnotified
      · exact h.notified entry hentry

theorem VoipCalls.Keyed.setVoIPCallInfo {sup : Bool} {m : VoipCalls} (h : m.Keyed sup)
    (e : VoipEvent) : (m.setVoIPCallInfo sup e).2.Keyed sup := by
  cases sup with
  | false => exact h
  | true =>
    by_cases hl : e.callId = illegalCallId
    · have hclear : (m.setVoIPCallInfo true e).2 = m.clearVoipList := by
        simp [VoipCalls.setVoIPCallInfo, hl]
      rw [hclear]
      exact ⟨by simp [clearVoipList], by simp [clearVoipList], by simp⟩
    · obtain ⟨⟨m', ht, hlist⟩, -⟩ := setVoIPCallInfo_spec (r := ⟨m, []⟩) h e hl
      have hk := ht.keyed hl h
      exact ⟨by rw [hlist]; exact hk.key, by rw [hlist]; exact hk.legal, by simp⟩

theorem isVoipCallExist_eq_false {m : VoipCalls} :
    m.isVoipCallExist = false ↔ ∀ callId, m.stored callId = none := by
  simp only [isVoipCallExist, Bool.not_eq_false', Std.ExtTreeMap.isEmpty_iff, stored_eq_none]
  constructor
  · intro h callId
    simp [h]
  · intro h
    refine Std.ExtTreeMap.ext_getElem? fun callId => ?_
    rw [Std.ExtTreeMap.getElem?_eq_none (h callId)]
    simp

/-- The event of the illegal id, which clears the list, keeps it right iff it is
    empty already and the event says disconnected. -/
theorem VoipListOk.clear_iff {r : VoipRun} (h : VoipListOk r) (hk : r.calls.Keyed true)
    {e : VoipEvent} (hl : e.callId = illegalCallId) :
    VoipListOk (voipStep true r e) ↔
      r.calls.isVoipCallExist = false ∧ e.state = .disconnected := by
  have hstep : voipStep true r e = ⟨r.calls.clearVoipList, ⟨e, []⟩ :: r.log⟩ := by
    simp [voipStep, VoipCalls.setVoIPCallInfo, hl]
  have hcleared : ∀ callId, r.calls.clearVoipList.stored callId = none := by
    simp [clearVoipList, stored]
  have himplied : ∀ callId, Implied (some e.state) (r.calls.clearVoipList.stored callId) ↔
      e.state = .disconnected := by
    intro callId
    rw [hcleared]
    cases e.state <;> simp [Implied]
  rw [hstep, isVoipCallExist_eq_false]
  constructor
  · intro hok
    have hlast := hok.implied
    refine ⟨fun callId => ?_, ?_⟩
    · by_cases hid : e.callId = callId
      · rw [← hid, hl, stored, hk.legal]
        rfl
      · have hother := hlast callId
        rw [KeyedLog.last?_cons_of_ne (by exact hid), hcleared] at hother
        exact (implied_none (h.implied callId)).mp hother
    · have hself := hlast e.callId
      rw [show KeyedLog.last? VoipLogEntry.callId (⟨e, []⟩ :: r.log) e.callId = some ⟨e, []⟩
        from KeyedLog.last?_cons_self] at hself
      exact (himplied e.callId).mp hself
  · rintro ⟨hnone, hstate⟩
    refine (h.cons_iff e ([], r.calls.clearVoipList) fun callId _ => ?_).mpr ⟨?_, by simp⟩
    · rw [hcleared, hnone]
    · exact (himplied e.callId).mpr hstate

/-- One event keeps the list right iff it meets the condition. -/
theorem voipListOk_voipStep {sup : Bool} {r : VoipRun} (hk : r.calls.Keyed sup)
    (h : VoipListOk r) (e : VoipEvent) : VoipListOk (voipStep sup r e) ↔ r.StepOk sup e := by
  cases sup with
  | false =>
    have hnone : ∀ callId, r.calls.stored callId = none := by
      intro callId
      simp [stored, hk.supported rfl]
    have hstep : voipStep false r e = ⟨r.calls, ⟨e, []⟩ :: r.log⟩ := rfl
    rw [hstep, h.cons_iff e ([], r.calls) fun _ _ => rfl]
    simp only [Right, hnone, List.not_mem_nil, false_imp_iff, implies_true, and_true,
      VoipRun.StepOk, if_true]
    cases e.state <;> simp [Implied]
  | true =>
    by_cases hl : e.callId = illegalCallId
    · rw [VoipRun.StepOk, if_neg (by simp), if_pos hl]
      exact h.clear_iff hk hl
    · obtain ⟨⟨m', ht, hlist⟩, hright⟩ := setVoIPCallInfo_spec hk e hl
      rw [← hright]
      refine h.cons_iff e (r.calls.setVoIPCallInfo true e) fun callId hid => ?_
      rw [← ht.stored_of_ne hid, stored, hlist, stored]

theorem keyed_init (sup : Bool) : VoipRun.init.calls.Keyed sup :=
  ⟨by simp [VoipRun.init], by simp [VoipRun.init], fun _ => rfl⟩

theorem voipListOk_init : VoipListOk VoipRun.init where
  implied callId := by simp [VoipRun.init, KeyedLog.last?_eq_none, Implied, stored]
  notified := by simp [VoipRun.init]

/-- **MeeTime list.** Throughout a run the list follows the events and every listener is told of
    the call of the event iff every event meets the condition. -/
theorem voipListOk_iff (isSupportSetVoipInfo : Bool) (events : List VoipEvent) :
    Run.StatesMeet (voipStep isSupportSetVoipInfo) VoipListOk VoipRun.init events ↔
      Run.StepsMeet (voipStep isSupportSetVoipInfo) (VoipRun.StepOk isSupportSetVoipInfo)
        VoipRun.init events :=
  Run.statesMeet_iff_stepsMeet_of_invariant
    (I := fun r => r.calls.Keyed isSupportSetVoipInfo)
    (fun _ e hk => hk.setVoIPCallInfo e) (fun _ e hk h => voipListOk_voipStep hk h e) events
    (keyed_init isSupportSetVoipInfo) voipListOk_init

/-- Two calls come in, and the second one is connected. -/
def connectedWaitingEvents : List VoipEvent :=
  [⟨1, .incoming, [], false, by decide⟩, ⟨2, .incoming, [], false, by decide⟩,
    ⟨2, .idle, [], false, by decide⟩]

/-- The listeners are told that the first call is connected. -/
theorem connected_waiting_call :
    ¬ ∀ (isSupportSetVoipInfo : Bool) (events : List VoipEvent),
      Run.StatesMeet (voipStep isSupportSetVoipInfo) VoipListOk VoipRun.init events := by
  intro hall
  have hok := (hall true connectedWaitingEvents).last.notified
  have htold : ∃ entry ∈ (Run.run (voipStep true) VoipRun.init connectedWaitingEvents).log,
      ∃ n ∈ entry.notifications, n.info.callId = 1 ∧ entry.callId = 2 := by decide +kernel
  obtain ⟨entry, hentry, n, hn, hinfo, hid⟩ := htold
  have heq := hok entry hentry n hn
  omega

end CallManager
