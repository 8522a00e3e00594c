import CallManager.Library.Run
import CallManager.Library.SortedMap
import CallManager.Types
import Mathlib.Data.Int.Order.Basic

/-!
# The current call of the voice assistant

`CallVoiceAssistantManager` keeps an entry in `accountIds` for every carrier call,
and the id and the slot of the call it speaks about, `nowCallId` and
`nowAccountId`. The updates of the calls are tasks of one queue.

Specification (`Sound`): the current call is `FAIL_CODE` or a call with an entry, and
`FAIL_CODE` together with its slot; no call that has been DISCONNECTED has an entry;
an INCOMING call that is the only one left is current, unless its task was silenced
or refused; and with no call left nothing is.

The end of a call resets the current one only if neither an ACTIVE nor an INCOMING
call is left, and goes over to the INCOMING call only if that was noted as such,
which needs a slot other than that of the current call.

Results:
* `current_call_tracked`: the runs that keep the specification are those in which the
  current call ends with no ACTIVE call left, and no INCOMING one that was not noted.
* `current_call_dangles`: runs with two calls that break it.

Contact data, the connection to the assistant and the ringtone are left out.
-/

namespace CallManager.VoiceAssistant

/-! ## Model of the code -/

/-- `FAIL_CODE`. -/
def failCode : ℤ := -1

/-- `CallStateToApp::CALL_STATE_OFFHOOK` (call_manager_base.h:405). -/
def callStateOffhook : ℤ := 2

/-- `dialOrCome`: empty, `INCOMING` or `DIALING`. -/
inductive DialOrCome
  | empty
  | incoming
  | dialing
  deriving DecidableEq, Repr

/-- `IncomingContactInformation` (call_voice_assistant_manager.h:33-45), with its initial
    values. -/
structure IncomingContactInformation where
  dialOrCome : DialOrCome := .empty
  accountId : ℤ := -1
  callId : ℤ := -1
  stopBroadcasting : Bool := false
  callStatus : Option TelCallState := none
  deriving DecidableEq, Repr

/-- The members of `CallVoiceAssistantManager` that follow the calls. An entry of
    `accountIds` may be a null pointer. -/
structure CallVoiceAssistantManager where
  nowCallId : ℤ
  nowAccountId : ℤ
  nowVoipCallState : ℤ
  accountIds : SortedMap ℤ (Option IncomingContactInformation)

namespace CallVoiceAssistantManager

/-- The loop of `CheckTelCallState`: the first call in the state, or the last key of a
    null entry. -/
def checkLoop (state : TelCallState) :
    List (ℤ × Option IncomingContactInformation) → ℤ → Option ℤ × ℤ
  | [], invalid => (none, invalid)
  | (id, none) :: ids, _ => checkLoop state ids id
  | (id, some info) :: ids, invalid =>
    if info.callStatus = some state then (some id, invalid) else checkLoop state ids invalid

/-- `CheckTelCallState` (call_voice_assistant_manager.cpp:672-689). -/
def checkTelCallState (m : CallVoiceAssistantManager) (state : TelCallState) :
    ℤ × CallVoiceAssistantManager :=
  match checkLoop state m.accountIds.entries failCode with
  | (some id, _) => (id, m)
  | (none, invalid) => (failCode, { m with accountIds := m.accountIds.erase invalid })

/-- `GetContactInfo` (lines 333-340): the entry of a call, or a new one. -/
def getContactInfo (m : CallVoiceAssistantManager) (callId : ℤ) : IncomingContactInformation :=
  match m.accountIds.lookup callId with
  | some (some info) => info
  | some none | none => {}

/-- The entry of a call is written. -/
def setContactInfo (m : CallVoiceAssistantManager) (callId : ℤ)
    (info : IncomingContactInformation) : CallVoiceAssistantManager :=
  { m with accountIds := m.accountIds.insert callId (some info) }

/-- `accountIds[callId]` for a call without an entry, which makes a null one. -/
def nullContactInfo (m : CallVoiceAssistantManager) (callId : ℤ) : CallVoiceAssistantManager :=
  { m with accountIds := m.accountIds.insert callId none }

/-- The call becomes the current one. -/
def setCurrent (m : CallVoiceAssistantManager) (callId accountId : ℤ) :
    CallVoiceAssistantManager := { m with nowCallId := callId, nowAccountId := accountId }

/-- The test for another call on another slot. -/
def IsOther (m : CallVoiceAssistantManager) (callId accountId : ℤ) : Prop :=
  m.nowCallId ≠ callId ∧ m.nowAccountId ≠ accountId

instance (m : CallVoiceAssistantManager) (callId accountId : ℤ) :
    Decidable (m.IsOther callId accountId) :=
  inferInstanceAs (Decidable (_ ∧ _))

/-- `CallStatusIncoming` (lines 580-615). -/
def callStatusIncoming (m : CallVoiceAssistantManager) (callId accountId : ℤ) :
    CallVoiceAssistantManager :=
  if m.IsOther callId accountId then
    if m.nowVoipCallState = callStateOffhook then m
    else
      match m.accountIds.lookup callId with
      | some none | none => m.nullContactInfo callId
      | some (some info) =>
        let info := { info with dialOrCome := .incoming }
        let (activeId, m) := (m.setContactInfo callId info).checkTelCallState .active
        if activeId ≠ failCode then m
        else
          let (dialingId, m) := m.checkTelCallState .dialing
          let m :=
            if dialingId ≠ failCode then
              m.setContactInfo callId { info with dialOrCome := .dialing }
            else m
          m.setCurrent callId accountId
  else m

/-- `CallStatusDialing` (lines 617-634). -/
def callStatusDialing (m : CallVoiceAssistantManager) (callId accountId : ℤ) :
    CallVoiceAssistantManager :=
  match m.accountIds.lookup callId with
  | some none | none => m.nullContactInfo callId
  | some (some info) =>
    if m.IsOther callId accountId then
      (m.setContactInfo callId { info with dialOrCome := .dialing }).setCurrent callId accountId
    else m

/-- `CallStatusDisconnected` (lines 646-670). -/
def callStatusDisconnected (m : CallVoiceAssistantManager) (callId : ℤ) :
    CallVoiceAssistantManager :=
  let m := { m with accountIds := m.accountIds.erase callId }
  let (activeId, m) := m.checkTelCallState .active
  if activeId ≠ failCode then m
  else
    let (comeCallId, m) := m.checkTelCallState .incoming
    if comeCallId ≠ failCode then
      match m.accountIds.lookup comeCallId with
      | some none | none => m.nullContactInfo comeCallId
      | some (some nowInfo) =>
        if nowInfo.dialOrCome = .incoming then m.setCurrent nowInfo.callId nowInfo.accountId
        else m
    else m.setCurrent failCode failCode

/-- `CallStateUpdated` (lines 526-572); `silent` is what `IsNeedSilentInDoNotDisturbMode`
    returns. -/
def callStateUpdated (m : CallVoiceAssistantManager) (callType : CallType) (callId accountId : ℤ)
    (nextState : TelCallState) (silent : Bool) : CallVoiceAssistantManager :=
  if callType = .voip then m
  else
    let info :=
      { m.getContactInfo callId with callStatus := some nextState, accountId, callId }
    match nextState with
    | .active => m.setContactInfo callId info
    | .dialing => (m.setContactInfo callId info).callStatusDialing callId accountId
    | .incoming =>
      if silent = false then (m.setContactInfo callId info).callStatusIncoming callId accountId
      else m.setContactInfo callId info
    | .disconnected => (m.setContactInfo callId info).callStatusDisconnected callId
    | .unknown | .holding | .alerting | .waiting | .disconnecting | .idle | .answered => m

/-- `MuteRinger` (lines 388-406). -/
def muteRinger (m : CallVoiceAssistantManager) : CallVoiceAssistantManager :=
  if m.nowCallId = failCode then m
  else
    match m.accountIds.lookup m.nowCallId with
    | some none | none => m.nullContactInfo m.nowCallId
    | some (some info) => m.setContactInfo m.nowCallId { info with stopBroadcasting := true }

end CallVoiceAssistantManager

/-- A call that has not been DISCONNECTED: its last state, and whether its INCOMING task
    was neither silenced nor refused. -/
structure LiveCall where
  state : TelCallState
  heard : Bool
  deriving DecidableEq, Repr

/-- The manager, the calls that are left, and those that have been DISCONNECTED. -/
structure VoiceWorld where
  manager : CallVoiceAssistantManager
  calls : SortedMap ℤ LiveCall
  ended : List ℤ

/-- The tasks of the queue, and the state of the MeeTime call. -/
inductive VoiceOp
  | callStateUpdated (callType : CallType) (callId accountId : ℤ) (nextState : TelCallState)
      (silent : Bool)
  | muteRinger
  | updateVoipCallState (state : ℤ)
  deriving DecidableEq, Repr

/-- Call ids count from 1, slots from 0. -/
def VoiceOp.OnSlot : VoiceOp → Prop
  | .callStateUpdated _ callId accountId _ _ => 0 < callId ∧ 0 ≤ accountId
  | .muteRinger | .updateVoipCallState _ => True

instance : (op : VoiceOp) → Decidable op.OnSlot
  | .callStateUpdated _ _ _ _ _ => inferInstanceAs (Decidable (_ ∧ _))
  | .muteRinger | .updateVoipCallState _ => .isTrue trivial

namespace VoiceWorld

/-- Whether an INCOMING task is neither silenced nor refused. -/
def hears (w : VoiceWorld) (callId accountId : ℤ) (silent : Bool) : Bool :=
  silent = false ∧
    ¬ (w.manager.IsOther callId accountId ∧ w.manager.nowVoipCallState = callStateOffhook)

/-- The calls after a task. -/
def callsAfter (w : VoiceWorld) (callType : CallType) (callId accountId : ℤ)
    (nextState : TelCallState) (silent : Bool) : SortedMap ℤ LiveCall :=
  if callType = .voip then w.calls
  else
    match nextState with
    | .active | .dialing => w.calls.insert callId ⟨nextState, false⟩
    | .incoming => w.calls.insert callId ⟨.incoming, w.hears callId accountId silent⟩
    | .disconnected => w.calls.erase callId
    | .unknown | .holding | .alerting | .waiting | .disconnecting | .idle | .answered => w.calls

/-- The calls that have been DISCONNECTED after a task. -/
def endedAfter (w : VoiceWorld) (callType : CallType) (callId : ℤ) (nextState : TelCallState) :
    List ℤ :=
  if callType ≠ .voip ∧ nextState = .disconnected then callId :: w.ended else w.ended

/-- One operation. -/
def step (w : VoiceWorld) : VoiceOp → VoiceWorld
  | .callStateUpdated callType callId accountId nextState silent =>
    { manager := w.manager.callStateUpdated callType callId accountId nextState silent
      calls := w.callsAfter callType callId accountId nextState silent
      ended := w.endedAfter callType callId nextState }
  | .muteRinger => { w with manager := w.manager.muteRinger }
  | .updateVoipCallState state =>
    { w with manager := { w.manager with nowVoipCallState := state } }

/-- No call yet. -/
def init : VoiceWorld := ⟨⟨failCode, failCode, -1, .empty⟩, .empty, []⟩

/-! ## Specification -/

/-- The current call has an entry, entries are those of calls that go on, the only call left is
    current if it is INCOMING and was heard, and with no call left nothing is kept. -/
structure Sound (w : VoiceWorld) : Prop where
  current : w.manager.nowCallId = failCode ∨
    w.manager.accountIds.lookup w.manager.nowCallId ≠ none
  both : w.manager.nowCallId = failCode ↔ w.manager.nowAccountId = failCode
  ended : ∀ callId ∈ w.ended, w.manager.accountIds.lookup callId = none
  alone : ∀ callId c, w.calls.entries = [(callId, c)] → c.state = .incoming → c.heard = true →
    w.manager.nowCallId = callId
  none : w.calls.entries = [] → w.manager.nowCallId = failCode ∧
    w.manager.nowAccountId = failCode ∧ w.manager.accountIds.entries = []

/-- The entries of the other calls that are INCOMING, in the order of their ids. -/
def otherIncoming (w : VoiceWorld) (callId : ℤ) : List (ℤ × Option IncomingContactInformation) :=
  w.manager.accountIds.entries.filter fun e =>
    e.1 ≠ callId ∧ e.2.any fun info => info.callStatus = some .incoming

/-- The condition on an operation: no task comes for a call that has been DISCONNECTED,
    and when the current call is, no other call is ACTIVE and the first other INCOMING
    one, if there is one, was noted as such. -/
def StepOk (w : VoiceWorld) : VoiceOp → Prop
  | .callStateUpdated callType callId _ nextState _ =>
    callType ≠ .voip →
      (nextState = .active ∨ nextState = .dialing ∨ nextState = .incoming → callId ∉ w.ended) ∧
      (nextState = .disconnected → w.manager.nowCallId = callId →
        (∀ e ∈ w.calls.entries, e.1 ≠ callId → e.2.state ≠ .active) ∧
          ∀ e ∈ (w.otherIncoming callId).head?, ∀ info ∈ e.2, info.dialOrCome = .incoming)
  | .muteRinger | .updateVoipCallState _ => True

end VoiceWorld

instance (w : VoiceWorld) : (op : VoiceOp) → Decidable (w.StepOk op)
  | .callStateUpdated _ callId _ _ _ =>
    inferInstanceAs (Decidable (_ → (_ → _) ∧ (_ → _ →
      (∀ e ∈ w.calls.entries, _ → _) ∧ ∀ e ∈ (w.otherIncoming callId).head?, ∀ info ∈ e.2, _ = _)))
  | .muteRinger | .updateVoipCallState _ => .isTrue trivial

/-! ## Entries and calls -/

/-- The entries of the manager. -/
abbrev AccountIds := SortedMap ℤ (Option IncomingContactInformation)

/-- The entries are those of the calls, with their states. -/
structure Tracks (ids : AccountIds) (calls : SortedMap ℤ LiveCall) : Prop where
  missing : ∀ callId, calls.lookup callId = none → ids.lookup callId = none
  stored : ∀ callId c, calls.lookup callId = some c → 0 < callId ∧
    ∃ info, ids.lookup callId = some (some info) ∧ info.callStatus = some c.state ∧
      info.callId = callId ∧ 0 ≤ info.accountId

namespace Tracks

variable {ids : AccountIds} {calls : SortedMap ℤ LiveCall}

theorem empty : Tracks .empty .empty where
  missing := fun _ _ => rfl
  stored := fun _ _ h => by cases h

theorem insert (h : Tracks ids calls) {callId : ℤ} (hpos : 0 < callId)
    {info : IncomingContactInformation} {c : LiveCall} (hstate : info.callStatus = some c.state)
    (hid : info.callId = callId) (hslot : 0 ≤ info.accountId) :
    Tracks (ids.insert callId (some info)) (calls.insert callId c) where
  missing := fun k hk => by
    rw [SortedMap.lookup_insert] at hk ⊢
    split_ifs at hk ⊢
    exact h.missing k hk
  stored := fun k c' hk => by
    rw [SortedMap.lookup_insert] at hk ⊢
    split_ifs at hk ⊢ with heq
    · cases hk
      exact ⟨heq ▸ hpos, info, rfl, hstate, hid.trans heq.symm, hslot⟩
    · exact h.stored k c' hk

theorem erase (h : Tracks ids calls) (callId : ℤ) :
    Tracks (ids.erase callId) (calls.erase callId) where
  missing := fun k hk => by
    rw [SortedMap.lookup_erase] at hk ⊢
    split_ifs at hk ⊢
    · rfl
    · exact h.missing k hk
  stored := fun k c hk => by
    rw [SortedMap.lookup_erase] at hk ⊢
    split_ifs at hk ⊢
    exact h.stored k c hk

/-- Every entry is that of a call. -/
theorem exists_call (h : Tracks ids calls) {callId : ℤ}
    {entry : Option IncomingContactInformation} (hentry : ids.lookup callId = some entry) :
    ∃ c, calls.lookup callId = some c ∧ 0 < callId ∧ ∃ info, entry = some info ∧
      info.callStatus = some c.state ∧ info.callId = callId ∧ 0 ≤ info.accountId := by
  cases hc : calls.lookup callId with
  | none =>
    rw [h.missing callId hc] at hentry
    cases hentry
  | some c =>
    obtain ⟨hpos, info, hinfo, hrest⟩ := h.stored callId c hc
    rw [hinfo] at hentry
    cases hentry
    exact ⟨c, rfl, hpos, info, rfl, hrest⟩

theorem failCode_none (h : Tracks ids calls) : ids.lookup failCode = none := by
  cases hentry : ids.lookup failCode with
  | none => rfl
  | some entry =>
    obtain ⟨_, -, hpos, -⟩ := h.exists_call hentry
    exact absurd hpos (by decide)

end Tracks

/-- The entry is that of a call in the state. -/
def InState (state : TelCallState) (e : ℤ × Option IncomingContactInformation) : Bool :=
  e.2.any fun info => info.callStatus = some state

/-- Without null entries the loop looks for the first call in the state. -/
theorem checkLoop_eq (state : TelCallState) {ids : List (ℤ × Option IncomingContactInformation)}
    (hids : ∀ e ∈ ids, e.2.isSome = true) (invalid : ℤ) :
    CallVoiceAssistantManager.checkLoop state ids invalid =
      ((ids.find? (InState state)).map Prod.fst, invalid) := by
  induction ids with
  | nil => rfl
  | cons e ids ih =>
    obtain ⟨callId, entry⟩ := e
    have hrest := ih fun e he => hids e (List.mem_cons_of_mem _ he)
    cases entry with
    | none => exact absurd (hids (callId, none) List.mem_cons_self) Bool.noConfusion
    | some info =>
      rw [CallVoiceAssistantManager.checkLoop, hrest, List.find?_cons]
      by_cases hstate : info.callStatus = some state
      · simp [InState, hstate]
      · simp [InState, hstate]

namespace CallVoiceAssistantManager

variable {m : CallVoiceAssistantManager} {calls : SortedMap ℤ LiveCall}

/-- What `CheckTelCallState` does while there is no null entry. -/
theorem checkTelCallState_eq (h : Tracks m.accountIds calls) (state : TelCallState) :
    m.checkTelCallState state =
      (((m.accountIds.entries.find? (InState state)).map Prod.fst).getD failCode, m) := by
  have hids : ∀ e ∈ m.accountIds.entries, e.2.isSome = true := fun e he => by
    obtain ⟨_, -, -, info, hinfo, -⟩ := h.exists_call (SortedMap.mem_entries.mp he)
    rw [hinfo]
    rfl
  unfold checkTelCallState
  rw [checkLoop_eq state hids]
  cases m.accountIds.entries.find? (InState state) with
  | none =>
    dsimp only [Option.map_none, Option.getD_none]
    rw [SortedMap.erase_of_lookup_none h.failCode_none]
  | some e => rfl

/-- A call in the state is found if there is one. -/
theorem checkTelCallState_cases (h : Tracks m.accountIds calls) (state : TelCallState) :
    (m.checkTelCallState state = (failCode, m) ∧
        m.accountIds.entries.find? (InState state) = none ∧
        ∀ callId c, calls.lookup callId = some c → c.state ≠ state) ∨
      ∃ callId c info, m.checkTelCallState state = (callId, m) ∧
        m.accountIds.entries.find? (InState state) = some (callId, some info) ∧
        callId ≠ failCode ∧ calls.lookup callId = some c ∧ c.state = state ∧
        m.accountIds.lookup callId = some (some info) ∧ info.callId = callId ∧
        0 ≤ info.accountId := by
  rw [checkTelCallState_eq h]
  cases hfind : m.accountIds.entries.find? (InState state) with
  | none =>
    refine .inl ⟨rfl, rfl, fun callId c hc hstate => ?_⟩
    obtain ⟨-, info, hinfo, hstatus, -⟩ := h.stored callId c hc
    have hnot := List.find?_eq_none.mp hfind (callId, some info) (SortedMap.mem_entries.mpr hinfo)
    exact hnot (by simp [InState, hstatus, hstate])
  | some e =>
    obtain ⟨callId, entry⟩ := e
    have hentry := SortedMap.mem_entries.mp (List.mem_of_find?_eq_some hfind)
    obtain ⟨c, hc, hpos, info, rfl, hstatus, hid, hslot⟩ := h.exists_call hentry
    have hin : info.callStatus = some state := by
      simpa [InState] using List.find?_some hfind
    refine .inr ⟨callId, c, info, rfl, rfl, ?_, hc, ?_, hentry, hid, hslot⟩
    · rintro rfl
      exact absurd hpos (by decide)
    · rw [hstatus] at hin
      exact Option.some.inj hin

/-- The three exits of `CallStatusDisconnected`: an ACTIVE call is left; none is, but an
    INCOMING one; neither is. -/
theorem callStatusDisconnected_cases {callId : ℤ}
    (h : Tracks (m.accountIds.erase callId) calls) :
    let m₁ := { m with accountIds := m.accountIds.erase callId }
    ((∃ k c, calls.lookup k = some c ∧ c.state = .active) ∧
        m.callStatusDisconnected callId = m₁) ∨
      ((∀ k c, calls.lookup k = some c → c.state ≠ .active) ∧
        ((∃ k c info, m₁.accountIds.entries.find? (InState .incoming) = some (k, some info) ∧
            k ≠ failCode ∧ calls.lookup k = some c ∧ c.state = .incoming ∧ 0 ≤ info.accountId ∧
            m.callStatusDisconnected callId =
              if info.dialOrCome = .incoming then m₁.setCurrent k info.accountId else m₁) ∨
          (m₁.accountIds.entries.find? (InState .incoming) = none ∧
            (∀ k c, calls.lookup k = some c → c.state ≠ .incoming) ∧
            m.callStatusDisconnected callId = m₁.setCurrent failCode failCode))) := by
  have hm : Tracks { m with accountIds := m.accountIds.erase callId }.accountIds calls := h
  unfold callStatusDisconnected
  dsimp only
  rcases checkTelCallState_cases hm .active with
    ⟨hactive, -, hnone⟩ | ⟨k, c, -, hactive, -, hne, hc, hstate, -⟩
  · refine .inr ⟨hnone, ?_⟩
    rw [hactive]
    dsimp only
    rw [if_neg (not_not.mpr rfl)]
    rcases checkTelCallState_cases hm .incoming with
      ⟨hincoming, hfind, hnot⟩ | ⟨k, c, info, hincoming, hfind, hne, hc, hstate, hinfo, hid, hslot⟩
    · refine .inr ⟨hfind, hnot, ?_⟩
      rw [hincoming]
      dsimp only
      rw [if_neg (not_not.mpr rfl)]
    · refine .inl ⟨k, c, info, hfind, hne, hc, hstate, hslot, ?_⟩
      rw [hincoming]
      dsimp only at hinfo ⊢
      rw [if_pos hne, hinfo]
      dsimp only
      rw [hid]
  · refine .inl ⟨⟨k, c, hc, hstate⟩, ?_⟩
    rw [hactive]
    dsimp only
    rw [if_pos hne]

end CallVoiceAssistantManager

namespace VoiceWorld

variable {w : VoiceWorld}

/-! ## The invariant -/

/-- What the specification needs to be kept: the entries are those of the calls that are left,
    and an INCOMING call that was heard while no call is current is noted as such. -/
structure Inv (w : VoiceWorld) : Prop where
  tracks : Tracks w.manager.accountIds w.calls
  current : w.manager.nowCallId = failCode ∨ ∃ c, w.calls.lookup w.manager.nowCallId = some c
  both : w.manager.nowCallId = failCode ↔ w.manager.nowAccountId = failCode
  ended : ∀ callId ∈ w.ended, w.calls.lookup callId = none
  alone : ∀ callId c, w.calls.entries = [(callId, c)] → c.state = .incoming → c.heard = true →
    w.manager.nowCallId = callId
  heard : ∀ callId c, w.calls.lookup callId = some c → c.state = .incoming → c.heard = true →
    w.manager.nowCallId = failCode → (w.manager.getContactInfo callId).dialOrCome = .incoming

theorem Inv.sound (h : w.Inv) : w.Sound where
  current := by
    rcases h.current with hnow | ⟨c, hc⟩
    · exact .inl hnow
    · obtain ⟨-, info, hinfo, -⟩ := h.tracks.stored _ c hc
      exact .inr fun hnone => by rw [hinfo] at hnone; cases hnone
  both := h.both
  ended := fun callId hended => h.tracks.missing callId (h.ended callId hended)
  alone := h.alone
  none := fun hnone => by
    have hcalls : ∀ k, w.calls.lookup k = Option.none := fun k => by
      rw [SortedMap.lookup, hnone]
      rfl
    have hnow : w.manager.nowCallId = failCode := by
      rcases h.current with hnow | ⟨c, hc⟩
      · exact hnow
      · rw [hcalls] at hc
        cases hc
    refine ⟨hnow, h.both.mp hnow, ?_⟩
    rw [SortedMap.eq_empty_of_lookup fun k => h.tracks.missing k (hcalls k)]
    rfl

theorem inv_init : init.Inv where
  tracks := Tracks.empty
  current := .inl rfl
  both := Iff.rfl
  ended := fun _ hended => by cases hended
  alone := fun _ _ hone => by cases hone
  heard := fun _ _ hc => by cases hc

theorem Inv.now_pos (h : w.Inv) (hnow : w.manager.nowCallId ≠ failCode) :
    ∃ c, w.calls.lookup w.manager.nowCallId = some c := h.current.resolve_left hnow

/-- The state after a task that leaves the call stored: what the code made of the manager,
    and the call as it is known now. -/
structure Stores (w : VoiceWorld) (callId : ℤ) (c : LiveCall) (m : CallVoiceAssistantManager) :
    Prop where
  pos : 0 < callId
  tracks : Tracks m.accountIds (w.calls.insert callId c)
  others : ∀ k, k ≠ callId → m.accountIds.lookup k = w.manager.accountIds.lookup k

variable {callId accountId : ℤ} {c : LiveCall} {m : CallVoiceAssistantManager}

theorem getContactInfo_congr {m m' : CallVoiceAssistantManager}
    (h : m'.accountIds.lookup callId = m.accountIds.lookup callId) :
    m'.getContactInfo callId = m.getContactInfo callId := by
  unfold CallVoiceAssistantManager.getContactInfo
  rw [h]

theorem Inv.ended_insert (h : w.Inv) (hended : callId ∉ w.ended) (c : LiveCall) :
    ∀ k ∈ w.ended, (w.calls.insert callId c).lookup k = none := by
  intro k hk
  have hne : k ≠ callId := fun heq => hended (heq ▸ hk)
  rw [SortedMap.lookup_insert, if_neg hne]
  exact h.ended k hk

/-- The task leaves the current call as it is. -/
theorem Inv.keepCurrent (h : w.Inv) (hm : w.Stores callId c m) (hended : callId ∉ w.ended)
    (hnow : m.nowCallId = w.manager.nowCallId) (hslot : m.nowAccountId = w.manager.nowAccountId)
    (hheard : c.state = .incoming → c.heard = true → w.manager.nowCallId = failCode →
      (m.getContactInfo callId).dialOrCome = .incoming ∧
        ∃ k c', k ≠ callId ∧ w.calls.lookup k = some c') :
    Inv ⟨m, w.calls.insert callId c, w.ended⟩ where
  tracks := hm.tracks
  current := by
    show m.nowCallId = failCode ∨ ∃ c', (w.calls.insert callId c).lookup m.nowCallId = some c'
    rw [hnow, SortedMap.lookup_insert]
    rcases h.current with hfail | ⟨c', hc'⟩
    · exact .inl hfail
    · split_ifs
      · exact .inr ⟨c, rfl⟩
      · exact .inr ⟨c', hc'⟩
  both := by
    show m.nowCallId = failCode ↔ m.nowAccountId = failCode
    rw [hnow, hslot]
    exact h.both
  ended := h.ended_insert hended c
  alone := fun k c' hone hstate hset => by
    show m.nowCallId = k
    have hself : (w.calls.insert callId c).lookup callId = some c := by
      rw [SortedMap.lookup_insert, if_pos rfl]
    obtain ⟨rfl, rfl⟩ := SortedMap.lookup_of_single hone hself
    -- another call would be a second entry
    have hother : ∀ k' c', w.calls.lookup k' = some c' → k' = callId := by
      intro k' c' hc'
      by_contra hne
      have hin : (w.calls.insert callId c).lookup k' = some c' := by
        rw [SortedMap.lookup_insert, if_neg hne]
        exact hc'
      exact hne (SortedMap.lookup_of_single hone hin).1
    by_cases hfail : w.manager.nowCallId = failCode
    · obtain ⟨-, k', c', hne, hc'⟩ := hheard hstate hset hfail
      exact absurd (hother k' c' hc') hne
    · obtain ⟨c', hc'⟩ := h.now_pos hfail
      exact hnow.trans (hother _ c' hc')
  heard := fun k c' hc' hstate hset hfail => by
    show (m.getContactInfo k).dialOrCome = .incoming
    replace hc' : (w.calls.insert callId c).lookup k = some c' := hc'
    replace hfail : w.manager.nowCallId = failCode := hnow.symm.trans hfail
    rw [SortedMap.lookup_insert] at hc'
    split_ifs at hc' with hk
    · cases hc'
      subst hk
      exact (hheard hstate hset hfail).1
    · rw [getContactInfo_congr (hm.others k hk)]
      exact h.heard k c' hc' hstate hset hfail

/-- The task makes its call the current one. -/
theorem Inv.setCurrent (h : w.Inv) (hm : w.Stores callId c m) (hended : callId ∉ w.ended)
    (hslot : 0 ≤ accountId) :
    Inv ⟨m.setCurrent callId accountId, w.calls.insert callId c, w.ended⟩ where
  tracks := hm.tracks
  current := .inr ⟨c, by
    show (w.calls.insert callId c).lookup callId = some c
    rw [SortedMap.lookup_insert, if_pos rfl]⟩
  both := by
    have hpos := hm.pos
    show callId = failCode ↔ accountId = failCode
    unfold failCode
    omega
  ended := h.ended_insert hended c
  alone := fun k c' hone _ _ => by
    have hself : (w.calls.insert callId c).lookup callId = some c := by
      rw [SortedMap.lookup_insert, if_pos rfl]
    exact (SortedMap.lookup_of_single hone hself).1
  heard := fun _ _ _ _ _ hfail => by
    have hpos := hm.pos
    replace hfail : callId = failCode := hfail
    unfold failCode at hfail
    omega

/-! ## The tasks -/

/-- The entry that `CallStateUpdated` writes before it looks at the state. -/
def taskInfo (w : VoiceWorld) (callId accountId : ℤ) (nextState : TelCallState) :
    IncomingContactInformation :=
  { w.manager.getContactInfo callId with callStatus := some nextState, accountId, callId }

/-- The entry of the task's call is written, perhaps with another `dialOrCome`. -/
theorem Inv.stores (h : w.Inv) (hpos : 0 < callId) (hslot : 0 ≤ accountId)
    {nextState : TelCallState} {info : IncomingContactInformation}
    (hinfo : ∃ dialOrCome, info = { w.taskInfo callId accountId nextState with dialOrCome })
    (heard : Bool) :
    w.Stores callId ⟨nextState, heard⟩ (w.manager.setContactInfo callId info) := by
  obtain ⟨dialOrCome, rfl⟩ := hinfo
  refine ⟨hpos, h.tracks.insert hpos rfl rfl hslot, fun k hk => ?_⟩
  show (w.manager.accountIds.insert callId _).lookup k = _
  rw [SortedMap.lookup_insert, if_neg hk]

theorem lookup_setContactInfo (m : CallVoiceAssistantManager) (callId : ℤ)
    (info : IncomingContactInformation) :
    (m.setContactInfo callId info).accountIds.lookup callId = some (some info) := by
  show (m.accountIds.insert callId (some info)).lookup callId = _
  rw [SortedMap.lookup_insert, if_pos rfl]

theorem setContactInfo_twice (m : CallVoiceAssistantManager) (callId : ℤ)
    (info info' : IncomingContactInformation) :
    (m.setContactInfo callId info).setContactInfo callId info' = m.setContactInfo callId info' := by
  have hids : (m.accountIds.insert callId (some info)).insert callId (some info') =
      m.accountIds.insert callId (some info') := by
    refine SortedMap.ext_lookup fun k => ?_
    rw [SortedMap.lookup_insert, SortedMap.lookup_insert, SortedMap.lookup_insert]
    split_ifs <;> rfl
  exact congrArg (fun accountIds => { m with accountIds }) hids

theorem callStatusDialing_eq (m : CallVoiceAssistantManager) (info : IncomingContactInformation) :
    (m.setContactInfo callId info).callStatusDialing callId accountId =
      if m.IsOther callId accountId then
        (m.setContactInfo callId { info with dialOrCome := .dialing }).setCurrent callId accountId
      else m.setContactInfo callId info := by
  unfold CallVoiceAssistantManager.callStatusDialing
  rw [lookup_setContactInfo]
  dsimp only
  rw [setContactInfo_twice]
  rfl

/-- What `CallStatusIncoming` makes of the entry that has been written. -/
theorem callStatusIncoming_cases (h : w.Inv) (hpos : 0 < callId) (hslot : 0 ≤ accountId)
    {info : IncomingContactInformation} (hinfo : info = w.taskInfo callId accountId .incoming) :
    let m₁ := w.manager.setContactInfo callId info
    let m₂ := w.manager.setContactInfo callId { info with dialOrCome := .incoming }
    (¬ w.manager.IsOther callId accountId ∧ m₁.callStatusIncoming callId accountId = m₁) ∨
      (w.manager.IsOther callId accountId ∧
        ((w.manager.nowVoipCallState = callStateOffhook ∧
            m₁.callStatusIncoming callId accountId = m₁) ∨
          (w.manager.nowVoipCallState ≠ callStateOffhook ∧
            (((∃ k c, k ≠ callId ∧ w.calls.lookup k = some c) ∧
                m₁.callStatusIncoming callId accountId = m₂) ∨
              ∃ dialOrCome, m₁.callStatusIncoming callId accountId =
                (w.manager.setContactInfo callId { info with dialOrCome }).setCurrent callId
                  accountId)))) := by
  dsimp only
  by_cases hother : w.manager.IsOther callId accountId
  · refine .inr ⟨hother, ?_⟩
    by_cases hoffhook : w.manager.nowVoipCallState = callStateOffhook
    · refine .inl ⟨hoffhook, ?_⟩
      unfold CallVoiceAssistantManager.callStatusIncoming
      exact (if_pos hother).trans (if_pos hoffhook)
    · refine .inr ⟨hoffhook, ?_⟩
      have hm : w.Stores callId ⟨.incoming, false⟩
          (w.manager.setContactInfo callId { info with dialOrCome := .incoming }) :=
        h.stores hpos hslot ⟨.incoming, by rw [hinfo]⟩ false
      have hcode : (w.manager.setContactInfo callId info).callStatusIncoming callId accountId =
          let (activeId, m) := (w.manager.setContactInfo callId
            { info with dialOrCome := .incoming }).checkTelCallState .active
          if activeId ≠ failCode then m
          else
            let (dialingId, m) := m.checkTelCallState .dialing
            let m :=
              if dialingId ≠ failCode then
                m.setContactInfo callId { info with dialOrCome := .dialing }
              else m
            m.setCurrent callId accountId := by
        unfold CallVoiceAssistantManager.callStatusIncoming
        refine (if_pos hother).trans ((if_neg hoffhook).trans ?_)
        rw [lookup_setContactInfo]
        dsimp only
        rw [setContactInfo_twice]
      rw [hcode]
      rcases CallVoiceAssistantManager.checkTelCallState_cases hm.tracks .active with
        ⟨hactive, -, -⟩ | ⟨k, c, -, hactive, -, hne, hc, hstate, -⟩
      · refine .inr ?_
        rw [hactive]
        dsimp only
        rw [if_neg (not_not.mpr rfl)]
        rcases CallVoiceAssistantManager.checkTelCallState_cases hm.tracks .dialing with
          ⟨hdialing, -, -⟩ | ⟨k, c, -, hdialing, -, hne, -⟩
        · refine ⟨.incoming, ?_⟩
          rw [hdialing]
          rfl
        · refine ⟨.dialing, ?_⟩
          rw [hdialing]
          dsimp only
          rw [if_pos hne, setContactInfo_twice]
      · refine .inl ⟨?_, ?_⟩
        · rw [SortedMap.lookup_insert] at hc
          split_ifs at hc with hk
          · cases hc
            cases hstate
          · exact ⟨k, c, hk, hc⟩
        · rw [hactive]
          dsimp only
          rw [if_pos hne]
  · refine .inl ⟨hother, ?_⟩
    unfold CallVoiceAssistantManager.callStatusIncoming
    exact if_neg hother

/-- **Step lemma**, for a task that leaves its call stored. -/
theorem Inv.stored_task (h : w.Inv) (hpos : 0 < callId) (hslot : 0 ≤ accountId)
    {callType : CallType} (hcarrier : callType ≠ .voip) {nextState : TelCallState}
    (hstate : nextState = .active ∨ nextState = .dialing ∨ nextState = .incoming) (silent : Bool)
    (hended : callId ∉ w.ended) :
    (w.step (.callStateUpdated callType callId accountId nextState silent)).Inv := by
  have hm : ∀ heard, w.Stores callId ⟨nextState, heard⟩
      (w.manager.setContactInfo callId (w.taskInfo callId accountId nextState)) := fun heard =>
    h.stores hpos hslot ⟨_, rfl⟩ heard
  have hsame : w.endedAfter callType callId nextState = w.ended := by
    refine if_neg fun hdisc => ?_
    rcases hstate with rfl | rfl | rfl <;> cases hdisc.2
  unfold step callsAfter
  dsimp only
  unfold CallVoiceAssistantManager.callStateUpdated
  rw [hsame, if_neg hcarrier, if_neg hcarrier]
  rcases hstate with rfl | rfl | rfl
  · exact h.keepCurrent (hm false) hended rfl rfl fun hin => by cases hin
  · dsimp only
    rw [callStatusDialing_eq]
    split_ifs
    · exact h.setCurrent (h.stores hpos hslot ⟨.dialing, rfl⟩ false) hended hslot
    · exact h.keepCurrent (hm false) hended rfl rfl fun hin => by cases hin
  · dsimp only
    cases hsilent : silent with
    | true =>
      rw [if_neg Bool.noConfusion]
      refine h.keepCurrent (hm _) hended rfl rfl fun _ hset => ?_
      simp [hears] at hset
    | false =>
      rw [if_pos rfl]
      have hcases := callStatusIncoming_cases h hpos hslot
        (show w.taskInfo callId accountId .incoming = _ from rfl)
      show Inv ⟨(w.manager.setContactInfo callId
          (w.taskInfo callId accountId .incoming)).callStatusIncoming callId accountId,
        w.calls.insert callId ⟨.incoming, w.hears callId accountId false⟩, w.ended⟩
      rcases hcases with
        ⟨hother, hcode⟩ | ⟨hother, ⟨hoffhook, hcode⟩ | ⟨-, ⟨hleft, hcode⟩ | ⟨dialOrCome, hcode⟩⟩⟩
      · rw [hcode]
        refine h.keepCurrent (hm _) hended rfl rfl fun _ _ hfail => ?_
        -- with no current call every call is another one, on another slot
        refine absurd ⟨?_, ?_⟩ hother
        · rw [hfail]
          unfold failCode
          omega
        · rw [h.both.mp hfail]
          unfold failCode
          omega
      · rw [hcode]
        refine h.keepCurrent (hm _) hended rfl rfl fun _ hset => ?_
        simp [hears, hother, hoffhook] at hset
      · rw [hcode]
        refine h.keepCurrent (h.stores hpos hslot ⟨.incoming, rfl⟩ _) hended rfl rfl
          fun _ _ _ => ⟨?_, hleft⟩
        unfold CallVoiceAssistantManager.getContactInfo
        rw [lookup_setContactInfo]
      · rw [hcode]
        exact h.setCurrent (h.stores hpos hslot ⟨dialOrCome, rfl⟩ _) hended hslot

/-- Whatever the task does, its call has an entry afterwards. -/
theorem Inv.stored_entry (h : w.Inv) (hpos : 0 < callId) (hslot : 0 ≤ accountId)
    {callType : CallType} (hcarrier : callType ≠ .voip) {nextState : TelCallState}
    (hstate : nextState = .active ∨ nextState = .dialing ∨ nextState = .incoming)
    (silent : Bool) :
    (w.manager.callStateUpdated callType callId accountId nextState silent).accountIds.lookup
      callId ≠ none := by
  have hset : ∀ info, (w.manager.setContactInfo callId info).accountIds.lookup callId ≠ none :=
    fun info => by rw [lookup_setContactInfo]; exact Option.some_ne_none _
  unfold CallVoiceAssistantManager.callStateUpdated
  rw [if_neg hcarrier]
  rcases hstate with rfl | rfl | rfl
  · exact hset _
  · dsimp only
    rw [callStatusDialing_eq]
    split_ifs
    · exact hset _
    · exact hset _
  · dsimp only
    split_ifs with hsilent
    · have hcases := callStatusIncoming_cases h hpos hslot
        (show w.taskInfo callId accountId .incoming = _ from rfl)
      show ((w.manager.setContactInfo callId
        (w.taskInfo callId accountId .incoming)).callStatusIncoming callId
          accountId).accountIds.lookup callId ≠ none
      rcases hcases with ⟨-, hcode⟩ | ⟨-, ⟨-, hcode⟩ | ⟨-, ⟨-, hcode⟩ | ⟨dialOrCome, hcode⟩⟩⟩ <;>
        rw [hcode] <;> exact hset _
    · exact hset _

/-! ## The end of a call -/

theorem callStatusDisconnected_set (m : CallVoiceAssistantManager) (callId : ℤ)
    (info : IncomingContactInformation) :
    (m.setContactInfo callId info).callStatusDisconnected callId =
      m.callStatusDisconnected callId := by
  have hids : (m.setContactInfo callId info).accountIds.erase callId = m.accountIds.erase callId :=
    SortedMap.erase_insert ..
  unfold CallVoiceAssistantManager.callStatusDisconnected
  rw [hids]
  rfl

theorem otherIncoming_head (w : VoiceWorld) (callId : ℤ) :
    (w.manager.accountIds.erase callId).entries.find? (InState .incoming) =
      (w.otherIncoming callId).head? := by
  unfold otherIncoming
  rw [SortedMap.entries_erase, List.find?_filter, List.head?_filter]
  congr 1
  funext e
  simp [InState]

theorem lookup_erase_some {k : ℤ} (hc : (w.calls.erase callId).lookup k = some c) :
    k ≠ callId ∧ w.calls.lookup k = some c := by
  rw [SortedMap.lookup_erase] at hc
  split_ifs at hc with hk
  exact ⟨hk, hc⟩

theorem otherActive_iff :
    (∀ e ∈ w.calls.entries, e.1 ≠ callId → e.2.state ≠ .active) ↔
      ∀ k c, (w.calls.erase callId).lookup k = some c → c.state ≠ .active := by
  constructor
  · intro hall k c hc
    obtain ⟨hk, hc⟩ := lookup_erase_some hc
    exact hall (k, c) (SortedMap.mem_entries.mpr hc) hk
  · rintro hall ⟨k, c⟩ he hk
    refine hall k c ?_
    rw [SortedMap.lookup_erase, if_neg hk]
    exact SortedMap.mem_entries.mp he

theorem Inv.ended_erase (h : w.Inv) (callId : ℤ) :
    ∀ k ∈ callId :: w.ended, (w.calls.erase callId).lookup k = none := by
  intro k hk
  rw [SortedMap.lookup_erase]
  split_ifs with heq
  · rfl
  · exact h.ended k ((List.mem_cons.mp hk).resolve_left heq)

/-- The end of a call that is not the current one, which stays. -/
theorem Inv.keepAfterEnd (h : w.Inv) (hne : w.manager.nowCallId ≠ callId)
    (halone : ∀ k c, (w.calls.erase callId).entries = [(k, c)] → c.state = .incoming →
      c.heard = true → w.manager.nowCallId ≠ failCode) :
    Inv ⟨{ w.manager with accountIds := w.manager.accountIds.erase callId },
      w.calls.erase callId, callId :: w.ended⟩ where
  tracks := h.tracks.erase callId
  current := by
    refine h.current.imp_right fun ⟨c, hc⟩ => ⟨c, ?_⟩
    show (w.calls.erase callId).lookup w.manager.nowCallId = some c
    rw [SortedMap.lookup_erase, if_neg hne]
    exact hc
  both := h.both
  ended := h.ended_erase callId
  alone := fun k c hone hstate hset => by
    obtain ⟨c', hc'⟩ := h.now_pos (halone k c hone hstate hset)
    have hleft : (w.calls.erase callId).lookup w.manager.nowCallId = some c' := by
      rw [SortedMap.lookup_erase, if_neg hne]
      exact hc'
    exact (SortedMap.lookup_of_single hone hleft).1
  heard := fun k c hc hstate hset hfail => by
    obtain ⟨hk, hc⟩ := lookup_erase_some hc
    have hsame : CallVoiceAssistantManager.getContactInfo
        { w.manager with accountIds := w.manager.accountIds.erase callId } k =
          w.manager.getContactInfo k :=
      getContactInfo_congr (by rw [SortedMap.lookup_erase, if_neg hk])
    rw [hsame]
    exact h.heard k c hc hstate hset hfail

/-- What the end of a call needs: if it is the current one, no ACTIVE call is left and
    the first INCOMING one was noted. -/
def EndOk (w : VoiceWorld) (callId : ℤ) : Prop :=
  w.manager.nowCallId = callId →
    (∀ e ∈ w.calls.entries, e.1 ≠ callId → e.2.state ≠ .active) ∧
      ∀ e ∈ (w.otherIncoming callId).head?, ∀ info ∈ e.2, info.dialOrCome = .incoming

/-- **Step lemma**, for the end of a call. -/
theorem Inv.ended_task (h : w.Inv) (hok : w.EndOk callId) :
    Inv ⟨w.manager.callStatusDisconnected callId, w.calls.erase callId, callId :: w.ended⟩ := by
  have htracks := h.tracks.erase callId
  rcases CallVoiceAssistantManager.callStatusDisconnected_cases htracks with
    ⟨⟨k, c, hc, hactive⟩, hcode⟩ |
      ⟨-, ⟨k, c, info, hfind, hne, hc, hstate, hslot, hcode⟩ | ⟨-, hnone, hcode⟩⟩
  · rw [hcode]
    refine h.keepAfterEnd (fun hnow => ?_) fun k' c' hone hstate => ?_
    · exact otherActive_iff.mp (hok hnow).1 k c hc hactive
    · obtain ⟨rfl, rfl⟩ := SortedMap.lookup_of_single hone hc
      rw [hactive] at hstate
      cases hstate
  · have hinfo : (w.manager.accountIds.erase callId).lookup k = some (some info) :=
      SortedMap.mem_entries.mp (List.mem_of_find?_eq_some hfind)
    rw [otherIncoming_head] at hfind
    rw [hcode]
    split_ifs with hcome
    · refine ⟨htracks, .inr ⟨c, hc⟩, ?_, h.ended_erase callId, fun k' c' hone _ _ => ?_,
        fun _ _ _ _ _ hfail => absurd hfail hne⟩
      · show k = failCode ↔ info.accountId = failCode
        refine ⟨fun heq => absurd heq hne, fun heq => ?_⟩
        unfold failCode at heq
        omega
      · exact (SortedMap.lookup_of_single hone hc).1
    · refine h.keepAfterEnd (fun hnow => ?_) fun k' c' hone hstate' hset hfail => ?_
      · exact hcome ((hok hnow).2 (k, some info) hfind info rfl)
      · obtain ⟨rfl, rfl⟩ := SortedMap.lookup_of_single hone hc
        obtain ⟨hk, hstored⟩ := lookup_erase_some hc
        have hnoted := h.heard k c hstored hstate hset hfail
        rw [SortedMap.lookup_erase, if_neg hk] at hinfo
        unfold CallVoiceAssistantManager.getContactInfo at hnoted
        rw [hinfo] at hnoted
        exact hcome hnoted
  · rw [hcode]
    refine ⟨htracks, .inl rfl, Iff.rfl, h.ended_erase callId, fun k' c' hone hstate _ => ?_,
      fun k' c' hc' hstate => absurd hstate (hnone k' c' hc')⟩
    exact absurd hstate (hnone k' c' (SortedMap.lookup_single hone))

/-- Conversely, an end that leaves the current call an entry meets the condition. -/
theorem Inv.endOk (h : w.Inv) (hpos : 0 < callId)
    (hcurrent : (w.manager.callStatusDisconnected callId).nowCallId = failCode ∨
      (w.manager.callStatusDisconnected callId).accountIds.lookup
        (w.manager.callStatusDisconnected callId).nowCallId ≠ none) :
    w.EndOk callId := by
  intro hnow
  -- the current call is not the one that ended any more
  have hmoved : w.manager.callStatusDisconnected callId ≠
      { w.manager with accountIds := w.manager.accountIds.erase callId } := by
    intro hcode
    rw [hcode] at hcurrent
    replace hcurrent : w.manager.nowCallId = failCode ∨
      (w.manager.accountIds.erase callId).lookup w.manager.nowCallId ≠ none := hcurrent
    rw [hnow, SortedMap.lookup_erase, if_pos rfl] at hcurrent
    rcases hcurrent with hfail | hnone
    · unfold failCode at hfail
      omega
    · exact hnone rfl
  rcases CallVoiceAssistantManager.callStatusDisconnected_cases (h.tracks.erase callId) with
    ⟨-, hcode⟩ | ⟨hactive, ⟨k, c, info, hfind, -, -, -, -, hcode⟩ | ⟨hfind, -, -⟩⟩
  · exact absurd hcode hmoved
  · refine ⟨otherActive_iff.mpr hactive, fun e he info' hinfo' => ?_⟩
    rw [otherIncoming_head] at hfind
    rw [hfind] at he
    cases he
    cases hinfo'
    by_contra hcome
    rw [if_neg hcome] at hcode
    exact hmoved hcode
  · refine ⟨otherActive_iff.mpr hactive, fun e he => ?_⟩
    rw [otherIncoming_head] at hfind
    rw [hfind] at he
    cases he

/-! ## The other operations -/

theorem Inv.muteRinger (h : w.Inv) : (w.step .muteRinger).Inv := by
  unfold step CallVoiceAssistantManager.muteRinger
  dsimp only
  split_ifs with hfail
  · exact h
  · obtain ⟨c, hc⟩ := h.now_pos hfail
    obtain ⟨hpos, info, hinfo, hstatus, hid, hslot⟩ := h.tracks.stored _ c hc
    rw [hinfo]
    dsimp only
    let info' := { info with stopBroadcasting := true }
    have htracks : Tracks (w.manager.accountIds.insert w.manager.nowCallId (some info'))
        (w.calls.insert w.manager.nowCallId c) := h.tracks.insert hpos hstatus hid hslot
    rw [SortedMap.insert_of_lookup hc] at htracks
    exact ⟨htracks, h.current, h.both, h.ended, h.alone,
      fun _ _ _ _ _ hnow => absurd hnow hfail⟩

theorem Inv.updateVoipCallState (h : w.Inv) (state : ℤ) :
    (w.step (.updateVoipCallState state)).Inv :=
  ⟨h.tracks, h.current, h.both, h.ended, h.alone, h.heard⟩

/-- A task that the manager has no use for. -/
theorem step_untracked {callType : CallType} {nextState : TelCallState} {silent : Bool}
    (h : callType = .voip ∨ ¬ (nextState = .active ∨ nextState = .dialing ∨ nextState = .incoming ∨
      nextState = .disconnected)) :
    w.step (.callStateUpdated callType callId accountId nextState silent) = w := by
  unfold step CallVoiceAssistantManager.callStateUpdated callsAfter endedAfter
  dsimp only
  rcases h with rfl | hstate
  · rfl
  · cases nextState with
    | active | dialing | incoming | disconnected => simp at hstate
    | unknown | holding | alerting | waiting | disconnecting | idle | answered =>
      by_cases hvoip : callType = .voip
      · simp [hvoip]
      · simp [hvoip]

theorem step_disconnected {callType : CallType} (hcarrier : callType ≠ .voip) (silent : Bool) :
    w.step (.callStateUpdated callType callId accountId .disconnected silent) =
      ⟨w.manager.callStatusDisconnected callId, w.calls.erase callId, callId :: w.ended⟩ := by
  unfold step CallVoiceAssistantManager.callStateUpdated callsAfter endedAfter
  dsimp only
  rw [if_neg hcarrier, if_neg hcarrier, if_pos ⟨hcarrier, rfl⟩, callStatusDisconnected_set]

/-- Admissible operations keep the invariant. -/
theorem Inv.step (h : w.Inv) (op : VoiceOp) (hop : op.OnSlot) (hok : w.StepOk op) :
    (w.step op).Inv := by
  cases op with
  | muteRinger => exact h.muteRinger
  | updateVoipCallState state => exact h.updateVoipCallState state
  | callStateUpdated callType callId accountId nextState silent =>
    by_cases hused : callType ≠ .voip ∧ (nextState = .active ∨ nextState = .dialing ∨
        nextState = .incoming ∨ nextState = .disconnected)
    · obtain ⟨hcarrier, hstate⟩ := hused
      obtain ⟨hfresh, hend⟩ := hok hcarrier
      by_cases hdisc : nextState = .disconnected
      · subst hdisc
        rw [step_disconnected hcarrier]
        exact h.ended_task (hend rfl)
      · have hstored : nextState = .active ∨ nextState = .dialing ∨ nextState = .incoming := by
          simpa [hdisc] using hstate
        exact h.stored_task hop.1 hop.2 hcarrier hstored silent (hfresh hstored)
    · rw [step_untracked (by tauto)]
      exact h

/-- An operation that keeps the specification is admissible. -/
theorem Inv.stepOk (h : w.Inv) (op : VoiceOp) (hop : op.OnSlot) (hsound : (w.step op).Sound) :
    w.StepOk op := by
  cases op with
  | muteRinger | updateVoipCallState state => exact trivial
  | callStateUpdated callType callId accountId nextState silent =>
    intro hcarrier
    refine ⟨fun hstored hended => ?_, fun hdisc => ?_⟩
    · have hsame : w.endedAfter callType callId nextState = w.ended := by
        refine if_neg fun hdisc => ?_
        rcases hstored with rfl | rfl | rfl <;> cases hdisc.2
      refine h.stored_entry hop.1 hop.2 hcarrier hstored silent (hsound.ended callId ?_)
      show callId ∈ w.endedAfter callType callId nextState
      rw [hsame]
      exact hended
    · subst hdisc
      rw [step_disconnected hcarrier] at hsound
      exact h.endOk hop.1 hsound.current

end VoiceWorld

/-! ## Main result -/

/-- **Main theorem.** For tasks of calls on any slots, the runs in which the current call
    is tracked are those whose operations meet the condition. -/
theorem current_call_tracked (ops : List VoiceOp) (hops : ∀ op ∈ ops, op.OnSlot) :
    Run.StatesMeet VoiceWorld.step VoiceWorld.Sound .init ops ↔
      Run.StepsMeet VoiceWorld.step VoiceWorld.StepOk .init ops :=
  Run.statesMeet_iff_stepsMeet_of_stronger_ops (I := VoiceWorld.Inv) (fun _ h => h.sound)
    (fun _ op hop h hok => h.step op hop hok) (fun _ op hop h hsound => h.stepOk op hop hsound) ops
    hops VoiceWorld.inv_init

/-- A call on the first slot, and one on the second that stays when it ends. -/
def twoSlots : List VoiceOp :=
  [.callStateUpdated .ims 1 0 .incoming false, .callStateUpdated .ims 1 0 .active false,
    .callStateUpdated .ims 2 1 .incoming false, .callStateUpdated .ims 1 0 .disconnected false,
    .muteRinger, .callStateUpdated .ims 2 1 .disconnected false]

/-- Calls on two slots, one after the other. -/
theorem current_call_tracked_twoSlots :
    Run.StatesMeet VoiceWorld.step VoiceWorld.Sound .init twoSlots :=
  (current_call_tracked twoSlots (by decide)).mpr (by decide +kernel)

/-- The current call ends while a second one, which waited on the same slot, is ACTIVE. -/
def activeLeft : List VoiceOp :=
  [.callStateUpdated .ims 1 0 .incoming false, .callStateUpdated .ims 1 0 .active false,
    .callStateUpdated .ims 2 0 .active false, .callStateUpdated .ims 1 0 .disconnected false]

/-- The current call ends while a second one on the same slot is INCOMING. -/
def incomingLeft : List VoiceOp :=
  [.callStateUpdated .ims 1 0 .dialing false, .callStateUpdated .ims 2 0 .incoming false,
    .callStateUpdated .ims 1 0 .disconnected false]

/-- A call that has ended stays current; `MuteRinger` then gives it an entry again; and
    an INCOMING call that is alone is not current. -/
theorem current_call_dangles :
    ¬ Run.StatesMeet VoiceWorld.step VoiceWorld.Sound .init activeLeft ∧
      ¬ (Run.run VoiceWorld.step .init (activeLeft ++ [.muteRinger])).Sound ∧
      ¬ (Run.run VoiceWorld.step .init incomingLeft).Sound := by
  refine ⟨fun h => ?_, fun h => ?_, fun h => ?_⟩
  · have hcurrent := h.last.current
    revert hcurrent
    decide +kernel
  · have hended := h.ended 1 (by decide +kernel)
    revert hended
    decide +kernel
  · have halone := h.alone 2 ⟨.incoming, true⟩ (by decide +kernel) rfl rfl
    revert halone
    decide +kernel

end CallManager.VoiceAssistant
