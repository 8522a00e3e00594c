import CallManager.Types
import Mathlib.Data.List.Count

/-!
# The state that hands-free devices are told

`BluetoothCallService::GetCallState` computes four values for the hands-free devices
out of all calls: how many are active, how many are held, a state, and a number. The
state and the number are overwritten eight times, once for each state that has a call;
then the VoIP call of the list of its own is looked at, if the two are still empty.

Specification (`Faithful`): if a call rings, the state is INCOMING and the number that
of a ringing call; if none does but a call goes out, state and number are those of an
outgoing call; and the two counts are those of all calls. It is about the calls that
are shown to such devices: carrier calls, VoIP calls that are not virtual, and the
VoIP call.

The overwrites for calls that end come last, so such a call hides a ringing one. The
number of a held call is enough to hide the VoIP call. A VoIP call that is DIALING,
held, or active beside an active call is not counted or shown.

Results:
* `handsFreeState_iff`: the values are as specified iff the calls are of the kinds that
  the overwrites show (`Shown`).
* `disconnecting_hides_ringing`: a call that rings, and one that is disconnecting.
-/

namespace CallManager.HandsFree

/-! ## Model of the code -/

/-- The fields of a call object that the counts read. -/
structure Call where
  callType : CallType
  callState : TelCallState
  isNonVirtualCall : Bool
  accountNumber : ByteString
  deriving DecidableEq

/-- The state and the number of a call, as `CallAttributeInfo` has them. -/
structure CallInfo where
  callState : TelCallState
  accountNumber : ByteString
  deriving DecidableEq

/-- `callObjectPtrList_`, and the VoIP call of `voipCallObjectList_`, if there is one. -/
structure HandsFreeWorld where
  callObjectPtrList : List Call
  voipCall : Option CallInfo
  deriving DecidableEq

/-- A call that `GetCallNum` and `GetCallNumber` count, VoIP calls being included. -/
def Call.counted (it : Call) : Bool := !(it.callType == .voip && !it.isNonVirtualCall)

/-- The arguments of `SendBtCallState`. -/
structure BtCallState where
  numActive : ℕ
  numHeld : ℕ
  callState : TelCallState
  number : ByteString
  deriving DecidableEq

namespace HandsFreeWorld

variable (w : HandsFreeWorld)

/-- The calls of the list that are counted. -/
def counted : List CallInfo :=
  (w.callObjectPtrList.filter Call.counted).map fun it => ⟨it.callState, it.accountNumber⟩

/-- `GetCallNum` (call_object_manager.cpp:864-880), VoIP calls being included. -/
def getCallNum (callState : TelCallState) : ℕ :=
  w.counted.countP fun it => it.callState = callState

/-- `GetCallNumber` (call_object_manager.cpp:882-898), VoIP calls being included: the number of
    the first call in the state. -/
def getCallNumber (callState : TelCallState) : ByteString :=
  match w.counted.find? fun it => it.callState = callState with
  | some it => it.accountNumber
  | none => []

/-- The overwrites of `getCallInfoNum` in their order: the state of the calls that are
    counted, and the state that is shown. -/
def overwrites : List (TelCallState × TelCallState) :=
  [(.holding, .idle), (.active, .idle), (.dialing, .dialing), (.alerting, .alerting),
    (.incoming, .incoming), (.waiting, .incoming), (.disconnected, .idle),
    (.disconnecting, .disconnected)]

/-- What `getCallInfoNum` leaves in `callState` and `number`
    (bluetooth_call_service.cpp:170-213). -/
def getCallInfoNum : CallInfo :=
  overwrites.foldl (fun shown o =>
    if 0 < w.getCallNum o.1 then ⟨o.2, w.getCallNumber o.1⟩ else shown) ⟨.idle, []⟩

/-- `GetVoipCallState` (bluetooth_call_service.cpp:215-244). -/
def getVoipCallState (callAttributeInfo : CallInfo) (s : BtCallState) : BtCallState :=
  let s :=
    if s.callState = .idle ∧ s.number = [] then
      let s :=
        match callAttributeInfo.callState with
        | .idle => { s with numActive := 1 }
        | .waiting => { s with callState := .incoming }
        | .incoming => { s with callState := .incoming }
        | .alerting => { s with callState := .alerting }
        | _ => s
      { s with number := callAttributeInfo.accountNumber }
    else s
  if s.numActive = 0 ∧ callAttributeInfo.callState = .active then { s with numActive := 1 } else s

/-- What `GetCallState` computes (bluetooth_call_service.cpp:154-165). -/
def computed : BtCallState :=
  let shown := w.getCallInfoNum
  let s : BtCallState :=
    ⟨w.getCallNum .active, w.getCallNum .holding, shown.callState, shown.accountNumber⟩
  match w.voipCall with
  | some callAttributeInfo => if s.numActive = 0 then getVoipCallState callAttributeInfo s else s
  | none => s

/-- `GetCallState` (bluetooth_call_service.cpp:148-168): what it sends, if the caller has the
    permission. -/
def getCallState (permitted : Bool) : Option BtCallState :=
  if permitted then some w.computed else none

/-! ## Specification -/

/-- All calls that the devices are told of. -/
def shownCalls : List CallInfo := w.counted ++ w.voipCall.toList

/-- A call rings. -/
def IsRinging (callState : TelCallState) : Prop := callState = .incoming ∨ callState = .waiting

/-- A call goes out. -/
def IsOutgoing (callState : TelCallState) : Prop := callState = .dialing ∨ callState = .alerting

/-- Some call is in such a state. -/
def SomeCall (p : TelCallState → Prop) : Prop := ∃ it ∈ w.shownCalls, p it.callState

/-- What the devices are told tells them of the calls. -/
structure Faithful (s : BtCallState) : Prop where
  ringing : w.SomeCall IsRinging →
    s.callState = .incoming ∧
      ∃ it ∈ w.shownCalls, IsRinging it.callState ∧ it.accountNumber = s.number
  outgoing : ¬ w.SomeCall IsRinging → w.SomeCall IsOutgoing →
    ∃ it ∈ w.shownCalls, IsOutgoing it.callState ∧ it.callState = s.callState ∧
      it.accountNumber = s.number
  numActive : s.numActive = w.shownCalls.countP fun it => it.callState = .active
  numHeld : s.numHeld = w.shownCalls.countP fun it => it.callState = .holding

/-! ## The condition -/

/-- A call of the list is in one of these states, and none is about to end. -/
def ListShows (callStates : List TelCallState) : Prop :=
  w.getCallNum .disconnecting = 0 ∧ w.getCallNum .disconnected = 0 ∧
    ∃ callState ∈ callStates, 0 < w.getCallNum callState

/-- No call of the list stands before the VoIP call: none is active or disconnecting; the
    first that is disconnected, or if there is none the first that is held, has no number;
    and if none is disconnected, none rings or goes out. -/
def VoipLookedAt : Prop :=
  w.getCallNum .active = 0 ∧ w.getCallNum .disconnecting = 0 ∧
    if 0 < w.getCallNum .disconnected then w.getCallNumber .disconnected = []
    else
      w.getCallNum .waiting = 0 ∧ w.getCallNum .incoming = 0 ∧ w.getCallNum .alerting = 0 ∧
        w.getCallNum .dialing = 0 ∧ (0 < w.getCallNum .holding → w.getCallNumber .holding = [])

/-- The VoIP call is in one of these states, and no call stands before it. -/
def VoipShows (callStates : List TelCallState) : Prop :=
  w.VoipLookedAt ∧ ∃ v ∈ w.voipCall, v.callState ∈ callStates

/-- The calls are such that the overwrites show them: a ringing or outgoing call is shown
    from the list, or is the VoIP call and nothing stands before it; an outgoing VoIP call
    is ALERTING; and the VoIP call is not held, not active beside an active call, and not
    IDLE where it is looked at. -/
structure Shown : Prop where
  ringing : w.SomeCall IsRinging →
    w.ListShows [.incoming, .waiting] ∨ w.VoipShows [.incoming, .waiting]
  outgoing : ¬ w.SomeCall IsRinging → w.SomeCall IsOutgoing →
    w.ListShows [.dialing, .alerting] ∨ w.VoipShows [.alerting]
  notHeld : ∀ v ∈ w.voipCall, v.callState ≠ .holding
  notActive : ∀ v ∈ w.voipCall, v.callState = .active → w.getCallNum .active = 0
  notIdle : ¬ w.VoipShows [.idle]

/-! ## The calls of the list -/

variable {w}

theorem getCallNum_pos {callState : TelCallState} :
    0 < w.getCallNum callState ↔ ∃ it ∈ w.counted, it.callState = callState := by
  unfold getCallNum
  rw [List.countP_pos_iff]
  exact exists_congr fun it => and_congr_right fun _ => decide_eq_true_iff

/-- The number of a state that has a call is that of a call in it. -/
theorem exists_getCallNumber {callState : TelCallState} (h : 0 < w.getCallNum callState) :
    ∃ it ∈ w.counted, it.callState = callState ∧ it.accountNumber = w.getCallNumber callState := by
  unfold getCallNumber
  cases hfind : w.counted.find? fun it => it.callState = callState with
  | none =>
    obtain ⟨it, hit, hstate⟩ := getCallNum_pos.mp h
    exact absurd hstate (by simpa using List.find?_eq_none.mp hfind it hit)
  | some it =>
    exact ⟨it, List.mem_of_find?_eq_some hfind, by simpa using List.find?_some hfind, rfl⟩

/-- A call is in the list, or is the VoIP call. -/
theorem someCall_iff {p : TelCallState → Prop} :
    w.SomeCall p ↔ (∃ callState, p callState ∧ 0 < w.getCallNum callState) ∨
      ∃ v ∈ w.voipCall, p v.callState := by
  unfold SomeCall shownCalls
  constructor
  · rintro ⟨it, hit, hp⟩
    rcases List.mem_append.mp hit with hit | hit
    · exact .inl ⟨it.callState, hp, getCallNum_pos.mpr ⟨it, hit, rfl⟩⟩
    · exact .inr ⟨it, Option.mem_toList.mp hit, hp⟩
  · rintro (⟨callState, hp, hpos⟩ | ⟨v, hv, hp⟩)
    · obtain ⟨it, hit, rfl⟩ := getCallNum_pos.mp hpos
      exact ⟨it, List.mem_append_left _ hit, hp⟩
    · exact ⟨v, List.mem_append_right _ (Option.mem_toList.mpr hv), hp⟩

theorem mem_shownCalls_of_counted {it : CallInfo} (h : it ∈ w.counted) : it ∈ w.shownCalls :=
  List.mem_append_left _ h

theorem mem_shownCalls_of_voip {v : CallInfo} (h : v ∈ w.voipCall) : v ∈ w.shownCalls :=
  List.mem_append_right _ (Option.mem_toList.mpr h)

variable (w)

/-- The last overwrite counts. -/
theorem getCallInfoNum_eq :
    w.getCallInfoNum =
      if 0 < w.getCallNum .disconnecting then
        ⟨.disconnected, w.getCallNumber .disconnecting⟩
      else if 0 < w.getCallNum .disconnected then ⟨.idle, w.getCallNumber .disconnected⟩
      else if 0 < w.getCallNum .waiting then ⟨.incoming, w.getCallNumber .waiting⟩
      else if 0 < w.getCallNum .incoming then ⟨.incoming, w.getCallNumber .incoming⟩
      else if 0 < w.getCallNum .alerting then ⟨.alerting, w.getCallNumber .alerting⟩
      else if 0 < w.getCallNum .dialing then ⟨.dialing, w.getCallNumber .dialing⟩
      else if 0 < w.getCallNum .active then ⟨.idle, w.getCallNumber .active⟩
      else if 0 < w.getCallNum .holding then ⟨.idle, w.getCallNumber .holding⟩
      else ⟨.idle, []⟩ := rfl

/-- The VoIP call is looked at iff nothing has been overwritten. -/
theorem voipLookedAt_iff :
    w.VoipLookedAt ↔ w.getCallNum .active = 0 ∧ w.getCallInfoNum = ⟨.idle, []⟩ := by
  unfold VoipLookedAt
  refine and_congr_right fun hactive => ?_
  rw [getCallInfoNum_eq]
  split_ifs with h₁ h₂ h₃ h₄ h₅ h₆ h₇ h₈
  all_goals
    rw [CallInfo.mk.injEq]
    grind

/-- INCOMING is shown from the list iff a call there rings and none is about to end. -/
theorem getCallInfoNum_incoming :
    w.getCallInfoNum.callState = .incoming ↔ w.ListShows [.incoming, .waiting] := by
  unfold ListShows
  rw [getCallInfoNum_eq]
  split_ifs with h₁ h₂ h₃ h₄ h₅ h₆ h₇ h₈
  all_goals
    simp
    omega

/-- Without a ringing call in the list, the state of an outgoing call is shown from it iff
    there is one and none is about to end. -/
theorem getCallInfoNum_outgoing (hincoming : w.getCallNum .incoming = 0)
    (hwaiting : w.getCallNum .waiting = 0) :
    IsOutgoing w.getCallInfoNum.callState ↔ w.ListShows [.dialing, .alerting] := by
  unfold ListShows IsOutgoing
  rw [getCallInfoNum_eq]
  split_ifs with h₁ h₂ h₃ h₄ h₅ h₆ h₇ h₈
  all_goals
    simp
    omega

variable {w}

theorem number_incoming (h : w.ListShows [.incoming, .waiting]) :
    ∃ it ∈ w.counted, IsRinging it.callState ∧
      it.accountNumber = w.getCallInfoNum.accountNumber := by
  obtain ⟨hdisconnecting, hdisconnected, hringing⟩ := h
  rw [getCallInfoNum_eq, if_neg (by omega), if_neg (by omega)]
  by_cases hwaiting : 0 < w.getCallNum .waiting
  · rw [if_pos hwaiting]
    obtain ⟨it, hit, hstate, hnumber⟩ := exists_getCallNumber hwaiting
    exact ⟨it, hit, .inr hstate, hnumber⟩
  · have hincoming : 0 < w.getCallNum .incoming := by simpa [hwaiting] using hringing
    rw [if_neg hwaiting, if_pos hincoming]
    obtain ⟨it, hit, hstate, hnumber⟩ := exists_getCallNumber hincoming
    exact ⟨it, hit, .inl hstate, hnumber⟩

theorem number_outgoing (hincoming : w.getCallNum .incoming = 0)
    (hwaiting : w.getCallNum .waiting = 0) (h : w.ListShows [.dialing, .alerting]) :
    ∃ it ∈ w.counted, IsOutgoing it.callState ∧
      it.callState = w.getCallInfoNum.callState ∧
        it.accountNumber = w.getCallInfoNum.accountNumber := by
  obtain ⟨hdisconnecting, hdisconnected, houtgoing⟩ := h
  rw [getCallInfoNum_eq, if_neg (by omega), if_neg (by omega), if_neg (by omega),
    if_neg (by omega)]
  by_cases halerting : 0 < w.getCallNum .alerting
  · rw [if_pos halerting]
    obtain ⟨it, hit, hstate, hnumber⟩ := exists_getCallNumber halerting
    exact ⟨it, hit, .inr hstate, hstate, hnumber⟩
  · have hdialing : 0 < w.getCallNum .dialing := by simpa [halerting] using houtgoing
    rw [if_neg halerting, if_pos hdialing]
    obtain ⟨it, hit, hstate, hnumber⟩ := exists_getCallNumber hdialing
    exact ⟨it, hit, .inl hstate, hstate, hnumber⟩

/-! ## The VoIP call -/

/-- The state that is shown for a VoIP call that is looked at. -/
def voipShown : TelCallState → TelCallState
  | .waiting | .incoming => .incoming
  | .alerting => .alerting
  | _ => .idle

theorem computed_of_none (h : w.voipCall = none) :
    w.computed = ⟨w.getCallNum .active, w.getCallNum .holding, w.getCallInfoNum.callState,
      w.getCallInfoNum.accountNumber⟩ := by
  unfold computed
  rw [h]

/-- A VoIP call that is not looked at is counted if it is the only active one. -/
theorem computed_of_not_lookedAt {v : CallInfo} (hv : w.voipCall = some v)
    (h : ¬ w.VoipLookedAt) :
    w.computed = ⟨if w.getCallNum .active = 0 ∧ v.callState = .active then 1
        else w.getCallNum .active,
      w.getCallNum .holding, w.getCallInfoNum.callState, w.getCallInfoNum.accountNumber⟩ := by
  rw [voipLookedAt_iff] at h
  unfold computed
  rw [hv]
  dsimp only
  by_cases hactive : w.getCallNum .active = 0
  · have hshown : ¬ (w.getCallInfoNum.callState = .idle ∧ w.getCallInfoNum.accountNumber = []) := by
      intro hand
      refine h ⟨hactive, ?_⟩
      cases hinfo : w.getCallInfoNum with
      | mk callState accountNumber =>
        rw [hinfo] at hand
        rw [CallInfo.mk.injEq]
        exact hand
    rw [if_pos hactive]
    unfold getVoipCallState
    rw [if_neg hshown]
    dsimp only
    split_ifs <;> rfl
  · rw [if_neg hactive, if_neg fun h => hactive h.1]

/-- A VoIP call that is looked at is shown. -/
theorem computed_of_lookedAt {v : CallInfo} (hv : w.voipCall = some v) (h : w.VoipLookedAt) :
    w.computed = ⟨if v.callState = .idle ∨ v.callState = .active then 1 else 0,
      w.getCallNum .holding, voipShown v.callState, v.accountNumber⟩ := by
  obtain ⟨hactive, hshown⟩ := w.voipLookedAt_iff.mp h
  unfold computed
  rw [hv, hshown, hactive]
  dsimp only
  rw [if_pos rfl]
  unfold getVoipCallState voipShown
  cases v.callState <;> rfl

/-- INCOMING is sent iff a ringing call is shown. -/
theorem computed_incoming :
    w.computed.callState = .incoming ↔
      w.ListShows [.incoming, .waiting] ∨ w.VoipShows [.incoming, .waiting] := by
  cases hv : w.voipCall with
  | none =>
    have hnot : ¬ w.VoipShows [.incoming, .waiting] := by
      rintro ⟨-, v, hmem, -⟩
      rw [hv] at hmem
      cases hmem
    rw [computed_of_none hv, or_iff_left hnot]
    exact w.getCallInfoNum_incoming
  | some v =>
    by_cases hlooked : w.VoipLookedAt
    · have hlist : ¬ w.ListShows [.incoming, .waiting] := by
        rw [← getCallInfoNum_incoming, (w.voipLookedAt_iff.mp hlooked).2]
        exact nofun
      rw [computed_of_lookedAt hv hlooked, or_iff_right hlist]
      unfold VoipShows voipShown
      rw [hv, and_iff_right hlooked]
      cases hstate : v.callState <;> simp [hstate]
    · rw [computed_of_not_lookedAt hv hlooked, or_iff_left fun h => hlooked h.1]
      exact w.getCallInfoNum_incoming

/-- The number that is sent with INCOMING is that of a ringing call. -/
theorem number_of_incoming
    (h : w.ListShows [.incoming, .waiting] ∨ w.VoipShows [.incoming, .waiting]) :
    ∃ it ∈ w.shownCalls, IsRinging it.callState ∧ it.accountNumber = w.computed.number := by
  by_cases hlooked : w.VoipLookedAt
  · have hlist : ¬ w.ListShows [.incoming, .waiting] := by
      rw [← getCallInfoNum_incoming, (w.voipLookedAt_iff.mp hlooked).2]
      exact nofun
    obtain ⟨-, v, hv, hstate⟩ := h.resolve_left hlist
    refine ⟨v, mem_shownCalls_of_voip hv, by simpa [IsRinging] using hstate, ?_⟩
    rw [computed_of_lookedAt hv hlooked]
  · obtain ⟨it, hit, hringing, hnumber⟩ := number_incoming (h.resolve_right fun h => hlooked h.1)
    refine ⟨it, mem_shownCalls_of_counted hit, hringing, ?_⟩
    cases hv : w.voipCall with
    | none => rw [computed_of_none hv, hnumber]
    | some v => rw [computed_of_not_lookedAt hv hlooked, hnumber]

/-- Where no call rings, none of the list does. -/
theorem getCallNum_of_not_ringing (h : ¬ w.SomeCall IsRinging) :
    w.getCallNum .incoming = 0 ∧ w.getCallNum .waiting = 0 := by
  rw [someCall_iff, not_or] at h
  refine ⟨?_, ?_⟩
  · by_contra hne
    exact h.1 ⟨.incoming, .inl rfl, Nat.pos_of_ne_zero hne⟩
  · by_contra hne
    exact h.1 ⟨.waiting, .inr rfl, Nat.pos_of_ne_zero hne⟩

/-- Where no call rings, the state of an outgoing call is sent iff one is shown, and its
    number with it. -/
theorem computed_outgoing (h : ¬ w.SomeCall IsRinging) :
    (∃ it ∈ w.shownCalls, IsOutgoing it.callState ∧ it.callState = w.computed.callState ∧
        it.accountNumber = w.computed.number) ↔
      w.ListShows [.dialing, .alerting] ∨ w.VoipShows [.alerting] := by
  obtain ⟨hincoming, hwaiting⟩ := getCallNum_of_not_ringing h
  have hfromList : (¬ w.VoipLookedAt) →
      w.computed.callState = w.getCallInfoNum.callState ∧
        w.computed.number = w.getCallInfoNum.accountNumber := by
    intro hlooked
    cases hv : w.voipCall with
    | none => rw [computed_of_none hv]; exact ⟨rfl, rfl⟩
    | some v => rw [computed_of_not_lookedAt hv hlooked]; exact ⟨rfl, rfl⟩
  have hlistNot (hlooked : w.VoipLookedAt) : ¬ w.ListShows [.dialing, .alerting] := by
    rw [← w.getCallInfoNum_outgoing hincoming hwaiting, (w.voipLookedAt_iff.mp hlooked).2]
    rintro (h | h) <;> cases h
  constructor
  · rintro ⟨it, -, houtgoing, hstate, -⟩
    rw [hstate] at houtgoing
    by_cases hlooked : w.VoipLookedAt
    · cases hv : w.voipCall with
      | none =>
        rw [computed_of_none hv, w.getCallInfoNum_outgoing hincoming hwaiting] at houtgoing
        exact .inl houtgoing
      | some v =>
        rw [computed_of_lookedAt hv hlooked] at houtgoing
        refine .inr ⟨hlooked, v, hv, ?_⟩
        unfold IsOutgoing voipShown at houtgoing
        cases hvState : v.callState <;> simp [hvState] at houtgoing ⊢
    · rw [(hfromList hlooked).1, w.getCallInfoNum_outgoing hincoming hwaiting] at houtgoing
      exact .inl houtgoing
  · intro hshows
    by_cases hlooked : w.VoipLookedAt
    · obtain ⟨-, v, hv, hstate⟩ := hshows.resolve_left (hlistNot hlooked)
      rw [List.mem_singleton] at hstate
      refine ⟨v, mem_shownCalls_of_voip hv, .inr hstate, ?_⟩
      rw [computed_of_lookedAt hv hlooked, hstate]
      exact ⟨rfl, rfl⟩
    · obtain ⟨it, hit, houtgoing, hstate, hnumber⟩ :=
        number_outgoing hincoming hwaiting (hshows.resolve_right fun h => hlooked h.1)
      obtain ⟨hcallState, hsent⟩ := hfromList hlooked
      exact ⟨it, mem_shownCalls_of_counted hit, houtgoing, hcallState ▸ hstate, hsent ▸ hnumber⟩

/-! ## The counts -/

/-- All calls in a state: those of the list, and the VoIP call. -/
theorem countP_shownCalls (callState : TelCallState) :
    w.shownCalls.countP (fun it => it.callState = callState) =
      w.getCallNum callState +
        (w.voipCall.toList.countP fun it => it.callState = callState) := by
  unfold shownCalls getCallNum
  exact List.countP_append

theorem numActive_iff :
    (w.computed.numActive = w.shownCalls.countP fun it => it.callState = .active) ↔
      (∀ v ∈ w.voipCall, v.callState = .active → w.getCallNum .active = 0) ∧
        ¬ w.VoipShows [.idle] := by
  rw [countP_shownCalls]
  unfold VoipShows
  cases hv : w.voipCall with
  | none =>
    rw [computed_of_none hv]
    refine iff_of_true rfl ⟨nofun, ?_⟩
    rintro ⟨-, _, h, -⟩
    cases h
  | some v =>
    have hcount : ((some v).toList.countP fun it => it.callState = .active) =
        if v.callState = .active then 1 else 0 := by
      rw [Option.toList_some, List.countP_singleton]
      simp
    have hall : (∀ v' ∈ some v, v'.callState = .active → w.getCallNum .active = 0) ↔
        (v.callState = .active → w.getCallNum .active = 0) := by
      simp
    have hsome : (∃ v' ∈ some v, v'.callState ∈ [TelCallState.idle]) ↔ v.callState = .idle := by
      simp
    rw [hcount, hall, hsome]
    by_cases hlooked : w.VoipLookedAt
    · rw [computed_of_lookedAt hv hlooked, (w.voipLookedAt_iff.mp hlooked).1,
        and_iff_right hlooked]
      cases hstate : v.callState <;> simp
    · rw [computed_of_not_lookedAt hv hlooked, and_iff_left fun h => hlooked h.1]
      by_cases hactive : v.callState = .active
      · by_cases hnone : w.getCallNum .active = 0
        · simp [hactive, hnone]
        · simp [hactive, hnone]
      · simp [hactive]

theorem numHeld_iff :
    (w.computed.numHeld = w.shownCalls.countP fun it => it.callState = .holding) ↔
      ∀ v ∈ w.voipCall, v.callState ≠ .holding := by
  rw [countP_shownCalls]
  cases hv : w.voipCall with
  | none =>
    rw [computed_of_none hv]
    exact iff_of_true rfl nofun
  | some v =>
    have hheld : w.computed.numHeld = w.getCallNum .holding := by
      by_cases hlooked : w.VoipLookedAt
      · rw [computed_of_lookedAt hv hlooked]
      · rw [computed_of_not_lookedAt hv hlooked]
    rw [hheld, Option.toList_some, List.countP_singleton]
    by_cases hstate : v.callState = .holding
    · simp [hstate]
    · simp [hstate]

/-- **The state that hands-free devices are told.** Whatever the calls, what is sent tells
    the devices of them iff the overwrites show them. -/
theorem handsFreeState_iff (w : HandsFreeWorld) :
    (∃ sent, w.getCallState true = some sent ∧ w.Faithful sent) ↔ w.Shown := by
  have hsent : (∃ sent, w.getCallState true = some sent ∧ w.Faithful sent) ↔
      w.Faithful w.computed := by
    constructor
    · rintro ⟨sent, h, hfaithful⟩
      cases h
      exact hfaithful
    · exact fun h => ⟨w.computed, rfl, h⟩
  rw [hsent]
  constructor
  · rintro ⟨hringing, houtgoing, hactive, hheld⟩
    obtain ⟨hnotActive, hnotIdle⟩ := numActive_iff.mp hactive
    exact ⟨fun h => computed_incoming.mp (hringing h).1,
      fun h hsome => (computed_outgoing h).mp (houtgoing h hsome), numHeld_iff.mp hheld,
      hnotActive, hnotIdle⟩
  · rintro ⟨hringing, houtgoing, hnotHeld, hnotActive, hnotIdle⟩
    exact ⟨fun h => ⟨computed_incoming.mpr (hringing h), number_of_incoming (hringing h)⟩,
      fun h hsome => (computed_outgoing h).mpr (houtgoing h hsome),
      numActive_iff.mpr ⟨hnotActive, hnotIdle⟩, numHeld_iff.mpr hnotHeld⟩

end HandsFreeWorld

/-- A call that rings, and one that is disconnecting. -/
def ringingBesideDisconnecting : HandsFreeWorld where
  callObjectPtrList := [⟨.ims, .disconnecting, false, [0x31]⟩, ⟨.ims, .incoming, false, [0x32]⟩]
  voipCall := none

/-- The ringing call is hidden. -/
theorem disconnecting_hides_ringing :
    ¬ ∀ w : HandsFreeWorld, ∃ sent, w.getCallState true = some sent ∧ w.Faithful sent := by
  intro hall
  obtain ⟨sent, hsent, hfaithful⟩ := hall ringingBesideDisconnecting
  cases hsent
  have hringing : ringingBesideDisconnecting.SomeCall HandsFreeWorld.IsRinging :=
    ⟨⟨.incoming, [0x32]⟩, by decide, .inl rfl⟩
  exact absurd (hfaithful.ringing hringing).1 (by decide)

end CallManager.HandsFree
