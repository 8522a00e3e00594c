import CallManager.CallRecords
import CallManager.Library.EventLog
import CallManager.Library.Run

/-!
# The durations of a call

A call object writes down the time when it comes into a state: when it began to ring,
when it was answered, when it stopped ringing and when it ended. When the call is
over, the call log is given two durations that are made of these four times.

Here is the life of one carrier call, from the report that creates its object to the
report that it is disconnected. Between the two there is any sequence of reports. A
report may give the call another type: then its object is replaced, and the new one
comes into the state of the old one. Bluetooth and VoIP calls have handlers of their
own, and are left out.

Specification (`rung`, `talked`): a call rings from the first time that it comes to ring
until it is answered, or, if it never is, until it is being disconnected; it is talked
from the first time that it is active until it is disconnected.

Results:
* `refreshCall_stored`: the replaced object is the one that `RefreshCall` leaves in the
  store.
* `times_of_life`: what the four times are at the end of every life.
* `durations_iff`: the time that is talked is always recorded, and the time that it rang
  is iff each report that makes the call ring (`MakesRing`) comes when it began to ring,
  and not after it stopped.
* `retyped_call_rings_short`: a call that rings for 60 seconds and changes its type when it
  is answered is recorded as having rung for none.
-/

namespace CallManager.CallTimes

open CallRecords (durationField toUInt32)
open EventLog

/-! ## Model -/

/-- A report of a carrier call at a time (`CallDetailInfo`), as `HandleCallReportInfo` takes it
    (call_status_manager.cpp:137-187): its state has a handler, and its number fits into
    `phoneNum`. -/
structure Report where
  clock : Clock
  info : CallDetailInfo
  carrier : info.callType ∈ [CallType.cs, .ims, .satellite]
  state : info.state ∉ [TelCallState.unknown, .idle, .answered]
  number_le : info.phoneNum.utf8ByteSize ≤ maxNumberLen

/-- The time of a report. -/
def Report.time (r : Report) : ℤ := r.clock.time

/-- A call object, what it has written down, and the states that it has come into, with
    their times. -/
structure TimedCall where
  base : CallBase
  history : CallHistory
  came : List (TelCallState × ℤ)

namespace TimedCall

/-- `SetTelCallState` (call_base.cpp:252-293). -/
def setTelCallState (t : TimedCall) (clock : Clock) (nextState : TelCallState) : TimedCall where
  base := (t.base.setTelCallState nextState).2
  history := t.history.setTelCallState clock t.base nextState
  came :=
    if t.base.callRunningState ≠ .create ∧ t.base.callState = nextState ∧ nextState ≠ .dialing then
      t.came
    else t.came ++ [(nextState, clock.time)]

/-- `RefreshCall` (call_status_manager.cpp:1884-1925). -/
def refreshCall (env : StatusEnv) (t : TimedCall) (r : Report) : TimedCall :=
  match CallBase.newCall env r.info t.base.callId with
  | none => t
  | some n =>
    let base :=
      { n with
        callRunningState := t.base.callRunningState
        conferenceState := t.base.conferenceState }
    let attrInfo := t.history.getCallAttributeBaseInfo t.base
    let history := CallHistory.copy attrInfo t.history (CallHistory.created r.clock r.info)
    setTelCallState ⟨base, history, t.came⟩ r.clock t.base.callState

/-- `RefreshCallIfNecessary` (call_status_manager.cpp:1860-1882). -/
def refreshCallIfNecessary (env : StatusEnv) (t : TimedCall) (r : Report) : TimedCall :=
  let t := { t with base := t.base.refreshVideoState r.info }
  if t.base.callType = r.info.callType then t else t.refreshCall env r

/-- The call is dialed and has no index yet. -/
def IsPending (t : TimedCall) : Prop := t.base.index = StatusWorld.initIndex

instance (t : TimedCall) : Decidable t.IsPending := inferInstanceAs (Decidable (_ = _))

/-- `UpdateDialingCallInfo` for a stored call (call_status_manager.cpp:928-957). -/
def updateDialingCallInfo (env : StatusEnv) (t : TimedCall) (r : Report) : TimedCall :=
  if t.IsPending then
    let oriNum := t.base.accountNumber
    let t := t.refreshCallIfNecessary env r
    { t.setTelCallState r.clock .dialing with
      base := t.base.adopt { r.info with state := .dialing } oriNum }
  else t.refreshCallIfNecessary env r

/-- What `RefreshDialingStateByOtherState` does to the call that is dialed
    (call_status_manager.cpp:2887-2905): a call with an index of its own is found without it. -/
def refreshDialingStateByOtherState (env : StatusEnv) (t : TimedCall) (r : Report) : TimedCall :=
  if t.IsPending then t.updateDialingCallInfo env r else t

/-- `RefreshOldCall` (call_status_manager.cpp:2793-2818). -/
def refreshOldCall (env : StatusEnv) (t : TimedCall) (r : Report) : TimedCall :=
  let oldCallType := t.base.callType
  let videoState := t.base.videoState
  if oldCallType ≠ r.info.callType ∨ t.base.callState ≠ r.info.state ∨
      videoState ≠ r.info.callMode then
    let t := t.refreshCallIfNecessary env r
    if oldCallType ≠ r.info.callType ∨ videoState ≠ r.info.callMode then
      t.setTelCallState r.clock r.info.state
    else t
  else t

/-- What the handlers do to the stored call that a report is about
    (call_status_manager.cpp:502-547, 959-1066, 1359-1449, 1475-1534). A call without an index
    is only found by those that look for it. -/
def handle (env : StatusEnv) (t : TimedCall) (r : Report) : TimedCall :=
  match r.info.state with
  | .dialing => t.updateDialingCallInfo env r
  | .incoming | .waiting => if t.IsPending then t else t.refreshOldCall env r
  | .alerting =>
    let t := t.refreshDialingStateByOtherState env r
    if t.base.callState = .disconnecting then t
    else (t.refreshCallIfNecessary env r).setTelCallState r.clock .alerting
  | .active =>
    let t := t.refreshDialingStateByOtherState env r
    (t.refreshCallIfNecessary env r).setTelCallState r.clock .active
  | .holding =>
    if t.IsPending then t
    else (t.refreshCallIfNecessary env r).setTelCallState r.clock .holding
  | .disconnecting =>
    if t.IsPending then t
    else (t.refreshCallIfNecessary env r).setTelCallState r.clock .disconnecting
  | .disconnected =>
    let t := t.refreshDialingStateByOtherState env r
    (t.refreshCallIfNecessary env r).setTelCallState r.clock .disconnected
  | .unknown | .idle | .answered => t

/-- `CreateNewCall` with the first `UpdateCallState` (call_status_manager.cpp:511-562, 959-999). -/
def create (env : StatusEnv) (r : Report) : TimedCall :=
  setTelCallState
    ⟨(CallBase.newCall env r.info 0).getD default, CallHistory.created r.clock r.info, []⟩
    r.clock r.info.state

end TimedCall

/-- The reports of a call, the first and the last one apart. It begins with a dial, which has no
    index yet, or with an incoming report; a dial that fails, whose last report has the index 0,
    and a call that is created on the sink are left out. The clock is taken to be monotone, and
    a life to be shorter than 2^32 seconds. -/
structure Life where
  first : Report
  reports : List Report
  last : Report
  first_state : first.info.state = .dialing ∨
    (first.info.state = .incoming ∨ first.info.state = .waiting) ∧ 0 < first.info.index
  last_state : last.info.state = .disconnected
  goes_on : ∀ r ∈ reports, r.info.state ≠ .disconnected
  index_pos : ∀ r ∈ reports ++ [last], 0 < r.info.index
  positive : 0 < first.time
  in_order : (first :: reports ++ [last]).Pairwise fun a b => a.time ≤ b.time
  short : last.time - first.time < 2 ^ 32

/-- The object when the call is over. -/
def Life.ended (env : StatusEnv) (life : Life) : TimedCall :=
  Run.run (TimedCall.handle env) (.create env life.first) (life.reports ++ [life.last])

/-! ## Specification -/

/-- A call in this state rings, here or at the other end. -/
def IsRing (s : TelCallState) : Bool := s = .incoming ∨ s = .waiting ∨ s = .alerting

/-- A call in this state is over, or soon will be. -/
def IsEnd (s : TelCallState) : Bool := s = .disconnecting ∨ s = .disconnected

/-- The first time that the call was active. -/
def answeredAt (came : List (TelCallState × ℤ)) : Option ℤ := firstTime (· = .active) came

/-- The last time that it was disconnected. -/
def endedAt (came : List (TelCallState × ℤ)) : Option ℤ := lastTime (· = .disconnected) came

/-- When it stopped ringing. -/
def stoppedAt (came : List (TelCallState × ℤ)) : Option ℤ :=
  (answeredAt came).or (firstTime IsEnd came)

/-- The seconds from one time to another: none if one of them is missing or they are not in
    order. -/
def seconds : Option ℤ → Option ℤ → ℕ
  | some a, some b => (b - a).toNat
  | _, _ => 0

/-- The seconds that the call was talked. -/
def talked (came : List (TelCallState × ℤ)) : ℕ := seconds (answeredAt came) (endedAt came)

/-- The seconds that it rang. -/
def rung (came : List (TelCallState × ℤ)) : ℕ := seconds (firstTime IsRing came) (stoppedAt came)

/-- What an object has written down of the states that it came into. -/
structure Tells (came : List (TelCallState × ℤ)) (h : CallHistory) : Prop where
  positive : ∀ time ∈ came.map (·.2), 0 < time
  callBegin : h.callBeginTime = (answeredAt came).getD 0
  callEnd : h.callEndTime = (endedAt came).getD 0
  ringBegin : h.ringBeginTime = (lastTime IsRing came).getD 0
  ringEnd : h.ringEndTime = (stoppedAt came).getD 0

/-- The report makes the call ring: its object is replaced while it rings, or the call
    comes to ring by the report. -/
def MakesRing (t : TimedCall) (r : Report) : Prop :=
  IsRing t.base.callState ∧ t.base.callType ≠ r.info.callType ∧
      t.base.callState ≠ r.info.state ∨
    r.info.state = .alerting ∧ t.base.callState ≠ .alerting ∧ t.base.callState ≠ .disconnecting ∨
    (r.info.state = .incoming ∨ r.info.state = .waiting) ∧ ¬ t.IsPending ∧
      t.base.callState ≠ r.info.state ∧
      (t.base.callType ≠ r.info.callType ∨ t.base.videoState ≠ r.info.callMode)

instance (t : TimedCall) (r : Report) : Decidable (MakesRing t r) :=
  inferInstanceAs (Decidable (_ ∨ _))

/-- If the report makes the call ring, then at the time at which it began to ring, and not
    after it has stopped at `stop`. -/
def RingsInTime (stop : ℤ) (t : TimedCall) (r : Report) : Prop :=
  MakesRing t r →
    (t.history.ringBeginTime ≠ 0 → r.time = t.history.ringBeginTime) ∧ r.time ≤ stop

instance (stop : ℤ) (t : TimedCall) (r : Report) : Decidable (RingsInTime stop t r) :=
  inferInstanceAs (Decidable (_ → _))

/-- The durations that `CopyCallInfoToRecord` gives the record. -/
def recordedDurations (h : CallHistory) : Option ℕ × Option ℕ :=
  (durationField h.callBeginTime h.callEndTime, durationField h.ringBeginTime h.ringEndTime)

/-! ## Coming into a state -/

section Came

variable {came : List (TelCallState × ℤ)} {h : CallHistory} {clock : Clock}

theorem stateChangesTo_callBeginTime (c : CallBase) (s : TelCallState) :
    (h.stateChangesTo clock c s).callBeginTime =
      if s = .active ∧ h.callBeginTime = 0 then clock.time else h.callBeginTime := by
  cases s <;> simp [CallHistory.stateChangesTo]
  split_ifs <;> rfl

theorem stateChangesTo_callEndTime (c : CallBase) (s : TelCallState) :
    (h.stateChangesTo clock c s).callEndTime =
      if s = .disconnected then clock.time else h.callEndTime := by
  cases s <;> simp [CallHistory.stateChangesTo]
  split_ifs <;> rfl

theorem stateChangesTo_ringBeginTime (c : CallBase) (s : TelCallState) :
    (h.stateChangesTo clock c s).ringBeginTime =
      if IsRing s then clock.time else h.ringBeginTime := by
  cases s <;> simp [CallHistory.stateChangesTo, IsRing]
  split_ifs <;> rfl

theorem stateChangesTo_ringEndTime (c : CallBase) (s : TelCallState) :
    (h.stateChangesTo clock c s).ringEndTime =
      if s = .active ∧ h.callBeginTime = 0 ∨ IsEnd s ∧ h.ringEndTime = 0 then clock.time
      else h.ringEndTime := by
  cases s <;> simp [CallHistory.stateChangesTo, IsEnd]
  split_ifs <;> rfl

theorem mem_of_stoppedAt {x : ℤ} (hx : stoppedAt came = some x) : x ∈ came.map (·.2) := by
  rcases Option.or_eq_some_iff.mp hx with hx | ⟨-, hx⟩
  · exact mem_of_firstTime hx
  · exact mem_of_firstTime hx

/-- A time of the states is not the zero that stands for none. -/
theorem getD_eq_zero_iff (hpos : ∀ time ∈ came.map (·.2), (0 : ℤ) < time) {o : Option ℤ}
    (ho : ∀ x, o = some x → x ∈ came.map (·.2)) : o.getD 0 = 0 ↔ o = none := by
  cases o with
  | none => simp
  | some x =>
    have hx := hpos x (ho x rfl)
    simp
    omega

/-- Coming into a state, an object writes down what is true of the states it came into. -/
theorem Tells.come (ht : Tells came h) (hpos : 0 < clock.time) (c : CallBase)
    (s : TelCallState) : Tells (came ++ [(s, clock.time)]) (h.stateChangesTo clock c s) := by
  have hbegin : h.callBeginTime = 0 ↔ answeredAt came = none := by
    rw [ht.callBegin]
    exact getD_eq_zero_iff ht.positive fun _ => mem_of_firstTime
  have hend : h.ringEndTime = 0 ↔ stoppedAt came = none := by
    rw [ht.ringEnd]
    exact getD_eq_zero_iff ht.positive fun _ => mem_of_stoppedAt
  have hanswered : answeredAt (came ++ [(s, clock.time)]) =
      (answeredAt came).or (if s = .active then some clock.time else none) := by
    simp [answeredAt, firstTime_append]
  refine ⟨?_, ?_, ?_, ?_, ?_⟩
  · simpa [or_imp, forall_and, hpos] using ht.positive
  · simp only [stateChangesTo_callBeginTime, hanswered, hbegin]
    rw [ht.callBegin]
    cases answeredAt came <;> by_cases hs : s = .active <;> simp [hs]
  · rw [stateChangesTo_callEndTime, ht.callEnd, endedAt, endedAt, lastTime_append]
    by_cases hs : s = .disconnected <;> simp [hs]
  · rw [stateChangesTo_ringBeginTime, ht.ringBegin, lastTime_append]
    by_cases hs : IsRing s = true <;> simp [hs]
  · have hstopped : stoppedAt (came ++ [(s, clock.time)]) =
        (answeredAt (came ++ [(s, clock.time)])).or
          ((firstTime IsEnd came).or (if IsEnd s then some clock.time else none)) := by
      simp [stoppedAt, firstTime_append]
    simp only [stateChangesTo_ringEndTime, hstopped, hanswered, hbegin, hend]
    rw [ht.ringEnd, stoppedAt]
    cases answeredAt came with
    | some a => simp
    | none =>
      by_cases hs : s = .active
      · simp [hs]
      · cases firstTime IsEnd came <;> by_cases hover : IsEnd s = true <;> simp [hs, hover]

end Came


/-! ## What a report does to the object -/

/-- A stored object: it is not being created, its state has a handler, its number fits, and
    it has written down the states that it came into. -/
structure Kept (t : TimedCall) : Prop where
  objectType : t.base.objectType ≠ .ott
  running : t.base.callRunningState ≠ .create
  state : t.base.callState ∉ [TelCallState.unknown, .idle, .answered]
  number_le : t.base.accountNumber.utf8ByteSize ≤ maxNumberLen
  tells : Tells t.came t.history

/-- The states that a call comes into when it is given the state `s`. -/
def comesInto (c : CallBase) (s : TelCallState) : List TelCallState :=
  if c.callState = s ∧ s ≠ .dialing then [] else [s]

/-- The states that a call comes into when its object is replaced for the report. -/
def comesBack (c : CallBase) (r : Report) : List TelCallState :=
  if c.callType = r.info.callType ∨ r.info.state = c.callState ∧ c.callState ≠ .dialing then []
  else [c.callState]

/-- The states with the time of the report. -/
def Report.at (r : Report) (states : List TelCallState) : List (TelCallState × ℤ) :=
  states.map fun s => (s, r.time)

namespace TimedCall

variable {t : TimedCall} {r : Report} {s : TelCallState}

theorem came_setTelCallState (h : t.base.callRunningState ≠ .create) :
    (t.setTelCallState r.clock s).came = t.came ++ r.at (comesInto t.base s) := by
  unfold setTelCallState comesInto Report.at Report.time
  by_cases hs : t.base.callState = s ∧ s ≠ .dialing <;> simp [h, hs]

theorem tells_setTelCallState (ht : Tells t.came t.history) (hpos : 0 < r.time) :
    Tells (t.setTelCallState r.clock s).came (t.setTelCallState r.clock s).history := by
  unfold setTelCallState CallHistory.setTelCallState
  dsimp only
  split_ifs
  · exact ht
  · exact ht.come hpos _ s

theorem running_setTelCallState (c : CallBase) (h : c.callRunningState ≠ .create)
    (s : TelCallState) : (c.setTelCallState s).2.callRunningState ≠ .create := by
  unfold CallBase.setTelCallState
  split_ifs
  · exact h
  · cases s <;> first | exact h | exact nofun

theorem number_setTelCallState (c : CallBase) (s : TelCallState) :
    (c.setTelCallState s).2.accountNumber = c.accountNumber := by
  unfold CallBase.setTelCallState
  split_ifs
  · rfl
  · cases s <;> rfl

theorem index_setTelCallState (c : CallBase) (s : TelCallState) :
    (c.setTelCallState s).2.index = c.index := by
  unfold CallBase.setTelCallState
  split_ifs
  · rfl
  · cases s <;> rfl

end TimedCall

/-- The object `t'` is what a report makes of `t` that comes into `states`. -/
structure Becomes (r : Report) (t : TimedCall) (states : List TelCallState) (t' : TimedCall) :
    Prop where
  kept : Kept t'
  came : t'.came = t.came ++ r.at states

section Becomes

variable {t t' t'' : TimedCall} {r : Report} {s : TelCallState}
  {states states' : List TelCallState}

theorem Kept.becomes (h : Kept t) : Becomes r t [] t := ⟨h, by simp [Report.at]⟩

theorem Becomes.trans (h : Becomes r t states t') (h' : Becomes r t' states' t'') :
    Becomes r t (states ++ states') t'' :=
  ⟨h'.kept, by simp [h'.came, h.came, Report.at]⟩

theorem Kept.setTelCallState (h : Kept t) (hs : s ∉ [TelCallState.unknown, .idle, .answered])
    (hpos : 0 < r.time) :
    Becomes r t (comesInto t.base s) (t.setTelCallState r.clock s) where
  kept :=
    { objectType := by
        simpa [TimedCall.setTelCallState, CallBase.setTelCallState_objectType] using h.objectType
      running := TimedCall.running_setTelCallState _ h.running s
      state := by simpa [TimedCall.setTelCallState] using hs
      number_le := by
        simpa [TimedCall.setTelCallState, TimedCall.number_setTelCallState] using h.number_le
      tells := TimedCall.tells_setTelCallState h.tells hpos }
  came := TimedCall.came_setTelCallState h.running

/-- The new object of a report of a carrier call. -/
theorem exists_newCall (env : StatusEnv) (r : Report) (callId : ℤ) :
    ∃ n, CallBase.newCall env r.info callId = some n ∧ n.callState = r.info.state ∧
      n.callType = r.info.callType ∧ n.objectType ≠ .ott ∧
      n.accountNumber = r.info.phoneNum ∧ n.index = r.info.index ∧
      n.callRunningState = .create := by
  have herr : r.info.callType ≠ .errCall := fun h => by simpa [h] using r.carrier
  have hott : r.info.callType ≠ .ott := fun h => by simpa [h] using r.carrier
  unfold CallBase.newCall
  rw [if_neg herr]
  exact ⟨_, rfl, rfl, rfl, hott, rfl, if_neg hott, rfl⟩

/-- The new object comes into the state of the old one, unless the report has it. -/
theorem Kept.refreshCall (h : Kept t) (env : StatusEnv) (hpos : 0 < r.time)
    (hne : t.base.callType ≠ r.info.callType) :
    Becomes r t (comesBack t.base r) (t.refreshCall env r) ∧
      (t.refreshCall env r).base.callState = t.base.callState ∧
      (t.refreshCall env r).base.callType = r.info.callType ∧
      (t.refreshCall env r).base.index = r.info.index := by
  obtain ⟨n, hn, hstate, htype, hott, hnumber, hindex, -⟩ := exists_newCall env r t.base.callId
  let base : CallBase :=
    { n with
      callRunningState := t.base.callRunningState
      conferenceState := t.base.conferenceState }
  have hnew : Kept ⟨base, t.history, t.came⟩ :=
    { objectType := hott
      running := h.running
      state := by simpa [base, hstate] using r.state
      number_le := by simpa [base, hnumber] using r.number_le
      tells := h.tells }
  have hset := hnew.setTelCallState h.state hpos
  have hcomes : comesInto base t.base.callState = comesBack t.base r := by
    simp [comesInto, comesBack, base, hstate, hne]
  have hrefresh : t.refreshCall env r =
      TimedCall.setTelCallState ⟨base, t.history, t.came⟩ r.clock t.base.callState := by
    unfold TimedCall.refreshCall
    rw [hn]
    dsimp only
    rw [CallHistory.copy_created h.number_le]
  rw [hrefresh]
  refine ⟨⟨hset.kept, ?_⟩, ?_, ?_, ?_⟩
  · rw [← hcomes]
    exact hset.came
  · simp [TimedCall.setTelCallState]
  · simp [TimedCall.setTelCallState, base, htype]
  · simp [TimedCall.setTelCallState, TimedCall.index_setTelCallState, base, hindex]

theorem Kept.refreshCallIfNecessary (h : Kept t) (env : StatusEnv) (hpos : 0 < r.time) :
    Becomes r t (comesBack t.base r) (t.refreshCallIfNecessary env r) ∧
      (t.refreshCallIfNecessary env r).base.callState = t.base.callState ∧
      (t.refreshCallIfNecessary env r).base.callType = r.info.callType ∧
      ((t.refreshCallIfNecessary env r).base.index = t.base.index ∨
        (t.refreshCallIfNecessary env r).base.index = r.info.index) := by
  obtain ⟨videoState, hbase⟩ := t.base.refreshVideoState_eq r.info
  have hkept : Kept { t with base := { t.base with videoState := videoState } } :=
    ⟨h.objectType, h.running, h.state, h.number_le, h.tells⟩
  unfold TimedCall.refreshCallIfNecessary
  rw [hbase]
  dsimp only
  split_ifs with htype
  · have hnone : comesBack t.base r = [] := if_pos (.inl htype)
    rw [hnone]
    exact ⟨⟨hkept, by simp [Report.at]⟩, rfl, htype, .inl rfl⟩
  · obtain ⟨hbecomes, hstate, htype', hindex⟩ := hkept.refreshCall env hpos htype
    exact ⟨⟨hbecomes.kept, hbecomes.came⟩, hstate, htype', .inr hindex⟩

/-- The object of `RefreshCall` in the store has the state, the type and the times of the
    one here. -/
theorem refreshCall_stored {w : RefreshWorld} {call : Ref} {before after : List Ref}
    (env : StatusEnv) (h : w.Sound)
    (hlist : w.status.store.callObjectPtrList = before ++ call :: after)
    (hbefore : ∀ it ∈ before, (w.status.object it).callId ≠ (w.status.object call).callId)
    (hcall : w.status.heap call = some t.base) (hhistory : w.history call = t.history) :
    let refreshed := w.refreshCall .restored env r.clock call r.info
    (refreshed.2.status.object refreshed.1).callState = (t.refreshCall env r).base.callState ∧
      (refreshed.2.status.object refreshed.1).callType = (t.refreshCall env r).base.callType ∧
      refreshed.2.history refreshed.1 = (t.refreshCall env r).history := by
  have herr : r.info.callType ≠ .errCall := fun h => by simpa [h] using r.carrier
  have hnumber : t.base.accountNumber.utf8ByteSize ≤ maxNumberLen := by
    obtain ⟨-, c, hc, hle⟩ := h.live call (by simp [hlist])
    rw [hcall, Option.some.injEq] at hc
    rwa [hc]
  obtain ⟨n, hn, href, hleaves⟩ := RefreshWorld.refreshCall_leaves env r.clock h hlist hbefore
    hcall herr
  obtain ⟨n', hn', hstate, htype, -, -, -, -⟩ := exists_newCall env r t.base.callId
  intro refreshed
  have hobject : refreshed.2.status.object refreshed.1 =
      (n.setTelCallState t.base.callState).2 := by
    show StatusWorld.object _ _ = _
    rw [href]
    exact StatusWorld.object_eq hleaves.heap
  have htimes : refreshed.2.history refreshed.1 =
      t.history.setTelCallState r.clock n t.base.callState := by
    show RefreshWorld.history _ _ = _
    rw [href, hleaves.history, hhistory]
  have hrefresh : t.refreshCall env r = TimedCall.setTelCallState
      ⟨{ n' with
          callRunningState := t.base.callRunningState
          conferenceState := t.base.conferenceState }, t.history, t.came⟩
      r.clock t.base.callState := by
    unfold TimedCall.refreshCall
    rw [hn']
    dsimp only
    rw [CallHistory.copy_created hnumber]
  rw [hobject, htimes, hrefresh]
  refine ⟨?_, ?_, ?_⟩
  · simp [TimedCall.setTelCallState]
  · simp [TimedCall.setTelCallState, hn.callType, htype]
  · unfold TimedCall.setTelCallState CallHistory.setTelCallState
    dsimp only
    rw [hn.callRunningState, hn.callState, hstate]
    split_ifs
    · rfl
    · cases t.base.callState <;>
        simp [CallHistory.stateChangesTo, hn.callType, htype]

/-- The fields of the call that `UpdateDialingCallInfo` adopts. -/
theorem adopt_fields (c : CallBase) (info : CallDetailInfo) (oriNum : String)
    (hott : c.objectType ≠ .ott) :
    (c.adopt { info with state := .dialing } oriNum).callState = .dialing ∧
      (c.adopt { info with state := .dialing } oriNum).callRunningState = .dialing ∧
      (c.adopt { info with state := .dialing } oriNum).callType = info.callType ∧
      (c.adopt { info with state := .dialing } oriNum).objectType = c.objectType ∧
      (c.adopt { info with state := .dialing } oriNum).accountNumber = oriNum ∧
      (c.adopt { info with state := .dialing } oriNum).index = info.index := by
  simp [CallBase.adopt, CallBase.setTelCallState, CallBase.stateChangesTo, hott]

/-- The call that is dialed gets the index of the report. -/
theorem Kept.updateDialingCallInfo (h : Kept t) (env : StatusEnv) (hpos : 0 < r.time)
    (hpending : t.IsPending) :
    Becomes r t (comesBack t.base r ++ [.dialing]) (t.updateDialingCallInfo env r) ∧
      (t.updateDialingCallInfo env r).base.callState = .dialing ∧
      (t.updateDialingCallInfo env r).base.callType = r.info.callType ∧
      (t.updateDialingCallInfo env r).base.index = r.info.index := by
  obtain ⟨hbecomes, -, -, -⟩ := h.refreshCallIfNecessary env hpos
  unfold TimedCall.updateDialingCallInfo
  rw [if_pos hpending]
  dsimp only
  generalize t.refreshCallIfNecessary env r = t' at hbecomes ⊢
  obtain ⟨hstate, hrunning, htype, hobject, hnumber, hindex⟩ :=
    adopt_fields t'.base r.info t.base.accountNumber hbecomes.kept.objectType
  have hset := hbecomes.trans (hbecomes.kept.setTelCallState (s := .dialing) (by simp) hpos)
  refine ⟨⟨⟨?_, ?_, ?_, ?_, hset.kept.tells⟩, ?_⟩, hstate, htype, hindex⟩
  · rw [hobject]
    exact hbecomes.kept.objectType
  · rw [hrunning]
    exact nofun
  · rw [hstate]
    simp
  · rw [hnumber]
    exact h.number_le
  · simpa [comesInto] using hset.came

/-! ## One report -/

/-- A stored object whose call goes on: a call without an index is being dialed. -/
structure Living (t : TimedCall) : Prop extends Kept t where
  pending : t.IsPending → t.base.callState = .dialing
  goes_on : t.base.callState ≠ .disconnected

/-- The report made `t'` of `t`. -/
structure Handled (r : Report) (t t' : TimedCall) : Prop where
  kept : Kept t'
  came : ∃ states, t'.came = t.came ++ r.at states ∧
    ((∃ s ∈ states, IsRing s = true) ↔ MakesRing t r) ∧
    (TelCallState.disconnected ∈ states ↔ r.info.state = .disconnected)
  living : r.info.state ≠ .disconnected → Living t'

theorem mem_comesBack : s ∈ comesBack t.base r ↔
    s = t.base.callState ∧ t.base.callType ≠ r.info.callType ∧
      (r.info.state = t.base.callState → t.base.callState = .dialing) := by
  unfold comesBack
  split_ifs with h
  · simp
    tauto
  · simp
    tauto

/-- The object is replaced, if it has to be, and the call comes into the state `s`. -/
theorem Kept.arrive (h : Kept t) (env : StatusEnv) (hpos : 0 < r.time) (hindex : 0 < r.info.index)
    (hnot : ¬ t.IsPending) (hs : s ∉ [TelCallState.unknown, .idle, .answered, .dialing]) :
    ∃ states, Becomes r t states ((t.refreshCallIfNecessary env r).setTelCallState r.clock s) ∧
      ¬ ((t.refreshCallIfNecessary env r).setTelCallState r.clock s).IsPending ∧
      ∀ x, x ∈ states ↔ x ∈ comesBack t.base r ∨ x = s ∧ t.base.callState ≠ s := by
  obtain ⟨hbecomes, hstate, -, hindex'⟩ := h.refreshCallIfNecessary env hpos
  generalize t.refreshCallIfNecessary env r = t' at hbecomes hstate hindex' ⊢
  have hset := hbecomes.trans (hbecomes.kept.setTelCallState (s := s) (by simp_all) hpos)
  refine ⟨_, hset, ?_, fun x => ?_⟩
  · show ¬ ((t'.base.setTelCallState s).2.index = 0)
    rw [TimedCall.index_setTelCallState]
    rcases hindex' with heq | heq
    · rw [heq]
      exact hnot
    · omega
  · have hdialing : s ≠ .dialing := by rintro rfl; simp at hs
    rw [List.mem_append, comesInto, hstate]
    by_cases heq : t.base.callState = s <;> simp [heq, hdialing]

/-- The same of a report that the call that is dialed is looked for. -/
theorem Living.arrive (h : Living t) (env : StatusEnv) (hpos : 0 < r.time)
    (hindex : 0 < r.info.index) (hs : s ∉ [TelCallState.unknown, .idle, .answered, .dialing]) :
    let t₁ := t.refreshDialingStateByOtherState env r
    ∃ states, Becomes r t states ((t₁.refreshCallIfNecessary env r).setTelCallState r.clock s) ∧
      ¬ ((t₁.refreshCallIfNecessary env r).setTelCallState r.clock s).IsPending ∧
      ∀ x, x ∈ states ↔
        x ∈ comesBack t.base r ∨ x = s ∧ t.base.callState ≠ s ∨ t.IsPending ∧ x = .dialing := by
  unfold TimedCall.refreshDialingStateByOtherState
  by_cases hpending : t.IsPending
  · obtain ⟨hbecomes, hstate, htype, hindex'⟩ := h.updateDialingCallInfo env hpos hpending
    dsimp only
    rw [if_pos hpending]
    generalize t.updateDialingCallInfo env r = t' at hbecomes hstate htype hindex' ⊢
    have hnot : ¬ t'.IsPending := by
      show ¬ (t'.base.index = 0)
      omega
    obtain ⟨states, hthen, hnot', hmem⟩ := hbecomes.kept.arrive env hpos hindex hnot hs
    refine ⟨_, hbecomes.trans hthen, hnot', fun x => ?_⟩
    have hback : comesBack t'.base r = [] := if_pos (.inl htype)
    have hdialing := h.pending hpending
    have hne : s ≠ .dialing := by rintro rfl; simp at hs
    rw [List.mem_append, hmem x, hback, hstate, hdialing]
    simp [hpending, hne.symm]
    tauto
  · dsimp only
    rw [if_neg hpending]
    obtain ⟨states, hbecomes, hnot, hmem⟩ := h.toKept.arrive env hpos hindex hpending hs
    exact ⟨states, hbecomes, hnot, fun x => by rw [hmem x]; simp [hpending]⟩

/-- The first of the ways in which a report makes a call ring. -/
theorem exists_isRing_comesBack : (∃ x ∈ comesBack t.base r, IsRing x = true) ↔
    IsRing t.base.callState ∧ t.base.callType ≠ r.info.callType ∧
      t.base.callState ≠ r.info.state := by
  simp only [mem_comesBack]
  constructor
  · rintro ⟨x, ⟨rfl, htype, hsame⟩, hring⟩
    refine ⟨hring, htype, fun heq => ?_⟩
    rw [hsame heq.symm] at hring
    exact absurd hring (by decide)
  · rintro ⟨hring, htype, hne⟩
    exact ⟨_, ⟨rfl, htype, fun heq => absurd heq.symm hne⟩, hring⟩

/-- A report that gives the call the state `s`, from the states that it comes into. -/
theorem Living.handled_of_mem (h : Living t) (hbecomes : Becomes r t states t')
    (hnot : ¬ t'.IsPending) (hstate : t'.base.callState = s) (hinfo : r.info.state = s)
    (hring : MakesRing t r ↔ (IsRing t.base.callState ∧ t.base.callType ≠ r.info.callType ∧
      t.base.callState ≠ r.info.state) ∨ IsRing s ∧ t.base.callState ≠ s)
    (hmem : ∀ x, x ∈ states ↔
      x ∈ comesBack t.base r ∨ x = s ∧ t.base.callState ≠ s ∨ t.IsPending ∧ x = .dialing) :
    Handled r t t' := by
  refine ⟨hbecomes.kept, ⟨states, hbecomes.came, ?_, ?_⟩, fun hne => ?_⟩
  · rw [hring, ← exists_isRing_comesBack]
    constructor
    · rintro ⟨x, hx, hxring⟩
      rcases (hmem x).mp hx with hx | ⟨rfl, hne⟩ | ⟨-, rfl⟩
      · exact .inl ⟨x, hx, hxring⟩
      · exact .inr ⟨hxring, hne⟩
      · exact absurd hxring (by decide)
    · rintro (⟨x, hx, hxring⟩ | ⟨hxring, hne⟩)
      · exact ⟨x, (hmem x).mpr (.inl hx), hxring⟩
      · exact ⟨s, (hmem s).mpr (.inr (.inl ⟨rfl, hne⟩)), hxring⟩
  · rw [hmem, hinfo]
    constructor
    · rintro (hback | ⟨heq, -⟩ | ⟨-, heq⟩)
      · exact absurd (mem_comesBack.mp hback).1.symm h.goes_on
      · exact heq.symm
      · exact absurd heq (by decide)
    · rintro rfl
      exact .inr (.inl ⟨rfl, h.goes_on⟩)
  · exact ⟨hbecomes.kept, fun hpending => absurd hpending hnot, by rwa [hstate, ← hinfo]⟩

/-- A report that leaves the call as it is. -/
theorem Living.handled_nothing (h : Living t) (hne : r.info.state ≠ .disconnected)
    (hring : ¬ MakesRing t r) : Handled r t t :=
  ⟨h.toKept, ⟨[], h.toKept.becomes.came, by simp [hring], by simp [hne]⟩, fun _ => h⟩

/-- The object is replaced, if it has to be, and nothing else. -/
theorem Living.handled_refresh (h : Living t) (env : StatusEnv) (hpos : 0 < r.time)
    (hindex : 0 < r.info.index) (hnot : ¬ t.IsPending) (hne : r.info.state ≠ .disconnected)
    (hring : MakesRing t r ↔ IsRing t.base.callState ∧ t.base.callType ≠ r.info.callType ∧
      t.base.callState ≠ r.info.state) :
    Handled r t (t.refreshCallIfNecessary env r) := by
  obtain ⟨hbecomes, hstate, -, hindex'⟩ := h.refreshCallIfNecessary env hpos
  have hnot' : ¬ (t.refreshCallIfNecessary env r).IsPending := by
    show ¬ ((t.refreshCallIfNecessary env r).base.index = 0)
    rcases hindex' with heq | heq
    · rw [heq]
      exact hnot
    · omega
  refine ⟨hbecomes.kept, ⟨_, hbecomes.came, ?_, ?_⟩, fun _ => ⟨hbecomes.kept, ?_, ?_⟩⟩
  · rw [exists_isRing_comesBack, hring]
  · rw [iff_false_right hne]
    exact fun hback => h.goes_on (mem_comesBack.mp hback).1.symm
  · exact fun hpending => absurd hpending hnot'
  · rw [hstate]
    exact h.goes_on

/-- A report that a stored call comes in, or waits: it only counts if it has another type or
    another mode. -/
theorem Living.refreshOldCall (h : Living t) (env : StatusEnv) (hpos : 0 < r.time)
    (hindex : 0 < r.info.index) (hnot : ¬ t.IsPending)
    (hinfo : r.info.state = .incoming ∨ r.info.state = .waiting) :
    Handled r t (t.refreshOldCall env r) := by
  have hring : IsRing r.info.state = true := by
    rcases hinfo with hinfo | hinfo <;> rw [hinfo] <;> rfl
  have hne : r.info.state ≠ .disconnected := by rcases hinfo with hinfo | hinfo <;> simp [hinfo]
  have hmakes : MakesRing t r ↔ (IsRing t.base.callState ∧ t.base.callType ≠ r.info.callType ∧
      t.base.callState ≠ r.info.state) ∨ t.base.callState ≠ r.info.state ∧
        (t.base.callType ≠ r.info.callType ∨ t.base.videoState ≠ r.info.callMode) := by
    have halert : r.info.state ≠ .alerting := by rcases hinfo with hinfo | hinfo <;> simp [hinfo]
    simp [MakesRing, hinfo, hnot, halert]
  unfold TimedCall.refreshOldCall
  dsimp only
  split_ifs with hchanged hother
  · obtain ⟨states, hbecomes, hnot', hmem⟩ := h.toKept.arrive (s := r.info.state) env hpos hindex
      hnot (by rcases hinfo with hinfo | hinfo <;> simp [hinfo])
    refine h.handled_of_mem hbecomes hnot' (by simp [TimedCall.setTelCallState]) rfl ?_
      (by simpa [hnot] using hmem)
    rw [hmakes]
    simp [hring, hother]
  · refine h.handled_refresh env hpos hindex hnot hne ?_
    rw [hmakes]
    simp [hother]
  · refine h.handled_nothing hne ?_
    rw [hmakes]
    tauto

/-- What the handlers make of a call that goes on. -/
theorem Living.handle (h : Living t) (env : StatusEnv) (hpos : 0 < r.time)
    (hindex : 0 < r.info.index) : Handled r t (t.handle env r) := by
  have hpending_ring : t.IsPending → IsRing t.base.callState = false := by
    intro hpending
    rw [h.pending hpending]
    rfl
  unfold TimedCall.handle
  split
  case _ hinfo => -- DIALING
    by_cases hpending : t.IsPending
    · obtain ⟨hbecomes, hstate, -, hindex'⟩ := h.updateDialingCallInfo env hpos hpending
      have hback : ∀ x ∈ comesBack t.base r ++ [.dialing], x = .dialing := by
        simp [mem_comesBack, h.pending hpending]
        tauto
      refine ⟨hbecomes.kept, ⟨_, hbecomes.came, ?_, ?_⟩,
        fun _ => ⟨hbecomes.kept, fun _ => hstate, ?_⟩⟩
      · have hnever : ¬ MakesRing t r := by simp [MakesRing, hinfo, hpending_ring hpending]
        rw [iff_false_right hnever]
        rintro ⟨x, hx, hring⟩
        rw [hback x hx] at hring
        exact absurd hring (by decide)
      · rw [hinfo, iff_false_right (by decide)]
        exact fun hx => absurd (hback _ hx) (by decide)
      · rw [hstate]
        decide
    · unfold TimedCall.updateDialingCallInfo
      rw [if_neg hpending]
      exact h.handled_refresh env hpos hindex hpending (by simp [hinfo])
        (by simp [MakesRing, hinfo])
  case _ hinfo => -- INCOMING
    split_ifs with hpending
    · exact h.handled_nothing (by simp [hinfo])
        (by simp [MakesRing, hinfo, hpending, hpending_ring hpending])
    · exact h.refreshOldCall env hpos hindex hpending (.inl hinfo)
  case _ hinfo => -- WAITING
    split_ifs with hpending
    · exact h.handled_nothing (by simp [hinfo])
        (by simp [MakesRing, hinfo, hpending, hpending_ring hpending])
    · exact h.refreshOldCall env hpos hindex hpending (.inr hinfo)
  case _ hinfo => -- ALERTING
    obtain ⟨states, hbecomes, hnot, hmem⟩ := h.arrive (s := .alerting) env hpos hindex (by simp)
    have hsame : (t.refreshDialingStateByOtherState env r).base.callState = .disconnecting ↔
        t.base.callState = .disconnecting := by
      unfold TimedCall.refreshDialingStateByOtherState
      split_ifs with hpending
      · obtain ⟨-, hstate, -⟩ := h.updateDialingCallInfo env hpos hpending
        rw [hstate, h.pending hpending]
      · rfl
    dsimp only
    split_ifs with hover
    · have hstate := hsame.mp hover
      have hnot' : ¬ t.IsPending := fun hpending => by simp [h.pending hpending] at hstate
      unfold TimedCall.refreshDialingStateByOtherState
      rw [if_neg hnot']
      exact h.handled_nothing (by simp [hinfo]) (by simp [MakesRing, hinfo, hstate, IsRing])
    · refine h.handled_of_mem hbecomes hnot (by simp [TimedCall.setTelCallState]) hinfo ?_ hmem
      simp [MakesRing, hinfo, IsRing, mt hsame.mpr hover]
  case _ hinfo => -- ACTIVE
    obtain ⟨states, hbecomes, hnot, hmem⟩ := h.arrive (s := .active) env hpos hindex (by simp)
    exact h.handled_of_mem hbecomes hnot (by simp [TimedCall.setTelCallState]) hinfo
      (by simp [MakesRing, hinfo, IsRing]) hmem
  case _ hinfo => -- HOLDING
    split_ifs with hpending
    · exact h.handled_nothing (by simp [hinfo]) (by simp [MakesRing, hinfo, hpending_ring hpending])
    · obtain ⟨states, hbecomes, hnot, hmem⟩ :=
        h.toKept.arrive (s := .holding) env hpos hindex hpending (by simp)
      exact h.handled_of_mem hbecomes hnot (by simp [TimedCall.setTelCallState]) hinfo
        (by simp [MakesRing, hinfo, IsRing]) (by simpa [hpending] using hmem)
  case _ hinfo => -- DISCONNECTING
    split_ifs with hpending
    · exact h.handled_nothing (by simp [hinfo]) (by simp [MakesRing, hinfo, hpending_ring hpending])
    · obtain ⟨states, hbecomes, hnot, hmem⟩ :=
        h.toKept.arrive (s := .disconnecting) env hpos hindex hpending (by simp)
      exact h.handled_of_mem hbecomes hnot (by simp [TimedCall.setTelCallState]) hinfo
        (by simp [MakesRing, hinfo, IsRing]) (by simpa [hpending] using hmem)
  case _ hinfo => -- DISCONNECTED
    obtain ⟨states, hbecomes, hnot, hmem⟩ :=
      h.arrive (s := .disconnected) env hpos hindex (by simp)
    exact h.handled_of_mem hbecomes hnot (by simp [TimedCall.setTelCallState]) hinfo
      (by simp [MakesRing, hinfo, IsRing]) hmem
  all_goals
    rename_i hinfo
    exact absurd r.state (by simp [hinfo])

end Becomes


/-! ## A life -/

section Life

variable {t t' : TimedCall} {r : Report} {env : StatusEnv} {stop : ℤ}

theorem tells_created (clock : Clock) (info : CallDetailInfo) :
    Tells [] (CallHistory.created clock info) := by
  constructor <;> simp [CallHistory.created, CallHistory.zero, answeredAt, endedAt, stoppedAt,
    firstTime, lastTime]

/-- The first report creates a call that goes on, and that is in its state. -/
theorem living_create (env : StatusEnv) (hpos : 0 < r.time)
    (hstate : r.info.state = .dialing ∨
      (r.info.state = .incoming ∨ r.info.state = .waiting) ∧ 0 < r.info.index) :
    Living (.create env r) ∧ (TimedCall.create env r).came = [(r.info.state, r.time)] := by
  obtain ⟨n, hn, -, -, hott, hnumber, hindex, hcreate⟩ := exists_newCall env r 0
  have hnew : (n.setTelCallState r.info.state).2 =
      { n with callState := r.info.state }.stateChangesTo r.info.state := by
    simp [CallBase.setTelCallState, hcreate]
  have htells := (tells_created r.clock r.info).come hpos n r.info.state
  unfold TimedCall.create TimedCall.setTelCallState CallHistory.setTelCallState
  simp only [hn, Option.getD_some, hnew, hcreate, ne_eq, not_true_eq_false, false_and, if_false]
  refine ⟨⟨⟨?_, ?_, ?_, ?_, htells⟩, ?_, ?_⟩, rfl⟩
  · rcases hstate with hs | ⟨hs | hs, -⟩ <;> simp [hs, CallBase.stateChangesTo, hott]
  · rcases hstate with hs | ⟨hs | hs, -⟩ <;> simp [hs, CallBase.stateChangesTo]
  · rcases hstate with hs | ⟨hs | hs, -⟩ <;> simp [hs]
  · have hle := r.number_le
    rcases hstate with hs | ⟨hs | hs, -⟩ <;> simpa [hs, CallBase.stateChangesTo, hnumber] using hle
  · intro hpending
    rcases hstate with hs | ⟨hs, hpos'⟩
    · simp [hs]
    · have hzero : n.index = StatusWorld.initIndex := by
        rcases hs with hs | hs <;>
          simpa [hs, CallBase.stateChangesTo, TimedCall.IsPending] using hpending
      rw [StatusWorld.initIndex] at hzero
      omega
  · rcases hstate with hs | ⟨hs | hs, -⟩ <;> simp [hs]

/-- The times of the states are in order, none is before `lo` and none after a report that
    is still to come. -/
structure Timely (lo : ℤ) (toCome : List Report) (t : TimedCall) : Prop where
  sorted : (t.came.map (·.2)).Pairwise (· ≤ ·)
  ge : ∀ x ∈ t.came.map (·.2), lo ≤ x
  le : ∀ x ∈ t.came.map (·.2), ∀ r ∈ toCome, x ≤ r.time

theorem Timely.handled {lo : ℤ} {toCome : List Report} (h : Timely lo (r :: toCome) t)
    (hlo : lo ≤ r.time) (hle : ∀ r' ∈ toCome, r.time ≤ r'.time) (hr : Handled r t t') :
    Timely lo toCome t' := by
  obtain ⟨states, hcame, -⟩ := hr.came
  have hnow : ∀ x ∈ (r.at states).map (·.2), x = r.time := by
    simp [Report.at]
  refine ⟨?_, fun x hx => ?_, fun x hx r' hr' => ?_⟩
  · rw [hcame, List.map_append, List.pairwise_append]
    refine ⟨h.sorted, List.pairwise_of_forall_mem_list ?_, ?_⟩
    · intro a ha b hb
      rw [hnow a ha, hnow b hb]
    · intro a ha b hb
      rw [hnow b hb]
      exact h.le a ha r List.mem_cons_self
  · rw [hcame, List.map_append, List.mem_append] at hx
    rcases hx with hx | hx
    · exact h.ge x hx
    · rw [hnow x hx]
      exact hlo
  · rw [hcame, List.map_append, List.mem_append] at hx
    rcases hx with hx | hx
    · exact h.le x hx r' (List.mem_cons_of_mem _ hr')
    · rw [hnow x hx]
      exact hle r' hr'

/-- The call began to ring at one time, and not after it stopped. -/
def RangOnce (stop : ℤ) (t : TimedCall) : Prop :=
  ∀ x ∈ times IsRing t.came, firstTime IsRing t.came = some x ∧ x ≤ stop

theorem mem_times_handled (hr : Handled r t t') {x : ℤ} :
    x ∈ times IsRing t'.came ↔ x ∈ times IsRing t.came ∨ MakesRing t r ∧ x = r.time := by
  obtain ⟨states, hcame, hring, -⟩ := hr.came
  rw [hcame, times_append, List.mem_append, ← hring]
  refine or_congr_right ⟨fun hx => ?_, fun hx => ?_⟩
  · obtain ⟨s, hs, hsring⟩ := mem_times.mp hx
    obtain ⟨s', hs', heq⟩ := List.mem_map.mp hs
    obtain ⟨rfl, rfl⟩ := Prod.mk.injEq .. ▸ heq
    exact ⟨⟨s', hs', hsring⟩, rfl⟩
  · obtain ⟨⟨s, hs, hsring⟩, rfl⟩ := hx
    exact mem_times.mpr ⟨s, List.mem_map.mpr ⟨s, hs, rfl⟩, hsring⟩

theorem firstTime_handled (hr : Handled r t t') {x : ℤ} (hx : x ∈ times IsRing t.came) :
    firstTime IsRing t'.came = firstTime IsRing t.came := by
  obtain ⟨states, hcame, -⟩ := hr.came
  rw [hcame, firstTime_append]
  cases hfirst : firstTime IsRing t.came with
  | some b => rfl
  | none =>
    rw [firstTime, List.head?_eq_none_iff] at hfirst
    rw [hfirst] at hx
    exact absurd hx List.not_mem_nil

/-- What the report must be for the call to have rung at one time. -/
theorem rangOnce_handled_iff (h : Kept t) (hr : Handled r t t') (hrang : RangOnce stop t) :
    RangOnce stop t' ↔ RingsInTime stop t r := by
  by_cases hmakes : MakesRing t r
  · have hmem : r.time ∈ times IsRing t'.came := (mem_times_handled hr).mpr (.inr ⟨hmakes, rfl⟩)
    cases hfirst : firstTime IsRing t.came with
    | none =>
      -- the call has not rung yet
      have hnil : times IsRing t.came = [] := List.head?_eq_none_iff.mp hfirst
      have hzero : t.history.ringBeginTime = 0 := by
        rw [h.tells.ringBegin, lastTime, hnil]
        rfl
      have hnow : firstTime IsRing t'.came = some r.time := by
        rw [firstTime]
        cases hhead : (times IsRing t'.came).head? with
        | none => simp [List.head?_eq_none_iff.mp hhead] at hmem
        | some x => 
          have hx := (mem_times_handled hr).mp (List.mem_of_mem_head? hhead)
          simp [hnil] at hx
          rw [hx.2]
      constructor
      · intro hrang' _
        exact ⟨fun hne => absurd hzero hne, (hrang' r.time hmem).2⟩
      · intro hintime x hx
        obtain ⟨-, rfl⟩ : MakesRing t r ∧ x = r.time := by
          simpa [hnil] using (mem_times_handled hr).mp hx
        exact ⟨hnow, (hintime hmakes).2⟩
    | some b =>
      have hb : b ∈ times IsRing t.came := List.mem_of_mem_head? hfirst
      have hall : ∀ x ∈ times IsRing t.came, x = b := fun x hx =>
        Option.some.inj ((hrang x hx).1.symm.trans hfirst)
      have hbegin : t.history.ringBeginTime = b := by
        rw [h.tells.ringBegin]
        cases hlast : lastTime IsRing t.came with
        | none => simp [List.getLast?_eq_none_iff.mp hlast] at hb
        | some x => exact hall x (List.mem_of_mem_getLast? hlast)
      have hne : b ≠ 0 := by
        obtain ⟨s, hs, -⟩ := mem_times.mp hb
        have hpos := h.tells.positive b (List.mem_map.mpr ⟨(s, b), hs, rfl⟩)
        omega
      have hfirst' : firstTime IsRing t'.came = some b := (firstTime_handled hr hb).trans hfirst
      rw [RingsInTime, hbegin]
      constructor
      · intro hrang' _
        obtain ⟨hsame, hle⟩ := hrang' r.time hmem
        exact ⟨fun _ => Option.some.inj (hsame.symm.trans hfirst'), hle⟩
      · intro hintime x hx
        obtain ⟨heq, hle⟩ := hintime hmakes
        rcases (mem_times_handled hr).mp hx with hx | ⟨-, rfl⟩
        · exact ⟨by rw [hfirst', hall x hx], (hrang x hx).2⟩
        · exact ⟨by rw [hfirst', heq hne], hle⟩
  · have hsame : ∀ x, x ∈ times IsRing t'.came ↔ x ∈ times IsRing t.came := by
      simp [mem_times_handled hr, hmakes]
    refine iff_of_true (fun x hx => ?_) fun hring => absurd hring hmakes
    rw [firstTime_handled hr ((hsame x).mp hx)]
    exact hrang x ((hsame x).mp hx)

theorem RangOnce.of_handled (hr : Handled r t t') (h : RangOnce stop t') : RangOnce stop t := by
  intro x hx
  rw [← firstTime_handled hr hx]
  exact h x ((mem_times_handled hr).mpr (.inl hx))

/-- What the reports before the last one make of the object, and what they must be for the
    call to have rung at one time. -/
theorem living_run (env : StatusEnv) (stop : ℤ) {reports : List Report} {last : Report} {lo : ℤ}
    (hlo : 0 < lo) (h : Living t) (ht : Timely lo (reports ++ [last]) t)
    (hge : ∀ r ∈ reports, lo ≤ r.time) (hord : (reports ++ [last]).Pairwise (·.time ≤ ·.time))
    (hindex : ∀ r ∈ reports, 0 < r.info.index)
    (hgoes : ∀ r ∈ reports, r.info.state ≠ .disconnected) :
    Living (Run.run (TimedCall.handle env) t reports) ∧
      Timely lo [last] (Run.run (TimedCall.handle env) t reports) ∧
      (RangOnce stop (Run.run (TimedCall.handle env) t reports) ↔
        RangOnce stop t ∧ Run.StepsMeet (TimedCall.handle env) (RingsInTime stop) t reports) := by
  induction reports generalizing t with
  | nil => exact ⟨h, ht, by simp [Run.StepsMeet]⟩
  | cons r reports ih =>
    simp only [List.forall_mem_cons] at hge hindex hgoes
    rw [List.cons_append, List.pairwise_cons] at hord
    have hhandled := h.handle env (hlo.trans_le hge.1) hindex.1
    obtain ⟨hliving, htimely, hrang⟩ := ih (hhandled.living hgoes.1)
      (ht.handled hge.1 hord.1 hhandled) hge.2 hord.2 hindex.2 hgoes.2
    refine ⟨hliving, htimely, hrang.trans ?_⟩
    rw [Run.StepsMeet]
    constructor
    · rintro ⟨hnext, hrest⟩
      have hbefore := RangOnce.of_handled hhandled hnext
      exact ⟨hbefore, (rangOnce_handled_iff h.toKept hhandled hbefore).mp hnext, hrest⟩
    · rintro ⟨hbefore, hstep, hrest⟩
      exact ⟨(rangOnce_handled_iff h.toKept hhandled hbefore).mpr hstep, hrest⟩

end Life

/-! ## The durations -/

/-- The object of a call that is over: when it was disconnected, and what its times are. -/
structure Over (life : Life) (t : TimedCall) : Prop where
  tells : Tells t.came t.history
  timely : Timely life.first.time [] t
  le : ∀ x ∈ t.came.map (·.2), x ≤ life.last.time
  ended : endedAt t.came = some life.last.time

theorem Life.over (env : StatusEnv) (life : Life) : Over life (life.ended env) ∧
    ∀ stop, RangOnce stop (life.ended env) ↔ RangOnce stop (.create env life.first) ∧
      Run.StepsMeet (TimedCall.handle env) (RingsInTime stop) (.create env life.first)
        (life.reports ++ [life.last]) := by
  obtain ⟨first, reports, last, hfirst, hlast, hgoes, hindex, hpos, hord, -⟩ := life
  rw [List.cons_append, List.pairwise_cons] at hord
  simp only [List.forall_mem_append, List.forall_mem_singleton] at hindex hord
  obtain ⟨hliving, hcame⟩ := living_create env hpos hfirst
  have htimely : Timely first.time (reports ++ [last]) (.create env first) := by
    refine ⟨by simp [hcame], by simp [hcame], ?_⟩
    simp only [hcame, List.map_cons, List.map_nil, List.forall_mem_singleton]
    exact List.forall_mem_append.mpr ⟨hord.1.1, by simpa using hord.1.2⟩
  have hrun := fun stop => living_run env stop hpos hliving htimely hord.1.1 hord.2
    hindex.1 hgoes
  dsimp only [Life.ended]
  rw [Run.run_append, Run.run_cons, Run.run_nil]
  obtain ⟨hbefore, htimely', -⟩ := hrun 0
  have hhandled := hbefore.handle env (hpos.trans_le hord.1.2) hindex.2
  have hover := htimely'.handled hord.1.2 (by simp) hhandled
  obtain ⟨states, hcame', -, hdisconnected⟩ := hhandled.came
  refine ⟨⟨hhandled.kept.tells, hover, ?_, ?_⟩, fun stop => ?_⟩
  · intro x hx
    rw [hcame', List.map_append, List.mem_append] at hx
    rcases hx with hx | hx
    · exact htimely'.le x hx last (List.mem_singleton_self _)
    · simp [Report.at] at hx
      exact hx.2.ge
  · have hmem : last.time ∈ times (· = .disconnected) (last.at states) :=
      mem_times.mpr ⟨.disconnected, List.mem_map.mpr ⟨_, hdisconnected.mpr hlast, rfl⟩, by simp⟩
    rw [endedAt, hcame', lastTime_append]
    cases hend : lastTime (fun s => decide (s = TelCallState.disconnected)) (last.at states) with
    | none => simp [List.getLast?_eq_none_iff.mp hend] at hmem
    | some x =>
      have hx := mem_of_lastTime hend
      simp [Report.at] at hx
      simp [hx.2]
  · rw [Run.stepsMeet_append, ← and_assoc, ← (hrun stop).2.2]
    simp only [Run.StepsMeet, and_true]
    constructor
    · intro h
      have hrang := RangOnce.of_handled hhandled h
      exact ⟨hrang, (rangOnce_handled_iff hbefore.toKept hhandled hrang).mp h⟩
    · rintro ⟨hrang, hstep⟩
      exact (rangOnce_handled_iff hbefore.toKept hhandled hrang).mpr hstep

theorem durationField_of_pos {a b : ℤ} (ha : 0 < a) (hb : 0 < b) :
    durationField a b = toUInt32 (b - a) :=
  if_neg (by omega)

/-- A difference that is not negative and short is the seconds between the times. -/
theorem toUInt32_eq_iff {a b : ℤ} (hshort : b - a < 2 ^ 32) (c : ℤ) (hc : c ≤ a) :
    toUInt32 (b - a) = some (b - c).toNat ↔ a = c ∧ c ≤ b := by
  unfold toUInt32
  split_ifs with h
  · rw [Option.some.injEq]
    omega
  · simp
    omega

variable {life : Life} {t : TimedCall}

theorem Over.mem_of_times (h : Over life t) {p : TelCallState → Bool} {x : ℤ}
    (hx : x ∈ times p t.came) : 0 < x ∧ life.first.time ≤ x ∧ x ≤ life.last.time := by
  obtain ⟨s, hs, -⟩ := mem_times.mp hx
  have hmem : x ∈ t.came.map (·.2) := List.mem_map.mpr ⟨(s, x), hs, rfl⟩
  exact ⟨h.tells.positive x hmem, h.timely.ge x hmem, h.le x hmem⟩

/-- A call that is over has stopped ringing. -/
theorem Over.stopped (h : Over life t) : ∃ stop, stoppedAt t.came = some stop ∧
    t.history.ringEndTime = stop ∧ life.first.time ≤ stop ∧ stop ≤ life.last.time := by
  obtain ⟨s, hs, hended⟩ := mem_times.mp (List.mem_of_mem_getLast? h.ended)
  have hend : life.last.time ∈ times IsEnd t.came := by
    refine mem_times.mpr ⟨s, hs, ?_⟩
    obtain rfl : s = .disconnected := of_decide_eq_true hended
    rfl
  cases hstop : stoppedAt t.came with
  | none =>
    obtain ⟨-, hnone⟩ := Option.or_eq_none_iff.mp hstop
    simp [List.head?_eq_none_iff.mp hnone] at hend
  | some stop =>
    have hmem := mem_of_stoppedAt hstop
    exact ⟨stop, rfl, by rw [h.tells.ringEnd, hstop]; rfl, h.timely.ge stop hmem, h.le stop hmem⟩

theorem Over.talked (h : Over life t) :
    durationField t.history.callBeginTime t.history.callEndTime = some (talked t.came) := by
  rw [h.tells.callBegin, h.tells.callEnd, CallTimes.talked, h.ended]
  cases hanswered : answeredAt t.came with
  | none => simp [durationField, seconds]
  | some a =>
    obtain ⟨hpos, hge, hle⟩ := h.mem_of_times (List.mem_of_mem_head? hanswered)
    have hshort := life.short
    show durationField a life.last.time = some (life.last.time - a).toNat
    rw [durationField_of_pos hpos (by omega)]
    exact (toUInt32_eq_iff (by omega) a le_rfl).mpr ⟨rfl, hle⟩

theorem Over.rung_iff (h : Over life t) :
    durationField t.history.ringBeginTime t.history.ringEndTime = some (rung t.came) ↔
      RangOnce t.history.ringEndTime t := by
  obtain ⟨stop, hstop, hend, hge, hle⟩ := h.stopped
  rw [hend, rung, hstop, h.tells.ringBegin]
  cases hfirst : firstTime IsRing t.came with
  | none =>
    have hnil : times IsRing t.came = [] := List.head?_eq_none_iff.mp hfirst
    have hzero : lastTime IsRing t.came = none := by rw [lastTime, hnil]; rfl
    rw [hzero]
    refine iff_of_true ?_ fun x hx => by simp [hnil] at hx
    simp [durationField, seconds]
  | some b =>
    cases hlast : lastTime IsRing t.came with
    | none =>
      have hnil : times IsRing t.came = [] := List.getLast?_eq_none_iff.mp hlast
      simp [firstTime, hnil] at hfirst
    | some c =>
      have hb := List.mem_of_mem_head? hfirst
      have hc := List.mem_of_mem_getLast? hlast
      have hbc := firstTime_le h.timely.sorted hc hfirst
      obtain ⟨hcpos, hcge, -⟩ := h.mem_of_times hc
      have hshort := life.short
      have hstopPos := life.positive
      rw [Option.getD_some, durationField_of_pos hcpos (by omega), seconds,
        toUInt32_eq_iff (by omega) b hbc]
      constructor
      · rintro ⟨rfl, hbstop⟩ x hx
        have hx' : x = c :=
          le_antisymm (le_lastTime h.timely.sorted hx hlast)
            (firstTime_le h.timely.sorted hx hfirst)
        rw [hx']
        exact ⟨hfirst, hbstop⟩
      · intro hrang
        obtain ⟨hsame, hcstop⟩ := hrang c hc
        have hcb : c = b := Option.some.inj (hsame.symm.trans hfirst)
        exact ⟨hcb, hcb ▸ hcstop⟩

/-- What the four times are when a call is over. -/
theorem times_of_life (env : StatusEnv) (life : Life) :
    let t := life.ended env
    t.history.callBeginTime = (answeredAt t.came).getD 0 ∧
      t.history.callEndTime = life.last.time ∧
      t.history.ringBeginTime = (lastTime IsRing t.came).getD 0 ∧
      stoppedAt t.came = some t.history.ringEndTime := by
  obtain ⟨hover, -⟩ := life.over env
  obtain ⟨stop, hstop, hend, -, -⟩ := hover.stopped
  refine ⟨hover.tells.callBegin, ?_, hover.tells.ringBegin, by rw [hend]; exact hstop⟩
  rw [hover.tells.callEnd, hover.ended]
  rfl

/-- **The durations.** The time that a call was talked is always recorded; the time that it
    rang is recorded iff each report that makes it ring comes when it began to ring and not
    after it stopped. -/
theorem durations_iff (env : StatusEnv) (life : Life) :
    let t := life.ended env
    (recordedDurations t.history).1 = some (talked t.came) ∧
      ((recordedDurations t.history).2 = some (rung t.came) ↔
        Run.StepsMeet (TimedCall.handle env) (RingsInTime t.history.ringEndTime)
          (.create env life.first) (life.reports ++ [life.last])) := by
  intro t
  obtain ⟨hover, hrang⟩ := life.over env
  refine ⟨hover.talked, hover.rung_iff.trans ((hrang _).trans (and_iff_right ?_))⟩
  obtain ⟨-, hcame⟩ := living_create env life.positive life.first_state
  obtain ⟨stop, -, hend, hge, -⟩ := hover.stopped
  rw [hend]
  intro x hx
  rw [hcame, times_singleton] at hx
  rw [hcame, firstTime_singleton]
  split_ifs at hx ⊢ with hring
  · rw [List.mem_singleton.mp hx]
    exact ⟨rfl, hge⟩
  · exact absurd hx List.not_mem_nil

/-! ## A call that is answered as a call of another type -/

/-- A report of the call at a time. -/
private def reportAt (time : ℤ) (callType : CallType) (state : TelCallState)
    (hcarrier : callType ∈ [CallType.cs, .ims, .satellite])
    (hstate : state ∉ [TelCallState.unknown, .idle, .answered]) : Report where
  clock := ⟨time, 1000 * time⟩
  info := slotCall callType 1 state 0
  carrier := hcarrier
  state := hstate
  number_le := show "10086".utf8ByteSize ≤ maxNumberLen by decide

/-- An IMS call comes in at 100, is answered at 160 as a CS call, and ends at 400. -/
def retypedLife : Life where
  first := reportAt 100 .ims .incoming (by decide) (by decide)
  reports := [reportAt 160 .cs .active (by decide) (by decide)]
  last := reportAt 400 .cs .disconnected (by decide) (by decide)
  first_state := by decide
  last_state := rfl
  goes_on := by decide
  index_pos := by decide
  positive := by decide
  in_order := by decide
  short := by decide

/-- **A call that changes its type.** It rings for 60 seconds, and it is recorded that it
    rang for none. -/
theorem retyped_call_rings_short :
    recordedDurations (retypedLife.ended modemEnv).history = (some 240, some 0) ∧
      talked (retypedLife.ended modemEnv).came = 240 ∧
      rung (retypedLife.ended modemEnv).came = 60 := by
  decide

end CallManager.CallTimes
