import CallManager.Types
import CallManager.Library.OrderedMap
import CallManager.Library.Run

/-!
# The call state of the whole system

`CallStateReportProxy` tells the state registry two things: with `ReportCallState`
the one state the device is in, and with `ReportCallStateForCallId` the state of a
slot. The first is computed, at every notification of a carrier call and at every
change of the VoIP state, from the foreground call, the call of the notification and
the VoIP state, and is sent if it differs from the last one. The second is the state
of the call of the notification.

Specification: the state of an answered or ringing call goes first, then a VoIP call
that rings or has been answered, then the foreground call, then the VoIP call that is
off hook; otherwise the state is disconnected or idle, or what it was when a call
begins to disconnect (`Due`). A slot whose last report is disconnected has no live
call that the listeners were told of (`SlotsRight`).

The code departs from it in three ways. That a call was answered is known in its own
notification only: the next notification, or the next change of the VoIP state, finds
the call ringing. The call of a notification stands in for a foreground call, so the
end of the last carrier call is reported although a VoIP call is off hook. And the
end of one call of a slot is reported for the slot although another is live.

The store has the insertion that the callers of `AddOneCallObject` rely on. The
registry's results, the VoIP events and the modem's own reports are left out.

Results:
* `getForegroundCall_eq`: the foreground call is the first that rings, else the last
  that is live.
* `updateCallState_remembered`: no two reports in a row are equal.
* `reports_iff`: the specification holds throughout a run iff no step is one of the
  three (`Reportable`).
* `reports_depart`: a run for each of the three.
-/

namespace CallManager.CallStateReport

/-! ## Model -/

/-- `CallStateToApp` (call_manager_base.h:384-408). -/
inductive CallStateToApp
  | unknown | idle | ringing | offhook | answered
  deriving DecidableEq, Repr

/-- The states a report can give to a call: a report with another one is refused. -/
abbrev CallState := {s : TelCallState // s ≠ .unknown ∧ s ≠ .idle ∧ s ≠ .answered}

/-- A number as the modem reports it, which fits `CallAttributeInfo::accountNumber`. -/
abbrev AccountNumber := {s : String // s.utf8ByteSize ≤ maxNumberLen}

/-- The fields of a call object that the proxy reads. `told` is the state of the last
    notification of the call; nothing of the source reads it. -/
structure ReportedCall where
  callId : ℤ
  slotId : ℤ
  callType : CallType
  callState : CallState
  accountNumber : AccountNumber
  told : Option TelCallState
  deriving DecidableEq

/-- What `ReportCallState` is given (call_state_report_proxy.cpp:174). -/
structure CallReport where
  callState : TelCallState
  phoneNumber : String
  deriving DecidableEq, Repr

/-- What `ReportCallStateForCallId` is given (call_state_report_proxy.cpp:221). -/
structure SlotReport extends CallReport where
  slotId : ℤ
  deriving DecidableEq, Repr

/-- `CallObjectManager::callObjectPtrList_`, `CallControlManager::VoIPCallState_` and
    `CallStateReportProxy::currentCallState_`, and what the registry was given, the
    newest first. -/
structure ReportState where
  calls : OrderedMap ReportedCall.callId
  voIPCallState : CallStateToApp
  currentCallState : TelCallState
  reports : List CallReport
  slotReports : List SlotReport

/-- The call rings. -/
def Ringing (state : TelCallState) : Prop := state = .incoming ∨ state = .waiting

/-- The call is up without ringing. -/
def Up (state : TelCallState) : Prop :=
  state = .alerting ∨ state = .dialing ∨ state = .active ∨ state = .holding

instance (state : TelCallState) : Decidable (Ringing state) := by unfold Ringing; infer_instance

instance (state : TelCallState) : Decidable (Up state) := by unfold Up; infer_instance

namespace ReportedCall

/-- `GetCallAttributeInfo`, of which the state and the number are used. -/
def getCallAttributeInfo (call : ReportedCall) : CallReport :=
  { callState := call.callState, phoneNumber := call.accountNumber }

/-- `SetTelCallState`, and the notification of the new state. -/
def setTelCallState (call : ReportedCall) (nextState : CallState) : ReportedCall :=
  { call with callState := nextState, told := some nextState }

/-- The notification that the call is answered, which leaves its state alone. -/
def setTold (call : ReportedCall) (nextState : TelCallState) : ReportedCall :=
  { call with told := some nextState }

end ReportedCall

/-- The loop of `GetForegroundCall(false)` (call_object_manager.cpp:955-984), which a ringing
    call breaks off. -/
def foregroundLoop : Option ReportedCall → List ReportedCall → Option ReportedCall
  | liveCall, [] => liveCall
  | liveCall, it :: rest =>
    if it.callType = .voip then foregroundLoop liveCall rest
    else
      let telCallState := it.callState.1
      if telCallState = .waiting ∨ telCallState = .incoming then some it
      else if telCallState = .alerting ∨ telCallState = .dialing then
        foregroundLoop (some it) rest
      else if telCallState = .active then foregroundLoop (some it) rest
      else if telCallState = .holding then foregroundLoop (some it) rest
      else foregroundLoop liveCall rest

namespace ReportState

/-- The state the process starts with. -/
def init : ReportState where
  calls := OrderedMap.empty _
  voIPCallState := .idle
  currentCallState := .unknown
  reports := []
  slotReports := []

/-- `CallObjectManager::GetForegroundCall(false)`. -/
def getForegroundCall (s : ReportState) : Option ReportedCall :=
  foregroundLoop none s.calls.entries

/-- `GetVoipCallState` (call_state_report_proxy.cpp:183-206). -/
def getVoipCallState (s : ReportState) : TelCallState :=
  match s.voIPCallState with
  | .idle => .idle
  | .offhook => .active
  | .ringing => .incoming
  | .answered => .answered
  | .unknown => .idle

/-- `UpdateCallState` up to line 164: what there is to report. -/
def reportInfo (s : ReportState) (callObject : Option ReportedCall) (nextState : TelCallState) :
    CallReport :=
  let foregroundCall := if nextState = .answered then callObject else s.getForegroundCall
  let foregroundCall := foregroundCall.or callObject
  let currentVoipCallState := s.getVoipCallState
  match foregroundCall with
  | some call =>
    if nextState = .answered then { call.getCallAttributeInfo with callState := .answered }
    else if Ringing call.callState then call.getCallAttributeInfo
    else if currentVoipCallState = .incoming ∨ currentVoipCallState = .answered then
      { callState := currentVoipCallState, phoneNumber := "" }
    else call.getCallAttributeInfo
  | none => { callState := currentVoipCallState, phoneNumber := "" }

/-- `UpdateCallState` from line 165: report it unless it is the state reported last,
    or disconnecting. -/
def report (s : ReportState) (info : CallReport) : ReportState :=
  if info.callState = s.currentCallState then s
  else if info.callState = .disconnecting then s
  else { s with currentCallState := info.callState, reports := info :: s.reports }

/-- `UpdateCallState` (call_state_report_proxy.cpp:135-175). -/
def updateCallState (s : ReportState) (callObject : Option ReportedCall)
    (nextState : TelCallState) : ReportState :=
  s.report (s.reportInfo callObject nextState)

/-- `UpdateCallStateForSlotId` (call_state_report_proxy.cpp:208-222). -/
def updateCallStateForSlotId (s : ReportState) (callObject : ReportedCall)
    (nextState : TelCallState) : ReportState :=
  let info := callObject.getCallAttributeInfo
  let info := if nextState = .answered then { info with callState := .answered } else info
  if info.callState = .disconnecting then s
  else { s with slotReports := { info with slotId := callObject.slotId } :: s.slotReports }

/-- `CallStateUpdated` (call_state_report_proxy.cpp:40-60). -/
def callStateUpdated (s : ReportState) (callObject : ReportedCall) (nextState : TelCallState) :
    ReportState :=
  if callObject.callType = .voip then s
  else (s.updateCallState (some callObject) nextState).updateCallStateForSlotId callObject nextState

/-- `UpdateCallStateForVoIPOrRestart` (call_state_report_proxy.cpp:177-181). -/
def updateCallStateForVoIPOrRestart (s : ReportState) : ReportState :=
  s.updateCallState none .idle

/-- The store with a new state of a call. -/
def withState (s : ReportState) (callId : ℤ) (nextState : CallState) : ReportState :=
  { s with calls := s.calls.modify callId (·.setTelCallState nextState) fun _ => rfl }

/-- The store with a call of which the listeners are told that it is answered. -/
def withAnswer (s : ReportState) (callId : ℤ) : ReportState :=
  { s with calls := s.calls.modify callId (·.setTold .answered) fun _ => rfl }

end ReportState

/-- The operations of a run. -/
inductive Op
  /-- `AddOneCallObject`, of a call no listener was told of. -/
  | added (call : ReportedCall)
  /-- `DeleteOneCallObject`. -/
  | deleted (callId : ℤ)
  /-- `RefreshCall`, which exchanges the object of a carrier call. -/
  | refreshed (callId : ℤ) (callType : CallType) (accountNumber : AccountNumber)
  /-- `CallStatusManager::UpdateCallState` (call_status_manager.cpp:1788-1828): the object's new
      state, and its notification. -/
  | updated (callId : ℤ) (nextState : CallState)
  /-- The notification of `AnswerCall` (call_control_manager.cpp:294) and of
      `AutoAnswerForVoiceCall` (call_status_manager.cpp:1728). -/
  | answered (callId : ℤ)
  /-- `SetVoIPCallState` (call_control_manager.cpp:1486-1490). -/
  | setVoIPCallState (state : CallStateToApp)
  deriving DecidableEq

open ReportState in
/-- One step of a run. -/
def step (s : ReportState) : Op → ReportState
  | .added call => { s with calls := s.calls.insert { call with told := none } }
  | .deleted callId => { s with calls := s.calls.erase callId }
  | .refreshed callId callType accountNumber =>
    match s.calls.lookup callId with
    | none => s
    | some call =>
      if call.callType = .voip ∨ callType = .voip then s
      else
        let newCall := { call with callType := callType, accountNumber := accountNumber }
        { s with calls := (s.calls.erase callId).insert newCall }
  | .updated callId nextState =>
    match s.calls.lookup callId with
    | none => s
    | some call =>
      (s.withState callId nextState).callStateUpdated (call.setTelCallState nextState) nextState
  | .answered callId =>
    match s.calls.lookup callId with
    | none => s
    | some call => (s.withAnswer callId).callStateUpdated (call.setTold .answered) .answered
  | .setVoIPCallState state => { s with voIPCallState := state }.updateCallStateForVoIPOrRestart

/-! ## Specification -/

namespace ReportState

/-- The carrier calls, in the store's order. -/
def carrierCalls (s : ReportState) : List ReportedCall :=
  s.calls.entries.filter fun call => call.callType ≠ .voip

/-- The state the registry was given last. -/
def lastState (s : ReportState) : Option TelCallState := s.reports.head?.map CallReport.callState

/-- The state the registry was given last for a slot. -/
def lastSlotState (s : ReportState) (slotId : ℤ) : Option TelCallState :=
  (s.slotReports.find? fun r => r.slotId = slotId).map fun r => r.callState

/-- The foreground call among those that do not ring: the last one that is up. -/
def upCall (s : ReportState) : Option ReportedCall :=
  (s.carrierCalls.filter fun call => Up call.callState).getLast?

/-- The first call that rings. -/
def ringingCall (s : ReportState) : Option ReportedCall :=
  s.carrierCalls.find? fun call => Ringing call.callState

end ReportState

/-- The state of a call that goes first: answered since its user answered it. -/
def ReportedCall.shownState (call : ReportedCall) : TelCallState :=
  if call.told = some .answered then .answered else call.callState

/-- The call goes first: it rings, or this notification says that it is answered. -/
def GoesFirst (op : Op) (call : ReportedCall) : Prop :=
  Ringing call.callState ∨ op = .answered call.callId

instance (op : Op) (call : ReportedCall) : Decidable (GoesFirst op call) := by
  unfold GoesFirst
  infer_instance

/-- The operation notifies the proxy: of a carrier call, or of the VoIP state. -/
def Notifies (s : ReportState) : Op → Prop
  | .updated callId _ | .answered callId => ∃ call ∈ s.carrierCalls, call.callId = callId
  | .setVoIPCallState _ => True
  | _ => False

/-- The notification says that a call begins to disconnect. -/
def Disconnecting : Op → Prop
  | .updated _ nextState => nextState.1 = .disconnecting
  | _ => False

/-- The state that the registry must have been given last when `op` has taken `s` to `s'`. -/
def Due (s s' : ReportState) (op : Op) : Prop :=
  if ∃ call ∈ s'.carrierCalls, GoesFirst op call then
    ∃ call ∈ s'.carrierCalls, GoesFirst op call ∧ s'.lastState = some call.shownState
  else if s'.voIPCallState = .ringing ∨ s'.voIPCallState = .answered then
    s'.lastState = some s'.getVoipCallState
  else
    match s'.upCall with
    | some call => s'.lastState = some call.callState.1
    | none =>
      (Disconnecting op ∧ s'.lastState = s.lastState) ∨
      if s'.voIPCallState = .offhook then s'.lastState = some .active
      else s'.lastState = some .disconnected ∨ s'.lastState = some .idle

/-- After a notification the last state is the one that is due. -/
def StepDue (s : ReportState) (op : Op) : Prop := Notifies s op → Due s (step s op) op

/-- No two reports in a row are equal. -/
def NoRepeats (s : ReportState) : Prop :=
  s.reports.IsChain fun r r' => r.callState ≠ r'.callState

/-- A slot whose last state is disconnected has no live call the listeners were told of. -/
def SlotsRight (s : ReportState) : Prop :=
  ∀ call ∈ s.carrierCalls, call.told ≠ none → Ringing call.callState ∨ Up call.callState →
    s.lastSlotState call.slotId ≠ some .disconnected

/-! ## The condition -/

namespace ReportState

/-- If the first ringing call has been answered, another one that rings in the same
    state has not. -/
def RingsUnanswered (s : ReportState) : Prop :=
  ∀ ring ∈ s.ringingCall, ∃ call ∈ s.carrierCalls,
    call.callState = ring.callState ∧ call.told ≠ some .answered

/-- The end of the last carrier call does not come while VoIP is off hook. -/
def EndsOnHook (s : ReportState) : Prop :=
  s.voIPCallState = .offhook → s.ringingCall ≠ none ∨ s.upCall ≠ none

/-- No live call that the listeners were told of is on the slot. -/
def SlotFree (s : ReportState) (slotId : ℤ) : Prop :=
  ∀ call ∈ s.carrierCalls, call.slotId = slotId → call.told ≠ none →
    ¬ (Ringing call.callState ∨ Up call.callState)

end ReportState

/-- The condition on a step: a notification or a change of the VoIP state finds no
    answered call still ringing, and an end finds VoIP on hook, or another call up,
    and no live call on the slot of the call that ends. -/
def Reportable (s : ReportState) : Op → Prop
  | .updated callId nextState =>
    ∀ call ∈ s.carrierCalls, call.callId = callId →
      let s := s.withState callId nextState
      s.RingsUnanswered ∧
      (nextState.1 = .disconnected → s.EndsOnHook ∧ s.SlotFree call.slotId)
  | .setVoIPCallState _ => s.RingsUnanswered
  | _ => True

/-! ## The foreground call -/

theorem foregroundLoop_eq (liveCall : Option ReportedCall) (calls : List ReportedCall) :
    foregroundLoop liveCall calls =
      let carrierCalls := calls.filter fun call => call.callType ≠ .voip
      (carrierCalls.find? fun call => Ringing call.callState).or
        ((carrierCalls.filter fun call => Up call.callState).getLast?.or liveCall) := by
  induction calls generalizing liveCall with
  | nil => rfl
  | cons it rest ih =>
    by_cases hvoip : it.callType = .voip
    · simp [foregroundLoop, hvoip, ih]
    by_cases hring : Ringing it.callState
    · have hring' : it.callState.1 = .waiting ∨ it.callState.1 = .incoming := hring.symm
      simp [foregroundLoop, hvoip, hring, hring']
    have hring' : ¬ (it.callState.1 = .waiting ∨ it.callState.1 = .incoming) :=
      fun h => hring h.symm
    by_cases hup : Up it.callState
    · have hloop : foregroundLoop liveCall (it :: rest) = foregroundLoop (some it) rest := by
        unfold Up at hup
        grind [foregroundLoop]
      rw [hloop, ih]
      simp [hvoip, hring, hup, List.getLast?_cons]
    · have hloop : foregroundLoop liveCall (it :: rest) = foregroundLoop liveCall rest := by
        unfold Up at hup
        grind [foregroundLoop]
      rw [hloop, ih]
      simp [hvoip, hring, hup]

/-- The foreground call is the first one that rings, else the last one that is up. -/
theorem ReportState.getForegroundCall_eq (s : ReportState) :
    s.getForegroundCall = s.ringingCall.or s.upCall := by
  simp [getForegroundCall, foregroundLoop_eq, ringingCall, upCall, carrierCalls]

theorem Ringing.ne_disconnecting {state : TelCallState} (h : Ringing state) :
    state ≠ .disconnecting := by
  rintro rfl
  exact absurd h (by decide)

theorem Up.ne_disconnecting {state : TelCallState} (h : Up state) : state ≠ .disconnecting := by
  rintro rfl
  exact absurd h (by decide)

/-- A call that neither rings nor is up has ended, or begins to. -/
theorem ended_of_not_live {state : CallState} (hring : ¬ Ringing state) (hup : ¬ Up state) :
    state.1 = .disconnected ∨ state.1 = .disconnecting := by
  have hstate := state.2
  unfold Ringing at hring
  unfold Up at hup
  cases h : state.1 <;> simp_all

namespace ReportState

/-! ## What a report changes -/

variable (s : ReportState)

@[simp] theorem report_calls (info : CallReport) : (s.report info).calls = s.calls := by
  unfold report
  split_ifs <;> rfl

@[simp] theorem report_voIPCallState (info : CallReport) :
    (s.report info).voIPCallState = s.voIPCallState := by
  unfold report
  split_ifs <;> rfl

@[simp] theorem report_slotReports (info : CallReport) :
    (s.report info).slotReports = s.slotReports := by
  unfold report
  split_ifs <;> rfl

/-- The report for a slot touches nothing else. -/
theorem updateCallStateForSlotId_eq (call : ReportedCall) (nextState : TelCallState) :
    ∃ slotReports, s.updateCallStateForSlotId call nextState =
      { s with slotReports := slotReports } := by
  unfold updateCallStateForSlotId
  dsimp only
  split_ifs
  · exact ⟨s.slotReports, rfl⟩
  · exact ⟨_, rfl⟩
  · exact ⟨s.slotReports, rfl⟩
  · exact ⟨_, rfl⟩

/-- The proxy remembers the last state, if any, which is never `CALL_STATUS_UNKNOWN`, and
    has not reported a state twice in a row. -/
structure Remembered (s : ReportState) : Prop where
  current : s.currentCallState = s.lastState.getD .unknown
  known : s.lastState ≠ some .unknown
  noRepeats : NoRepeats s

variable {s}

theorem Remembered.congr {s' : ReportState} (hs : Remembered s)
    (hcurrent : s'.currentCallState = s.currentCallState) (hreports : s'.reports = s.reports) :
    Remembered s' where
  current := by rw [hcurrent, lastState, hreports]; exact hs.current
  known := by rw [lastState, hreports]; exact hs.known
  noRepeats := by rw [NoRepeats, hreports]; exact hs.noRepeats

theorem Remembered.report (hs : Remembered s) {info : CallReport}
    (hinfo : info.callState ≠ .unknown) : Remembered (s.report info) := by
  unfold ReportState.report
  split_ifs with hsame hdisconnecting
  · exact hs
  · exact hs
  refine ⟨rfl, by simpa [lastState] using hinfo, ?_⟩
  have hchain := hs.noRepeats
  have hcurrent := hs.current
  unfold NoRepeats lastState at *
  cases hreports : s.reports with
  | nil => simp
  | cons last rest =>
    rw [hreports] at hchain hcurrent
    refine List.isChain_cons_cons.mpr ⟨fun h => hsame ?_, hchain⟩
    simpa [hcurrent] using h

/-- What was reported is the last state; that a call begins to disconnect is not reported. -/
theorem lastState_report (hs : Remembered s) {info : CallReport}
    (hinfo : info.callState ≠ .unknown) :
    (s.report info).lastState =
      if info.callState = .disconnecting then s.lastState else some info.callState := by
  unfold ReportState.report
  by_cases hsame : info.callState = s.currentCallState
  · rw [if_pos hsame]
    cases hlast : s.lastState with
    | none =>
      have hcurrent := hs.current
      rw [hlast] at hcurrent
      exact absurd (hsame.trans hcurrent) hinfo
    | some last =>
      have hcurrent := hs.current
      rw [hlast] at hcurrent
      simp [hsame, hcurrent]
  · rw [if_neg hsame]
    split_ifs <;> rfl

/-! ## What there is to report -/

section ReportInfo

variable {callObject : Option ReportedCall} {nextState : TelCallState}

theorem reportInfo_answered (call : ReportedCall) :
    (s.reportInfo (some call) .answered).callState = .answered := by
  simp [reportInfo]

theorem reportInfo_ringing (hnext : nextState ≠ .answered) {ring : ReportedCall}
    (hring : s.ringingCall = some ring) :
    (s.reportInfo callObject nextState).callState = ring.callState := by
  have hr : Ringing ring.callState := by simpa using List.find?_some hring
  simp [reportInfo, hnext, getForegroundCall_eq, hring, hr, ReportedCall.getCallAttributeInfo]

/-- The call of the notification, if it is in the store, rings only if a call does. -/
theorem not_ringing_of_ringingCall (h : s.ringingCall = none) {call : ReportedCall}
    (hmem : call ∈ s.carrierCalls) : ¬ Ringing call.callState := by
  simpa using List.find?_eq_none.mp h call hmem

theorem upCall_mem {call : ReportedCall} (h : s.upCall = some call) :
    call ∈ s.carrierCalls ∧ Up call.callState := by
  have hmem := List.mem_of_getLast? h
  simpa using List.mem_filter.mp hmem

theorem not_up_of_upCall (h : s.upCall = none) {call : ReportedCall}
    (hmem : call ∈ s.carrierCalls) : ¬ Up call.callState := by
  intro hup
  have hfilter : call ∈ s.carrierCalls.filter fun call => Up call.callState :=
    List.mem_filter.mpr ⟨hmem, by simpa using hup⟩
  rw [List.getLast?_eq_none_iff.mp h] at hfilter
  simp at hfilter

theorem not_voip_rings
    (h : ¬ (s.voIPCallState = .ringing ∨ s.voIPCallState = .answered)) :
    ¬ (s.getVoipCallState = .incoming ∨ s.getVoipCallState = .answered) := by
  unfold getVoipCallState
  cases hs : s.voIPCallState <;> simp_all

variable (hnext : nextState ≠ .answered) (hring : s.ringingCall = none)
  (hmem : ∀ call ∈ callObject, call ∈ s.carrierCalls)
include hnext hring hmem

/-- Without a ringing call: VoIP, if it rings or was answered, else the last call up,
    else the call of the notification, else VoIP. -/
theorem reportInfo_of_not_ringing :
    s.reportInfo callObject nextState =
      match s.upCall.or callObject with
      | some call =>
        if s.getVoipCallState = .incoming ∨ s.getVoipCallState = .answered then
          { callState := s.getVoipCallState, phoneNumber := "" }
        else call.getCallAttributeInfo
      | none => { callState := s.getVoipCallState, phoneNumber := "" } := by
  have hquiet : ∀ call ∈ s.upCall.or callObject, ¬ Ringing call.callState := by
    intro call hcall
    cases hup : s.upCall with
    | none =>
      rw [hup, Option.none_or] at hcall
      exact not_ringing_of_ringingCall hring (hmem call hcall)
    | some up =>
      rw [hup, Option.some_or, Option.mem_some_iff] at hcall
      exact hcall ▸ not_ringing_of_ringingCall hring (upCall_mem hup).1
  simp only [reportInfo, hnext, if_false, getForegroundCall_eq, hring, Option.none_or]
  cases hfg : s.upCall.or callObject with
  | none => rfl
  | some call => simp [hquiet call hfg]

theorem reportInfo_voip
    (hvoip : s.voIPCallState = .ringing ∨ s.voIPCallState = .answered) :
    (s.reportInfo callObject nextState).callState = s.getVoipCallState := by
  have hv : s.getVoipCallState = .incoming ∨ s.getVoipCallState = .answered := by
    rcases hvoip with h | h <;> simp [getVoipCallState, h]
  rw [reportInfo_of_not_ringing hnext hring hmem]
  cases s.upCall.or callObject with
  | none => rfl
  | some call => simp [hv]

variable (hvoip : ¬ (s.voIPCallState = .ringing ∨ s.voIPCallState = .answered))
include hvoip

theorem reportInfo_up {up : ReportedCall} (hup : s.upCall = some up) :
    (s.reportInfo callObject nextState).callState = up.callState := by
  have hv := not_voip_rings hvoip
  rw [reportInfo_of_not_ringing hnext hring hmem, hup]
  simp [hv, ReportedCall.getCallAttributeInfo]

theorem reportInfo_end (hup : s.upCall = none) :
    (s.reportInfo callObject nextState).callState =
      (callObject.map fun call => call.callState.1).getD s.getVoipCallState := by
  have hv := not_voip_rings hvoip
  rw [reportInfo_of_not_ringing hnext hring hmem, hup, Option.none_or]
  cases callObject with
  | none => rfl
  | some call => simp [hv, ReportedCall.getCallAttributeInfo]

end ReportInfo

/-! ## What is due -/

theorem getVoipCallState_ne (s : ReportState) :
    s.getVoipCallState ≠ .unknown ∧ s.getVoipCallState ≠ .disconnecting := by
  unfold getVoipCallState
  cases s.voIPCallState <;> decide

/-- What is due depends on the calls, the VoIP state and the last state. -/
theorem due_congr {before s' : ReportState} {op : Op} (hcalls : s'.calls = s.calls)
    (hvoip : s'.voIPCallState = s.voIPCallState) (hlast : s'.lastState = s.lastState) :
    Due before s' op ↔ Due before s op := by
  have hcarrier : s'.carrierCalls = s.carrierCalls := by rw [carrierCalls, hcalls, carrierCalls]
  have hup : s'.upCall = s.upCall := by rw [upCall, hcarrier, upCall]
  have hstate : s'.getVoipCallState = s.getVoipCallState := by
    rw [getVoipCallState, hvoip, getVoipCallState]
  rw [Due, Due, hcarrier, hup, hstate, hvoip, hlast]

theorem getVoipCallState_of_not_rings
    (h : ¬ (s.voIPCallState = .ringing ∨ s.voIPCallState = .answered)) :
    s.getVoipCallState = if s.voIPCallState = .offhook then .active else .idle := by
  unfold getVoipCallState
  cases hs : s.voIPCallState <;> simp_all

@[simp] theorem updateCallState_carrierCalls (callObject : Option ReportedCall)
    (nextState : TelCallState) :
    (s.updateCallState callObject nextState).carrierCalls = s.carrierCalls := by
  rw [carrierCalls, updateCallState, report_calls, carrierCalls]

@[simp] theorem updateCallState_upCall (callObject : Option ReportedCall)
    (nextState : TelCallState) :
    (s.updateCallState callObject nextState).upCall = s.upCall := by
  rw [upCall, updateCallState_carrierCalls, upCall]

theorem due_of_goesFirst {before : ReportState} {op : Op}
    (h : ∃ call ∈ s.carrierCalls, GoesFirst op call) :
    Due before s op ↔
      ∃ call ∈ s.carrierCalls, GoesFirst op call ∧ s.lastState = some call.shownState := by
  rw [Due, if_pos h]

theorem due_of_voip {before : ReportState} {op : Op}
    (h : ¬ ∃ call ∈ s.carrierCalls, GoesFirst op call)
    (hvoip : s.voIPCallState = .ringing ∨ s.voIPCallState = .answered) :
    Due before s op ↔ s.lastState = some s.getVoipCallState := by
  rw [Due, if_neg h, if_pos hvoip]

theorem due_of_upCall {before : ReportState} {op : Op}
    (h : ¬ ∃ call ∈ s.carrierCalls, GoesFirst op call)
    (hvoip : ¬ (s.voIPCallState = .ringing ∨ s.voIPCallState = .answered))
    {up : ReportedCall} (hup : s.upCall = some up) :
    Due before s op ↔ s.lastState = some up.callState.1 := by
  rw [Due, if_neg h, if_neg hvoip, hup]

theorem due_of_end {before : ReportState} {op : Op}
    (h : ¬ ∃ call ∈ s.carrierCalls, GoesFirst op call)
    (hvoip : ¬ (s.voIPCallState = .ringing ∨ s.voIPCallState = .answered))
    (hup : s.upCall = none) :
    Due before s op ↔
      (Disconnecting op ∧ s.lastState = before.lastState) ∨
      if s.voIPCallState = .offhook then s.lastState = some .active
      else s.lastState = some .disconnected ∨ s.lastState = some .idle := by
  rw [Due, if_neg h, if_neg hvoip, hup]

section Notified

variable {before : ReportState} {op : Op} {callObject : Option ReportedCall}
  {nextState : TelCallState} (hs : Remembered s) (hlast : s.lastState = before.lastState)
  (hnext : nextState ≠ .answered) (hmem : ∀ call ∈ callObject, call ∈ s.carrierCalls)
  (hop : ∀ callId, op ≠ .answered callId)
  (hdisc : Disconnecting op ↔ ∃ call ∈ callObject, call.callState.1 = .disconnecting)
include hs hnext hop

theorem due_ringing {ring : ReportedCall} (hring : s.ringingCall = some ring) :
    Due before (s.updateCallState callObject nextState) op ↔ s.RingsUnanswered := by
  have hr : Ringing ring.callState := by simpa using List.find?_some hring
  have hrmem : ring ∈ s.carrierCalls := List.mem_of_find?_eq_some hring
  have hinfo : (s.reportInfo callObject nextState).callState = ring.callState :=
    reportInfo_ringing hnext hring
  have hreported : (s.updateCallState callObject nextState).lastState = some ring.callState.1 := by
    rw [updateCallState, lastState_report hs (by rw [hinfo]; exact ring.callState.2.1), hinfo,
      if_neg hr.ne_disconnecting]
  have hfirst : ∀ call, GoesFirst op call ↔ Ringing call.callState := by
    simp [GoesFirst, hop]
  rw [due_of_goesFirst ⟨ring, by simpa using hrmem, (hfirst ring).mpr hr⟩, hreported]
  simp only [updateCallState_carrierCalls, hfirst, Option.some.injEq]
  unfold RingsUnanswered
  simp only [hring, Option.mem_some_iff, forall_eq']
  constructor
  · rintro ⟨call, hcall, -, hshown⟩
    refine ⟨call, hcall, ?_⟩
    unfold ReportedCall.shownState at hshown
    split_ifs at hshown with htold
    · exact absurd hshown ring.callState.2.2.2
    · exact ⟨Subtype.ext hshown.symm, htold⟩
  · rintro ⟨call, hcall, hstate, htold⟩
    refine ⟨call, hcall, hstate ▸ hr, ?_⟩
    rw [ReportedCall.shownState, if_neg htold, hstate]

include hmem hlast hdisc

theorem due_not_ringing (hring : s.ringingCall = none) :
    Due before (s.updateCallState callObject nextState) op ↔
      ((∃ call ∈ callObject, call.callState.1 = .disconnected) → s.EndsOnHook) := by
  set s' := s.updateCallState callObject nextState with hs'
  have hvoip' : s'.voIPCallState = s.voIPCallState := report_voIPCallState s _
  have hvstate : s'.getVoipCallState = s.getVoipCallState := by
    rw [getVoipCallState, hvoip', getVoipCallState]
  have hquiet : ¬ ∃ call ∈ s'.carrierCalls, GoesFirst op call := by
    rintro ⟨call, hcall, hfirst | hfirst⟩
    · rw [hs', updateCallState_carrierCalls] at hcall
      exact not_ringing_of_ringingCall hring hcall hfirst
    · exact hop _ hfirst
  by_cases hvoip : s.voIPCallState = .ringing ∨ s.voIPCallState = .answered
  · have hinfo := reportInfo_voip hnext hring hmem hvoip
    have hlast' : s'.lastState = some s.getVoipCallState := by
      rw [hs', updateCallState,
        lastState_report hs (by rw [hinfo]; exact (getVoipCallState_ne s).1), hinfo,
        if_neg (getVoipCallState_ne s).2]
    rw [due_of_voip hquiet (by rwa [hvoip']), hvstate]
    refine ⟨fun _ _ hoff => ?_, fun _ => hlast'⟩
    simp [hoff] at hvoip
  cases hup : s.upCall with
  | some up =>
    have hinfo := reportInfo_up hnext hring hmem hvoip hup
    have hlast' : s'.lastState = some up.callState.1 := by
      rw [hs', updateCallState, lastState_report hs (by rw [hinfo]; exact up.callState.2.1), hinfo,
        if_neg (upCall_mem hup).2.ne_disconnecting]
    rw [due_of_upCall hquiet (by rwa [hvoip']) (by rwa [hs', updateCallState_upCall])]
    refine ⟨fun _ _ _ => .inr ?_, fun _ => hlast'⟩
    simp [hup]
  | none =>
    rw [due_of_end hquiet (by rwa [hvoip']) (by rwa [hs', updateCallState_upCall]), hvoip', hdisc]
    have hinfo := reportInfo_end hnext hring hmem hvoip hup
    cases hobject : callObject with
    | none =>
      have hlast' : s'.lastState = some s.getVoipCallState := by
        rw [hobject, Option.map_none, Option.getD_none] at hinfo
        rw [hs', updateCallState, hobject,
          lastState_report hs (by rw [hinfo]; exact (getVoipCallState_ne s).1), hinfo,
          if_neg (getVoipCallState_ne s).2]
      rw [hlast', getVoipCallState_of_not_rings hvoip]
      split_ifs <;> simp
    | some call =>
      rw [hobject, Option.map_some, Option.getD_some] at hinfo
      have hcall := hmem call hobject
      have hlast' : s'.lastState =
          if call.callState.1 = .disconnecting then s.lastState else some call.callState.1 := by
        rw [hs', updateCallState, hobject,
          lastState_report hs (by rw [hinfo]; exact call.callState.2.1), hinfo]
      rcases ended_of_not_live (not_ringing_of_ringingCall hring hcall) (not_up_of_upCall hup hcall)
        with hstate | hstate
      · rw [if_neg (by simp [hstate]), hstate] at hlast'
        simp [hlast', hstate, EndsOnHook, hring, hup]
      · rw [if_pos hstate, hlast] at hlast'
        simp [hlast', hstate]

/-- What the code reports is due iff no answered call goes first as ringing and no end
    stands in for VoIP. -/
theorem due_notified_iff :
    Due before (s.updateCallState callObject nextState) op ↔
      s.RingsUnanswered ∧
        ((∃ call ∈ callObject, call.callState.1 = .disconnected) → s.EndsOnHook) := by
  cases hring : s.ringingCall with
  | some ring =>
    rw [due_ringing hs hnext hop hring]
    refine ⟨fun h => ⟨h, fun _ _ => .inl ?_⟩, And.left⟩
    simp [hring]
  | none =>
    rw [due_not_ringing hs hlast hnext hmem hop hdisc hring]
    refine ⟨fun h => ⟨?_, h⟩, And.right⟩
    simp [RingsUnanswered, hring]

end Notified

/-! ## The store under a notification -/

theorem mem_carrierCalls {call : ReportedCall} :
    call ∈ s.carrierCalls ↔ call ∈ s.calls.entries ∧ call.callType ≠ .voip := by
  simp [carrierCalls]

/-- A carrier call with an id is the one that the lookup of the id finds. -/
theorem carrierCall_iff_lookup {callId : ℤ} {call : ReportedCall} :
    call ∈ s.carrierCalls ∧ call.callId = callId ↔
      s.calls.lookup callId = some call ∧ call.callType ≠ .voip := by
  rw [mem_carrierCalls]
  constructor
  · rintro ⟨⟨hmem, htype⟩, rfl⟩
    exact ⟨OrderedMap.lookup_key hmem, htype⟩
  · rintro ⟨hlook, htype⟩
    exact ⟨⟨(OrderedMap.lookup_spec hlook).1, htype⟩, (OrderedMap.lookup_spec hlook).2⟩

section Modify

variable {callId : ℤ} {f : ReportedCall → ReportedCall}
  (hid : ∀ call, (f call).callId = call.callId)
  (htype : ∀ call, (f call).callType = call.callType)
include htype

theorem mem_carrierCalls_modify {s' : ReportState} (hcalls : s'.calls = s.calls.modify callId f hid)
    {call : ReportedCall} :
    call ∈ s'.carrierCalls ↔
      ∃ old ∈ s.carrierCalls, call = if old.callId = callId then f old else old := by
  have hentries : s'.calls.entries =
      s.calls.entries.map fun old => if old.callId = callId then f old else old := by
    rw [hcalls]; rfl
  simp only [mem_carrierCalls, hentries, List.mem_map]
  constructor
  · rintro ⟨⟨old, hold, rfl⟩, hcarrier⟩
    refine ⟨old, ⟨hold, ?_⟩, rfl⟩
    split_ifs at hcarrier with h
    · rwa [htype] at hcarrier
    · exact hcarrier
  · rintro ⟨old, ⟨hold, hcarrier⟩, rfl⟩
    refine ⟨⟨old, hold, rfl⟩, ?_⟩
    split_ifs with h
    · rwa [htype]
    · exact hcarrier

/-- What a notification of `shown` does to the slots: no slot loses its right report, but
    the slot of the call gets a wrong one if a call ends while another is live. -/
theorem slotsRight_notified (hs : SlotsRight s) {s' : ReportState}
    (hcalls : s'.calls = s.calls.modify callId f hid) {call : ReportedCall}
    (hlook : s.calls.lookup callId = some call) (shown : TelCallState)
    (hslot : (f call).slotId = call.slotId)
    (hlive : shown = .disconnecting → ¬ (Ringing (f call).callState ∨ Up (f call).callState))
    (hlast : ∀ slotId, s'.lastSlotState slotId =
      if shown = .disconnecting then s.lastSlotState slotId
      else if call.slotId = slotId then some shown else s.lastSlotState slotId) :
    SlotsRight s' ↔ (shown = .disconnected → s'.SlotFree call.slotId) := by
  constructor
  · rintro hright rfl other hother hslotId htold hother'
    refine hright other hother htold hother' ?_
    rw [hlast, if_neg (by decide), if_pos hslotId.symm]
  · intro hfree other hother htold hother'
    rw [hlast]
    obtain ⟨old, hold, heq⟩ := (mem_carrierCalls_modify hid htype hcalls).mp hother
    by_cases hthis : old.callId = callId
    · have hcall : old = call := by
        have := OrderedMap.lookup_key (mem_carrierCalls.mp hold).1
        rw [hthis, hlook] at this
        exact (Option.some.inj this).symm
      rw [if_pos hthis, hcall] at heq
      have hne : shown ≠ .disconnecting := fun h => hlive h (heq ▸ hother')
      rw [if_neg hne, if_pos (by rw [heq, hslot])]
      rintro hended
      exact hfree (Option.some.inj hended) other hother (by rw [heq, hslot]) htold hother'
    · rw [if_neg hthis] at heq
      subst heq
      split_ifs with hdisc hsame
      · exact hs other hold htold hother'
      · rintro hended
        exact hfree (Option.some.inj hended) other hother hsame.symm htold hother'
      · exact hs other hold htold hother'

end Modify

/-- The last state of each slot after the report of a call that is shown as `shown`. -/
theorem lastSlotState_updateCallStateForSlotId (call : ReportedCall) (nextState : TelCallState)
    (slotId : ℤ) :
    (s.updateCallStateForSlotId call nextState).lastSlotState slotId =
      let shown := if nextState = .answered then .answered else call.callState.1
      if shown = .disconnecting then s.lastSlotState slotId
      else if call.slotId = slotId then some shown else s.lastSlotState slotId := by
  unfold updateCallStateForSlotId lastSlotState ReportedCall.getCallAttributeInfo
  by_cases hanswered : nextState = .answered
  · by_cases hslot : call.slotId = slotId <;> simp [hanswered, hslot]
  · by_cases hdisc : call.callState.1 = .disconnecting
    · simp [hanswered, hdisc]
    · by_cases hslot : call.slotId = slotId <;> simp [hanswered, hdisc, hslot]

/-! ## Steps -/

theorem reportInfo_known (callObject : Option ReportedCall) (nextState : TelCallState) :
    (s.reportInfo callObject nextState).callState ≠ .unknown := by
  have hvoip := (getVoipCallState_ne s).1
  have hcall : ∀ call : ReportedCall, call.getCallAttributeInfo.callState ≠ .unknown :=
    fun call => call.callState.2.1
  unfold reportInfo
  dsimp only
  split
  · split_ifs
    · exact TelCallState.noConfusion
    · exact hcall _
    · exact hvoip
    · exact hcall _
  · exact hvoip

/-- The reports of a step are one `UpdateCallState` or none. -/
theorem updateCallState_remembered (hs : Remembered s) (callObject : Option ReportedCall)
    (nextState : TelCallState) : Remembered (s.updateCallState callObject nextState) :=
  hs.report (reportInfo_known callObject nextState)

theorem Remembered.callStateUpdated (hs : Remembered s) (callObject : ReportedCall)
    (nextState : TelCallState) : Remembered (s.callStateUpdated callObject nextState) := by
  unfold ReportState.callStateUpdated
  split_ifs
  · exact hs
  · have hreported := updateCallState_remembered hs (some callObject) nextState
    obtain ⟨slotReports, heq⟩ := updateCallStateForSlotId_eq
      (s.updateCallState (some callObject) nextState) callObject nextState
    rw [heq]
    exact hreported.congr rfl rfl

theorem Remembered.step (hs : Remembered s) (op : Op) : Remembered (step s op) := by
  cases op with
  | added call => exact hs.congr rfl rfl
  | deleted callId => exact hs.congr rfl rfl
  | refreshed callId callType accountNumber =>
    unfold CallStateReport.step
    dsimp only
    split
    · exact hs
    · split_ifs
      · exact hs
      · exact hs.congr rfl rfl
  | updated callId nextState =>
    unfold CallStateReport.step
    dsimp only
    split
    · exact hs
    · exact Remembered.callStateUpdated (s := s.withState _ _) (hs.congr rfl rfl) _ _
  | answered callId =>
    unfold CallStateReport.step
    dsimp only
    split
    · exact hs
    · exact Remembered.callStateUpdated (s := s.withAnswer _) (hs.congr rfl rfl) _ _
  | setVoIPCallState state =>
    exact updateCallState_remembered (s := { s with voIPCallState := state }) (hs.congr rfl rfl) _ _

/-- An operation that is no notification of a carrier call leaves the carrier calls and
    the slots alone, or takes calls away, or adds one no listener was told of. -/
theorem slotsRight_of_subset (hs : SlotsRight s) {s' : ReportState}
    (hslots : s'.slotReports = s.slotReports)
    (hcalls : ∀ call ∈ s'.carrierCalls, call.told ≠ none →
      ∃ old ∈ s.carrierCalls, old.told = call.told ∧ old.callState = call.callState ∧
        old.slotId = call.slotId) : SlotsRight s' := by
  intro call hcall htold hlive
  obtain ⟨old, hold, htold', hstate, hslot⟩ := hcalls call hcall htold
  rw [← htold'] at htold
  rw [← hstate] at hlive
  rw [lastSlotState, hslots, ← hslot]
  exact hs old hold htold hlive

section CallStateUpdated

variable {callObject : ReportedCall} {nextState : TelCallState}

@[simp] theorem callStateUpdated_calls :
    (s.callStateUpdated callObject nextState).calls = s.calls := by
  unfold callStateUpdated
  split_ifs
  · rfl
  · obtain ⟨slotReports, heq⟩ := updateCallStateForSlotId_eq
      (s.updateCallState (some callObject) nextState) callObject nextState
    rw [heq]
    exact report_calls s _

variable (hcarrier : callObject.callType ≠ .voip)
include hcarrier

theorem due_callStateUpdated {before : ReportState} {op : Op} :
    Due before (s.callStateUpdated callObject nextState) op ↔
      Due before (s.updateCallState (some callObject) nextState) op := by
  obtain ⟨slotReports, heq⟩ := updateCallStateForSlotId_eq
    (s.updateCallState (some callObject) nextState) callObject nextState
  rw [callStateUpdated, if_neg hcarrier, heq]
  exact due_congr rfl rfl rfl

theorem lastSlotState_callStateUpdated (slotId : ℤ) :
    (s.callStateUpdated callObject nextState).lastSlotState slotId =
      let shown := if nextState = .answered then .answered else callObject.callState.1
      if shown = .disconnecting then s.lastSlotState slotId
      else if callObject.slotId = slotId then some shown else s.lastSlotState slotId := by
  have hslots : (s.updateCallState (some callObject) nextState).lastSlotState slotId =
      s.lastSlotState slotId := by
    rw [lastSlotState, updateCallState, report_slotReports, lastSlotState]
  rw [callStateUpdated, if_neg hcarrier, lastSlotState_updateCallStateForSlotId, hslots]

end CallStateUpdated

section Carrier

variable {callId : ℤ} {call : ReportedCall} (hlook : s.calls.lookup callId = some call)
include hlook

theorem step_updated (nextState : CallState) :
    step s (.updated callId nextState) =
      (s.withState callId nextState).callStateUpdated (call.setTelCallState nextState)
        nextState := by
  simp [step, hlook]

theorem step_answered :
    step s (.answered callId) =
      (s.withAnswer callId).callStateUpdated (call.setTold .answered) .answered := by
  simp [step, hlook]

variable (hcarrier : call.callType ≠ .voip)
include hcarrier

/-- The notified object is the stored one. -/
theorem setTelCallState_mem (nextState : CallState) :
    call.setTelCallState nextState ∈ (s.withState callId nextState).carrierCalls := by
  refine (mem_carrierCalls_modify (f := (·.setTelCallState nextState)) (fun _ => rfl)
    (fun _ => rfl) rfl).mpr ⟨call, ?_, ?_⟩
  · exact (carrierCall_iff_lookup.mpr ⟨hlook, hcarrier⟩).1
  · rw [if_pos (OrderedMap.lookup_spec hlook).2]

theorem setTold_mem : call.setTold .answered ∈ (s.withAnswer callId).carrierCalls := by
  refine (mem_carrierCalls_modify (f := (·.setTold .answered)) (fun _ => rfl)
    (fun _ => rfl) rfl).mpr ⟨call, ?_, ?_⟩
  · exact (carrierCall_iff_lookup.mpr ⟨hlook, hcarrier⟩).1
  · rw [if_pos (OrderedMap.lookup_spec hlook).2]

theorem due_updated (hs : Remembered s) (nextState : CallState) :
    Due s (step s (.updated callId nextState)) (.updated callId nextState) ↔
      (s.withState callId nextState).RingsUnanswered ∧
        (nextState.1 = .disconnected → (s.withState callId nextState).EndsOnHook) := by
  have hmem := setTelCallState_mem hlook hcarrier nextState
  have hlast : (s.withState callId nextState).lastState = s.lastState := rfl
  rw [step_updated hlook, due_callStateUpdated (by exact hcarrier),
    due_notified_iff (s := s.withState callId nextState) (hs.congr rfl rfl) hlast
      nextState.2.2.2]
  · simp [ReportedCall.setTelCallState]
  · simpa using hmem
  · simp
  · simp [Disconnecting, ReportedCall.setTelCallState]

theorem slotsRight_updated (hs : SlotsRight s) (nextState : CallState) :
    SlotsRight (step s (.updated callId nextState)) ↔
      (nextState.1 = .disconnected → (s.withState callId nextState).SlotFree call.slotId) := by
  rw [step_updated hlook]
  have hstate : (if nextState.1 = .answered then .answered
      else (call.setTelCallState nextState).callState.1) = nextState.1 :=
    if_neg nextState.2.2.2
  have hcalls : ((s.withState callId nextState).callStateUpdated (call.setTelCallState nextState)
      nextState).calls = (s.withState callId nextState).calls := callStateUpdated_calls
  have hright := slotsRight_notified (f := (·.setTelCallState nextState)) (fun _ => rfl)
    (fun _ => rfl) hs hcalls hlook nextState.1 rfl ?_ fun slotId => ?_
  · rw [hright]
    unfold SlotFree
    rw [carrierCalls, hcalls, carrierCalls]
  · intro hdisc
    simp [ReportedCall.setTelCallState, hdisc, Ringing, Up]
  · rw [lastSlotState_callStateUpdated (by exact hcarrier), hstate]
    rfl

/-- The report that a call is answered is due, and changes nothing for the slots. -/
theorem due_answered (hs : Remembered s) :
    Due s (step s (.answered callId)) (.answered callId) := by
  have hmem := setTold_mem hlook hcarrier
  rw [step_answered hlook, due_callStateUpdated (by exact hcarrier), due_of_goesFirst]
  · refine ⟨call.setTold .answered, by simpa using hmem, .inr ?_, ?_⟩
    · rw [← (OrderedMap.lookup_spec hlook).2]
      rfl
    · rw [updateCallState, lastState_report (s := s.withAnswer callId) (hs.congr rfl rfl)
        (reportInfo_known _ _), reportInfo_answered]
      rfl
  · refine ⟨call.setTold .answered, by simpa using hmem, .inr ?_⟩
    rw [← (OrderedMap.lookup_spec hlook).2]
    rfl

theorem slotsRight_answered (hs : SlotsRight s) : SlotsRight (step s (.answered callId)) := by
  rw [step_answered hlook]
  have hcalls : ((s.withAnswer callId).callStateUpdated (call.setTold .answered)
      .answered).calls = (s.withAnswer callId).calls := callStateUpdated_calls
  refine (slotsRight_notified (f := (·.setTold .answered)) (fun _ => rfl) (fun _ => rfl) hs
    hcalls hlook .answered rfl ?_ fun slotId => ?_).mpr ?_
  · exact nofun
  · rw [lastSlotState_callStateUpdated (by exact hcarrier)]
    rfl
  · exact nofun

end Carrier

theorem slotsRight_voip_updated {callId : ℤ} {call : ReportedCall}
    (hlook : s.calls.lookup callId = some call) (hvoip : call.callType = .voip) {s' : ReportState}
    {f : ReportedCall → ReportedCall} (hid : ∀ call, (f call).callId = call.callId)
    (htype : ∀ call, (f call).callType = call.callType)
    (hcalls : s'.calls = s.calls.modify callId f hid) (hslots : s'.slotReports = s.slotReports)
    (hs : SlotsRight s) : SlotsRight s' := by
  refine slotsRight_of_subset hs hslots fun other hother _ => ?_
  obtain ⟨old, hold, heq⟩ := (mem_carrierCalls_modify hid htype hcalls).mp hother
  refine ⟨old, hold, ?_⟩
  rw [if_neg] at heq
  · rw [heq]
    exact ⟨rfl, rfl, rfl⟩
  · rintro hthis
    have hfound := carrierCall_iff_lookup.mp ⟨hold, hthis⟩
    rw [hlook] at hfound
    exact hfound.2 (Option.some.inj hfound.1 ▸ hvoip)

theorem due_setVoIPCallState (hs : Remembered s) (state : CallStateToApp) :
    Due s (step s (.setVoIPCallState state)) (.setVoIPCallState state) ↔ s.RingsUnanswered := by
  set changed : ReportState := { s with voIPCallState := state }
  have hlast : changed.lastState = s.lastState := rfl
  have hnotified :
      Due s (changed.updateCallState none .idle) (.setVoIPCallState state) ↔ _ :=
    due_notified_iff (hs.congr rfl rfl) hlast (by decide) (by simp) (by simp)
      (by simp [Disconnecting])
  refine hnotified.trans ⟨And.left, fun h => ⟨h, ?_⟩⟩
  simp

theorem slotsRight_setVoIPCallState (hs : SlotsRight s) (state : CallStateToApp) :
    SlotsRight (step s (.setVoIPCallState state)) := by
  refine slotsRight_of_subset hs (report_slotReports _ _) fun call hcall _ => ?_
  have hcall' : call ∈ s.carrierCalls := by
    rw [mem_carrierCalls] at hcall ⊢
    have hcalls : (step s (.setVoIPCallState state)).calls = s.calls := report_calls _ _
    rwa [hcalls] at hcall
  exact ⟨call, hcall', rfl, rfl, rfl⟩

theorem slotsRight_added (hs : SlotsRight s) (call : ReportedCall) :
    SlotsRight (step s (.added call)) := by
  refine slotsRight_of_subset hs rfl fun other hother htold => ?_
  set newCall : ReportedCall := { call with told := none } with hnew
  have hentries : (step s (.added call)).calls = s.calls.insert newCall := rfl
  rw [mem_carrierCalls, hentries] at hother
  by_cases hmem : s.calls.Mem newCall.callId
  · rw [OrderedMap.entries_insert_of_mem hmem] at hother
    exact ⟨other, mem_carrierCalls.mpr hother, rfl, rfl, rfl⟩
  · rw [OrderedMap.entries_insert_of_not_mem hmem, List.mem_append, List.mem_singleton] at hother
    rcases hother with ⟨hold | rfl, hcarrier⟩
    · exact ⟨other, mem_carrierCalls.mpr ⟨hold, hcarrier⟩, rfl, rfl, rfl⟩
    · exact absurd rfl htold

theorem slotsRight_deleted (hs : SlotsRight s) (callId : ℤ) :
    SlotsRight (step s (.deleted callId)) := by
  refine slotsRight_of_subset hs rfl fun other hother _ => ⟨other, ?_, rfl, rfl, rfl⟩
  obtain ⟨hmem, hcarrier⟩ := mem_carrierCalls.mp hother
  exact mem_carrierCalls.mpr ⟨List.mem_of_mem_filter hmem, hcarrier⟩

theorem slotsRight_refreshed (hs : SlotsRight s) (callId : ℤ) (callType : CallType)
    (accountNumber : AccountNumber) :
    SlotsRight (step s (.refreshed callId callType accountNumber)) := by
  cases hlook : s.calls.lookup callId with
  | none => simpa [step, hlook] using hs
  | some call =>
    by_cases hvoip : call.callType = .voip ∨ callType = .voip
    · simpa [step, hlook, hvoip] using hs
    have hstep : step s (.refreshed callId callType accountNumber) =
        { s with
          calls := (s.calls.erase callId).insert
            { call with callType := callType, accountNumber := accountNumber } } := by
      simp [step, hlook, hvoip]
    refine slotsRight_of_subset hs (by rw [hstep]) fun other hother _ => ?_
    rw [hstep, mem_carrierCalls, OrderedMap.entries_insert_of_not_mem, List.mem_append,
      List.mem_singleton] at hother
    · rcases hother with ⟨hold | rfl, hcarrier⟩
      · exact ⟨other, mem_carrierCalls.mpr ⟨List.mem_of_mem_filter hold, hcarrier⟩, rfl, rfl, rfl⟩
      · push Not at hvoip
        exact ⟨call, (carrierCall_iff_lookup.mpr ⟨hlook, hvoip.1⟩).1, rfl, rfl, rfl⟩
    · rw [OrderedMap.mem_erase]
      exact fun h => h.1 (OrderedMap.lookup_spec hlook).2

/-- A call of the id is found, and is a carrier call, or nothing is notified. -/
theorem notifies_iff {callId : ℤ} :
    (∃ call ∈ s.carrierCalls, call.callId = callId) ↔
      ∃ call, s.calls.lookup callId = some call ∧ call.callType ≠ .voip :=
  exists_congr fun _ => carrierCall_iff_lookup

theorem stepOk_updated (hs : Remembered s) (hslots : SlotsRight s) (callId : ℤ)
    (nextState : CallState) :
    SlotsRight (step s (.updated callId nextState)) ∧ StepDue s (.updated callId nextState) ↔
      Reportable s (.updated callId nextState) := by
  have hreportable : Reportable s (.updated callId nextState) ↔
      ∀ call, s.calls.lookup callId = some call ∧ call.callType ≠ .voip →
        (s.withState callId nextState).RingsUnanswered ∧
          (nextState.1 = .disconnected → (s.withState callId nextState).EndsOnHook ∧
            (s.withState callId nextState).SlotFree call.slotId) :=
    forall_congr' fun call => by rw [← carrierCall_iff_lookup, and_imp]
  have hdue : StepDue s (.updated callId nextState) ↔
      ∀ call, s.calls.lookup callId = some call ∧ call.callType ≠ .voip →
        Due s (step s (.updated callId nextState)) (.updated callId nextState) := by
    show ((∃ call ∈ s.carrierCalls, call.callId = callId) → _) ↔ _
    rw [notifies_iff]
    exact forall_exists_index
  rw [hreportable, hdue]
  cases hlook : s.calls.lookup callId with
  | none => simpa [step, hlook] using hslots
  | some call =>
    by_cases hvoip : call.callType = .voip
    · have hright : SlotsRight (step s (.updated callId nextState)) := by
        refine slotsRight_voip_updated hlook hvoip (f := (·.setTelCallState nextState))
          (fun _ => rfl) (fun _ => rfl) ?_ ?_ hslots
        · rw [step_updated hlook, callStateUpdated_calls]
          rfl
        · rw [step_updated hlook, callStateUpdated, if_pos (by exact hvoip)]
          rfl
      simp [hright, hvoip]
    · have hone : ∀ {P : ReportedCall → Prop},
          (∀ other, some call = some other ∧ other.callType ≠ .voip → P other) ↔ P call := by
        intro P
        constructor
        · exact fun h => h call ⟨rfl, hvoip⟩
        · rintro h other ⟨heq, -⟩
          exact Option.some.inj heq ▸ h
      rw [hone, hone, due_updated hlook hvoip hs, slotsRight_updated hlook hvoip hslots,
        forall_and, and_left_comm, and_comm (a := _ → SlotFree _ _)]

theorem stepOk_answered (hs : Remembered s) (hslots : SlotsRight s) (callId : ℤ) :
    SlotsRight (step s (.answered callId)) ∧ StepDue s (.answered callId) := by
  cases hlook : s.calls.lookup callId with
  | none =>
    refine ⟨by simpa [step, hlook] using hslots, fun hnotifies => ?_⟩
    obtain ⟨call, hcall, -⟩ := notifies_iff.mp hnotifies
    rw [hlook] at hcall
    exact absurd hcall (by simp)
  | some call =>
    by_cases hvoip : call.callType = .voip
    · refine ⟨?_, fun hnotifies => ?_⟩
      · refine slotsRight_voip_updated hlook hvoip (f := (·.setTold .answered))
          (fun _ => rfl) (fun _ => rfl) ?_ ?_ hslots
        · rw [step_answered hlook, callStateUpdated_calls]
          rfl
        · rw [step_answered hlook, callStateUpdated, if_pos (by exact hvoip)]
          rfl
      · obtain ⟨other, hother, hcarrier⟩ := notifies_iff.mp hnotifies
        rw [hlook] at hother
        exact absurd (Option.some.inj hother ▸ hvoip) hcarrier
    · exact ⟨slotsRight_answered hlook hvoip hslots, fun _ => due_answered hlook hvoip hs⟩

/-- **One step.** The slots stay right and what is due is reported iff the step is reportable. -/
theorem stepOk_iff (hs : Remembered s) (hslots : SlotsRight s) (op : Op) :
    SlotsRight (step s op) ∧ StepDue s op ↔ Reportable s op := by
  cases op with
  | added call => exact iff_of_true ⟨slotsRight_added hslots call, nofun⟩ trivial
  | deleted callId => exact iff_of_true ⟨slotsRight_deleted hslots callId, nofun⟩ trivial
  | refreshed callId callType accountNumber =>
    exact iff_of_true ⟨slotsRight_refreshed hslots callId callType accountNumber, nofun⟩ trivial
  | updated callId nextState => exact stepOk_updated hs hslots callId nextState
  | answered callId => exact iff_of_true (stepOk_answered hs hslots callId) trivial
  | setVoIPCallState state =>
    have hright := slotsRight_setVoIPCallState hslots state
    have hdue : StepDue s (.setVoIPCallState state) ↔ s.RingsUnanswered :=
      (forall_prop_of_true trivial).trans (due_setVoIPCallState hs state)
    rw [hdue]
    exact and_iff_right hright

theorem init_remembered : Remembered init where
  current := rfl
  known := nofun
  noRepeats := List.IsChain.nil

theorem init_slotsRight : SlotsRight init := by
  intro call hcall
  simp [mem_carrierCalls, init] at hcall

end ReportState

open ReportState Run

/-- **The reports.** Throughout a run no report repeats the one before it, the slots are
    right and every notification reports what is due, iff every step is reportable. -/
theorem reports_iff (ops : List Op) :
    StatesMeet step (fun s => NoRepeats s ∧ SlotsRight s) init ops ∧
        StepsMeet step StepDue init ops ↔
      StepsMeet step Reportable init ops := by
  have hremembered : StatesMeet step Remembered init ops :=
    statesMeet_of_invariant (fun s op hs => hs.step op) ops init_remembered
  have hrule : StatesMeet step (fun s => Remembered s ∧ SlotsRight s) init ops ∧
      StepsMeet step StepDue init ops ↔ StepsMeet step Reportable init ops :=
    statesMeet_and_stepsMeet_iff (fun s op hs => by
      rw [← stepOk_iff hs.1 hs.2 op, and_assoc]
      exact and_iff_right (hs.1.step op)) ops ⟨init_remembered, init_slotsRight⟩
  rw [← hrule]
  constructor
  · rintro ⟨hstates, hsteps⟩
    refine ⟨hremembered.and (hstates.mono fun s hs => hs.2), hsteps⟩
  · rintro ⟨hstates, hsteps⟩
    exact ⟨hstates.mono fun s hs => ⟨hs.1.noRepeats, hs.2⟩, hsteps⟩

/-! ## Runs that depart -/

instance (s : ReportState) (op : Op) : Decidable (Notifies s op) := by
  cases op <;> unfold Notifies <;> infer_instance

instance (op : Op) : Decidable (Disconnecting op) := by
  cases op <;> unfold Disconnecting <;> infer_instance

instance (s s' : ReportState) (op : Op) : Decidable (Due s s' op) := by
  unfold Due
  cases s'.upCall <;> infer_instance

instance (s : ReportState) (op : Op) : Decidable (StepDue s op) := by
  unfold StepDue
  infer_instance

instance (s : ReportState) : Decidable (SlotsRight s) := by
  unfold SlotsRight
  infer_instance

/-- A carrier call that begins to ring, is active or ends, before any listener knows. -/
def newCall (callId slotId : ℤ) (callState : CallState) : ReportedCall where
  callId := callId
  slotId := slotId
  callType := .ims
  callState := callState
  accountNumber := ⟨"100", by decide⟩
  told := none

def incoming : CallState := ⟨.incoming, by decide⟩

def active : CallState := ⟨.active, by decide⟩

def disconnected : CallState := ⟨.disconnected, by decide⟩

/-- A ringing call is answered, and the VoIP state is set before the modem reports it. -/
def answeredRingsAgain : List Op :=
  [.added (newCall 1 0 incoming), .updated 1 incoming, .answered 1, .setVoIPCallState .idle]

/-- The last carrier call ends while a VoIP call is off hook. -/
def endedOffHook : List Op :=
  [.added (newCall 1 0 active), .updated 1 active, .setVoIPCallState .offhook,
    .updated 1 disconnected]

/-- One of the two calls of a slot ends. -/
def endedBesideAnother : List Op :=
  [.added (newCall 1 0 active), .updated 1 active, .added (newCall 2 0 incoming),
    .updated 2 incoming, .updated 2 disconnected]

/-- The answered call is reported as ringing again, the VoIP call off hook as
    disconnected, and the slot of an active call as disconnected. -/
theorem reports_depart :
    (¬ StepsMeet step StepDue init answeredRingsAgain ∧
      (run step init answeredRingsAgain).lastState = some .incoming) ∧
    (¬ StepsMeet step StepDue init endedOffHook ∧
      (run step init endedOffHook).lastState = some .disconnected) ∧
    (¬ StatesMeet step SlotsRight init endedBesideAnother ∧
      (run step init endedBesideAnother).lastSlotState 0 = some .disconnected) := by
  refine ⟨⟨by decide +kernel, by decide +kernel⟩, ⟨by decide +kernel, by decide +kernel⟩, ?_,
    by decide +kernel⟩
  intro h
  exact absurd h.last (by decide +kernel)

end CallManager.CallStateReport
