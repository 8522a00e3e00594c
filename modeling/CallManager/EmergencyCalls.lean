import CallManager.CallStatusManager
import CallManager.Library.OrderedMap
import CallManager.Library.Run

/-!
# Emergency calls and incoming reports

A report of an incoming or waiting call goes through five checks of
`CallStatusManager`: a pending dial is reported as disconnected, a stored call is
refreshed, a policy may stop the report, the call is rejected if there is an
emergency call, and otherwise other services may reject it before it is stored.

The report that a pending dial is disconnected goes to the queue of reports,
and ends the call when its turn comes. It is sent before anything asks whether
the pending call is an emergency call.

Specification: an emergency call stays as it is unless a step is about it, its
dial, the user's or the modem's end of it, or a report of the modem for it
(`Keeps`); and while there is an emergency call, the report of a new call sends no
report of disconnection for it, rejects the new call, and stores nothing
(`Rejects`).

The modem's other requests, the notifications, the contact data and the call log
are left out.

Results:
* `emergencyCall_protected`: the specification holds in every step of a run iff
  each step meets the condition, and then an emergency call stays stored, in its
  state, until a step is about it.
* `noEmergencyPending_iff`, `noEmergencyPending_of_index`: which dial is pending; only
  the policy matters once the modem has given each emergency call an index.
* `pending_emergencyCall_ended`: an incoming report ends a pending emergency call.
-/

namespace CallManager.EmergencyCalls

/-! ## The calls -/

/-- A call of the store, with `isEcc_` (carrier_call.h) and whether its direction is
    `CALL_DIRECTION_OUT`. -/
structure EccCall extends CallBase where
  isEcc : Bool
  isOutgoing : Bool
  deriving DecidableEq, Repr

namespace EccCall

/-- `SetTelCallState`. -/
def setTelCallState (c : EccCall) (nextState : TelCallState) : EccCall :=
  { c with toCallBase := (c.toCallBase.setTelCallState nextState).2 }

/-- The part of `RefreshCallIfNecessary` before the type is compared. -/
def refreshVideoState (info : CallDetailInfo) (c : EccCall) : EccCall :=
  { c with toCallBase := c.toCallBase.refreshVideoState info }

@[simp] theorem setTelCallState_callId (c : EccCall) (s : TelCallState) :
    (c.setTelCallState s).callId = c.callId :=
  c.toCallBase.setTelCallState_callId s

@[simp] theorem refreshVideoState_callId (info : CallDetailInfo) (c : EccCall) :
    (c.refreshVideoState info).callId = c.callId :=
  c.toCallBase.refreshVideoState_callId info

end EccCall

/-- `callObjectPtrList_`. -/
abbrev CallStore := OrderedMap fun c : EccCall => c.callId

/-- `AddOneCallObject`, as it is written or with the insertion. -/
def addOneCallObject (ins : Insertion) (calls : CallStore) (call : EccCall) : CallStore :=
  match ins with
  | .asWritten => calls
  | .restored => calls.insert call

/-- The store, the last id given to a call, the reports of disconnection in
    `reportCallInfoQueue`, and the calls that `RejectCall` was called for, the latest first. -/
structure EccWorld where
  calls : CallStore
  callId : ℤ
  reports : List CallDetailInfo
  rejected : List ℤ

/-- What the handling of an incoming report is told by others, beside what every report is told:
    the queue's guards, the distributed role, and `isEcc` of the last dial. `isRejectCall` says
    whether `IsRejectCall` has another reason than an emergency call. -/
structure IncomingEnv extends StatusEnv where
  hasCallStatusManager : Bool
  isDevProvisioned : Bool
  isTransferCall : Bool
  isSinkRole : Bool
  isConnected : Bool
  isDialEcc : Bool
  deriving DecidableEq, Repr

namespace EccWorld

/-! ## Lookups -/

/-- `GetOneCallObjectByIndex` (call_object_manager.cpp:707-717). -/
def getOneCallObjectByIndex (w : EccWorld) (index : ℤ) : Option EccCall :=
  w.calls.entries.find? fun it => it.index = index ∧ it.callType ≠ .voip

/-- `GetOneCallObjectByIndexSlotIdAndCallType` (call_object_manager.cpp:745-771), for the key of
    a report. -/
def getOneCallObjectByKey (w : EccWorld) (info : CallDetailInfo) : Option EccCall :=
  w.calls.entries.find? fun it =>
    CallObjectManager.MatchesKey info.index info.accountId info.callType info.phoneIndex
      it.toCallBase

/-- `HasEmergencyCall` (call_object_manager.cpp:450-461). -/
def hasEmergencyCall (w : EccWorld) : Bool := w.calls.entries.any fun it => it.isEcc

/-! ## A failed dial -/

/-- The report that `ReportCallDisconnected` makes of a call
    (call_object_manager.cpp:1059-1078). -/
def disconnectedReport (call : EccCall) : CallDetailInfo where
  index := call.index
  phoneNum := call.accountNumber
  accountId := call.slotId
  callType := call.callType
  callMode := call.videoState
  state := .disconnected
  mpty := 0
  phoneOrWatch := 0
  antiFraudState := 0
  phoneIndex := 0
  voipCallInfo := {}

/-- `ReportCallInfoHandler::UpdateCallReportInfo` for a report of disconnection
    (report_call_info_handler.cpp:51-102): the other guards are about other states. -/
def updateCallReportInfo (env : IncomingEnv) (w : EccWorld) (info : CallDetailInfo) : EccWorld :=
  if env.hasCallStatusManager = false then w
  else if env.isDevProvisioned = false ∧ info.callType = .bluetooth then w
  else if env.isTransferCall = true then w
  else { w with reports := w.reports ++ [info] }

/-- `DealFailDial` with `ReportCallDisconnected` (call_object_manager.cpp:1048-1081). -/
def dealFailDial (env : IncomingEnv) (w : EccWorld) (call : EccCall) : EccWorld :=
  if maxNumberLen < call.accountNumber.utf8ByteSize then w
  else w.updateCallReportInfo env (disconnectedReport call)

/-- What `RefreshOldCall` does first: a dial that is still pending has failed
    (call_status_manager.cpp:2796-2799). -/
def failPendingDial (env : IncomingEnv) (w : EccWorld) : EccWorld :=
  match w.getOneCallObjectByIndex StatusWorld.initIndex with
  | none => w
  | some initCall => w.dealFailDial env initCall

/-! ## The handlers -/

/-- `UpdateCallState`, as the store sees it. -/
def updateCallState (w : EccWorld) (callId : ℤ) (nextState : TelCallState) : EccWorld :=
  { w with calls := w.calls.modify callId (fun c => c.setTelCallState nextState) fun c =>
      c.setTelCallState_callId nextState }

/-- Whether a new object of this type is an emergency call: what `PackParaInfo` takes from the
    last dial for a call that is dialed (call_status_manager.cpp:2327-2334), unless it is a VoIP
    or an OTT call (ott_call.cpp:174-182). -/
def isEccOf (env : IncomingEnv) (callType : CallType) (isOutgoing : Bool) : Bool :=
  isOutgoing && env.isDialEcc && decide (callType ≠ .voip ∧ callType ≠ .ott)

/-- `RefreshCall` (call_status_manager.cpp:1884-1926): a new object takes the place of the old
    one, and its id. -/
def refreshCall (ins : Insertion) (env : IncomingEnv) (w : EccWorld) (call : EccCall)
    (info : CallDetailInfo) : EccWorld :=
  let w := { w with callId := w.callId + 1 }
  match CallBase.newCall env.toStatusEnv info call.callId with
  | none => w
  | some c =>
    let newCall : EccCall :=
      { toCallBase := c
        isEcc := isEccOf env info.callType call.isOutgoing
        isOutgoing := call.isOutgoing }
    { w with
      calls := addOneCallObject ins (w.calls.erase call.callId)
        (newCall.setTelCallState call.callState) }

/-- `RefreshCallIfNecessary` (call_status_manager.cpp:1860-1882). -/
def refreshCallIfNecessary (ins : Insertion) (env : IncomingEnv) (w : EccWorld) (call : EccCall)
    (info : CallDetailInfo) : EccWorld :=
  let w := { w with
    calls := w.calls.modify call.callId (EccCall.refreshVideoState info)
      (EccCall.refreshVideoState_callId info) }
  if call.callType = info.callType then w else w.refreshCall ins env call info

/-- `RefreshOldCall` (call_status_manager.cpp:2793-2818), with whether the call is stored. -/
def refreshOldCall (ins : Insertion) (env : IncomingEnv) (w : EccWorld) (info : CallDetailInfo) :
    Bool × EccWorld :=
  let w := w.failPendingDial env
  match w.getOneCallObjectByKey info with
  | none => (false, w)
  | some call =>
    if call.callType ≠ info.callType ∨ call.callState ≠ info.state ∨
        call.videoState ≠ info.callMode then
      let w := w.refreshCallIfNecessary ins env call info
      if call.callType ≠ info.callType ∨ call.videoState ≠ info.callMode then
        (true, w.updateCallState call.callId info.state)
      else (true, w)
    else (true, w)

/-- `PrepareIncomingCall` (call_status_manager.cpp:564-576): the result code, and whether the
    call is stored. -/
def prepareIncomingCall (ins : Insertion) (env : IncomingEnv) (w : EccWorld)
    (info : CallDetailInfo) : ErrorCode × Bool × EccWorld :=
  match w.refreshOldCall ins env info with
  | (true, w) => (.telephonySuccess, true, w)
  | (false, w) =>
    if info.callType = .cs ∨ info.callType = .ims ∨ info.callType = .satellite then
      (env.incomingFilterPolicy, false, w)
    else (.telephonySuccess, false, w)

/-- `ShouldRejectIncomingCall` and the rest of `IsRejectCall`
    (call_status_manager.cpp:2162-2179, 2387-2422). -/
def isRejectCall (env : IncomingEnv) (w : EccWorld) : Bool := w.hasEmergencyCall || env.isRejectCall

/-- `IncomingHandle` (call_status_manager.cpp:502-547) with `HandleRejectCall` (lines 719-740). -/
def incomingHandle (ins : Insertion) (env : IncomingEnv) (w : EccWorld) (info : CallDetailInfo) :
    EccWorld :=
  match w.prepareIncomingCall ins env info with
  | (ret, isExisted, w) =>
    if isExisted = true ∨ ret ≠ .telephonySuccess then w
    else
      let w := { w with callId := w.callId + 1 }
      match CallBase.newCall env.toStatusEnv info w.callId with
      | none => w
      | some c =>
        if ¬ (env.isSinkRole = true ∧ env.isConnected = true) ∧ w.isRejectCall env = true then
          { w with rejected := w.callId :: w.rejected }
        else if info.callType ≠ .voip ∧ info.callType ≠ .bluetooth ∧ env.isRingOnceCall = true then
          w
        else
          let call : EccCall := { toCallBase := c, isEcc := false, isOutgoing := false }
          { w with calls := addOneCallObject ins w.calls call }.updateCallState w.callId info.state

/-- `DisconnectedHandle` (call_status_manager.cpp:1472-1533), as the store sees it, for a report
    of the queue: the call of the report is deleted. Without one,
    `RefreshDialingStateByOtherState` (lines 2887-2905) dials a call for the report if a dial is
    pending, and that call is deleted at once. -/
def disconnectedHandle (w : EccWorld) (info : CallDetailInfo) : EccWorld :=
  match w.getOneCallObjectByKey info with
  | none =>
    if (w.getOneCallObjectByIndex StatusWorld.initIndex).isNone then w
    else { w with callId := w.callId + 1 }
  | some call => { w with calls := w.calls.erase call.callId }

/-- `DialingHandle` of a dial whose index is not known, as the store sees it
    (call_status_manager.cpp:968-998). -/
def dialingHandle (ins : Insertion) (w : EccWorld) (call : EccCall) : EccWorld :=
  let w := { w with callId := w.callId + 1 }
  { w with calls := addOneCallObject ins w.calls { call with callId := w.callId } }.updateCallState
    w.callId .dialing

/-! ## Runs -/

/-- A dial of the user; a report of the modem about a stored call, which gives it
    an index, a slot and a state; the end of a call by the user or the modem; the
    report of an incoming call; and the turn of the first report of the queue. -/
inductive EccOp
  | dialing (call : EccCall)
  | updated (callId index slotId : ℤ) (state : TelCallState)
  | ended (callId : ℤ)
  | incoming (env : IncomingEnv) (info : CallDetailInfo)
  | ownReport

/-- What a report of the modem writes to the call it is about. -/
def update (index slotId : ℤ) (state : TelCallState) (c : EccCall) : EccCall :=
  { c with index := index, slotId := slotId }.setTelCallState state

@[simp] theorem update_callId (index slotId : ℤ) (state : TelCallState) (c : EccCall) :
    (update index slotId state c).callId = c.callId :=
  EccCall.setTelCallState_callId _ _

/-- One step. -/
def step (ins : Insertion) (w : EccWorld) : EccOp → EccWorld
  | .dialing call => w.dialingHandle ins call
  | .updated callId index slotId state =>
    { w with
      calls := w.calls.modify callId (update index slotId state)
        (update_callId index slotId state) }
  | .ended callId => { w with calls := w.calls.erase callId }
  | .incoming env info => w.incomingHandle ins env info
  | .ownReport =>
    match w.reports with
    | [] => w
    | info :: rest => { w with reports := rest }.disconnectedHandle info

/-! ## Specification -/

/-- The step is the dial of this call, the end or a report of the modem for it, or
    an incoming report with its key. -/
def Concerns (w : EccWorld) (c : EccCall) : EccOp → Prop
  | .dialing _ => c.callId = w.callId + 1
  | .updated callId _ _ _ | .ended callId => c.callId = callId
  | .incoming _ info => w.getOneCallObjectByKey info = some c
  | .ownReport => False

instance (w : EccWorld) (c : EccCall) (op : EccOp) : Decidable (w.Concerns c op) := by
  cases op <;> unfold Concerns <;> infer_instance

/-- The device is not a distributed sink. -/
def NotSink : EccOp → Prop
  | .incoming env _ => env.isSinkRole = false
  | _ => True

instance (op : EccOp) : Decidable (NotSink op) := by
  cases op <;> unfold NotSink <;> infer_instance

/-- An emergency call that the step is not about stays as it is. -/
def Keeps (ins : Insertion) (w : EccWorld) (op : EccOp) : Prop :=
  ∀ c ∈ w.calls.entries, c.isEcc = true → ¬ w.Concerns c op → c ∈ (w.step ins op).calls.entries

/-- The report of a new carrier call comes in while there is an emergency call. -/
def NewDuringEmergency (w : EccWorld) (info : CallDetailInfo) : Prop :=
  (info.state = .incoming ∨ info.state = .waiting) ∧
    (info.callType = .cs ∨ info.callType = .ims ∨ info.callType = .satellite ∨
      info.callType = .bluetooth) ∧
    w.getOneCallObjectByKey info = none ∧ w.hasEmergencyCall = true

instance (w : EccWorld) (info : CallDetailInfo) : Decidable (w.NewDuringEmergency info) := by
  unfold NewDuringEmergency
  infer_instance

/-- The report is for an emergency call. -/
def ForEmergency (w : EccWorld) (report : CallDetailInfo) : Prop :=
  ∃ c ∈ w.getOneCallObjectByKey report, c.isEcc = true

instance (w : EccWorld) (report : CallDetailInfo) : Decidable (w.ForEmergency report) := by
  unfold ForEmergency
  infer_instance

/-- A new call is rejected while there is an emergency call, is not stored, and no
    report of disconnection is sent for an emergency call. -/
def Rejects (ins : Insertion) (w : EccWorld) : EccOp → Prop
  | .incoming env info =>
    w.NewDuringEmergency info →
      (w.incomingHandle ins env info).calls = w.calls ∧
      (w.incomingHandle ins env info).rejected = (w.callId + 1) :: w.rejected ∧
      ∀ report ∈ (w.incomingHandle ins env info).reports.drop w.reports.length,
        ¬ w.ForEmergency report
  | _ => True

/-- The specification of a step. -/
def Protects (ins : Insertion) (w : EccWorld) (op : EccOp) : Prop :=
  NotSink op → w.Keeps ins op ∧ w.Rejects ins op

/-- The policy lets the report in, if it is asked. -/
def PolicyAdmits (env : IncomingEnv) (info : CallDetailInfo) : Prop :=
  info.callType = .cs ∨ info.callType = .ims ∨ info.callType = .satellite →
    env.incomingFilterPolicy = .telephonySuccess

instance (env : IncomingEnv) (info : CallDetailInfo) : Decidable (PolicyAdmits env info) := by
  unfold PolicyAdmits
  infer_instance

/-- A report of disconnection of this call reaches the queue. -/
def Reportable (env : IncomingEnv) (call : EccCall) : Prop :=
  call.accountNumber.utf8ByteSize ≤ maxNumberLen ∧ env.hasCallStatusManager = true ∧
    (env.isDevProvisioned = true ∨ call.callType ≠ .bluetooth) ∧ env.isTransferCall = false

instance (env : IncomingEnv) (call : EccCall) : Decidable (Reportable env call) := by
  unfold Reportable
  infer_instance

/-- No report that `DealFailDial` sends is for an emergency call. -/
def NoEmergencyPending (env : IncomingEnv) (w : EccWorld) : Prop :=
  ∀ initCall ∈ w.getOneCallObjectByIndex StatusWorld.initIndex,
    Reportable env initCall → ¬ w.ForEmergency (disconnectedReport initCall)

instance (env : IncomingEnv) (w : EccWorld) : Decidable (w.NoEmergencyPending env) := by
  unfold NoEmergencyPending
  infer_instance

/-- What a step must meet: a new call is let in by the policy, and finds no emergency call that
    is pending; a report of the queue is for no emergency call. -/
def StepOk (w : EccWorld) : EccOp → Prop
  | .incoming env info =>
    env.isSinkRole = false → w.NewDuringEmergency info →
      PolicyAdmits env info ∧ w.NoEmergencyPending env
  | .ownReport => ∀ report ∈ w.reports.head?, ¬ w.ForEmergency report
  | _ => True

instance (w : EccWorld) (op : EccOp) : Decidable (w.StepOk op) := by
  cases op <;> unfold StepOk <;> infer_instance

/-! ## What the handlers change -/

variable {ins : Insertion} {env : IncomingEnv} {w : EccWorld} {info : CallDetailInfo}
  {c : EccCall}

theorem mem_of_key (h : w.getOneCallObjectByKey info = some c) : c ∈ w.calls.entries :=
  List.mem_of_find?_eq_some h

theorem matches_of_key (h : w.getOneCallObjectByKey info = some c) :
    CallObjectManager.MatchesKey info.index info.accountId info.callType info.phoneIndex
      c.toCallBase :=
  of_decide_eq_true (List.find?_some (p := fun it : EccCall => decide
    (CallObjectManager.MatchesKey info.index info.accountId info.callType info.phoneIndex
      it.toCallBase)) h)

theorem index_of_found {index : ℤ} (h : w.getOneCallObjectByIndex index = some c) :
    c.index = index ∧ c.callType ≠ .voip :=
  of_decide_eq_true (List.find?_some (p := fun it : EccCall => decide
    (it.index = index ∧ it.callType ≠ .voip)) h)

theorem hasEmergencyCall_of_mem (hc : c ∈ w.calls.entries) (hecc : c.isEcc = true) :
    w.hasEmergencyCall = true :=
  List.any_eq_true.mpr ⟨c, hc, hecc⟩

theorem mem_addOneCallObject {calls : CallStore} (ins : Insertion) (call : EccCall)
    (hc : c ∈ calls.entries) : c ∈ (addOneCallObject ins calls call).entries := by
  cases ins with
  | asWritten => exact hc
  | restored => exact OrderedMap.mem_entries_insert call hc

theorem mem_updateCallState {callId : ℤ} (state : TelCallState) (hc : c ∈ w.calls.entries)
    (hid : c.callId ≠ callId) : c ∈ (w.updateCallState callId state).calls.entries :=
  OrderedMap.mem_entries_modify (fun c => c.setTelCallState_callId state) hc hid

/-- `DealFailDial` sends one report, or none. -/
theorem dealFailDial_eq (env : IncomingEnv) (w : EccWorld) (call : EccCall) :
    w.dealFailDial env call =
      if Reportable env call then { w with reports := w.reports ++ [disconnectedReport call] }
      else w := by
  have htype : (disconnectedReport call).callType = call.callType := rfl
  unfold dealFailDial updateCallReportInfo
  rw [htype]
  by_cases hrep : Reportable env call
  · obtain ⟨hlen, hmgr, hprov, htransfer⟩ := hrep
    have hoobe : ¬ (env.isDevProvisioned = false ∧ call.callType = .bluetooth) := by
      rintro ⟨hnot, hbt⟩
      rcases hprov with hprov | hprov
      · simp [hnot] at hprov
      · exact hprov hbt
    rw [if_pos (show Reportable env call from ⟨hlen, hmgr, hprov, htransfer⟩),
      if_neg (by omega), if_neg (by simp [hmgr]), if_neg hoobe, if_neg (by simp [htransfer])]
  · rw [if_neg hrep]
    split_ifs with hlen hmgr hoobe htransfer
    · rfl
    · rfl
    · rfl
    · rfl
    · refine absurd ⟨by omega, by simpa using hmgr, ?_, by simpa using htransfer⟩ hrep
      by_cases hbt : call.callType = .bluetooth
      · exact .inl (by simpa [hbt] using hoobe)
      · exact .inr hbt

/-- A failed dial changes the queue only: the report of the pending call is added, if
    it is sent. -/
theorem failPendingDial_spec (env : IncomingEnv) (w : EccWorld) :
    ∃ sent, w.failPendingDial env = { w with reports := w.reports ++ sent } ∧
      ∀ report, report ∈ sent ↔
        ∃ initCall ∈ w.getOneCallObjectByIndex StatusWorld.initIndex,
          Reportable env initCall ∧ report = disconnectedReport initCall := by
  unfold failPendingDial
  cases hinit : w.getOneCallObjectByIndex StatusWorld.initIndex with
  | none => exact ⟨[], by simp, by simp⟩
  | some initCall =>
    simp only [dealFailDial_eq]
    by_cases hrep : Reportable env initCall
    · exact ⟨[disconnectedReport initCall], by rw [if_pos hrep], by simp [hrep]⟩
    · exact ⟨[], by rw [if_neg hrep]; simp, by simp [hrep]⟩

@[simp] theorem failPendingDial_calls (env : IncomingEnv) (w : EccWorld) :
    (w.failPendingDial env).calls = w.calls := by
  obtain ⟨sent, heq, -⟩ := failPendingDial_spec env w
  rw [heq]

@[simp] theorem failPendingDial_callId (env : IncomingEnv) (w : EccWorld) :
    (w.failPendingDial env).callId = w.callId := by
  obtain ⟨sent, heq, -⟩ := failPendingDial_spec env w
  rw [heq]

@[simp] theorem failPendingDial_rejected (env : IncomingEnv) (w : EccWorld) :
    (w.failPendingDial env).rejected = w.rejected := by
  obtain ⟨sent, heq, -⟩ := failPendingDial_spec env w
  rw [heq]

@[simp] theorem failPendingDial_key (env : IncomingEnv) (w : EccWorld) (info : CallDetailInfo) :
    (w.failPendingDial env).getOneCallObjectByKey info = w.getOneCallObjectByKey info := by
  rw [getOneCallObjectByKey, failPendingDial_calls]
  rfl

/-- A refresh of one call keeps the others. -/
theorem mem_refreshOldCall {call : EccCall} (hkey : w.getOneCallObjectByKey info = some call)
    (hc : c ∈ w.calls.entries) (hne : c ≠ call) :
    (w.refreshOldCall ins env info).1 = true ∧
      c ∈ (w.refreshOldCall ins env info).2.calls.entries := by
  have hid : c.callId ≠ call.callId := by
    intro h
    exact hne (OrderedMap.eq_of_key_eq hc (mem_of_key hkey) h)
  have hw : c ∈ (w.failPendingDial env).calls.entries := by
    rwa [failPendingDial_calls]
  have hrefresh : c ∈ ((w.failPendingDial env).refreshCallIfNecessary ins env call
      info).calls.entries := by
    have hvideo := OrderedMap.mem_entries_modify (k := call.callId)
      (EccCall.refreshVideoState_callId info) hw hid
    unfold refreshCallIfNecessary
    dsimp only
    split_ifs with htype
    · exact hvideo
    · unfold refreshCall
      dsimp only
      split
      · exact hvideo
      · exact mem_addOneCallObject ins _ (OrderedMap.mem_entries_erase hvideo hid)
  unfold refreshOldCall
  dsimp only
  rw [failPendingDial_key, hkey]
  dsimp only
  split_ifs with hchanged hupdate
  · exact ⟨rfl, mem_updateCallState info.state hrefresh hid⟩
  · exact ⟨rfl, hrefresh⟩
  · exact ⟨rfl, hw⟩

/-- The report of a stored call keeps the other calls. -/
theorem mem_incomingHandle {call : EccCall} (hkey : w.getOneCallObjectByKey info = some call)
    (hc : c ∈ w.calls.entries) (hne : c ≠ call) :
    c ∈ (w.incomingHandle ins env info).calls.entries := by
  obtain ⟨hexist, hmem⟩ : (w.refreshOldCall ins env info).1 = true ∧
      c ∈ (w.refreshOldCall ins env info).2.calls.entries := mem_refreshOldCall hkey hc hne
  have hprepare : w.prepareIncomingCall ins env info =
      (.telephonySuccess, true, (w.refreshOldCall ins env info).2) := by
    unfold prepareIncomingCall
    rw [show w.refreshOldCall ins env info = (true, (w.refreshOldCall ins env info).2) from
      Prod.ext hexist rfl]
  unfold incomingHandle
  rw [hprepare]
  simpa using hmem

theorem isRejectCall_of_emergency (h : w.hasEmergencyCall = true) : w.isRejectCall env = true := by
  rw [isRejectCall, h, Bool.true_or]

/-- Before it is created, a new call is stopped by the policy or by nothing. -/
theorem prepareIncomingCall_of_none (hkey : w.getOneCallObjectByKey info = none) :
    w.prepareIncomingCall ins env info =
      (if PolicyAdmits env info then .telephonySuccess else env.incomingFilterPolicy, false,
        w.failPendingDial env) := by
  have hrefresh : w.refreshOldCall ins env info = (false, w.failPendingDial env) := by
    unfold refreshOldCall
    dsimp only
    rw [failPendingDial_key, hkey]
  unfold prepareIncomingCall
  rw [hrefresh]
  dsimp only
  by_cases htype : info.callType = .cs ∨ info.callType = .ims ∨ info.callType = .satellite
  · rw [if_pos htype]
    split_ifs with hpolicy
    · rw [hpolicy htype]
    · rfl
  · rw [if_neg htype, if_pos (show PolicyAdmits env info from fun h => absurd h htype)]

/-- While there is an emergency call, the report of a new call sends the report of a
    failed dial, and then is stopped by the policy or rejected. -/
theorem incomingHandle_eq (hsink : env.isSinkRole = false)
    (hkey : w.getOneCallObjectByKey info = none) (hecc : w.hasEmergencyCall = true) :
    w.incomingHandle ins env info =
      let w' := w.failPendingDial env
      if ¬ PolicyAdmits env info then w'
      else if info.callType = .errCall then { w' with callId := w.callId + 1 }
      else { w' with callId := w.callId + 1, rejected := (w.callId + 1) :: w.rejected } := by
  unfold incomingHandle
  rw [prepareIncomingCall_of_none hkey]
  dsimp only
  by_cases hpolicy : PolicyAdmits env info
  · rw [if_pos hpolicy, if_neg (by simp), if_neg (by simpa using hpolicy), failPendingDial_callId]
    by_cases herr : info.callType = .errCall
    · rw [if_pos herr, CallBase.newCall, if_pos herr]
    · have hreject : ({ w.failPendingDial env with callId := w.callId + 1 } : EccWorld).isRejectCall
          env = true := by
        apply isRejectCall_of_emergency
        rw [hasEmergencyCall, failPendingDial_calls]
        exact hecc
      rw [if_neg herr, CallBase.newCall, if_neg herr]
      dsimp only
      rw [if_pos ⟨by simp [hsink], hreject⟩, failPendingDial_rejected]
  · have hret : env.incomingFilterPolicy ≠ .telephonySuccess := fun h => hpolicy fun _ => h
    rw [if_neg hpolicy, if_pos (.inr hret), if_pos hpolicy]

/-! ## What a step keeps -/

/-- The turn of a report ends the call it is for. -/
theorem disconnectedHandle_calls (w : EccWorld) (info : CallDetailInfo) :
    (w.disconnectedHandle info).calls =
      match w.getOneCallObjectByKey info with
      | none => w.calls
      | some call => w.calls.erase call.callId := by
  unfold disconnectedHandle
  cases w.getOneCallObjectByKey info with
  | none => dsimp only; split_ifs <;> rfl
  | some call => rfl

theorem keeps_dialing (ins : Insertion) (w : EccWorld) (call : EccCall) :
    w.Keeps ins (.dialing call) := by
  intro c hc _ hid
  exact mem_updateCallState .dialing (mem_addOneCallObject ins _ hc) hid

theorem keeps_updated (ins : Insertion) (w : EccWorld) (callId index slotId : ℤ)
    (state : TelCallState) : w.Keeps ins (.updated callId index slotId state) := by
  intro c hc _ hid
  exact OrderedMap.mem_entries_modify (update_callId index slotId state) hc hid

theorem keeps_ended (ins : Insertion) (w : EccWorld) (callId : ℤ) :
    w.Keeps ins (.ended callId) := by
  intro c hc _ hid
  exact OrderedMap.mem_entries_erase hc hid

theorem keeps_incoming (ins : Insertion) (w : EccWorld) (hsink : env.isSinkRole = false) :
    w.Keeps ins (.incoming env info) := by
  intro c hc hecc hkey
  show c ∈ (w.incomingHandle ins env info).calls.entries
  cases hfound : w.getOneCallObjectByKey info with
  | none =>
    rw [incomingHandle_eq hsink hfound (hasEmergencyCall_of_mem hc hecc)]
    dsimp only
    split_ifs <;> simpa using hc
  | some call =>
    have hne : c ≠ call := by
      rintro rfl
      exact hkey hfound
    exact mem_incomingHandle hfound hc hne

theorem keeps_ownReport (ins : Insertion) (w : EccWorld) :
    w.Keeps ins .ownReport ↔ ∀ report ∈ w.reports.head?, ¬ w.ForEmergency report := by
  have hstep : (w.step ins .ownReport).calls.entries =
      match w.reports.head?.bind w.getOneCallObjectByKey with
      | none => w.calls.entries
      | some call => (w.calls.erase call.callId).entries := by
    unfold step
    cases w.reports with
    | nil => rfl
    | cons info rest =>
      dsimp only
      rw [disconnectedHandle_calls]
      show _ = match w.getOneCallObjectByKey info with
        | none => w.calls.entries
        | some call => (w.calls.erase call.callId).entries
      change (match w.getOneCallObjectByKey info with
        | none => w.calls
        | some call => w.calls.erase call.callId).entries = _
      cases w.getOneCallObjectByKey info <;> rfl
  unfold Keeps
  rw [hstep]
  constructor
  · rintro h report hreport ⟨call, hcall, hecc⟩
    have hmem := h call (mem_of_key hcall) hecc not_false
    rw [show w.reports.head?.bind w.getOneCallObjectByKey = some call by
      rw [Option.mem_def.mp hreport]
      exact hcall] at hmem
    simp at hmem
  · intro h c hc hecc _
    cases hfound : w.reports.head?.bind w.getOneCallObjectByKey with
    | none => exact hc
    | some call =>
      obtain ⟨report, hreport, hcall⟩ := Option.bind_eq_some_iff.mp hfound
      apply OrderedMap.mem_entries_erase hc
      intro hid
      have heq := OrderedMap.eq_of_key_eq hc (mem_of_key hcall) hid
      exact h report hreport ⟨c, heq ▸ hcall, hecc⟩

/-- What the report of a new call does while there is an emergency call is right iff
    the policy lets it in and no emergency call is pending. -/
theorem rejects_incoming (ins : Insertion) (w : EccWorld) (hsink : env.isSinkRole = false) :
    w.Rejects ins (.incoming env info) ↔
      (w.NewDuringEmergency info → PolicyAdmits env info ∧ w.NoEmergencyPending env) := by
  unfold Rejects
  refine imp_congr_right fun hnew => ?_
  obtain ⟨-, htype, hkey, hecc⟩ := hnew
  have herr : info.callType ≠ .errCall := by
    intro h
    simp [h] at htype
  obtain ⟨sent, hpending, hsent⟩ := failPendingDial_spec env w
  rw [incomingHandle_eq hsink hkey hecc]
  dsimp only
  by_cases hpolicy : PolicyAdmits env info
  · rw [if_neg (by simpa using hpolicy), if_neg herr, hpending]
    simp only [List.drop_left, hpolicy, true_and, NoEmergencyPending]
    constructor
    · intro h initCall hinit hrep
      exact h (disconnectedReport initCall) ((hsent _).mpr ⟨initCall, hinit, hrep, rfl⟩)
    · rintro h report hreport
      obtain ⟨initCall, hinit, hrep, rfl⟩ := (hsent report).mp hreport
      exact h initCall hinit hrep
  · rw [if_pos hpolicy, failPendingDial_rejected]
    simp [hpolicy]

/-- One step is as specified iff it meets the condition. -/
theorem protects_iff (ins : Insertion) (w : EccWorld) (op : EccOp) :
    w.Protects ins op ↔ w.StepOk op := by
  unfold Protects
  cases op with
  | dialing call => simp [StepOk, Rejects, keeps_dialing]
  | updated callId index slotId state => simp [StepOk, Rejects, keeps_updated]
  | ended callId => simp [StepOk, Rejects, keeps_ended]
  | incoming env info =>
    show (env.isSinkRole = false → _) ↔ (env.isSinkRole = false → _)
    refine imp_congr_right fun hsink => ?_
    rw [and_iff_right (keeps_incoming ins w hsink), rejects_incoming ins w hsink]
  | ownReport => simp [StepOk, Rejects, NotSink, keeps_ownReport]

/-! ## Which dial is pending -/

/-- A pending call that is not a Bluetooth call is the one that its report is for. -/
theorem key_disconnectedReport {initCall : EccCall}
    (hinit : w.getOneCallObjectByIndex StatusWorld.initIndex = some initCall)
    (hbt : initCall.callType ≠ .bluetooth) :
    w.getOneCallObjectByKey (disconnectedReport initCall) = some initCall := by
  have hmatch := index_of_found hinit
  unfold getOneCallObjectByIndex at hinit
  unfold getOneCallObjectByKey
  obtain ⟨-, before, after, heq, hbefore⟩ := List.find?_eq_some_iff_append.mp hinit
  rw [List.find?_eq_some_iff_append]
  refine ⟨?_, before, after, heq, fun d hd => ?_⟩
  · simp [CallObjectManager.MatchesKey, disconnectedReport, hbt, hmatch.2]
  · have hnot : ¬ (d.index = StatusWorld.initIndex ∧ d.callType ≠ .voip) := by
      have hd := hbefore d hd
      rwa [Bool.not_eq_true', decide_eq_false_iff_not] at hd
    simp only [CallObjectManager.MatchesKey, disconnectedReport, if_neg hbt, hmatch.1,
      Bool.not_eq_true', decide_eq_false_iff_not]
    rintro ⟨-, hindex, -, hvoip⟩
    exact hnot ⟨hindex, hvoip⟩

/-- A pending call that can be reported must be no emergency call, unless it is a
    Bluetooth call. -/
theorem noEmergencyPending_iff {initCall : EccCall}
    (hinit : w.getOneCallObjectByIndex StatusWorld.initIndex = some initCall)
    (hbt : initCall.callType ≠ .bluetooth) :
    w.NoEmergencyPending env ↔ (Reportable env initCall → initCall.isEcc = false) := by
  unfold NoEmergencyPending ForEmergency
  rw [hinit]
  simp [key_disconnectedReport hinit hbt]

/-- No emergency call is pending if the modem has given each of them an index. -/
theorem noEmergencyPending_of_index (env : IncomingEnv)
    (h : ∀ c ∈ w.calls.entries, c.isEcc = true → c.index ≠ StatusWorld.initIndex) :
    w.NoEmergencyPending env := by
  rintro initCall hinit _ ⟨c, hc, hecc⟩
  apply h c (mem_of_key hc) hecc
  have hindex : initCall.index = StatusWorld.initIndex := (index_of_found hinit).1
  have hmatch := matches_of_key hc
  unfold CallObjectManager.MatchesKey disconnectedReport at hmatch
  dsimp only at hmatch
  split_ifs at hmatch
  · exact hmatch.2.1.trans hindex
  · exact hmatch.2.1.trans hindex

end EccWorld

/-! ## Runs -/

open EccWorld Run

/-- **Emergency calls.** In a run of dials, modem reports and incoming reports, each step keeps
    the emergency calls that it is not about and rejects a new call while there is one iff each
    new call is let in by the policy and finds no emergency call pending, and each report of the
    queue is for no emergency call. Then an emergency call stays stored, in its state, as long
    as no step is about it. -/
theorem emergencyCall_protected (ins : Insertion) (w : EccWorld) (ops : List EccOp) :
    (StepsMeet (step ins) (Protects ins) w ops ↔ StepsMeet (step ins) StepOk w ops) ∧
      (StepsMeet (step ins) StepOk w ops → ∀ c ∈ w.calls.entries, c.isEcc = true →
        StepsMeet (step ins) (fun w op => NotSink op ∧ ¬ w.Concerns c op) w ops →
        StatesMeet (step ins) (fun w => c ∈ w.calls.entries) w ops) := by
  constructor
  · exact stepsMeet_congr (protects_iff ins)
  · intro hok c hc hecc hsteps
    refine statesMeet_of_stepsMeet (fun w op hmem h => ?_) hc (hok.and hsteps)
    obtain ⟨hstep, hsink, hnot⟩ := h
    have hprotects := (protects_iff ins w op).mpr hstep
    exact (hprotects hsink).1 c hmem hecc hnot

/-- Nothing stops a report. -/
private def quietEnv : IncomingEnv where
  store := { isSmallFoldDevice := false, shouldDisconnectService := false }
  isDcCallConneceted := false
  hasCallStateListener := true
  incomingFilterPolicy := .telephonySuccess
  isRejectCall := false
  isRingOnceCall := false
  rejectCall := .telephonySuccess
  hangUpCall := .telephonySuccess
  addCallLog := .telephonySuccess
  isVoipCallRinging := false
  isVirtualCall := false
  isDsdaMode := false
  illegalCallOperation := 0
  junk := 0
  hasCallStatusManager := true
  isDevProvisioned := true
  isTransferCall := false
  isSinkRole := false
  isConnected := false
  isDialEcc := false

/-- An emergency call on slot 0, with the given index and state. -/
private def emergencyCall (index : ℤ) (state : TelCallState) : EccCall where
  callId := 1
  objectType := .cs
  callType := .cs
  accountNumber := "112"
  callState := state
  callRunningState := .dialing
  conferenceState := .idle
  slotId := 0
  index := index
  phoneIndex := 0
  phoneOrWatch := 0
  videoState := .voice
  voipCallInfo := {}
  isNonVirtualCall := false
  isEcc := true
  isOutgoing := true

/-- The store with this emergency call only. -/
private def storing (c : EccCall) : EccWorld where
  calls := (OrderedMap.empty _).insert c
  callId := 1
  reports := []
  rejected := []

/-- A call comes in on slot 0, with an index that no stored call has. -/
private def newCallReport : CallDetailInfo where
  index := 2
  phoneNum := "5550100"
  accountId := 0
  callType := .cs
  callMode := .voice
  state := .incoming
  mpty := 0
  phoneOrWatch := 0
  antiFraudState := 0
  phoneIndex := 0
  voipCallInfo := {}

/-- An emergency call that the modem knows stays while a call comes in. -/
theorem emergencyCall_protected_active :
    StatesMeet (step .restored) (fun w => emergencyCall 1 .active ∈ w.calls.entries)
      (storing (emergencyCall 1 .active)) [.incoming quietEnv newCallReport, .ownReport] :=
  (emergencyCall_protected .restored (storing (emergencyCall 1 .active))
    [.incoming quietEnv newCallReport, .ownReport]).2 (by decide +kernel)
    (emergencyCall 1 .active) (by decide +kernel) rfl (by decide +kernel)

/-- An emergency call was just dialed. -/
private def dialed : EccWorld := storing (emergencyCall 0 .dialing)

/-- **A pending emergency call is ended.** It was just dialed and has no index yet. The report
    of a new call sends a report of disconnection for it, before the new call is rejected, and
    the turn of that report deletes the emergency call. -/
theorem pending_emergencyCall_ended :
    emergencyCall 0 .dialing ∈ dialed.calls.entries ∧
      dialed.NewDuringEmergency newCallReport ∧
      (dialed.incomingHandle .restored quietEnv newCallReport).reports =
        [EccWorld.disconnectedReport (emergencyCall 0 .dialing)] ∧
      (dialed.incomingHandle .restored quietEnv newCallReport).rejected = [2] ∧
      StepsMeet (step .restored)
        (fun w op => NotSink op ∧ ¬ w.Concerns (emergencyCall 0 .dialing) op) dialed
        [.incoming quietEnv newCallReport, .ownReport] ∧
      (run (step .restored) dialed
        [.incoming quietEnv newCallReport, .ownReport]).calls.entries = [] := by
  decide +kernel

end CallManager.EmergencyCalls
