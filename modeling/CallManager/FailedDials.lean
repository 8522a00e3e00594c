import CallManager.CallLookups
import CallManager.DeferredDial

/-!
# Whose dial has failed

When `CellularCallConnection::Dial` fails, a DISCONNECTED report is made of the
call that was being dialed, so that its object goes away. Three functions do so:
`HandleDialFail`, for the dial of `HandleStartDial`; `HandleDialWhenHolding`, for
a dial that waited until another call was on hold; and
`HandleEventResultReportInfo`, for the events in which the modem answers a
request.

`HandleDialFail` looks for a carrier call that is being created, connecting or
dialing. `HandleDialWhenHolding` asks whether some call is dialing and then
reports the call it was handed, the one that was put on hold or has ended.
`HandleEventResultReportInfo` reports the last dialing call whatever request the
event answers.

A call is disconnected by its own report, which carries its index, slot and
type. The log says of each report which call it was made of, and in which event.

Results:
* `attributed_iff`: in a run, every DISCONNECTED report is of a call that is
  being dialed, and in an event only of a failed dial, iff no deferred dial fails
  while its call can be reported, and no event of another request finds a
  dialing call that can be.
* `held_call_reported`: a deferred dial that fails reports the held call, and an
  event of a failed hold the call that is being dialed.
-/

namespace CallManager

open CallLookups (CallList)

/-! ## Model -/

/-- The values of `RequestResultEventId` that the status manager knows
    (call_manager_base.h:741-786); `other` is any further one. -/
inductive RequestResultEventId
  | dialSendFailed
  | dialNoCarrier
  | holdSendFailed
  | swapSendFailed
  | combineSendFailed
  | splitSendFailed
  | other (eventId : ℤ)
  deriving DecidableEq, Repr

/-- The values of `CallAbilityEventId` that answer a request (call_manager_base.h:443-472). -/
inductive CallAbilityEventId
  | dialNoCarrier
  | holdCallFailed
  | swapCallFailed
  | combineCallFailed
  | splitCallFailed
  deriving DecidableEq, Repr

/-- `CellularCallEventInfo` (call_manager_info.h:59-69). `CellularCallEventType` has the value 0
    only, and comes from another process. -/
structure CellularCallEventInfo where
  eventType : ℤ
  eventId : RequestResultEventId
  deriving DecidableEq, Repr

/-- `CallEventInfo` (call_manager_info.h:135-144). -/
structure CallEventInfo where
  eventId : CallAbilityEventId
  phoneNum : String
  deriving DecidableEq, Repr

/-- A report of disconnection: the call it was made of, and the event that was
    being handled, `none` for a dial. -/
structure DisconnectedReport where
  call : CallBase
  event : Option RequestResultEventId
  deriving DecidableEq, Repr

/-- What `ReportCallDisconnected` says of the call (call_object_manager.cpp:1059-1078). -/
def DisconnectedReport.info (report : DisconnectedReport) : CallDetailInfo where
  index := report.call.index
  phoneNum := report.call.accountNumber
  accountId := report.call.slotId
  callType := report.call.callType
  callMode := report.call.videoState
  state := .disconnected
  mpty := 0
  phoneOrWatch := 0
  antiFraudState := 0
  phoneIndex := 0
  voipCallInfo := {}

/-- What a failure meets: the results of the functions it calls, whether the call of the dial
    was added within a second and which calls there are then, and the number of the last dial. -/
structure FailureEnv where
  memsetOk : Bool
  memcpyOk : Bool
  updateCallReportInfo : CallDetailInfo → ErrorCode
  isFirstDialCallAdded : Bool
  awoken : CallList
  dialNumber : String
  eventMemcpyOk : Bool

/-- The calls, the pending hang-up, the deferred dial, and what has been sent:
    the reports of disconnection, the calls taken off hold, those told that they
    could not be combined, and the events passed on. -/
structure FailureWorld where
  calls : CallList
  pendingHangup : Bool
  pendingHangupCallId : ℤ
  dial : DialState
  reports : List DisconnectedReport
  unHeld : List ℤ
  combineFailed : List ℤ
  events : List CallEventInfo

namespace FailureWorld

/-- The state the process starts with. -/
def init : FailureWorld where
  calls := OrderedMap.empty _
  pendingHangup := false
  pendingHangupCallId := errId
  dial := DialState.init
  reports := []
  unHeld := []
  combineFailed := []
  events := []

/-- `GetOneCarrierCallObject`: the last call in the running state that is not a VoIP call
    (call_object_manager.cpp:695-705). -/
def getOneCarrierCallObject (m : CallList) (callState : CallRunningState) : Option CallBase :=
  m.entries.reverse.find? fun it => it.callRunningState = callState ∧ it.callType ≠ .voip

/-- `GetDialingCall` of the request process (call_request_process.cpp:807-819). -/
def getDialingCall (m : CallList) : Option CallBase :=
  ((getOneCarrierCallObject m .create).orElse fun _ =>
    getOneCarrierCallObject m .connecting).orElse fun _ => getOneCarrierCallObject m .dialing

/-- `ReportCallDisconnected` (call_object_manager.cpp:1053-1081). -/
def reportCallDisconnected (env : FailureEnv) (event : Option RequestResultEventId)
    (call : Option CallBase) (w : FailureWorld) : ErrorCode × FailureWorld :=
  match call with
  | none => (.telephonyErrLocalPtrNull, w)
  | some call =>
    if env.memsetOk = false then (.telephonyErrMemsetFail, w)
    else if maxNumberLen < call.accountNumber.utf8ByteSize then (.callErrNumberOutOfRange, w)
    else if env.memcpyOk = false then (.telephonyErrMemcpyFail, w)
    else
      let report : DisconnectedReport := ⟨call, event⟩
      (env.updateCallReportInfo report.info, { w with reports := report :: w.reports })

/-- `DealFailDial` (call_object_manager.cpp:1048-1051). -/
def dealFailDial (env : FailureEnv) (event : Option RequestResultEventId)
    (call : Option CallBase) (w : FailureWorld) : ErrorCode × FailureWorld :=
  reportCallDisconnected env event call w

/-- `HandleDialFail` (call_request_process.cpp:785-805), from where the wait for the call of the
    dial is over. -/
def handleDialFail (env : FailureEnv) (w : FailureWorld) : ErrorCode × FailureWorld :=
  let w := { w with calls := env.awoken }
  let call := getDialingCall w.calls
  if env.isFirstDialCallAdded = false then
    (.callErrDialFailed, if call.isSome then (dealFailDial env none call w).2 else w)
  else if call.isSome then dealFailDial env none call w
  else (.callErrCallState, w)

/-- `HandleStartDial` (call_request_process.cpp:890-920). -/
def handleStartDial (dialEnv : DialEnv) (env : FailureEnv) (isMMiCode : Bool)
    (info : DialParaInfo) (w : FailureWorld) : ErrorCode × FailureWorld :=
  let (ret, callInfo) := packCellularCallInfo dialEnv info
  if ret ≠ .telephonySuccess then (ret, { w with dial := w.dial.resetWaitHold })
  else if w.dial.needWaitHold = true ∧ isMMiCode = false then
    (ret, { w with
      dial := { w.dial with
        dialCallInfo := callInfo
        dialRequest := w.dial.dials
        waiting := w.dial.waiting ++ [(w.dial.dials, callInfo)] } })
  else
    let w := { w with dial := w.dial.dial (w.dial.dials, callInfo) }
    if dialEnv.dial ≠ .telephonySuccess then
      if isMMiCode then (dialEnv.dial, w)
      else
        let handleRet := handleDialFail env w
        if handleRet.1 ≠ .telephonySuccess then handleRet
        else (dialEnv.dial, handleRet.2)
    else (.telephonySuccess, w)

/-- `IsPendingHangup` (call_request_event_handler_helper.cpp:94-101). -/
def isPendingHangup (w : FailureWorld) : Bool :=
  if w.pendingHangupCallId ≠ errId then w.pendingHangup else false

/-- `GetPendingHangupCallId` (call_request_event_handler_helper.cpp:103-110). -/
def getPendingHangupCallId (w : FailureWorld) : ℤ :=
  if w.pendingHangup then w.pendingHangupCallId else errId

/-- `HandleDialWhenHolding` (call_status_manager.cpp:2495-2521); `result` is what `Dial`
    returns. The call that is hung up after all is set to DISCONNECTED on its way out. -/
def handleDialWhenHolding (env : FailureEnv) (result : ErrorCode) (callId : ℤ)
    (call : CallBase) (w : FailureWorld) : FailureWorld :=
  let dial := CallManager.handleDialWhenHolding ⟨true, 0, w.isPendingHangup⟩ w.dial
  if w.isPendingHangup then
    { w with
      dial := dial
      unHeld := if (w.calls.lookup callId).isSome then callId :: w.unHeld else w.unHeld
      calls := w.calls.erase w.getPendingHangupCallId
      pendingHangup := false
      pendingHangupCallId := errId }
  else
    let w := { w with dial := dial }
    let dialCall := CallLookups.getOneCallObject w.calls .dialing
    if result ≠ .telephonySuccess ∧ dialCall.isSome then (dealFailDial env none (some call) w).2
    else w

/-- `EVENT_REQUEST_RESULT_TYPE`. -/
def eventRequestResultType : ℤ := 0

/-- `mEventIdTransferMap_` (call_status_manager.cpp:118-129). -/
def mEventIdTransferMap : RequestResultEventId → Option CallAbilityEventId
  | .dialNoCarrier => some .dialNoCarrier
  | .holdSendFailed => some .holdCallFailed
  | .swapSendFailed => some .swapCallFailed
  | .combineSendFailed => some .combineCallFailed
  | .splitSendFailed => some .splitCallFailed
  | .dialSendFailed | .other _ => none

/-- `NotifyCallEventUpdated`. -/
def notifyCallEventUpdated (eventInfo : CallEventInfo) (w : FailureWorld) : FailureWorld :=
  { w with events := eventInfo :: w.events }

/-- The part of `HandleEventResultReportInfo` that passes the event on
    (call_status_manager.cpp:412-436). -/
def transferEvent (env : FailureEnv) (eventId : CallAbilityEventId) (w : FailureWorld) :
    ErrorCode × FailureWorld :=
  match eventId with
  | .dialNoCarrier =>
    if maxNumberLen < env.dialNumber.utf8ByteSize then (.callErrNumberOutOfRange, w)
    else if env.eventMemcpyOk = false then (.telephonyErrMemcpyFail, w)
    else (.telephonySuccess, w.notifyCallEventUpdated ⟨.dialNoCarrier, env.dialNumber⟩)
  | .combineCallFailed =>
    let w :=
      match CallLookups.getOneCallObject w.calls .active with
      | some activeCall => { w with combineFailed := activeCall.callId :: w.combineFailed }
      | none => w
    (.telephonySuccess, w.notifyCallEventUpdated ⟨.combineCallFailed, ""⟩)
  | .holdCallFailed =>
    (.telephonySuccess,
      { w with dial := w.dial.resetWaitHold }.notifyCallEventUpdated ⟨.holdCallFailed, ""⟩)
  | .swapCallFailed | .splitCallFailed =>
    (.telephonySuccess, w.notifyCallEventUpdated ⟨eventId, ""⟩)

/-- `HandleEventResultReportInfo` (call_status_manager.cpp:398-438). -/
def handleEventResultReportInfo (env : FailureEnv) (info : CellularCallEventInfo)
    (w : FailureWorld) : ErrorCode × FailureWorld :=
  if info.eventType ≠ eventRequestResultType then (.callErrPhoneTypeUnexpected, w)
  else
    let call := CallLookups.getOneCallObject w.calls .dialing
    let w := if call.isSome then (dealFailDial env (some info.eventId) call w).2 else w
    match mEventIdTransferMap info.eventId with
    | some eventId => transferEvent env eventId w
    | none => (.telephonySuccess, w)

end FailureWorld

open FailureWorld

/-- One step: a dial, the dial that waited for a hold, an event, or anything
    else that changes the calls and the pending hang-up. -/
inductive FailureOp
  | startDial (dialEnv : DialEnv) (env : FailureEnv) (isMMiCode : Bool) (info : DialParaInfo)
  | dialWhenHolding (env : FailureEnv) (result : ErrorCode) (callId : ℤ) (call : CallBase)
  | eventResult (env : FailureEnv) (info : CellularCallEventInfo)
  | other (calls : CallList) (pendingHangup : Bool) (pendingHangupCallId : ℤ)

/-- The state after a step. -/
def failureStep (w : FailureWorld) : FailureOp → FailureWorld
  | .startDial dialEnv env isMMiCode info => (w.handleStartDial dialEnv env isMMiCode info).2
  | .dialWhenHolding env result callId call => w.handleDialWhenHolding env result callId call
  | .eventResult env info => (w.handleEventResultReportInfo env info).2
  | .other calls pendingHangup pendingHangupCallId =>
    { w with
      calls := calls
      pendingHangup := pendingHangup
      pendingHangupCallId := pendingHangupCallId }

/-! ## Specification -/

/-- The call is on its way to being dialed. -/
def IsBeingDialed (call : CallBase) : Prop :=
  call.callRunningState ∈ [CallRunningState.create, .connecting, .dialing]

instance (call : CallBase) : Decidable (IsBeingDialed call) := inferInstanceAs (Decidable (_ ∈ _))

/-- The event says that a dial has failed. -/
def RequestResultEventId.IsDialFailure (eventId : RequestResultEventId) : Prop :=
  eventId = .dialSendFailed ∨ eventId = .dialNoCarrier

instance (eventId : RequestResultEventId) : Decidable eventId.IsDialFailure :=
  inferInstanceAs (Decidable (_ ∨ _))

/-- The report is of a call that is being dialed, and of no other request than the dial. -/
structure DisconnectedReport.Attributed (report : DisconnectedReport) : Prop where
  call : IsBeingDialed report.call
  event : ∀ eventId, report.event = some eventId → eventId.IsDialFailure

/-- **Failed dials are attributed to the dialing call.** -/
def Attributed (w : FailureWorld) : Prop := ∀ report ∈ w.reports, report.Attributed

/-- A report of the call can be made. -/
def Reportable (env : FailureEnv) (call : CallBase) : Prop :=
  env.memsetOk = true ∧ call.accountNumber.utf8ByteSize ≤ maxNumberLen ∧ env.memcpyOk = true

/-- The steps that blame no other call: a deferred dial that fails while a call is dialing was
    handed a call that is being dialed, unless no report can be made of it; and an event of
    another request than a dial finds no dialing call of which one can. -/
def FailureOk (w : FailureWorld) : FailureOp → Prop
  | .dialWhenHolding env result _ call =>
    w.isPendingHangup = false → result ≠ .telephonySuccess →
      (∃ it ∈ w.calls.entries, it.callRunningState = .dialing) → Reportable env call →
      IsBeingDialed call
  | .eventResult env info =>
    info.eventType = eventRequestResultType →
      ∀ call, CallLookups.getOneCallObject w.calls .dialing = some call → Reportable env call →
      info.eventId.IsDialFailure
  | .startDial _ _ _ _ | .other _ _ _ => True

/-! ## One report -/

section

variable {env : FailureEnv} {w : FailureWorld} {call : CallBase}
  {event : Option RequestResultEventId}

/-- Whether the reports are attributed is a matter of the log. -/
theorem Attributed.congr {w' : FailureWorld} (h : Attributed w) (heq : w'.reports = w.reports) :
    Attributed w' := by
  unfold Attributed
  rw [heq]
  exact h

theorem reports_of_reportable (h : Reportable env call) :
    (dealFailDial env event (some call) w).2.reports = ⟨call, event⟩ :: w.reports := by
  obtain ⟨hmemset, hsize, hmemcpy⟩ := h
  unfold dealFailDial reportCallDisconnected
  dsimp only
  rw [if_neg (by simp [hmemset]), if_neg (by omega), if_neg (by simp [hmemcpy])]

theorem reports_of_not_reportable (h : ¬ Reportable env call) :
    (dealFailDial env event (some call) w).2.reports = w.reports := by
  unfold dealFailDial reportCallDisconnected
  dsimp only
  split_ifs with hmemset hsize hmemcpy
  · rfl
  · rfl
  · rfl
  · exact absurd ⟨by simpa using hmemset, by omega, by simpa using hmemcpy⟩ h

/-- A report keeps the log in order iff it is attributed itself, or is not made. -/
theorem dealFailDial_attributed_iff (h : Attributed w) :
    Attributed (dealFailDial env event (some call) w).2 ↔
      (Reportable env call → (DisconnectedReport.mk call event).Attributed) := by
  by_cases hreport : Reportable env call
  · unfold Attributed
    rw [reports_of_reportable hreport, List.forall_mem_cons]
    exact ⟨fun hall _ => hall.1, fun hnew => ⟨hnew hreport, h⟩⟩
  · exact iff_of_true (h.congr (reports_of_not_reportable hreport))
      fun hr => absurd hr hreport

/-! ## The dial of a request -/

theorem getOneCarrierCallObject_state {m : CallList} {callState : CallRunningState}
    (h : getOneCarrierCallObject m callState = some call) :
    call.callRunningState = callState := by
  have hfound := List.find?_some h
  simp only [decide_eq_true_eq] at hfound
  exact hfound.1

/-- The call that `HandleDialFail` reports is being dialed. -/
theorem getDialingCall_isBeingDialed {m : CallList} (h : getDialingCall m = some call) :
    IsBeingDialed call := by
  unfold getDialingCall at h
  unfold IsBeingDialed
  cases hcreate : getOneCarrierCallObject m .create with
  | some it =>
    rw [hcreate] at h
    obtain rfl : it = call := by simpa using h
    simp [getOneCarrierCallObject_state hcreate]
  | none =>
    rw [hcreate] at h
    cases hconnecting : getOneCarrierCallObject m .connecting with
    | some it =>
      rw [hconnecting] at h
      obtain rfl : it = call := by simpa using h
      simp [getOneCarrierCallObject_state hconnecting]
    | none =>
      rw [hconnecting] at h
      have hdialing : getOneCarrierCallObject m .dialing = some call := by simpa using h
      simp [getOneCarrierCallObject_state hdialing]

theorem Attributed.dealFailDial_getDialingCall {m : CallList} (h : Attributed w)
    (hsome : (getDialingCall m).isSome = true) :
    Attributed (dealFailDial env none (getDialingCall m) w).2 := by
  obtain ⟨call, hcall⟩ := Option.isSome_iff_exists.mp hsome
  rw [hcall, dealFailDial_attributed_iff h]
  exact fun _ => ⟨getDialingCall_isBeingDialed hcall, fun _ hevent => nomatch hevent⟩

theorem Attributed.handleDialFail (h : Attributed w) :
    Attributed (handleDialFail env w).2 := by
  have hawoken : Attributed { w with calls := env.awoken } := h
  unfold FailureWorld.handleDialFail
  dsimp only
  split_ifs with hadded hsome hsome
  · exact hawoken.dealFailDial_getDialingCall hsome
  · exact hawoken
  · exact hawoken.dealFailDial_getDialingCall hsome
  · exact hawoken

/-- The dial of a request blames no other call. -/
theorem Attributed.handleStartDial (h : Attributed w) (dialEnv : DialEnv) (isMMiCode : Bool)
    (info : DialParaInfo) : Attributed (w.handleStartDial dialEnv env isMMiCode info).2 := by
  have hdialed : ∀ dial, Attributed (FailureWorld.handleDialFail env { w with dial := dial }).2 :=
    fun dial => Attributed.handleDialFail (h.congr rfl)
  unfold FailureWorld.handleStartDial
  dsimp only
  split_ifs
  · exact h
  · exact h
  · exact h
  · exact hdialed _
  · exact hdialed _
  · exact h

/-! ## The dial that waited -/

theorem handleDialWhenHolding_attributed_iff (h : Attributed w) (result : ErrorCode)
    (callId : ℤ) :
    Attributed (w.handleDialWhenHolding env result callId call) ↔
      (w.isPendingHangup = false → result ≠ .telephonySuccess →
        (∃ it ∈ w.calls.entries, it.callRunningState = .dialing) → Reportable env call →
        IsBeingDialed call) := by
  unfold FailureWorld.handleDialWhenHolding
  dsimp only
  by_cases hpending : w.isPendingHangup = true
  · rw [if_pos hpending]
    exact iff_of_true h fun hp => absurd (hpending.symm.trans hp) Bool.true_eq_false.mp
  · rw [if_neg hpending]
    by_cases hfails : result ≠ .telephonySuccess ∧
        (CallLookups.getOneCallObject w.calls .dialing).isSome = true
    · have hdialed : ∀ dial, Attributed { w with dial := dial } := fun _ => h
      rw [if_pos hfails, dealFailDial_attributed_iff (hdialed _)]
      constructor
      · exact fun hnew _ _ _ hreport => (hnew hreport).call
      · intro hcall hreport
        exact ⟨hcall (by simpa using hpending) hfails.1
          (StoredCalls.isSome_getOneCallObject.mp hfails.2) hreport, fun _ hevent => nomatch hevent⟩
    · rw [if_neg hfails]
      exact iff_of_true h fun _ hresult hdialing =>
        absurd ⟨hresult, StoredCalls.isSome_getOneCallObject.mpr hdialing⟩ hfails

/-! ## The events -/

theorem transferEvent_reports (eventId : CallAbilityEventId) :
    (transferEvent env eventId w).2.reports = w.reports := by
  cases eventId with
  | dialNoCarrier =>
    unfold transferEvent
    dsimp only
    split_ifs <;> rfl
  | combineCallFailed =>
    unfold transferEvent
    cases CallLookups.getOneCallObject w.calls .active <;> rfl
  | holdCallFailed => rfl
  | swapCallFailed => rfl
  | splitCallFailed => rfl

/-- A dialing call is being dialed. -/
theorem isBeingDialed_of_getOneCallObject {m : CallList}
    (h : CallLookups.getOneCallObject m .dialing = some call) : IsBeingDialed call := by
  have hfound := List.find?_some h
  simp only [decide_eq_true_eq] at hfound
  simp [IsBeingDialed, hfound]

theorem handleEventResultReportInfo_attributed_iff (h : Attributed w)
    (info : CellularCallEventInfo) :
    Attributed (w.handleEventResultReportInfo env info).2 ↔
      (info.eventType = eventRequestResultType →
        ∀ call, CallLookups.getOneCallObject w.calls .dialing = some call →
          Reportable env call → info.eventId.IsDialFailure) := by
  unfold handleEventResultReportInfo
  dsimp only
  by_cases htype : info.eventType = eventRequestResultType
  swap
  · rw [if_pos htype]
    exact iff_of_true h fun ht => absurd ht htype
  rw [if_neg (not_not.mpr htype)]
  -- passing the event on makes no report
  have hpass : ∀ w' : FailureWorld,
      (Attributed (match mEventIdTransferMap info.eventId with
        | some eventId => transferEvent env eventId w'
        | none => (.telephonySuccess, w')).2 ↔ Attributed w') := by
    intro w'
    cases mEventIdTransferMap info.eventId with
    | none => exact Iff.rfl
    | some eventId =>
      exact ⟨fun hw => hw.congr (transferEvent_reports eventId).symm,
        fun hw => hw.congr (transferEvent_reports eventId)⟩
  rw [hpass]
  cases hcall : CallLookups.getOneCallObject w.calls .dialing with
  | none =>
    simp only [Option.isSome_none, Bool.false_eq_true, if_false]
    exact iff_of_true h fun _ _ hc => nomatch hc
  | some call =>
    rw [if_pos Option.isSome_some, dealFailDial_attributed_iff h]
    constructor
    · intro hnew _ it hit hreport
      obtain rfl : call = it := by simpa using hit
      exact (hnew hreport).event _ rfl
    · intro hid hreport
      refine ⟨isBeingDialed_of_getOneCallObject hcall, fun eventId hevent => ?_⟩
      obtain rfl : info.eventId = eventId := by simpa using hevent
      exact hid htype call rfl hreport

end

/-! ## Main theorem -/

/-- A step keeps the reports attributed iff it is admissible. -/
theorem attributed_step_iff {w : FailureWorld} (h : Attributed w) (op : FailureOp) :
    Attributed (failureStep w op) ↔ FailureOk w op := by
  cases op with
  | startDial dialEnv env isMMiCode info =>
    exact iff_of_true (h.handleStartDial dialEnv isMMiCode info) trivial
  | dialWhenHolding env result callId call =>
    exact handleDialWhenHolding_attributed_iff h result callId
  | eventResult env info => exact handleEventResultReportInfo_attributed_iff h info
  | other calls pendingHangup pendingHangupCallId => exact iff_of_true h trivial

theorem attributed_init : Attributed FailureWorld.init := fun _ h => nomatch h

/-- **Main theorem.** In a run of dials, late dials and events, with any calls
    and any results, every DISCONNECTED report is of a call that is being dialed
    and in an event only of a failed dial, iff every step is admissible. -/
theorem attributed_iff (ops : List FailureOp) :
    Run.StatesMeet failureStep Attributed FailureWorld.init ops ↔
      Run.StepsMeet failureStep FailureOk FailureWorld.init ops :=
  Run.statesMeet_iff_stepsMeet (fun _ op h => attributed_step_iff h op) ops attributed_init

/-- A held call of slot 0. -/
def slotZeroHeldCall : CallBase :=
  { (default : CallBase) with
    callId := 31
    objectType := .ims
    callType := .ims
    callState := .holding
    callRunningState := .hold
    slotId := 0
    index := 1 }

/-- A call of slot 1 that is being dialed. -/
def slotOneDialingCall : CallBase :=
  { slotZeroHeldCall with
    callId := 32
    callState := .dialing
    callRunningState := .dialing
    slotId := 1
    index := 0 }

/-- A held call beside one that is being dialed. -/
def heldAndDialing : CallList :=
  ((OrderedMap.empty _).insert slotZeroHeldCall).insert slotOneDialingCall

/-- Every function a failure calls succeeds. -/
def plainFailure : FailureEnv where
  memsetOk := true
  memcpyOk := true
  updateCallReportInfo _ := .telephonySuccess
  isFirstDialCallAdded := true
  awoken := heldAndDialing
  dialNumber := ""
  eventMemcpyOk := true

/-- The last call of the other SIM is on hold, and the dial that waited for it
    fails: the held call is reported disconnected. And while a call is being
    dialed a hold fails: the dialing call is. -/
theorem held_call_reported :
    let calls := FailureOp.other heldAndDialing false errId
    let deferred := [calls, .dialWhenHolding plainFailure .callErrDialFailed 31 slotZeroHeldCall]
    let holdFailed := [calls,
      .eventResult plainFailure ⟨eventRequestResultType, .holdSendFailed⟩]
    ¬ Run.StatesMeet failureStep Attributed FailureWorld.init deferred ∧
      (Run.run failureStep FailureWorld.init deferred).reports = [⟨slotZeroHeldCall, none⟩] ∧
      ¬ Run.StatesMeet failureStep Attributed FailureWorld.init holdFailed ∧
      (Run.run failureStep FailureWorld.init holdFailed).reports =
        [⟨slotOneDialingCall, some .holdSendFailed⟩] := by
  intro calls deferred holdFailed
  have hdeferred : (Run.run failureStep FailureWorld.init deferred).reports =
      [⟨slotZeroHeldCall, none⟩] := by decide +kernel
  have hholdFailed : (Run.run failureStep FailureWorld.init holdFailed).reports =
      [⟨slotOneDialingCall, some .holdSendFailed⟩] := by decide +kernel
  refine ⟨fun h => ?_, hdeferred, fun h => ?_, hholdFailed⟩
  · have hlast : Attributed (Run.run failureStep FailureWorld.init deferred) := h.last
    exact absurd (hlast _ (hdeferred ▸ List.mem_cons_self)).call (by decide)
  · have hlast : Attributed (Run.run failureStep FailureWorld.init holdFailed) := h.last
    exact absurd ((hlast _ (hholdFailed ▸ List.mem_cons_self)).event _ rfl) (by decide)

/-- What `HandleDialWhenHolding` is handed, a call just set to HOLDING or to
    DISCONNECTED, is never being dialed. -/
theorem handed_not_beingDialed (c : CallBase) {s : TelCallState}
    (hs : s = .holding ∨ s = .disconnected)
    (hset : (c.setTelCallState s).1 = .telephonySuccess) :
    ¬ IsBeingDialed (c.setTelCallState s).2 := by
  unfold CallBase.setTelCallState at hset ⊢
  split_ifs at hset ⊢
  rcases hs with rfl | rfl
  · show ¬ CallRunningState.hold ∈ _
    decide
  · show ¬ CallRunningState.ended ∈ _
    decide

/-! ## The deferred dial's model -/

section

variable {env : FailureEnv} {w : FailureWorld}

theorem dealFailDial_dial (event : Option RequestResultEventId) (call : Option CallBase) :
    (dealFailDial env event call w).2.dial = w.dial := by
  unfold dealFailDial reportCallDisconnected
  cases call with
  | none => rfl
  | some call =>
    dsimp only
    split_ifs <;> rfl

theorem handleDialFail_dial : (handleDialFail env w).2.dial = w.dial := by
  unfold handleDialFail
  dsimp only
  split_ifs
  · rw [dealFailDial_dial]
  · rfl
  · rw [dealFailDial_dial]
  · rfl

/-- **The dial of a request, with its failure, is the one of the deferred dial's model.** -/
theorem handleStartDial_dialState (dialEnv : DialEnv) (isMMiCode : Bool) (info : DialParaInfo) :
    (w.handleStartDial dialEnv env isMMiCode info).2.dial =
      (handleStartDial dialEnv isMMiCode info w.dial).2 := by
  rw [handleStartDial_eq]
  unfold FailureWorld.handleStartDial
  dsimp only
  split_ifs
  · rfl
  · rfl
  · rfl
  · rw [handleDialFail_dial]
  · rw [handleDialFail_dial]
  · rfl

/-- So is the dial that waited. -/
theorem handleDialWhenHolding_dialState (result : ErrorCode) (callId : ℤ) (call : CallBase)
    (isDsdsMode5 : Bool) (activeCallNum : ℕ) :
    (w.handleDialWhenHolding env result callId call).dial =
      handleDialWhenHolding ⟨isDsdsMode5, activeCallNum, w.isPendingHangup⟩ w.dial := by
  unfold FailureWorld.handleDialWhenHolding
  dsimp only
  split_ifs
  · rfl
  · rfl
  · rw [dealFailDial_dial]
    rfl
  · rfl

end

end CallManager
