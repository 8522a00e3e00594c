import CallManager.Types
import CallManager.Library.Run

/-!
# The deferred dial

On a dual-active device a dial on one SIM may have to wait until the active
call of the other SIM is on hold. `IsDialCallForDsda` sends the hold and sets
`needWaitHold_`; `HandleStartDial` then saves the request in `dialCallInfo_`
instead of dialing it; and the HOLDING report (or the DISCONNECTED report) of
the last active call takes the flag back and dials what is saved. A failed hold
and the error returns of a dial take the flag back too.

An ordinary dial asks `IsNewCallAllowedCreate` before it comes to the hold.
That function holds `listMutex_` when it calls `GetCarrierCallList`, which
takes it again; the mutex is not recursive, so that as the code is written the
answer is no or does not come. The kind of the mutex is a parameter here, as all
that is behind the answer yes only shows with a recursive one.

The requests are numbered here in the order of the dials, so that it can be
said which request is dialed; the numbers, the list of requests that wait and
the log of `Dial` are not part of the code. A dial that does not return leaves
the other threads to go on.

Results:
* `deferredDial_kept`: as the code is written, the flag always stands for
  exactly one waiting request, saved in `dialCallInfo_`, no request is dialed
  twice and only waiting requests are dialed late: no dial ever comes to the
  hold.
* `deferredDial_iff`: whatever the kind of the mutex, this holds throughout a run
  iff no MMI dial leaves the flag set and no dial is made while another one
  waits.
* `mmi_dial_redials_request`: with a recursive mutex, an MMI dial that puts a
  call on hold makes the next HOLDING report dial an earlier number again.
-/

namespace CallManager

/-! ## Model -/

/-- The fields of `DialParaInfo` a carrier dial reads (common_type.h:36-61). -/
structure DialParaInfo where
  accountId : ℤ
  callId : ℤ
  index : ℤ
  isRTT : Bool
  number : String
  videoState : VideoStateType
  callType : CallType
  isEcc : Bool
  deriving DecidableEq, Repr

/-- `CellularCallInfo` (call_manager_info.h:27-54), with its defaults. -/
structure CellularCallInfo where
  callId : ℤ := 0
  phoneNum : String := ""
  slotId : ℤ := 0
  accountId : ℤ := 0
  callType : CallType := .errCall
  videoState : VideoStateType := .voice
  index : ℤ := 0
  isRTT : Bool := false
  deriving DecidableEq, Repr

/-- The kind of `listMutex_`: not recursive, as an `ffrt::mutex` is, or recursive. -/
inductive ListMutex
  | asWritten | recursive
  deriving DecidableEq, Repr

/-- What a carrier dial finds and is answered: the checks of the number, the calls in the store,
    and the results of the functions it calls. Of the store it asks whether a call is being set
    up and how many carrier calls there are (a conference counts by its main call). -/
structure DialEnv where
  isEccNumber : Bool
  eccDialPolicy : ErrorCode
  settingUp : Bool
  carrierCallNum : ℕ
  notSupportMulticall : Bool
  isDsdsMode5 : Bool
  activeCallSlot : Option ℤ
  holdCall : ErrorCode
  isMmiCode : Bool
  updateCallReportInfo : ErrorCode
  memsetOk : Bool
  memcpyOk : Bool
  dial : ErrorCode
  handleDialFail : ErrorCode
  deriving DecidableEq, Repr

/-- What a HOLDING or DISCONNECTED report finds and is answered. -/
structure HoldReportEnv where
  isDsdsMode5 : Bool
  activeCallNum : ℕ
  isPendingHangup : Bool
  deriving DecidableEq, Repr

/-- A dial request: its number in the order of dials, and what it dials. -/
abbrev DialRequest := ℕ × CellularCallInfo

/-- The static state of the deferred dial: `needWaitHold_` and `dialCallInfo_`
    (call_object_manager.h:125-126) and the dialing flag of `CallRequestEventHandlerHelper`. The
    bookkeeping beside it: the number of the request in `dialCallInfo_`, the number of dials so
    far, the accepted requests that wait, all requests handed to `CellularCallConnection::Dial`,
    and those that were dialed late without waiting. -/
structure DialState where
  needWaitHold : Bool
  dialCallInfo : CellularCallInfo
  isDialingCallProcessing : Bool
  dialRequest : ℕ
  dials : ℕ
  waiting : List DialRequest
  dialed : List DialRequest
  dialedStale : List DialRequest
  deriving DecidableEq, Repr

namespace DialState

/-- The state the process starts with. -/
def init : DialState where
  needWaitHold := false
  dialCallInfo := {}
  isDialingCallProcessing := false
  dialRequest := 0
  dials := 0
  waiting := []
  dialed := []
  dialedStale := []

/-- `needWaitHold_ = false`: a request that still waits is abandoned. -/
def resetWaitHold (s : DialState) : DialState := { s with needWaitHold := false, waiting := [] }

/-- `CellularCallConnection::Dial`. -/
def dial (s : DialState) (request : DialRequest) : DialState :=
  { s with dialed := request :: s.dialed }

end DialState

open DialState

/-- `IsNewCallAllowedCreate` (call_object_manager.cpp:309-350): what `enabled` becomes, or
    `none` where `GetCarrierCallList` waits for the lock that is held. -/
def isNewCallAllowedCreate (lock : ListMutex) (env : DialEnv) : Option Bool :=
  if env.settingUp then some false
  else
    match lock with
    | .asWritten => none
    | .recursive => some (env.carrierCallNum < if env.notSupportMulticall then 1 else 2)

/-- `IsDialCallForDsda` (call_request_process.cpp:922-934). -/
def isDialCallForDsda (env : DialEnv) (info : DialParaInfo) (s : DialState) :
    ErrorCode × DialState :=
  match env.activeCallSlot with
  | some slot =>
    if slot ≠ info.accountId then
      (env.holdCall,
        if env.holdCall = .telephonySuccess then { s with needWaitHold := true } else s)
    else (.telephonySuccess, s)
  | none => (.telephonySuccess, s)

/-- `HandleDialingInfo` (call_request_process.cpp:863-888) with `HandleEccCallForDsda` (lines
    936-946): no code where it does not return. -/
def handleDialingInfo (lock : ListMutex) (env : DialEnv) (info : DialParaInfo) (s : DialState) :
    Option ErrorCode × DialState :=
  let ret := if env.isEccNumber then env.eccDialPolicy else .telephonySuccess
  if ret ≠ .telephonySuccess then (some ret, s)
  else if env.isEccNumber = false then
    match isNewCallAllowedCreate lock env with
    | none => (none, s)
    | some canDial =>
      if canDial = false then (some .callErrCallCountsExceedLimit, s)
      else if env.isDsdsMode5 then
        (some (isDialCallForDsda env info s).1, (isDialCallForDsda env info s).2)
      else (some .telephonySuccess, s)
  else (some .telephonySuccess, s)

/-- `PackCellularCallInfo` (call_request_process.cpp:967-990). -/
def packCellularCallInfo (env : DialEnv) (info : DialParaInfo) : ErrorCode × CellularCallInfo :=
  let callInfo : CellularCallInfo :=
    { callId := info.callId
      accountId := info.accountId
      callType := info.callType
      videoState := info.videoState
      index := info.index
      slotId := info.accountId
      isRTT := info.isRTT }
  if env.memsetOk = false then (.telephonyErrMemsetFail, callInfo)
  else if maxNumberLen < info.number.utf8ByteSize then (.callErrNumberOutOfRange, callInfo)
  else if env.memcpyOk = false then (.telephonyErrMemcpyFail, callInfo)
  else (.telephonySuccess, { callInfo with phoneNum := info.number })

/-- `HandleStartDial` (call_request_process.cpp:890-920). -/
def handleStartDial (env : DialEnv) (isMMiCode : Bool) (info : DialParaInfo) (s : DialState) :
    ErrorCode × DialState :=
  let (ret, callInfo) := packCellularCallInfo env info
  if ret ≠ .telephonySuccess then (ret, s.resetWaitHold)
  else if s.needWaitHold = true ∧ isMMiCode = false then
    -- waiting for the hold: the request is accepted and saved
    (ret, { s with
      dialCallInfo := callInfo
      dialRequest := s.dials
      waiting := s.waiting ++ [(s.dials, callInfo)] })
  else
    let s := s.dial (s.dials, callInfo)
    if env.dial ≠ .telephonySuccess then
      if isMMiCode then (env.dial, s)
      else if env.handleDialFail ≠ .telephonySuccess then (env.handleDialFail, s)
      else (env.dial, s)
    else (.telephonySuccess, s)

/-- `CarrierDialProcess` (call_request_process.cpp:821-861) behind `HandleDialingInfo`. -/
def dialChecked (env : DialEnv) (info : DialParaInfo) (s : DialState) : ErrorCode × DialState :=
  let isMMiCode := if info.isEcc then false else env.isMmiCode
  if isMMiCode = false then
    if env.updateCallReportInfo ≠ .telephonySuccess then
      (env.updateCallReportInfo, s.resetWaitHold)
    else handleStartDial env isMMiCode info s
  else handleStartDial env isMMiCode info { s with isDialingCallProcessing := false }

/-- `CarrierDialProcess` (call_request_process.cpp:821-861): no code where it does not return. -/
def carrierDialProcess (lock : ListMutex) (env : DialEnv) (info : DialParaInfo) (s : DialState) :
    Option ErrorCode × DialState :=
  if s.isDialingCallProcessing then (some .callErrCallCountsExceedLimit, s)
  else
    let s := { s with isDialingCallProcessing := true, dials := s.dials + 1 }
    let (ret, s) := handleDialingInfo lock env info s
    match ret with
    | none => (none, s)
    | some ret =>
      if ret ≠ .telephonySuccess then
        (some ret, { s with isDialingCallProcessing := false }.resetWaitHold)
      else (some (dialChecked env info s).1, (dialChecked env info s).2)

/-- `HandleDialWhenHolding` (call_status_manager.cpp:2495-2521), called with `needWaitHold_`
    just taken back: a pending hang-up abandons the request, and otherwise `dialCallInfo_` is
    dialed. -/
def handleDialWhenHolding (env : HoldReportEnv) (s : DialState) : DialState :=
  if env.isPendingHangup then s.resetWaitHold
  else
    let request := (s.dialRequest, s.dialCallInfo)
    let stale := if request ∈ s.waiting then s.dialedStale else request :: s.dialedStale
    ({ s with dialedStale := stale }.dial request).resetWaitHold

/-- The deferred dial's part of a HOLDING report, `UpdateCallStateAndHandleDsdsMode`
    (call_status_manager.cpp:2459-2493). -/
def holdingReport (env : HoldReportEnv) (s : DialState) : DialState :=
  if env.isDsdsMode5 ∧ s.needWaitHold ∧ env.activeCallNum = 0 then handleDialWhenHolding env s else s

/-- The deferred dial's part of a DISCONNECTED report, `DisconnectedHandle`
    (call_status_manager.cpp:1507-1510). -/
def disconnectedReport (env : HoldReportEnv) (s : DialState) : DialState :=
  if s.needWaitHold ∧ env.activeCallNum = 0 then handleDialWhenHolding env s else s

/-- One step: a dial, a report, the event that the hold failed (`HandleEventResultReportInfo`,
    call_status_manager.cpp:431), or the end of the time in which one dial excludes others
    (`RestoreDialingFlag(false)`). -/
inductive DialOp
  | carrierDial (env : DialEnv) (info : DialParaInfo)
  | holding (env : HoldReportEnv)
  | disconnected (env : HoldReportEnv)
  | holdCallFailed
  | restoreDialingFlag
  deriving DecidableEq

/-- The state after a step. -/
def dialStep (lock : ListMutex) (s : DialState) : DialOp → DialState
  | .carrierDial env info => (carrierDialProcess lock env info s).2
  | .holding env => holdingReport env s
  | .disconnected env => disconnectedReport env s
  | .holdCallFailed => s.resetWaitHold
  | .restoreDialingFlag => { s with isDialingCallProcessing := false }

/-! ## Specification -/

/-- **The deferred dial is in order**: the flag stands for exactly one waiting
    request, which is the one saved; no request has been dialed twice; and only
    waiting requests have been dialed late. -/
structure DeferredDialOk (s : DialState) : Prop where
  waits : s.needWaitHold = true → s.waiting = [(s.dialRequest, s.dialCallInfo)]
  once : (s.dialed.map Prod.fst).Nodup
  notStale : s.dialedStale = []

/-- The dial is treated as an MMI code. -/
def IsMmi (env : DialEnv) (info : DialParaInfo) : Prop := info.isEcc = false ∧ env.isMmiCode = true

/-- The dial is not an emergency one and waits for the lock that it holds. -/
def WaitsForItself (lock : ListMutex) (env : DialEnv) : Prop :=
  env.isEccNumber = false ∧ isNewCallAllowedCreate lock env = none

/-- The dial puts the active call of the other SIM on hold. -/
def PutsOnHold (lock : ListMutex) (env : DialEnv) (info : DialParaInfo) : Prop :=
  env.isEccNumber = false ∧ isNewCallAllowedCreate lock env = some true ∧
    env.isDsdsMode5 = true ∧ (∃ slot, env.activeCallSlot = some slot ∧ slot ≠ info.accountId) ∧
    env.holdCall = .telephonySuccess

/-- The checks of `HandleDialingInfo` let the dial pass. -/
def PassesChecks (lock : ListMutex) (env : DialEnv) (info : DialParaInfo) : Prop :=
  if env.isEccNumber = true then env.eccDialPolicy = .telephonySuccess
  else isNewCallAllowedCreate lock env = some true ∧
    (env.isDsdsMode5 = true → ∀ slot, env.activeCallSlot = some slot → slot ≠ info.accountId →
      env.holdCall = .telephonySuccess)

/-- The request can be packed. -/
def Packs (env : DialEnv) (info : DialParaInfo) : Prop :=
  env.memsetOk = true ∧ info.number.utf8ByteSize ≤ maxNumberLen ∧ env.memcpyOk = true

/-- The dial gets as far as a packed request. -/
def Starts (lock : ListMutex) (env : DialEnv) (info : DialParaInfo) : Prop :=
  PassesChecks lock env info ∧
    (¬ IsMmi env info → env.updateCallReportInfo = .telephonySuccess) ∧ Packs env info

/-- The steps that keep the deferred dial in order: a dial that gets as far as
    a packed request puts no call on hold if it is an MMI code (unless the flag
    is set anyway), and otherwise finds no earlier request waiting. -/
def DialOk (lock : ListMutex) (s : DialState) : DialOp → Prop
  | .carrierDial env info =>
    s.isDialingCallProcessing = false → Starts lock env info →
      (IsMmi env info → PutsOnHold lock env info → s.needWaitHold = true) ∧
      (¬ IsMmi env info → s.needWaitHold = false)
  | .holding _ | .disconnected _ | .holdCallFailed | .restoreDialingFlag => True

/-! ## What a dial does -/

section Dial

variable {lock : ListMutex} {env : DialEnv} {info : DialParaInfo} {s : DialState}

theorem isMMiCode_eq_true_iff :
    (if info.isEcc = true then false else env.isMmiCode) = true ↔ IsMmi env info := by
  unfold IsMmi
  cases info.isEcc <;> simp

/-- `HandleDialingInfo` lets a dial pass or not, whatever the state. -/
theorem handleDialingInfo_code :
    (handleDialingInfo lock env info s).1 = some .telephonySuccess ↔
      PassesChecks lock env info := by
  unfold handleDialingInfo PassesChecks
  cases hecc : env.isEccNumber
  · cases hnew : isNewCallAllowedCreate lock env with
    | none => simp
    | some canDial =>
      cases canDial
      · simp
      · cases hdsda : env.isDsdsMode5
        · simp
        · unfold isDialCallForDsda
          cases hslot : env.activeCallSlot with
          | none => simp
          | some slot => by_cases hs : slot = info.accountId <;> simp [hs]
  · by_cases hp : env.eccDialPolicy = .telephonySuccess <;> simp [hp]

theorem handleDialingInfo_none :
    (handleDialingInfo lock env info s).1 = none ↔ WaitsForItself lock env := by
  unfold handleDialingInfo WaitsForItself
  cases hecc : env.isEccNumber
  · cases hnew : isNewCallAllowedCreate lock env with
    | none => simp
    | some canDial => cases canDial <;> cases env.isDsdsMode5 <;> simp
  · by_cases hp : env.eccDialPolicy = .telephonySuccess <;> simp [hp]

theorem WaitsForItself.not_passesChecks (h : WaitsForItself lock env) :
    ¬ PassesChecks lock env info := by
  unfold PassesChecks
  simp [h.1, h.2]

theorem handleDialingInfo_hold (h : PutsOnHold lock env info) :
    (handleDialingInfo lock env info s).2 = { s with needWaitHold := true } := by
  obtain ⟨hecc, hnew, hdsda, ⟨slot, hslot, hs⟩, hhold⟩ := h
  simp [handleDialingInfo, isDialCallForDsda, hecc, hnew, hdsda, hslot, hs, hhold]

theorem handleDialingInfo_no_hold (h : ¬ PutsOnHold lock env info) :
    (handleDialingInfo lock env info s).2 = s := by
  unfold handleDialingInfo
  cases hecc : env.isEccNumber
  · cases hnew : isNewCallAllowedCreate lock env with
    | none => simp
    | some canDial =>
      cases canDial
      · simp
      · cases hdsda : env.isDsdsMode5
        · simp
        · unfold isDialCallForDsda
          cases hslot : env.activeCallSlot with
          | none => simp
          | some slot =>
            by_cases hs : slot = info.accountId
            · simp [hs]
            · have hhold : env.holdCall ≠ .telephonySuccess := fun hhold =>
                h ⟨hecc, hnew, hdsda, ⟨slot, hslot, hs⟩, hhold⟩
              simp [hs, hhold]
  · by_cases hp : env.eccDialPolicy = .telephonySuccess <;> simp [hp]

/-- The flag after `HandleDialingInfo`, on a state with the flag `b`. -/
def WaitsAfter (lock : ListMutex) (env : DialEnv) (info : DialParaInfo) (b : Bool) : Prop :=
  b = true ∨ PutsOnHold lock env info

/-- The five things a dial does to the state. -/
inductive DialOutcome (lock : ListMutex) (env : DialEnv) (info : DialParaInfo) (s : DialState) :
    DialState → Prop
  | refused : s.isDialingCallProcessing = true → DialOutcome lock env info s s
  | blocks : WaitsForItself lock env → s.isDialingCallProcessing = false →
    DialOutcome lock env info s
      { s with
        isDialingCallProcessing := true
        dials := s.dials + 1 }
  | failed (flag : Bool) : ¬ Starts lock env info → s.isDialingCallProcessing = false →
    DialOutcome lock env info s
      { s with
        isDialingCallProcessing := flag
        dials := s.dials + 1
        needWaitHold := false
        waiting := [] }
  | deferred (callInfo : CellularCallInfo) : Starts lock env info →
    s.isDialingCallProcessing = false → ¬ IsMmi env info →
    WaitsAfter lock env info s.needWaitHold →
    DialOutcome lock env info s
      { s with
        isDialingCallProcessing := true
        dials := s.dials + 1
        needWaitHold := true
        dialCallInfo := callInfo
        dialRequest := s.dials + 1
        waiting := s.waiting ++ [(s.dials + 1, callInfo)] }
  | dialed (flag needWait : Bool) (callInfo : CellularCallInfo) : Starts lock env info →
    s.isDialingCallProcessing = false →
    (IsMmi env info ∨ ¬ WaitsAfter lock env info s.needWaitHold) →
    (needWait = true ↔ WaitsAfter lock env info s.needWaitHold) →
    DialOutcome lock env info s
      { s with
        isDialingCallProcessing := flag
        dials := s.dials + 1
        needWaitHold := needWait
        dialed := (s.dials + 1, callInfo) :: s.dialed }

theorem packs_iff : (packCellularCallInfo env info).1 = .telephonySuccess ↔ Packs env info := by
  unfold packCellularCallInfo Packs
  cases env.memsetOk <;> cases env.memcpyOk <;>
    by_cases hlen : maxNumberLen < info.number.utf8ByteSize <;> simp [hlen]
  omega

/-- What `HandleStartDial` does with the flag as it finds it. -/
theorem handleStartDial_eq (isMMiCode : Bool) :
    (handleStartDial env isMMiCode info s).2 =
      if (packCellularCallInfo env info).1 ≠ .telephonySuccess then s.resetWaitHold
      else if s.needWaitHold = true ∧ isMMiCode = false then
        { s with
          dialCallInfo := (packCellularCallInfo env info).2
          dialRequest := s.dials
          waiting := s.waiting ++ [(s.dials, (packCellularCallInfo env info).2)] }
      else s.dial (s.dials, (packCellularCallInfo env info).2) := by
  unfold handleStartDial
  dsimp only
  split_ifs <;> rfl

/-- What becomes of a dial that the checks let pass, with the flag `needWait`. -/
theorem dialOutcome_of_passesChecks {needWait : Bool} (hpass : PassesChecks lock env info)
    (hflag : s.isDialingCallProcessing = false)
    (hneed : needWait = true ↔ WaitsAfter lock env info s.needWaitHold) :
    DialOutcome lock env info s
      (dialChecked env info
        { s with
          isDialingCallProcessing := true
          dials := s.dials + 1
          needWaitHold := needWait }).2 := by
  unfold dialChecked
  dsimp only
  by_cases hmmi : IsMmi env info
  · rw [isMMiCode_eq_true_iff.mpr hmmi, if_neg (by simp), handleStartDial_eq]
    by_cases hpack : (packCellularCallInfo env info).1 = .telephonySuccess
    · rw [if_neg (not_not.mpr hpack), if_neg (by simp)]
      exact DialOutcome.dialed false needWait _
        ⟨hpass, fun h => absurd hmmi h, packs_iff.mp hpack⟩ hflag (Or.inl hmmi) hneed
    · rw [if_pos hpack]
      exact DialOutcome.failed false (fun h => hpack (packs_iff.mpr h.2.2)) hflag
  · have hcode : (if info.isEcc = true then false else env.isMmiCode) = false :=
      Bool.eq_false_iff.mpr fun h => hmmi (isMMiCode_eq_true_iff.mp h)
    rw [hcode, if_pos rfl]
    by_cases hreport : env.updateCallReportInfo = .telephonySuccess
    swap
    · rw [if_pos hreport]
      exact DialOutcome.failed true (fun h => hreport (h.2.1 hmmi)) hflag
    rw [if_neg (not_not.mpr hreport), handleStartDial_eq]
    by_cases hpack : (packCellularCallInfo env info).1 = .telephonySuccess
    swap
    · rw [if_pos hpack]
      exact DialOutcome.failed true (fun h => hpack (packs_iff.mpr h.2.2)) hflag
    have hstarts : Starts lock env info := ⟨hpass, fun _ => hreport, packs_iff.mp hpack⟩
    rw [if_neg (not_not.mpr hpack)]
    cases needWait with
    | true =>
      rw [if_pos ⟨rfl, rfl⟩]
      exact DialOutcome.deferred _ hstarts hflag hmmi (hneed.mp rfl)
    | false =>
      rw [if_neg (by simp)]
      refine DialOutcome.dialed true false _ hstarts hflag (Or.inr ?_) hneed
      exact fun h => absurd (hneed.mpr h) (by simp)

/-- **A dial refuses, waits for itself, fails, waits for a hold or dials.** -/
theorem carrierDialProcess_cases :
    DialOutcome lock env info s (carrierDialProcess lock env info s).2 := by
  unfold carrierDialProcess
  cases hflag : s.isDialingCallProcessing
  swap
  · exact DialOutcome.refused hflag
  simp only [Bool.false_eq_true, if_false]
  -- the state after the checks
  obtain ⟨needWait, hneed, hs1⟩ : ∃ needWait : Bool,
      (needWait = true ↔ WaitsAfter lock env info s.needWaitHold) ∧
      (handleDialingInfo lock env info
        { s with isDialingCallProcessing := true, dials := s.dials + 1 }).2 =
      { s with
        isDialingCallProcessing := true
        dials := s.dials + 1
        needWaitHold := needWait } := by
    by_cases hhold : PutsOnHold lock env info
    · exact ⟨true, by simp [WaitsAfter, hhold], handleDialingInfo_hold hhold⟩
    · exact ⟨s.needWaitHold, by simp [WaitsAfter, hhold], handleDialingInfo_no_hold hhold⟩
  cases hret : (handleDialingInfo lock env info
      { s with isDialingCallProcessing := true, dials := s.dials + 1 }).1 with
  | none =>
    have hwaits := handleDialingInfo_none.mp hret
    dsimp only
    rw [handleDialingInfo_no_hold fun h => absurd (hwaits.2.symm.trans h.2.1) (by simp)]
    exact DialOutcome.blocks hwaits hflag
  | some ret =>
    dsimp only
    rw [hs1]
    by_cases hsuccess : ret = .telephonySuccess
    · subst hsuccess
      rw [if_neg (not_not.mpr rfl)]
      exact dialOutcome_of_passesChecks (handleDialingInfo_code.mp hret) hflag hneed
    · rw [if_pos hsuccess]
      refine DialOutcome.failed false (fun h => hsuccess ?_) hflag
      exact Option.some.inj (hret.symm.trans (handleDialingInfo_code.mpr h.1))

end Dial

/-! ## What holds in every state -/

/-- The bookkeeping of the requests: no request waits without the flag, and the requests that
    wait or have been dialed are among the dials so far, in different places. -/
structure Bookkeeping (s : DialState) : Prop where
  noFlag : s.needWaitHold = false → s.waiting = []
  waiting : ∀ r ∈ s.waiting, r.1 ≤ s.dials ∧ r.1 ∉ s.dialed.map Prod.fst
  dialed : ∀ r ∈ s.dialed, r.1 ≤ s.dials
  saved : s.dialRequest ≤ s.dials

theorem bookkeeping_init : Bookkeeping init where
  noFlag _ := rfl
  waiting _ hr := absurd hr List.not_mem_nil
  dialed _ hr := absurd hr List.not_mem_nil
  saved := Nat.le_refl _

theorem deferredDialOk_init : DeferredDialOk init where
  waits h := absurd h (by decide)
  once := List.nodup_nil
  notStale := rfl

/-- The number of the next dial is new. -/
theorem Bookkeeping.fresh {s : DialState} (h : Bookkeeping s) :
    s.dials + 1 ∉ s.dialed.map Prod.fst := by
  intro hmem
  obtain ⟨r, hr, heq⟩ := List.mem_map.mp hmem
  have := h.dialed r hr
  omega

theorem Bookkeeping.reset {s : DialState} (h : Bookkeeping s) : Bookkeeping s.resetWaitHold where
  noFlag _ := rfl
  waiting _ hr := absurd hr List.not_mem_nil
  dialed := h.dialed
  saved := h.saved

theorem Bookkeeping.carrierDial {lock : ListMutex} {s s' : DialState} {env : DialEnv}
    {info : DialParaInfo} (h : Bookkeeping s) (hout : DialOutcome lock env info s s') :
    Bookkeeping s' := by
  cases hout with
  | refused _ => exact h
  | blocks _ _ =>
    exact ⟨h.noFlag, fun r hr => ⟨Nat.le_succ_of_le (h.waiting r hr).1, (h.waiting r hr).2⟩,
      fun r hr => Nat.le_succ_of_le (h.dialed r hr), Nat.le_succ_of_le h.saved⟩
  | failed flag _ _ =>
    refine ⟨fun _ => rfl, fun r hr => absurd hr List.not_mem_nil, fun r hr => ?_,
      Nat.le_succ_of_le h.saved⟩
    exact Nat.le_succ_of_le (h.dialed r hr)
  | deferred callInfo _ _ _ _ =>
    refine ⟨fun hflag => absurd hflag (by simp), fun r hr => ?_, fun r hr => ?_, Nat.le_refl _⟩
    · rcases List.mem_append.mp hr with hr | hr
      · exact ⟨Nat.le_succ_of_le (h.waiting r hr).1, (h.waiting r hr).2⟩
      · rw [List.mem_singleton] at hr
        subst hr
        exact ⟨Nat.le_refl _, h.fresh⟩
    · exact Nat.le_succ_of_le (h.dialed r hr)
  | dialed flag needWait callInfo _ _ _ hneed =>
    refine ⟨fun hflag => ?_, fun r hr => ⟨?_, ?_⟩, fun r hr => ?_, Nat.le_succ_of_le h.saved⟩
    · have hold : s.needWaitHold ≠ true := by
        intro hold
        exact absurd (hneed.mpr (Or.inl hold)) (by simpa using hflag)
      exact h.noFlag (by simpa using hold)
    · exact Nat.le_succ_of_le (h.waiting r hr).1
    · intro hmem
      rcases List.mem_cons.mp hmem with heq | hmem
      · have := (h.waiting r hr).1
        simp only at heq
        omega
      · exact (h.waiting r hr).2 hmem
    · rcases List.mem_cons.mp hr with rfl | hr
      · exact Nat.le_refl _
      · exact Nat.le_succ_of_le (h.dialed r hr)

/-- The late dial of a state in order is that of the waiting request. -/
theorem handleDialWhenHolding_ok {s : DialState} {env : HoldReportEnv} (h : DeferredDialOk s)
    (hb : Bookkeeping s) (hwait : s.needWaitHold = true) :
    DeferredDialOk (handleDialWhenHolding env s) := by
  have hwaits := h.waits hwait
  have hmem : (s.dialRequest, s.dialCallInfo) ∈ s.waiting := by simp [hwaits]
  unfold handleDialWhenHolding
  split_ifs with hpending
  · exact ⟨fun hflag => absurd hflag (by simp [resetWaitHold]), h.once, h.notStale⟩
  · simp only [if_pos hmem]
    refine ⟨fun hflag => absurd hflag (by simp [resetWaitHold]), ?_, h.notStale⟩
    exact List.nodup_cons.mpr ⟨(hb.waiting _ hmem).2, h.once⟩

theorem Bookkeeping.handleDialWhenHolding {s : DialState} {env : HoldReportEnv}
    (h : Bookkeeping s) : Bookkeeping (handleDialWhenHolding env s) := by
  unfold CallManager.handleDialWhenHolding
  split_ifs with hpending
  · exact h.reset
  · refine ⟨fun _ => rfl, fun r hr => absurd hr List.not_mem_nil, fun r hr => ?_, h.saved⟩
    rcases List.mem_cons.mp hr with rfl | hr
    · exact h.saved
    · exact h.dialed r hr

theorem Bookkeeping.step {lock : ListMutex} {s : DialState} (h : Bookkeeping s) (op : DialOp) :
    Bookkeeping (dialStep lock s op) := by
  cases op with
  | carrierDial env info => exact h.carrierDial carrierDialProcess_cases
  | holding env =>
    simp only [dialStep, holdingReport]
    split_ifs
    · exact h.handleDialWhenHolding
    · exact h
  | disconnected env =>
    simp only [dialStep, disconnectedReport]
    split_ifs
    · exact h.handleDialWhenHolding
    · exact h
  | holdCallFailed => exact h.reset
  | restoreDialingFlag => exact ⟨h.noFlag, h.waiting, h.dialed, h.saved⟩

/-! ## Runs -/

/-- A dial keeps the deferred dial in order iff it may be made. -/
theorem deferredDialOk_carrierDial_iff {lock : ListMutex} {s s' : DialState} {env : DialEnv}
    {info : DialParaInfo} (h : DeferredDialOk s) (hb : Bookkeeping s)
    (hout : DialOutcome lock env info s s') :
    DeferredDialOk s' ↔ DialOk lock s (.carrierDial env info) := by
  cases hout with
  | refused hflag =>
    simp only [h, DialOk, hflag, Bool.true_eq_false, false_imp_iff]
  | blocks hwaits _ =>
    refine iff_of_true ⟨h.waits, h.once, h.notStale⟩ ?_
    exact fun _ hs => absurd hs.1 hwaits.not_passesChecks
  | failed flag hstarts _ =>
    refine iff_of_true ⟨fun hflag => absurd hflag (by simp), h.once, h.notStale⟩ ?_
    exact fun _ hs => absurd hs hstarts
  | deferred callInfo hstarts hflag hmmi hwaits =>
    -- an earlier request would still be waiting beside the new one
    have hok : DialOk lock s (.carrierDial env info) ↔ s.needWaitHold = false := by
      simp [DialOk, hflag, hstarts, hmmi]
    rw [hok]
    constructor
    · intro h'
      by_contra hne
      have hold := h.waits (by simpa using hne)
      have hnew := h'.waits rfl
      simp [hold] at hnew
    · intro hne
      refine ⟨fun _ => ?_, h.once, h.notStale⟩
      simp [hb.noFlag hne]
  | dialed flag needWait callInfo hstarts hflag hdirect hneed =>
    have honce : ((s.dials + 1, callInfo) :: s.dialed).map Prod.fst |>.Nodup :=
      List.nodup_cons.mpr ⟨hb.fresh, h.once⟩
    constructor
    · intro h' _ _
      refine ⟨fun hmmi hhold => ?_, fun hmmi => ?_⟩
      · -- the flag is set now, so the waiting list cannot be empty
        by_contra hne
        have hnil := hb.noFlag (by simpa using hne)
        have hone := h'.waits (hneed.mpr (Or.inr hhold))
        simp [hnil] at hone
      · have hno := hdirect.resolve_left hmmi
        simpa [WaitsAfter] using fun hold => hno (Or.inl hold)
    · intro hok
      obtain ⟨hmmi, hnot⟩ := hok hflag hstarts
      refine ⟨fun hnw => ?_, honce, h.notStale⟩
      have hold : s.needWaitHold = true := by
        rcases hneed.mp hnw with hold | hhold
        · exact hold
        · by_cases him : IsMmi env info
          · exact hmmi him hhold
          · exact absurd (Or.inr hhold) (hdirect.resolve_left him)
      exact h.waits hold

/-- **One step** keeps the deferred dial in order iff it is not a dial that may not be made. -/
theorem deferredDialOk_step_iff {lock : ListMutex} {s : DialState} (hb : Bookkeeping s)
    (h : DeferredDialOk s) (op : DialOp) :
    DeferredDialOk (dialStep lock s op) ↔ DialOk lock s op := by
  cases op with
  | carrierDial env info => exact deferredDialOk_carrierDial_iff h hb carrierDialProcess_cases
  | holding env =>
    refine iff_of_true ?_ trivial
    simp only [dialStep, holdingReport]
    split_ifs with hcond
    · exact handleDialWhenHolding_ok h hb hcond.2.1
    · exact h
  | disconnected env =>
    refine iff_of_true ?_ trivial
    simp only [dialStep, disconnectedReport]
    split_ifs with hcond
    · exact handleDialWhenHolding_ok h hb hcond.1
    · exact h
  | holdCallFailed =>
    refine iff_of_true ?_ trivial
    exact ⟨fun hflag => absurd hflag (by simp [dialStep, resetWaitHold]), h.once, h.notStale⟩
  | restoreDialingFlag =>
    exact iff_of_true ⟨h.waits, h.once, h.notStale⟩ trivial

/-- In a run of dials, reports, failed holds and ends of the dialing time, in any
    order and with any answers, the deferred dial is in order in every state iff
    no dial of the run that gets as far as a packed request is an MMI code that
    puts the other SIM's call on hold, or finds an earlier request waiting. -/
theorem deferredDial_iff (lock : ListMutex) (ops : List DialOp) :
    Run.StatesMeet (dialStep lock) DeferredDialOk init ops ↔
      Run.StepsMeet (dialStep lock) (DialOk lock) init ops :=
  Run.statesMeet_iff_stepsMeet_of_invariant (fun _ op h => Bookkeeping.step h op)
    (fun _ op hb h => deferredDialOk_step_iff hb h op) ops bookkeeping_init deferredDialOk_init

/-! ## As the code is written -/

/-- With the mutex as it is, a new call is never allowed. -/
theorem isNewCallAllowedCreate_ne_true (env : DialEnv) :
    isNewCallAllowedCreate .asWritten env ≠ some true := by
  unfold isNewCallAllowedCreate
  split_ifs <;> simp

theorem not_putsOnHold (env : DialEnv) (info : DialParaInfo) : ¬ PutsOnHold .asWritten env info :=
  fun h => isNewCallAllowedCreate_ne_true env h.2.1

/-- No step sets the flag. -/
theorem needWaitHold_step {s : DialState} (h : s.needWaitHold = false) (op : DialOp) :
    (dialStep .asWritten s op).needWaitHold = false := by
  cases op with
  | carrierDial env info =>
    have hno : ¬ WaitsAfter .asWritten env info s.needWaitHold := by
      rintro (hold | hhold)
      · exact absurd (h.symm.trans hold) (by simp)
      · exact not_putsOnHold env info hhold
    have hout : DialOutcome .asWritten env info s (carrierDialProcess .asWritten env info s).2 :=
      carrierDialProcess_cases
    show (carrierDialProcess .asWritten env info s).2.needWaitHold = false
    generalize (carrierDialProcess .asWritten env info s).2 = s' at hout
    cases hout with
    | refused _ | blocks _ _ => exact h
    | failed _ _ _ => rfl
    | deferred _ _ _ _ hwaits => exact absurd hwaits hno
    | dialed _ _ _ _ _ _ hneed => exact Bool.eq_false_iff.mpr fun hnw => hno (hneed.mp hnw)
  | holding env => simp [dialStep, holdingReport, h]
  | disconnected env => simp [dialStep, disconnectedReport, h]
  | holdCallFailed => rfl
  | restoreDialingFlag => exact h

/-- A dial that finds the flag down and puts no call on hold may be made. -/
theorem dialOk_of_needWaitHold {s : DialState} (h : s.needWaitHold = false) (op : DialOp) :
    DialOk .asWritten s op := by
  cases op with
  | carrierDial env info =>
    exact fun _ _ => ⟨fun _ hhold => absurd hhold (not_putsOnHold env info), fun _ => h⟩
  | holding _ | disconnected _ | holdCallFailed | restoreDialingFlag => trivial

/-- A dial from slot 1 while a call of slot 0 is active and can be held. -/
def holdingDialEnv (isMmiCode : Bool) : DialEnv where
  isEccNumber := false
  eccDialPolicy := .telephonySuccess
  settingUp := false
  carrierCallNum := 1
  notSupportMulticall := false
  isDsdsMode5 := true
  activeCallSlot := some 0
  holdCall := .telephonySuccess
  isMmiCode := isMmiCode
  updateCallReportInfo := .telephonySuccess
  memsetOk := true
  memcpyOk := true
  dial := .telephonySuccess
  handleDialFail := .telephonySuccess

/-- A dial of `number` from slot 1. -/
def slotOneDial (number : String) : DialParaInfo where
  accountId := 1
  callId := 0
  index := 0
  isRTT := false
  number := number
  videoState := .voice
  callType := .ims
  isEcc := false

/-- A HOLDING report that leaves no call active. -/
def lastHoldReport : HoldReportEnv where
  isDsdsMode5 := true
  activeCallNum := 0
  isPendingHangup := false

/-- A normal dial that waits for a hold and is dialed by the HOLDING report, and later an MMI
    dial that puts a call on hold: the next HOLDING report dials the first number again. -/
theorem mmi_dial_redials_request :
    let ops : List DialOp :=
      [.carrierDial (holdingDialEnv false) (slotOneDial "10086"), .holding lastHoldReport,
        .restoreDialingFlag, .carrierDial (holdingDialEnv true) (slotOneDial "*#06#"),
        .holding lastHoldReport]
    ((Run.run (dialStep .recursive) init ops).dialed.map fun r => (r.1, r.2.phoneNum)) =
      [(1, "10086"), (2, "*#06#"), (1, "10086")] ∧
    ¬ Run.StatesMeet (dialStep .recursive) DeferredDialOk init ops := by
  refine ⟨by decide, fun h => ?_⟩
  have hlast := h.last.once
  revert hlast
  decide

end CallManager
