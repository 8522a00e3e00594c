import CallManager.DeferredDial

/-!
# The exits of a failed dial

`CarrierDialProcess` sets the dialing flag, which makes every other dial return
`CALL_ERR_CALL_COUNTS_EXCEED_LIMIT`, and posts a task that takes it back after
three seconds; `HandleDialingInfo` may set `needWaitHold_`. A dial that fails
should take all three back before it returns (`Free`).

Only the exit after `HandleDialingInfo` does so. The exits after
`UpdateCallReportInfo` and `PackCellularCallInfo` take `needWaitHold_` back and
leave the flag and the task; those after `Dial` and `HandleDialFail` leave all
of them. An MMI dial takes the flag and the task back before it dials, and
leaves `needWaitHold_` when `Dial` fails.

While the dial waits for the functions it calls, the other threads may take
these back in its place: `DialingHandle` and the task itself the flag and the
task, and a HOLDING or DISCONNECTED report or the event that the hold failed
`needWaitHold_`. Their steps between two calls of the dial are a parameter.
Other dials do not overlap with it, as the flag is there to exclude them. A dial
that waits for `listMutex_` in `IsNewCallAllowedCreate` does not return.

Results:
* `carrierDialProcess_dial`: when no other thread comes in between, this is the
  dial of the deferred dial's model.
* `failedDial_iff`: a dial that fails leaves nothing behind iff a failure behind
  the checks finds the flag and the task taken back by another thread, and an
  MMI dial that fails finds no hold to wait for.
* `failed_ecc_dial_refuses_next`: an emergency dial that the modem fails leaves
  the flag and the task, and the next dial is refused.
* `next_dial_of_free`: after a dial that left nothing behind, the next one is let
  in, and waits only if it puts a call on hold itself.
-/

namespace CallManager

/-! ## Model -/

/-- The state of a dial with its protect task: `handler` is
    `callRequestEventHandler_` of `CallRequestEventHandlerHelper`, `none` for a
    null pointer, with whether the task `TASK_ID` waits in it. -/
structure GuardedDial where
  dial : DialState
  handler : Option Bool
  deriving DecidableEq, Repr

/-- A step of another thread that takes something back: `DialingHandle`
    (call_status_manager.cpp:986-987), the protect task, or one of the three that take back
    `needWaitHold_`. -/
inductive OtherStep
  | dialingHandle
  | protectTask
  | holding (env : HoldReportEnv)
  | disconnected (env : HoldReportEnv)
  | holdCallFailed
  deriving DecidableEq, Repr

/-- What a dial meets beside the results in `DialEnv`: whether the handler takes
    the task, and the steps of the other threads up to the hold of
    `HandleDialingInfo`, from there to its end, while the DIALING report is sent
    or the MMI dialog shown, in `Dial`, and in `HandleDialFail`. -/
structure DialOverlap where
  postTask : Bool
  checks : List OtherStep
  held : List OtherStep
  report : List OtherStep
  dial : List OtherStep
  dialFail : List OtherStep
  deriving DecidableEq, Repr

namespace GuardedDial

/-- `RestoreDialingFlag` (call_request_event_handler_helper.cpp:66-73). -/
def restoreDialingFlag (isDialingCallProcessing : Bool) (g : GuardedDial) : GuardedDial :=
  { g with dial := { g.dial with isDialingCallProcessing := isDialingCallProcessing } }

/-- `SetDialingCallProcessing` (call_request_event_handler_helper.cpp:41-57). -/
def setDialingCallProcessing (postTask : Bool) (g : GuardedDial) : GuardedDial :=
  if g.handler.isSome ∧ g.dial.isDialingCallProcessing then { g with handler := some postTask }
  else g

/-- `RemoveEventHandlerTask` (call_request_event_handler_helper.cpp:59-64). -/
def removeEventHandlerTask (g : GuardedDial) : GuardedDial :=
  { g with handler := g.handler.map fun _ => false }

/-- `needWaitHold_ = false`. -/
def resetWaitHold (g : GuardedDial) : GuardedDial := { g with dial := g.dial.resetWaitHold }

/-- `CellularCallConnection::Dial`. -/
def sendDial (callInfo : CellularCallInfo) (g : GuardedDial) : GuardedDial :=
  { g with dial := g.dial.dial (g.dial.dials, callInfo) }

/-- A step of another thread. The task runs if it waits in the handler. -/
def otherStep (g : GuardedDial) : OtherStep → GuardedDial
  | .dialingHandle => (g.restoreDialingFlag false).removeEventHandlerTask
  | .protectTask =>
    if g.handler = some true then (g.restoreDialingFlag false).removeEventHandlerTask else g
  | .holding env => { g with dial := holdingReport env g.dial }
  | .disconnected env => { g with dial := disconnectedReport env g.dial }
  | .holdCallFailed => g.resetWaitHold

/-- The steps of the other threads between two calls of the dial. -/
def others (steps : List OtherStep) (g : GuardedDial) : GuardedDial := steps.foldl otherStep g

/-- The state in which `HandleDialingInfo` decides: the flag is set, the task
    posted, and the dial has its number. -/
def entered (overlap : DialOverlap) (g : GuardedDial) : GuardedDial :=
  let g := (g.restoreDialingFlag true).setDialingCallProcessing overlap.postTask
  { g with dial := { g.dial with dials := g.dial.dials + 1 } }.others overlap.checks

/-- The state in which `HandleDialingInfo` returns. -/
def checked (lock : ListMutex) (env : DialEnv) (overlap : DialOverlap) (info : DialParaInfo)
    (g : GuardedDial) : GuardedDial :=
  let g := g.entered overlap
  { g with dial := (handleDialingInfo lock env info g.dial).2 }.others overlap.held

/-- `HandleStartDial` (call_request_process.cpp:890-920). -/
def handleStartDial (env : DialEnv) (overlap : DialOverlap) (isMMiCode : Bool)
    (info : DialParaInfo) (g : GuardedDial) : ErrorCode × GuardedDial :=
  let (ret, callInfo) := packCellularCallInfo env info
  if ret ≠ .telephonySuccess then (ret, g.resetWaitHold)
  else if g.dial.needWaitHold = true ∧ isMMiCode = false then
    (ret, { g with
      dial := { g.dial with
        dialCallInfo := callInfo
        dialRequest := g.dial.dials
        waiting := g.dial.waiting ++ [(g.dial.dials, callInfo)] } })
  else
    let g := (g.sendDial callInfo).others overlap.dial
    if env.dial ≠ .telephonySuccess then
      if isMMiCode then (env.dial, g)
      else
        let g := g.others overlap.dialFail
        if env.handleDialFail ≠ .telephonySuccess then (env.handleDialFail, g)
        else (env.dial, g)
    else (.telephonySuccess, g)

/-- `CarrierDialProcess` (call_request_process.cpp:821-861) behind `HandleDialingInfo`. -/
def dialChecked (env : DialEnv) (overlap : DialOverlap) (info : DialParaInfo) (g : GuardedDial) :
    ErrorCode × GuardedDial :=
  let isMMiCode := if info.isEcc then false else env.isMmiCode
  if isMMiCode = false then
    let g := g.others overlap.report
    if env.updateCallReportInfo ≠ .telephonySuccess then
      (env.updateCallReportInfo, g.resetWaitHold)
    else handleStartDial env overlap isMMiCode info g
  else
    let g := (g.restoreDialingFlag false).removeEventHandlerTask.others overlap.report
    handleStartDial env overlap isMMiCode info g

/-- `CarrierDialProcess` (call_request_process.cpp:821-861): no code where it does not return. -/
def carrierDialProcess (lock : ListMutex) (env : DialEnv) (overlap : DialOverlap)
    (info : DialParaInfo) (g : GuardedDial) : Option ErrorCode × GuardedDial :=
  if g.dial.isDialingCallProcessing then (some .callErrCallCountsExceedLimit, g)
  else
    let ret := (handleDialingInfo lock env info (g.entered overlap).dial).1
    let g := g.checked lock env overlap info
    match ret with
    | none => (none, g)
    | some ret =>
      if ret ≠ .telephonySuccess then
        (some ret, (g.restoreDialingFlag false).removeEventHandlerTask.resetWaitHold)
      else
        (some (g.dialChecked env overlap info).1, (g.dialChecked env overlap info).2)

end GuardedDial

/-! ## Specification -/

/-- **Nothing of a dial is left behind**: the next dial is let in, no task is going to take back
    its flag, and it does not wait for a hold it did not ask for. -/
structure GuardedDial.Free (g : GuardedDial) : Prop where
  flag : g.dial.isDialingCallProcessing = false
  task : g.handler ≠ some true
  hold : g.dial.needWaitHold = false

/-- A dial that was let in and fails leaves nothing behind. -/
def FailsFree (lock : ListMutex) (env : DialEnv) (overlap : DialOverlap) (info : DialParaInfo)
    (g : GuardedDial) : Prop :=
  g.dial.isDialingCallProcessing = false → ∀ ret,
    (g.carrierDialProcess lock env overlap info).1 = some ret → ret ≠ .telephonySuccess →
      (g.carrierDialProcess lock env overlap info).2.Free

/-- Among the steps of the other threads is one that takes back the flag and
    the task: `DialingHandle`, or the task itself where it was posted. -/
def TakesFlagBack (posted : Bool) (steps : List OtherStep) : Prop :=
  .dialingHandle ∈ steps ∨ (posted = true ∧ .protectTask ∈ steps)

/-- The step takes back `needWaitHold_`. -/
def OtherStep.TakesHoldBack : OtherStep → Prop
  | .dialingHandle | .protectTask => False
  | .holding env => env.isDsdsMode5 = true ∧ env.activeCallNum = 0
  | .disconnected env => env.activeCallNum = 0
  | .holdCallFailed => True

/-- A dial waits for a hold, its own or one from before, that none of the other
    threads has taken back. -/
def AwaitsHold (lock : ListMutex) (env : DialEnv) (info : DialParaInfo) (needWaitHold : Bool)
    (before since : List OtherStep) : Prop :=
  ((needWaitHold = true ∧ ∀ step ∈ before, ¬ step.TakesHoldBack) ∨ PutsOnHold lock env info) ∧
    ∀ step ∈ since, ¬ step.TakesHoldBack

/-- The dials whose failure is made good: a normal dial that fails behind the
    checks finds the flag and the task taken back by another thread, and an MMI
    dial that fails in `Dial` waits for no hold. -/
structure MadeGood (lock : ListMutex) (env : DialEnv) (overlap : DialOverlap)
    (info : DialParaInfo) (g : GuardedDial) : Prop where
  mmi : IsMmi env info → Packs env info → env.dial ≠ .telephonySuccess →
    ¬ AwaitsHold lock env info g.dial.needWaitHold overlap.checks
      (overlap.held ++ overlap.report ++ overlap.dial)
  unsent : ¬ IsMmi env info →
    (env.updateCallReportInfo ≠ .telephonySuccess ∨ ¬ Packs env info) →
    TakesFlagBack (g.handler.isSome && overlap.postTask)
      (overlap.checks ++ overlap.held ++ overlap.report)
  undialed : ¬ IsMmi env info →
    env.updateCallReportInfo = .telephonySuccess → Packs env info →
    ¬ AwaitsHold lock env info g.dial.needWaitHold overlap.checks (overlap.held ++ overlap.report) →
    env.dial ≠ .telephonySuccess →
    TakesFlagBack (g.handler.isSome && overlap.postTask)
      (overlap.checks ++ overlap.held ++ overlap.report ++ overlap.dial ++ overlap.dialFail)

namespace GuardedDial

variable {lock : ListMutex} {env : DialEnv} {overlap : DialOverlap} {info : DialParaInfo}
  {g : GuardedDial}

/-! ## The other threads -/

/-- The flag and the task. -/
def flagAndTask (g : GuardedDial) : Bool × Option Bool :=
  (g.dial.isDialingCallProcessing, g.handler)

/-- What a step of another thread does to the flag and the task. -/
def otherStepFlag (p : Bool × Option Bool) : OtherStep → Bool × Option Bool
  | .dialingHandle => (false, p.2.map fun _ => false)
  | .protectTask => if p.2 = some true then (false, some false) else p
  | .holding _ | .disconnected _ | .holdCallFailed => p

theorem holdingReport_flag (e : HoldReportEnv) (s : DialState) :
    (holdingReport e s).isDialingCallProcessing = s.isDialingCallProcessing := by
  unfold holdingReport handleDialWhenHolding
  split_ifs <;> rfl

theorem disconnectedReport_flag (e : HoldReportEnv) (s : DialState) :
    (disconnectedReport e s).isDialingCallProcessing = s.isDialingCallProcessing := by
  unfold disconnectedReport handleDialWhenHolding
  split_ifs <;> rfl

theorem flagAndTask_otherStep (step : OtherStep) :
    (g.otherStep step).flagAndTask = otherStepFlag g.flagAndTask step := by
  cases step with
  | dialingHandle => rfl
  | protectTask =>
    unfold otherStep otherStepFlag
    by_cases h : g.handler = some true
    · rw [if_pos h]
      simp [flagAndTask, restoreDialingFlag, removeEventHandlerTask, h]
    · rw [if_neg h]
      simp [flagAndTask, h]
  | holding e =>
    show ((holdingReport e g.dial).isDialingCallProcessing, g.handler) = _
    rw [holdingReport_flag]
    rfl
  | disconnected e =>
    show ((disconnectedReport e g.dial).isDialingCallProcessing, g.handler) = _
    rw [disconnectedReport_flag]
    rfl
  | holdCallFailed => rfl

theorem flagAndTask_others (steps : List OtherStep) :
    (g.others steps).flagAndTask = steps.foldl otherStepFlag g.flagAndTask := by
  unfold others
  induction steps generalizing g with
  | nil => rfl
  | cons step steps ih =>
    rw [List.foldl_cons, List.foldl_cons, ih, flagAndTask_otherStep]

/-- The flag is down and no task waits. -/
def Idle (p : Bool × Option Bool) : Prop := p.1 = false ∧ p.2 ≠ some true

/-- The flag and the task are gone after the steps of the other threads iff they
    were gone before or one of the steps took them back. -/
theorem idle_foldl (steps : List OtherStep) (p : Bool × Option Bool) :
    Idle (steps.foldl otherStepFlag p) ↔
      Idle p ∨ .dialingHandle ∈ steps ∨ (p.2 = some true ∧ .protectTask ∈ steps) := by
  induction steps generalizing p with
  | nil => simp
  | cons step steps ih =>
    rw [List.foldl_cons, ih]
    cases step with
    | dialingHandle =>
      have hidle : Idle (otherStepFlag p .dialingHandle) := by
        refine ⟨rfl, ?_⟩
        show (p.2.map fun _ => false) ≠ some true
        cases p.2 <;> simp
      simp [hidle]
    | protectTask =>
      by_cases h : p.2 = some true
      · have hidle : Idle (otherStepFlag p .protectTask) := by
          simp [otherStepFlag, h, Idle]
        simp [hidle, h]
      · simp [otherStepFlag, h]
    | holding e => simp [otherStepFlag]
    | disconnected e => simp [otherStepFlag]
    | holdCallFailed => simp [otherStepFlag]

theorem needWaitHold_otherStep (step : OtherStep) :
    (g.otherStep step).dial.needWaitHold = true ↔
      g.dial.needWaitHold = true ∧ ¬ step.TakesHoldBack := by
  cases step with
  | dialingHandle => simp [otherStep, restoreDialingFlag, removeEventHandlerTask,
      OtherStep.TakesHoldBack]
  | protectTask =>
    unfold otherStep
    split_ifs <;> simp [restoreDialingFlag, removeEventHandlerTask, OtherStep.TakesHoldBack]
  | holding e =>
    unfold otherStep holdingReport handleDialWhenHolding
    dsimp only
    split_ifs with h hp <;> simp_all [DialState.resetWaitHold, OtherStep.TakesHoldBack]
  | disconnected e =>
    unfold otherStep disconnectedReport handleDialWhenHolding
    dsimp only
    split_ifs with h hp <;> simp_all [DialState.resetWaitHold, OtherStep.TakesHoldBack]
  | holdCallFailed => simp [otherStep, resetWaitHold, DialState.resetWaitHold,
      OtherStep.TakesHoldBack]

/-- A dial still waits after the steps of the other threads iff none of them took the hold back. -/
theorem needWaitHold_others (steps : List OtherStep) :
    (g.others steps).dial.needWaitHold = true ↔
      g.dial.needWaitHold = true ∧ ∀ step ∈ steps, ¬ step.TakesHoldBack := by
  unfold others
  induction steps generalizing g with
  | nil => simp
  | cons step steps ih =>
    rw [List.foldl_cons, ih, needWaitHold_otherStep, List.forall_mem_cons, and_assoc]

/-! ## Up to the checks -/

/-- The task after `SetDialingCallProcessing`. -/
def postedTask (overlap : DialOverlap) (g : GuardedDial) : Option Bool :=
  if g.handler.isSome then some overlap.postTask else none

theorem postedTask_eq_some_true :
    g.postedTask overlap = some true ↔ (g.handler.isSome && overlap.postTask) = true := by
  unfold postedTask
  cases g.handler <;> simp

theorem entered_flagAndTask :
    (g.entered overlap).flagAndTask =
      overlap.checks.foldl otherStepFlag (true, g.postedTask overlap) := by
  unfold entered
  rw [flagAndTask_others]
  congr 1
  unfold flagAndTask setDialingCallProcessing restoreDialingFlag postedTask
  cases g.handler <;> simp

theorem entered_needWaitHold :
    (g.entered overlap).dial.needWaitHold = true ↔
      g.dial.needWaitHold = true ∧ ∀ step ∈ overlap.checks, ¬ step.TakesHoldBack := by
  unfold entered
  rw [needWaitHold_others]
  unfold setDialingCallProcessing restoreDialingFlag
  dsimp only
  split_ifs <;> rfl

theorem handleDialingInfo_flag (s : DialState) :
    (handleDialingInfo lock env info s).2.isDialingCallProcessing = s.isDialingCallProcessing := by
  by_cases h : PutsOnHold lock env info
  · rw [handleDialingInfo_hold h]
  · rw [handleDialingInfo_no_hold h]

theorem handleDialingInfo_needWaitHold (s : DialState) :
    (handleDialingInfo lock env info s).2.needWaitHold = true ↔
      s.needWaitHold = true ∨ PutsOnHold lock env info := by
  by_cases h : PutsOnHold lock env info
  · rw [handleDialingInfo_hold h]
    simp [h]
  · rw [handleDialingInfo_no_hold h]
    simp [h]

theorem checked_flagAndTask :
    (g.checked lock env overlap info).flagAndTask =
      (overlap.checks ++ overlap.held).foldl otherStepFlag (true, g.postedTask overlap) := by
  unfold checked
  rw [flagAndTask_others, List.foldl_append, ← entered_flagAndTask]
  congr 1
  unfold flagAndTask
  rw [handleDialingInfo_flag]

theorem checked_needWaitHold :
    (g.checked lock env overlap info).dial.needWaitHold = true ↔
      AwaitsHold lock env info g.dial.needWaitHold overlap.checks overlap.held := by
  unfold checked
  rw [needWaitHold_others, handleDialingInfo_needWaitHold, entered_needWaitHold]
  rfl

/-- The steps of the other threads go on where the checks left off. -/
theorem awaitsHold_append {needWaitHold : Bool} {before since later : List OtherStep} :
    AwaitsHold lock env info needWaitHold before (since ++ later) ↔
      AwaitsHold lock env info needWaitHold before since ∧
        ∀ step ∈ later, ¬ step.TakesHoldBack := by
  unfold AwaitsHold
  rw [List.forall_mem_append, and_assoc]

/-- The flag and the task, set at the entry, are gone iff another thread took them back. -/
theorem idle_set_iff (steps : List OtherStep) :
    Idle (steps.foldl otherStepFlag (true, g.postedTask overlap)) ↔
      TakesFlagBack (g.handler.isSome && overlap.postTask) steps := by
  unfold TakesFlagBack
  rw [idle_foldl, ← postedTask_eq_some_true]
  simp [Idle]

/-! ## The exits -/

theorem free_iff : g.Free ↔ Idle g.flagAndTask ∧ g.dial.needWaitHold = false :=
  ⟨fun h => ⟨⟨h.flag, h.task⟩, h.hold⟩, fun h => ⟨h.1.1, h.1.2, h.2⟩⟩

theorem resetWaitHold_free_iff : g.resetWaitHold.Free ↔ Idle g.flagAndTask := by
  rw [free_iff]
  exact ⟨fun h => h.1, fun h => ⟨h, rfl⟩⟩

theorem idle_restored : Idle (g.restoreDialingFlag false).removeEventHandlerTask.flagAndTask := by
  refine ⟨rfl, ?_⟩
  show (g.handler.map fun _ => false) ≠ some true
  cases g.handler <;> simp

theorem sendDial_flagAndTask (callInfo : CellularCallInfo) :
    (g.sendDial callInfo).flagAndTask = g.flagAndTask := rfl

/-- The steps of the other threads keep a flag that is down down. -/
theorem idle_others (h : Idle g.flagAndTask) (steps : List OtherStep) :
    Idle (g.others steps).flagAndTask := by
  rw [flagAndTask_others, idle_foldl]
  exact Or.inl h

/-- An MMI dial that fails leaves nothing behind iff it fails before `Dial` or
    waits for no hold. -/
theorem handleStartDial_mmi (hidle : Idle g.flagAndTask) :
    ((g.handleStartDial env overlap true info).1 ≠ .telephonySuccess →
        (g.handleStartDial env overlap true info).2.Free) ↔
      (Packs env info → env.dial ≠ .telephonySuccess →
        ¬ (g.dial.needWaitHold = true ∧ ∀ step ∈ overlap.dial, ¬ step.TakesHoldBack)) := by
  unfold handleStartDial
  dsimp only
  by_cases hpack : (packCellularCallInfo env info).1 = .telephonySuccess
  · rw [if_neg (not_not.mpr hpack), if_neg (by simp)]
    have hpacks : Packs env info := packs_iff.mp hpack
    by_cases hdial : env.dial = .telephonySuccess
    · simp [hdial]
    · rw [if_pos hdial, if_pos rfl]
      dsimp only
      rw [free_iff, ← Bool.not_eq_true, needWaitHold_others]
      have hleft : Idle ((g.sendDial (packCellularCallInfo env info).2).others
          overlap.dial).flagAndTask :=
        idle_others ((sendDial_flagAndTask _).symm ▸ hidle) overlap.dial
      exact ⟨fun h _ _ => (h hdial).2, fun h _ => ⟨hleft, h hpacks hdial⟩⟩
  · rw [if_pos hpack]
    dsimp only
    rw [resetWaitHold_free_iff]
    exact ⟨fun _ hpacks => absurd (packs_iff.mpr hpacks) hpack, fun _ _ => hidle⟩

/-- A normal dial that fails in `HandleStartDial` leaves nothing behind iff the
    flag and the task are taken back by then. -/
theorem handleStartDial_normal :
    ((g.handleStartDial env overlap false info).1 ≠ .telephonySuccess →
        (g.handleStartDial env overlap false info).2.Free) ↔
      (¬ Packs env info → Idle g.flagAndTask) ∧
      (Packs env info → ¬ g.dial.needWaitHold = true → env.dial ≠ .telephonySuccess →
        Idle ((overlap.dial ++ overlap.dialFail).foldl otherStepFlag g.flagAndTask)) := by
  unfold handleStartDial
  dsimp only
  by_cases hpack : (packCellularCallInfo env info).1 = .telephonySuccess
  · have hpacks : Packs env info := packs_iff.mp hpack
    rw [if_neg (not_not.mpr hpack)]
    by_cases hwait : g.dial.needWaitHold = true
    · rw [if_pos ⟨hwait, rfl⟩]
      simp [hpack, hpacks, hwait]
    · rw [if_neg (fun h => hwait h.1)]
      by_cases hdial : env.dial = .telephonySuccess
      · simp [hdial, hpacks]
      · rw [if_pos hdial, if_neg (by simp)]
        -- both codes of a failed dial leave the same state
        have hstate : ∀ dialed : GuardedDial,
            (if env.handleDialFail ≠ .telephonySuccess then (env.handleDialFail, dialed)
              else (env.dial, dialed)).2 = dialed := fun dialed => by split_ifs <;> rfl
        have hcode : ∀ dialed : GuardedDial,
            (if env.handleDialFail ≠ .telephonySuccess then (env.handleDialFail, dialed)
              else (env.dial, dialed)).1 ≠ .telephonySuccess := fun dialed => by
          split_ifs with hfail
          · exact hfail
          · exact hdial
        rw [hstate, free_iff, flagAndTask_others, flagAndTask_others, List.foldl_append]
        have hneed : (((g.sendDial (packCellularCallInfo env info).2).others
            overlap.dial).others overlap.dialFail).dial.needWaitHold = false := by
          rw [← Bool.not_eq_true, needWaitHold_others, needWaitHold_others]
          exact fun h => hwait h.1.1
        constructor
        · intro h
          exact ⟨fun hp => absurd hpacks hp, fun _ _ _ => (h (hcode _)).1⟩
        · intro h _
          exact ⟨h.2 hpacks hwait hdial, hneed⟩
  · rw [if_pos hpack]
    dsimp only
    rw [resetWaitHold_free_iff]
    have hpacks : ¬ Packs env info := fun h => hpack (packs_iff.mpr h)
    exact ⟨fun h => ⟨fun _ => h hpack, fun hp => absurd hp hpacks⟩, fun h _ => h.1 hpacks⟩

end GuardedDial

open GuardedDial

/-! ## A failed dial -/

section

variable {lock : ListMutex} {env : DialEnv} {overlap : DialOverlap} {info : DialParaInfo}
  {g : GuardedDial}

/-- A dial the checks refuse leaves nothing behind, and one that waits for itself does not fail. -/
theorem failsFree_of_not_passesChecks (h : ¬ PassesChecks lock env info) :
    FailsFree lock env overlap info g := by
  intro hflag ret
  unfold GuardedDial.carrierDialProcess
  dsimp only
  rw [if_neg (by simp [hflag])]
  cases hret : (handleDialingInfo lock env info (g.entered overlap).dial).1 with
  | none => simp
  | some code =>
    have hcode : code ≠ .telephonySuccess := by
      rintro rfl
      exact h (handleDialingInfo_code.mp hret)
    dsimp only
    rw [if_pos hcode]
    exact fun _ _ => resetWaitHold_free_iff.mpr idle_restored

/-- A dial that the checks let pass is decided behind them. -/
theorem failsFree_iff_dialChecked (hpass : PassesChecks lock env info)
    (hflag : g.dial.isDialingCallProcessing = false) :
    FailsFree lock env overlap info g ↔
      (((g.checked lock env overlap info).dialChecked env overlap info).1 ≠ .telephonySuccess →
        ((g.checked lock env overlap info).dialChecked env overlap info).2.Free) := by
  unfold FailsFree GuardedDial.carrierDialProcess
  dsimp only
  rw [if_neg (by simp [hflag]), handleDialingInfo_code.mpr hpass]
  dsimp only
  rw [if_neg (not_not.mpr rfl)]
  simp [hflag]

/-- What an MMI dial leaves behind. -/
theorem failsFree_mmi (hpass : PassesChecks lock env info) (hmmi : IsMmi env info)
    (hflag : g.dial.isDialingCallProcessing = false) :
    FailsFree lock env overlap info g ↔
      (Packs env info → env.dial ≠ .telephonySuccess →
        ¬ AwaitsHold lock env info g.dial.needWaitHold overlap.checks
          (overlap.held ++ overlap.report ++ overlap.dial)) := by
  rw [failsFree_iff_dialChecked hpass hflag]
  unfold GuardedDial.dialChecked
  dsimp only
  rw [isMMiCode_eq_true_iff.mpr hmmi, if_neg (by simp),
    handleStartDial_mmi (idle_others idle_restored _), needWaitHold_others, awaitsHold_append,
    awaitsHold_append]
  have hneed : (checked lock env overlap info g).dial.needWaitHold = true ↔
      AwaitsHold lock env info g.dial.needWaitHold overlap.checks overlap.held :=
    checked_needWaitHold
  simp only [← hneed]
  rfl

/-- What a normal dial leaves behind. -/
theorem failsFree_normal (hpass : PassesChecks lock env info) (hmmi : ¬ IsMmi env info)
    (hflag : g.dial.isDialingCallProcessing = false) :
    FailsFree lock env overlap info g ↔
      ((env.updateCallReportInfo ≠ .telephonySuccess ∨ ¬ Packs env info) →
        TakesFlagBack (g.handler.isSome && overlap.postTask)
          (overlap.checks ++ overlap.held ++ overlap.report)) ∧
      (env.updateCallReportInfo = .telephonySuccess → Packs env info →
        ¬ AwaitsHold lock env info g.dial.needWaitHold overlap.checks
          (overlap.held ++ overlap.report) →
        env.dial ≠ .telephonySuccess →
        TakesFlagBack (g.handler.isSome && overlap.postTask)
          (overlap.checks ++ overlap.held ++ overlap.report ++ overlap.dial ++
            overlap.dialFail)) := by
  have hcode : (if info.isEcc = true then false else env.isMmiCode) = false :=
    Bool.eq_false_iff.mpr fun h => hmmi (isMMiCode_eq_true_iff.mp h)
  rw [failsFree_iff_dialChecked hpass hflag]
  unfold GuardedDial.dialChecked
  dsimp only
  rw [hcode, if_pos rfl]
  by_cases hreport : env.updateCallReportInfo = .telephonySuccess
  · rw [if_neg (not_not.mpr hreport), handleStartDial_normal, flagAndTask_others,
      checked_flagAndTask, needWaitHold_others, checked_needWaitHold, ← awaitsHold_append,
      ← List.foldl_append, ← List.foldl_append, idle_set_iff, idle_set_iff]
    simp [hreport, List.append_assoc]
  · rw [if_pos hreport, resetWaitHold_free_iff, flagAndTask_others, checked_flagAndTask,
      ← List.foldl_append, idle_set_iff]
    simp [hreport]

end

/-- **A dial that fails leaves nothing behind iff its failure is made good**: a
    failure of the checks always is; a later failure of a normal dial is only if
    another thread has taken the flag and the task back by then; and the failure
    of an MMI dial is unless it still waits for a hold. -/
theorem failedDial_iff (lock : ListMutex) (env : DialEnv) (overlap : DialOverlap)
    (info : DialParaInfo) (g : GuardedDial) :
    FailsFree lock env overlap info g ↔
      (g.dial.isDialingCallProcessing = false → PassesChecks lock env info →
        MadeGood lock env overlap info g) := by
  by_cases hflag : g.dial.isDialingCallProcessing = false
  swap
  · exact ⟨fun _ h => absurd h hflag, fun _ h => absurd h hflag⟩
  by_cases hpass : PassesChecks lock env info
  swap
  · exact ⟨fun _ _ h => absurd h hpass, fun _ => failsFree_of_not_passesChecks hpass⟩
  by_cases hmmi : IsMmi env info
  · rw [failsFree_mmi hpass hmmi hflag]
    constructor
    · intro h _ _
      exact ⟨fun _ => h, fun hn => absurd hmmi hn, fun hn => absurd hmmi hn⟩
    · intro h
      exact (h hflag hpass).mmi hmmi
  · rw [failsFree_normal hpass hmmi hflag]
    constructor
    · rintro ⟨hunsent, hundialed⟩ _ _
      exact ⟨fun h => absurd h hmmi, fun _ => hunsent, fun _ => hundialed⟩
    · intro h
      exact ⟨(h hflag hpass).unsent hmmi, (h hflag hpass).undialed hmmi⟩

/-- No other thread takes a step while the dial runs. -/
def DialOverlap.none : DialOverlap where
  postTask := true
  checks := []
  held := []
  report := []
  dial := []
  dialFail := []

/-- A process that has not dialed. -/
def GuardedDial.init : GuardedDial where
  dial := DialState.init
  handler := some false

/-- What an emergency dial finds where no call is in its way and the modem fails every dial. -/
def failingEccEnv : DialEnv :=
  { holdingDialEnv false with
    isEccNumber := true
    activeCallSlot := none
    carrierCallNum := 0
    dial := .callErrDialFailed }

/-- A dial of the emergency number from slot 1. -/
def eccDial : DialParaInfo := { slotOneDial "112" with isEcc := true }

/-- An emergency dial that the modem fails, before its DIALING report is handled:
    its flag and its task stay, and the emergency dial that follows is refused. -/
theorem failed_ecc_dial_refuses_next :
    let failed := GuardedDial.init.carrierDialProcess .asWritten failingEccEnv .none eccDial
    ¬ FailsFree .asWritten failingEccEnv .none eccDial .init ∧
      failed.1 = some .callErrDialFailed ∧ failed.2.dial.isDialingCallProcessing = true ∧
      failed.2.handler = some true ∧
      (failed.2.carrierDialProcess .asWritten { failingEccEnv with dial := .telephonySuccess }
        .none eccDial).1 = some .callErrCallCountsExceedLimit := by
  refine ⟨fun h => ?_, by decide +kernel⟩
  exact absurd (h rfl .callErrDialFailed (by decide +kernel) (by decide)).flag (by decide +kernel)

/-! ## The next dial -/

/-- After a dial that left nothing behind, the next one is let in, and waits only
    if it puts a call on hold itself. -/
theorem next_dial_of_free {g : GuardedDial} (h : g.Free) (lock : ListMutex) (env : DialEnv)
    (info : DialParaInfo) :
    (carrierDialProcess lock env info g.dial).2.dials = g.dial.dials + 1 ∧
      ((carrierDialProcess lock env info g.dial).2.needWaitHold = true →
        PutsOnHold lock env info) := by
  have hawaits : WaitsAfter lock env info g.dial.needWaitHold → PutsOnHold lock env info := by
    rintro (hneed | hputs)
    · rw [h.hold] at hneed
      exact absurd hneed Bool.false_ne_true
    · exact hputs
  have houtcome : DialOutcome lock env info g.dial (carrierDialProcess lock env info g.dial).2 :=
    carrierDialProcess_cases
  generalize (carrierDialProcess lock env info g.dial).2 = s at houtcome
  cases houtcome with
  | refused hflag => exact absurd (h.flag.symm.trans hflag) Bool.false_ne_true
  | blocks => exact ⟨rfl, fun hneed => absurd (h.hold.symm.trans hneed) Bool.false_ne_true⟩
  | failed => exact ⟨rfl, fun hneed => nomatch hneed⟩
  | deferred _ _ _ _ hwaits => exact ⟨rfl, fun _ => hawaits hwaits⟩
  | dialed _ _ _ _ _ _ hneed => exact ⟨rfl, fun hn => hawaits (hneed.mp hn)⟩

section

variable {lock : ListMutex} {env : DialEnv} {overlap : DialOverlap} {info : DialParaInfo}
  {g : GuardedDial}

theorem handleStartDial_dial (hdial : overlap.dial = []) (hfail : overlap.dialFail = [])
    (isMMiCode : Bool) :
    (g.handleStartDial env overlap isMMiCode info).1 =
        (handleStartDial env isMMiCode info g.dial).1 ∧
      (g.handleStartDial env overlap isMMiCode info).2.dial =
        (handleStartDial env isMMiCode info g.dial).2 := by
  unfold GuardedDial.handleStartDial handleStartDial
  dsimp only
  rw [hdial, hfail]
  split_ifs <;> exact ⟨rfl, rfl⟩

theorem dialChecked_dial (hreport : overlap.report = []) (hdial : overlap.dial = [])
    (hfail : overlap.dialFail = []) :
    (g.dialChecked env overlap info).1 = (CallManager.dialChecked env info g.dial).1 ∧
      (g.dialChecked env overlap info).2.dial = (CallManager.dialChecked env info g.dial).2 := by
  unfold GuardedDial.dialChecked CallManager.dialChecked
  dsimp only
  rw [hreport]
  generalize (if info.isEcc = true then false else env.isMmiCode) = isMMiCode
  split_ifs
  · exact ⟨rfl, rfl⟩
  · exact handleStartDial_dial hdial hfail _
  · exact handleStartDial_dial hdial hfail _

/-- **Where no other thread comes in between, the dial is the one of the
    deferred dial's model.** -/
theorem carrierDialProcess_dial (hchecks : overlap.checks = []) (hheld : overlap.held = [])
    (hreport : overlap.report = []) (hdial : overlap.dial = []) (hfail : overlap.dialFail = []) :
    (g.carrierDialProcess lock env overlap info).1 =
        (carrierDialProcess lock env info g.dial).1 ∧
      (g.carrierDialProcess lock env overlap info).2.dial =
        (carrierDialProcess lock env info g.dial).2 := by
  have hentered : (g.entered overlap).dial =
      { g.dial with isDialingCallProcessing := true, dials := g.dial.dials + 1 } := by
    unfold entered setDialingCallProcessing restoreDialingFlag
    rw [hchecks]
    dsimp only [others, List.foldl_nil]
    split_ifs <;> rfl
  have hchecked : (g.checked lock env overlap info).dial = (handleDialingInfo lock env info
      { g.dial with isDialingCallProcessing := true, dials := g.dial.dials + 1 }).2 := by
    unfold checked
    dsimp only
    rw [hheld, hentered]
    rfl
  unfold GuardedDial.carrierDialProcess carrierDialProcess
  dsimp only
  rw [hentered]
  split_ifs with hflag
  · exact ⟨rfl, rfl⟩
  cases (handleDialingInfo lock env info
      { g.dial with isDialingCallProcessing := true, dials := g.dial.dials + 1 }).1 with
  | none => exact ⟨rfl, hchecked⟩
  | some ret =>
    dsimp only
    split_ifs
    · refine ⟨rfl, ?_⟩
      show DialState.resetWaitHold { (g.checked lock env overlap info).dial with
        isDialingCallProcessing := false } = _
      rw [hchecked]
    · rw [(dialChecked_dial hreport hdial hfail).1, (dialChecked_dial hreport hdial hfail).2,
        hchecked]
      exact ⟨rfl, rfl⟩

end

end CallManager
