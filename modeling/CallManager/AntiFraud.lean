import CallManager.CallKeys

/-!
# The anti-fraud detection

One call at a time is listened to for fraud. `CallStatusManager` keeps its slot
and its index in `antiFraudSlotId_` and `antiFraudIndex_`: `ActiveHandle` sets
them and submits a task that starts the detection; a HOLDING, DISCONNECTING or
DISCONNECTED report of the call, a result, a Celia call and the failure of the
task take them back.

Specification (`SlotKept`): the two are set together; when they are, they are
the slot and the index of exactly one stored call that has been ACTIVE and has
not been held, disconnected or judged since; at most one detection is
outstanding; and an outstanding detection has the slot, so that nothing but its
own end clears it.

All five places know a detection by its slot and its index. The modem uses an
index again, and a call that was held has the same ones when it is ACTIVE
again; the end of an old task is then taken for the end of the new detection.

Results:
* `handleCallReportInfo_refines`: but for the detection, the handlers are those
  of the status reports.
* `detection_slot_kept`: a run keeps the specification in which no end of one
  detection meets the slot and the index of another, and no action takes the
  call of the detection away or gives its slot and index to another one.
* `stale_failure_clears_slot`: the failure of the task of a call whose index is
  used again, or that is held and taken up again.
-/

namespace CallManager

/-! ## Model of the code -/

/-- `AntiFraudState` (call_manager_base.h:708-729). -/
inductive AntiFraudState
  | default | started | risk | notRiskOrStopped | holdingPause
  deriving DecidableEq, Repr

/-- Its number. -/
def AntiFraudState.toInt : AntiFraudState → ℤ
  | .default => 0
  | .started => 1
  | .risk => 2
  | .notRiskOrStopped => 3
  | .holdingPause => 4

/-- What `SetupAntiFraudService` asks for, beside what the handlers are told: the feature, the
    switches by video state, whether the main user is in front, the contacts, and whether the
    number is marked as fraud, yellow page or enterprise. -/
structure FraudEnv where
  status : StatusEnv
  isAntiFraudSupport : Bool
  isAntiFraudSwitchOn : VideoStateType → Bool
  isAntiFraudContactsEnabled : VideoStateType → Bool
  isMainUserSpace : Bool
  isContactPhoneNum : String → Bool
  isMarked : Bool

/-- A detection: what the task of `StartAntiFraudDetectTask` captures
    (call_status_manager.cpp:1145), with a number of its own and the id of the call. -/
structure Detection where
  number : ℕ
  callBaseWeakPtr : Ref
  callId : ℤ
  slotId : ℤ
  info : CallDetailInfo
  deriving DecidableEq, Repr

/-- How far a task has come: `StartAntiFraudService` has not been called, it has
    compared the slot and the index, or it has returned. -/
inductive TaskState
  | submitted | checked | returned (ret : ℤ)
  deriving DecidableEq, Repr

/-- A task that has not ended. -/
structure DetectTask where
  detection : Detection
  state : TaskState
  deriving DecidableEq, Repr

/-- The state of the service with the reports that `HandleCallsReportInfo` compares with
    (`callDetailsInfo_`), the anti-fraud state of each call object, the slot and the index of
    the detection, and the tasks. The last three fields are a record of what has happened: the
    detections so far, the ids of the stored calls that have been ACTIVE and not held,
    disconnected or judged since, and the detections that have not ended. -/
structure FraudWorld where
  status : StatusWorld
  callDetailsInfo : ℤ → List CallDetailInfo
  antiFraudState : Ref → AntiFraudState
  antiFraudSlotId : ℤ
  antiFraudIndex : ℤ
  tasks : List DetectTask
  detections : ℕ
  activeCalls : Finset ℤ
  outstanding : List Detection

namespace FraudWorld

/-- The state the process starts with. -/
def init : FraudWorld where
  status := StatusWorld.init
  callDetailsInfo _ := []
  antiFraudState _ := .default
  antiFraudSlotId := -1
  antiFraudIndex := -1
  tasks := []
  detections := 0
  activeCalls := ∅
  outstanding := []

/-- The calls of `SetAntiFraudSlotId(-1)` and `SetAntiFraudIndex(-1)` that end a detection. -/
def clearSlot (f : FraudWorld) : FraudWorld := { f with antiFraudSlotId := -1, antiFraudIndex := -1 }

/-- `UpdateAntiFraudState` (call_status_manager.cpp:1235-1260) without the parameters that are
    only shown. -/
def updateAntiFraudState (f : FraudWorld) (call : Ref) (antiFraudState : AntiFraudState) :
    FraudWorld :=
  { f with antiFraudState := Function.update f.antiFraudState call antiFraudState }

/-- `StartAntiFraudDetectTask` (call_status_manager.cpp:1130-1162). -/
def startAntiFraudDetectTask (f : FraudWorld) (call : Ref) (info : CallDetailInfo) : FraudWorld :=
  let slotId := (f.status.object call).slotId
  if slotId = -1 ∨ f.antiFraudSlotId ≠ -1 ∨ f.antiFraudIndex ≠ -1 then f
  else
    let detection : Detection :=
      { number := f.detections
        callBaseWeakPtr := call
        callId := (f.status.object call).callId
        slotId := slotId
        info := info }
    { f with
      antiFraudSlotId := slotId
      antiFraudIndex := info.index
      tasks := f.tasks ++ [⟨detection, .submitted⟩]
      detections := f.detections + 1
      outstanding := detection :: f.outstanding }

/-- The checks of `HandleAntiFraudState` and `SetupAntiFraudService`
    (call_status_manager.cpp:1068-1074, 1100-1126). -/
def isDetectionNeeded (env : FraudEnv) (f : FraudWorld) (call : Ref) (info : CallDetailInfo) :
    Bool :=
  let videoStateType := (f.status.object call).videoState
  if !env.isAntiFraudSupport then false
  else if !env.isAntiFraudSwitchOn videoStateType ∨
      !env.isAntiFraudContactsEnabled videoStateType then false
  else if !env.isMainUserSpace then false
  else if f.antiFraudState call = .risk ∨ f.antiFraudState call = .notRiskOrStopped ∨
      env.isContactPhoneNum info.phoneNum ∨ env.isMarked then false
  else true

/-- `HandleAntiFraudState` with `SetupAntiFraudService` (call_status_manager.cpp:1068-1074,
    1100-1128). -/
def handleAntiFraudState (env : FraudEnv) (f : FraudWorld) (call : Ref) (info : CallDetailInfo) :
    FraudWorld :=
  if isDetectionNeeded env f call info then f.startAntiFraudDetectTask call info else f

/-- The slot and the index in question are those of the detection (call_status_manager.cpp:1185,
    1199, 1216). -/
def HasSlot (f : FraudWorld) (slotId index : ℤ) : Prop :=
  f.antiFraudSlotId = slotId ∧ f.antiFraudIndex = index

instance (f : FraudWorld) (slotId index : ℤ) : Decidable (f.HasSlot slotId index) :=
  inferInstanceAs (Decidable (_ ∧ _))

/-- `StopAntiFraudDetect` (call_status_manager.cpp:1183-1195). -/
def stopAntiFraudDetect (f : FraudWorld) (call : Ref) (info : CallDetailInfo) : FraudWorld :=
  if f.HasSlot (f.status.object call).slotId info.index then
    f.clearSlot.updateAntiFraudState call .notRiskOrStopped
  else f

/-- `PauseAntiFraudDetect` (call_status_manager.cpp:1197-1209). It writes a parameter that is
    only shown, and the state of the call stays as it is. -/
def pauseAntiFraudDetect (f : FraudWorld) (call : Ref) (info : CallDetailInfo) : FraudWorld :=
  if f.HasSlot (f.status.object call).slotId info.index then f.clearSlot else f

/-- A further update of an ACTIVE call that tells the applications of its anti-fraud state
    (call_status_manager.cpp:1227-1232, 1309-1319). -/
def reportActive (f : FraudWorld) (call : Ref) : FraudWorld :=
  if (f.status.object call).callState = .active then
    { f with status := f.status.updateCallState call .active }
  else f

/-- `HandleCeliaCall` (call_status_manager.cpp:1211-1233). -/
def handleCeliaCall (f : FraudWorld) (call : Ref) : FraudWorld :=
  if f.HasSlot (f.status.object call).slotId (f.status.object call).index then
    (f.clearSlot.updateAntiFraudState call .notRiskOrStopped).reportActive call
  else f

/-- A result that ends the detection. -/
def isFinal (antiFraudState : AntiFraudState) : Bool :=
  antiFraudState = .risk ∨ antiFraudState = .notRiskOrStopped

/-- The call that `TriggerAntiFraud` finds: the report of the slot that has the index, and the
    call object for it (call_status_manager.cpp:1288-1294). -/
def triggeredCall (f : FraudWorld) : Option Ref :=
  ((f.callDetailsInfo f.antiFraudSlotId).find? fun it => it.index = f.antiFraudIndex).bind fun it =>
    f.status.getOneCallObjectByKey it.index it

/-- `TriggerAntiFraud` (call_status_manager.cpp:1279-1320). -/
def triggerAntiFraud (f : FraudWorld) (antiFraudState : AntiFraudState) : FraudWorld :=
  if StatusWorld.slotNum ≤ f.antiFraudSlotId ∨ f.antiFraudSlotId < 0 then f
  else
    let call := f.triggeredCall
    let callVec := (f.callDetailsInfo f.antiFraudSlotId).replaceF fun it =>
      if it.index = f.antiFraudIndex then some { it with antiFraudState := antiFraudState.toInt }
      else none
    let f := { f with callDetailsInfo := Function.update f.callDetailsInfo f.antiFraudSlotId callVec }
    let f := if isFinal antiFraudState then f.clearSlot else f
    match call with
    | none => f
    | some call =>
      let f := if antiFraudState ≠ .default then f.updateAntiFraudState call antiFraudState else f
      f.reportActive call

/-! ### The task of a detection -/

/-- The task with this number. -/
def task (f : FraudWorld) (number : ℕ) : Option DetectTask :=
  f.tasks.find? fun it => it.detection.number = number

/-- The task goes on to another state. -/
def setTask (f : FraudWorld) (number : ℕ) (state : TaskState) : FraudWorld :=
  { f with
    tasks := f.tasks.map fun it =>
      if it.detection.number = number then { it with state := state } else it }

/-- `StartAntiFraudService` up to its comparison with the slot and the index of
    `CallStatusManager`; `antiFraudErrCode` is the result of `CheckAntiFraudService`
    (antifraud_service.cpp:209-222). -/
def checkDetect (f : FraudWorld) (number : ℕ) (antiFraudErrCode : ℤ) : FraudWorld :=
  match f.task number with
  | some ⟨d, .submitted⟩ =>
    if antiFraudErrCode ≠ 0 then f.setTask number (.returned antiFraudErrCode)
    else if ¬ f.HasSlot d.slotId d.info.index then f.setTask number (.returned (-1))
    else f.setTask number .checked
  | _ => f

/-- The rest of `StartAntiFraudService`; `antiFraudErrCode` is the result of
    `AntiFraudStartDetect` (antifraud_service.cpp:223-244). -/
def startDetect (f : FraudWorld) (number : ℕ) (antiFraudErrCode : ℤ) : FraudWorld :=
  match f.task number with
  | some ⟨_, .checked⟩ =>
    if antiFraudErrCode ≠ 0 then f.setTask number (.returned antiFraudErrCode)
    else (f.triggerAntiFraud .started).setTask number (.returned 0)
  | _ => f

/-- What `promote` makes of the weak pointer of a detection: the object, if it
    is still there, stored or held by someone else. -/
def promote (f : FraudWorld) (d : Detection) (held : Bool) : Option Ref :=
  if (f.status.heap d.callBaseWeakPtr).isSome ∧
      (d.callBaseWeakPtr ∈ f.status.store.callObjectPtrList ∨ held = true) then
    some d.callBaseWeakPtr
  else none

/-- The end of the task, once `StartAntiFraudService` has returned `ret`
    (call_status_manager.cpp:1152-1160). -/
def completeDetect (f : FraudWorld) (d : Detection) (ret : ℤ) (held : Bool) : FraudWorld :=
  let f := { f with tasks := f.tasks.filter fun it => it.detection.number ≠ d.number }
  match f.promote d held with
  | none => f
  | some callBasePtr => if ret ≠ 0 then f.stopAntiFraudDetect callBasePtr d.info else f

/-! ### What has happened -/

/-- The detections of the call `callId` have ended. -/
def endCall (f : FraudWorld) (callId : ℤ) : FraudWorld :=
  { f with outstanding := f.outstanding.filter fun d => d.callId ≠ callId }

/-- The call `callId` has been held or disconnected. -/
def quitCall (f : FraudWorld) (callId : ℤ) : FraudWorld :=
  { f.endCall callId with activeCalls := f.activeCalls.erase callId }

/-- The key that the call `callId` has if the slot and the index are its. -/
def slotKey (f : FraudWorld) (callId : ℤ) : CallKey := ⟨callId, f.antiFraudSlotId, f.antiFraudIndex⟩

/-- A final result has come for the detection: its call has been judged. -/
def judge (f : FraudWorld) (antiFraudState : AntiFraudState) : FraudWorld :=
  if isFinal antiFraudState ∧ 0 ≤ f.antiFraudSlotId ∧ f.antiFraudSlotId < StatusWorld.slotNum then
    { f with
      activeCalls := f.activeCalls.filter fun callId => ¬ f.status.Lists (f.slotKey callId)
      outstanding := f.outstanding.filter fun d => ¬ f.HasSlot d.slotId d.info.index }
  else f

/-- The start of the detection `d` has failed. -/
def fail (f : FraudWorld) (d : Detection) (ret : ℤ) : FraudWorld :=
  if ret ≠ 0 then { f with outstanding := f.outstanding.filter fun e => e.number ≠ d.number }
  else f

/-- The calls that have been ACTIVE after `UpdateCallState`. -/
def reported (f : FraudWorld) (callId : ℤ) : TelCallState → Finset ℤ
  | .active => insert callId f.activeCalls
  | .holding | .disconnecting | .disconnected => f.activeCalls.erase callId
  | _ => f.activeCalls

/-- An action of the status reports. -/
def statusAction (ins : Insertion) (env : StatusEnv) (f : FraudWorld) (a : StatusAction) :
    FraudWorld :=
  let status := CallManager.statusAction ins env f.status a
  let activeCalls :=
    match a with
    | .updateCallState call nextState => f.reported (f.status.object call).callId nextState
    | _ => f.activeCalls
  { f with
    status := status
    activeCalls := activeCalls.filter fun callId =>
      CallObjectManager.Stored status.object status.store callId }

end FraudWorld

/-! ### The handlers -/

/-- The actions of the handlers, with those of the detection. -/
inductive FraudAction
  | status (a : StatusAction)
  | handleAntiFraudState (call : Ref) (info : CallDetailInfo)
  | pauseAntiFraudDetect (call : Ref) (info : CallDetailInfo)
  | stopAntiFraudDetect (call : Ref) (info : CallDetailInfo)

/-- What an action does to the state. -/
def fraudAction (ins : Insertion) (env : FraudEnv) (f : FraudWorld) : FraudAction → FraudWorld
  | .status a => f.statusAction ins env.status a
  | .handleAntiFraudState call info => f.handleAntiFraudState env call info
  | .pauseAntiFraudDetect call info =>
    (f.pauseAntiFraudDetect call info).quitCall (f.status.object call).callId
  | .stopAntiFraudDetect call info =>
    (f.stopAntiFraudDetect call info).quitCall (f.status.object call).callId

/-- A handler or a part of one. -/
abbrev FraudProgram := Program FraudWorld FraudAction

namespace AntiFraud

open Program

variable (ins : Insertion) (env : FraudEnv)

/-- A part of a handler without actions of the detection. -/
def plain {α : Type} (p : StatusProgram α) : FraudProgram α :=
  p.embed FraudWorld.status FraudAction.status

/-- `ActiveHandle` (call_status_manager.cpp:1020-1066). -/
def activeHandle (info : CallDetailInfo) : FraudProgram ErrorCode := do
  match ← plain (CallStatusManager.findOrCreate ins env.status info) with
  | none => return .telephonyErrLocalPtrNull
  | some call => do
    perform (.status (.clearPendingState call))
    let call ← plain (CallStatusManager.refreshCallIfNecessary ins env.status call info)
    let f ← get
    let slotId := (f.status.object call).slotId
    if info.mpty = 1 ∧ (f.status.getConferenceCallList slotId).length > 1 then
      perform (.status (.setConferenceCall slotId))
    else
      perform (.status (.exitConference call))
    let ret ← plain (CallStatusManager.updateCallState env.status call .active)
    if ret ≠ .telephonySuccess then return ret
    else do
      perform (.handleAntiFraudState call info)
      return ret

/-- `HoldingHandle` (call_status_manager.cpp:1359-1384). -/
def holdingHandle (info : CallDetailInfo) : FraudProgram ErrorCode := do
  let f ← get
  let call := f.status.getOneCallObjectByKey info.index info
  if call.isNone ∧ env.status.isDcCallConneceted = true then
    plain (CallStatusManager.createAndSaveNewCall ins env.status info)
  let f ← get
  match f.status.getOneCallObjectByKey info.index info with
  | none => return .telephonyErrLocalPtrNull
  | some call => do
    perform (.pauseAntiFraudDetect call info)
    let call ← plain (CallStatusManager.refreshCallIfNecessary ins env.status call info)
    if info.mpty = 1 then
      perform (.status (.holdConference call))
    plain (CallStatusManager.updateCallStateAndHandleDsdsMode env.status call)

/-- `DisconnectingHandle` (call_status_manager.cpp:1429-1449). -/
def disconnectingHandle (info : CallDetailInfo) : FraudProgram ErrorCode := do
  let f ← get
  match f.status.getOneCallObjectByKey info.index info with
  | none => return .telephonyErrLocalPtrNull
  | some call => do
    perform (.stopAntiFraudDetect call info)
    let call ← plain (CallStatusManager.refreshCallIfNecessary ins env.status call info)
    plain (CallStatusManager.updateCallState env.status call .disconnecting)

/-- `DisconnectedHandle` (call_status_manager.cpp:1475-1534). -/
def disconnectedHandle (info : CallDetailInfo) : FraudProgram ErrorCode := do
  let f ← get
  match f.status.getOneCallObjectByKey info.index info with
  | some call => do
    perform (.stopAntiFraudDetect call info)
    plain (CallStatusManager.disconnectCall ins env.status call info)
  | none => do
    match ← plain (CallStatusManager.refreshDialingStateByOtherState ins env.status info) with
    | some call => do
      perform (.stopAntiFraudDetect call info)
      plain (CallStatusManager.disconnectCall ins env.status call info)
    | none => return .telephonyErrLocalPtrNull

/-- `HandleCallReportInfo` (call_status_manager.cpp:137-187, 2605-2623). -/
def handleCallReportInfo (info : CallDetailInfo) : FraudProgram ErrorCode := do
  if info.callType = .voip then plain (CallStatusManager.handleVoipCallReportInfo env.status info)
  else do
    if info.callType = .bluetooth then
      plain (CallStatusManager.handleBluetoothCallReportInfo env.status info)
    match info.state with
    | .active => activeHandle ins env info
    | .holding => holdingHandle ins env info
    | .dialing => plain (CallStatusManager.dialingHandle ins env.status info)
    | .alerting => plain (CallStatusManager.alertHandle ins env.status info)
    | .incoming | .waiting => plain (CallStatusManager.incomingHandle ins env.status info)
    | .disconnected => disconnectedHandle ins env info
    | .disconnecting => disconnectingHandle ins env info
    | .unknown | .idle | .answered => return .telephonyErrFail

end AntiFraud

/-! ### Runs -/

/-- The operations of a run: a report of one call, the lists that `HandleCallsReportInfo` keeps
    before and after the reports, the deferred dial's flag, the hang-up of a pending call, a
    result, a Celia call (`dealCeliaCallEvent`, call_manager_service.cpp:1624-1633), and the
    steps of the task of a detection. -/
inductive FraudOp
  | report (env : FraudEnv) (info : CallDetailInfo)
  | callsReport (slotId : ℤ) (callVec : List CallDetailInfo)
  | updateCallDetailsInfo (slotId : ℤ) (callVec : List CallDetailInfo)
  | waitHold (needWaitHold : Bool)
  | hangUpPendingCall (callId : ℤ)
  | triggerAntiFraud (antiFraudState : AntiFraudState)
  | dealCeliaCallEvent (callId : ℤ)
  | checkDetect (number : ℕ) (antiFraudErrCode : ℤ)
  | startDetect (number : ℕ) (antiFraudErrCode : ℤ)
  | completeDetect (number : ℕ) (held : Bool)

/-- The state after one operation. -/
def fraudStep (ins : Insertion) (f : FraudWorld) : FraudOp → FraudWorld
  | .report env info =>
    ((AntiFraud.handleCallReportInfo ins env info).run (fraudAction ins env) f).2
  | .callsReport slotId callVec =>
    { f with status := statusStep ins f.status (.callsReport slotId callVec) }
  | .updateCallDetailsInfo slotId callVec =>
    { f with callDetailsInfo := Function.update f.callDetailsInfo slotId callVec }
  | .waitHold needWaitHold => { f with status := statusStep ins f.status (.waitHold needWaitHold) }
  | .hangUpPendingCall callId =>
    { f with status := statusStep ins f.status (.hangUpPendingCall callId) }
  | .triggerAntiFraud antiFraudState => (f.judge antiFraudState).triggerAntiFraud antiFraudState
  | .dealCeliaCallEvent callId =>
    match f.status.getOneCallObject callId with
    | none => f
    | some call =>
      if f.HasSlot (f.status.object call).slotId (f.status.object call).index then
        (f.handleCeliaCall call).endCall (f.status.object call).callId
      else f.handleCeliaCall call
  | .checkDetect number antiFraudErrCode => f.checkDetect number antiFraudErrCode
  | .startDetect number antiFraudErrCode => f.startDetect number antiFraudErrCode
  | .completeDetect number held =>
    match f.task number with
    | some ⟨d, .returned ret⟩ => (f.completeDetect d ret held).fail d ret
    | _ => f

/-! ## Specification -/

namespace FraudWorld

/-- The slot and the index are those of a stored call that has been ACTIVE and
    has not been held, disconnected or judged since. -/
def Designates (f : FraudWorld) (call : Ref) : Prop :=
  call ∈ f.status.store.callObjectPtrList ∧ (f.status.object call).slotId = f.antiFraudSlotId ∧
    (f.status.object call).index = f.antiFraudIndex ∧
    (f.status.object call).callId ∈ f.activeCalls

/-- The detection slot is as it should be. -/
structure SlotKept (f : FraudWorld) : Prop where
  unset : f.antiFraudSlotId = -1 ↔ f.antiFraudIndex = -1
  one_call : f.antiFraudSlotId ≠ -1 → ∃! call, f.Designates call
  one_detection : f.outstanding.length ≤ 1
  own : ∀ d ∈ f.outstanding, f.HasSlot d.slotId d.info.index

/-! ### The condition -/

/-- The call `callId` is the one of the slot and the index. -/
def Holds (f : FraudWorld) (callId : ℤ) : Prop :=
  callId ∈ f.activeCalls ∧ f.status.Lists (f.slotKey callId)

/-- `HandleAntiFraudState` starts a detection. -/
def Starts (env : FraudEnv) (f : FraudWorld) (call : Ref) (info : CallDetailInfo) : Prop :=
  isDetectionNeeded env f call info = true ∧ (f.status.object call).slotId ≠ -1 ∧
    f.HasSlot (-1) (-1)

/-- A detection starts with an index, for a stored call that has this index and
    its slot for itself. -/
def StartOk (f : FraudWorld) (call : Ref) (info : CallDetailInfo) : Prop :=
  let c := f.status.object call
  info.index ≠ -1 ∧ f.status.Lists ⟨c.callId, c.slotId, info.index⟩ ∧
    ∀ callId ∈ f.activeCalls, callId ≠ c.callId → ¬ f.status.Lists ⟨callId, c.slotId, info.index⟩

/-- Whatever ends with the slot and the index of the detection is its call. -/
def EndOk (f : FraudWorld) (slotId index callId : ℤ) : Prop :=
  f.HasSlot slotId index → ∀ d ∈ f.outstanding, d.callId = callId

/-- While a detection has the slot, the action neither takes its call from the
    list, nor from its slot and index, nor gives these to another ACTIVE call;
    and no update makes another call with them ACTIVE or ends its call. -/
def StatusActionOk (ins : Insertion) (env : StatusEnv) (f : FraudWorld) (a : StatusAction) : Prop :=
  f.antiFraudSlotId ≠ -1 →
    (∀ change ∈ f.status.rekeys ins env a, change.1 ∈ f.activeCalls →
      (change.2 = some (f.slotKey change.1) ↔ f.status.Lists (f.slotKey change.1))) ∧
    match a with
    | .updateCallState call nextState =>
      let callId := (f.status.object call).callId
      f.status.Lists (f.slotKey callId) →
        (callId ∈ f.reported callId nextState ↔ callId ∈ f.activeCalls)
    | _ => True

/-- The condition on an action. -/
def ActionOk (ins : Insertion) (env : FraudEnv) (f : FraudWorld) : FraudAction → Prop
  | .status a => f.StatusActionOk ins env.status a
  | .handleAntiFraudState call info => Starts env f call info → f.StartOk call info
  | .pauseAntiFraudDetect call info | .stopAntiFraudDetect call info =>
    f.EndOk (f.status.object call).slotId info.index (f.status.object call).callId

/-- The condition on an operation. -/
def StepOk (ins : Insertion) (f : FraudWorld) : FraudOp → Prop
  | .report env info =>
    (AntiFraud.handleCallReportInfo ins env info).Meets (fraudAction ins env) (ActionOk ins env) f
  | .dealCeliaCallEvent callId =>
    ∀ call ∈ f.status.getOneCallObject callId,
      f.EndOk (f.status.object call).slotId (f.status.object call).index
        (f.status.object call).callId
  | .completeDetect number held =>
    match f.task number with
    | some ⟨d, .returned ret⟩ =>
      ret ≠ 0 → ∀ callBasePtr ∈ f.promote d held,
        f.HasSlot (f.status.object callBasePtr).slotId d.info.index →
          ∀ e ∈ f.outstanding, e.number = d.number
    | _ => True
  | _ => True

instance (f : FraudWorld) (call : Ref) : Decidable (f.Designates call) :=
  inferInstanceAs (Decidable (_ ∧ _ ∧ _ ∧ _))

instance (env : FraudEnv) (f : FraudWorld) (call : Ref) (info : CallDetailInfo) :
    Decidable (Starts env f call info) :=
  inferInstanceAs (Decidable (_ ∧ _ ∧ _))

instance (f : FraudWorld) (call : Ref) (info : CallDetailInfo) : Decidable (f.StartOk call info) :=
  inferInstanceAs (Decidable (_ ∧ _ ∧ ∀ callId ∈ f.activeCalls, _))

instance (f : FraudWorld) (slotId index callId : ℤ) : Decidable (f.EndOk slotId index callId) :=
  inferInstanceAs (Decidable (_ → ∀ d ∈ f.outstanding, _))

instance (ins : Insertion) (env : StatusEnv) (f : FraudWorld) (a : StatusAction) :
    Decidable (f.StatusActionOk ins env a) := by
  unfold StatusActionOk
  cases a <;> infer_instance

instance (ins : Insertion) (env : FraudEnv) (f : FraudWorld) :
    (a : FraudAction) → Decidable (f.ActionOk ins env a)
  | .status a => inferInstanceAs (Decidable (f.StatusActionOk ins env.status a))
  | .handleAntiFraudState call info =>
    inferInstanceAs (Decidable (Starts env f call info → f.StartOk call info))
  | .pauseAntiFraudDetect _ _ | .stopAntiFraudDetect _ _ =>
    inferInstanceAs (Decidable (f.EndOk _ _ _))

instance (ins : Insertion) (f : FraudWorld) : (op : FraudOp) → Decidable (f.StepOk ins op)
  | .report env info =>
    inferInstanceAs (Decidable ((AntiFraud.handleCallReportInfo ins env info).Meets
      (fraudAction ins env) (ActionOk ins env) f))
  | .dealCeliaCallEvent callId =>
    inferInstanceAs (Decidable (∀ call ∈ f.status.getOneCallObject callId, f.EndOk _ _ _))
  | .completeDetect number held => by
    unfold StepOk
    dsimp only
    split <;> infer_instance
  | .callsReport _ _ | .updateCallDetailsInfo _ _ | .waitHold _ | .hangUpPendingCall _
  | .triggerAntiFraud _ | .checkDetect _ _ | .startDetect _ _ => .isTrue trivial

end FraudWorld

/-! ## The handlers are those of the status reports -/

namespace FraudWorld

theorem handleAntiFraudState_status (env : FraudEnv) (f : FraudWorld) (call : Ref)
    (info : CallDetailInfo) : (f.handleAntiFraudState env call info).status = f.status := by
  unfold handleAntiFraudState startAntiFraudDetectTask
  dsimp only
  split_ifs <;> rfl

theorem pauseAntiFraudDetect_status (f : FraudWorld) (call : Ref) (info : CallDetailInfo) :
    (f.pauseAntiFraudDetect call info).status = f.status := by
  unfold pauseAntiFraudDetect
  split_ifs <;> rfl

theorem stopAntiFraudDetect_status (f : FraudWorld) (call : Ref) (info : CallDetailInfo) :
    (f.stopAntiFraudDetect call info).status = f.status := by
  unfold stopAntiFraudDetect
  split_ifs <;> rfl

end FraudWorld

namespace AntiFraud

open Program

variable (ins : Insertion) (env : FraudEnv) (info : CallDetailInfo)

/-- A program refines one of the status reports. -/
abbrev RefinesStatus {α : Type} (p : FraudProgram α) (q : StatusProgram α) : Prop :=
  Refines (CallManager.statusAction ins env.status) (fraudAction ins env) FraudWorld.status p q

variable {ins env}

theorem plain_refines {α : Type} (p : StatusProgram α) : RefinesStatus ins env (plain p) p :=
  Refines.embed (fun _ _ => rfl) p

theorem perform_refines (a : StatusAction) :
    RefinesStatus ins env (perform (.status a)) (perform a) :=
  Refines.act (fun _ => rfl) (Refines.ret PUnit.unit)

theorem silent_refines {α : Type} (a : FraudAction)
    (ha : ∀ f, (fraudAction ins env f a).status = f.status) {p : FraudProgram α}
    {q : StatusProgram α} (h : RefinesStatus ins env p q) :
    RefinesStatus ins env (do perform a; p) q :=
  Refines.silent ha h

theorem stop_refines {α : Type} (call : Ref) {p : FraudProgram α} {q : StatusProgram α}
    (h : RefinesStatus ins env p q) :
    RefinesStatus ins env (do perform (.stopAntiFraudDetect call info); p) q :=
  silent_refines (.stopAntiFraudDetect call info)
    (fun f => FraudWorld.stopAntiFraudDetect_status f call info) h

theorem pause_refines {α : Type} (call : Ref) {p : FraudProgram α} {q : StatusProgram α}
    (h : RefinesStatus ins env p q) :
    RefinesStatus ins env (do perform (.pauseAntiFraudDetect call info); p) q :=
  silent_refines (.pauseAntiFraudDetect call info)
    (fun f => FraudWorld.pauseAntiFraudDetect_status f call info) h

theorem get_refines {α : Type} {k : FraudWorld → FraudProgram α} {k' : StatusWorld → StatusProgram α}
    (h : ∀ f, RefinesStatus ins env (k f) (k' f.status)) :
    RefinesStatus ins env (get >>= k) (get >>= k') :=
  Refines.read h

theorem disconnectingHandle_refines :
    RefinesStatus ins env (disconnectingHandle ins env info)
      (CallStatusManager.disconnectingHandle ins env.status info) := by
  refine get_refines fun f => ?_
  cases f.status.getOneCallObjectByKey info.index info with
  | none => exact Refines.ret _
  | some call =>
    refine stop_refines info call (Refines.bind (plain_refines _) fun call => ?_)
    exact plain_refines _

theorem disconnectedHandle_refines :
    RefinesStatus ins env (disconnectedHandle ins env info)
      (CallStatusManager.disconnectedHandle ins env.status info) := by
  refine get_refines fun f => ?_
  cases f.status.getOneCallObjectByKey info.index info with
  | some call => exact stop_refines info call (plain_refines _)
  | none =>
    refine Refines.bind (plain_refines _) fun call => ?_
    cases call with
    | some call => exact stop_refines info call (plain_refines _)
    | none => exact Refines.ret _

theorem holdingHandle_refines :
    RefinesStatus ins env (holdingHandle ins env info)
      (CallStatusManager.holdingHandle ins env.status info) := by
  have hrest : RefinesStatus ins env
      (do
        let f ← get
        match f.status.getOneCallObjectByKey info.index info with
        | none => return .telephonyErrLocalPtrNull
        | some call => do
          perform (.pauseAntiFraudDetect call info)
          let call ← plain (CallStatusManager.refreshCallIfNecessary ins env.status call info)
          if info.mpty = 1 then
            perform (.status (.holdConference call))
          plain (CallStatusManager.updateCallStateAndHandleDsdsMode env.status call))
      (do
        let w ← get
        match w.getOneCallObjectByKey info.index info with
        | none => return .telephonyErrLocalPtrNull
        | some call => do
          let call ← CallStatusManager.refreshCallIfNecessary ins env.status call info
          if info.mpty = 1 then
            perform (.holdConference call)
          CallStatusManager.updateCallStateAndHandleDsdsMode env.status call) := by
    refine get_refines fun f => ?_
    cases f.status.getOneCallObjectByKey info.index info with
    | none => exact Refines.ret _
    | some call =>
      refine pause_refines info call (Refines.bind (plain_refines _) fun call => ?_)
      split_ifs
      · exact Refines.bind (perform_refines _) fun _ => plain_refines _
      · exact plain_refines _
  refine get_refines fun f => ?_
  dsimp only
  by_cases hnew : (f.status.getOneCallObjectByKey info.index info).isNone = true ∧
      env.status.isDcCallConneceted = true
  · rw [if_pos hnew, if_pos hnew]
    exact Refines.bind (plain_refines _) fun _ => hrest
  · rw [if_neg hnew, if_neg hnew]
    exact hrest

theorem activeHandle_refines :
    RefinesStatus ins env (activeHandle ins env info)
      (CallStatusManager.activeHandle ins env.status info) := by
  refine Refines.bind (plain_refines _) fun call => ?_
  cases call with
  | none => exact Refines.ret _
  | some call =>
    refine Refines.bind (perform_refines _) fun _ => Refines.bind (plain_refines _) fun call => ?_
    have hend : RefinesStatus ins env
        (do
          let ret ← plain (CallStatusManager.updateCallState env.status call .active)
          if ret ≠ .telephonySuccess then return ret
          else do
            perform (.handleAntiFraudState call info)
            return ret)
        (CallStatusManager.updateCallState env.status call .active) := by
      refine Refines.bind_ret (plain_refines _) fun ret => ?_
      by_cases hret : ret ≠ .telephonySuccess
      · rw [if_pos hret]
        exact Refines.ret _
      · rw [if_neg hret]
        exact silent_refines (.handleAntiFraudState call info)
          (fun f => FraudWorld.handleAntiFraudState_status env f call info) (Refines.ret _)
    refine get_refines fun f => ?_
    dsimp only
    split_ifs
    · exact Refines.bind (perform_refines _) fun _ => hend
    · exact Refines.bind (perform_refines _) fun _ => hend

/-- But for the detection, a report does what it does in the status reports. -/
theorem handleCallReportInfo_refines :
    RefinesStatus ins env (handleCallReportInfo ins env info)
      (CallStatusManager.handleCallReportInfo ins env.status info) := by
  have hstate : RefinesStatus ins env
      (match info.state with
        | .active => activeHandle ins env info
        | .holding => holdingHandle ins env info
        | .dialing => plain (CallStatusManager.dialingHandle ins env.status info)
        | .alerting => plain (CallStatusManager.alertHandle ins env.status info)
        | .incoming | .waiting => plain (CallStatusManager.incomingHandle ins env.status info)
        | .disconnected => disconnectedHandle ins env info
        | .disconnecting => disconnectingHandle ins env info
        | .unknown | .idle | .answered => pure .telephonyErrFail)
      (match info.state with
        | .active => CallStatusManager.activeHandle ins env.status info
        | .holding => CallStatusManager.holdingHandle ins env.status info
        | .dialing => CallStatusManager.dialingHandle ins env.status info
        | .alerting => CallStatusManager.alertHandle ins env.status info
        | .incoming | .waiting => CallStatusManager.incomingHandle ins env.status info
        | .disconnected => CallStatusManager.disconnectedHandle ins env.status info
        | .disconnecting => CallStatusManager.disconnectingHandle ins env.status info
        | .unknown | .idle | .answered => pure .telephonyErrFail) := by
    cases info.state with
    | active => exact activeHandle_refines info
    | holding => exact holdingHandle_refines info
    | disconnected => exact disconnectedHandle_refines info
    | disconnecting => exact disconnectingHandle_refines info
    | dialing | alerting | incoming | waiting => exact plain_refines _
    | unknown | idle | answered => exact Refines.ret _
  unfold handleCallReportInfo CallStatusManager.handleCallReportInfo
  by_cases hvoip : info.callType = .voip
  · rw [if_pos hvoip, if_pos hvoip]
    exact plain_refines _
  · rw [if_neg hvoip, if_neg hvoip]
    dsimp only
    by_cases hbluetooth : info.callType = .bluetooth
    · rw [if_pos hbluetooth, if_pos hbluetooth]
      exact Refines.bind (plain_refines _) fun _ => hstate
    · rw [if_neg hbluetooth, if_neg hbluetooth]
      exact hstate

end AntiFraud

/-! ## The calls that the handlers pass on -/

/-- A call that is held or disconnected is the stored one that has the index of
    the report; one that gets a detection has been ACTIVE, if it is stored. -/
def FraudAction.Fits (f : FraudWorld) : FraudAction → Prop
  | .status _ => True
  | .handleAntiFraudState call _ =>
    CallObjectManager.Stored f.status.object f.status.store (f.status.object call).callId →
      (f.status.object call).callId ∈ f.activeCalls
  | .pauseAntiFraudDetect call info | .stopAntiFraudDetect call info =>
    call ∈ f.status.store.callObjectPtrList ∧ (f.status.object call).index = info.index

namespace AntiFraud

open Program

variable (ins : Insertion) (env : FraudEnv) (info : CallDetailInfo)

/-- Every action of the program is about a call that fits it. -/
abbrev AllFit {α : Type} (p : FraudProgram α) (f : FraudWorld) : Prop :=
  p.Meets (fraudAction ins env) FraudAction.Fits f

variable {ins env info}

theorem plain_fits {α : Type} (p : StatusProgram α) (f : FraudWorld) :
    AllFit ins env (plain p) f :=
  meets_embed (fun _ _ => trivial) p f

theorem bind_fits {α β : Type} {p : FraudProgram α} {k : α → FraudProgram β} {f : FraudWorld}
    (h : AllFit ins env p f) (hk : ∀ a f, AllFit ins env (k a) f) : AllFit ins env (p >>= k) f :=
  (meets_bind p k f).mpr ⟨h, hk _ _⟩

theorem get_fits {α : Type} {k : FraudWorld → FraudProgram α} {f : FraudWorld}
    (h : AllFit ins env (k f) f) : AllFit ins env (get >>= k) f :=
  h

theorem perform_fits {α : Type} {a : FraudAction} {k : PUnit → FraudProgram α} {f : FraudWorld}
    (ha : a.Fits f) (hk : AllFit ins env (k ⟨⟩) (fraudAction ins env f a)) :
    AllFit ins env (perform a >>= k) f :=
  ⟨ha, hk⟩

/-- The call that a lookup by the index of the report finds. -/
theorem found_fits {call : Ref} {f : FraudWorld}
    (h : f.status.getOneCallObjectByKey info.index info = some call) :
    call ∈ f.status.store.callObjectPtrList ∧ (f.status.object call).index = info.index :=
  ⟨StatusWorld.getOneCallObjectByKey_mem h, StatusWorld.getOneCallObjectByKey_index h⟩

theorem disconnectingHandle_fits (f : FraudWorld) :
    AllFit ins env (disconnectingHandle ins env info) f := by
  refine get_fits ?_
  cases hcall : f.status.getOneCallObjectByKey info.index info with
  | none => exact trivial
  | some call =>
    refine perform_fits (found_fits hcall) (bind_fits (plain_fits _ _) fun call f => ?_)
    exact plain_fits _ f

theorem disconnectedHandle_fits (f : FraudWorld) :
    AllFit ins env (disconnectedHandle ins env info) f := by
  refine get_fits ?_
  cases hcall : f.status.getOneCallObjectByKey info.index info with
  | some call => exact ⟨found_fits hcall, plain_fits _ _⟩
  | none =>
    refine (meets_bind _ _ f).mpr ⟨plain_fits _ f, ?_⟩
    have hrefines : RefinesStatus ins env (plain _) _ :=
      plain_refines (CallStatusManager.refreshDialingStateByOtherState ins env.status info)
    obtain ⟨hresult, hstatus⟩ := hrefines f
    rw [hresult]
    cases hfound : ((CallStatusManager.refreshDialingStateByOtherState ins env.status info).run
        (statusAction ins env.status) f.status).1 with
    | none => exact trivial
    | some call =>
      refine ⟨found_fits ?_, plain_fits _ _⟩
      rw [hstatus]
      exact CallStatusManager.refreshDialingStateByOtherState_found hfound

theorem holdingHandle_fits (f : FraudWorld) : AllFit ins env (holdingHandle ins env info) f := by
  have hrest : ∀ f, AllFit ins env
      (do
        let f ← get
        match f.status.getOneCallObjectByKey info.index info with
        | none => return .telephonyErrLocalPtrNull
        | some call => do
          perform (.pauseAntiFraudDetect call info)
          let call ← plain (CallStatusManager.refreshCallIfNecessary ins env.status call info)
          if info.mpty = 1 then
            perform (.status (.holdConference call))
          plain (CallStatusManager.updateCallStateAndHandleDsdsMode env.status call)) f := by
    intro f
    refine get_fits ?_
    cases hcall : f.status.getOneCallObjectByKey info.index info with
    | none => exact trivial
    | some call =>
      refine perform_fits (found_fits hcall) (bind_fits (plain_fits _ _) fun call f => ?_)
      dsimp only
      split_ifs
      · exact ⟨trivial, plain_fits _ _⟩
      · exact plain_fits _ f
  refine get_fits ?_
  by_cases hnew : (f.status.getOneCallObjectByKey info.index info).isNone = true ∧
      env.status.isDcCallConneceted = true
  · dsimp only
    rw [if_pos hnew]
    exact bind_fits (plain_fits _ f) fun _ f => hrest f
  · dsimp only
    rw [if_neg hnew]
    exact hrest f

/-- A call that `UpdateCallState` has made ACTIVE has been ACTIVE. -/
theorem updateCallState_active (f : FraudWorld) (call : Ref) :
    FraudAction.Fits
      ((plain (CallStatusManager.updateCallState env.status call .active)).run
        (fraudAction ins env) f).2 (.handleAntiFraudState call info) := by
  have hstate : ((plain (CallStatusManager.updateCallState env.status call .active)).run
      (fraudAction ins env) f).2 =
        f.statusAction ins env.status (.updateCallState call .active) := by
    unfold CallStatusManager.updateCallState
    show ((plain (if _ then _ else _)).run (fraudAction ins env) _).2 = _
    split_ifs <;> rfl
  have hkey := (StatusWorld.SameKeys.updateCallState f.status call .active).object_key call
  rw [hstate]
  intro hstored
  refine Finset.mem_filter.mpr ⟨?_, hstored⟩
  show (((f.status.updateCallState call .active).object call).callId) ∈ _
  rw [show ((f.status.updateCallState call .active).object call).callId =
    (f.status.object call).callId from congrArg CallKey.callId hkey]
  exact Finset.mem_insert_self _ _

theorem activeHandle_fits (f : FraudWorld) : AllFit ins env (activeHandle ins env info) f := by
  refine bind_fits (plain_fits _ f) fun call f => ?_
  cases call with
  | none => exact trivial
  | some call =>
    refine perform_fits trivial (bind_fits (plain_fits _ _) fun call f => ?_)
    have hend : ∀ f, AllFit ins env
        (do
          let ret ← plain (CallStatusManager.updateCallState env.status call .active)
          if ret ≠ .telephonySuccess then return ret
          else do
            perform (.handleAntiFraudState call info)
            return ret) f := by
      intro f
      refine (meets_bind _ _ f).mpr ⟨plain_fits _ f, ?_⟩
      split_ifs
      · exact trivial
      · exact ⟨updateCallState_active f call, trivial⟩
    refine get_fits ?_
    dsimp only
    split_ifs
    · exact perform_fits trivial (hend _)
    · exact perform_fits trivial (hend _)

/-- Every action of a report is about a call that fits it. -/
theorem handleCallReportInfo_fits (f : FraudWorld) :
    AllFit ins env (handleCallReportInfo ins env info) f := by
  have hstate : ∀ f, AllFit ins env
      (match info.state with
        | .active => activeHandle ins env info
        | .holding => holdingHandle ins env info
        | .dialing => plain (CallStatusManager.dialingHandle ins env.status info)
        | .alerting => plain (CallStatusManager.alertHandle ins env.status info)
        | .incoming | .waiting => plain (CallStatusManager.incomingHandle ins env.status info)
        | .disconnected => disconnectedHandle ins env info
        | .disconnecting => disconnectingHandle ins env info
        | .unknown | .idle | .answered => pure .telephonyErrFail) f := by
    intro f
    cases info.state with
    | active => exact activeHandle_fits f
    | holding => exact holdingHandle_fits f
    | disconnected => exact disconnectedHandle_fits f
    | disconnecting => exact disconnectingHandle_fits f
    | dialing | alerting | incoming | waiting => exact plain_fits _ f
    | unknown | idle | answered => exact trivial
  unfold handleCallReportInfo
  by_cases hvoip : info.callType = .voip
  · rw [if_pos hvoip]
    exact plain_fits _ f
  · rw [if_neg hvoip]
    dsimp only
    split_ifs
    · exact bind_fits (plain_fits _ f) fun _ f => hstate f
    · exact hstate f

end AntiFraud

/-! ## The invariant -/

namespace FraudWorld

variable {f f' : FraudWorld} {ins : Insertion} {env : FraudEnv} {call : Ref} {info : CallDetailInfo}

/-- What holds in every state of a run: the specification, by ids, over a sound
    state of the service. -/
structure Tracked (f : FraudWorld) : Prop where
  sound : f.status.Sound
  stored : ∀ callId ∈ f.activeCalls, ∃ k, f.status.Lists k ∧ k.callId = callId
  unset : f.antiFraudSlotId = -1 ↔ f.antiFraudIndex = -1
  holder : f.antiFraudSlotId ≠ -1 → ∃! callId, f.Holds callId
  one_detection : f.outstanding.length ≤ 1
  own : ∀ d ∈ f.outstanding, f.HasSlot d.slotId d.info.index
  placed : ∀ d ∈ f.outstanding, d.slotId ≠ -1

theorem Tracked.init : Tracked FraudWorld.init where
  sound := StatusWorld.Sound.init
  stored _ h := nomatch h
  unset := Iff.rfl
  holder h := absurd rfl h
  one_detection := Nat.zero_le 1
  own _ h := nomatch h
  placed _ h := nomatch h

/-- The call of the slot is designated, and the only one. -/
theorem Tracked.slotKept (h : Tracked f) : f.SlotKept where
  unset := h.unset
  one_detection := h.one_detection
  own := h.own
  one_call hslot := by
    have hlists : ∀ r ∈ f.status.store.callObjectPtrList, f.status.Lists (f.status.object r).key := by
      intro r hr
      obtain ⟨k, hk⟩ := Option.isSome_iff_exists.mp (h.sound.listed r hr)
      obtain ⟨c, hc, -⟩ := StatusWorld.keys_eq_some.mp hk
      rw [StatusWorld.object_eq hc]
      exact ⟨r, hr, StatusWorld.keys_of_heap hc⟩
    obtain ⟨callId, ⟨hactive, r, hr, hk⟩, honly⟩ := h.holder hslot
    obtain ⟨c, hc, hkey⟩ := StatusWorld.keys_eq_some.mp hk
    have hobject := StatusWorld.object_eq hc
    refine ⟨r, ⟨hr, ?_, ?_, ?_⟩, fun r' hr' => ?_⟩
    · rw [hobject]
      exact congrArg CallKey.slotId hkey
    · rw [hobject]
      exact congrArg CallKey.index hkey
    · have hid : c.callId = callId := congrArg CallKey.callId hkey
      rw [hobject, hid]
      exact hactive
    · obtain ⟨hmem, hslotId, hindex, hactive'⟩ := hr'
      have hkey' : (f.status.object r').key = f.slotKey (f.status.object r').callId := by
        rw [CallBase.key, hslotId, hindex, slotKey]
      have hlists' := hlists r' hmem
      rw [hkey'] at hlists'
      have hid := honly _ ⟨hactive', hlists'⟩
      obtain ⟨k', hk'⟩ := Option.isSome_iff_exists.mp (h.sound.listed r' hmem)
      obtain ⟨c', hc', rfl⟩ := StatusWorld.keys_eq_some.mp hk'
      refine h.sound.keys_inj hk' hk ?_
      rw [StatusWorld.object_eq hc'] at hid
      exact hid

/-- Without a slot nothing is outstanding. -/
theorem Tracked.outstanding_nil (h : Tracked f) (hslot : f.antiFraudSlotId = -1) :
    f.outstanding = [] := by
  refine List.eq_nil_iff_forall_not_mem.mpr fun d hd => ?_
  exact h.placed d hd ((h.own d hd).1.symm.trans hslot)

/-- The slot and the call that it stands for stay the same. -/
theorem Tracked.of_holds (h : Tracked f) (hsame : StatusWorld.SameKeys f.status f'.status)
    (hnumbered : f'.status.Numbered) (hslot : f'.antiFraudSlotId = f.antiFraudSlotId)
    (hindex : f'.antiFraudIndex = f.antiFraudIndex) (hactive : f'.activeCalls ⊆ f.activeCalls)
    (hholds : ∀ callId, f'.Holds callId ↔ f.Holds callId)
    (hout : f'.outstanding.Sublist f.outstanding) : Tracked f' where
  sound := hsame.sound h.sound hnumbered
  stored callId hid := by
    obtain ⟨k, hk, hkid⟩ := h.stored callId (hactive hid)
    exact ⟨k, (hsame.lists k).mpr hk, hkid⟩
  unset := by
    rw [hslot, hindex]
    exact h.unset
  holder hset := by
    obtain ⟨callId, hid, honly⟩ := h.holder (hslot ▸ hset)
    exact ⟨callId, (hholds callId).mpr hid,
      fun other hother => honly other ((hholds other).mp hother)⟩
  one_detection := hout.length_le.trans h.one_detection
  own d hd := by
    rw [HasSlot, hslot, hindex]
    exact h.own d (hout.subset hd)
  placed d hd := h.placed d (hout.subset hd)

/-- The state of the service changes, but neither a key nor the detection. -/
theorem Tracked.of_same (h : Tracked f) (hsame : StatusWorld.SameKeys f.status f'.status)
    (hnumbered : f'.status.Numbered) (hslot : f'.antiFraudSlotId = f.antiFraudSlotId)
    (hindex : f'.antiFraudIndex = f.antiFraudIndex) (hactive : f'.activeCalls = f.activeCalls)
    (hout : f'.outstanding.Sublist f.outstanding) : Tracked f' := by
  refine h.of_holds hsame hnumbered hslot hindex (hactive ▸ Finset.Subset.refl _) ?_ hout
  intro callId
  rw [Holds, hactive, hsame.lists, slotKey, hslot, hindex]
  exact Iff.rfl

/-- The slot is cleared, and nothing is left outstanding. -/
theorem Tracked.of_cleared (h : Tracked f) (hsame : StatusWorld.SameKeys f.status f'.status)
    (hnumbered : f'.status.Numbered) (hslot : f'.antiFraudSlotId = -1)
    (hindex : f'.antiFraudIndex = -1) (hactive : f'.activeCalls ⊆ f.activeCalls)
    (hout : f'.outstanding = []) : Tracked f' where
  sound := hsame.sound h.sound hnumbered
  stored callId hid := by
    obtain ⟨k, hk, hkid⟩ := h.stored callId (hactive hid)
    exact ⟨k, (hsame.lists k).mpr hk, hkid⟩
  unset := ⟨fun _ => hindex, fun _ => hslot⟩
  holder hset := absurd hslot hset
  one_detection := by
    rw [hout]
    exact Nat.zero_le 1
  own d hd := by
    rw [hout] at hd
    cases hd
  placed d hd := by
    rw [hout] at hd
    cases hd

/-- A filter that keeps nothing. -/
theorem filter_eq_nil_of {p : Detection → Bool} (hout : ∀ d ∈ f.outstanding, p d = false) :
    f.outstanding.filter p = [] :=
  List.filter_eq_nil_iff.mpr fun d hd => by
    rw [hout d hd]
    decide

/-! ### Starting and ending a detection -/

theorem Tracked.handleAntiFraudState (h : Tracked f)
    (hfits : FraudAction.Fits f (.handleAntiFraudState call info))
    (hok : f.ActionOk ins env (.handleAntiFraudState call info)) :
    Tracked (f.handleAntiFraudState env call info) := by
  unfold FraudWorld.handleAntiFraudState
  split_ifs with hneeded
  swap
  · exact h
  unfold startAntiFraudDetectTask
  dsimp only
  split_ifs with hbusy
  · exact h
  rw [not_or, not_or, not_not, not_not] at hbusy
  obtain ⟨hslotId, hfree⟩ := hbusy
  obtain ⟨hindex, hlisted, hothers⟩ := hok ⟨hneeded, hslotId, hfree⟩
  have hnil := h.outstanding_nil hfree.1
  have hactive := hfits ((h.sound.stored_iff _).mpr ⟨_, hlisted, rfl⟩)
  exact
    { sound := h.sound
      stored := h.stored
      unset := ⟨fun heq => absurd heq hslotId, fun heq => absurd heq hindex⟩
      holder := fun _ => by
        refine ⟨(f.status.object call).callId, ⟨hactive, hlisted⟩, fun other hother => ?_⟩
        by_contra hne
        exact hothers other hother.1 hne hother.2
      one_detection := by
        rw [hnil]
        exact Nat.le_refl 1
      own := fun d hd => by
        rw [hnil] at hd
        rw [List.mem_singleton.mp hd]
        exact ⟨rfl, rfl⟩
      placed := fun d hd => by
        rw [hnil] at hd
        rw [List.mem_singleton.mp hd]
        exact hslotId }

/-- A call that is held or disconnected loses its detection. -/
theorem Tracked.quitCall (h : Tracked f)
    (hfits : call ∈ f.status.store.callObjectPtrList ∧ (f.status.object call).index = info.index)
    (hok : f.EndOk (f.status.object call).slotId info.index (f.status.object call).callId)
    (hstatus : f'.status = f.status)
    (hslot : if f.HasSlot (f.status.object call).slotId info.index
      then f'.antiFraudSlotId = -1 ∧ f'.antiFraudIndex = -1
      else f'.antiFraudSlotId = f.antiFraudSlotId ∧ f'.antiFraudIndex = f.antiFraudIndex)
    (hactive : f'.activeCalls = f.activeCalls) (hout : f'.outstanding = f.outstanding) :
    Tracked (f'.quitCall (f.status.object call).callId) := by
  have hsame : StatusWorld.SameKeys f.status f'.status := hstatus ▸ StatusWorld.SameKeys.refl
  have hnumbered : f'.status.Numbered := hstatus ▸ h.sound.toNumbered
  by_cases hhas : f.HasSlot (f.status.object call).slotId info.index
  · rw [if_pos hhas] at hslot
    refine Tracked.of_cleared (f := f) h hsame hnumbered hslot.1 hslot.2 ?_ ?_
    · exact hactive ▸ Finset.erase_subset _ _
    · show f'.outstanding.filter _ = []
      rw [hout]
      refine filter_eq_nil_of fun d hd => ?_
      simpa using hok hhas d hd
  rw [if_neg hhas] at hslot
  obtain ⟨k, hk⟩ := Option.isSome_iff_exists.mp (h.sound.listed call hfits.1)
  obtain ⟨c, hc, -⟩ := StatusWorld.keys_eq_some.mp hk
  rw [StatusWorld.object_eq hc] at hfits hhas ⊢
  have hnot : ¬ f.status.Lists (f.slotKey c.callId) := fun hlists => by
    obtain ⟨-, hkey⟩ := h.sound.lists_heap hlists hc rfl
    refine hhas ⟨(congrArg CallKey.slotId hkey).symm, ?_⟩
    rw [← hfits.2]
    exact (congrArg CallKey.index hkey).symm
  have hiff : ∀ callId, (f'.quitCall c.callId).Holds callId ↔ f.Holds callId := by
    intro callId
    show callId ∈ f'.activeCalls.erase c.callId ∧ f'.status.Lists (f'.slotKey callId) ↔ _
    rw [Finset.mem_erase, hactive, hsame.lists, slotKey, hslot.1, hslot.2]
    refine ⟨fun hholds => ⟨hholds.1.2, hholds.2⟩, fun hholds => ⟨⟨?_, hholds.1⟩, hholds.2⟩⟩
    rintro rfl
    exact hnot hholds.2
  refine Tracked.of_holds (f := f) h hsame hnumbered hslot.1 hslot.2 ?_ hiff ?_
  · exact hactive ▸ Finset.erase_subset _ _
  · exact hout ▸ List.filter_sublist

/-! ### The actions of the status reports -/

theorem mem_reported_of_ne {callId other : ℤ} (hne : other ≠ callId) (s : TelCallState) :
    other ∈ f.reported callId s ↔ other ∈ f.activeCalls := by
  unfold reported
  split
  · rw [Finset.mem_insert, or_iff_right hne]
  · rw [Finset.mem_erase, and_iff_right hne]
  · rw [Finset.mem_erase, and_iff_right hne]
  · rw [Finset.mem_erase, and_iff_right hne]
  · exact Iff.rfl

theorem statusAction_stored (h : Tracked f) {env : StatusEnv} (a : StatusAction) {callId : ℤ}
    (hid : callId ∈ (f.statusAction ins env a).activeCalls) :
    ∃ k, (f.statusAction ins env a).status.Lists k ∧ k.callId = callId := by
  have hsound := h.sound.statusAction ins env a
  exact (hsound.stored_iff callId).mp (Finset.mem_filter.mp hid).2

/-- The call of the slot is the same after an action that meets the condition. -/
theorem statusAction_holds (h : Tracked f) {env : StatusEnv} {a : StatusAction}
    (hset : f.antiFraudSlotId ≠ -1) (hok : f.StatusActionOk ins env a) (callId : ℤ) :
    (f.statusAction ins env a).Holds callId ↔ f.Holds callId := by
  obtain ⟨hsound, hlists⟩ := StatusWorld.statusAction_keys h.sound ins env a
  obtain ⟨hrekeys, hreported⟩ := hok hset
  have hlisted : ∀ callId, (CallManager.statusAction ins env f.status a).Lists (f.slotKey callId) →
      CallObjectManager.Stored (CallManager.statusAction ins env f.status a).object
        (CallManager.statusAction ins env f.status a).store callId :=
    fun callId hk => (hsound.stored_iff callId).mpr ⟨_, hk, rfl⟩
  -- the key of the slot is listed for an ACTIVE call iff it was
  have hkeep : callId ∈ f.activeCalls →
      ((CallManager.statusAction ins env f.status a).Lists (f.slotKey callId) ↔
        f.status.Lists (f.slotKey callId)) := fun hactive => by
    rw [hlists (f.slotKey callId) (h.stored callId hactive)]
    unfold StatusWorld.ListsAfter
    split
    · exact Iff.rfl
    · rename_i changed key heq
      split_ifs with hid
      · have hchange := hrekeys _ heq
        rw [← hid] at hchange
        exact hchange hactive
      · exact Iff.rfl
  cases a with
  | updateCallState call nextState =>
    have hsame := StatusWorld.SameKeys.updateCallState f.status call nextState
    show callId ∈ (f.reported (f.status.object call).callId nextState).filter _ ∧
      (f.status.updateCallState call nextState).Lists (f.slotKey callId) ↔ _
    rw [Finset.mem_filter, hsame.lists]
    have hmem : f.status.Lists (f.slotKey callId) →
        (callId ∈ f.reported (f.status.object call).callId nextState ↔ callId ∈ f.activeCalls) := by
      intro hk
      by_cases hid : callId = (f.status.object call).callId
      · rw [hid] at hk ⊢
        exact hreported hk
      · exact mem_reported_of_ne hid nextState
    constructor
    · rintro ⟨⟨hin, -⟩, hk⟩
      exact ⟨(hmem hk).mp hin, hk⟩
    · rintro ⟨hin, hk⟩
      exact ⟨⟨(hmem hk).mpr hin, hlisted callId ((hsame.lists _).mpr hk)⟩, hk⟩
  | _ =>
    rw [Holds, Holds]
    show callId ∈ f.activeCalls.filter _ ∧ _ ↔ _
    rw [Finset.mem_filter]
    constructor
    · rintro ⟨⟨hin, -⟩, hk⟩
      exact ⟨hin, (hkeep hin).mp hk⟩
    · rintro ⟨hin, hk⟩
      have hk' := (hkeep hin).mpr hk
      exact ⟨⟨hin, hlisted callId hk'⟩, hk'⟩

theorem Tracked.statusAction (h : Tracked f) {env : StatusEnv} {a : StatusAction}
    (hok : f.StatusActionOk ins env a) : Tracked (f.statusAction ins env a) where
  sound := h.sound.statusAction ins env a
  stored _ hid := statusAction_stored h a hid
  unset := h.unset
  holder hset := by
    obtain ⟨callId, hid, honly⟩ := h.holder hset
    have hiff := statusAction_holds h hset hok
    exact ⟨callId, (hiff callId).mpr hid, fun other hother => honly other ((hiff other).mp hother)⟩
  one_detection := h.one_detection
  own := h.own
  placed := h.placed

/-- What an action of a report keeps. -/
theorem Tracked.fraudAction (h : Tracked f) {a : FraudAction} (hfits : a.Fits f)
    (hok : f.ActionOk ins env a) : Tracked (fraudAction ins env f a) := by
  cases a with
  | status a => exact h.statusAction hok
  | handleAntiFraudState call info => exact h.handleAntiFraudState hfits hok
  | pauseAntiFraudDetect call info =>
    refine h.quitCall hfits hok (pauseAntiFraudDetect_status f call info) ?_ ?_ ?_
    all_goals unfold FraudWorld.pauseAntiFraudDetect
    · split_ifs <;> exact ⟨rfl, rfl⟩
    · split_ifs <;> rfl
    · split_ifs <;> rfl
  | stopAntiFraudDetect call info =>
    refine h.quitCall hfits hok (stopAntiFraudDetect_status f call info) ?_ ?_ ?_
    all_goals unfold FraudWorld.stopAntiFraudDetect
    · split_ifs <;> exact ⟨rfl, rfl⟩
    · split_ifs <;> rfl
    · split_ifs <;> rfl

theorem Tracked.report (h : Tracked f) {env : FraudEnv} {info : CallDetailInfo}
    (hok : f.StepOk ins (.report env info)) : Tracked (fraudStep ins f (.report env info)) := by
  have hmeets := Program.Meets.and (AntiFraud.handleCallReportInfo_fits f) hok
  exact Program.run_preserves (fun _ _ h hboth => h.fraudAction hboth.1 hboth.2) _ h hmeets

/-! ### Results, Celia calls and tasks -/

/-- Neither the keys of the calls nor the record changes. -/
structure Frame (f f' : FraudWorld) : Prop where
  same : StatusWorld.SameKeys f.status f'.status
  numbered : f.status.Numbered → f'.status.Numbered
  activeCalls : f'.activeCalls = f.activeCalls
  outstanding : f'.outstanding = f.outstanding

theorem Frame.of_status (hstatus : f'.status = f.status) (hactive : f'.activeCalls = f.activeCalls)
    (hout : f'.outstanding = f.outstanding) : Frame f f' where
  same := hstatus ▸ StatusWorld.SameKeys.refl
  numbered := hstatus ▸ id
  activeCalls := hactive
  outstanding := hout

theorem Frame.reportActive {f₀ : FraudWorld} (h : Frame f₀ f) (call : Ref) :
    Frame f₀ (f.reportActive call) := by
  unfold FraudWorld.reportActive
  split_ifs
  · exact
      { same := h.same.trans (StatusWorld.SameKeys.updateCallState f.status call .active)
        numbered := fun hnumbered => (h.numbered hnumbered).updateCallState call .active
        activeCalls := h.activeCalls
        outstanding := h.outstanding }
  · exact h

/-- The slot and the index are cleared, or they are as they were. -/
def Clears (f f' : FraudWorld) (P : Prop) : Prop :=
  (P → f'.HasSlot (-1) (-1)) ∧ (¬ P → f'.HasSlot f.antiFraudSlotId f.antiFraudIndex)

theorem Clears.reportActive {f₀ : FraudWorld} {P : Prop} (h : Clears f₀ f P) (call : Ref) :
    Clears f₀ (f.reportActive call) P := by
  unfold FraudWorld.reportActive
  split_ifs <;> exact h

/-- What `TriggerAntiFraud` does to the slot and the calls. -/
theorem triggerAntiFraud_frame (f : FraudWorld) (s : AntiFraudState) :
    Frame f (f.triggerAntiFraud s) ∧
      Clears f (f.triggerAntiFraud s) (isFinal s = true ∧ 0 ≤ f.antiFraudSlotId ∧
        f.antiFraudSlotId < StatusWorld.slotNum) := by
  unfold FraudWorld.triggerAntiFraud
  dsimp only
  by_cases hrange : StatusWorld.slotNum ≤ f.antiFraudSlotId ∨ f.antiFraudSlotId < 0
  · rw [if_pos hrange]
    refine ⟨Frame.of_status rfl rfl rfl, fun hin => ?_, fun _ => ⟨rfl, rfl⟩⟩
    omega
  rw [if_neg hrange]
  generalize Function.update f.callDetailsInfo f.antiFraudSlotId _ = details
  obtain ⟨g, hg, hframe, hclears⟩ : ∃ g, g = (if isFinal s = true then
      { f with callDetailsInfo := details }.clearSlot else { f with callDetailsInfo := details }) ∧
      Frame f g ∧ Clears f g (isFinal s = true ∧ 0 ≤ f.antiFraudSlotId ∧
        f.antiFraudSlotId < StatusWorld.slotNum) := by
    refine ⟨_, rfl, ?_⟩
    by_cases hfinal : isFinal s = true
    · rw [if_pos hfinal]
      refine ⟨Frame.of_status rfl rfl rfl, fun _ => ⟨rfl, rfl⟩, fun hnot => ?_⟩
      exact absurd ⟨hfinal, by omega, by omega⟩ hnot
    · rw [if_neg hfinal]
      exact ⟨Frame.of_status rfl rfl rfl, fun hin => absurd hin.1 hfinal, fun _ => ⟨rfl, rfl⟩⟩
  rw [← hg]
  cases f.triggeredCall with
  | none => exact ⟨hframe, hclears⟩
  | some call =>
    dsimp only
    by_cases hdefault : s ≠ .default
    · rw [if_pos hdefault]
      have hupdate : Frame f (g.updateAntiFraudState call s) :=
        ⟨hframe.same, hframe.numbered, hframe.activeCalls, hframe.outstanding⟩
      have hslot : Clears f (g.updateAntiFraudState call s) (isFinal s = true ∧
          0 ≤ f.antiFraudSlotId ∧ f.antiFraudSlotId < StatusWorld.slotNum) := hclears
      exact ⟨hupdate.reportActive call, hslot.reportActive call⟩
    · rw [if_neg hdefault]
      exact ⟨hframe.reportActive call, hclears.reportActive call⟩

theorem Tracked.of_frame (h : Tracked f) (hframe : Frame f f')
    (hslot : f'.HasSlot f.antiFraudSlotId f.antiFraudIndex) : Tracked f' :=
  h.of_same hframe.same (hframe.numbered h.sound.toNumbered) hslot.1 hslot.2 hframe.activeCalls
    (hframe.outstanding ▸ List.Sublist.refl _)

/-- A result ends the detection of the slot, whichever it is about. -/
theorem Tracked.judged (h : Tracked f) (s : AntiFraudState) :
    Tracked ((f.judge s).triggerAntiFraud s) := by
  obtain ⟨hframe, hclears⟩ := triggerAntiFraud_frame (f.judge s) s
  by_cases hjudged : isFinal s = true ∧ 0 ≤ f.antiFraudSlotId ∧
      f.antiFraudSlotId < StatusWorld.slotNum
  · have hjudge : f.judge s = { f with
        activeCalls := f.activeCalls.filter fun callId => ¬ f.status.Lists (f.slotKey callId)
        outstanding := f.outstanding.filter fun d => ¬ f.HasSlot d.slotId d.info.index } :=
      if_pos hjudged
    rw [hjudge] at hframe hclears ⊢
    obtain ⟨hslot, hindex⟩ := hclears.1 hjudged
    refine h.of_cleared hframe.same (hframe.numbered h.sound.toNumbered) hslot hindex ?_ ?_
    · rw [hframe.activeCalls]
      exact Finset.filter_subset _ _
    · rw [hframe.outstanding]
      refine filter_eq_nil_of fun d hd => ?_
      simpa using h.own d hd
  · have hsame : f.judge s = f := if_neg hjudged
    rw [hsame] at hframe hclears ⊢
    exact h.of_frame hframe (hclears.2 hjudged)

theorem Tracked.started (h : Tracked f) : Tracked (f.triggerAntiFraud .started) := by
  obtain ⟨hframe, hclears⟩ := triggerAntiFraud_frame f .started
  refine h.of_frame hframe (hclears.2 fun hfinal => ?_)
  cases hfinal.1

theorem Tracked.setTask (h : Tracked f) (number : ℕ) (state : TaskState) :
    Tracked (f.setTask number state) :=
  h.of_frame (Frame.of_status rfl rfl rfl) ⟨rfl, rfl⟩

theorem Tracked.checkDetect (h : Tracked f) (number : ℕ) (antiFraudErrCode : ℤ) :
    Tracked (f.checkDetect number antiFraudErrCode) := by
  unfold FraudWorld.checkDetect
  split
  · split_ifs <;> exact h.setTask number _
  · exact h

theorem Tracked.startDetect (h : Tracked f) (number : ℕ) (antiFraudErrCode : ℤ) :
    Tracked (f.startDetect number antiFraudErrCode) := by
  unfold FraudWorld.startDetect
  split
  · split_ifs
    · exact h.setTask number _
    · exact h.started.setTask number _
  · exact h

theorem Tracked.dealCeliaCallEvent (h : Tracked f) {callId : ℤ}
    (hok : f.StepOk ins (.dealCeliaCallEvent callId)) :
    Tracked (fraudStep ins f (.dealCeliaCallEvent callId)) := by
  unfold fraudStep
  dsimp only
  cases hcall : f.status.getOneCallObject callId with
  | none => exact h
  | some call =>
    have hend := hok call hcall
    dsimp only
    by_cases hhas : f.HasSlot (f.status.object call).slotId (f.status.object call).index
    · have hclears : Clears f (f.handleCeliaCall call) True := by
        unfold handleCeliaCall
        rw [if_pos hhas]
        have hclear : Clears f (f.clearSlot.updateAntiFraudState call .notRiskOrStopped) True :=
          ⟨fun _ => ⟨rfl, rfl⟩, fun hnot => absurd trivial hnot⟩
        exact hclear.reportActive call
      have hframe : Frame f (f.handleCeliaCall call) := by
        unfold handleCeliaCall
        rw [if_pos hhas]
        have hclear : Frame f (f.clearSlot.updateAntiFraudState call .notRiskOrStopped) :=
          Frame.of_status rfl rfl rfl
        exact hclear.reportActive call
      obtain ⟨hslot, hindex⟩ := hclears.1 trivial
      rw [if_pos hhas]
      apply h.of_cleared
      · exact hframe.same
      · exact hframe.numbered h.sound.toNumbered
      · exact hslot
      · exact hindex
      · exact hframe.activeCalls ▸ Finset.Subset.refl _
      · show (f.handleCeliaCall call).outstanding.filter _ = []
        rw [hframe.outstanding]
        refine filter_eq_nil_of fun d hd => ?_
        simpa using hend hhas d hd
    · have hsame : f.handleCeliaCall call = f := if_neg hhas
      rw [if_neg hhas, hsame]
      exact h

theorem fail_eq (f : FraudWorld) (d : Detection) {ret : ℤ} (hret : ret ≠ 0) :
    f.fail d ret =
      { f with outstanding := f.outstanding.filter fun e => e.number ≠ d.number } :=
  if_pos hret

/-- The end of a task that leaves the slot alone. -/
theorem Tracked.fail (h : Tracked f) (hframe : Frame f f')
    (hslot : f'.HasSlot f.antiFraudSlotId f.antiFraudIndex) (d : Detection) (ret : ℤ) :
    Tracked (f'.fail d ret) := by
  have hf' := h.of_frame hframe hslot
  by_cases hret : ret ≠ 0
  · rw [fail_eq f' d hret]
    exact hf'.of_same StatusWorld.SameKeys.refl hf'.sound.toNumbered rfl rfl rfl
      List.filter_sublist
  · rw [FraudWorld.fail, if_neg hret]
    exact hf'

/-- The end of a task. A failure clears the slot of its own detection only. -/
theorem Tracked.completeDetect (h : Tracked f) {number : ℕ} {held : Bool}
    (hok : f.StepOk ins (.completeDetect number held)) :
    Tracked (fraudStep ins f (.completeDetect number held)) := by
  unfold StepOk at hok
  unfold fraudStep
  dsimp only at hok ⊢
  split
  swap
  · exact h
  rename_i d ret htask
  rw [htask] at hok
  dsimp only at hok
  unfold FraudWorld.completeDetect
  dsimp only
  obtain ⟨g, hg, hframe, hslot⟩ : ∃ g, g = { f with
      tasks := f.tasks.filter fun it => it.detection.number ≠ d.number } ∧ Frame f g ∧
      g.HasSlot f.antiFraudSlotId f.antiFraudIndex :=
    ⟨{ f with tasks := f.tasks.filter fun it => it.detection.number ≠ d.number }, rfl,
      Frame.of_status rfl rfl rfl, rfl, rfl⟩
  have hpromote : g.promote d held = f.promote d held := by
    rw [hg]
    rfl
  rw [← hg, hpromote]
  cases hcall : f.promote d held with
  | none => exact h.fail hframe hslot d ret
  | some callBasePtr =>
    dsimp only
    by_cases hret : ret ≠ 0
    swap
    · rw [if_neg hret]
      exact h.fail hframe hslot d ret
    rw [if_pos hret]
    have hstatus : g.status = f.status := by rw [hg]
    by_cases hhas : f.HasSlot (f.status.object callBasePtr).slotId d.info.index
    · have hstop : g.stopAntiFraudDetect callBasePtr d.info =
          g.clearSlot.updateAntiFraudState callBasePtr .notRiskOrStopped := by
        refine if_pos ?_
        rw [hstatus]
        exact ⟨hslot.1.trans hhas.1, hslot.2.trans hhas.2⟩
      rw [hstop, fail_eq _ d hret]
      apply h.of_cleared
      · exact hframe.same
      · exact hframe.numbered h.sound.toNumbered
      · rfl
      · rfl
      · exact hframe.activeCalls ▸ Finset.Subset.refl _
      · show g.outstanding.filter _ = []
        rw [hframe.outstanding]
        refine filter_eq_nil_of fun e he => ?_
        simpa using hok hret callBasePtr hcall hhas e he
    · have hstop : g.stopAntiFraudDetect callBasePtr d.info = g := by
        refine if_neg ?_
        rw [hstatus]
        exact fun heq => hhas ⟨hslot.1.symm.trans heq.1, hslot.2.symm.trans heq.2⟩
      rw [hstop]
      exact h.fail hframe hslot d ret

/-- What an operation keeps. -/
theorem Tracked.fraudStep (h : Tracked f) {op : FraudOp} (hok : f.StepOk ins op) :
    Tracked (fraudStep ins f op) := by
  cases op with
  | report env info => exact h.report hok
  | triggerAntiFraud s => exact h.judged s
  | dealCeliaCallEvent callId => exact h.dealCeliaCallEvent hok
  | checkDetect number code => exact h.checkDetect number code
  | startDetect number code => exact h.startDetect number code
  | completeDetect number held => exact h.completeDetect hok
  | updateCallDetailsInfo slotId callVec =>
    exact h.of_frame (Frame.of_status rfl rfl rfl) ⟨rfl, rfl⟩
  | callsReport slotId callVec | waitHold needWaitHold =>
    refine h.of_same ?_ ?_ rfl rfl rfl (List.Sublist.refl _)
    · exact StatusWorld.SameKeys.of_heap rfl rfl
    · exact h.sound.toNumbered.writes (StatusWorld.Quiet.of_heap rfl rfl rfl rfl)
  | hangUpPendingCall callId =>
    have hquiet := StatusWorld.Quiet.hangUpPendingCall f.status callId
    refine h.of_same ?_ (h.sound.toNumbered.writes hquiet) rfl rfl rfl (List.Sublist.refl _)
    show StatusWorld.SameKeys f.status (f.status.hangUpPendingCall callId)
    unfold StatusWorld.hangUpPendingCall
    split_ifs
    · exact StatusWorld.SameKeys.of_heap rfl rfl
    · exact StatusWorld.SameKeys.refl

end FraudWorld

/-! ## Main result -/

/-- What a run keeps. -/
theorem FraudWorld.tracked_run {ins : Insertion} {f : FraudWorld} (hf : f.Tracked)
    {ops : List FraudOp} (hops : Run.StepsMeet (fraudStep ins) (FraudWorld.StepOk ins) f ops) :
    Run.StatesMeet (fraudStep ins) FraudWorld.Tracked f ops :=
  Run.statesMeet_of_stepsMeet (fun _ _ h hok => h.fraudStep hok) hf hops

/-- **Main theorem.** From a state in which the detection slot is as it should
    be, in a run whose operations meet the condition it always is. -/
theorem detection_slot_kept (ins : Insertion) {f : FraudWorld} (hf : f.Tracked)
    (ops : List FraudOp) (hops : Run.StepsMeet (fraudStep ins) (FraudWorld.StepOk ins) f ops) :
    Run.StatesMeet (fraudStep ins) FraudWorld.SlotKept f ops :=
  (FraudWorld.tracked_run hf hops).mono fun _ h => h.slotKept

/-- With the feature and its switches on, for a number that is neither a contact nor marked. -/
def fraudEnv : FraudEnv where
  status := modemEnv
  isAntiFraudSupport := true
  isAntiFraudSwitchOn _ := true
  isAntiFraudContactsEnabled _ := true
  isMainUserSpace := true
  isContactPhoneNum _ := false
  isMarked := false

/-- A report of an IMS call of slot 0 with index 1. -/
def fraudReport (state : TelCallState) : FraudOp := .report fraudEnv (slotCall .ims 1 state 0)

/-- A call that is listened to, held, listened to again, judged and hung up. -/
theorem detection_slot_kept_call :
    Run.StatesMeet (fraudStep .restored) FraudWorld.SlotKept FraudWorld.init
      [fraudReport .incoming, fraudReport .active, .checkDetect 0 0, .startDetect 0 0,
        .completeDetect 0 false, fraudReport .holding, fraudReport .active, .checkDetect 1 0,
        .startDetect 1 0, .triggerAntiFraud .risk, .completeDetect 1 false,
        fraudReport .disconnected] :=
  detection_slot_kept .restored FraudWorld.Tracked.init _ (by decide +kernel)

/-- The task of a call fails, and is to end. The call is hung up, and another
    one with its slot and index is answered. -/
def reusedIndexOps : List FraudOp :=
  [fraudReport .incoming, fraudReport .active, .checkDetect 0 1, fraudReport .disconnected,
    fraudReport .incoming, fraudReport .active]

/-- A call is held and taken up again before its first task fails. -/
def resumedCallOps : List FraudOp :=
  [fraudReport .incoming, fraudReport .active, fraudReport .holding, fraudReport .active,
    .checkDetect 0 1]

/-- An outstanding detection without the slot. -/
theorem FraudWorld.not_slotKept {f : FraudWorld} (houtstanding : f.outstanding ≠ [])
    (hunset : f.antiFraudSlotId = -1) (hslot : ∀ d ∈ f.outstanding, d.slotId ≠ -1) :
    ¬ f.SlotKept := by
  intro h
  obtain ⟨d, hd⟩ := List.exists_mem_of_ne_nil _ houtstanding
  have hown := h.own d hd
  exact hslot d hd (hown.1.symm.trans hunset)

/-- The failure of the first task clears the slot of the second detection, of another call and
    of the same call: in runs from the start whose calls are put on the list, and, as the list
    is left alone, in the state with the second call on it. -/
theorem stale_failure_clears_slot :
    ¬ Run.StatesMeet (fraudStep .restored) FraudWorld.SlotKept FraudWorld.init
        (reusedIndexOps ++ [.completeDetect 0 true]) ∧
      ¬ Run.StatesMeet (fraudStep .restored) FraudWorld.SlotKept FraudWorld.init
          (resumedCallOps ++ [.completeDetect 0 false]) ∧
        (Run.run (fraudStep .restored) FraudWorld.init reusedIndexOps).Tracked ∧
          ¬ (fraudStep .asWritten (Run.run (fraudStep .restored) FraudWorld.init reusedIndexOps)
            (.completeDetect 0 true)).SlotKept := by
  refine ⟨fun h => ?_, fun h => ?_, ?_, ?_⟩
  · have hlast := h.last
    rw [Run.run_append] at hlast
    exact FraudWorld.not_slotKept (by decide +kernel) (by decide +kernel) (by decide +kernel) hlast
  · have hlast := h.last
    rw [Run.run_append] at hlast
    exact FraudWorld.not_slotKept (by decide +kernel) (by decide +kernel) (by decide +kernel) hlast
  · have hops : Run.StepsMeet (fraudStep .restored) (FraudWorld.StepOk .restored) FraudWorld.init
        reusedIndexOps := by
      decide +kernel
    exact (FraudWorld.tracked_run FraudWorld.Tracked.init hops).last
  · exact FraudWorld.not_slotKept (by decide +kernel) (by decide +kernel) (by decide +kernel)

end CallManager
