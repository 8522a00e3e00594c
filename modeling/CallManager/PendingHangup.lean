import CallManager.CallStatusManager
import CallManager.Library.Endless
import Mathlib.Data.Finset.Basic

/-!
# Pending hang-ups

A dialed call is hung up before the modem has reported it: `HangUpCall` notes
the call in `pendingHangupCallId_` and submits a protect task. The hang-up is
resolved by the first report of the call, which hangs it up, by the deferred
dial, which gives the call up, or by the task, which reports the call as
failed. All of them clear the note, and with it the handle of the task.

The operations are on threads of their own, and every critical section of
`CallRequestEventHandlerHelper` and of `pendingHangupHandleMutex_` is a step.

Specification: no call id is resolved more often than it was hung up
(`Safe`), a hang-up that is not resolved has a protect task (`Protected`), and
in a fair run every hang-up is resolved (`ResolvesOnce`).

There is one note and one handle. A second hang-up, of an emergency call that
is dialed over the first, takes the note and gets no task; the task of the
first finds another call noted and leaves the handle.

Results:
* `clearPendingState_shows`, `hangUpCall_shows`, `handleDialWhenHolding_shows`:
  the operations, uninterrupted, do what those of the status reports do.
* `resolvesOnce`: in a run that notes no hang-up while another one is not
  resolved, and in which no operation comes between the test and the clearing
  of another, every hang-up is resolved exactly once.
* `second_hangUp_unresolved`: two hang-ups, of which none is resolved.
-/

namespace CallManager

/-! ## Model of the code -/

/-- A task of `PostPendingHangupProtectTask` that has not started, with a number of its own. -/
structure ProtectTask where
  number : ℕ
  callId : ℤ
  deriving DecidableEq, Repr

/-- How a pending hang-up is resolved. -/
inductive HangupResolution
  | hangUpCall | disconnected | dealFailDial
  deriving DecidableEq, Repr

/-- The next step of a thread that is in `HangUpCall` (call_control_manager.cpp:488-491),
    `ClearPendingState` (call_status_manager.cpp:2631-2640), `HandleDialWhenHolding` (lines
    2502-2511) or the protect task (call_control_manager.cpp:516-523). -/
inductive HangupPhase
  | hangUpSetPendingMo (callId : ℤ)
  | hangUpSetPendingHangup (callId : ℤ)
  | hangUpPost (callId : ℤ)
  | clearSetPendingMo (callId : ℤ)
  | clearHasPendingHangup (callId : ℤ)
  | clearHangUpCall (callId : ℤ)
  | holdingGetPendingHangupCallId
  | holdingDisconnect (pendingHangupCallId : ℤ)
  | resetPendingHangup
  | removeProtectTask
  | taskHasPendingHangup (callId : ℤ)
  | taskDealFailDial (callId : ℤ)
  | taskResetPendingHangup
  | taskResetHandle
  deriving DecidableEq, Repr

/-- The fields of `CallRequestEventHandlerHelper`, the handle of the protect
    task, the tasks that have not started, the stored calls and those whose
    running state is ENDED, and the threads. The last two fields are a record:
    the call ids whose hang-up was noted, and how call ids were resolved. -/
structure HangupWorld where
  pendingMo : Bool
  pendingMoCallId : ℤ
  pendingHangup : Bool
  pendingHangupCallId : ℤ
  pendingHangupHandle : Option ℕ
  tasks : List ProtectTask
  submitted : ℕ
  stored : Finset ℤ
  ended : Finset ℤ
  threads : ℕ → Option HangupPhase
  accepted : List ℤ
  resolved : List (ℤ × HangupResolution)

namespace HangupWorld

/-- The state the process starts with. -/
def init : HangupWorld where
  pendingMo := false
  pendingMoCallId := -1
  pendingHangup := false
  pendingHangupCallId := -1
  pendingHangupHandle := none
  tasks := []
  submitted := 0
  stored := ∅
  ended := ∅
  threads _ := none
  accepted := []
  resolved := []

/-- `SetPendingMo` (call_request_event_handler_helper.cpp:81-86). -/
def setPendingMo (w : HangupWorld) (pendingMo : Bool) (callId : ℤ) : HangupWorld :=
  { w with pendingMo := pendingMo, pendingMoCallId := callId }

/-- `HasPendingMo` (lines 88-92). -/
def HasPendingMo (w : HangupWorld) (callId : ℤ) : Prop :=
  w.pendingMo = true ∧ w.pendingMoCallId = callId

/-- `IsPendingHangup` (lines 94-101). -/
def IsPendingHangup (w : HangupWorld) : Prop :=
  w.pendingHangup = true ∧ w.pendingHangupCallId ≠ -1

/-- `GetPendingHangupCallId` (lines 103-110). -/
def getPendingHangupCallId (w : HangupWorld) : ℤ :=
  if w.pendingHangup = true then w.pendingHangupCallId else -1

/-- `SetPendingHangup` (lines 112-117). -/
def setPendingHangup (w : HangupWorld) (pendingHangup : Bool) (callId : ℤ) : HangupWorld :=
  { w with pendingHangup := pendingHangup, pendingHangupCallId := callId }

/-- `HasPendingHangup` (lines 119-123). -/
def HasPendingHangup (w : HangupWorld) (callId : ℤ) : Prop :=
  w.pendingHangup = true ∧ w.pendingHangupCallId = callId

instance (w : HangupWorld) (callId : ℤ) : Decidable (w.HasPendingMo callId) :=
  inferInstanceAs (Decidable (_ ∧ _))

instance (w : HangupWorld) : Decidable w.IsPendingHangup := inferInstanceAs (Decidable (_ ∧ _))

instance (w : HangupWorld) (callId : ℤ) : Decidable (w.HasPendingHangup callId) :=
  inferInstanceAs (Decidable (_ ∧ _))

/-- `PostPendingHangupProtectTask` (call_control_manager.cpp:503-527). -/
def postPendingHangupProtectTask (w : HangupWorld) (callId : ℤ) : HangupWorld :=
  if w.pendingHangupHandle ≠ none then w
  else
    { w with
      pendingHangupHandle := some w.submitted
      tasks := w.tasks ++ [⟨w.submitted, callId⟩]
      submitted := w.submitted + 1 }

/-- `RemovePendingHangupProtectTask` (call_control_manager.cpp:529-540). A task that has started
    is not skipped. -/
def removePendingHangupProtectTask (w : HangupWorld) : HangupWorld :=
  match w.pendingHangupHandle with
  | none => w
  | some number =>
    { w with
      pendingHangupHandle := none
      tasks := w.tasks.filter fun task => task.number ≠ number }

/-- The hang-up of this call id is noted. -/
def accept (w : HangupWorld) (callId : ℤ) : HangupWorld :=
  { w.setPendingHangup true callId with accepted := callId :: w.accepted }

/-- The hang-up of this call id is resolved. -/
def resolve (w : HangupWorld) (callId : ℤ) (resolution : HangupResolution) : HangupWorld :=
  { w with resolved := (callId, resolution) :: w.resolved }

/-- A thread goes on to another step, or returns. -/
def setThread (w : HangupWorld) (thread : ℕ) (phase : Option HangupPhase) : HangupWorld :=
  { w with threads := Function.update w.threads thread phase }

/-- The next step of a thread. -/
def next (w : HangupWorld) (thread : ℕ) : HangupPhase → HangupWorld
  | .hangUpSetPendingMo callId =>
    (w.setPendingMo false (-1)).setThread thread (some (.hangUpSetPendingHangup callId))
  | .hangUpSetPendingHangup callId => (w.accept callId).setThread thread (some (.hangUpPost callId))
  | .hangUpPost callId => (w.postPendingHangupProtectTask callId).setThread thread none
  | .clearSetPendingMo callId =>
    (w.setPendingMo false (-1)).setThread thread (some (.clearHasPendingHangup callId))
  | .clearHasPendingHangup callId =>
    w.setThread thread (if w.HasPendingHangup callId then some (.clearHangUpCall callId) else none)
  | .clearHangUpCall callId =>
    (if callId ∈ w.ended then w else w.resolve callId .hangUpCall).setThread thread
      (some .resetPendingHangup)
  | .holdingGetPendingHangupCallId =>
    w.setThread thread (some (.holdingDisconnect w.getPendingHangupCallId))
  | .holdingDisconnect pendingHangupCallId =>
    (if pendingHangupCallId ∈ w.stored then
      { w with
        ended := insert pendingHangupCallId w.ended
        stored := w.stored.erase pendingHangupCallId }.resolve pendingHangupCallId .disconnected
    else w).setThread thread (some .resetPendingHangup)
  | .resetPendingHangup =>
    (w.setPendingHangup false (-1)).setThread thread (some .removeProtectTask)
  | .removeProtectTask => w.removePendingHangupProtectTask.setThread thread none
  | .taskHasPendingHangup callId =>
    w.setThread thread (if w.HasPendingHangup callId then some (.taskDealFailDial callId) else none)
  | .taskDealFailDial callId =>
    (if callId ∈ w.stored then w.resolve callId .dealFailDial else w).setThread thread
      (some .taskResetPendingHangup)
  | .taskResetPendingHangup =>
    (w.setPendingHangup false (-1)).setThread thread (some .taskResetHandle)
  | .taskResetHandle => { w with pendingHangupHandle := none }.setThread thread none

end HangupWorld

/-- The operations of a run: the note of a dialed call (`DialingHandle`,
    call_status_manager.cpp:981), a call that is stored, deleted or ENDED, the start of one of
    the four operations on a thread, and the next step of a thread. -/
inductive HangupOp
  | dial (callId : ℤ)
  | addOneCallObject (callId : ℤ)
  | deleteOneCallObject (callId : ℤ)
  | endCall (callId : ℤ)
  | hangUpCall (thread : ℕ) (callId : ℤ)
  | clearPendingState (thread : ℕ) (callId : ℤ)
  | handleDialWhenHolding (thread : ℕ)
  | startTask (thread number : ℕ)
  | next (thread : ℕ)
  deriving DecidableEq, Repr

/-- The state after one operation. An operation starts on a thread that is in
    no other one; the hang-up of a call that is not noted by `SetPendingMo`, and
    `HandleDialWhenHolding` without a pending hang-up, go other ways. -/
def hangupStep (w : HangupWorld) : HangupOp → HangupWorld
  | .dial callId => w.setPendingMo true callId
  | .addOneCallObject callId => { w with stored := insert callId w.stored }
  | .deleteOneCallObject callId => { w with stored := w.stored.erase callId }
  | .endCall callId => { w with ended := insert callId w.ended }
  | .hangUpCall thread callId =>
    if w.threads thread = none ∧ w.HasPendingMo callId then
      w.setThread thread (some (.hangUpSetPendingMo callId))
    else w
  | .clearPendingState thread callId =>
    if w.threads thread = none then
      w.setThread thread (some
        (if w.HasPendingMo callId then .clearSetPendingMo callId
        else .clearHasPendingHangup callId))
    else w
  | .handleDialWhenHolding thread =>
    if w.threads thread = none ∧ w.IsPendingHangup then
      w.setThread thread (some .holdingGetPendingHangupCallId)
    else w
  | .startTask thread number =>
    match w.tasks.find? fun task => task.number = number with
    | none => w
    | some task =>
      if w.threads thread = none then
        { w with tasks := w.tasks.filter fun it => it.number ≠ number }.setThread thread
          (some (.taskHasPendingHangup task.callId))
      else w
  | .next thread =>
    match w.threads thread with
    | none => w
    | some phase => w.next thread phase

/-! ## Specification -/

namespace HangupWorld

/-- The call ids of the resolutions. -/
def resolvedIds (w : HangupWorld) : List ℤ := w.resolved.map Prod.fst

/-- Some hang-up of this call id is not resolved. -/
def Outstanding (w : HangupWorld) (callId : ℤ) : Prop :=
  w.resolvedIds.count callId < w.accepted.count callId

/-- No call id is resolved more often than it was hung up. -/
def Safe (w : HangupWorld) : Prop := ∀ callId, w.resolvedIds.count callId ≤ w.accepted.count callId

/-- There is a protect task for this call id that has not found the hang-up resolved. -/
def HasTask (w : HangupWorld) (callId : ℤ) : Prop :=
  (∃ task ∈ w.tasks, task.callId = callId) ∨
    ∃ thread, w.threads thread = some (.taskHasPendingHangup callId) ∨
      w.threads thread = some (.taskDealFailDial callId)

/-- A hang-up that is not resolved has a protect task, once `HangUpCall` has submitted it. -/
def Protected (w : HangupWorld) : Prop :=
  ∀ callId, w.Outstanding callId →
    w.HasTask callId ∨ ∃ thread, w.threads thread = some (.hangUpPost callId)

end HangupWorld

/-- A fair run: a task that was submitted starts or is skipped, and a thread
    that is in an operation goes on. -/
structure HangupFair (w : HangupWorld) (ops : ℕ → HangupOp) : Prop where
  task : ∀ n, ∀ task ∈ (Run.stateAt hangupStep w ops n).tasks,
    ∃ m, n ≤ m ∧ task ∉ (Run.stateAt hangupStep w ops m).tasks
  thread : ∀ n thread, (Run.stateAt hangupStep w ops n).threads thread ≠ none →
    ∃ m, n ≤ m ∧ ops m = .next thread

/-- Every hang-up is resolved exactly once: no call id is ever resolved more
    often than it was hung up, whatever is not resolved has a task, and in a
    fair run every call id comes to be resolved as often as it was hung up. -/
def ResolvesOnce (w : HangupWorld) (ops : ℕ → HangupOp) : Prop :=
  (∀ n, (Run.stateAt hangupStep w ops n).Safe ∧ (Run.stateAt hangupStep w ops n).Protected) ∧
    (HangupFair w ops → ∀ n callId, ∃ m, n ≤ m ∧
      (Run.stateAt hangupStep w ops n).accepted.count callId ≤
        (Run.stateAt hangupStep w ops m).resolvedIds.count callId)

/-! ### The condition -/

/-- A thread in this phase has noted a hang-up or found one noted, and is not done with it. -/
def HangupPhase.Busy : HangupPhase → Prop
  | .hangUpPost _ | .clearHangUpCall _ | .holdingGetPendingHangupCallId | .holdingDisconnect _
  | .resetPendingHangup | .removeProtectTask | .taskDealFailDial _ | .taskResetPendingHangup
  | .taskResetHandle => True
  | .hangUpSetPendingMo _ | .hangUpSetPendingHangup _ | .clearSetPendingMo _
  | .clearHasPendingHangup _ | .taskHasPendingHangup _ => False

/-- The phases in which a thread comes to be busy. -/
def HangupPhase.Entry : HangupPhase → Prop
  | .hangUpPost _ | .clearHangUpCall _ | .holdingGetPendingHangupCallId | .taskDealFailDial _ => True
  | _ => False

theorem HangupPhase.Entry.busy {p : HangupPhase} (h : p.Entry) : p.Busy := by
  cases p <;> first | exact trivial | exact h.elim

namespace HangupWorld

/-- No thread is in the middle of a pending hang-up. -/
def Quiet (w : HangupWorld) : Prop := ∀ thread phase, w.threads thread = some phase → ¬ phase.Busy

/-- The condition on the next step of a thread. -/
def NextOk (w : HangupWorld) : HangupPhase → Prop
  | .hangUpSetPendingHangup _ => w.pendingHangup = false ∧ w.Quiet
  | .clearHasPendingHangup callId | .taskHasPendingHangup callId =>
    w.HasPendingHangup callId → w.Quiet
  | .clearHangUpCall callId => callId ∉ w.ended
  | .holdingDisconnect callId | .taskDealFailDial callId => callId ∈ w.stored
  | _ => True

/-- The condition on an operation: a hang-up is noted when no other one is, a
    noted one is found when no thread is in the middle of it, and the call that
    is to be resolved is there, and not ENDED for `ClearPendingState`. -/
def StepOk (w : HangupWorld) : HangupOp → Prop
  | .handleDialWhenHolding thread => w.threads thread = none → w.IsPendingHangup → w.Quiet
  | .next thread => ∀ phase ∈ w.threads thread, w.NextOk phase
  | _ => True

end HangupWorld

/-! ## The invariant -/

namespace HangupWorld

/-- Every hang-up is resolved. -/
def Settled (w : HangupWorld) : Prop :=
  ∀ callId, w.resolvedIds.count callId = w.accepted.count callId

/-- The hang-up of this call id is noted, and the only one that is not resolved. -/
structure Noted (w : HangupWorld) (callId : ℤ) : Prop where
  has : w.HasPendingHangup callId
  count : ∀ id, w.accepted.count id = w.resolvedIds.count id + if id = callId then 1 else 0

/-- The task of the handle is for this call id, and has not found the hang-up resolved. -/
def Live (w : HangupWorld) (callId : ℤ) : Prop :=
  ∃ number, w.pendingHangupHandle = some number ∧
    (⟨number, callId⟩ ∈ w.tasks ∨ ∃ thread, w.threads thread = some (.taskHasPendingHangup callId))

/-- Nothing is noted. -/
structure Cleared (w : HangupWorld) : Prop where
  settled : w.Settled
  pendingHangup : w.pendingHangup = false
  handle : w.pendingHangupHandle = none

/-- What holds while a thread is in a phase. -/
def PhaseOk (w : HangupWorld) : HangupPhase → Prop
  | .hangUpPost callId => w.Noted callId ∧ w.pendingHangupHandle = none
  | .clearHangUpCall callId | .holdingDisconnect callId => w.Noted callId ∧ w.Live callId
  | .holdingGetPendingHangupCallId => ∃ callId, w.Noted callId ∧ w.Live callId
  | .taskDealFailDial callId => w.Noted callId
  | .resetPendingHangup | .taskResetPendingHangup => w.Settled
  | .removeProtectTask | .taskResetHandle => w.Settled ∧ w.pendingHangup = false
  | .hangUpSetPendingMo _ | .hangUpSetPendingHangup _ | .clearSetPendingMo _
  | .clearHasPendingHangup _ | .taskHasPendingHangup _ => True

/-- The tasks have numbers of their own, that were given out. -/
structure Numbered (w : HangupWorld) : Prop where
  lt : ∀ task ∈ w.tasks, task.number < w.submitted
  inj : ∀ a ∈ w.tasks, ∀ b ∈ w.tasks, a.number = b.number → a = b

/-- The invariant: one thread at most is in the middle of the pending hang-up;
    if none is, then nothing is noted or one hang-up is, with its task. -/
structure Ok (w : HangupWorld) : Prop where
  numbered : w.Numbered
  one : ∀ t t' p p', w.threads t = some p → w.threads t' = some p' → p.Busy → p'.Busy → t = t'
  phase : ∀ t p, w.threads t = some p → w.PhaseOk p
  rest : w.Quiet → w.Cleared ∨ ∃ callId, w.Noted callId ∧ w.Live callId

theorem Ok.init : Ok HangupWorld.init where
  numbered := ⟨fun _ h => absurd h List.not_mem_nil, fun _ h => absurd h List.not_mem_nil⟩
  one _ _ _ _ h := nomatch h
  phase _ _ h := nomatch h
  rest _ := .inl ⟨fun _ => rfl, rfl, rfl⟩

variable {w w' : HangupWorld} {t : ℕ} {p : HangupPhase} {callId : ℤ}

theorem phaseOk_of_not_busy (h : ¬ p.Busy) : w.PhaseOk p := by
  cases p <;> first | exact trivial | exact absurd trivial h

/-! ### What the invariant says -/

theorem Settled.safe (h : w.Settled) : w.Safe := fun id => (h id).le

theorem Noted.safe (h : w.Noted callId) : w.Safe := by
  intro id
  have hcount := h.count id
  omega

/-- The only outstanding hang-up is the noted one. -/
theorem Noted.eq_of_outstanding (h : w.Noted callId) {id : ℤ} (hid : w.Outstanding id) :
    id = callId := by
  have hcount := h.count id
  rw [Outstanding] at hid
  by_contra hne
  rw [if_neg hne] at hcount
  omega

theorem Live.hasTask (h : w.Live callId) : w.HasTask callId := by
  obtain ⟨number, -, htask | ⟨thread, hthread⟩⟩ := h
  · exact .inl ⟨_, htask, rfl⟩
  · exact .inr ⟨thread, .inl hthread⟩

/-- In every phase in the middle, all hang-ups are resolved or the noted one is
    the only one that is not. -/
theorem PhaseOk.settled_or_noted (h : w.PhaseOk p) (hbusy : p.Busy) :
    w.Settled ∨ ∃ callId, w.Noted callId := by
  cases p with
  | hangUpPost callId => exact .inr ⟨callId, h.1⟩
  | clearHangUpCall callId | holdingDisconnect callId => exact .inr ⟨callId, h.1⟩
  | holdingGetPendingHangupCallId =>
    obtain ⟨callId, hnoted, -⟩ := h
    exact .inr ⟨callId, hnoted⟩
  | taskDealFailDial callId => exact .inr ⟨callId, h⟩
  | resetPendingHangup | taskResetPendingHangup => exact .inl h
  | removeProtectTask | taskResetHandle => exact .inl h.1
  | hangUpSetPendingMo _ | hangUpSetPendingHangup _ | clearSetPendingMo _
  | clearHasPendingHangup _ | taskHasPendingHangup _ => exact hbusy.elim

theorem Ok.safe (h : w.Ok) : w.Safe := by
  by_cases hquiet : w.Quiet
  · rcases h.rest hquiet with hcleared | ⟨callId, hnoted, -⟩
    · exact hcleared.settled.safe
    · exact hnoted.safe
  · unfold Quiet at hquiet
    push Not at hquiet
    obtain ⟨t, p, ht, hbusy⟩ := hquiet
    rcases (h.phase t p ht).settled_or_noted hbusy with hsettled | ⟨callId, hnoted⟩
    · exact hsettled.safe
    · exact hnoted.safe

theorem Settled.not_outstanding (h : w.Settled) (callId : ℤ) : ¬ w.Outstanding callId := by
  rw [Outstanding, h callId]
  exact Nat.lt_irrefl _

theorem Ok.protected (h : w.Ok) : w.Protected := by
  intro id hid
  by_cases hquiet : w.Quiet
  · rcases h.rest hquiet with hcleared | ⟨callId, hnoted, hlive⟩
    · exact absurd hid (hcleared.settled.not_outstanding id)
    · exact .inl (hnoted.eq_of_outstanding hid ▸ hlive.hasTask)
  · unfold Quiet at hquiet
    push Not at hquiet
    obtain ⟨t, p, ht, hbusy⟩ := hquiet
    have hphase := h.phase t p ht
    cases p with
    | hangUpPost callId => exact .inr ⟨t, hphase.1.eq_of_outstanding hid ▸ ht⟩
    | clearHangUpCall callId | holdingDisconnect callId =>
      exact .inl (hphase.1.eq_of_outstanding hid ▸ hphase.2.hasTask)
    | holdingGetPendingHangupCallId =>
      obtain ⟨callId, hnoted, hlive⟩ := hphase
      exact .inl (hnoted.eq_of_outstanding hid ▸ hlive.hasTask)
    | taskDealFailDial callId =>
      exact .inl (.inr ⟨t, .inr (hphase.eq_of_outstanding hid ▸ ht)⟩)
    | resetPendingHangup | taskResetPendingHangup => exact absurd hid (hphase.not_outstanding id)
    | removeProtectTask | taskResetHandle => exact absurd hid (hphase.1.not_outstanding id)
    | hangUpSetPendingMo _ | hangUpSetPendingHangup _ | clearSetPendingMo _
    | clearHasPendingHangup _ | taskHasPendingHangup _ => exact hbusy.elim

/-! ### Steps outside, into, through and out of the middle -/

/-- A step that leaves the note, the handle and the record alone, and the
    threads in the middle, and does not lose the task of the note. -/
structure Outside (w w' : HangupWorld) : Prop where
  has : ∀ callId, w'.HasPendingHangup callId ↔ w.HasPendingHangup callId
  pendingHangup : w'.pendingHangup = w.pendingHangup
  handle : w'.pendingHangupHandle = w.pendingHangupHandle
  accepted : w'.accepted = w.accepted
  resolved : w'.resolved = w.resolved
  busy : ∀ t p, p.Busy → (w'.threads t = some p ↔ w.threads t = some p)
  live : ∀ callId, w.Noted callId → w.Live callId → w'.Live callId
  numbered : w.Numbered → w'.Numbered

theorem Outside.noted (h : Outside w w') : w'.Noted callId ↔ w.Noted callId := by
  have hids : w'.resolvedIds = w.resolvedIds := congrArg (List.map Prod.fst) h.resolved
  constructor
  · rintro ⟨hhas, hcount⟩
    rw [h.accepted, hids] at hcount
    exact ⟨(h.has callId).mp hhas, hcount⟩
  · rintro ⟨hhas, hcount⟩
    rw [← h.accepted, ← hids] at hcount
    exact ⟨(h.has callId).mpr hhas, hcount⟩

theorem Outside.settled (h : Outside w w') : w'.Settled ↔ w.Settled := by
  have hids : w'.resolvedIds = w.resolvedIds := congrArg (List.map Prod.fst) h.resolved
  rw [Settled, Settled, h.accepted, hids]

theorem Outside.noted_live (h : Outside w w') (hnoted : w.Noted callId ∧ w.Live callId) :
    w'.Noted callId ∧ w'.Live callId :=
  ⟨h.noted.mpr hnoted.1, h.live callId hnoted.1 hnoted.2⟩

theorem Outside.phaseOk (h : Outside w w') (hp : w.PhaseOk p) : w'.PhaseOk p := by
  cases p with
  | hangUpPost callId => exact ⟨h.noted.mpr hp.1, h.handle.trans hp.2⟩
  | clearHangUpCall callId | holdingDisconnect callId => exact h.noted_live hp
  | holdingGetPendingHangupCallId =>
    obtain ⟨callId, hnoted⟩ := hp
    exact ⟨callId, h.noted_live hnoted⟩
  | taskDealFailDial callId => exact h.noted.mpr hp
  | resetPendingHangup | taskResetPendingHangup => exact h.settled.mpr hp
  | removeProtectTask | taskResetHandle =>
    exact ⟨h.settled.mpr hp.1, h.pendingHangup.trans hp.2⟩
  | hangUpSetPendingMo _ | hangUpSetPendingHangup _ | clearSetPendingMo _
  | clearHasPendingHangup _ | taskHasPendingHangup _ => exact trivial

theorem Outside.quiet (h : Outside w w') : w'.Quiet ↔ w.Quiet := by
  constructor
  · exact fun hquiet t p ht hbusy => hquiet t p ((h.busy t p hbusy).mpr ht) hbusy
  · exact fun hquiet t p ht hbusy => hquiet t p ((h.busy t p hbusy).mp ht) hbusy

theorem Ok.outside (h : w.Ok) (ho : Outside w w') : w'.Ok where
  numbered := ho.numbered h.numbered
  one t t' p p' ht ht' hp hp' :=
    h.one t t' p p' ((ho.busy t p hp).mp ht) ((ho.busy t' p' hp').mp ht') hp hp'
  phase t p ht := by
    by_cases hp : p.Busy
    · exact ho.phaseOk (h.phase t p ((ho.busy t p hp).mp ht))
    · exact phaseOk_of_not_busy hp
  rest hquiet := by
    rcases h.rest (ho.quiet.mp hquiet) with hcleared | ⟨callId, hnoted⟩
    · exact .inl ⟨ho.settled.mpr hcleared.settled, ho.pendingHangup.trans hcleared.pendingHangup,
        ho.handle.trans hcleared.handle⟩
    · exact .inr ⟨callId, ho.noted_live hnoted⟩

/-- The other threads are not in the middle. -/
def Alone (w : HangupWorld) (t : ℕ) : Prop :=
  ∀ t' p', t' ≠ t → w.threads t' = some p' → ¬ p'.Busy

theorem Quiet.alone (h : w.Quiet) : w.Alone t := fun t' p' _ => h t' p'

theorem Ok.alone (h : w.Ok) (ht : w.threads t = some p) (hp : p.Busy) : w.Alone t :=
  fun t' p' hne ht' hp' => hne (h.one t' t p' p ht' ht hp' hp)

/-- After a step of a thread that alone is in the middle. -/
theorem Ok.inside (halone : w.Alone t) (hthreads : w'.threads = Function.update w.threads t (some p))
    (hbusy : p.Busy) (hphase : w'.PhaseOk p) (hnumbered : w'.Numbered) : w'.Ok := by
  have hself : w'.threads t = some p := by rw [hthreads, Function.update_self]
  have hother : ∀ t' p', w'.threads t' = some p' → p'.Busy → t' = t := by
    intro t' p' ht' hp'
    by_contra hne
    rw [hthreads, Function.update_of_ne hne] at ht'
    exact halone t' p' hne ht' hp'
  refine ⟨hnumbered, fun a b q r ha hb hq hr => ?_, fun t' p' ht' => ?_, fun hquiet => ?_⟩
  · rw [hother a q ha hq, hother b r hb hr]
  · by_cases hp' : p'.Busy
    · rw [hother t' p' ht' hp', hself] at ht'
      exact Option.some.inj ht' ▸ hphase
    · exact phaseOk_of_not_busy hp'
  · exact absurd hbusy (hquiet t p hself)

/-- A step in which a thread enters the middle. -/
structure Enters (w w' : HangupWorld) : Prop where
  quiet : w.Quiet
  handle : w'.pendingHangupHandle = w.pendingHangupHandle
  numbered : w'.Numbered
  thread : ∃ t p, w'.threads = Function.update w.threads t (some p) ∧ p.Entry ∧ w'.PhaseOk p

theorem Enters.ok (h : Enters w w') : w'.Ok := by
  obtain ⟨t, p, hthreads, hentry, hphase⟩ := h.thread
  exact .inside h.quiet.alone hthreads hentry.busy hphase h.numbered

/-- After the thread that alone was in the middle has returned. -/
theorem Ok.leave (halone : w.Alone t) (hthreads : w'.threads = Function.update w.threads t none)
    (hrest : w'.Cleared ∨ ∃ callId, w'.Noted callId ∧ w'.Live callId) (hnumbered : w'.Numbered) :
    w'.Ok := by
  have hquiet : w'.Quiet := by
    intro t' p' ht'
    by_cases hne : t' = t
    · rw [hthreads, hne, Function.update_self] at ht'
      cases ht'
    · rw [hthreads, Function.update_of_ne hne] at ht'
      exact halone t' p' hne ht'
  refine ⟨hnumbered, fun a b q r ha _ hq _ => ?_, fun t' p' ht' => ?_, fun _ => hrest⟩
  · exact absurd hq (hquiet a q ha)
  · exact phaseOk_of_not_busy (hquiet t' p' ht')

/-! ### One step -/

theorem Numbered.of_tasks (h : w.Numbered) (htasks : w'.tasks.Sublist w.tasks)
    (hsubmitted : w'.submitted = w.submitted) : w'.Numbered := by
  refine ⟨fun task ht => ?_, fun a ha b hb => ?_⟩
  · rw [hsubmitted]
    exact h.lt task (htasks.subset ht)
  · exact h.inj a (htasks.subset ha) b (htasks.subset hb)

theorem Numbered.of_same (h : w.Numbered) (htasks : w'.tasks = w.tasks)
    (hsubmitted : w'.submitted = w.submitted) : w'.Numbered :=
  h.of_tasks (htasks ▸ List.Sublist.refl _) hsubmitted

theorem Noted.of_same (h : w.Noted callId) (hset : w'.pendingHangup = w.pendingHangup)
    (hid : w'.pendingHangupCallId = w.pendingHangupCallId) (haccepted : w'.accepted = w.accepted)
    (hresolved : w'.resolved = w.resolved) : w'.Noted callId := by
  refine ⟨⟨hset.trans h.has.1, hid.trans h.has.2⟩, fun id => ?_⟩
  rw [resolvedIds, haccepted, hresolved]
  exact h.count id

/-- The task of the handle stays, unless the thread that goes on is this task. -/
theorem Live.of_thread (h : w.Live callId) {phase : Option HangupPhase}
    (hhandle : w'.pendingHangupHandle = w.pendingHangupHandle) (htasks : w'.tasks = w.tasks)
    (hthreads : w'.threads = Function.update w.threads t phase)
    (hnot : w.threads t ≠ some (.taskHasPendingHangup callId)) : w'.Live callId := by
  obtain ⟨number, hnumber, htask | ⟨thread, hthread⟩⟩ := h
  · exact ⟨number, hhandle.trans hnumber, .inl (htasks ▸ htask)⟩
  · refine ⟨number, hhandle.trans hnumber, .inr ⟨thread, ?_⟩⟩
    have hne : thread ≠ t := fun heq => hnot (heq ▸ hthread)
    rw [hthreads, Function.update_of_ne hne, hthread]

/-- A thread that is not in the middle goes on outside it, and the tasks stay. -/
theorem Outside.of_thread {phase : Option HangupPhase}
    (hslot : w'.pendingHangup = w.pendingHangup ∧ w'.pendingHangupCallId = w.pendingHangupCallId)
    (hhandle : w'.pendingHangupHandle = w.pendingHangupHandle)
    (hlog : w'.accepted = w.accepted ∧ w'.resolved = w.resolved)
    (htasks : w'.tasks = w.tasks ∧ w'.submitted = w.submitted)
    (hthreads : w'.threads = Function.update w.threads t phase)
    (hold : ∀ p ∈ w.threads t, ¬ p.Busy) (hnew : ∀ p ∈ phase, ¬ p.Busy)
    (hnoted : ∀ callId, w.Noted callId → w.threads t ≠ some (.taskHasPendingHangup callId)) :
    Outside w w' where
  has callId := by rw [HasPendingHangup, HasPendingHangup, hslot.1, hslot.2]
  pendingHangup := hslot.1
  handle := hhandle
  accepted := hlog.1
  resolved := hlog.2
  busy t' p' hp' := by
    rw [hthreads]
    by_cases hne : t' = t
    · rw [hne, Function.update_self]
      exact ⟨fun h => absurd hp' (hnew p' h), fun h => absurd hp' (hold p' h)⟩
    · rw [Function.update_of_ne hne]
  live callId hn hlive := hlive.of_thread hhandle htasks.1 hthreads (hnoted callId hn)
  numbered h := h.of_same htasks.1 htasks.2

/-- A step that no thread takes. -/
theorem Outside.of_same
    (hslot : w'.pendingHangup = w.pendingHangup ∧ w'.pendingHangupCallId = w.pendingHangupCallId)
    (hhandle : w'.pendingHangupHandle = w.pendingHangupHandle)
    (hlog : w'.accepted = w.accepted ∧ w'.resolved = w.resolved)
    (htasks : w'.tasks = w.tasks ∧ w'.submitted = w.submitted)
    (hthreads : w'.threads = w.threads) : Outside w w' where
  has callId := by rw [HasPendingHangup, HasPendingHangup, hslot.1, hslot.2]
  pendingHangup := hslot.1
  handle := hhandle
  accepted := hlog.1
  resolved := hlog.2
  busy t p _ := by rw [hthreads]
  live callId _ hlive := by
    rw [Live, hhandle, htasks.1, hthreads]
    exact hlive
  numbered h := h.of_same htasks.1 htasks.2

/-- The start of a task. It was the one of the handle, or that one stays. -/
theorem Outside.startTask {number : ℕ} {task : ProtectTask} (hn : w.Numbered)
    (htask : w.tasks.find? (fun task => task.number = number) = some task)
    (hthread : w.threads t = none) :
    Outside w ({ w with tasks := w.tasks.filter fun it => it.number ≠ number }.setThread t
      (some (.taskHasPendingHangup task.callId))) where
  has _ := Iff.rfl
  pendingHangup := rfl
  handle := rfl
  accepted := rfl
  resolved := rfl
  busy t' p' hp' := by
    show Function.update w.threads t _ t' = some p' ↔ _
    by_cases hne : t' = t
    · rw [hne, Function.update_self, hthread]
      refine ⟨fun h => ?_, fun h => nomatch h⟩
      rw [← Option.some.inj h] at hp'
      exact hp'.elim
    · rw [Function.update_of_ne hne]
  live callId _ hlive := by
    obtain ⟨m, hm, hmem | ⟨thread, hthread'⟩⟩ := hlive
    · refine ⟨m, hm, ?_⟩
      by_cases hmn : m = number
      · have hnumber : task.number = number := by simpa using List.find?_some htask
        have heq := hn.inj _ hmem task (List.mem_of_find?_eq_some htask) (hmn.trans hnumber.symm)
        refine .inr ⟨t, ?_⟩
        show Function.update w.threads t _ t = _
        rw [Function.update_self, ← heq]
      · exact .inl (List.mem_filter.mpr ⟨hmem, by simpa using hmn⟩)
    · refine ⟨m, hm, .inr ⟨thread, ?_⟩⟩
      have hne : thread ≠ t := by
        intro heq
        rw [heq, hthread] at hthread'
        cases hthread'
      exact (Function.update_of_ne hne _ _).trans hthread'
  numbered h := h.of_tasks List.filter_sublist rfl

theorem Numbered.post (h : w.Numbered) (callId : ℤ) :
    (w.postPendingHangupProtectTask callId).Numbered := by
  unfold postPendingHangupProtectTask
  split_ifs
  · exact h
  · have hlt : ∀ task ∈ w.tasks ++ [⟨w.submitted, callId⟩], task ∈ w.tasks ∨
        task = ⟨w.submitted, callId⟩ := fun task ht => by simpa using ht
    refine ⟨fun task ht => ?_, fun a ha b hb hab => ?_⟩
    · rcases hlt task ht with ht | rfl
      · exact Nat.lt_succ_of_lt (h.lt task ht)
      · exact Nat.lt_succ_self _
    · rcases hlt a ha with ha | rfl <;> rcases hlt b hb with hb | rfl
      · exact h.inj a ha b hb hab
      · exact absurd hab (h.lt a ha).ne
      · exact absurd hab.symm (h.lt b hb).ne
      · rfl

theorem Numbered.remove (h : w.Numbered) : w.removePendingHangupProtectTask.Numbered := by
  unfold removePendingHangupProtectTask
  split
  · exact h
  · exact h.of_tasks List.filter_sublist rfl

/-- With a thread that finds the hang-up noted, it and its task are those of the thread. -/
theorem Ok.noted_live (h : w.Ok) (hquiet : w.Quiet) (hset : w.pendingHangup = true) :
    ∃ callId, w.Noted callId ∧ w.Live callId := by
  refine (h.rest hquiet).resolve_left fun hcleared => ?_
  rw [hcleared.pendingHangup] at hset
  cases hset

theorem Ok.noted_live_of_has (h : w.Ok) (hquiet : w.Quiet) (hhas : w.HasPendingHangup callId) :
    w.Noted callId ∧ w.Live callId := by
  obtain ⟨id, hnoted, hlive⟩ := h.noted_live hquiet hhas.1
  have heq : id = callId := hnoted.has.2.symm.trans hhas.2
  exact heq ▸ ⟨hnoted, hlive⟩

/-- A noted hang-up that is resolved. -/
theorem Noted.resolve (h : w.Noted callId) (resolution : HangupResolution) :
    (w.resolve callId resolution).Settled := by
  intro id
  have hcount := h.count id
  show ((callId, resolution).1 :: w.resolvedIds).count id = w.accepted.count id
  rw [List.count_cons, hcount]
  by_cases hid : id = callId
  · simp [hid]
  · have hne : ¬ callId = id := fun heq => hid heq.symm
    simp [hid, hne]

/-- A hang-up that is noted when all others are resolved. -/
theorem Settled.accept (h : w.Settled) (callId : ℤ) : (w.accept callId).Noted callId := by
  refine ⟨⟨rfl, rfl⟩, fun id => ?_⟩
  show (callId :: w.accepted).count id = w.resolvedIds.count id + _
  rw [List.count_cons, h id]
  by_cases hid : id = callId
  · simp [hid]
  · have hne : ¬ callId = id := fun heq => hid heq.symm
    simp [hid, hne]

theorem removePendingHangupProtectTask_handle (w : HangupWorld) :
    w.removePendingHangupProtectTask.pendingHangupHandle = none := by
  unfold removePendingHangupProtectTask
  split
  · assumption
  · rfl

theorem removePendingHangupProtectTask_same (w : HangupWorld) :
    w.removePendingHangupProtectTask.pendingHangup = w.pendingHangup ∧
      w.removePendingHangupProtectTask.accepted = w.accepted ∧
      w.removePendingHangupProtectTask.resolved = w.resolved ∧
      w.removePendingHangupProtectTask.threads = w.threads := by
  unfold removePendingHangupProtectTask
  split <;> exact ⟨rfl, rfl, rfl, rfl⟩

/-- The next step of a thread that is not in the middle: it stays outside, or
    enters when nobody is there. -/
theorem Ok.next_outside (h : w.Ok) (ht : w.threads t = some p) (hbusy : ¬ p.Busy)
    (hok : w.NextOk p) : Outside w (w.next t p) ∨ Enters w (w.next t p) := by
  have hold : ∀ q ∈ w.threads t, ¬ q.Busy := by
    rw [ht]
    rintro q ⟨rfl⟩
    exact hbusy
  cases p with
  | hangUpSetPendingMo callId | clearSetPendingMo callId =>
    refine .inl (.of_thread ⟨rfl, rfl⟩ rfl ⟨rfl, rfl⟩ ⟨rfl, rfl⟩ rfl hold ?_ ?_)
    · rintro q ⟨rfl⟩ hq
      exact hq
    · intro id _ heq
      rw [ht] at heq
      cases heq
  | hangUpSetPendingHangup callId =>
    obtain ⟨hfree, hquiet⟩ := hok
    have hcleared := (h.rest hquiet).resolve_right fun ⟨id, hnoted, _⟩ => by
      rw [hnoted.has.1] at hfree
      cases hfree
    refine .inr ⟨hquiet, rfl, h.numbered.of_same rfl rfl, t, _, rfl, trivial, ?_, hcleared.handle⟩
    exact (hcleared.settled.accept callId).of_same rfl rfl rfl rfl
  | clearHasPendingHangup callId =>
    by_cases hhas : w.HasPendingHangup callId
    · have hquiet := hok hhas
      have hnoted := h.noted_live_of_has hquiet hhas
      rw [HangupWorld.next, if_pos hhas]
      refine .inr ⟨hquiet, rfl, h.numbered.of_same rfl rfl, t, _, rfl, trivial, ?_, ?_⟩
      · exact hnoted.1.of_same rfl rfl rfl rfl
      · refine hnoted.2.of_thread rfl rfl rfl fun heq => ?_
        rw [ht] at heq
        cases heq
    · rw [HangupWorld.next, if_neg hhas]
      refine .inl (.of_thread ⟨rfl, rfl⟩ rfl ⟨rfl, rfl⟩ ⟨rfl, rfl⟩ rfl hold ?_ ?_)
      · rintro q ⟨⟩
      · intro id _ heq
        rw [ht] at heq
        cases heq
  | taskHasPendingHangup callId =>
    by_cases hhas : w.HasPendingHangup callId
    · have hquiet := hok hhas
      rw [HangupWorld.next, if_pos hhas]
      have hnoted := (h.noted_live_of_has hquiet hhas).1
      refine .inr ⟨hquiet, rfl, h.numbered.of_same rfl rfl, t, _, rfl, trivial, ?_⟩
      exact hnoted.of_same rfl rfl rfl rfl
    · rw [HangupWorld.next, if_neg hhas]
      refine .inl (.of_thread ⟨rfl, rfl⟩ rfl ⟨rfl, rfl⟩ ⟨rfl, rfl⟩ rfl hold ?_ ?_)
      · rintro q ⟨⟩
      · intro id hnoted heq
        rw [ht] at heq
        cases heq
        exact hhas hnoted.has
  | hangUpPost _ | clearHangUpCall _ | holdingGetPendingHangupCallId | holdingDisconnect _
  | resetPendingHangup | removeProtectTask | taskDealFailDial _ | taskResetPendingHangup
  | taskResetHandle => exact absurd trivial hbusy

/-- The next step of the thread that is in the middle. -/
theorem Ok.next_inside (h : w.Ok) (ht : w.threads t = some p) (hbusy : p.Busy)
    (hok : w.NextOk p) : (w.next t p).Ok := by
  have halone := h.alone ht hbusy
  have hphase := h.phase t p ht
  cases p with
  | hangUpPost callId =>
    obtain ⟨hnoted, hhandle⟩ := hphase
    have hpost : w.postPendingHangupProtectTask callId =
        { w with
          pendingHangupHandle := some w.submitted
          tasks := w.tasks ++ [⟨w.submitted, callId⟩]
          submitted := w.submitted + 1 } := if_neg fun hne => hne hhandle
    have hnumbered := h.numbered.post callId
    rw [HangupWorld.next]
    rw [hpost] at hnumbered ⊢
    refine Ok.leave halone rfl (.inr ⟨callId, ?_, ?_⟩) (hnumbered.of_same rfl rfl)
    · exact hnoted.of_same rfl rfl rfl rfl
    · exact ⟨w.submitted, rfl, .inl (List.mem_append_right _ List.mem_cons_self)⟩
  | clearHangUpCall callId =>
    have hnot : callId ∉ w.ended := hok
    rw [HangupWorld.next, if_neg hnot]
    have hsettled := hphase.1.resolve .hangUpCall
    exact Ok.inside halone rfl trivial hsettled (h.numbered.of_same rfl rfl)
  | holdingGetPendingHangupCallId =>
    obtain ⟨callId, hnoted, hlive⟩ := hphase
    have hget : w.getPendingHangupCallId = callId := by
      rw [getPendingHangupCallId, if_pos hnoted.has.1]
      exact hnoted.has.2
    rw [HangupWorld.next, hget]
    refine Ok.inside halone rfl trivial ⟨?_, ?_⟩ (h.numbered.of_same rfl rfl)
    · exact hnoted.of_same rfl rfl rfl rfl
    · refine hlive.of_thread rfl rfl rfl fun heq => ?_
      rw [ht] at heq
      cases heq
  | holdingDisconnect callId =>
    have hstored : callId ∈ w.stored := hok
    rw [HangupWorld.next, if_pos hstored]
    have hsettled := hphase.1.resolve .disconnected
    exact Ok.inside halone rfl trivial hsettled (h.numbered.of_same rfl rfl)
  | resetPendingHangup | taskResetPendingHangup =>
    have hsettled : w.Settled := hphase
    exact Ok.inside halone rfl trivial ⟨hsettled, rfl⟩ (h.numbered.of_same rfl rfl)
  | removeProtectTask =>
    obtain ⟨hset, haccepted, hresolved, hthreads⟩ := removePendingHangupProtectTask_same w
    have hreturn : (w.next t .removeProtectTask).threads = Function.update w.threads t none := by
      show Function.update w.removePendingHangupProtectTask.threads t none = _
      rw [hthreads]
    refine Ok.leave halone hreturn (.inl ⟨?_, ?_, ?_⟩) ?_
    · intro id
      show (w.removePendingHangupProtectTask.resolved.map Prod.fst).count id =
        w.removePendingHangupProtectTask.accepted.count id
      rw [haccepted, hresolved]
      exact hphase.1 id
    · exact hset.trans hphase.2
    · exact removePendingHangupProtectTask_handle w
    · exact h.numbered.remove.of_same rfl rfl
  | taskDealFailDial callId =>
    have hstored : callId ∈ w.stored := hok
    rw [HangupWorld.next, if_pos hstored]
    have hnoted : w.Noted callId := hphase
    have hsettled := hnoted.resolve .dealFailDial
    exact Ok.inside halone rfl trivial hsettled (h.numbered.of_same rfl rfl)
  | taskResetHandle =>
    obtain ⟨hsettled, hset⟩ := hphase
    exact Ok.leave halone rfl (.inl ⟨hsettled, hset, rfl⟩) (h.numbered.of_same rfl rfl)
  | hangUpSetPendingMo _ | hangUpSetPendingHangup _ | clearSetPendingMo _
  | clearHasPendingHangup _ | taskHasPendingHangup _ => exact hbusy.elim

theorem hangupStep_next (ht : w.threads t = some p) : hangupStep w (.next t) = w.next t p := by
  rw [CallManager.hangupStep, ht]

/-- What an operation does: it stays outside the middle, or a thread enters it
    when nobody is there, or the thread that is in it goes on. -/
theorem Ok.step_cases (h : w.Ok) {op : HangupOp} (hok : w.StepOk op) :
    Outside w (hangupStep w op) ∨ Enters w (hangupStep w op) ∨
      ∃ t p, op = .next t ∧ w.threads t = some p ∧ p.Busy := by
  have hsame : Outside w w := .of_same ⟨rfl, rfl⟩ rfl ⟨rfl, rfl⟩ ⟨rfl, rfl⟩ rfl
  have hstart : ∀ thread phase, w.threads thread = none → ¬ HangupPhase.Busy phase →
      Outside w (w.setThread thread (some phase)) := by
    intro thread phase hidle hphase
    refine .of_thread ⟨rfl, rfl⟩ rfl ⟨rfl, rfl⟩ ⟨rfl, rfl⟩ rfl ?_ ?_ ?_
    · rw [hidle]
      rintro q ⟨⟩
    · rintro q ⟨rfl⟩
      exact hphase
    · rw [hidle]
      rintro id - ⟨⟩
  unfold hangupStep
  cases op with
  | dial _ | addOneCallObject _ | deleteOneCallObject _ | endCall _ =>
    exact .inl (.of_same ⟨rfl, rfl⟩ rfl ⟨rfl, rfl⟩ ⟨rfl, rfl⟩ rfl)
  | hangUpCall thread callId =>
    dsimp only
    split_ifs with hcond
    · exact .inl (hstart thread _ hcond.1 fun hbusy => hbusy)
    · exact .inl hsame
  | clearPendingState thread callId =>
    dsimp only
    split_ifs with hidle hmo
    · exact .inl (hstart thread _ hidle fun hbusy => hbusy)
    · exact .inl (hstart thread _ hidle fun hbusy => hbusy)
    · exact .inl hsame
  | handleDialWhenHolding thread =>
    dsimp only
    split_ifs with hcond
    · obtain ⟨hidle, hset⟩ := hcond
      have hquiet := hok hidle hset
      obtain ⟨callId, hnoted, hlive⟩ := h.noted_live hquiet hset.1
      refine .inr (.inl ⟨hquiet, rfl, h.numbered.of_same rfl rfl, thread, _, rfl, trivial, callId,
        ?_, ?_⟩)
      · exact hnoted.of_same rfl rfl rfl rfl
      · refine hlive.of_thread rfl rfl rfl fun heq => ?_
        rw [hidle] at heq
        cases heq
    · exact .inl hsame
  | startTask thread number =>
    dsimp only
    split
    · exact .inl hsame
    · rename_i task htask
      split_ifs with hidle
      · exact .inl (.startTask h.numbered htask hidle)
      · exact .inl hsame
  | next thread =>
    dsimp only
    split
    · exact .inl hsame
    · rename_i phase hthread
      by_cases hbusy : phase.Busy
      · exact .inr (.inr ⟨thread, phase, rfl, hthread, hbusy⟩)
      · rcases h.next_outside hthread hbusy (hok phase hthread) with houtside | henters
        · exact .inl houtside
        · exact .inr (.inl henters)

/-- What an operation keeps. -/
theorem Ok.hangupStep (h : w.Ok) {op : HangupOp} (hok : w.StepOk op) : (hangupStep w op).Ok := by
  rcases h.step_cases hok with houtside | henters | ⟨t, p, rfl, ht, hbusy⟩
  · exact h.outside houtside
  · exact henters.ok
  · rw [hangupStep_next ht]
    exact h.next_inside ht hbusy (hok p ht)

/-! ### What must happen -/

/-- The thread is about to resolve the noted hang-up. -/
def Resolving (w : HangupWorld) (t : ℕ) : Prop :=
  ∃ callId, w.threads t = some (.clearHangUpCall callId) ∨
    w.threads t = some (.holdingDisconnect callId) ∨ w.threads t = some (.taskDealFailDial callId)

/-- Some thread is about to resolve the noted hang-up, or to look it up for that. -/
def Taken (w : HangupWorld) : Prop :=
  ∃ t, w.Resolving t ∨ w.threads t = some .holdingGetPendingHangupCallId

/-- The hang-up of this call id is noted, with this handle, and no thread is in the middle. -/
structure Waiting (w : HangupWorld) (task : ProtectTask) : Prop where
  quiet : w.Quiet
  noted : w.Noted task.callId
  handle : w.pendingHangupHandle = some task.number

@[simp] theorem setThread_threads_self (w : HangupWorld) (t : ℕ) (phase : Option HangupPhase) :
    (w.setThread t phase).threads t = phase := Function.update_self ..

theorem setThread_threads_of_ne {t' : ℕ} (hne : t' ≠ t) (phase : Option HangupPhase) :
    (w.setThread t phase).threads t' = w.threads t' := Function.update_of_ne hne ..

/-- Another thread stays where it is. -/
theorem next_threads_of_ne {t' : ℕ} (hne : t' ≠ t) (p : HangupPhase) :
    (w.next t p).threads t' = w.threads t' := by
  cases p with
  | hangUpPost callId =>
    refine (setThread_threads_of_ne hne _).trans ?_
    unfold postPendingHangupProtectTask
    split_ifs <;> rfl
  | clearHangUpCall callId | holdingDisconnect callId | taskDealFailDial callId =>
    refine (setThread_threads_of_ne hne _).trans ?_
    split_ifs <;> rfl
  | removeProtectTask =>
    refine (setThread_threads_of_ne hne _).trans ?_
    rw [(removePendingHangupProtectTask_same w).2.2.2]
  | hangUpSetPendingMo _ | hangUpSetPendingHangup _ | clearSetPendingMo _
  | clearHasPendingHangup _ | holdingGetPendingHangupCallId | resetPendingHangup
  | taskHasPendingHangup _ | taskResetPendingHangup | taskResetHandle =>
    exact setThread_threads_of_ne hne _

/-- A thread that is in an operation stays where it is until it goes on. -/
theorem hangupStep_threads (ht : w.threads t = some p) (op : HangupOp) :
    (hangupStep w op).threads t = some p ∨ op = .next t := by
  have hne : ∀ t', w.threads t' = none → t ≠ t' := by
    rintro t' ht' rfl
    rw [ht] at ht'
    cases ht'
  cases op with
  | dial _ | addOneCallObject _ | deleteOneCallObject _ | endCall _ => exact .inl ht
  | hangUpCall thread callId =>
    refine .inl ?_
    unfold CallManager.hangupStep
    dsimp only
    split_ifs with hstart
    · exact (setThread_threads_of_ne (hne thread hstart.1) _).trans ht
    · exact ht
  | clearPendingState thread callId =>
    refine .inl ?_
    unfold CallManager.hangupStep
    dsimp only
    by_cases hidle : w.threads thread = none
    · rw [if_pos hidle]
      exact (setThread_threads_of_ne (hne thread hidle) _).trans ht
    · rw [if_neg hidle]
      exact ht
  | handleDialWhenHolding thread =>
    refine .inl ?_
    unfold CallManager.hangupStep
    dsimp only
    split_ifs with hstart
    · exact (setThread_threads_of_ne (hne thread hstart.1) _).trans ht
    · exact ht
  | startTask thread number =>
    refine .inl ?_
    unfold CallManager.hangupStep
    dsimp only
    split
    · exact ht
    · split_ifs with hidle
      · exact (setThread_threads_of_ne (hne thread hidle) _).trans ht
      · exact ht
  | next thread =>
    by_cases heq : thread = t
    · exact .inr (heq ▸ rfl)
    refine .inl ?_
    unfold CallManager.hangupStep
    dsimp only
    split
    · exact ht
    · exact (next_threads_of_ne (Ne.symm heq) _).trans ht

/-- The thread that is about to resolve the hang-up does. -/
theorem Ok.settled_of_resolving (h : w.Ok) (hres : w.Resolving t) (hok : w.StepOk (.next t)) :
    (CallManager.hangupStep w (.next t)).Settled := by
  obtain ⟨callId, ht | ht | ht⟩ := hres
  · have hphase := h.phase t _ ht
    have hnot : callId ∉ w.ended := hok _ ht
    rw [hangupStep_next ht, HangupWorld.next, if_neg hnot]
    exact hphase.1.resolve .hangUpCall
  · have hphase := h.phase t _ ht
    have hstored : callId ∈ w.stored := hok _ ht
    rw [hangupStep_next ht, HangupWorld.next, if_pos hstored]
    exact hphase.1.resolve .disconnected
  · have hnoted : w.Noted callId := h.phase t _ ht
    have hstored : callId ∈ w.stored := hok _ ht
    rw [hangupStep_next ht, HangupWorld.next, if_pos hstored]
    exact hnoted.resolve .dealFailDial

/-- A quiet step of a state that waits for its task: it goes on waiting with
    the same task, or a thread takes the hang-up. -/
theorem Ok.waiting_step (h : w.Ok) {task : ProtectTask} (hw : w.Waiting task) {op : HangupOp}
    (hok : w.StepOk op) :
    (CallManager.hangupStep w op).Waiting task ∨ (CallManager.hangupStep w op).Taken := by
  rcases h.step_cases hok with ho | henters | ⟨t, p, rfl, ht, hbusy⟩
  · exact .inl ⟨ho.quiet.mpr hw.quiet, ho.noted.mpr hw.noted, ho.handle.trans hw.handle⟩
  · obtain ⟨t, p, hthreads, hentry, hphase⟩ := henters.thread
    have ht : (CallManager.hangupStep w op).threads t = some p := by
      rw [hthreads, Function.update_self]
    refine .inr ⟨t, ?_⟩
    cases p with
    | hangUpPost callId =>
      have hhandle := henters.handle.trans hw.handle
      rw [hphase.2] at hhandle
      cases hhandle
    | clearHangUpCall callId => exact .inl ⟨callId, .inl ht⟩
    | taskDealFailDial callId => exact .inl ⟨callId, .inr (.inr ht)⟩
    | holdingGetPendingHangupCallId => exact .inr ht
    | hangUpSetPendingMo _ | hangUpSetPendingHangup _ | clearSetPendingMo _
    | clearHasPendingHangup _ | holdingDisconnect _ | resetPendingHangup | removeProtectTask
    | taskHasPendingHangup _ | taskResetPendingHangup | taskResetHandle => exact hentry.elim
  · exact absurd hbusy (hw.quiet t p ht)

/-- The task of a hang-up that waits has not started, or has. -/
theorem Ok.task_of_waiting (h : w.Ok) {task : ProtectTask} (hw : w.Waiting task) :
    task ∈ w.tasks ∨ ∃ t, w.threads t = some (.taskHasPendingHangup task.callId) := by
  obtain ⟨-, number, hnumber, hlive⟩ := h.noted_live_of_has hw.quiet hw.noted.has
  rw [hw.handle] at hnumber
  have hnumber' : number = task.number := (Option.some.inj hnumber).symm
  rcases hlive with htask | hthread
  · rw [hnumber'] at htask
    exact .inl htask
  · exact .inr hthread

/-- At any time all hang-ups are resolved, or the one that is not is taken, is
    being posted, or waits for its task. -/
theorem Ok.stages (h : w.Ok) :
    w.Settled ∨ w.Taken ∨ (∃ t callId, w.threads t = some (.hangUpPost callId)) ∨
      ∃ task, w.Waiting task := by
  by_cases hquiet : w.Quiet
  · rcases h.rest hquiet with hcleared | ⟨callId, hnoted, number, hnumber, -⟩
    · exact .inl hcleared.settled
    · exact .inr (.inr (.inr ⟨⟨number, callId⟩, hquiet, hnoted, hnumber⟩))
  · unfold Quiet at hquiet
    push Not at hquiet
    obtain ⟨t, p, ht, hbusy⟩ := hquiet
    have hphase := h.phase t p ht
    cases p with
    | hangUpPost callId => exact .inr (.inr (.inl ⟨t, callId, ht⟩))
    | clearHangUpCall callId => exact .inr (.inl ⟨t, .inl ⟨callId, .inl ht⟩⟩)
    | holdingDisconnect callId => exact .inr (.inl ⟨t, .inl ⟨callId, .inr (.inl ht)⟩⟩)
    | taskDealFailDial callId => exact .inr (.inl ⟨t, .inl ⟨callId, .inr (.inr ht)⟩⟩)
    | holdingGetPendingHangupCallId => exact .inr (.inl ⟨t, .inr ht⟩)
    | resetPendingHangup | taskResetPendingHangup => exact .inl hphase
    | removeProtectTask | taskResetHandle => exact .inl hphase.1
    | hangUpSetPendingMo _ | hangUpSetPendingHangup _ | clearSetPendingMo _
    | clearHasPendingHangup _ | taskHasPendingHangup _ => exact hbusy.elim

section Fair

open Run

variable {ops : ℕ → HangupOp}

/-- A thread goes on from where it is. -/
theorem goes_on (hfair : HangupFair w ops) {n : ℕ}
    (ht : (stateAt CallManager.hangupStep w ops n).threads t = some p) :
    ∃ m, n ≤ m + 1 ∧ (stateAt CallManager.hangupStep w ops m).threads t = some p ∧
      ops m = .next t := by
  let Q : ℕ → Prop := fun m => ∃ k, m = k + 1 ∧
    (stateAt CallManager.hangupStep w ops k).threads t = some p ∧ ops k = .next t
  have hleads : LeadsTo (fun m => (stateAt CallManager.hangupStep w ops m).threads t = some p) Q := by
    refine .of_unless (fun m hm => ?_) (fun m hm => ?_)
    · rcases hangupStep_threads hm (ops m) with hstay | hnext
      · exact .inl hstay
      · exact .inr ⟨m, rfl, hm, hnext⟩
    · obtain ⟨k, hk, hnext⟩ := hfair.thread m t (by rw [hm]; exact Option.some_ne_none p)
      exact ⟨k, hk, fun hstay => ⟨k, rfl, hstay, hnext⟩⟩
  obtain ⟨m, hm, k, rfl, hk⟩ := hleads n ht
  exact ⟨k, hm, hk⟩

variable (hw : w.Ok) (hops : ∀ n, (stateAt CallManager.hangupStep w ops n).StepOk (ops n))
  (hfair : HangupFair w ops)

include hw hops in
theorem Ok.stateAt (n : ℕ) : (stateAt CallManager.hangupStep w ops n).Ok :=
  stateAt_of_invariant (fun _ _ h hok => h.hangupStep hok) hw hops n

include hw hops hfair

theorem resolving_leadsTo_settled (t : ℕ) :
    LeadsTo (fun n => (stateAt CallManager.hangupStep w ops n).Resolving t)
      fun n => (stateAt CallManager.hangupStep w ops n).Settled := by
  rintro n ⟨callId, hthread⟩
  have hstep : ∃ m, n ≤ m + 1 ∧ (stateAt CallManager.hangupStep w ops m).Resolving t ∧
      ops m = .next t := by
    rcases hthread with ht | ht | ht
    · obtain ⟨m, hm, ht', hnext⟩ := goes_on hfair ht
      exact ⟨m, hm, ⟨callId, .inl ht'⟩, hnext⟩
    · obtain ⟨m, hm, ht', hnext⟩ := goes_on hfair ht
      exact ⟨m, hm, ⟨callId, .inr (.inl ht')⟩, hnext⟩
    · obtain ⟨m, hm, ht', hnext⟩ := goes_on hfair ht
      exact ⟨m, hm, ⟨callId, .inr (.inr ht')⟩, hnext⟩
  obtain ⟨m, hm, hres, hnext⟩ := hstep
  have hok := hops m
  have hsettled := (hw.stateAt hops m).settled_of_resolving hres (hnext ▸ hok)
  refine ⟨m + 1, hm, ?_⟩
  show (Run.stateAt CallManager.hangupStep w ops (m + 1)).Settled
  rw [stateAt_succ, hnext]
  exact hsettled

theorem taken_leadsTo_settled :
    LeadsTo (fun n => (stateAt CallManager.hangupStep w ops n).Taken)
      fun n => (stateAt CallManager.hangupStep w ops n).Settled := by
  rintro n ⟨t, hres | ht⟩
  · exact resolving_leadsTo_settled hw hops hfair t n hres
  · obtain ⟨m, hm, ht', hnext⟩ := goes_on hfair ht
    have hres : (stateAt CallManager.hangupStep w ops (m + 1)).Resolving t := by
      refine ⟨(stateAt CallManager.hangupStep w ops m).getPendingHangupCallId, .inr (.inl ?_)⟩
      rw [stateAt_succ, hnext, hangupStep_next ht']
      exact Function.update_self ..
    obtain ⟨k, hk, hsettled⟩ := resolving_leadsTo_settled hw hops hfair t (m + 1) hres
    exact ⟨k, hm.trans hk, hsettled⟩

/-- The task that has started finds the hang-up, if nobody has taken it. -/
theorem started_leadsTo_taken (task : ProtectTask) (t : ℕ) :
    LeadsTo (fun n => (stateAt CallManager.hangupStep w ops n).Waiting task ∧
        (stateAt CallManager.hangupStep w ops n).threads t =
          some (.taskHasPendingHangup task.callId))
      fun n => (stateAt CallManager.hangupStep w ops n).Taken := by
  have hfinds : ∀ n, (stateAt CallManager.hangupStep w ops n).Waiting task →
      (stateAt CallManager.hangupStep w ops n).threads t =
        some (.taskHasPendingHangup task.callId) → ops n = .next t →
      (stateAt CallManager.hangupStep w ops (n + 1)).Taken := by
    intro n hwait ht hnext
    refine ⟨t, .inl ⟨task.callId, .inr (.inr ?_)⟩⟩
    rw [stateAt_succ, hnext, hangupStep_next ht, HangupWorld.next, if_pos hwait.noted.has]
    exact Function.update_self ..
  refine .of_unless (fun n ⟨hwait, ht⟩ => ?_) (fun n ⟨hwait, ht⟩ => ?_)
  · rcases hangupStep_threads ht (ops n) with hstay | hnext
    · rcases (hw.stateAt hops n).waiting_step hwait (hops n) with hwait' | htaken
      · exact .inl ⟨hwait', hstay⟩
      · exact .inr htaken
    · exact .inr (hfinds n hwait ht hnext)
  · obtain ⟨m, hm, hnext⟩ := hfair.thread n t (by rw [ht]; exact Option.some_ne_none _)
    exact ⟨m, hm, fun ⟨hwait', ht'⟩ => hfinds m hwait' ht' hnext⟩

/-- A hang-up that waits for its task is taken, by the task or before. -/
theorem waiting_leadsTo_taken (task : ProtectTask) :
    LeadsTo (fun n => (stateAt CallManager.hangupStep w ops n).Waiting task)
      fun n => (stateAt CallManager.hangupStep w ops n).Taken := by
  let P : ℕ → Prop := fun n => (stateAt CallManager.hangupStep w ops n).Waiting task ∧
    task ∈ (stateAt CallManager.hangupStep w ops n).tasks
  let Q : ℕ → Prop := fun n => (stateAt CallManager.hangupStep w ops n).Taken ∨
    ∃ t, (stateAt CallManager.hangupStep w ops n).Waiting task ∧
      (stateAt CallManager.hangupStep w ops n).threads t =
        some (.taskHasPendingHangup task.callId)
  have hcases : ∀ n, (stateAt CallManager.hangupStep w ops n).Waiting task → P n ∨ Q n := by
    intro n hwait
    rcases (hw.stateAt hops n).task_of_waiting hwait with htask | ⟨t, ht⟩
    · exact .inl ⟨hwait, htask⟩
    · exact .inr (.inr ⟨t, hwait, ht⟩)
  have hsubmitted : LeadsTo P Q := by
    refine .of_unless (fun n ⟨hwait, _⟩ => ?_) (fun n ⟨_, htask⟩ => ?_)
    · rcases (hw.stateAt hops n).waiting_step hwait (hops n) with hwait' | htaken
      · exact hcases (n + 1) hwait'
      · exact .inr (.inl htaken)
    · obtain ⟨m, hm, hnot⟩ := hfair.task n task htask
      exact ⟨m, hm, fun ⟨_, htask'⟩ => absurd htask' hnot⟩
  have hstarted : LeadsTo Q fun n => (stateAt CallManager.hangupStep w ops n).Taken :=
    (LeadsTo.of_imp fun _ h => h).or (.exists (started_leadsTo_taken hw hops hfair task))
  intro n hwait
  rcases hcases n hwait with hP | hQ
  · exact hsubmitted.trans hstarted n hP
  · exact hstarted n hQ

/-- `HangUpCall` submits the task. -/
theorem posting_leadsTo_waiting {callId : ℤ} :
    LeadsTo (fun n => (stateAt CallManager.hangupStep w ops n).threads t = some (.hangUpPost callId))
      fun n => ∃ task, (stateAt CallManager.hangupStep w ops n).Waiting task := by
  intro n ht
  obtain ⟨m, hm, ht', hnext⟩ := goes_on hfair ht
  refine ⟨m + 1, hm, ?_⟩
  have hok := hw.stateAt hops m
  have halone := hok.alone ht' trivial
  obtain ⟨hnoted, hhandle⟩ := hok.phase t _ ht'
  show ∃ task, (Run.stateAt CallManager.hangupStep w ops (m + 1)).Waiting task
  rw [stateAt_succ, hnext, hangupStep_next ht', HangupWorld.next, postPendingHangupProtectTask,
    if_neg fun hne => hne hhandle]
  refine ⟨⟨_, callId⟩, fun t' p' ht'' => ?_, hnoted.of_same rfl rfl rfl rfl, rfl⟩
  by_cases hne : t' = t
  · rw [hne] at ht''
    rw [setThread_threads_self] at ht''
    cases ht''
  · exact halone t' p' hne ((setThread_threads_of_ne hne none).symm.trans ht'')

/-- In a fair run there is always a later time at which all hang-ups are resolved. -/
theorem leadsTo_settled :
    LeadsTo (fun _ => True) fun n => (stateAt CallManager.hangupStep w ops n).Settled := by
  have htaken := taken_leadsTo_settled hw hops hfair
  have hwaiting := (LeadsTo.exists (waiting_leadsTo_taken hw hops hfair)).trans htaken
  intro n _
  rcases (hw.stateAt hops n).stages with h | h | ⟨t, callId, h⟩ | h
  · exact ⟨n, Nat.le_refl n, h⟩
  · exact htaken n h
  · exact (posting_leadsTo_waiting hw hops hfair).trans hwaiting n h
  · exact hwaiting n h

end Fair

theorem next_accepted (w : HangupWorld) (t : ℕ) (p : HangupPhase) (callId : ℤ) :
    w.accepted.count callId ≤ (w.next t p).accepted.count callId := by
  cases p with
  | hangUpSetPendingHangup id => exact (List.sublist_cons_self id w.accepted).count_le callId
  | hangUpPost id =>
    rw [HangupWorld.next, postPendingHangupProtectTask]
    split_ifs <;> exact Nat.le_refl _
  | clearHangUpCall id | holdingDisconnect id | taskDealFailDial id =>
    rw [HangupWorld.next]
    split_ifs <;> exact Nat.le_refl _
  | removeProtectTask =>
    have hsame := (removePendingHangupProtectTask_same w).2.1
    exact (congrArg (List.count callId) hsame).ge
  | hangUpSetPendingMo _ | clearSetPendingMo _ | clearHasPendingHangup _
  | holdingGetPendingHangupCallId | resetPendingHangup | taskHasPendingHangup _
  | taskResetPendingHangup | taskResetHandle => exact Nat.le_refl _

/-- The record of the hang-ups only grows. -/
theorem hangupStep_accepted (w : HangupWorld) (op : HangupOp) (callId : ℤ) :
    w.accepted.count callId ≤ (hangupStep w op).accepted.count callId := by
  unfold CallManager.hangupStep
  cases op with
  | dial _ | addOneCallObject _ | deleteOneCallObject _ | endCall _ => exact Nat.le_refl _
  | hangUpCall _ _ | clearPendingState _ _ | handleDialWhenHolding _ =>
    dsimp only
    split_ifs <;> exact Nat.le_refl _
  | startTask _ _ =>
    dsimp only
    split
    · exact Nat.le_refl _
    · split_ifs <;> exact Nat.le_refl _
  | next thread =>
    dsimp only
    split
    · exact Nat.le_refl _
    · exact next_accepted w thread _ callId

end HangupWorld

/-! ## The operations of the status reports -/

namespace HangupWorld

/-- The fields of `CallRequestEventHandlerHelper` are those of the service. -/
structure Shows (h : HangupWorld) (w : StatusWorld) : Prop where
  pendingMo : h.pendingMo = w.pendingMo
  pendingMoCallId : h.pendingMoCallId = w.pendingMoCallId
  pendingHangup : h.pendingHangup = w.pendingHangup
  pendingHangupCallId : h.pendingHangupCallId = w.pendingHangupCallId

variable {h : HangupWorld} {w : StatusWorld} {t : ℕ}

theorem hangupStep_next_none (ht : h.threads t = none) : hangupStep h (.next t) = h := by
  rw [hangupStep, ht]

theorem Shows.setThread (hs : h.Shows w) (t : ℕ) (phase : Option HangupPhase) :
    (h.setThread t phase).Shows w := ⟨hs.1, hs.2, hs.3, hs.4⟩

theorem Shows.remove (hs : h.Shows w) : h.removePendingHangupProtectTask.Shows w := by
  unfold removePendingHangupProtectTask
  split
  · exact hs
  · exact ⟨hs.1, hs.2, hs.3, hs.4⟩

theorem Shows.hasPendingMo (hs : h.Shows w) (callId : ℤ) :
    h.HasPendingMo callId ↔ w.pendingMo = true ∧ w.pendingMoCallId = callId := by
  rw [HasPendingMo, hs.pendingMo, hs.pendingMoCallId]

theorem Shows.hasPendingHangup (hs : h.Shows w) (callId : ℤ) :
    h.HasPendingHangup callId ↔ w.pendingHangup = true ∧ w.pendingHangupCallId = callId := by
  rw [HasPendingHangup, hs.pendingHangup, hs.pendingHangupCallId]

theorem Shows.isPendingHangup (hs : h.Shows w) :
    h.IsPendingHangup ↔ w.pendingHangup = true ∧ w.pendingHangupCallId ≠ -1 := by
  rw [IsPendingHangup, hs.pendingHangup, hs.pendingHangupCallId]

/-- `SetPendingHangup(false, -1)` and `RemovePendingHangupProtectTask`. -/
theorem reset_shows (hs : h.Shows w) (ht : h.threads t = some .resetPendingHangup) :
    (Run.run hangupStep h [.next t, .next t]).Shows
      { w with pendingHangup := false, pendingHangupCallId := -1 } := by
  rw [Run.run_cons, hangupStep_next ht, HangupWorld.next, Run.run_cons,
    hangupStep_next (setThread_threads_self ..), HangupWorld.next]
  refine Shows.setThread (Shows.remove ?_) t none
  exact ⟨hs.1, hs.2, rfl, rfl⟩

/-- `ClearPendingState` from its test of the hang-up on. -/
theorem clearHasPendingHangup_shows (hs : h.Shows w) {callId : ℤ}
    (ht : h.threads t = some (.clearHasPendingHangup callId)) :
    (Run.run hangupStep h [.next t, .next t, .next t, .next t]).Shows
      (if w.pendingHangup = true ∧ w.pendingHangupCallId = callId then
        { w with pendingHangup := false, pendingHangupCallId := -1 }
      else w) := by
  rw [Run.run_cons, hangupStep_next ht, HangupWorld.next]
  by_cases hhas : h.HasPendingHangup callId
  · rw [if_pos hhas, if_pos ((hs.hasPendingHangup callId).mp hhas), Run.run_cons,
      hangupStep_next (setThread_threads_self ..), HangupWorld.next]
    refine reset_shows (Shows.setThread ?_ t _) (setThread_threads_self ..)
    split_ifs <;> exact ⟨hs.1, hs.2, hs.3, hs.4⟩
  · have hidle := hangupStep_next_none (setThread_threads_self h t none)
    rw [if_neg hhas, if_neg fun hw => hhas ((hs.hasPendingHangup callId).mpr hw)]
    simp only [Run.run_cons, Run.run_nil, hidle]
    exact hs.setThread t none

/-- `ClearPendingState`, uninterrupted, is that of the status reports. -/
theorem clearPendingState_shows (hs : h.Shows w) (ht : h.threads t = none) (call : Ref) :
    ∃ n, (Run.run hangupStep h
      (.clearPendingState t (w.object call).callId :: List.replicate n (.next t))).Shows
        (w.clearPendingState call) := by
  unfold StatusWorld.clearPendingState
  dsimp only
  by_cases hhas : h.HasPendingMo (w.object call).callId
  · refine ⟨5, ?_⟩
    rw [if_pos ((hs.hasPendingMo _).mp hhas), Run.run_cons, hangupStep, if_pos ht, if_pos hhas,
      List.replicate_succ, Run.run_cons, hangupStep_next (setThread_threads_self ..),
      HangupWorld.next]
    refine clearHasPendingHangup_shows (Shows.setThread ?_ t _) (setThread_threads_self ..)
    exact ⟨rfl, rfl, hs.3, hs.4⟩
  · refine ⟨4, ?_⟩
    rw [if_neg fun hw => hhas ((hs.hasPendingMo _).mpr hw), Run.run_cons, hangupStep, if_pos ht,
      if_neg hhas]
    exact clearHasPendingHangup_shows (hs.setThread t _) (setThread_threads_self ..)

/-- The note of a dialed call is that of the status reports. -/
theorem dial_shows (hs : h.Shows w) (ins : Insertion) (env : StatusEnv) (callId : ℤ) :
    (hangupStep h (.dial callId)).Shows (statusAction ins env w (.setPendingMo callId)) :=
  ⟨rfl, rfl, hs.3, hs.4⟩

/-- `HangUpCall` of a call that is noted, uninterrupted, is that of the runs of status reports. -/
theorem hangUpCall_shows (hs : h.Shows w) (ht : h.threads t = none) (callId : ℤ) :
    (Run.run hangupStep h [.hangUpCall t callId, .next t, .next t, .next t]).Shows
      (w.hangUpPendingCall callId) := by
  unfold StatusWorld.hangUpPendingCall
  rw [Run.run_cons, hangupStep]
  by_cases hhas : h.HasPendingMo callId
  · rw [if_pos ((hs.hasPendingMo callId).mp hhas), if_pos ⟨ht, hhas⟩, Run.run_cons,
      hangupStep_next (setThread_threads_self ..), HangupWorld.next, Run.run_cons,
      hangupStep_next (setThread_threads_self ..), HangupWorld.next, Run.run_cons,
      hangupStep_next (setThread_threads_self ..), HangupWorld.next]
    refine Shows.setThread ?_ t none
    unfold postPendingHangupProtectTask
    split_ifs <;> exact ⟨rfl, rfl, rfl, rfl⟩
  · rw [if_neg fun hw => hhas ((hs.hasPendingMo callId).mpr hw), if_neg fun hstart => hhas hstart.2]
    simp only [Run.run_cons, Run.run_nil, hangupStep_next_none ht]
    exact hs

/-- `UpdateCallState` leaves the note of a dialed call alone. -/
theorem updateCallState_pendingMo (w : StatusWorld) (call : Ref) (nextState : TelCallState) :
    (w.updateCallState call nextState).pendingMo = w.pendingMo ∧
      (w.updateCallState call nextState).pendingMoCallId = w.pendingMoCallId := by
  unfold StatusWorld.updateCallState
  split
  · exact ⟨rfl, rfl⟩
  · unfold StatusWorld.updateOneCallObjectByCallId
    dsimp only
    generalize (w.setTelCallState call nextState).store.callObjectPtrList = calls
    refine List.foldlRecOn calls _ (motive := fun w' : StatusWorld =>
      w'.pendingMo = w.pendingMo ∧ w'.pendingMoCallId = w.pendingMoCallId) ⟨rfl, rfl⟩ ?_
    intro w' hw' it _
    split_ifs
    · exact hw'
    · exact hw'

/-- `HandleDialWhenHolding`, uninterrupted, is that of the status reports. -/
theorem handleDialWhenHolding_shows (hs : h.Shows w) (ht : h.threads t = none) (ins : Insertion)
    (env : StatusEnv) :
    (Run.run hangupStep h [.handleDialWhenHolding t, .next t, .next t, .next t, .next t]).Shows
      ((CallStatusManager.handleDialWhenHolding env).run (statusAction ins env) w).2 := by
  rw [Run.run_cons, hangupStep]
  by_cases hset : h.IsPendingHangup
  · rw [if_pos ⟨ht, hset⟩, Run.run_cons, hangupStep_next (setThread_threads_self ..),
      HangupWorld.next, Run.run_cons, hangupStep_next (setThread_threads_self ..),
      HangupWorld.next]
    generalize hh' : HangupWorld.setThread _ t (some .resetPendingHangup) = h'
    have hs' : h'.Shows w := by
      rw [← hh']
      refine Shows.setThread ?_ t _
      split_ifs <;> exact ⟨hs.1, hs.2, hs.3, hs.4⟩
    have hreset := reset_shows hs' (by rw [← hh', setThread_threads_self])
    unfold CallStatusManager.handleDialWhenHolding
    show Shows _ (Program.run (statusAction ins env) (ite _ _ _) w).2
    rw [if_pos (hs.isPendingHangup.mp hset)]
    cases w.getOneCallObject w.pendingHangupCallId with
    | none => exact hreset
    | some call =>
      have hkept := updateCallState_pendingMo w call .disconnected
      have hrun : (Program.run (statusAction ins env)
          (CallStatusManager.updateCallState env call .disconnected) w).2 =
            w.updateCallState call .disconnected := by
        show (Program.run (statusAction ins env) (ite _ _ _) _).2 = _
        split_ifs <;> rfl
      rw [Program.run_bind, hrun]
      refine ⟨hreset.1.trans hkept.1.symm, hreset.2.trans hkept.2.symm, hreset.3, hreset.4⟩
  · rw [if_neg fun hstart => hset hstart.2]
    simp only [Run.run_cons, Run.run_nil, hangupStep_next_none ht]
    unfold CallStatusManager.handleDialWhenHolding
    show Shows _ (Program.run (statusAction ins env) (ite _ _ _) w).2
    rw [if_neg fun hw => hset (hs.isPendingHangup.mpr hw)]
    exact hs

end HangupWorld

/-! ## Main result -/

/-- **Main theorem.** From a state in which nothing or one hang-up is pending, in a run whose
    operations meet the condition every hang-up is resolved exactly once. -/
theorem resolvesOnce {w : HangupWorld} (hw : w.Ok) (ops : ℕ → HangupOp)
    (hops : ∀ n, (Run.stateAt hangupStep w ops n).StepOk (ops n)) : ResolvesOnce w ops := by
  refine ⟨fun n => ?_, fun hfair n callId => ?_⟩
  · have hok := hw.stateAt hops n
    exact ⟨hok.safe, hok.protected⟩
  · obtain ⟨m, hnm, hsettled⟩ := HangupWorld.leadsTo_settled hw hops hfair n trivial
    refine ⟨m, hnm, ?_⟩
    rw [hsettled callId]
    exact Run.stateAt_mono (fun s o => HangupWorld.hangupStep_accepted s o callId) w ops hnm

/-! ### Runs on one thread -/

/-- The thread of an operation. -/
def HangupOp.thread : HangupOp → Option ℕ
  | .hangUpCall thread _ | .clearPendingState thread _ | .handleDialWhenHolding thread
  | .startTask thread _ | .next thread => some thread
  | .dial _ | .addOneCallObject _ | .deleteOneCallObject _ | .endCall _ => none

namespace HangupWorld

variable {w : HangupWorld} {t : ℕ}

/-- A thread that is in no operation stays so when others go on. -/
theorem hangupStep_idle (ht : w.threads t = none) {op : HangupOp} (hop : op.thread ≠ some t) :
    (hangupStep w op).threads t = none := by
  have hne : ∀ thread, op.thread = some thread → t ≠ thread := by
    rintro thread heq rfl
    exact hop heq
  unfold hangupStep
  cases op with
  | dial _ | addOneCallObject _ | deleteOneCallObject _ | endCall _ => exact ht
  | hangUpCall thread _ | handleDialWhenHolding thread =>
    dsimp only
    split_ifs
    · exact (setThread_threads_of_ne (hne thread rfl) _).trans ht
    · exact ht
  | clearPendingState thread callId =>
    dsimp only
    by_cases hidle : w.threads thread = none
    · rw [if_pos hidle]
      exact (setThread_threads_of_ne (hne thread rfl) _).trans ht
    · rw [if_neg hidle]
      exact ht
  | startTask thread number =>
    dsimp only
    split
    · exact ht
    · split_ifs
      · exact (setThread_threads_of_ne (hne thread rfl) _).trans ht
      · exact ht
  | next thread =>
    dsimp only
    split
    · exact ht
    · exact (next_threads_of_ne (hne thread rfl) _).trans ht

/-- In a run on thread 0 the other threads are in no operation. -/
theorem stateAt_idle {ops : ℕ → HangupOp} (hops : ∀ n thread, (ops n).thread = some thread → thread = 0)
    (n : ℕ) (ht : t ≠ 0) : (Run.stateAt hangupStep init ops n).threads t = none := by
  induction n with
  | zero => rfl
  | succ n ih => exact hangupStep_idle ih fun heq => ht (hops n t heq)

theorem quiet_of_idle (hidle : ∀ t, t ≠ 0 → w.threads t = none)
    (hself : ∀ p ∈ w.threads 0, ¬ p.Busy) : w.Quiet := by
  intro t p ht
  by_cases ht0 : t = 0
  · exact hself p (ht0 ▸ ht)
  · rw [hidle t ht0] at ht
    cases ht

theorem stepOk_next {p : HangupPhase} (ht : w.threads t = some p) (hok : w.NextOk p) :
    w.StepOk (.next t) := by
  intro q hq
  rw [ht] at hq
  exact Option.some.inj hq ▸ hok

end HangupWorld

/-- A dialed call is hung up before its first report, and the protect task fires. -/
def firedOps (n : ℕ) : HangupOp :=
  [.dial 1, .addOneCallObject 1, .hangUpCall 0 1, .next 0, .next 0, .next 0, .startTask 0 0, .next 0,
    .next 0, .next 0, .next 0].getD n (.addOneCallObject 1)

theorem firedOps_thread (n thread : ℕ) (h : (firedOps n).thread = some thread) : thread = 0 := by
  match n with
  | 0 | 1 => cases h
  | 2 | 3 | 4 | 5 | 6 | 7 | 8 | 9 | 10 => exact (Option.some.inj h).symm
  | n + 11 => cases h

theorem firedOps_ok (n : ℕ) :
    (Run.stateAt hangupStep HangupWorld.init firedOps n).StepOk (firedOps n) := by
  have hidle := fun t (ht : t ≠ 0) => HangupWorld.stateAt_idle firedOps_thread n ht
  match n with
  | 0 | 1 | 2 | 6 => exact trivial
  | 3 => exact HangupWorld.stepOk_next rfl trivial
  | 4 =>
    refine HangupWorld.stepOk_next rfl ⟨rfl, HangupWorld.quiet_of_idle hidle ?_⟩
    rintro p ⟨rfl⟩ hbusy
    exact hbusy
  | 5 => exact HangupWorld.stepOk_next rfl trivial
  | 7 =>
    refine HangupWorld.stepOk_next rfl fun _ => HangupWorld.quiet_of_idle hidle ?_
    rintro p ⟨rfl⟩ hbusy
    exact hbusy
  | 8 =>
    have hstored : 1 ∈ (Run.stateAt hangupStep HangupWorld.init firedOps 8).stored := by decide
    exact HangupWorld.stepOk_next rfl hstored
  | 9 | 10 => exact HangupWorld.stepOk_next rfl trivial
  | n + 11 => exact trivial

theorem resolvesOnce_fired : ResolvesOnce HangupWorld.init firedOps :=
  resolvesOnce HangupWorld.Ok.init firedOps firedOps_ok

/-- The same, and an emergency call is dialed and hung up before the task fires. -/
def secondOps (n : ℕ) : HangupOp :=
  [.dial 1, .addOneCallObject 1, .hangUpCall 0 1, .next 0, .next 0, .next 0, .dial 2,
    .addOneCallObject 2, .hangUpCall 0 2, .next 0, .next 0, .next 0, .startTask 0 0,
    .next 0].getD n (.addOneCallObject 2)

theorem secondOps_thread (n thread : ℕ) (h : (secondOps n).thread = some thread) : thread = 0 := by
  match n with
  | 0 | 1 | 6 | 7 => cases h
  | 2 | 3 | 4 | 5 | 8 | 9 | 10 | 11 | 12 | 13 => exact (Option.some.inj h).symm
  | n + 14 => cases h

/-- After the task has fired nothing happens any more. -/
theorem secondOps_stuck (n : ℕ) :
    (Run.stateAt hangupStep HangupWorld.init secondOps (14 + n)).tasks = [] ∧
      (Run.stateAt hangupStep HangupWorld.init secondOps (14 + n)).threads 0 = none ∧
      (Run.stateAt hangupStep HangupWorld.init secondOps (14 + n)).resolved = [] := by
  induction n with
  | zero => exact ⟨rfl, rfl, rfl⟩
  | succ n ih =>
    have hop : secondOps (14 + n) = .addOneCallObject 2 := by
      rw [Nat.add_comm]
      rfl
    rw [← Nat.add_assoc, Run.stateAt_succ, hop]
    exact ih

theorem secondOps_fair : HangupFair HangupWorld.init secondOps where
  task n task _ := by
    obtain ⟨htasks, -, -⟩ := secondOps_stuck n
    refine ⟨14 + n, by omega, ?_⟩
    rw [htasks]
    exact List.not_mem_nil
  thread n thread hthread := by
    by_cases ht : thread = 0
    · have hn : n ≤ 13 := by
        by_contra hgt
        obtain ⟨k, rfl⟩ : ∃ k, n = 14 + k := ⟨n - 14, by omega⟩
        exact hthread (ht ▸ (secondOps_stuck k).2.1)
      exact ⟨13, hn, ht ▸ rfl⟩
    · exact absurd (HangupWorld.stateAt_idle secondOps_thread n ht) hthread

/-- The second hang-up takes the note of the first and gets no task; the task of
    the first finds the second one noted, and none is resolved. -/
theorem second_hangUp_unresolved :
    ¬ ResolvesOnce HangupWorld.init secondOps ∧
      ¬ (Run.stateAt hangupStep HangupWorld.init secondOps 14).Protected := by
  constructor
  · rintro ⟨-, hresolved⟩
    obtain ⟨m, hm, hcount⟩ := hresolved secondOps_fair 14 1
    obtain ⟨k, rfl⟩ : ∃ k, m = 14 + k := ⟨m - 14, by omega⟩
    rw [HangupWorld.resolvedIds, (secondOps_stuck k).2.2] at hcount
    revert hcount
    decide
  · intro h
    have hidle : ∀ t, (Run.stateAt hangupStep HangupWorld.init secondOps 14).threads t = none := by
      intro t
      by_cases ht : t = 0
      · rw [ht]
        rfl
      · exact HangupWorld.stateAt_idle secondOps_thread 14 ht
    rcases h 2 (by unfold HangupWorld.Outstanding; decide) with
      (⟨task, htask, -⟩ | ⟨t, ht | ht⟩) | ⟨t, ht⟩
    · exact absurd htask List.not_mem_nil
    · rw [hidle t] at ht
      cases ht
    · rw [hidle t] at ht
      cases ht
    · rw [hidle t] at ht
      cases ht

end CallManager
