import CallManager.Types
import CallManager.Library.Run
import CallManager.Library.EventQueue
import Mathlib.Data.Finset.Basic
import Mathlib.Data.Finset.Card
import Mathlib.Logic.Function.Basic

/-!
# The audio scene

`AudioControlManager::CallStateUpdated` keeps the calls in five sets, by their
state, and queues an event for each change. The events are taken one by one:
the current scene (an `AudioBase` object) may answer one by queueing a request
to switch, and a request to switch sets the scene whatever the sets are by then.

Specification: a scene other than the inactive one has calls of its own, and
while a call is active, ringing, dialing or alerting the scene is not the
inactive one. Neither holds at every moment, since the scene runs behind the
sets; what must hold is that the queue still repairs it.

Results:
* `processEvent_isSome_iff`: the sizes of the sets at which a scene switches on an
  event that it handles.
* `scene_inactive_after_calls`: if no step strands the scene (`SceneOk`), then
  once every call is disconnected and the queue is empty, the sets are empty
  and the scene is inactive.
* `scene_not_inactive_during_calls`: if no step loses a call (`CallOk`), then
  whenever the queue is empty and a call is active, ringing, dialing or
  alerting, the scene is not the inactive one.
* `sets_follow_calls`: the sets hold live calls only, in every run.
* `scene_left_dialing`, `two_calls_ring_unheard`: runs in which a step does
  strand the scene, or lose the calls.
-/

namespace CallManager

/-! ## Model -/

/-- `CallStateType`, the classes of the scene. -/
inductive AudioScene
  | dialing | alerting | incoming | csCall | imsCall | holding | inactive
  deriving DecidableEq, Repr

/-- The events of a call of `AudioEvent` (audio_base.h:24-62). `switchState` stands for the
    events `SWITCH_*_STATE`; the one for OTT calls is never used. -/
inductive AudioEvent
  | switchState (scene : AudioScene)
  | newActiveCsCall | newActiveImsCall | newActiveOttCall
  | newDialingCall | newAlertingCall | newIncomingCall
  | noMoreActiveCall | noMoreDialingCall | noMoreAlertingCall
  | noMoreIncomingCall | noMoreHoldingCall
  | callTypeCsChangeIms | callTypeImsChangeCs
  deriving DecidableEq, Repr

/-- `CallStateProcessor` (call_state_processor.h:30-52). -/
structure CallStateProcessor where
  activeCalls : Finset ℤ
  holdingCalls : Finset ℤ
  alertingCalls : Finset ℤ
  incomingCalls : Finset ℤ
  dialingCalls : Finset ℤ
  deriving DecidableEq

namespace CallStateProcessor

/-- The constructor. -/
def init : CallStateProcessor := ⟨∅, ∅, ∅, ∅, ∅⟩

/-- `CallStateProcessor::AddCall` (call_state_processor.cpp:36-75). -/
def addCall (p : CallStateProcessor) (callId : ℤ) : TelCallState → CallStateProcessor
  | .dialing => { p with dialingCalls := insert callId p.dialingCalls }
  | .alerting => { p with alertingCalls := insert callId p.alertingCalls }
  | .waiting | .incoming => { p with incomingCalls := insert callId p.incomingCalls }
  | .active | .answered => { p with activeCalls := insert callId p.activeCalls }
  | .holding => { p with holdingCalls := insert callId p.holdingCalls }
  | _ => p

/-- `CallStateProcessor::DeleteCall` (call_state_processor.cpp:77-115). -/
def deleteCall (p : CallStateProcessor) (callId : ℤ) : TelCallState → CallStateProcessor
  | .dialing => { p with dialingCalls := p.dialingCalls.erase callId }
  | .alerting => { p with alertingCalls := p.alertingCalls.erase callId }
  | .waiting | .incoming => { p with incomingCalls := p.incomingCalls.erase callId }
  | .active => { p with activeCalls := p.activeCalls.erase callId }
  | .holding => { p with holdingCalls := p.holdingCalls.erase callId }
  | _ => p

/-- `CallStateProcessor::GetCallNumber` (call_state_processor.cpp:117-141). -/
def getCallNumber (p : CallStateProcessor) : TelCallState → ℕ
  | .dialing => p.dialingCalls.card
  | .alerting => p.alertingCalls.card
  | .incoming => p.incomingCalls.card
  | .active => p.activeCalls.card
  | .holding => p.holdingCalls.card
  | _ => 0

/-- `CallStateProcessor::ShouldSwitchState` (call_state_processor.cpp:143-167). -/
def shouldSwitchState (p : CallStateProcessor) : TelCallState → Bool
  | .dialing =>
    p.dialingCalls.card = 1 ∧ p.activeCalls = ∅ ∧ p.incomingCalls = ∅ ∧ p.alertingCalls = ∅
  | .alerting =>
    p.alertingCalls.card = 1 ∧ p.activeCalls = ∅ ∧ p.incomingCalls = ∅ ∧ p.dialingCalls = ∅
  | .incoming =>
    p.incomingCalls.card = 1 ∧ p.activeCalls = ∅ ∧ p.dialingCalls = ∅ ∧ p.alertingCalls = ∅
  | .active => p.activeCalls.card = 1
  | _ => false

/-- `CallStateProcessor::UpdateCurrentCallState` (call_state_processor.cpp:169-190): the event
    it queues. -/
def updateCurrentCallState (p : CallStateProcessor) : Option AudioEvent :=
  if p.activeCalls ≠ ∅ then none
  else if p.holdingCalls ≠ ∅ then some (.switchState .holding)
  else if p.incomingCalls ≠ ∅ then some (.switchState .incoming)
  else if p.dialingCalls ≠ ∅ then some (.switchState .dialing)
  else if p.alertingCalls ≠ ∅ then some (.switchState .alerting)
  else some (.switchState .inactive)

end CallStateProcessor

namespace AudioScene

/-- A switch to `scene` if `ShouldSwitchState(state)` holds: the lines most
    branches of the scenes' functions consist of. -/
def switchIf (p : CallStateProcessor) (state : TelCallState) (scene : AudioScene) :
    Option AudioEvent :=
  if p.shouldSwitchState state then some (.switchState scene) else none

/-- `InActiveState::ProcessEvent` (inactive_state.cpp:25-77). -/
def inActiveState (p : CallStateProcessor) : AudioEvent → Option AudioEvent
  | .newDialingCall => switchIf p .dialing .dialing
  | .newActiveCsCall => switchIf p .active .csCall
  | .newActiveImsCall => switchIf p .active .imsCall
  | .newAlertingCall => switchIf p .alerting .alerting
  | .newIncomingCall => switchIf p .incoming .incoming
  | _ => none

/-- `DialingState::ProcessEvent` (dialing_state.cpp:25-64). -/
def dialingState (p : CallStateProcessor) : AudioEvent → Option AudioEvent
  | .noMoreDialingCall => p.updateCurrentCallState
  | .newActiveCsCall => switchIf p .active .csCall
  | .newActiveImsCall => switchIf p .active .imsCall
  | .newAlertingCall => switchIf p .alerting .alerting
  | _ => none

/-- `AlertingState::ProcessEvent` (alerting_state.cpp:26-67). -/
def alertingState (p : CallStateProcessor) : AudioEvent → Option AudioEvent
  | .noMoreAlertingCall => p.updateCurrentCallState
  | .newActiveCsCall => switchIf p .active .csCall
  | .newActiveImsCall => switchIf p .active .imsCall
  | .newAlertingCall => switchIf p .alerting .alerting
  | _ => none

/-- `IncomingState::ProcessEvent` (incoming_state.cpp:25-61). A new incoming call switches
    without a test. -/
def incomingState (p : CallStateProcessor) : AudioEvent → Option AudioEvent
  | .noMoreIncomingCall => p.updateCurrentCallState
  | .newActiveCsCall => switchIf p .active .csCall
  | .newActiveImsCall => switchIf p .active .imsCall
  | .newIncomingCall => some (.switchState .incoming)
  | _ => none

/-- `CSCallState::ProcessEvent` (cs_call_state.cpp:25-47). -/
def csCallState (p : CallStateProcessor) : AudioEvent → Option AudioEvent
  | .noMoreActiveCall | .noMoreIncomingCall => p.updateCurrentCallState
  | .callTypeCsChangeIms => some (.switchState .imsCall)
  | _ => none

/-- `IMSCallState::ProcessEvent` (ims_call_state.cpp:25-47). -/
def imsCallState (p : CallStateProcessor) : AudioEvent → Option AudioEvent
  | .noMoreActiveCall | .noMoreIncomingCall => p.updateCurrentCallState
  | .callTypeImsChangeCs => some (.switchState .csCall)
  | _ => none

/-- `HoldingState::ProcessEvent` (holding_state.cpp:25-71). -/
def holdingState (p : CallStateProcessor) : AudioEvent → Option AudioEvent
  | .newActiveCsCall => switchIf p .active .csCall
  | .newActiveImsCall => switchIf p .active .imsCall
  | .newIncomingCall => switchIf p .incoming .incoming
  | .noMoreHoldingCall => p.updateCurrentCallState
  | .newAlertingCall => switchIf p .alerting .alerting
  | _ => none

/-- The call of `ProcessEvent` on the current scene: the event it queues. -/
def processEvent (p : CallStateProcessor) : AudioScene → AudioEvent → Option AudioEvent
  | .inactive => inActiveState p
  | .dialing => dialingState p
  | .alerting => alertingState p
  | .incoming => incomingState p
  | .csCall => csCallState p
  | .imsCall => imsCallState p
  | .holding => holdingState p

end AudioScene

/-- The fields of `AudioControlManager`, `CallStateProcessor` and `AudioSceneProcessor` that
    decide the scene: the sets, the current scene, the queue (oldest event first), and the calls
    whose `isAnsweredByPhone_` is set. -/
structure AudioControl where
  processor : CallStateProcessor
  currentState : AudioScene
  queue : List AudioEvent
  answeredByPhone : Finset ℤ
  deriving DecidableEq

namespace AudioControl

/-- The state after `AudioSceneProcessor::Init`. -/
def init : AudioControl := ⟨.init, .inactive, [], ∅⟩

/-- `AudioSceneProcessor::ProcessEvent` (audio_scene_processor.cpp:126-130), for an event that
    may be `UNKNOWN_EVENT`. -/
def submit (c : AudioControl) (event : Option AudioEvent) : AudioControl :=
  { c with queue := c.queue ++ event.toList }

/-- `AudioSceneProcessor::ProcessEventInner` (audio_scene_processor.cpp:62-124), without the
    tones. Events it does not name are dropped. -/
def processEventInner (c : AudioControl) : AudioEvent → AudioControl
  | .switchState scene => { c with currentState := scene }
  | .newActiveOttCall | .callTypeCsChangeIms | .callTypeImsChangeCs => c
  | event => c.submit (c.currentState.processEvent c.processor event)

/-- The event `HandleNextState` queues (audio_control_manager.cpp:555-596, and
    `HandleNewActiveCall`, lines 716-739). -/
def nextEvent (callType : CallType) : TelCallState → Option AudioEvent
  | .dialing => some .newDialingCall
  | .alerting => some .newAlertingCall
  | .active | .answered =>
    match callType with
    | .cs | .satellite => some .newActiveCsCall
    | .ims | .bluetooth => some .newActiveImsCall
    | .ott => some .newActiveOttCall
    | _ => none
  | .waiting | .incoming => some .newIncomingCall
  | _ => none

/-- `AudioControlManager::HandleNextState`. -/
def handleNextState (c : AudioControl) (callType : CallType) (callId : ℤ)
    (nextState : TelCallState) : AudioControl :=
  { c with processor := c.processor.addCall callId nextState }.submit (nextEvent callType nextState)

/-- The event `HandlePriorState` queues once the call is deleted
    (audio_control_manager.cpp:611-652). -/
def priorEvent (p : CallStateProcessor) (priorState : TelCallState) : Option AudioEvent :=
  match priorState with
  | .dialing => if p.getCallNumber priorState = 0 then some .noMoreDialingCall else none
  | .alerting => if p.getCallNumber priorState = 0 then some .noMoreAlertingCall else none
  | .incoming | .waiting => some .noMoreIncomingCall
  | .active => if p.getCallNumber priorState = 0 then some .noMoreActiveCall else none
  | .holding => if p.getCallNumber priorState = 0 then some .noMoreHoldingCall else none
  | _ => none

/-- `AudioControlManager::HandlePriorState`. -/
def handlePriorState (c : AudioControl) (callId : ℤ) (priorState : TelCallState) : AudioControl :=
  let p := c.processor.deleteCall callId priorState
  { c with processor := p }.submit (priorEvent p priorState)

/-- The updates of an answered call that do not enter the scenes. -/
def skipsAnswered (priorState nextState : TelCallState) : Bool :=
  (nextState = .active ∧ (priorState = .incoming ∨ priorState = .waiting)) ∨
    (nextState = .incoming ∧ nextState = priorState) ∨
    (nextState = .answered ∧ priorState = .incoming)

/-- `AudioControlManager::PreHandleAnswerdState` (audio_control_manager.cpp:443-485): whether
    the update goes on, and the state it goes on in. -/
def preHandleAnswerdState (c : AudioControl) (callId : ℤ) (priorState nextState : TelCallState) :
    Bool × AudioControl :=
  if callId ∉ c.answeredByPhone ∧ nextState = .answered ∧ priorState = .incoming then
    (true,
      { c with
        processor := c.processor.deleteCall callId priorState
        answeredByPhone := insert callId c.answeredByPhone })
  else if callId ∈ c.answeredByPhone then
    if skipsAnswered priorState nextState then
      (false, { c with processor := c.processor.deleteCall callId priorState })
    else if nextState = .disconnecting ∨ nextState = .disconnected then
      (true, { c with processor := c.processor.deleteCall callId .active })
    else (true, c)
  else (true, c)

/-- The end of `HandleCallStateUpdated`: the next state, then the prior one. -/
def enterScenes (c : AudioControl) (callType : CallType) (callId : ℤ)
    (priorState nextState : TelCallState) : AudioControl :=
  let c := c.handleNextState callType callId nextState
  if priorState = nextState then c else c.handlePriorState callId priorState

/-- `AudioControlManager::HandleCallStateUpdated` (audio_control_manager.cpp:487-519). -/
def handleCallStateUpdated (c : AudioControl) (callType : CallType) (callId : ℤ)
    (priorState nextState : TelCallState) : AudioControl :=
  let (enters, c) := c.preHandleAnswerdState callId priorState nextState
  if enters then c.enterScenes callType callId priorState nextState else c

/-- `AudioControlManager::CallStateUpdated` (audio_control_manager.cpp:170-205). Calls of other
    applications have a handler of their own, without sets and scenes. -/
def callStateUpdated (c : AudioControl) (callType : CallType) (callId : ℤ)
    (priorState nextState : TelCallState) : AudioControl :=
  if callType = .voip then c else c.handleCallStateUpdated callType callId priorState nextState

/-- The queue takes its oldest event. -/
def takeEvent (c : AudioControl) : AudioControl :=
  match c.queue with
  | [] => c
  | event :: queue => { c with queue := queue }.processEventInner event

end AudioControl

/-! ## Calls and their updates -/

/-- A call, as the updates for it have told of it. -/
structure TrackedCall where
  callType : CallType
  state : TelCallState
  deriving DecidableEq, Repr

/-- The arguments of `CallStateUpdated`. -/
structure StateUpdate where
  callType : CallType
  callId : ℤ
  priorState : TelCallState
  nextState : TelCallState
  deriving DecidableEq, Repr

/-- What can happen: an update for a call, the notice that the user answered
    one, or the queue taking an event. -/
inductive AudioOp
  | update (callId : ℤ) (callType : CallType) (nextState : TelCallState)
  | answered (callId : ℤ)
  | takeEvent
  deriving DecidableEq, Repr

/-- The call is of a type the modem or the headset reports. -/
def AudioOp.Carrier : AudioOp → Prop
  | .update _ callType _ => callType ∈ [.cs, .ims, .bluetooth, .satellite]
  | _ => True

instance (op : AudioOp) : Decidable op.Carrier := by
  unfold AudioOp.Carrier; split <;> infer_instance

/-- The audio control and the calls of the updates so far. -/
structure AudioWorld where
  control : AudioControl
  calls : ℤ → Option TrackedCall

namespace AudioWorld

/-- The start, without calls. -/
def init : AudioWorld := ⟨.init, fun _ => none⟩

/-- The states a call starts in. -/
def startStates : List TelCallState := [.dialing, .alerting, .incoming, .waiting, .active]

/-- The update an operation delivers. The updates of a call are chained: the first is from its
    state to itself, the prior state of another is the next state of the one before, and none
    follows `CALL_STATUS_DISCONNECTED`. The notice of an answer is from INCOMING to ANSWERED,
    and comes only while the call is INCOMING or WAITING. -/
def update? (s : AudioWorld) : AudioOp → Option StateUpdate
  | .update callId callType nextState =>
    match s.calls callId with
    | none =>
      if nextState ∈ startStates ∧ callType ≠ .voip then
        some ⟨callType, callId, nextState, nextState⟩
      else none
    | some call =>
      if call.state ≠ .disconnected ∧ nextState ≠ .answered then
        some ⟨call.callType, callId, call.state, nextState⟩
      else none
  | .answered callId =>
    match s.calls callId with
    | none => none
    | some call =>
      if call.state = .incoming ∨ call.state = .waiting then
        some ⟨call.callType, callId, .incoming, .answered⟩
      else none
  | .takeEvent => none

/-- The delivery of an update. -/
def deliver (s : AudioWorld) (u : StateUpdate) : AudioWorld where
  control := s.control.callStateUpdated u.callType u.callId u.priorState u.nextState
  calls :=
    if u.nextState = .answered then s.calls
    else Function.update s.calls u.callId (some ⟨u.callType, u.nextState⟩)

/-- One operation; one that delivers no update leaves everything as it is. -/
def step (s : AudioWorld) (op : AudioOp) : AudioWorld :=
  match op with
  | .takeEvent => { s with control := s.control.takeEvent }
  | op =>
    match s.update? op with
    | none => s
    | some u => s.deliver u

end AudioWorld

/-! ## Specification -/

/-- The five sets. -/
inductive CallSet
  | active | holding | alerting | incoming | dialing
  deriving DecidableEq, Repr

/-- The calls of a set. -/
def CallStateProcessor.calls (p : CallStateProcessor) : CallSet → Finset ℤ
  | .active => p.activeCalls
  | .holding => p.holdingCalls
  | .alerting => p.alertingCalls
  | .incoming => p.incomingCalls
  | .dialing => p.dialingCalls

/-- The set a state belongs to. -/
def TelCallState.callSet : TelCallState → Option CallSet
  | .dialing => some .dialing
  | .alerting => some .alerting
  | .waiting | .incoming => some .incoming
  | .active => some .active
  | .holding => some .holding
  | _ => none

/-- A call is active, ringing, dialing or alerting. -/
def CallStateProcessor.HasLive (p : CallStateProcessor) : Prop :=
  ∃ k ∈ [CallSet.active, .incoming, .dialing, .alerting], p.calls k ≠ ∅

instance (p : CallStateProcessor) : Decidable p.HasLive := by
  unfold CallStateProcessor.HasLive; infer_instance

namespace AudioScene

/-- The sets whose calls a scene is there for. The scene of a call in progress
    waits for the incoming ones too. -/
def ownSets : AudioScene → List CallSet
  | .dialing => [.dialing]
  | .alerting => [.alerting]
  | .incoming => [.incoming]
  | .csCall | .imsCall => [.active, .incoming]
  | .holding => [.holding]
  | .inactive => []

/-- The events after which a scene may queue a switch. -/
def handled : AudioScene → List AudioEvent
  | .dialing => [.noMoreDialingCall, .newActiveCsCall, .newActiveImsCall, .newAlertingCall]
  | .alerting => [.noMoreAlertingCall, .newActiveCsCall, .newActiveImsCall, .newAlertingCall]
  | .incoming => [.noMoreIncomingCall, .newActiveCsCall, .newActiveImsCall, .newIncomingCall]
  | .csCall | .imsCall => [.noMoreActiveCall, .noMoreIncomingCall]
  | .holding =>
    [.newActiveCsCall, .newActiveImsCall, .newIncomingCall, .noMoreHoldingCall, .newAlertingCall]
  | .inactive =>
    [.newDialingCall, .newActiveCsCall, .newActiveImsCall, .newAlertingCall, .newIncomingCall]

/-- The scene handles the event. -/
abbrev Handles (scene : AudioScene) (event : AudioEvent) : Prop := event ∈ scene.handled

/-- How many calls the scene has of its own. -/
def ownCallNumber (p : CallStateProcessor) (scene : AudioScene) : ℕ :=
  scene.ownSets.foldr (fun k n => (p.calls k).card + n) 0

/-- The sizes of the sets at which an event that the current scene handles leads
    to a switch: one call in the set of a new call, and for a call that is not
    active no other live one; no active call after the last of a set. A new
    incoming call switches the incoming scene at any sizes. -/
def Switches (p : CallStateProcessor) (scene : AudioScene) : AudioEvent → Prop
  | .newActiveCsCall | .newActiveImsCall => p.activeCalls.card = 1
  | .newDialingCall =>
    p.dialingCalls.card = 1 ∧ p.activeCalls.card = 0 ∧ p.incomingCalls.card = 0 ∧
      p.alertingCalls.card = 0
  | .newAlertingCall =>
    p.alertingCalls.card = 1 ∧ p.activeCalls.card = 0 ∧ p.incomingCalls.card = 0 ∧
      p.dialingCalls.card = 0
  | .newIncomingCall =>
    scene = .incoming ∨
      (p.incomingCalls.card = 1 ∧ p.activeCalls.card = 0 ∧ p.dialingCalls.card = 0 ∧
        p.alertingCalls.card = 0)
  | .noMoreActiveCall | .noMoreDialingCall | .noMoreAlertingCall | .noMoreIncomingCall
  | .noMoreHoldingCall => p.activeCalls.card = 0
  | .switchState _ | .newActiveOttCall | .callTypeCsChangeIms | .callTypeImsChangeCs => False

instance (p : CallStateProcessor) (scene : AudioScene) (event : AudioEvent) :
    Decidable (scene.Switches p event) := by
  unfold Switches; split <;> infer_instance

/-- A scene other than the inactive one has calls of its own. -/
def HasPurpose (p : CallStateProcessor) (scene : AudioScene) : Prop :=
  scene = .inactive ∨ ∃ k ∈ scene.ownSets, p.calls k ≠ ∅

/-- The scene is not the inactive one while there are live calls. -/
def ServesCalls (p : CallStateProcessor) (scene : AudioScene) : Prop :=
  scene = .inactive → ¬ p.HasLive

end AudioScene

/-- The scene a request to switch sets. -/
def AudioEvent.target : AudioEvent → Option AudioScene
  | .switchState scene => some scene
  | _ => none

namespace AudioControl

/-- The scene after the requests to switch that are queued. -/
def settled (c : AudioControl) : AudioScene :=
  EventQueue.settled AudioEvent.target c.currentState c.queue

/-- Some queued event is handled by the scene in force at its turn. -/
def Reacts (c : AudioControl) : Prop :=
  EventQueue.Reacts AudioEvent.target AudioScene.Handles c.currentState c.queue

/-- The scene settles in one that has a purpose, or reacts to a queued event before. -/
def Settling (c : AudioControl) : Prop :=
  EventQueue.Settling AudioEvent.target AudioScene.Handles (AudioScene.HasPurpose c.processor)
    c.currentState c.queue

/-- The scene settles in one that serves the calls, or is offered an event there
    that it handles. -/
def Covered (c : AudioControl) : Prop :=
  EventQueue.Covered AudioEvent.target AudioScene.Handles (AudioScene.ServesCalls c.processor)
    c.currentState c.queue

instance (c : AudioControl) : Decidable c.Reacts :=
  inferInstanceAs (Decidable (EventQueue.Reacts _ _ _ _))

/-- The state whose set an update takes its call out of without an event: that of the prior
    state, if the call is answered and not brought into the scenes; ACTIVE, if an answered call
    ends in another state than those whose end the scene of a call in progress hears of. -/
def droppedState (c : AudioControl) (u : StateUpdate) : Option TelCallState :=
  if u.callId ∈ c.answeredByPhone then
    if skipsAnswered u.priorState u.nextState then some u.priorState
    else if (u.nextState = .disconnecting ∨ u.nextState = .disconnected) ∧
        u.priorState ∉ [.active, .incoming, .waiting] then some .active
    else none
  else none

/-- The condition on an update that drops a call: some queued event is handled,
    or the scene the control settles in is the inactive one or has a call of its
    own besides the one that is dropped. -/
def DropOk (c : AudioControl) (u : StateUpdate) : Prop :=
  match c.droppedState u with
  | none => True
  | some state =>
    c.Reacts ∨ c.settled = .inactive ∨
      ∃ k ∈ c.settled.ownSets, ∃ x ∈ c.processor.calls k, x = u.callId → state.callSet ≠ some k

/-- The condition on taking an event that the current scene handles, with `queue` behind it, for
    the scene to have a purpose: some event of the queue is handled, or the sets have the sizes
    at which the scene switches, or the scene the queue leads to is the inactive one or has
    calls. Where the incoming scene is to switch to itself there must be incoming calls. -/
def TakeOk (c : AudioControl) (event : AudioEvent) (queue : List AudioEvent) : Prop :=
  c.currentState.Handles event →
    EventQueue.Reacts AudioEvent.target AudioScene.Handles c.currentState queue ∨
      if c.currentState = .incoming ∧ event = .newIncomingCall then
        c.processor.incomingCalls.card ≠ 0
      else
        c.currentState.Switches c.processor event ∨
          EventQueue.settled AudioEvent.target c.currentState queue = .inactive ∨
          (EventQueue.settled AudioEvent.target c.currentState queue).ownCallNumber
            c.processor ≠ 0

/-- The condition on taking an event, with `queue` behind it, for the calls to be served: where
    the inactive scene takes the last event it handles, with no switch queued behind, either no
    call is live or the sets have the sizes at which it switches. -/
def ServeOk (c : AudioControl) (event : AudioEvent) (queue : List AudioEvent) : Prop :=
  c.currentState = .inactive → AudioScene.inactive.Handles event →
    (∀ e ∈ queue, e.target = none ∧ ¬ AudioScene.inactive.Handles e) →
      AudioScene.inactive.Switches c.processor event ∨
        (c.processor.activeCalls.card = 0 ∧ c.processor.incomingCalls.card = 0 ∧
          c.processor.dialingCalls.card = 0 ∧ c.processor.alertingCalls.card = 0)

instance (c : AudioControl) (u : StateUpdate) : Decidable (c.DropOk u) := by
  unfold DropOk; split <;> infer_instance

instance (c : AudioControl) (event : AudioEvent) (queue : List AudioEvent) :
    Decidable (c.TakeOk event queue) := by
  unfold TakeOk; infer_instance

instance (c : AudioControl) (event : AudioEvent) (queue : List AudioEvent) :
    Decidable (c.ServeOk event queue) := by
  unfold ServeOk; infer_instance

end AudioControl

namespace AudioWorld

/-- The condition for the scene to have a purpose: no event that could have moved it is taken at
    sizes that do not switch it, and no update takes its last call away in silence. -/
def SceneOk (s : AudioWorld) (op : AudioOp) : Prop :=
  match op with
  | .takeEvent =>
    match s.control.queue with
    | [] => True
    | event :: queue => s.control.TakeOk event queue
  | op =>
    match s.update? op with
    | none => True
    | some u => s.control.DropOk u

/-- The condition for the calls to be served: the inactive scene does not take the
    last event it handles at sizes that do not switch it, while calls are live. -/
def CallOk (s : AudioWorld) : AudioOp → Prop
  | .takeEvent =>
    match s.control.queue with
    | [] => True
    | event :: queue => s.control.ServeOk event queue
  | _ => True

instance (s : AudioWorld) (op : AudioOp) : Decidable (s.SceneOk op) := by
  unfold SceneOk; split
  · split <;> infer_instance
  · split <;> infer_instance

instance (s : AudioWorld) (op : AudioOp) : Decidable (s.CallOk op) := by
  unfold CallOk; split
  · split <;> infer_instance
  · infer_instance

/-- Once every call is disconnected and the queue is empty, the sets are empty
    and the scene is inactive. -/
def InactiveAfterCalls (s : AudioWorld) : Prop :=
  s.control.queue = [] →
    (∀ callId call, s.calls callId = some call → call.state = .disconnected) →
      s.control.processor = .init ∧ s.control.currentState = .inactive

/-- While the queue is empty and a call is active, ringing, dialing or
    alerting, the scene is not the inactive one. -/
def ActiveDuringCalls (s : AudioWorld) : Prop :=
  s.control.queue = [] → s.control.processor.HasLive → s.control.currentState ≠ .inactive

end AudioWorld

/-! ## The sets -/

namespace CallStateProcessor

variable {p : CallStateProcessor} {callId : ℤ} {state : TelCallState} {k : CallSet}

theorem mem_calls_deleteCall {x : ℤ} :
    x ∈ (p.deleteCall callId state).calls k ↔
      x ∈ p.calls k ∧ (state.callSet = some k → x ≠ callId) := by
  cases state <;> cases k <;> simp [deleteCall, calls, TelCallState.callSet, and_comm]

theorem mem_calls_addCall {x : ℤ} :
    x ∈ (p.addCall callId state).calls k ↔
      x ∈ p.calls k ∨
        (x = callId ∧ (state.callSet = some k ∨ (state = .answered ∧ k = .active))) := by
  cases state <;> cases k <;> simp [addCall, calls, TelCallState.callSet, or_comm]

theorem eq_init (h : ∀ k, p.calls k = ∅) : p = .init := by
  obtain ⟨a, b, c, d, e⟩ := p
  have ha : a = ∅ := h .active
  have hb : b = ∅ := h .holding
  have hc : c = ∅ := h .alerting
  have hd : d = ∅ := h .incoming
  have he : e = ∅ := h .dialing
  rw [ha, hb, hc, hd, he, init]

/-- A switch that `UpdateCurrentCallState` queues is to the scene of a call, or
    to the inactive one when there are no calls. -/
theorem updateCurrentCallState_target {event : AudioEvent}
    (h : p.updateCurrentCallState = some event) :
    ∃ scene, event = .switchState scene ∧ scene.HasPurpose p ∧ scene.ServesCalls p := by
  unfold updateCurrentCallState at h
  split_ifs at h with h1 h2 h3 h4 h5 <;> cases h <;> refine ⟨_, rfl, ?_, ?_⟩
  · exact .inr ⟨.holding, by decide, h2⟩
  · exact fun h => nomatch h
  · exact .inr ⟨.incoming, by decide, h3⟩
  · exact fun h => nomatch h
  · exact .inr ⟨.dialing, by decide, h4⟩
  · exact fun h => nomatch h
  · exact .inr ⟨.alerting, by decide, h5⟩
  · exact fun h => nomatch h
  · exact .inl rfl
  · intro _
    simp only [not_not] at h1 h3 h4 h5
    simp [HasLive, calls, h1, h3, h4, h5]

end CallStateProcessor

namespace AudioScene

variable {p : CallStateProcessor} {scene : AudioScene} {event : AudioEvent}

theorem calls_ne_empty_of_shouldSwitchState {state : TelCallState} {k : CallSet}
    (hk : state.callSet = some k) (h : p.shouldSwitchState state = true) : p.calls k ≠ ∅ := by
  intro hempty
  cases state <;> cases hk <;>
    simp_all [CallStateProcessor.shouldSwitchState, CallStateProcessor.calls]

/-- What a scene queues is a switch to the scene of a call, or to the inactive one when there
    are no calls, but for the switch from the incoming scene to itself. -/
theorem processEvent_target {event' : AudioEvent} (hevent : event ∈ scene.handled)
    (h : scene.processEvent p event = some event') :
    ∃ t, event' = .switchState t ∧ t.ServesCalls p ∧
      (t.HasPurpose p ∨ (scene = .incoming ∧ event = .newIncomingCall ∧ t = .incoming)) := by
  have hupdate : p.updateCurrentCallState = some event' → ∃ t, event' = .switchState t ∧
      t.ServesCalls p ∧
      (t.HasPurpose p ∨ (scene = .incoming ∧ event = .newIncomingCall ∧ t = .incoming)) := fun h =>
    have ⟨t, he, hpurpose, hserves⟩ := CallStateProcessor.updateCurrentCallState_target h
    ⟨t, he, hserves, .inl hpurpose⟩
  have hswitch : ∀ state t k, state.callSet = some k → k ∈ t.ownSets → t ≠ .inactive →
      switchIf p state t = some event' → ∃ t, event' = .switchState t ∧ t.ServesCalls p ∧
      (t.HasPurpose p ∨ (scene = .incoming ∧ event = .newIncomingCall ∧ t = .incoming)) := by
    intro state t k hk hown ht h
    unfold switchIf at h
    split_ifs at h with hs
    cases h
    refine ⟨t, rfl, fun h => absurd h ht, .inl (.inr ⟨k, hown, ?_⟩)⟩
    exact calls_ne_empty_of_shouldSwitchState hk hs
  cases scene <;> simp only [handled, List.mem_cons, List.not_mem_nil, or_false] at hevent
  case inactive =>
    rcases hevent with rfl | rfl | rfl | rfl | rfl
    · exact hswitch .dialing .dialing .dialing rfl (by decide) (by decide) h
    · exact hswitch .active .csCall .active rfl (by decide) (by decide) h
    · exact hswitch .active .imsCall .active rfl (by decide) (by decide) h
    · exact hswitch .alerting .alerting .alerting rfl (by decide) (by decide) h
    · exact hswitch .incoming .incoming .incoming rfl (by decide) (by decide) h
  case dialing | alerting =>
    rcases hevent with rfl | rfl | rfl | rfl
    · exact hupdate h
    · exact hswitch .active .csCall .active rfl (by decide) (by decide) h
    · exact hswitch .active .imsCall .active rfl (by decide) (by decide) h
    · exact hswitch .alerting .alerting .alerting rfl (by decide) (by decide) h
  case incoming =>
    rcases hevent with rfl | rfl | rfl | rfl
    · exact hupdate h
    · exact hswitch .active .csCall .active rfl (by decide) (by decide) h
    · exact hswitch .active .imsCall .active rfl (by decide) (by decide) h
    · cases h
      exact ⟨.incoming, rfl, fun h => (nomatch h), .inr ⟨rfl, rfl, rfl⟩⟩
  case csCall | imsCall =>
    rcases hevent with rfl | rfl
    · exact hupdate h
    · exact hupdate h
  case holding =>
    rcases hevent with rfl | rfl | rfl | rfl | rfl
    · exact hswitch .active .csCall .active rfl (by decide) (by decide) h
    · exact hswitch .active .imsCall .active rfl (by decide) (by decide) h
    · exact hswitch .incoming .incoming .incoming rfl (by decide) (by decide) h
    · exact hupdate h
    · exact hswitch .alerting .alerting .alerting rfl (by decide) (by decide) h

theorem shouldSwitchState_iff :
    (p.shouldSwitchState .active = true ↔ p.activeCalls.card = 1) ∧
    (p.shouldSwitchState .dialing = true ↔
      p.dialingCalls.card = 1 ∧ p.activeCalls.card = 0 ∧ p.incomingCalls.card = 0 ∧
        p.alertingCalls.card = 0) ∧
    (p.shouldSwitchState .alerting = true ↔
      p.alertingCalls.card = 1 ∧ p.activeCalls.card = 0 ∧ p.incomingCalls.card = 0 ∧
        p.dialingCalls.card = 0) ∧
    (p.shouldSwitchState .incoming = true ↔
      p.incomingCalls.card = 1 ∧ p.activeCalls.card = 0 ∧ p.dialingCalls.card = 0 ∧
        p.alertingCalls.card = 0) := by
  simp [CallStateProcessor.shouldSwitchState]

theorem switchIf_isSome {state : TelCallState} {t : AudioScene} :
    (switchIf p state t).isSome = true ↔ p.shouldSwitchState state = true := by
  unfold switchIf
  split_ifs with h <;> simp [h]

theorem updateCurrentCallState_isSome :
    p.updateCurrentCallState.isSome = true ↔ p.activeCalls.card = 0 := by
  unfold CallStateProcessor.updateCurrentCallState
  split_ifs with h <;> simp_all

/-- **What a scene queues.** A scene switches on an event that it handles exactly
    at the sizes of `Switches`. -/
theorem processEvent_isSome_iff (h : scene.Handles event) :
    (scene.processEvent p event).isSome = true ↔ scene.Switches p event := by
  obtain ⟨hactive, hdialing, halerting, hincoming⟩ := shouldSwitchState_iff (p := p)
  cases scene <;> simp only [Handles, handled, List.mem_cons, List.not_mem_nil, or_false] at h
  case inactive =>
    rcases h with rfl | rfl | rfl | rfl | rfl
    · exact switchIf_isSome.trans hdialing
    · exact switchIf_isSome.trans hactive
    · exact switchIf_isSome.trans hactive
    · exact switchIf_isSome.trans halerting
    · refine (switchIf_isSome.trans hincoming).trans ?_
      simp [Switches]
  case dialing | alerting =>
    rcases h with rfl | rfl | rfl | rfl
    · exact updateCurrentCallState_isSome
    · exact switchIf_isSome.trans hactive
    · exact switchIf_isSome.trans hactive
    · exact switchIf_isSome.trans halerting
  case incoming =>
    rcases h with rfl | rfl | rfl | rfl
    · exact updateCurrentCallState_isSome
    · exact switchIf_isSome.trans hactive
    · exact switchIf_isSome.trans hactive
    · exact iff_of_true rfl (.inl rfl)
  case csCall | imsCall =>
    rcases h with rfl | rfl
    · exact updateCurrentCallState_isSome
    · exact updateCurrentCallState_isSome
  case holding =>
    rcases h with rfl | rfl | rfl | rfl | rfl
    · exact switchIf_isSome.trans hactive
    · exact switchIf_isSome.trans hactive
    · refine (switchIf_isSome.trans hincoming).trans ?_
      simp [Switches]
    · exact updateCurrentCallState_isSome
    · exact switchIf_isSome.trans halerting

theorem hasPurpose_iff :
    scene.HasPurpose p ↔ scene = .inactive ∨ scene.ownCallNumber p ≠ 0 := by
  unfold HasPurpose ownCallNumber
  refine or_congr_right ?_
  cases scene <;> simp [ownSets, imp_iff_not_or]

theorem hasLive_iff :
    ¬ p.HasLive ↔ p.activeCalls.card = 0 ∧ p.incomingCalls.card = 0 ∧ p.dialingCalls.card = 0 ∧
      p.alertingCalls.card = 0 := by
  simp [CallStateProcessor.HasLive, CallStateProcessor.calls]

theorem target_of_handles (h : scene.Handles event) : event.target = none := by
  cases event with
  | switchState t => cases scene <;> simp [Handles, handled] at h
  | _ => rfl

theorem processEvent_of_not_handles (h : ¬ scene.Handles event)
    (hcs : event ≠ .callTypeCsChangeIms) (hims : event ≠ .callTypeImsChangeCs) :
    scene.processEvent p event = none := by
  cases scene <;> cases event <;>
    first
    | rfl
    | exact absurd rfl hcs
    | exact absurd rfl hims
    | exact absurd (by decide) h

end AudioScene

/-! ## Taking an event -/

namespace AudioControl

variable {c : AudioControl} {event : AudioEvent} {queue : List AudioEvent}

@[simp] theorem submit_none (c : AudioControl) : c.submit none = c := by
  simp [submit]

/-- An event that is no switch leaves the scene, and queues what the current
    scene makes of it if it handles the event. -/
theorem processEventInner_eq (h : event.target = none) :
    c.processEventInner event =
      if c.currentState.Handles event then
        c.submit (c.currentState.processEvent c.processor event)
      else c := by
  have hnone : ¬ c.currentState.Handles event → event ≠ .callTypeCsChangeIms →
      event ≠ .callTypeImsChangeCs → c.submit (c.currentState.processEvent c.processor event) = c :=
    fun hh hcs hims => by
      rw [AudioScene.processEvent_of_not_handles hh hcs hims, submit_none]
  cases event with
  | switchState => exact nomatch h
  | newActiveOttCall | callTypeCsChangeIms | callTypeImsChangeCs =>
    cases hc : c.currentState <;> rfl
  | _ =>
    split_ifs with hh
    · rfl
    · exact hnone hh (by decide) (by decide)

/-- Taking an event that sets no scene. -/
theorem takeEvent_cons (hq : c.queue = event :: queue) (htarget : event.target = none) :
    c.takeEvent =
      if c.currentState.Handles event then
        { c with queue := queue }.submit (c.currentState.processEvent c.processor event)
      else { c with queue := queue } := by
  unfold takeEvent
  rw [hq]
  exact processEventInner_eq htarget

theorem takeEvent_target (hq : c.queue = event :: queue) {t : AudioScene}
    (htarget : event.target = some t) :
    c.takeEvent = { c with queue := queue, currentState := t } := by
  unfold takeEvent
  rw [hq]
  cases event with
  | switchState t' =>
    cases htarget
    rfl
  | _ => simp [AudioEvent.target] at htarget

theorem takeEvent_none (hq : c.queue = event :: queue) (hh : c.currentState.Handles event)
    (hp : c.currentState.processEvent c.processor event = none) :
    c.takeEvent = { c with queue := queue } := by
  rw [takeEvent_cons hq (AudioScene.target_of_handles hh), if_pos hh, hp, submit_none]

theorem takeEvent_some (hq : c.queue = event :: queue) (hh : c.currentState.Handles event)
    {event' : AudioEvent} (hp : c.currentState.processEvent c.processor event = some event') :
    c.takeEvent = { c with queue := queue ++ [event'] } := by
  rw [takeEvent_cons hq (AudioScene.target_of_handles hh), if_pos hh, hp]
  rfl

/-- The scene switches to itself without a test. -/
theorem settling_selfSwitch_iff :
    Settling { c with currentState := .incoming, queue := queue ++ [.switchState .incoming] } ↔
      EventQueue.Reacts AudioEvent.target AudioScene.Handles .incoming queue ∨
        c.processor.incomingCalls.card ≠ 0 := by
  have hfine : AudioScene.incoming.HasPurpose c.processor ↔ c.processor.incomingCalls.card ≠ 0 := by
    rw [AudioScene.hasPurpose_iff]
    simp [AudioScene.ownCallNumber, AudioScene.ownSets, CallStateProcessor.calls]
  have hswitch : ∀ scene, ¬ EventQueue.Reacts AudioEvent.target AudioScene.Handles scene
      [.switchState .incoming] := by
    rintro scene (h | h)
    · exact nomatch AudioScene.target_of_handles h
    · exact h
  unfold Settling EventQueue.Settling
  dsimp only
  rw [EventQueue.settled_append, EventQueue.reacts_append, or_iff_left (hswitch _), ← hfine,
    or_comm]
  exact Iff.rfl

/-- **Taking an event.** Exactly under `TakeOk` the control stays settling. -/
theorem settling_takeEvent_iff (hq : c.queue = event :: queue) (hc : Settling c) :
    Settling c.takeEvent ↔ TakeOk c event queue := by
  unfold Settling at hc
  rw [hq] at hc
  by_cases hh : c.currentState.Handles event
  swap
  · -- the scene does not handle the event
    refine iff_of_true ?_ fun h => absurd h hh
    cases htarget : event.target with
    | some t =>
      rw [takeEvent_target hq htarget]
      exact EventQueue.settling_target htarget hh hc
    | none =>
      rw [takeEvent_cons hq htarget, if_neg hh]
      exact EventQueue.settling_cons htarget hc fun h => absurd h hh
  unfold TakeOk
  rw [← AudioScene.processEvent_isSome_iff hh]
  simp only [hh, true_imp_iff]
  cases hp : c.currentState.processEvent c.processor event with
  | none =>
    -- the incoming scene never declines a new incoming call
    have hself : ¬ (c.currentState = .incoming ∧ event = .newIncomingCall) := by
      rintro ⟨hscene, hevent⟩
      rw [hscene, hevent] at hp
      exact nomatch hp
    rw [takeEvent_none hq hh hp, if_neg hself]
    simp only [Option.isSome_none, Bool.false_eq_true, false_or]
    rw [← AudioScene.hasPurpose_iff, or_comm]
    exact Iff.rfl
  | some event' =>
    rw [takeEvent_some hq hh hp]
    obtain ⟨t, rfl, -, hpurpose⟩ := AudioScene.processEvent_target hh hp
    by_cases hself : c.currentState = .incoming ∧ event = .newIncomingCall
    · rw [if_pos hself]
      obtain ⟨hscene, hevent⟩ := hself
      rw [hscene, hevent] at hp
      cases hp
      rw [hscene, ← settling_selfSwitch_iff, ← hscene]
    · rw [if_neg hself]
      refine iff_of_true (EventQueue.settling_concat rfl ?_) (.inr (.inl rfl))
      exact hpurpose.resolve_right fun h => hself ⟨h.1, h.2.1⟩

/-- Exactly under `ServeOk` the control stays covered. -/
theorem covered_takeEvent_iff (hq : c.queue = event :: queue) (hc : Covered c) :
    Covered c.takeEvent ↔ ServeOk c event queue := by
  unfold Covered at hc
  rw [hq] at hc
  by_cases hh : c.currentState.Handles event
  swap
  · refine iff_of_true ?_ fun hscene h => absurd (hscene ▸ h) hh
    cases htarget : event.target with
    | some t =>
      rw [takeEvent_target hq htarget]
      exact EventQueue.covered_target htarget hh hc
    | none =>
      rw [takeEvent_cons hq htarget, if_neg hh]
      exact EventQueue.covered_cons htarget hc fun h => absurd h hh
  have htarget := AudioScene.target_of_handles hh
  cases hp : c.currentState.processEvent c.processor event with
  | some event' =>
    rw [takeEvent_some hq hh hp]
    obtain ⟨t, rfl, hserves, -⟩ := AudioScene.processEvent_target hh hp
    refine iff_of_true (EventQueue.covered_concat rfl hserves) fun hscene _ _ => .inl ?_
    rw [← hscene, ← AudioScene.processEvent_isSome_iff hh, hp]
    rfl
  | none =>
    rw [takeEvent_none hq hh hp]
    by_cases hlast : c.currentState = .inactive ∧
        ∀ e ∈ queue, e.target = none ∧ ¬ AudioScene.inactive.Handles e
    · -- nothing is left that would move the inactive scene
      obtain ⟨hscene, hqueue⟩ := hlast
      have hdeclined : ¬ AudioScene.inactive.Switches c.processor event := by
        rw [← hscene, ← AudioScene.processEvent_isSome_iff hh, hp]
        decide
      have hcovered : Covered { c with queue := queue } ↔ ¬ c.processor.HasLive := by
        unfold Covered EventQueue.Covered
        dsimp only
        rw [EventQueue.handledLast_iff_mem fun e he => (hqueue e he).1,
          EventQueue.settled_of_no_target fun e he => (hqueue e he).1, hscene]
        refine ⟨fun h => ?_, fun h => .inl fun _ => h⟩
        rcases h with h | ⟨e, he, hhandles⟩
        · exact h rfl
        · exact absurd hhandles (hqueue e he).2
      rw [hcovered, AudioScene.hasLive_iff]
      constructor
      · exact fun h _ _ _ => .inr h
      · intro h
        exact (h hscene (hscene ▸ hh) hqueue).resolve_left hdeclined
    · refine iff_of_true (EventQueue.covered_cons htarget hc fun _ hqueue => ?_) ?_
      · by_cases hscene : c.currentState = .inactive
        · have hhandled : ∃ e ∈ queue, AudioScene.inactive.Handles e := by
            by_contra hnone
            exact hlast ⟨hscene, fun e he => ⟨hqueue e he, fun h => hnone ⟨e, he, h⟩⟩⟩
          refine .inr ((EventQueue.handledLast_iff_mem hqueue).mpr ?_)
          rw [hscene]
          exact hhandled
        · refine .inl fun h => absurd ?_ hscene
          rw [← h, EventQueue.settled_of_no_target hqueue]
      · exact fun hscene _ hqueue => absurd ⟨hscene, hqueue⟩ hlast

end AudioControl

/-! ## An update -/

/-- The event that tells of a set that is empty now. -/
def CallSet.noMoreEvent : CallSet → AudioEvent
  | .active => .noMoreActiveCall
  | .holding => .noMoreHoldingCall
  | .alerting => .noMoreAlertingCall
  | .incoming => .noMoreIncomingCall
  | .dialing => .noMoreDialingCall

theorem AudioScene.handles_noMoreEvent {scene : AudioScene} {k : CallSet}
    (h : k ∈ scene.ownSets) : scene.Handles k.noMoreEvent := by
  cases scene <;> cases k <;> first | decide | exact absurd h (by decide)

namespace AudioControl

variable {p : CallStateProcessor} {c : AudioControl} {callType : CallType} {callId : ℤ}
  {prior next : TelCallState} {k : CallSet} {scene : AudioScene}

theorem priorEvent_of_empty (hk : prior.callSet = some k) (h : p.calls k = ∅) :
    priorEvent p prior = some k.noMoreEvent := by
  cases prior <;> cases hk <;>
    simp_all [priorEvent, CallStateProcessor.getCallNumber, CallStateProcessor.calls,
      CallSet.noMoreEvent]

/-- The events of an update that enters the scenes. -/
def enterEvents (c : AudioControl) (callType : CallType) (callId : ℤ)
    (prior next : TelCallState) : List AudioEvent :=
  (nextEvent callType next).toList ++
    if prior = next then []
    else (priorEvent ((c.processor.addCall callId next).deleteCall callId prior) prior).toList

theorem enterScenes_eq :
    c.enterScenes callType callId prior next =
      { c with
        processor :=
          if prior = next then c.processor.addCall callId next
          else (c.processor.addCall callId next).deleteCall callId prior
        queue := c.queue ++ c.enterEvents callType callId prior next } := by
  unfold enterScenes enterEvents
  split_ifs <;> simp [handleNextState, handlePriorState, submit]

theorem enterScenes_queue :
    (c.enterScenes callType callId prior next).queue =
      c.queue ++ c.enterEvents callType callId prior next := by
  rw [enterScenes_eq]

theorem enterScenes_currentState :
    (c.enterScenes callType callId prior next).currentState = c.currentState := by
  rw [enterScenes_eq]

theorem enterScenes_answeredByPhone :
    (c.enterScenes callType callId prior next).answeredByPhone = c.answeredByPhone := by
  rw [enterScenes_eq]

theorem target_of_mem_enterEvents {event : AudioEvent}
    (h : event ∈ c.enterEvents callType callId prior next) : event.target = none := by
  rw [enterEvents, List.mem_append] at h
  rcases h with h | h
  · cases next <;> cases callType <;> simp [nextEvent] at h <;> rw [h] <;> rfl
  · split_ifs at h
    · exact nomatch h
    · cases prior <;> simp only [priorEvent] at h <;> (try split_ifs at h) <;> simp at h <;>
        rw [h] <;> rfl

theorem mem_calls_enterScenes {x : ℤ} :
    x ∈ (c.enterScenes callType callId prior next).processor.calls k ↔
      (x ∈ c.processor.calls k ∨
        (x = callId ∧ (next.callSet = some k ∨ (next = .answered ∧ k = .active)))) ∧
      (prior ≠ next → prior.callSet = some k → x ≠ callId) := by
  rw [enterScenes_eq]
  dsimp only
  split_ifs with h
  · simp [h, CallStateProcessor.mem_calls_addCall]
  · simp [h, CallStateProcessor.mem_calls_addCall, CallStateProcessor.mem_calls_deleteCall]

theorem mem_calls_enterScenes_of_ne {x : ℤ} (hx : x ∈ c.processor.calls k) (hne : x ≠ callId) :
    x ∈ (c.enterScenes callType callId prior next).processor.calls k :=
  mem_calls_enterScenes.mpr ⟨.inl hx, fun _ _ => hne⟩

/-- A set that the prior state empties is told of. -/
theorem noMoreEvent_mem_enterEvents (hne : prior ≠ next) (hk : prior.callSet = some k)
    (hempty : (c.enterScenes callType callId prior next).processor.calls k = ∅) :
    k.noMoreEvent ∈ c.enterEvents callType callId prior next := by
  rw [enterScenes_eq] at hempty
  simp only [hne, if_false] at hempty
  simp [enterEvents, hne, priorEvent_of_empty hk hempty]

theorem settling_enterScenes {c' : AudioControl} (hqueue : c'.queue = c.queue)
    (hscene : c'.currentState = c.currentState) (h : c.Settling)
    (hfine : c.settled.HasPurpose c.processor →
      c.settled.HasPurpose (c'.enterScenes callType callId prior next).processor ∨
        ∃ e ∈ c'.enterEvents callType callId prior next, c.settled.Handles e) :
    (c'.enterScenes callType callId prior next).Settling := by
  unfold Settling
  rw [enterScenes_queue, enterScenes_currentState, hqueue, hscene]
  exact EventQueue.settling_append (fun e he => target_of_mem_enterEvents he) h hfine

theorem covered_enterScenes {c' : AudioControl} (hqueue : c'.queue = c.queue)
    (hscene : c'.currentState = c.currentState) (h : c.Covered)
    (hfine : c.settled.ServesCalls c.processor →
      c.settled.ServesCalls (c'.enterScenes callType callId prior next).processor ∨
        ∃ e ∈ c'.enterEvents callType callId prior next, c.settled.Handles e) :
    (c'.enterScenes callType callId prior next).Covered := by
  unfold Covered
  rw [enterScenes_queue, enterScenes_currentState, hqueue, hscene]
  exact EventQueue.covered_append (fun e he => target_of_mem_enterEvents he) h hfine

/-- Whether a scene keeps its purpose, when calls other than one stay where they are. -/
theorem hasPurpose_or_left {p' : CallStateProcessor} (h : scene.HasPurpose p)
    (hmem : ∀ k x, x ∈ p.calls k → x ≠ callId → x ∈ p'.calls k) :
    scene.HasPurpose p' ∨
      ∃ k ∈ scene.ownSets, callId ∈ p.calls k ∧ callId ∉ p'.calls k := by
  rcases h with h | ⟨k, hk, hne⟩
  · exact .inl (.inl h)
  · obtain ⟨x, hx⟩ := Finset.nonempty_iff_ne_empty.mpr hne
    by_cases hx' : x ∈ p'.calls k
    · exact .inl (.inr ⟨k, hk, Finset.ne_empty_of_mem hx'⟩)
    · have hxc : x = callId := by
        by_contra hxc
        exact hx' (hmem k x hx hxc)
      subst hxc
      exact .inr ⟨k, hk, hx, hx'⟩

/-- A scene that loses the call by its prior state is told so, or has others. -/
theorem hasPurpose_or_event_of_prior (hown : k ∈ scene.ownSets) (hne : prior ≠ next)
    (hk : prior.callSet = some k) :
    scene.HasPurpose (c.enterScenes callType callId prior next).processor ∨
      ∃ e ∈ c.enterEvents callType callId prior next, scene.Handles e := by
  by_cases hempty : (c.enterScenes callType callId prior next).processor.calls k = ∅
  · refine .inr ⟨k.noMoreEvent, ?_, AudioScene.handles_noMoreEvent hown⟩
    exact noMoreEvent_mem_enterEvents hne hk hempty
  · exact .inl (.inr ⟨k, hown, hempty⟩)

/-- An update that enters the scenes keeps the control settling if a scene
    that loses the call is told so, or has others. -/
theorem settling_enterScenes_of_left {c' : AudioControl}
    (h : c.Settling) (hqueue : c'.queue = c.queue)
    (hscene : c'.currentState = c.currentState)
    (hmem : ∀ k x, x ∈ c.processor.calls k → x ≠ callId → x ∈ c'.processor.calls k)
    (hleft : ∀ k ∈ c.settled.ownSets, callId ∈ c.processor.calls k →
      callId ∉ (c'.enterScenes callType callId prior next).processor.calls k →
      c.settled.HasPurpose (c'.enterScenes callType callId prior next).processor ∨
        ∃ e ∈ c'.enterEvents callType callId prior next, c.settled.Handles e) :
    (c'.enterScenes callType callId prior next).Settling := by
  refine settling_enterScenes hqueue hscene h fun hp => ?_
  have hmem' : ∀ k x, x ∈ c.processor.calls k → x ≠ callId →
      x ∈ (c'.enterScenes callType callId prior next).processor.calls k := fun k x hx hne =>
    mem_calls_enterScenes_of_ne (hmem k x hx hne) hne
  rcases hasPurpose_or_left hp hmem' with hp' | ⟨k, hk, hx, hx'⟩
  · exact .inl hp'
  · exact hleft k hk hx hx'

/-- An update that drops no call silently and enters the scenes. -/
theorem settling_hasPurpose_of_enter (h : c.Settling) :
    (c.enterScenes callType callId prior next).Settling := by
  refine settling_enterScenes_of_left h rfl rfl (fun _ _ hx _ => hx) fun k hk hx hx' => ?_
  rw [mem_calls_enterScenes, not_and] at hx'
  have hprior := hx' (.inl hx)
  simp only [Classical.not_imp, ne_eq, not_true_eq_false, not_false_eq_true, and_true] at hprior
  exact hasPurpose_or_event_of_prior hk hprior.1 hprior.2

theorem priorEvent_incoming (hprior : prior = .incoming ∨ prior = .waiting) :
    priorEvent p prior = some .noMoreIncomingCall := by
  rcases hprior with rfl | rfl <;> rfl

theorem noMoreIncomingCall_mem_enterEvents (hprior : prior = .incoming ∨ prior = .waiting)
    (hne : prior ≠ next) :
    .noMoreIncomingCall ∈ c.enterEvents callType callId prior next := by
  simp [enterEvents, hne, priorEvent_incoming hprior]

/-- The scene that owns the active calls hears of the incoming ones too. -/
theorem handles_noMoreIncomingCall (h : .active ∈ scene.ownSets ∨ .incoming ∈ scene.ownSets) :
    scene.Handles .noMoreIncomingCall := by
  cases scene <;> revert h <;> decide

/-- An answered call that ends as ACTIVE, INCOMING or WAITING: the scene of a
    call in progress is told by the event of that state. -/
theorem settling_hasPurpose_of_end (h : c.Settling) (hne : prior ≠ next)
    (hprior : prior ∈ [TelCallState.active, .incoming, .waiting])
    {c' : AudioControl} (hc' : c' = { c with processor := c.processor.deleteCall callId .active }) :
    (c'.enterScenes callType callId prior next).Settling := by
  subst hc'
  have hmem : ∀ k x, x ∈ c.processor.calls k → x ≠ callId →
      x ∈ (c.processor.deleteCall callId .active).calls k := fun k x hx hne =>
    CallStateProcessor.mem_calls_deleteCall.mpr ⟨hx, fun _ => hne⟩
  refine settling_enterScenes_of_left h rfl rfl hmem fun k hk hx hx' => ?_
  have hleft : k = .active ∨ prior.callSet = some k := by
    by_contra hk'
    rw [not_or] at hk'
    refine hx' (mem_calls_enterScenes.mpr ⟨.inl ?_, fun _ h => absurd h hk'.2⟩)
    exact CallStateProcessor.mem_calls_deleteCall.mpr
      ⟨hx, fun h => absurd (Option.some.inj h).symm hk'.1⟩
  simp only [List.mem_cons, List.not_mem_nil, or_false] at hprior
  rcases hprior with rfl | hprior
  · have hk' : k = .active := hleft.elim id fun h => (Option.some.inj h).symm
    subst hk'
    exact hasPurpose_or_event_of_prior hk hne rfl
  · have hset : prior.callSet = some .incoming := by rcases hprior with rfl | rfl <;> rfl
    refine .inr ⟨_, noMoreIncomingCall_mem_enterEvents hprior hne, ?_⟩
    refine handles_noMoreIncomingCall ?_
    rcases hleft with rfl | hk'
    · exact .inl hk
    · rw [hset] at hk'
      cases hk'
      exact .inr hk

theorem mem_ownSets_of_handles (h : scene.Handles k.noMoreEvent) : k ∈ scene.ownSets := by
  cases scene <;> cases k <;> first | decide | exact absurd h (by decide)

theorem noMoreEvent_of_mem_enterEvents {event : AudioEvent}
    (hnext : next = .disconnecting ∨ next = .disconnected)
    (h : event ∈ c.enterEvents callType callId prior next) :
    ∃ k, prior.callSet = some k ∧ event = k.noMoreEvent := by
  have hnone : nextEvent callType next = none := by rcases hnext with rfl | rfl <;> rfl
  rw [enterEvents, hnone] at h
  split_ifs at h
  · exact nomatch h
  · cases prior <;> simp only [priorEvent] at h <;> (try split_ifs at h) <;> simp at h <;>
      exact ⟨_, rfl, h⟩

/-- Only the scenes of a call in progress have more than one set. -/
theorem ne_active_of_mem_ownSets {k' : CallSet} (hk : k ∈ scene.ownSets) (hk' : k' ∈ scene.ownSets)
    (hset : prior.callSet = some k) (hprior : prior ∉ [TelCallState.active, .incoming, .waiting]) :
    k' ≠ .active := by
  rintro rfl
  have hk : k = .active ∨ k = .incoming := by
    cases scene <;> cases k <;> first | decide | exact absurd hk (by decide) |
      exact absurd hk' (by decide)
  rcases hk with rfl | rfl <;> cases prior <;> simp_all [TelCallState.callSet]

/-- An answered call that ends in another state: the events of its end do not
    make up for the active set, which the call leaves without one. -/
theorem settling_hasPurpose_end_iff (h : c.Settling)
    (hnext : next = .disconnecting ∨ next = .disconnected)
    (hprior : prior ∉ [TelCallState.active, .incoming, .waiting])
    {c' : AudioControl} (hc' : c' = { c with processor := c.processor.deleteCall callId .active }) :
    (c'.enterScenes callType callId prior next).Settling ↔ c'.Settling := by
  refine ⟨fun h' => ?_, settling_hasPurpose_of_enter⟩
  subst hc'
  unfold Settling EventQueue.Settling at h'
  rw [enterScenes_queue, enterScenes_currentState, EventQueue.settled_append,
    EventQueue.settled_of_no_target fun e he => target_of_mem_enterEvents he,
    EventQueue.reacts_append,
    EventQueue.reacts_iff_mem fun e he => target_of_mem_enterEvents he] at h'
  rcases h' with (hscene | ⟨k, hk, hne⟩) | hreacts | ⟨e, he, hh⟩
  · exact .inl (.inl hscene)
  · obtain ⟨x, hx⟩ := Finset.nonempty_iff_ne_empty.mpr hne
    refine .inl (.inr ⟨k, hk, ?_⟩)
    rcases (mem_calls_enterScenes.mp hx).1 with hx | ⟨-, hset | ⟨hans, -⟩⟩
    · exact Finset.ne_empty_of_mem hx
    · rcases hnext with rfl | rfl <;> exact nomatch hset
    · rcases hnext with rfl | rfl <;> exact nomatch hans
  · exact .inr hreacts
  · -- the event is that of a set other than the active one, which still has its calls
    obtain ⟨k, hk, rfl⟩ := noMoreEvent_of_mem_enterEvents hnext he
    have hown := mem_ownSets_of_handles hh
    rcases h with (hscene | ⟨k', hk', hne⟩) | hreacts
    · exact .inl (.inl hscene)
    · have hk'' : k' ≠ .active := ne_active_of_mem_ownSets hown hk' hk hprior
      refine .inl (.inr ⟨k', hk', ?_⟩)
      obtain ⟨x, hx⟩ := Finset.nonempty_iff_ne_empty.mpr hne
      refine Finset.ne_empty_of_mem (CallStateProcessor.mem_calls_deleteCall.mpr ⟨hx, fun h => ?_⟩)
      exact absurd (Option.some.inj h).symm hk''
    · exact .inr hreacts

/-- A call that is taken out of a set without an event. -/
theorem settling_deleteCall_iff {state : TelCallState} :
    Settling { c with processor := c.processor.deleteCall callId state } ↔
      c.Reacts ∨ c.settled = .inactive ∨
        ∃ k ∈ c.settled.ownSets, ∃ x ∈ c.processor.calls k,
          x = callId → state.callSet ≠ some k := by
  have hcalls : ∀ k, (c.processor.deleteCall callId state).calls k ≠ ∅ ↔
      ∃ x ∈ c.processor.calls k, x = callId → state.callSet ≠ some k := by
    intro k
    rw [← Finset.nonempty_iff_ne_empty]
    refine exists_congr fun x => ?_
    rw [CallStateProcessor.mem_calls_deleteCall]
    exact and_congr_right fun _ => ⟨fun h hx hk => h hk hx, fun h hk hx => h hx hk⟩
  have hpurpose : c.settled.HasPurpose (c.processor.deleteCall callId state) ↔
      c.settled = .inactive ∨ ∃ k ∈ c.settled.ownSets, ∃ x ∈ c.processor.calls k,
        x = callId → state.callSet ≠ some k :=
    or_congr_right (exists_congr fun k => and_congr_right fun _ => hcalls k)
  rw [← hpurpose, or_comm]
  exact Iff.rfl

/-- **An update and the purpose of the scene.** Exactly under `DropOk` the
    control stays settling. -/
theorem settling_hasPurpose_iff {u : StateUpdate} (h : c.Settling) :
    (c.handleCallStateUpdated u.callType u.callId u.priorState u.nextState).Settling ↔
      c.DropOk u := by
  obtain ⟨callType, callId, prior, next⟩ := u
  unfold handleCallStateUpdated preHandleAnswerdState DropOk droppedState
  dsimp only
  by_cases hfirst : callId ∉ c.answeredByPhone ∧ next = .answered ∧ prior = .incoming
  · -- the notice of the answer: the call leaves the incoming ones
    obtain ⟨hanswered, rfl, rfl⟩ := hfirst
    simp only [hanswered, not_false_eq_true, and_self, if_true, if_false, iff_true]
    have hmem : ∀ k x, x ∈ c.processor.calls k → x ≠ callId →
        x ∈ (c.processor.deleteCall callId .incoming).calls k := fun k x hx hne =>
      CallStateProcessor.mem_calls_deleteCall.mpr ⟨hx, fun _ => hne⟩
    refine settling_enterScenes_of_left h rfl rfl hmem fun k hk hx hx' => .inr ?_
    refine ⟨_, noMoreIncomingCall_mem_enterEvents (.inl rfl) (by decide), ?_⟩
    refine handles_noMoreIncomingCall (.inr ?_)
    by_contra hown
    refine hx' (mem_calls_enterScenes.mpr ⟨.inl ?_, fun _ hk' => ?_⟩)
    · refine CallStateProcessor.mem_calls_deleteCall.mpr ⟨hx, fun hk' => ?_⟩
      cases hk'
      exact absurd hk hown
    · cases hk'
      exact absurd hk hown
  · rw [if_neg hfirst]
    by_cases hanswered : callId ∈ c.answeredByPhone
    · simp only [hanswered, if_true]
      by_cases hskip : skipsAnswered prior next = true
      · -- an answered call that does not enter the scenes
        simp only [hskip, if_true]
        exact settling_deleteCall_iff
      · simp only [hskip, Bool.false_eq_true, if_false]
        by_cases hend : next = .disconnecting ∨ next = .disconnected
        · simp only [if_pos hend, if_true]
          by_cases hprior : prior ∉ [TelCallState.active, .incoming, .waiting]
          · rw [if_pos ⟨hend, hprior⟩]
            exact (settling_hasPurpose_end_iff h hend hprior rfl).trans settling_deleteCall_iff
          · rw [if_neg fun h => hprior h.2]
            refine iff_of_true (settling_hasPurpose_of_end h ?_ (not_not.mp hprior) rfl) trivial
            rintro rfl
            rcases hend with rfl | rfl <;> exact hprior (by decide)
        · simp only [if_neg hend, if_true]
          rw [if_neg fun h => hend h.1]
          exact iff_of_true (settling_hasPurpose_of_enter h) trivial
    · simp only [hanswered, if_false, iff_true]
      exact settling_hasPurpose_of_enter h

/-- A call that becomes active, ringing, dialing or alerting is announced. -/
theorem handles_nextEvent (htype : callType ∈ [CallType.cs, .ims, .bluetooth, .satellite])
    (h : (∃ k ∈ [CallSet.active, .incoming, .dialing, .alerting], next.callSet = some k) ∨
      next = .answered) :
    ∃ e ∈ nextEvent callType next, AudioScene.inactive.Handles e := by
  simp only [List.mem_cons, List.not_mem_nil, or_false] at htype
  cases next with
  | dialing | alerting | incoming | waiting => exact ⟨_, rfl, by decide⟩
  | active | answered =>
    rcases htype with rfl | rfl | rfl | rfl
    · exact ⟨_, rfl, by decide⟩
    · exact ⟨_, rfl, by decide⟩
    · exact ⟨_, rfl, by decide⟩
    · exact ⟨_, rfl, by decide⟩
  | _ => exact absurd h (by decide)

theorem servesCalls_or_event {c' : AudioControl}
    (htype : callType ∈ [CallType.cs, .ims, .bluetooth, .satellite])
    (hsub : ∀ k, c'.processor.calls k ⊆ c.processor.calls k)
    (h : scene.ServesCalls c.processor) :
    scene.ServesCalls (c'.enterScenes callType callId prior next).processor ∨
      ∃ e ∈ c'.enterEvents callType callId prior next, scene.Handles e := by
  by_cases hscene : scene = .inactive
  · subst hscene
    by_cases hlive : (∃ k ∈ [CallSet.active, .incoming, .dialing, .alerting],
        next.callSet = some k) ∨ next = .answered
    · obtain ⟨e, he, hh⟩ := handles_nextEvent htype hlive
      exact .inr ⟨e, List.mem_append_left _ (by simpa using he), hh⟩
    · left
      rw [not_or] at hlive
      rintro - ⟨k, hk, hne⟩
      obtain ⟨x, hx⟩ := Finset.nonempty_iff_ne_empty.mpr hne
      refine h rfl ⟨k, hk, ?_⟩
      rcases (mem_calls_enterScenes.mp hx).1 with hx | ⟨-, hset | ⟨hans, -⟩⟩
      · exact Finset.ne_empty_of_mem (hsub k hx)
      · exact absurd ⟨k, hk, hset⟩ hlive.1
      · exact absurd hans hlive.2
  · exact .inl fun h => absurd h hscene

/-- **An update and the live calls.** -/
theorem covered_handleCallStateUpdated
    (htype : callType ∈ [CallType.cs, .ims, .bluetooth, .satellite]) (h : c.Covered) :
    (c.handleCallStateUpdated callType callId prior next).Covered := by
  have hsub : ∀ state k, (c.processor.deleteCall callId state).calls k ⊆ c.processor.calls k :=
    fun state k x hx => (CallStateProcessor.mem_calls_deleteCall.mp hx).1
  unfold handleCallStateUpdated preHandleAnswerdState
  split_ifs
  · dsimp only
    rw [if_pos rfl]
    exact covered_enterScenes (c := c) rfl rfl h (servesCalls_or_event htype (hsub prior))
  · dsimp only
    rw [if_neg (by decide)]
    refine h.imp_left fun hserves hscene hlive => ?_
    obtain ⟨k, hk, hne⟩ := hlive
    refine hserves hscene ⟨k, hk, fun hempty => hne ?_⟩
    exact Finset.subset_empty.mp (hempty ▸ hsub prior k)
  · dsimp only
    rw [if_pos rfl]
    exact covered_enterScenes (c := c) rfl rfl h (servesCalls_or_event htype (hsub .active))
  · exact covered_enterScenes rfl rfl h (servesCalls_or_event htype fun _ _ hx => hx)
  · exact covered_enterScenes rfl rfl h (servesCalls_or_event htype fun _ _ hx => hx)

theorem mem_calls_handleCallStateUpdated_of_ne {x : ℤ} (hne : x ≠ callId)
    (h : x ∈ (c.handleCallStateUpdated callType callId prior next).processor.calls k) :
    x ∈ c.processor.calls k := by
  have henter : ∀ c' : AudioControl, (∀ k, c'.processor.calls k ⊆ c.processor.calls k) →
      x ∈ (c'.enterScenes callType callId prior next).processor.calls k →
      x ∈ c.processor.calls k := fun c' hsub h => by
    rcases (mem_calls_enterScenes.mp h).1 with h | h
    · exact hsub k h
    · exact absurd h.1 hne
  have hsub : ∀ state k, (c.processor.deleteCall callId state).calls k ⊆ c.processor.calls k :=
    fun state k x hx => (CallStateProcessor.mem_calls_deleteCall.mp hx).1
  unfold handleCallStateUpdated preHandleAnswerdState at h
  split_ifs at h
  · exact henter _ (hsub prior) h
  · exact hsub prior k h
  · exact henter _ (hsub .active) h
  · exact henter c (fun _ _ hx => hx) h
  · exact henter c (fun _ _ hx => hx) h

theorem answeredByPhone_subset :
    c.answeredByPhone ⊆ (c.handleCallStateUpdated callType callId prior next).answeredByPhone := by
  unfold handleCallStateUpdated preHandleAnswerdState
  split_ifs
  · dsimp only
    rw [if_pos rfl, enterScenes_answeredByPhone]
    exact Finset.subset_insert _ _
  · exact fun _ hx => hx
  · dsimp only
    rw [if_pos rfl, enterScenes_answeredByPhone]
  · dsimp only
    rw [if_pos rfl, enterScenes_answeredByPhone]
  · dsimp only
    rw [if_pos rfl, enterScenes_answeredByPhone]

/-- Where an update leaves its call: in the set of the next state, among the active ones if it
    was answered, or in a set it was in and that is not the one of its prior state. -/
theorem callId_mem_handleCallStateUpdated (hnotice : next = .answered → prior = .incoming)
    (h : callId ∈ (c.handleCallStateUpdated callType callId prior next).processor.calls k) :
    next.callSet = some k ∨
      (next = .answered ∧ k = .active ∧
        callId ∈ (c.handleCallStateUpdated callType callId prior next).answeredByPhone) ∨
      (callId ∈ c.processor.calls k ∧ (prior.callSet = some k → prior = next) ∧
        (callId ∈ c.answeredByPhone → next = .disconnected → k ≠ .active)) := by
  have hprior : (prior ≠ next → prior.callSet = some k → callId ≠ callId) →
      prior.callSet = some k → prior = next := fun h hk => by
    by_contra hne
    exact h hne hk rfl
  unfold handleCallStateUpdated preHandleAnswerdState at h ⊢
  split_ifs at h ⊢ with hfirst hanswered hskip hend
  · obtain ⟨hmem, hk⟩ := mem_calls_enterScenes.mp h
    rcases hmem with hmem | ⟨-, hset | ⟨hans, hactive⟩⟩
    · have hmem := (CallStateProcessor.mem_calls_deleteCall.mp hmem).1
      refine .inr (.inr ⟨hmem, hprior hk, fun hans => absurd hans hfirst.1⟩)
    · exact .inl hset
    · refine .inr (.inl ⟨hans, hactive, ?_⟩)
      dsimp only
      rw [if_pos rfl, enterScenes_answeredByPhone]
      exact Finset.mem_insert_self _ _
  · obtain ⟨hmem, hk⟩ := CallStateProcessor.mem_calls_deleteCall.mp h
    refine .inr (.inr ⟨hmem, fun hset => absurd rfl (hk hset), fun _ hdisc => ?_⟩)
    rw [hdisc] at hskip
    simp [skipsAnswered] at hskip
  · obtain ⟨hmem, hk⟩ := mem_calls_enterScenes.mp h
    rcases hmem with hmem | ⟨-, hset | ⟨hans, -⟩⟩
    · obtain ⟨hmem, hactive⟩ := CallStateProcessor.mem_calls_deleteCall.mp hmem
      refine .inr (.inr ⟨hmem, hprior hk, fun _ _ hk' => ?_⟩)
      exact hactive (by rw [hk']; rfl) rfl
    · exact .inl hset
    · rw [hans] at hend
      exact absurd hend (by decide)
  · obtain ⟨hmem, hk⟩ := mem_calls_enterScenes.mp h
    rcases hmem with hmem | ⟨-, hset | ⟨hans, -⟩⟩
    · exact .inr (.inr ⟨hmem, hprior hk, fun _ hdisc => absurd (.inr hdisc) hend⟩)
    · exact .inl hset
    · -- an answered call takes the notice for one already given
      exact absurd (by simp [skipsAnswered, hans, hnotice hans]) hskip
  · obtain ⟨hmem, hk⟩ := mem_calls_enterScenes.mp h
    rcases hmem with hmem | ⟨-, hset | ⟨hans, -⟩⟩
    · exact .inr (.inr ⟨hmem, hprior hk, fun hans => absurd hans hanswered⟩)
    · exact .inl hset
    · exact absurd ⟨hanswered, hans, hnotice hans⟩ hfirst

end AudioControl

/-! ## Runs -/

namespace AudioWorld

variable {s : AudioWorld} {op : AudioOp} {u : StateUpdate}

/-- The sets hold live calls only: each in the set of its state, but for an
    answered call, which may also be among the active ones. -/
def Tracked (s : AudioWorld) : Prop :=
  ∀ k callId, callId ∈ s.control.processor.calls k →
    ∃ call, s.calls callId = some call ∧ call.state ≠ .disconnected ∧
      (call.state.callSet = some k ∨ (k = .active ∧ callId ∈ s.control.answeredByPhone))

/-- The update an operation delivers, by the three cases. -/
inductive Delivered (s : AudioWorld) : AudioOp → StateUpdate → Prop
  | first (callType : CallType) (callId : ℤ) (state : TelCallState) (hnone : s.calls callId = none)
      (hstate : state ∈ startStates) (htype : callType ≠ .voip) :
      Delivered s (.update callId callType state) ⟨callType, callId, state, state⟩
  | next (call : TrackedCall) (callId : ℤ) (callType : CallType) (nextState : TelCallState)
      (hcall : s.calls callId = some call) (hlive : call.state ≠ .disconnected)
      (hnext : nextState ≠ .answered) :
      Delivered s (.update callId callType nextState)
        ⟨call.callType, callId, call.state, nextState⟩
  | answer (call : TrackedCall) (callId : ℤ) (hcall : s.calls callId = some call)
      (hringing : call.state = .incoming ∨ call.state = .waiting) :
      Delivered s (.answered callId) ⟨call.callType, callId, .incoming, .answered⟩

theorem delivered_of_update? (h : s.update? op = some u) : Delivered s op u := by
  cases op with
  | takeEvent => exact nomatch h
  | update callId callType nextState =>
    simp only [update?] at h
    cases hcall : s.calls callId with
    | none =>
      rw [hcall] at h
      split_ifs at h with hstart
      cases h
      exact .first callType callId nextState hcall hstart.1 hstart.2
    | some call =>
      rw [hcall] at h
      dsimp only at h
      split_ifs at h with hlive
      cases h
      exact .next call callId callType nextState hcall hlive.1 hlive.2
  | answered callId =>
    simp only [update?] at h
    cases hcall : s.calls callId with
    | none => rw [hcall] at h; exact nomatch h
    | some call =>
      rw [hcall] at h
      dsimp only at h
      split_ifs at h with hringing
      cases h
      exact .answer call callId hcall hringing

/-- An operation takes an event, delivers an update, or does nothing. -/
theorem step_cases (s : AudioWorld) (op : AudioOp) :
    (op = .takeEvent ∧ s.step op = { s with control := s.control.takeEvent }) ∨
      (op ≠ .takeEvent ∧ ∃ u, s.update? op = some u ∧ s.step op = s.deliver u) ∨
      (op ≠ .takeEvent ∧ s.step op = s) := by
  cases op with
  | takeEvent => exact .inl ⟨rfl, rfl⟩
  | update callId callType nextState =>
    right
    cases h : s.update? (.update callId callType nextState) with
    | none => exact .inr ⟨nofun, by simp only [step, h]⟩
    | some u => exact .inl ⟨nofun, u, rfl, by simp only [step, h]⟩
  | answered callId =>
    right
    cases h : s.update? (.answered callId) with
    | none => exact .inr ⟨nofun, by simp only [step, h]⟩
    | some u => exact .inl ⟨nofun, u, rfl, by simp only [step, h]⟩

/-- Every call so far is of a type with `T`. -/
def TypesMeet (T : CallType → Prop) (s : AudioWorld) : Prop :=
  ∀ callId call, s.calls callId = some call → T call.callType

theorem typesMeet_deliver {T : CallType → Prop} (hs : s.TypesMeet T) (hu : T u.callType) :
    (s.deliver u).TypesMeet T := by
  intro callId call hcall
  simp only [deliver] at hcall
  split_ifs at hcall
  · exact hs callId call hcall
  · by_cases hid : callId = u.callId
    · rw [hid, Function.update_self] at hcall
      cases hcall
      exact hu
    · rw [Function.update_of_ne hid] at hcall
      exact hs callId call hcall

theorem Delivered.ne_voip (h : Delivered s op u) (hs : s.TypesMeet (· ≠ .voip)) :
    u.callType ≠ .voip := by
  cases h with
  | first _ _ _ _ _ htype => exact htype
  | next call callId _ _ hcall => exact hs callId call hcall
  | answer call callId hcall => exact hs callId call hcall

theorem deliver_control (h : u.callType ≠ .voip) :
    (s.deliver u).control =
      s.control.handleCallStateUpdated u.callType u.callId u.priorState u.nextState :=
  if_neg h

theorem ne_disconnected_of_callSet {state : TelCallState} {k : CallSet}
    (h : state.callSet = some k) : state ≠ .disconnected := by
  rintro rfl
  exact nomatch h

theorem tracked_deliver (hu : Delivered s op u) (htype : u.callType ≠ .voip) (hs : s.Tracked) :
    (s.deliver u).Tracked := by
  intro k callId hmem
  rw [deliver_control htype] at hmem ⊢
  by_cases hid : callId = u.callId
  · subst hid
    cases hu with
    | first callType callId state hnone hstate =>
      have hne : state ≠ .answered := fun h => absurd (h ▸ hstate) (by decide)
      refine ⟨⟨callType, state⟩, by simp [deliver, hne], ?_⟩
      rcases AudioControl.callId_mem_handleCallStateUpdated (fun h => absurd h hne) hmem with
        hset | ⟨hans, -⟩ | ⟨hin, -⟩
      · exact ⟨ne_disconnected_of_callSet hset, .inl hset⟩
      · exact absurd hans hne
      · obtain ⟨call, hcall, -⟩ := hs k callId hin
        exact nomatch hnone.symm.trans hcall
    | next call callId _ nextState hcall hlive hne =>
      refine ⟨⟨call.callType, nextState⟩, by simp [deliver, hne], ?_⟩
      rcases AudioControl.callId_mem_handleCallStateUpdated (fun h => absurd h hne) hmem with
        hset | ⟨hans, -⟩ | ⟨hin, hprior, hdisc⟩
      · exact ⟨ne_disconnected_of_callSet hset, .inl hset⟩
      · exact absurd hans hne
      · obtain ⟨call', hcall', -, hset | ⟨hk, hans⟩⟩ := hs k callId hin
        · cases hcall.symm.trans hcall'
          have hnext : nextState.callSet = some k := hprior hset ▸ hset
          exact ⟨ne_disconnected_of_callSet hnext, .inl hnext⟩
        · refine ⟨fun h => hdisc hans h hk, .inr ⟨hk, ?_⟩⟩
          exact AudioControl.answeredByPhone_subset hans
    | answer call callId hcall hringing =>
      have hlive : call.state ≠ .disconnected := by
        rintro h
        rw [h] at hringing
        exact absurd hringing (by decide)
      refine ⟨call, by simp [deliver, hcall], hlive, ?_⟩
      rcases AudioControl.callId_mem_handleCallStateUpdated (fun _ => rfl) hmem with
        hset | ⟨-, hk, hans⟩ | ⟨hin, hprior, -⟩
      · exact nomatch hset
      · exact .inr ⟨hk, hans⟩
      · obtain ⟨call', hcall', -, hset | ⟨hk, hans⟩⟩ := hs k callId hin
        · cases hcall.symm.trans hcall'
          have hincoming : call.state.callSet = some .incoming := by
            rcases hringing with h | h <;> rw [h] <;> rfl
          cases hincoming.symm.trans hset
          exact nomatch hprior rfl
        · exact .inr ⟨hk, AudioControl.answeredByPhone_subset hans⟩
  · obtain ⟨call, hcall, hlive, hset⟩ :=
      hs k callId (AudioControl.mem_calls_handleCallStateUpdated_of_ne hid hmem)
    refine ⟨call, ?_, hlive, hset.imp_right fun h => ⟨h.1, AudioControl.answeredByPhone_subset h.2⟩⟩
    simp only [deliver]
    split_ifs
    · exact hcall
    · rw [Function.update_of_ne hid, hcall]

theorem takeEvent_processor (c : AudioControl) : c.takeEvent.processor = c.processor := by
  unfold AudioControl.takeEvent
  split
  · rfl
  · rename_i event queue _
    cases event <;> rfl

theorem takeEvent_answeredByPhone (c : AudioControl) :
    c.takeEvent.answeredByPhone = c.answeredByPhone := by
  unfold AudioControl.takeEvent
  split
  · rfl
  · rename_i event queue _
    cases event <;> rfl

/-- What holds in every run: no call of another application, and sets that follow the calls. -/
def Inv (s : AudioWorld) : Prop := s.TypesMeet (· ≠ .voip) ∧ s.Tracked

theorem inv_step (s : AudioWorld) (op : AudioOp) (h : s.Inv) : (s.step op).Inv := by
  rcases s.step_cases op with ⟨-, hstep⟩ | ⟨-, u, hu, hstep⟩ | ⟨-, hstep⟩
  · rw [hstep]
    refine ⟨h.1, fun k callId hmem => ?_⟩
    simp only [takeEvent_processor, takeEvent_answeredByPhone] at hmem ⊢
    exact h.2 k callId hmem
  · rw [hstep]
    have hdel := delivered_of_update? hu
    have htype := hdel.ne_voip h.1
    exact ⟨typesMeet_deliver h.1 htype, tracked_deliver hdel htype h.2⟩
  · rw [hstep]
    exact h

theorem inv_init : init.Inv := by
  refine ⟨fun _ _ h => (nomatch h), fun k callId h => ?_⟩
  cases k <;> exact absurd h (Finset.notMem_empty callId)

/-- **The sets follow the calls.** In every state of every run a set holds live calls only:
    those of its state, or an answered call among the active ones. -/
theorem sets_follow_calls (ops : List AudioOp) : Run.StatesMeet step Tracked init ops :=
  (Run.statesMeet_of_invariant inv_step ops inv_init).mono fun _ h => h.2

/-- Once every call is disconnected the sets are empty. -/
theorem Tracked.processor_eq_init (h : s.Tracked)
    (hall : ∀ callId call, s.calls callId = some call → call.state = .disconnected) :
    s.control.processor = .init := by
  refine CallStateProcessor.eq_init fun k => Finset.eq_empty_of_forall_notMem fun callId hmem => ?_
  obtain ⟨call, hcall, hlive, -⟩ := h k callId hmem
  exact hlive (hall callId call hcall)

/-- Exactly under `SceneOk` a step does not strand the scene. -/
theorem settling_step_iff (s : AudioWorld) (op : AudioOp) (hI : s.Inv) (h : s.control.Settling) :
    (s.step op).control.Settling ↔ s.SceneOk op := by
  have hupdate : ∀ u, s.update? op = some u →
      ((s.deliver u).control.Settling ↔ s.control.DropOk u) := fun u hu => by
    rw [deliver_control ((delivered_of_update? hu).ne_voip hI.1)]
    exact AudioControl.settling_hasPurpose_iff h
  cases op with
  | takeEvent =>
    simp only [step, SceneOk]
    cases hq : s.control.queue with
    | nil =>
      refine iff_of_true ?_ trivial
      rw [AudioControl.takeEvent, hq]
      exact h
    | cons event queue => exact AudioControl.settling_takeEvent_iff hq h
  | update callId callType nextState =>
    simp only [step, SceneOk]
    cases hu : s.update? (.update callId callType nextState) with
    | none => exact iff_of_true h trivial
    | some u => exact hupdate u hu
  | answered callId =>
    simp only [step, SceneOk]
    cases hu : s.update? (.answered callId) with
    | none => exact iff_of_true h trivial
    | some u => exact hupdate u hu

/-- The calls of the modem, of a headset and of a satellite. -/
abbrev IsCarrier (callType : CallType) : Prop := callType ∈ [.cs, .ims, .bluetooth, .satellite]

theorem isCarrier_of_update? (hop : op.Carrier) (hT : s.TypesMeet IsCarrier)
    (hu : s.update? op = some u) : IsCarrier u.callType := by
  cases delivered_of_update? hu with
  | first => exact hop
  | next call callId _ _ hcall => exact hT callId call hcall
  | answer call callId hcall => exact hT callId call hcall

theorem isCarrier_step (s : AudioWorld) (op : AudioOp) (hop : op.Carrier)
    (hT : s.TypesMeet IsCarrier) : (s.step op).TypesMeet IsCarrier := by
  rcases s.step_cases op with ⟨-, hstep⟩ | ⟨-, u, hu, hstep⟩ | ⟨-, hstep⟩
  · rw [hstep]
    exact hT
  · rw [hstep]
    exact typesMeet_deliver hT (isCarrier_of_update? hop hT hu)
  · rw [hstep]
    exact hT

/-- Exactly under `CallOk` a step does not lose a call. -/
theorem covered_step_iff (s : AudioWorld) (op : AudioOp) (hop : op.Carrier)
    (hT : s.TypesMeet IsCarrier) (h : s.control.Covered) :
    (s.step op).control.Covered ↔ s.CallOk op := by
  rcases s.step_cases op with ⟨rfl, hstep⟩ | ⟨hne, u, hu, hstep⟩ | ⟨hne, hstep⟩
  · rw [hstep]
    unfold CallOk
    cases hq : s.control.queue with
    | nil =>
      refine iff_of_true ?_ trivial
      show s.control.takeEvent.Covered
      rw [AudioControl.takeEvent, hq]
      exact h
    | cons event queue => exact AudioControl.covered_takeEvent_iff hq h
  · have htype := isCarrier_of_update? hop hT hu
    have hvoip : u.callType ≠ .voip := fun h => absurd (h ▸ htype) (by decide)
    rw [hstep, deliver_control hvoip]
    refine iff_of_true (AudioControl.covered_handleCallStateUpdated htype h) ?_
    cases op with
    | takeEvent => exact absurd rfl hne
    | _ => trivial
  · rw [hstep]
    refine iff_of_true h ?_
    cases op with
    | takeEvent => exact absurd rfl hne
    | _ => trivial

/-! ## Taking all events -/

/-- If no scene reacts, taking the queued events leaves the scene the control
    settles in, and an empty queue. -/
theorem take_all (h : ¬ s.control.Reacts) :
    Run.run step s (List.replicate s.control.queue.length .takeEvent) =
      { s with control := { s.control with currentState := s.control.settled, queue := [] } } := by
  obtain ⟨⟨processor, scene, queue, answered⟩, calls⟩ := s
  induction queue generalizing scene with
  | nil => rfl
  | cons event queue ih =>
    unfold AudioControl.Reacts EventQueue.Reacts at h
    rw [not_or] at h
    have htake : step ⟨⟨processor, scene, event :: queue, answered⟩, calls⟩ .takeEvent =
        ⟨⟨processor, event.target.getD scene, queue, answered⟩, calls⟩ := by
      simp only [step, AudioControl.takeEvent]
      cases htarget : event.target with
      | some t =>
        cases event with
        | switchState t' => cases htarget; rfl
        | _ => simp [AudioEvent.target] at htarget
      | none =>
        rw [AudioControl.processEventInner_eq htarget, if_neg h.1]
        rfl
    simp only [List.length_cons, List.replicate_succ, Run.run_cons, htake]
    exact ih _ h.2

/-- A step that does not meet `SceneOk` strands the scene: once the queued
    events are taken it is not the inactive one and has no calls of its own. -/
theorem not_sceneOk_strands (hI : s.Inv) (h : s.control.Settling) (hop : ¬ s.SceneOk op) :
    ∃ ops, (Run.run step (s.step op) ops).control.queue = [] ∧
      ¬ (Run.run step (s.step op) ops).control.currentState.HasPurpose
        (Run.run step (s.step op) ops).control.processor := by
  rw [← settling_step_iff s op hI h] at hop
  unfold AudioControl.Settling EventQueue.Settling at hop
  rw [not_or] at hop
  refine ⟨List.replicate (s.step op).control.queue.length .takeEvent, ?_⟩
  rw [take_all hop.2]
  exact ⟨rfl, hop.1⟩

/-- A step that does not meet `CallOk` loses a call: once the queued events are
    taken the scene is the inactive one, and there are live calls. -/
theorem not_callOk_loses (hop : ¬ s.CallOk op) :
    ∃ ops, ¬ ActiveDuringCalls (Run.run step (s.step op) ops) := by
  cases op with
  | update | answered => exact absurd trivial hop
  | takeEvent =>
    unfold CallOk at hop
    cases hq : s.control.queue with
    | nil =>
      rw [hq] at hop
      exact absurd trivial hop
    | cons event queue =>
      rw [hq] at hop
      simp only [AudioControl.ServeOk, Classical.not_imp, not_or] at hop
      obtain ⟨hscene, hhandles, hqueue, hswitches, hlive⟩ := hop
      have hhandles' : s.control.currentState.Handles event := hscene ▸ hhandles
      have hnone : s.control.currentState.processEvent s.control.processor event = none := by
        rw [← Option.not_isSome_iff_eq_none, AudioScene.processEvent_isSome_iff hhandles', hscene]
        exact hswitches
      have hstep : s.step .takeEvent = { s with control := { s.control with queue := queue } } := by
        show { s with control := s.control.takeEvent } = _
        rw [AudioControl.takeEvent_none hq hhandles' hnone]
      rw [hstep]
      have hreacts : ¬ AudioControl.Reacts { s.control with queue := queue } := by
        unfold AudioControl.Reacts
        rw [EventQueue.reacts_iff_mem fun e he => (hqueue e he).1]
        rintro ⟨e, he, hh⟩
        exact (hqueue e he).2 (hscene ▸ hh)
      refine ⟨List.replicate queue.length .takeEvent, ?_⟩
      have htaken := take_all (s := { s with control := { s.control with queue := queue } }) hreacts
      rw [htaken]
      intro hactive
      refine hlive (AudioScene.hasLive_iff.mp fun h => hactive rfl h ?_)
      exact (EventQueue.settled_of_no_target fun e he => (hqueue e he).1).trans hscene

/-! ## Main results -/

/-- The scene settles in one with a purpose throughout a run iff no step of it
    strands the scene. -/
theorem scene_settles_iff (ops : List AudioOp) :
    Run.StatesMeet step (fun s => s.control.Settling) init ops ↔
      Run.StepsMeet step SceneOk init ops :=
  Run.statesMeet_iff_stepsMeet_of_invariant inv_step settling_step_iff ops inv_init
    (.inl (.inl rfl))

/-- **The scene after the calls.** For any calls but those of other applications and any
    interleaving of their updates and of the taking of events: if no step strands the scene,
    then whenever every call is disconnected and the queue is empty, the five sets are empty and
    the scene is inactive. -/
theorem scene_inactive_after_calls (ops : List AudioOp)
    (h : Run.StepsMeet step SceneOk init ops) :
    Run.StatesMeet step InactiveAfterCalls init ops := by
  have hsettling := (scene_settles_iff ops).mpr h
  refine (hsettling.and (sets_follow_calls ops)).mono fun s hs hqueue hall => ?_
  have hinit := hs.2.processor_eq_init hall
  refine ⟨hinit, ?_⟩
  -- nothing is queued, so the scene has its purpose now
  have hnow := hs.1
  unfold AudioControl.Settling EventQueue.Settling at hnow
  rw [hqueue, hinit] at hnow
  rcases hnow with (hscene | ⟨k, -, hne⟩) | hreacts
  · exact hscene
  · cases k <;> exact absurd rfl hne
  · exact hreacts.elim

/-- A call that is dialed, becomes active and ends, each event taken before the next update. -/
def oneCall : List AudioOp :=
  [.update 1 .cs .dialing, .takeEvent, .takeEvent, .update 1 .cs .active, .takeEvent, .takeEvent,
    .takeEvent, .update 1 .cs .disconnected, .takeEvent, .takeEvent]

theorem scene_inactive_after_one_call : Run.StatesMeet step InactiveAfterCalls init oneCall :=
  scene_inactive_after_calls oneCall (by decide)

/-- A dialed call and another become active before the queue takes the event of
    the first, and both end. -/
def twoCallsActive : List AudioOp :=
  [.update 1 .cs .dialing, .takeEvent, .takeEvent, .update 1 .cs .active, .update 2 .cs .active,
    .takeEvent, .takeEvent, .takeEvent, .update 1 .cs .disconnected, .update 2 .cs .disconnected,
    .takeEvent]

/-- With two active calls neither event switches the scene, and the scene for
    dialing does not hear of the end of the active ones. -/
theorem scene_left_dialing :
    ¬ Run.StatesMeet step InactiveAfterCalls init twoCallsActive ∧
      (Run.run step init twoCallsActive).control = ⟨.init, .dialing, [], ∅⟩ := by
  have hcontrol : (Run.run step init twoCallsActive).control = ⟨.init, .dialing, [], ∅⟩ := by
    decide
  have hcalls : (Run.run step init twoCallsActive).calls =
      Function.update (Function.update (Function.update (Function.update (Function.update
        (fun _ => none) 1 (some ⟨.cs, .dialing⟩)) 1 (some ⟨.cs, .active⟩)) 2
        (some ⟨.cs, .active⟩)) 1 (some ⟨.cs, .disconnected⟩)) 2 (some ⟨.cs, .disconnected⟩) := rfl
  refine ⟨fun h => ?_, hcontrol⟩
  have hlast := h.last
  unfold InactiveAfterCalls at hlast
  rw [hcontrol] at hlast
  refine absurd (hlast rfl fun callId call hcall => ?_).2 (by decide)
  rw [hcalls] at hcall
  by_cases h2 : callId = 2
  · subst h2
    simp at hcall
    rw [← hcall]
  · rw [Function.update_of_ne h2] at hcall
    by_cases h1 : callId = 1
    · subst h1
      simp at hcall
      rw [← hcall]
    · simp [Function.update_of_ne h2, Function.update_of_ne h1] at hcall

/-- The scene settles in one that serves the calls throughout a run iff no step
    of it loses a call. -/
theorem calls_served_iff (ops : List AudioOp) (hops : ∀ op ∈ ops, op.Carrier) :
    Run.StatesMeet step (fun s => s.control.Covered) init ops ↔
      Run.StepsMeet step CallOk init ops :=
  Run.statesMeet_iff_stepsMeet_of_ops isCarrier_step covered_step_iff ops hops
    (fun _ _ h => nomatch h) (.inl fun _ => by decide)

/-- **The scene during the calls.** For any calls of the modem, a headset or a satellite and any
    interleaving: if no step lets the last event go by unused that would have moved the scene,
    then whenever the queue is empty and a call is active, ringing, dialing or alerting, the
    scene is not the inactive one. -/
theorem scene_not_inactive_during_calls (ops : List AudioOp) (hops : ∀ op ∈ ops, op.Carrier)
    (h : Run.StepsMeet step CallOk init ops) :
    Run.StatesMeet step ActiveDuringCalls init ops := by
  refine ((calls_served_iff ops hops).mpr h).mono fun s hs hqueue hlive hscene => ?_
  unfold AudioControl.Covered EventQueue.Covered at hs
  rw [hqueue] at hs
  rcases hs with hserves | hreacts
  · exact hserves hscene hlive
  · exact hreacts.elim

theorem scene_not_inactive_during_one_call : Run.StatesMeet step ActiveDuringCalls init oneCall :=
  scene_not_inactive_during_calls oneCall (by decide) (by decide)

/-- Two calls start to ring before the queue takes the event of the first. -/
def twoCallsRing : List AudioOp :=
  [.update 1 .cs .incoming, .update 2 .cs .incoming, .takeEvent, .takeEvent]

/-- With two ringing calls neither event switches the scene. -/
theorem two_calls_ring_unheard :
    ¬ Run.StatesMeet step ActiveDuringCalls init twoCallsRing ∧
      (∀ op ∈ twoCallsRing, op.Carrier) ∧
      (Run.run step init twoCallsRing).control.processor.incomingCalls = {1, 2} ∧
      (Run.run step init twoCallsRing).control.currentState = .inactive := by
  refine ⟨fun h => ?_, by decide, by decide, by decide⟩
  exact h.last (by decide) (by decide) (by decide)

end AudioWorld

end CallManager
