import CallManager.Tones

/-!
# What rings, and until when

A call rings by the ringtone (`Ring`), by a silent renderer on a watch that is
not worn, by the vibrator, or by the waiting tone. The scene of incoming calls
starts them, and so do `UpdateForegroundLiveCall` and the tasks in which
`PlayRingtone` waits for another ringtone stream to end. They are stopped by the
event `NO_MORE_INCOMING_CALL` and by the updates of a call that ends.

Specification: once the queue is empty, no task is pending and no carrier call
is ringing, nothing rings (`RingEnds`); and no player is replaced that was
started and not stopped.

The code breaks this in several ways: a task whose player does not start leaves
`ringState_` at RINGING without a call; a task replaces a player that runs; one
`StopRingtone` stops only the silent ring when both are on, and a player that
does not stop is forgotten; the incoming scene plays the silent ring or the
waiting tone after the last event that stops them; a video ring that does not
start the vibrator again drops the flag of the one that runs.

Results:
* `covered_step`: under `StepOk` a step leaves nothing that rings without a
  ringing call or an event that stops it.
* `ringing_ends_with_calls`: so in every run of such steps the ringing ends with
  the calls.
* `failed_start_rings_on`: a run in which it does not.
* `toneControl_playCallTone`, `toneControl_stopCallTone`: the tones are those of
  `CallManager.Tones`.
-/

namespace CallManager.Ringing

open AudioLocks (AudioRingerMode)
open CallStateReport (CallStateToApp)
open Tones (ToneDescriptor ToneState ToneControl)

/-! ## Model -/

/-- A ringtone player: `Start` was not called or failed, it was called with success, and
    then `Stop` was called with success. -/
inductive PlayerState
  | idle | started | stopped
  deriving DecidableEq, Repr

/-- What is asked in a step: the VoIP calls, the number of calls, the voice assistant, the do
    not disturb mode, a transferred call, the mute request of the ringing call, the sound
    tone, the need of a ringback tone, the ringer mode, the devices, and the results of the
    platform players; a step stops the ringtone player at most twice. -/
structure RingAnswers where
  voIPCallState : CallStateToApp
  hasCall : Bool
  isVoipCallExist : Bool
  currentCallNum : ℤ
  endCallCount : ℤ
  isStartVoiceBroadcast : Bool
  isNeedSilentInDoNotDisturbMode : Bool
  hasIncomingBtTransferCall : Bool
  isNeedMuteRing : Bool
  isBtCallDisconnected : Bool
  isSoundPlaying : Bool
  shouldPlayRingback : Bool
  ringerMode : AudioRingerMode
  isRingingVibrateModeOn : Bool
  isRemoteDevicesConnected : Bool
  isStreamActive : Bool
  startVibrator : Bool
  getRingTonePlayer : Bool
  startPlayer : Bool
  stopPlayer : Bool
  stopPlayerAgain : Bool
  createRenderer : Bool
  deriving DecidableEq, Repr

/-- The fields of `AudioControlManager`, `Ring` and `Tone` that ring: `isRinging` is
    `ringState_`, `audioRenderer_` is there iff `isPlayForNoRing`, `vibrator` is the
    platform's, `ringTasks` counts the tasks of `PlayRingtone` that are pending, and `lost`
    records that a player was replaced that was started and not stopped. -/
structure Ringer where
  isRinging : Bool
  ringtonePlayer : Option PlayerState
  lost : Bool
  isPlayForNoRing : Bool
  isCrsVibrating : Bool
  isVideoRingVibrating : Bool
  vibrator : Bool
  toneState : ToneState
  tone : Option ToneDescriptor
  isIncomingConflict : Bool
  ringTasks : ℕ
  deriving DecidableEq, Repr

namespace Ringer

/-- The state after `Init`. -/
def init : Ringer where
  isRinging := false
  ringtonePlayer := none
  lost := false
  isPlayForNoRing := false
  isCrsVibrating := false
  isVideoRingVibrating := false
  vibrator := false
  toneState := .stopped
  tone := none
  isIncomingConflict := false
  ringTasks := 0

/-! ### The ringtone and the silent ring -/

/-- `Ring::Play` (ring.cpp:101-147): whether it succeeds. -/
def ringPlay (a : RingAnswers) (r : Ringer) : Bool × Ringer :=
  let lost := r.lost || r.ringtonePlayer = some .started
  if a.getRingTonePlayer = false then (false, { r with ringtonePlayer := none, lost := lost })
  else
    (a.startPlayer,
      { r with
        ringtonePlayer := some (if a.startPlayer then .started else .idle)
        lost := lost
        isRinging := true })

/-- `Ring::Stop` (lines 149-176): `ringState_` is set whether or not the player stops. -/
def ringStop (stopPlayer : Bool) (r : Ringer) : Ringer :=
  { r with
    isRinging := false
    ringtonePlayer :=
      r.ringtonePlayer.map fun p => if p = .started ∧ stopPlayer = true then .stopped else p }

/-- `StopForNoRing` (audio_control_manager.cpp:1259-1272). -/
def stopForNoRing (r : Ringer) : Ringer := { r with isPlayForNoRing := false }

/-- `StopRingtone` (lines 1236-1257). -/
def stopRingtone (stopPlayer : Bool) (r : Ringer) : Ringer :=
  if r.isPlayForNoRing then r.stopForNoRing
  else if r.isRinging = false then r
  else r.ringStop stopPlayer

/-- `PlayForNoRing` (lines 1046-1068). -/
def playForNoRing (a : RingAnswers) (r : Ringer) : Ringer :=
  if r.isPlayForNoRing then r
  else if a.createRenderer = false then r
  else { r with isPlayForNoRing := true }

/-! ### The vibrator -/

/-- `StopVibrator` (lines 538-553). -/
def stopVibrator (r : Ringer) : Ringer :=
  if r.isCrsVibrating = false ∧ r.isVideoRingVibrating = false then r
  else { r with isCrsVibrating := false, isVideoRingVibrating := false, vibrator := false }

/-- `MuteNetWorkRingTone(true)` (lines 1744-1755). -/
def muteNetWorkRingTone (r : Ringer) : Ringer :=
  if r.isCrsVibrating then { r with isCrsVibrating := false, vibrator := false } else r

/-! ### The tones -/

/-- `PlayCallTone` (lines 1597-1617). -/
def playCallTone (tone : ToneDescriptor) (r : Ringer) : Ringer :=
  if r.toneState = .toneing then r else { r with toneState := .toneing, tone := some tone }

/-- `StopCallTone` (lines 1619-1642). -/
def stopCallTone (r : Ringer) : Ringer :=
  if r.toneState ≠ .toneing ∨ r.tone = none then r else { r with toneState := .stopped }

/-- `StopWaitingTone` (lines 1690-1696) and `StopRingback` (lines 1677-1684). -/
def stopTone (tone : ToneDescriptor) (r : Ringer) : Ringer :=
  if r.tone = some tone then r.stopCallTone else r

/-- `PlayCallEndedTone` (lines 1455-1487): the tone is played and stopped. -/
def playCallEndedTone (a : RingAnswers) (r : Ringer) : Ringer :=
  if a.voIPCallState ≠ .idle then r
  else
    let r' := if r.toneState = .toneing then r.stopCallTone else r
    if a.ringerMode ≠ .normal then r'
    else if a.isBtCallDisconnected then r'
    else (r'.playCallTone .finished).stopCallTone

/-- What the tones of `CallManager.Tones` are when each starts and stops as it is asked. -/
def toneControl (isLocalRingbackNeeded : Bool) (r : Ringer) : ToneControl where
  toneState := r.toneState
  tone := r.tone.map fun tone => ⟨tone, r.toneState = .toneing⟩
  isLocalRingbackNeeded := isLocalRingbackNeeded

theorem toneControl_playCallTone (needed : Bool) (tone : ToneDescriptor) (r : Ringer) :
    (r.playCallTone tone).toneControl needed =
      ((r.toneControl needed).playCallTone tone ⟨true, .telephonySuccess⟩).2 := by
  by_cases htone : r.toneState = .toneing
  · simp [playCallTone, ToneControl.playCallTone, toneControl, htone]
  · simp [playCallTone, ToneControl.playCallTone, toneControl, htone]

theorem toneControl_stopCallTone (needed : Bool) (r : Ringer) :
    r.stopCallTone.toneControl needed =
      ((r.toneControl needed).stopCallTone .telephonySuccess).2 := by
  unfold stopCallTone ToneControl.stopCallTone toneControl
  cases hstate : r.toneState <;> cases htone : r.tone <;> simp [hstate, htone]

end Ringer

/-- The fields of a call that decide how it rings: whether its CRS type is video, and whether
    it has a video ringtone. -/
structure RingDetails where
  crs : Bool
  videoRing : Bool
  deriving DecidableEq, Repr

/-- What the ringing reads: the scene and its calls, the calls in the order they were added,
    the VoIP calls that are ringing, how a call rings, and the watch and its wear state. -/
structure RingCalls extends AudioWorld where
  callObjectPtrList : List ℤ
  voipRinging : Finset ℤ
  details : ℤ → RingDetails
  isWearableDevice : Bool
  isNotWearOnWrist : Bool

namespace RingCalls

variable (c : RingCalls)

/-! ### The calls -/

/-- A carrier call is in one of the states. -/
def isIn (states : List TelCallState) (callId : ℤ) : Bool :=
  (c.calls callId).any fun call => call.state ∈ states

/-- A carrier call is ringing. -/
def isRingingCall (callId : ℤ) : Bool := c.isIn [.incoming, .waiting] callId

/-- `GetOneCallObject(CALL_RUNNING_STATE_RINGING)` (call_object_manager.cpp:683-693). -/
def getRingingCall : Option ℤ :=
  c.callObjectPtrList.reverse.find? fun callId => c.isRingingCall callId || callId ∈ c.voipRinging

/-- `GetCrsType() == CRS_TYPE`; a VoIP call has no such type. -/
def isCrs (callId : ℤ) : Bool := c.isRingingCall callId && (c.details callId).crs

/-- `HasIncomingCallCrsType` (lines 562-573). -/
def hasIncomingCallCrsType : Bool := c.callObjectPtrList.any c.isCrs

/-- `HasIncomingCallVideoRingType` (lines 575-589). -/
def hasIncomingCallVideoRingType : Bool :=
  c.callObjectPtrList.any fun callId => c.isRingingCall callId && (c.details callId).videoRing

/-! ### The ring of a call -/

/-- `MuteRinger` (audio_control_manager.cpp:1385-1434), with `MuteWaitingTone` (lines
    1436-1445). -/
def muteRinger (a : RingAnswers) (r : Ringer) : Ringer :=
  let r :=
    if r.isVideoRingVibrating then
      { r with isVideoRingVibrating := false, vibrator := false }
    else r
  match c.getRingingCall with
  | none => r
  | some incomingCall =>
    let r :=
      if c.isCrs incomingCall ∧ (a.voIPCallState = .idle ∨ a.voIPCallState = .unknown) then
        r.muteNetWorkRingTone
      else r
    if c.isRingingCall incomingCall = false ∧ a.hasCall = false then r
    else if r.isRinging then r
    else if r.toneState = .toneing ∧ c.callObjectPtrList.any (c.isIn [.waiting]) = true then
      r.stopTone .waiting
    else r

/-- `PlayRing` and `PostProcessRingtone` (lines 1017-1044 and 1114-1130). -/
def playRing (a : RingAnswers) (r : Ringer) : Ringer :=
  let (played, r) := r.ringPlay a
  if played = false then r
  else if c.getRingingCall = none then r.stopRingtone a.stopPlayer
  else if a.isNeedMuteRing then c.muteRinger a r
  else r

/-- `DealCrsScene` (lines 1070-1112). -/
def dealCrsScene (a : RingAnswers) (r : Ringer) : Ringer :=
  if r.isCrsVibrating = false ∧ a.ringerMode ≠ .silent ∧ a.isRingingVibrateModeOn = true then
    if c.callObjectPtrList.any (c.isIn [.incoming]) = false then
      { r with isCrsVibrating := false, vibrator := false }
    else
      playCrs { r with
        isCrsVibrating := a.startVibrator
        vibrator := r.vibrator || a.startVibrator }
  else playCrs r
where
  /-- The sound tone of the network, or else the ringtone. -/
  playCrs (r : Ringer) : Ringer :=
    if a.ringerMode = .normal ∨ a.isRemoteDevicesConnected = true then r else (r.ringPlay a).2

/-- `ShouldPlayRingtone` (lines 1569-1580). -/
def shouldPlayRingtone (a : RingAnswers) (r : Ringer) : Bool :=
  ¬ (c.control.processor.getCallNumber .incoming = 0 ∨
    0 < c.control.processor.getCallNumber .alerting ∨ r.isRinging = true ∨
      a.isSoundPlaying = true ∧ c.hasIncomingCallCrsType = true)

/-- The vibrator is wanted for a video ring. -/
def wantsVideoVibrator (a : RingAnswers) : Bool :=
  (a.ringerMode = .normal ∧ a.isRingingVibrateModeOn = true) ∨ a.ringerMode = .vibrate

/-- `PlayRingtone` (lines 958-1015). -/
def playRingtone (a : RingAnswers) (r : Ringer) : Ringer :=
  if c.shouldPlayRingtone a r = false then r
  else
    match c.getRingingCall with
    | none => r
    | some incomingCall =>
      if c.isCrs incomingCall then c.dealCrsScene a r
      else if (c.details incomingCall).videoRing then
        if wantsVideoVibrator a then
          { r with
            isVideoRingVibrating := a.startVibrator
            vibrator := r.vibrator || a.startVibrator }
        else r
      else if r.isIncomingConflict = false ∧ a.isStreamActive = false then c.playRing a r
      else { r with ringTasks := r.ringTasks + 1 }

/-- `UpdateForegroundLiveCall` (lines 98-145), without the microphone. -/
def updateForegroundLiveCall (a : RingAnswers) (r : Ringer) : Ringer :=
  let callId := c.control.processor.getAudioForegroundLiveCall
  if callId = invalidCallId then r
  else if c.isIn [.waiting] callId = false then r
  else if a.isVoipCallExist then r
  else if c.isWearableDevice ∧ c.isNotWearOnWrist then (r.stopTone .waiting).playForNoRing a
  else c.playRingtone a (r.stopTone .waiting)

/-! ### Updates -/

/-- A call has its next state. -/
def tell (u : StateUpdate) : RingCalls :=
  { c with
    toAudioWorld := c.toAudioWorld.deliver u
    callObjectPtrList :=
      if u.callId ∈ c.callObjectPtrList then c.callObjectPtrList
      else c.callObjectPtrList ++ [u.callId] }

/-- The user answers the call with this update. -/
def answers (u : StateUpdate) : Bool :=
  u.callId ∉ c.control.answeredByPhone ∧ u.nextState = .answered ∧ u.priorState = .incoming

/-- The update of an answered call does not enter the scenes. -/
def skips (u : StateUpdate) : Bool :=
  u.callId ∈ c.control.answeredByPhone ∧ AudioControl.skipsAnswered u.priorState u.nextState

/-- An update that enters the scenes stops the vibrator, in `HandleNextState` (lines 555-601) or
    in `ProcessAudioWhenCallActive` (lines 663-672). -/
def stopsVibrator (u : StateUpdate) : Bool :=
  ((u.nextState = .disconnecting ∨ u.nextState = .disconnected) ∧
      c.hasIncomingCallCrsType = false ∧ c.hasIncomingCallVideoRingType = false) ∨
    (u.priorState ≠ u.nextState ∧ (u.priorState = .incoming ∨ u.priorState = .waiting) ∧
      c.isIn [.active, .incoming, .waiting] u.callId = true)

/-- What `CallStateUpdated` (lines 170-205) does to what rings. -/
def soundUpdate (a : RingAnswers) (u : StateUpdate) (r : Ringer) : Ringer :=
  let c' := c.tell u
  let r := if c.answers u then c'.muteRinger a r else r
  let r := if c.skips u = false ∧ c'.stopsVibrator u = true then r.stopVibrator else r
  let r :=
    if u.priorState = .incoming ∧ u.priorState ≠ u.nextState ∧
        c'.control.processor.getCallNumber .incoming = 0 then
      { r with isIncomingConflict := false }
    else r
  c'.updateForegroundLiveCall a r

/-! ### The scenes -/

/-- `SwitchIncoming` (audio_scene_processor.cpp:239-289) plays the waiting tone. -/
def playsWaitingTone (a : RingAnswers) : Bool :=
  a.voIPCallState = .offhook ∨ (1 < a.currentCallNum - a.endCallCount ∧
    a.isSoundPlaying = true ∧ c.hasIncomingCallCrsType = true)

/-- `HandleTransferCallRing` (lines 216-237) plays the ringtone. -/
def playsTransferCall (a : RingAnswers) : Bool :=
  a.isNeedSilentInDoNotDisturbMode = false ∧ a.hasIncomingBtTransferCall = true

/-- `SwitchIncoming` itself plays the ringtone. -/
def playsSystemRing (a : RingAnswers) : Bool :=
  a.isStartVoiceBroadcast = false ∧ a.isNeedSilentInDoNotDisturbMode = false ∧
    c.isNotWearOnWrist = false ∧ playsTransferCall a = false

/-- `SwitchIncoming`. -/
def switchIncoming (a : RingAnswers) (r : Ringer) : Ringer :=
  let r :=
    if 1 < c.control.processor.getCallNumber .incoming then { r with isIncomingConflict := true }
    else r
  if c.playsWaitingTone a then r.playCallTone .waiting
  else
    let r := if playsTransferCall a then c.playRingtone a (r.stopRingtone a.stopPlayer) else r
    let stopPlayer := if playsTransferCall a then a.stopPlayerAgain else a.stopPlayer
    if c.playsSystemRing a then c.playRingtone a (r.stopRingtone stopPlayer)
    else if c.isWearableDevice then (r.stopRingtone stopPlayer).playForNoRing a
    else r

/-- `CallStateProcessor::ShouldStopSoundtone` (call_state_processor.cpp:192-205). -/
def shouldStopSoundtone : Bool :=
  let p := c.control.processor
  ¬ (p.activeCalls.Nonempty ∨ (p.incomingCalls.Nonempty ∧ c.hasIncomingCallCrsType = true)) ∧
    p.holdingCalls = ∅ ∧ p.dialingCalls = ∅ ∧ p.alertingCalls = ∅

/-- What `ProcessEventInner` (audio_scene_processor.cpp:62-124) and the scenes do to what rings. -/
def soundEvent (a : RingAnswers) (r : Ringer) : AudioEvent → Ringer
  | .switchState .incoming => c.switchIncoming a r
  | .switchState .alerting => if a.shouldPlayRingback then r.playCallTone .ringback else r
  | .noMoreIncomingCall => (r.stopRingtone a.stopPlayer).stopTone .waiting
  | .noMoreActiveCall | .noMoreAlertingCall =>
    if c.shouldStopSoundtone then (r.stopTone .ringback).playCallEndedTone a
    else r.stopTone .ringback
  | .noMoreDialingCall | .noMoreHoldingCall =>
    if c.shouldStopSoundtone then r.playCallEndedTone a else r
  | .newIncomingCall =>
    if c.control.currentState ∈ [AudioScene.csCall, .imsCall, .alerting] then
      r.playCallTone .waiting
    else r
  | _ => r

end RingCalls

/-- What can happen: a step of the scene, a pending task, `MuteRinger`, a change of the wear
    state, or a VoIP call that begins or ceases to ring. -/
inductive RingOp
  | scene (op : AudioOp)
  | runTask
  | muteRinger
  | wear (isNotWearOnWrist : Bool)
  | voipCall (callId : ℤ) (rings : Bool)
  deriving DecidableEq, Repr

/-- The calls and what rings. -/
structure RingWorld where
  calls : RingCalls
  ringer : Ringer

namespace RingWorld

/-- The start, without calls. -/
def init (details : ℤ → RingDetails) (isWearableDevice : Bool) : RingWorld where
  calls :=
    { toAudioWorld := .init
      callObjectPtrList := []
      voipRinging := ∅
      details := details
      isWearableDevice := isWearableDevice
      isNotWearOnWrist := false }
  ringer := .init

/-- The queue takes its oldest event. -/
def takeEvent (w : RingWorld) (a : RingAnswers) : RingWorld where
  calls := { w.calls with control := w.calls.control.takeEvent }
  ringer :=
    match w.calls.control.queue with
    | [] => w.ringer
    | event :: _ => w.calls.soundEvent a w.ringer event

/-- A pending task rings, or gives up because the ringtone stream stays active. -/
def runTask (w : RingWorld) (a : RingAnswers) : RingWorld where
  calls := w.calls
  ringer :=
    if w.ringer.ringTasks = 0 then w.ringer
    else
      let r := { w.ringer with ringTasks := w.ringer.ringTasks - 1 }
      if a.isStreamActive then r else w.calls.playRing a r

/-- One operation, with what is asked in it. -/
def step (w : RingWorld) : RingOp × RingAnswers → RingWorld
  | (.scene .takeEvent, a) => w.takeEvent a
  | (.scene op, a) =>
    match w.calls.toAudioWorld.update? op with
    | none => w
    | some u => ⟨w.calls.tell u, w.calls.soundUpdate a u w.ringer⟩
  | (.runTask, a) => w.runTask a
  | (.muteRinger, a) => { w with ringer := w.calls.muteRinger a w.ringer }
  | (.wear isNotWearOnWrist, _) =>
    { w with calls := { w.calls with isNotWearOnWrist := isNotWearOnWrist } }
  | (.voipCall callId rings, _) =>
    { w with
      calls :=
        { w.calls with
          callObjectPtrList :=
            if callId ∈ w.calls.callObjectPtrList then w.calls.callObjectPtrList
            else w.calls.callObjectPtrList ++ [callId]
          voipRinging :=
            if rings then insert callId w.calls.voipRinging
            else w.calls.voipRinging.erase callId } }

end RingWorld

/-! ## Specification -/

/-- The waiting tone is playing. -/
def Ringer.WaitingTone (r : Ringer) : Prop := r.toneState = .toneing ∧ r.tone = some .waiting

/-- Nothing rings. -/
structure Ringer.Silent (r : Ringer) : Prop where
  ringState : r.isRinging = false
  noRing : r.isPlayForNoRing = false
  vibrator : r.vibrator = false
  waitingTone : ¬ r.WaitingTone

/-- A carrier call is ringing. -/
def RingCalls.Rings (c : RingCalls) : Prop := ∃ callId, c.isRingingCall callId = true

/-- The ringing ends with the calls: if the queue is empty, no ring task is pending and no
    carrier call is ringing, then nothing rings; and no player was replaced that was started
    and not stopped. -/
structure RingWorld.RingEnds (w : RingWorld) : Prop where
  silent : w.calls.control.queue = [] → w.ringer.ringTasks = 0 → ¬ w.calls.Rings →
    w.ringer.Silent
  notLost : w.ringer.lost = false

/-- An event is still to come that stops the waiting tone. -/
def EndsTone (queue : List AudioEvent) : Prop := .noMoreIncomingCall ∈ queue

/-- An event is still to come that stops the ring. -/
def EndsRing (queue : List AudioEvent) : Prop :=
  .noMoreIncomingCall ∈ queue ∨ .switchState .incoming ∈ queue

/-- The ringtone and the silent ring are both on. -/
def Ringer.BothRing (r : Ringer) : Prop := r.isRinging = true ∧ r.isPlayForNoRing = true

/-- The ringtone or the silent ring is on. -/
def Ringer.EitherRings (r : Ringer) : Prop := r.isRinging = true ∨ r.isPlayForNoRing = true

/-- A player that `StopRingtone` is to stop does stop. -/
def Ringer.StopOk (r : Ringer) (stopPlayer : Bool) : Prop :=
  r.ringtonePlayer = some .started → r.isPlayForNoRing = false → stopPlayer = true

namespace RingCalls

variable (c : RingCalls) (a : RingAnswers) (r : Ringer)

/-- A video ring that is to vibrate while the vibrator runs for nothing else gets it started
    again. -/
def RestartOk : Prop :=
  ∀ callId, c.getRingingCall = some callId → c.isCrs callId = false →
    (c.details callId).videoRing = true → wantsVideoVibrator a = true →
      a.startVibrator = true ∨ r.vibrator = false ∨ r.isCrsVibrating = true

/-- A player is got and starts. -/
def Starts : Prop := a.getRingTonePlayer = true ∧ a.startPlayer = true

/-- The condition on a pending task that rings. -/
def TaskOk : Prop :=
  r.ringtonePlayer ≠ some .started ∧
    (c.Rings ∨ EndsRing c.control.queue ∨ a.getRingTonePlayer = false ∨
      (a.startPlayer = true ∧ c.getRingingCall = none)) ∧
    (Starts a → c.getRingingCall = none → r.isPlayForNoRing = false → a.stopPlayer = true)

/-- The condition on an update. -/
def UpdateOk (u : StateUpdate) : Prop :=
  (¬ (c.tell u).Rings →
    if c.skips u then
      (r.EitherRings → EndsRing c.control.queue) ∧ (r.WaitingTone → EndsTone c.control.queue) ∧
        r.vibrator = false
    else u.nextState ∉ [TelCallState.disconnecting, .disconnected, .active] → r.vibrator = false) ∧
    (c.skips u = false ∧ (c.tell u).stopsVibrator u = true ∨ (c.tell u).RestartOk a r)

/-- The condition on `SwitchIncoming` once no event that stops the ring follows and no call is
    ringing. -/
def SwitchOk : Prop :=
  if playsTransferCall a then
    if c.isWearableDevice then a.createRenderer = false else ¬ r.BothRing
  else if c.playsSystemRing a then ¬ r.BothRing
  else if c.isWearableDevice then a.createRenderer = false ∧ ¬ r.BothRing
  else ¬ r.EitherRings

/-- The condition on `SwitchIncoming` for the player to stop. -/
def SwitchStopOk : Prop :=
  (playsTransferCall a = true ∨ c.playsSystemRing a = true ∨ c.isWearableDevice = true →
      r.StopOk a.stopPlayer) ∧
    (playsTransferCall a = true → c.isWearableDevice = true →
      r.ringtonePlayer = some .started ∧ r.isPlayForNoRing = true ∨ Starts a →
        a.stopPlayerAgain = true)

/-- The condition on an event that is taken before `queue`. -/
def EventOk (queue : List AudioEvent) : AudioEvent → Prop
  | .noMoreIncomingCall =>
    r.StopOk a.stopPlayer ∧ (c.Rings ∨ EndsRing queue ∨ ¬ r.BothRing)
  | .newIncomingCall =>
    c.control.currentState ∈ [AudioScene.csCall, .imsCall, .alerting] →
      c.Rings ∨ EndsTone queue ∨ r.toneState = .toneing
  | .switchState .incoming =>
    if c.playsWaitingTone a then
      (c.Rings ∨ EndsTone queue ∨ r.toneState = .toneing) ∧
        (c.Rings ∨ EndsRing queue ∨ ¬ r.EitherRings)
    else
      c.RestartOk a r ∧ c.SwitchStopOk a r ∧ (c.Rings ∨ EndsRing queue ∨ c.SwitchOk a r)
  | _ => True

end RingCalls

namespace RingWorld

/-- The condition on a step. -/
def StepOk (w : RingWorld) : RingOp × RingAnswers → Prop
  | (.scene .takeEvent, a) =>
    match w.calls.control.queue with
    | [] => True
    | event :: queue => w.calls.EventOk a w.ringer queue event
  | (.scene op, a) =>
    match w.calls.toAudioWorld.update? op with
    | none => True
    | some u => w.calls.UpdateOk a w.ringer u
  | (.runTask, a) =>
    w.ringer.ringTasks ≠ 0 → a.isStreamActive = false → w.calls.TaskOk a w.ringer
  | _ => True

end RingWorld

/-! ## What the ringer does -/

/-- No player was lost, a player that runs is the one that `ringState_` is about, and a
    vibrator that runs has a flag. -/
structure Ringer.Tidy (r : Ringer) : Prop where
  notLost : r.lost = false
  started : r.ringtonePlayer = some .started → r.isRinging = true
  flagged : r.vibrator = true → r.isCrsVibrating = true ∨ r.isVideoRingVibrating = true

namespace Ringer

variable {a : RingAnswers} {r : Ringer}

theorem tidy_init : Ringer.init.Tidy := ⟨rfl, nofun, nofun⟩

theorem Tidy.ringPlay (h : r.Tidy) (hplayer : r.ringtonePlayer ≠ some .started) :
    (r.ringPlay a).2.Tidy := by
  have hlost : (r.lost || decide (r.ringtonePlayer = some .started)) = false := by
    simp [h.notLost, hplayer]
  unfold Ringer.ringPlay
  by_cases hget : a.getRingTonePlayer = false
  · rw [if_pos hget]
    exact ⟨hlost, nofun, h.flagged⟩
  · rw [if_neg hget]
    exact ⟨hlost, fun _ => rfl, h.flagged⟩

theorem Tidy.ringStop {stopPlayer : Bool} (h : r.Tidy)
    (hstop : r.ringtonePlayer = some .started → stopPlayer = true) :
    (r.ringStop stopPlayer).Tidy := by
  refine ⟨h.notLost, fun hstarted => ?_, h.flagged⟩
  obtain ⟨p, hplayer, hp⟩ := Option.map_eq_some_iff.mp hstarted
  split_ifs at hp with hrunning
  subst hp
  exact absurd ⟨rfl, hstop hplayer⟩ hrunning

theorem Tidy.stopRingtone {stopPlayer : Bool} (h : r.Tidy) (hstop : r.StopOk stopPlayer) :
    (r.stopRingtone stopPlayer).Tidy := by
  unfold Ringer.stopRingtone
  split_ifs with hno
  · exact ⟨h.notLost, h.started, h.flagged⟩
  · exact h
  · exact h.ringStop fun hplayer => hstop hplayer (by simpa using hno)

theorem Tidy.playForNoRing (h : r.Tidy) : (r.playForNoRing a).Tidy := by
  unfold Ringer.playForNoRing
  split_ifs
  · exact h
  · exact h
  · exact ⟨h.notLost, h.started, h.flagged⟩

theorem Tidy.stopVibrator (h : r.Tidy) : r.stopVibrator.Tidy := by
  unfold Ringer.stopVibrator
  split_ifs
  · exact h
  · exact ⟨h.notLost, h.started, nofun⟩

theorem Tidy.muteNetWorkRingTone (h : r.Tidy) : r.muteNetWorkRingTone.Tidy := by
  unfold Ringer.muteNetWorkRingTone
  split_ifs
  · exact ⟨h.notLost, h.started, nofun⟩
  · exact h

/-- The functions of the call tones leave everything else as it is. -/
def ExceptTone (r r' : Ringer) : Prop := r' = { r with toneState := r'.toneState, tone := r'.tone }

theorem exceptTone_playCallTone (tone : ToneDescriptor) (r : Ringer) :
    r.ExceptTone (r.playCallTone tone) := by
  unfold Ringer.playCallTone
  split_ifs <;> rfl

theorem exceptTone_stopCallTone (r : Ringer) : r.ExceptTone r.stopCallTone := by
  unfold Ringer.stopCallTone
  split_ifs <;> rfl

theorem exceptTone_stopTone (tone : ToneDescriptor) (r : Ringer) : r.ExceptTone (r.stopTone tone) := by
  unfold Ringer.stopTone
  split_ifs
  · exact exceptTone_stopCallTone r
  · rfl

theorem ExceptTone.trans {r r' r'' : Ringer} (h : r.ExceptTone r') (h' : r'.ExceptTone r'') :
    r.ExceptTone r'' := by
  unfold ExceptTone at *
  rw [h', h]

theorem exceptTone_playCallEndedTone (a : RingAnswers) (r : Ringer) :
    r.ExceptTone (r.playCallEndedTone a) := by
  have hstop : r.ExceptTone (if r.toneState = .toneing then r.stopCallTone else r) := by
    split_ifs
    · exact exceptTone_stopCallTone r
    · rfl
  unfold Ringer.playCallEndedTone
  by_cases hidle : a.voIPCallState ≠ .idle
  · rw [if_pos hidle]
    rfl
  rw [if_neg hidle]
  dsimp only
  generalize (if r.toneState = .toneing then r.stopCallTone else r) = r' at hstop ⊢
  split_ifs
  · exact hstop
  · exact hstop
  · exact hstop.trans ((exceptTone_playCallTone _ _).trans (exceptTone_stopCallTone _))

theorem ExceptTone.tidy {r r' : Ringer} (h : r.ExceptTone r') (ht : r.Tidy) : r'.Tidy := by
  rw [h]
  exact ⟨ht.notLost, ht.started, ht.flagged⟩

end Ringer

namespace Ringer

variable {a : RingAnswers} {r r' r'' : Ringer}

/-- Whatever rings after, rang before, and a vibrator that still runs has the flag it had. -/
structure Quieter (r r' : Ringer) : Prop where
  ring : r'.isRinging = true → r.isRinging = true
  noRing : r'.isPlayForNoRing = true → r.isPlayForNoRing = true
  vibrator : r'.vibrator = true → r.vibrator = true
  crs : r'.vibrator = true → r.isCrsVibrating = true → r'.isCrsVibrating = true
  tone : r'.WaitingTone → r.WaitingTone

theorem Quieter.refl (r : Ringer) : r.Quieter r := ⟨id, id, id, fun _ => id, id⟩

theorem Quieter.trans (h : r.Quieter r') (h' : r'.Quieter r'') : r.Quieter r'' where
  ring := h.ring ∘ h'.ring
  noRing := h.noRing ∘ h'.noRing
  vibrator := h.vibrator ∘ h'.vibrator
  crs hon hcrs := h'.crs hon (h.crs (h'.vibrator hon) hcrs)
  tone := h.tone ∘ h'.tone

theorem Quieter.either (h : r.Quieter r') (hr' : r'.EitherRings) : r.EitherRings :=
  hr'.imp h.ring h.noRing

theorem ExceptTone.quieter (h : r.ExceptTone r') (htone : r'.WaitingTone → r.WaitingTone) :
    r.Quieter r' := by
  rw [h]
  refine ⟨id, id, id, fun _ => id, fun hr => htone ?_⟩
  rw [h]
  exact hr

theorem not_waitingTone_stopCallTone (r : Ringer) : ¬ r.stopCallTone.WaitingTone := by
  unfold Ringer.stopCallTone
  split_ifs with h
  · rintro ⟨hstate, htone⟩
    rcases h with h | h
    · exact h hstate
    · rw [h] at htone
      cases htone
  · exact fun hr => nomatch hr.1

theorem not_waitingTone_stopTone (r : Ringer) : ¬ (r.stopTone .waiting).WaitingTone := by
  unfold Ringer.stopTone
  split_ifs with h
  · exact not_waitingTone_stopCallTone r
  · exact fun hr => h hr.2

theorem quieter_stopTone (tone : ToneDescriptor) (r : Ringer) : r.Quieter (r.stopTone tone) := by
  refine (exceptTone_stopTone tone r).quieter fun hr => ?_
  unfold Ringer.stopTone at hr
  split_ifs at hr
  · exact absurd hr (not_waitingTone_stopCallTone r)
  · exact hr

theorem quieter_playRingback (r : Ringer) : r.Quieter (r.playCallTone .ringback) := by
  refine (exceptTone_playCallTone .ringback r).quieter fun hr => ?_
  unfold Ringer.playCallTone at hr
  split_ifs at hr
  · exact hr
  · exact nomatch hr.2

theorem quieter_playWaitingTone (htone : r.toneState = .toneing) :
    r.Quieter (r.playCallTone .waiting) := by
  rw [Ringer.playCallTone, if_pos htone]
  exact .refl r

theorem quieter_playCallEndedTone (a : RingAnswers) (r : Ringer) :
    r.Quieter (r.playCallEndedTone a) := by
  refine (exceptTone_playCallEndedTone a r).quieter fun hr => ?_
  have hstop : (if r.toneState = .toneing then r.stopCallTone else r).WaitingTone →
      r.WaitingTone := by
    split_ifs
    · exact fun h => absurd h (not_waitingTone_stopCallTone r)
    · exact id
  unfold Ringer.playCallEndedTone at hr
  by_cases hidle : a.voIPCallState ≠ .idle
  · rw [if_pos hidle] at hr
    exact hr
  rw [if_neg hidle] at hr
  dsimp only at hr
  generalize (if r.toneState = .toneing then r.stopCallTone else r) = r' at hstop hr
  split_ifs at hr
  · exact hstop hr
  · exact hstop hr
  · exact absurd hr (not_waitingTone_stopCallTone _)

theorem quieter_stopRingtone (stopPlayer : Bool) (r : Ringer) :
    r.Quieter (r.stopRingtone stopPlayer) := by
  unfold Ringer.stopRingtone
  split_ifs
  · exact ⟨id, nofun, id, fun _ => id, id⟩
  · exact .refl r
  · exact ⟨nofun, id, id, fun _ => id, id⟩

/-- One `StopRingtone` stops the ring unless both kinds are on. -/
theorem not_eitherRings_stopRingtone (stopPlayer : Bool) (h : ¬ r.BothRing) :
    ¬ (r.stopRingtone stopPlayer).EitherRings := by
  unfold Ringer.stopRingtone
  unfold BothRing at h
  unfold EitherRings
  split_ifs with hno hring
  · simpa [stopForNoRing, hno] using h
  · simp [hno, hring]
  · simpa [ringStop] using hno

/-- Two of them stop both. -/
theorem not_eitherRings_stopRingtone_twice (stopPlayer stopPlayer' : Bool) (r : Ringer) :
    ¬ ((r.stopRingtone stopPlayer).stopRingtone stopPlayer').EitherRings := by
  refine not_eitherRings_stopRingtone stopPlayer' fun h => ?_
  unfold Ringer.stopRingtone at h
  split_ifs at h with hno hring
  · exact nomatch h.2
  · exact hno h.2
  · exact nomatch h.1

theorem quieter_stopVibrator (r : Ringer) : r.Quieter r.stopVibrator := by
  unfold Ringer.stopVibrator
  split_ifs
  · exact .refl r
  · exact ⟨id, id, nofun, nofun, id⟩

theorem Tidy.vibrator_stopVibrator (h : r.Tidy) : r.stopVibrator.vibrator = false := by
  unfold Ringer.stopVibrator
  split_ifs with hflags
  · by_contra hvibrates
    have := h.flagged (by simpa using hvibrates)
    simp [hflags.1, hflags.2] at this
  · rfl

theorem quieter_muteNetWorkRingTone (r : Ringer) : r.Quieter r.muteNetWorkRingTone := by
  unfold Ringer.muteNetWorkRingTone
  split_ifs
  · exact ⟨id, id, nofun, nofun, id⟩
  · exact .refl r

end Ringer

namespace RingCalls

variable {c : RingCalls} {a : RingAnswers} {r : Ringer}

/-- What the parts of `MuteRinger` keep, it keeps. -/
theorem muteRinger_keeps {P : Ringer → Prop}
    (hvideo : ∀ r, P r → P { r with isVideoRingVibrating := false, vibrator := false })
    (hcrs : ∀ r, P r → P r.muteNetWorkRingTone) (htone : ∀ r, P r → P (r.stopTone .waiting))
    (h : P r) : P (c.muteRinger a r) := by
  have hfirst : P (if r.isVideoRingVibrating then
      { r with isVideoRingVibrating := false, vibrator := false } else r) := by
    split_ifs
    · exact hvideo r h
    · exact h
  unfold muteRinger
  dsimp only
  generalize (if r.isVideoRingVibrating then
    { r with isVideoRingVibrating := false, vibrator := false } else r) = r₁ at hfirst ⊢
  cases c.getRingingCall with
  | none => exact hfirst
  | some incomingCall =>
    dsimp only
    have hsecond : P (if c.isCrs incomingCall ∧
        (a.voIPCallState = .idle ∨ a.voIPCallState = .unknown) then r₁.muteNetWorkRingTone
        else r₁) := by
      split_ifs
      · exact hcrs r₁ hfirst
      · exact hfirst
    generalize (if c.isCrs incomingCall ∧
      (a.voIPCallState = .idle ∨ a.voIPCallState = .unknown) then r₁.muteNetWorkRingTone
      else r₁) = r₂ at hsecond ⊢
    split_ifs
    · exact hsecond
    · exact hsecond
    · exact htone r₂ hsecond
    · exact hsecond

theorem tidy_muteRinger (h : r.Tidy) : (c.muteRinger a r).Tidy :=
  muteRinger_keeps (fun _ h => ⟨h.notLost, h.started, nofun⟩) (fun _ h => h.muteNetWorkRingTone)
    (fun r h => (Ringer.exceptTone_stopTone .waiting r).tidy h) h

theorem quieter_muteRinger : r.Quieter (c.muteRinger a r) :=
  muteRinger_keeps (fun _ h => h.trans ⟨id, id, nofun, nofun, id⟩)
    (fun r' h => h.trans (Ringer.quieter_muteNetWorkRingTone r'))
    (fun r' h => h.trans (Ringer.quieter_stopTone .waiting r')) (.refl r)

theorem ringtonePlayer_muteRinger : (c.muteRinger a r).ringtonePlayer = r.ringtonePlayer := by
  refine muteRinger_keeps (P := fun r' => r'.ringtonePlayer = r.ringtonePlayer) (fun _ h => h)
    (fun r' h => ?_) (fun r' h => ?_) rfl
  · unfold Ringer.muteNetWorkRingTone
    split_ifs
    · exact h
    · exact h
  · rw [Ringer.exceptTone_stopTone .waiting r']
    exact h

theorem isPlayForNoRing_ringPlay : (r.ringPlay a).2.isPlayForNoRing = r.isPlayForNoRing := by
  unfold Ringer.ringPlay
  dsimp only
  split_ifs <;> rfl

theorem starts_of_ringPlay (h : (r.ringPlay a).1 = true) : Starts a := by
  unfold Ringer.ringPlay at h
  dsimp only at h
  by_cases hget : a.getRingTonePlayer = false
  · rw [if_pos hget] at h
    cases h
  · rw [if_neg hget] at h
    exact ⟨by simpa using hget, h⟩

theorem tidy_playRing (h : r.Tidy) (hplayer : r.ringtonePlayer ≠ some .started)
    (hstop : Starts a → c.getRingingCall = none → r.isPlayForNoRing = false →
      a.stopPlayer = true) :
    (c.playRing a r).Tidy := by
  have hplay := h.ringPlay (a := a) hplayer
  have hplayed := starts_of_ringPlay (a := a) (r := r)
  have hno := isPlayForNoRing_ringPlay (a := a) (r := r)
  unfold playRing
  generalize r.ringPlay a = out at hplay hplayed hno
  obtain ⟨played, r'⟩ := out
  dsimp only at hplayed hno ⊢
  split_ifs with hfailed hnone
  · exact hplay
  · refine hplay.stopRingtone fun _ hno' => hstop (hplayed (by simpa using hfailed)) hnone ?_
    rw [← hno]
    exact hno'
  · exact tidy_muteRinger hplay
  · exact hplay

/-- A ring that is not on has no player that runs. -/
theorem not_started_of_shouldPlayRingtone (h : r.Tidy) (hplays : c.shouldPlayRingtone a r ≠ false) :
    r.ringtonePlayer ≠ some .started := by
  intro hstarted
  have hring := h.started hstarted
  simp [shouldPlayRingtone, hring] at hplays

theorem tidy_dealCrsScene (h : r.Tidy) (hplayer : r.ringtonePlayer ≠ some .started) :
    (c.dealCrsScene a r).Tidy := by
  have hplay : ∀ r : Ringer, r.Tidy → r.ringtonePlayer ≠ some .started →
      (dealCrsScene.playCrs a r).Tidy := by
    intro r h hplayer
    unfold dealCrsScene.playCrs
    split_ifs
    · exact h
    · exact h.ringPlay hplayer
  unfold dealCrsScene
  split_ifs with hvibrates
  · exact ⟨h.notLost, h.started, nofun⟩
  · refine hplay _ ⟨h.notLost, h.started, fun hon => ?_⟩ hplayer
    -- the flag that kept the vibrator running is not the one that is set here
    rcases (Bool.or_eq_true _ _).mp hon with hon | hon
    · refine .inr ((h.flagged hon).resolve_left ?_)
      simp [hvibrates.1]
    · exact .inl hon
  · exact hplay r h hplayer

theorem tidy_playRingtone (h : r.Tidy) (hrestart : c.RestartOk a r) :
    (c.playRingtone a r).Tidy := by
  unfold playRingtone
  by_cases hplays : c.shouldPlayRingtone a r = false
  · rw [if_pos hplays]
    exact h
  rw [if_neg hplays]
  have hplayer := not_started_of_shouldPlayRingtone h hplays
  cases hcall : c.getRingingCall with
  | none => exact h
  | some incomingCall =>
    dsimp only
    split_ifs with hcrs hvideo hwants
    · exact tidy_dealCrsScene h hplayer
    · refine ⟨h.notLost, h.started, fun hon => ?_⟩
      rcases hrestart incomingCall hcall (by simpa using hcrs) hvideo hwants with hok | hok | hok
      · exact .inr hok
      · refine .inr ?_
        simpa [hok] using hon
      · exact .inl hok
    · exact h
    · refine tidy_playRing h hplayer fun _ hnone => ?_
      rw [hcall] at hnone
      cases hnone
    · exact ⟨h.notLost, h.started, h.flagged⟩

variable {r' : Ringer} {u : StateUpdate}

theorem RestartOk.mono (h : c.RestartOk a r) (hquieter : r.Quieter r') : c.RestartOk a r' := by
  intro callId hcall hcrs hvideo hwants
  rcases h callId hcall hcrs hvideo hwants with hok | hok | hok
  · exact .inl hok
  · refine .inr (.inl ?_)
    by_contra hon
    have := hquieter.vibrator (by simpa using hon)
    simp [hok] at this
  · by_cases hon : r'.vibrator = true
    · exact .inr (.inr (hquieter.crs hon hok))
    · exact .inr (.inl (by simpa using hon))

theorem restartOk_of_vibrator (h : r.vibrator = false) : c.RestartOk a r :=
  fun _ _ _ _ _ => .inr (.inl h)

/-! ### Updates -/

theorem isIn_iff {states : List TelCallState} {callId : ℤ} :
    c.isIn states callId = true ↔ ∃ call, c.calls callId = some call ∧ call.state ∈ states := by
  unfold isIn
  cases c.calls callId <;> simp

theorem rings_of_isIn_waiting {callId : ℤ} (h : c.isIn [.waiting] callId = true) : c.Rings := by
  obtain ⟨call, hcall, hstate⟩ := isIn_iff.mp h
  exact ⟨callId, isIn_iff.mpr ⟨call, hcall, List.mem_cons_of_mem _ hstate⟩⟩

theorem tidy_updateForegroundLiveCall (h : r.Tidy) (hrestart : c.RestartOk a r) :
    (c.updateForegroundLiveCall a r).Tidy := by
  have hstop : (r.stopTone .waiting).Tidy := (Ringer.exceptTone_stopTone .waiting r).tidy h
  unfold updateForegroundLiveCall
  dsimp only
  split_ifs
  · exact h
  · exact h
  · exact h
  · exact hstop.playForNoRing
  · exact tidy_playRingtone hstop (hrestart.mono (Ringer.quieter_stopTone .waiting r))

/-- Without a ringing call `UpdateForegroundLiveCall` makes nothing ring. -/
theorem updateForegroundLiveCall_of_not_rings (h : ¬ c.Rings) :
    c.updateForegroundLiveCall a r = r := by
  unfold updateForegroundLiveCall
  dsimp only
  by_cases hinvalid : c.control.processor.getAudioForegroundLiveCall = invalidCallId
  · rw [if_pos hinvalid]
  · rw [if_neg hinvalid, if_pos]
    by_contra hwaiting
    exact h (rings_of_isIn_waiting (by simpa using hwaiting))

/-- What an update has done to the ringer when the foreground call is looked at. -/
theorem soundUpdate_spec (h : r.Tidy) :
    ∃ r', c.soundUpdate a u r = (c.tell u).updateForegroundLiveCall a r' ∧ r'.Tidy ∧
      r.Quieter r' ∧
        (c.skips u = false → (c.tell u).stopsVibrator u = true → r'.vibrator = false) := by
  have hmute : (if c.answers u then (c.tell u).muteRinger a r else r).Tidy ∧
      r.Quieter (if c.answers u then (c.tell u).muteRinger a r else r) := by
    split_ifs
    · exact ⟨tidy_muteRinger h, quieter_muteRinger⟩
    · exact ⟨h, .refl r⟩
  refine ⟨_, rfl, ?_⟩
  generalize (if c.answers u then (c.tell u).muteRinger a r else r) = r₁ at hmute ⊢
  obtain ⟨htidy, hquieter⟩ := hmute
  have hstop : ∀ r₂, r₂ = (if c.skips u = false ∧ (c.tell u).stopsVibrator u = true then
      r₁.stopVibrator else r₁) → r₂.Tidy ∧ r.Quieter r₂ ∧
        (c.skips u = false → (c.tell u).stopsVibrator u = true → r₂.vibrator = false) := by
    rintro _ rfl
    split_ifs with hstops
    · exact ⟨htidy.stopVibrator, hquieter.trans (Ringer.quieter_stopVibrator r₁),
        fun _ _ => htidy.vibrator_stopVibrator⟩
    · exact ⟨htidy, hquieter, fun hskips hstop => absurd ⟨hskips, hstop⟩ hstops⟩
  generalize hr₂ : (if c.skips u = false ∧ (c.tell u).stopsVibrator u = true then
    r₁.stopVibrator else r₁) = r₂
  obtain ⟨htidy₂, hquieter₂, hstopped⟩ := hstop r₂ hr₂.symm
  split_ifs
  · exact ⟨⟨htidy₂.notLost, htidy₂.started, htidy₂.flagged⟩,
      hquieter₂.trans ⟨id, id, id, fun _ => id, id⟩, hstopped⟩
  · exact ⟨htidy₂, hquieter₂, hstopped⟩

theorem tidy_soundUpdate (h : r.Tidy)
    (hok : c.skips u = false ∧ (c.tell u).stopsVibrator u = true ∨ (c.tell u).RestartOk a r) :
    (c.soundUpdate a u r).Tidy := by
  obtain ⟨r', heq, htidy, hquieter, hstopped⟩ := soundUpdate_spec (c := c) (a := a) (u := u) h
  rw [heq]
  refine tidy_updateForegroundLiveCall htidy ?_
  rcases hok with hstops | hrestart
  · exact restartOk_of_vibrator (hstopped hstops.1 hstops.2)
  · exact hrestart.mono hquieter

/-! ### Events -/

/-- A player that runs after `StopRingtone` is one under the silent ring, which went first. -/
theorem started_of_stopRingtone {stopPlayer : Bool} (h : r.Tidy) (hok : r.StopOk stopPlayer)
    (hstarted : (r.stopRingtone stopPlayer).ringtonePlayer = some .started) :
    r.ringtonePlayer = some .started ∧ r.isPlayForNoRing = true := by
  unfold Ringer.stopRingtone at hstarted
  split_ifs at hstarted with hno hring
  · exact ⟨hstarted, hno⟩
  · exact absurd (h.started hstarted) (by simp [hring])
  · obtain ⟨p, hplayer, hp⟩ := Option.map_eq_some_iff.mp hstarted
    split_ifs at hp with hrunning
    subst hp
    exact absurd ⟨rfl, hok hplayer (by simpa using hno)⟩ hrunning

theorem started_of_ringPlay (hstarted : (r.ringPlay a).2.ringtonePlayer = some .started) :
    Starts a := by
  unfold Ringer.ringPlay at hstarted
  dsimp only at hstarted
  by_cases hget : a.getRingTonePlayer = false
  · rw [if_pos hget] at hstarted
    cases hstarted
  · rw [if_neg hget] at hstarted
    refine ⟨by simpa using hget, ?_⟩
    by_contra hstart
    rw [if_neg hstart] at hstarted
    cases hstarted

theorem started_of_playRing (hcall : c.getRingingCall ≠ none)
    (hstarted : (c.playRing a r).ringtonePlayer = some .started) : Starts a := by
  refine started_of_ringPlay (r := r) ?_
  unfold playRing at hstarted
  generalize r.ringPlay a = out at hstarted ⊢
  obtain ⟨played, r'⟩ := out
  dsimp only at hstarted ⊢
  split_ifs at hstarted
  · exact hstarted
  · rw [ringtonePlayer_muteRinger] at hstarted
    exact hstarted
  · exact hstarted

/-- A player that runs after `PlayRingtone` ran before or was started by it. -/
theorem started_of_playRingtone
    (hstarted : (c.playRingtone a r).ringtonePlayer = some .started) :
    r.ringtonePlayer = some .started ∨ Starts a := by
  unfold playRingtone at hstarted
  by_cases hplays : c.shouldPlayRingtone a r = false
  · rw [if_pos hplays] at hstarted
    exact .inl hstarted
  rw [if_neg hplays] at hstarted
  cases hcall : c.getRingingCall with
  | none =>
    rw [hcall] at hstarted
    exact .inl hstarted
  | some incomingCall =>
    rw [hcall] at hstarted
    dsimp only at hstarted
    split_ifs at hstarted
    · unfold dealCrsScene dealCrsScene.playCrs at hstarted
      split_ifs at hstarted
      · exact .inl hstarted
      · exact .inl hstarted
      · exact .inr (started_of_ringPlay hstarted)
      · exact .inl hstarted
      · exact .inr (started_of_ringPlay hstarted)
    · exact .inl hstarted
    · exact .inl hstarted
    · refine .inr (started_of_playRing ?_ hstarted)
      rw [hcall]
      nofun
    · exact .inl hstarted

theorem tidy_switchIncoming (h : r.Tidy)
    (hok : c.playsWaitingTone a = false → c.RestartOk a r ∧ c.SwitchStopOk a r) :
    (c.switchIncoming a r).Tidy := by
  unfold switchIncoming
  have hconflict : ∀ r₁, r₁ = (if 1 < c.control.processor.getCallNumber .incoming then
        { r with isIncomingConflict := true } else r) → r₁.Tidy ∧ r.Quieter r₁ ∧
      r₁.ringtonePlayer = r.ringtonePlayer ∧ r₁.isPlayForNoRing = r.isPlayForNoRing := by
    rintro _ rfl
    split_ifs
    · exact ⟨⟨h.notLost, h.started, h.flagged⟩, ⟨id, id, id, fun _ => id, id⟩, rfl, rfl⟩
    · exact ⟨h, .refl r, rfl, rfl⟩
  generalize hr₁ : (if 1 < c.control.processor.getCallNumber .incoming then
    { r with isIncomingConflict := true } else r) = r₁
  obtain ⟨htidy, hquieter, hplayer, hno⟩ := hconflict r₁ hr₁.symm
  dsimp only
  by_cases hwaiting : c.playsWaitingTone a = true
  · rw [if_pos hwaiting]
    exact (Ringer.exceptTone_playCallTone .waiting r₁).tidy htidy
  rw [if_neg hwaiting]
  obtain ⟨hrestart, hstops, hstopsAgain⟩ := hok (by simpa using hwaiting)
  unfold Ringer.StopOk at hstops
  rw [← hplayer, ← hno] at hstops hstopsAgain
  have hplay : r₁.StopOk a.stopPlayer → (c.playRingtone a (r₁.stopRingtone a.stopPlayer)).Tidy :=
    fun hstop => tidy_playRingtone (htidy.stopRingtone hstop)
      (hrestart.mono (hquieter.trans (Ringer.quieter_stopRingtone _ r₁)))
  by_cases htransfer : playsTransferCall a = true
  · have hsystem : c.playsSystemRing a = false := by simp [playsSystemRing, htransfer]
    have hstop : r₁.StopOk a.stopPlayer := hstops (.inl htransfer)
    rw [if_pos htransfer, if_pos htransfer, if_neg (by simp [hsystem])]
    split_ifs with hwearable
    · refine ((hplay hstop).stopRingtone fun hstarted _ => ?_).playForNoRing
      exact hstopsAgain htransfer hwearable
        ((started_of_playRingtone hstarted).imp_left (started_of_stopRingtone htidy hstop))
    · exact hplay hstop
  · rw [if_neg htransfer, if_neg htransfer]
    split_ifs with hsystem hwearable
    · exact hplay (hstops (.inr (.inl hsystem)))
    · exact (htidy.stopRingtone (hstops (.inr (.inr hwearable)))).playForNoRing
    · exact htidy

theorem tidy_soundEvent (h : r.Tidy) {queue : List AudioEvent} {event : AudioEvent}
    (hok : c.EventOk a r queue event) : (c.soundEvent a r event).Tidy := by
  have hback : (r.stopTone .ringback).Tidy := (Ringer.exceptTone_stopTone .ringback r).tidy h
  cases event with
  | switchState scene =>
    cases scene with
    | incoming =>
      refine tidy_switchIncoming h fun hwaiting => ?_
      unfold EventOk at hok
      rw [if_neg (by simp [hwaiting])] at hok
      exact ⟨hok.1, hok.2.1⟩
    | alerting =>
      rw [soundEvent]
      split_ifs
      · exact (Ringer.exceptTone_playCallTone .ringback r).tidy h
      · exact h
    | _ => exact h
  | noMoreIncomingCall =>
    exact (Ringer.exceptTone_stopTone .waiting _).tidy (h.stopRingtone hok.1)
  | noMoreActiveCall | noMoreAlertingCall =>
    rw [soundEvent]
    split_ifs
    · exact (Ringer.exceptTone_playCallEndedTone a _).tidy hback
    · exact hback
  | noMoreDialingCall | noMoreHoldingCall =>
    rw [soundEvent]
    split_ifs
    · exact (Ringer.exceptTone_playCallEndedTone a r).tidy h
    · exact h
  | newIncomingCall =>
    rw [soundEvent]
    split_ifs
    · exact (Ringer.exceptTone_playCallTone .waiting r).tidy h
    · exact h
  | _ => exact h

end RingCalls

/-! ## Who ends what rings -/

/-- What rings has a ringing call, or an event still to come that stops it. -/
structure Ringer.Attended (rings : Prop) (queue : List AudioEvent) (r : Ringer) : Prop where
  ring : r.EitherRings → rings ∨ EndsRing queue
  tone : r.WaitingTone → rings ∨ EndsTone queue
  vibrator : r.vibrator = true → rings

namespace Ringer

variable {r r' : Ringer} {rings : Prop} {queue queue' : List AudioEvent}

theorem Attended.of_rings (h : rings) : r.Attended rings queue :=
  ⟨fun _ => .inl h, fun _ => .inl h, fun _ => h⟩

theorem Attended.quieter (h : r.Attended rings queue) (hquieter : r.Quieter r') :
    r'.Attended rings queue where
  ring := h.ring ∘ hquieter.either
  tone := h.tone ∘ hquieter.tone
  vibrator := h.vibrator ∘ hquieter.vibrator

theorem Attended.mono (h : r.Attended rings queue) (hqueue : ∀ event ∈ queue, event ∈ queue') :
    r.Attended rings queue' where
  ring hr := (h.ring hr).imp_right fun h => h.imp (hqueue _) (hqueue _)
  tone hr := (h.tone hr).imp_right (hqueue _)
  vibrator := h.vibrator

/-- An event that stops no ring leaves the others to do it. -/
theorem Attended.tail {event : AudioEvent} (h : r.Attended rings (event :: queue))
    (hnoMore : event ≠ .noMoreIncomingCall) (hswitch : event ≠ .switchState .incoming) :
    r.Attended rings queue where
  ring hr := (h.ring hr).imp_right fun h =>
    h.imp (fun h => List.mem_of_ne_of_mem hnoMore.symm h)
      fun h => List.mem_of_ne_of_mem hswitch.symm h
  tone hr := (h.tone hr).imp_right fun h => List.mem_of_ne_of_mem hnoMore.symm h
  vibrator := h.vibrator

end Ringer

/-- What holds in every run whose steps meet the condition. -/
structure RingWorld.Covered (w : RingWorld) : Prop where
  inv : w.calls.toAudioWorld.Inv
  tidy : w.ringer.Tidy
  attended : w.ringer.Attended w.calls.Rings w.calls.control.queue

theorem RingWorld.Covered.ringEnds {w : RingWorld} (h : w.Covered) : w.RingEnds where
  silent hqueue _ hrings := by
    have hring : ¬ w.ringer.EitherRings := fun hr => by
      have := (h.attended.ring hr).resolve_left hrings
      rw [hqueue] at this
      exact this.elim (nomatch ·) (nomatch ·)
    have htone : ¬ w.ringer.WaitingTone := fun hr => by
      have := (h.attended.tone hr).resolve_left hrings
      rw [hqueue] at this
      exact nomatch this
    refine ⟨?_, ?_, ?_, htone⟩
    · simpa using fun hr => hring (.inl hr)
    · simpa using fun hr => hring (.inr hr)
    · simpa using fun hr => hrings (h.attended.vibrator hr)
  notLost := h.tidy.notLost

namespace RingCalls

variable {c : RingCalls} {a : RingAnswers} {r r' : Ringer} {u : StateUpdate}
  {queue : List AudioEvent} {event : AudioEvent}

/-! ### Without a ringing call -/

theorem getCallNumber_incoming_of_not_rings (h : c.toAudioWorld.Tracked) (hrings : ¬ c.Rings) :
    c.control.processor.getCallNumber .incoming = 0 := by
  refine Finset.card_eq_zero.mpr (Finset.eq_empty_of_forall_notMem fun callId hmem => hrings ?_)
  obtain ⟨call, hcall, -, hset | hactive⟩ := h .incoming callId hmem
  · refine ⟨callId, isIn_iff.mpr ⟨call, hcall, ?_⟩⟩
    cases hstate : call.state <;> rw [hstate] at hset <;> first | decide | cases hset
  · cases hactive.1

theorem playRingtone_of_no_incoming (h : c.control.processor.getCallNumber .incoming = 0) :
    c.playRingtone a r = r := by
  unfold playRingtone
  rw [if_pos]
  simp [shouldPlayRingtone, h]

/-- Without an incoming call, and with no waiting tone to play, `SwitchIncoming` stops the
    ring and at most begins the silent one. -/
theorem switchIncoming_of_no_incoming (h : c.control.processor.getCallNumber .incoming = 0)
    (hwaiting : c.playsWaitingTone a = false) :
    c.switchIncoming a r =
      if playsTransferCall a then
        if c.isWearableDevice then
          ((r.stopRingtone a.stopPlayer).stopRingtone a.stopPlayerAgain).playForNoRing a
        else r.stopRingtone a.stopPlayer
      else if c.playsSystemRing a then r.stopRingtone a.stopPlayer
      else if c.isWearableDevice then (r.stopRingtone a.stopPlayer).playForNoRing a
      else r := by
  unfold switchIncoming
  rw [h, if_neg (by decide : ¬ 1 < 0)]
  simp only [hwaiting, playRingtone_of_no_incoming h, Bool.false_eq_true, if_false]
  by_cases htransfer : playsTransferCall a = true
  · have hsystem : c.playsSystemRing a = false := by simp [playsSystemRing, htransfer]
    simp [htransfer, hsystem]
  · simp [htransfer]

/-- The silent ring is all that `PlayForNoRing` changes. -/
theorem attended_playForNoRing {rings : Prop} (h : r.Attended rings queue)
    (hring : EndsRing queue ∨ a.createRenderer = false) :
    (r.playForNoRing a).Attended rings queue := by
  unfold Ringer.playForNoRing
  split_ifs with hno hcreate
  · exact h
  · exact h
  · exact ⟨fun _ => .inr (hring.resolve_right hcreate), h.tone, h.vibrator⟩

end RingCalls

/-! ### Events -/

namespace RingCalls

variable {c : RingCalls} {a : RingAnswers} {r r' : Ringer} {u : StateUpdate}
  {queue : List AudioEvent} {event : AudioEvent}

/-- No other event makes anything ring. -/
theorem quieter_soundEvent (hswitch : event ≠ .switchState .incoming)
    (hnew : event ≠ .newIncomingCall) : r.Quieter (c.soundEvent a r event) := by
  cases event with
  | switchState scene =>
    cases scene with
    | incoming => exact absurd rfl hswitch
    | alerting =>
      rw [soundEvent]
      split_ifs
      · exact Ringer.quieter_playRingback r
      · exact .refl r
    | _ => exact .refl r
  | noMoreIncomingCall =>
    exact (Ringer.quieter_stopRingtone _ r).trans (Ringer.quieter_stopTone .waiting _)
  | noMoreActiveCall | noMoreAlertingCall =>
    rw [soundEvent]
    split_ifs
    · exact (Ringer.quieter_stopTone .ringback r).trans (Ringer.quieter_playCallEndedTone a _)
    · exact Ringer.quieter_stopTone .ringback r
  | noMoreDialingCall | noMoreHoldingCall =>
    rw [soundEvent]
    split_ifs
    · exact Ringer.quieter_playCallEndedTone a r
    · exact .refl r
  | newIncomingCall => exact absurd rfl hnew
  | _ => exact .refl r

/-- `NO_MORE_INCOMING_CALL` stops the waiting tone, and the ring unless both kinds are on. -/
theorem attended_noMoreIncomingCall (h : r.Attended c.Rings (.noMoreIncomingCall :: queue))
    (hok : EndsRing queue ∨ ¬ r.BothRing) :
    (c.soundEvent a r .noMoreIncomingCall).Attended c.Rings queue := by
  have hquieter : r.Quieter (c.soundEvent a r .noMoreIncomingCall) :=
    quieter_soundEvent nofun nofun
  refine ⟨fun hr => .inr (hok.resolve_right fun hboth => ?_), fun hr => ?_,
    h.vibrator ∘ hquieter.vibrator⟩
  · exact Ringer.not_eitherRings_stopRingtone a.stopPlayer hboth
      ((Ringer.quieter_stopTone .waiting _).either hr)
  · exact absurd hr (Ringer.not_waitingTone_stopTone _)

/-- A waiting tone that is played on has an event that stops it, or the one there was goes on. -/
theorem attended_playWaitingTone {rings : Prop} (h : r.Attended rings queue)
    (hok : rings ∨ EndsTone queue ∨ r.toneState = .toneing) :
    (r.playCallTone .waiting).Attended rings queue := by
  by_cases htone : r.toneState = .toneing
  · exact h.quieter (Ringer.quieter_playWaitingTone htone)
  · have hends : rings ∨ EndsTone queue := by
      rcases hok with hok | hok | hok
      · exact .inl hok
      · exact .inr hok
      · exact absurd hok htone
    have hexcept := Ringer.exceptTone_playCallTone .waiting r
    rw [hexcept]
    exact ⟨h.ring, fun _ => hends, h.vibrator⟩

/-- The condition on `SwitchIncoming` leaves no ring behind when no call is ringing. -/
theorem attended_switchIncoming (h : r.Attended c.Rings (.switchState .incoming :: queue))
    (hnumber : c.control.processor.getCallNumber .incoming = 0)
    (hwaiting : c.playsWaitingTone a = false) (hok : EndsRing queue ∨ c.SwitchOk a r) :
    (c.switchIncoming a r).Attended c.Rings queue := by
  have hquiet : ∀ r', r.Quieter r' → EndsRing queue ∨ ¬ r'.EitherRings →
      r'.Attended c.Rings queue := fun r' hquieter hends =>
    { ring := fun hr => .inr (hends.resolve_right fun hnot => hnot hr)
      tone := fun hr => (h.tone (hquieter.tone hr)).imp_right fun hends =>
        List.mem_of_ne_of_mem (by decide) hends
      vibrator := h.vibrator ∘ hquieter.vibrator }
  rw [switchIncoming_of_no_incoming hnumber hwaiting]
  unfold SwitchOk at hok
  have hstop := Ringer.quieter_stopRingtone a.stopPlayer r
  split_ifs at hok ⊢
  · have hagain := Ringer.quieter_stopRingtone a.stopPlayerAgain (r.stopRingtone a.stopPlayer)
    refine attended_playForNoRing (hquiet _ (hstop.trans hagain) (.inr ?_)) hok
    exact Ringer.not_eitherRings_stopRingtone_twice _ _ r
  · exact hquiet _ hstop (hok.imp_right (Ringer.not_eitherRings_stopRingtone _))
  · exact hquiet _ hstop (hok.imp_right (Ringer.not_eitherRings_stopRingtone _))
  · refine attended_playForNoRing (hquiet _ hstop (hok.imp_right fun hok => ?_))
      (hok.imp_right And.left)
    exact Ringer.not_eitherRings_stopRingtone _ hok.2
  · exact hquiet r (.refl r) hok

/-- **Taking an event.** Under the condition on it, what rings after has a ringing call or
    an event that stops it. -/
theorem attended_soundEvent (h : r.Attended c.Rings (event :: queue))
    (htracked : c.toAudioWorld.Tracked) (hok : c.EventOk a r queue event) :
    (c.soundEvent a r event).Attended c.Rings queue := by
  by_cases hrings : c.Rings
  · exact .of_rings hrings
  by_cases hnew : event = .newIncomingCall
  · subst hnew
    have htail := h.tail (by decide) (by decide)
    rw [soundEvent]
    split_ifs with hscene
    · exact attended_playWaitingTone htail (hok hscene)
    · exact htail
  by_cases hswitch : event = .switchState .incoming
  · subst hswitch
    have hnumber := getCallNumber_incoming_of_not_rings htracked hrings
    unfold EventOk at hok
    by_cases hwaiting : c.playsWaitingTone a = true
    · rw [if_pos hwaiting] at hok
      have hplay : c.switchIncoming a r = r.playCallTone .waiting := by
        unfold switchIncoming
        rw [hnumber, if_neg (by decide : ¬ 1 < 0)]
        exact if_pos hwaiting
      rw [soundEvent, hplay]
      refine attended_playWaitingTone ⟨fun hr => ?_, fun hr => ?_, h.vibrator⟩ hok.1
      · rcases hok.2 with hok | hok | hok
        · exact .inl hok
        · exact .inr hok
        · exact absurd hr hok
      · exact (h.tone hr).imp_right fun hends => List.mem_of_ne_of_mem (by decide) hends
    · rw [if_neg hwaiting] at hok
      exact attended_switchIncoming h hnumber (by simpa using hwaiting)
        (hok.2.2.resolve_left hrings)
  by_cases hnoMore : event = .noMoreIncomingCall
  · subst hnoMore
    exact attended_noMoreIncomingCall h (hok.2.resolve_left hrings)
  · exact (h.tail hnoMore hswitch).quieter (quieter_soundEvent hswitch hnew)

end RingCalls

/-! ### Updates and tasks -/

theorem takeEvent_queue {control : AudioControl} {event : AudioEvent} {queue : List AudioEvent}
    (h : control.queue = event :: queue) : queue ⊆ control.takeEvent.queue := by
  have hsubmit : ∀ c : AudioControl, c.queue = queue → ∀ event', queue ⊆ (c.submit event').queue :=
    fun c hc event' => by
      rw [AudioControl.submit, hc]
      exact List.subset_append_left _ _
  unfold AudioControl.takeEvent
  rw [h]
  cases event with
  | switchState | newActiveOttCall | callTypeCsChangeIms | callTypeImsChangeCs =>
    exact List.Subset.refl queue
  | _ => exact hsubmit _ rfl _

namespace RingCalls

variable {c : RingCalls} {a : RingAnswers} {r r' : Ringer} {u : StateUpdate} {op : AudioOp}

theorem tell_control (htype : u.callType ≠ .voip) :
    (c.tell u).control =
      c.control.handleCallStateUpdated u.callType u.callId u.priorState u.nextState :=
  AudioWorld.deliver_control htype

/-- An update that does not enter the scenes leaves the queue. -/
theorem queue_tell_of_skips (htype : u.callType ≠ .voip) (h : c.skips u = true) :
    (c.tell u).control.queue = c.control.queue := by
  obtain ⟨hanswered, hskips⟩ := of_decide_eq_true h
  rw [tell_control htype]
  unfold AudioControl.handleCallStateUpdated AudioControl.preHandleAnswerdState
  rw [if_neg (fun h => h.1 hanswered), if_pos hanswered, if_pos hskips]
  rfl

/-- Another one queues its events. -/
theorem queue_tell_of_not_skips (htype : u.callType ≠ .voip) (h : c.skips u = false) :
    ∃ control : AudioControl, (c.tell u).control.queue =
      c.control.queue ++ control.enterEvents u.callType u.callId u.priorState u.nextState := by
  rw [tell_control htype]
  unfold AudioControl.handleCallStateUpdated AudioControl.preHandleAnswerdState
  split_ifs with hfirst hanswered hskips hend
  · exact ⟨_, AudioControl.enterScenes_queue⟩
  · exact absurd ⟨hanswered, hskips⟩ (of_decide_eq_false h)
  · exact ⟨_, AudioControl.enterScenes_queue⟩
  · exact ⟨_, AudioControl.enterScenes_queue⟩
  · exact ⟨_, AudioControl.enterScenes_queue⟩

/-- The calls after an update. -/
theorem calls_tell {callId : ℤ} (h : u.nextState = .answered ∨ callId ≠ u.callId) :
    (c.tell u).calls callId = c.calls callId := by
  unfold tell AudioWorld.deliver
  dsimp only
  split_ifs with hnext
  · rfl
  · exact Function.update_of_ne (h.resolve_left hnext) _ _

theorem isRingingCall_congr {c' : RingCalls} {callId : ℤ} (h : c'.calls callId = c.calls callId) :
    c'.isRingingCall callId = c.isRingingCall callId := by
  rw [isRingingCall, isIn, h]
  rfl

/-- A call whose update ends the last ring was ringing before it, and the update tells of it. -/
theorem prior_ringing_of_last (hu : AudioWorld.Delivered c.toAudioWorld op u) (h : c.Rings)
    (hrings : ¬ (c.tell u).Rings) :
    (u.priorState = .incoming ∨ u.priorState = .waiting) ∧ u.priorState ≠ u.nextState ∧
      u.nextState ≠ .answered := by
  obtain ⟨callId, hringing⟩ := h
  have hsame : ¬ (u.nextState = .answered ∨ callId ≠ u.callId) := fun hsame => by
    refine hrings ⟨callId, ?_⟩
    rw [isRingingCall_congr (calls_tell hsame)]
    exact hringing
  rw [not_or, not_not] at hsame
  obtain ⟨hnext, rfl⟩ := hsame
  obtain ⟨call, hcall, hstate⟩ := isIn_iff.mp hringing
  cases hu with
  | first callType callId state hnone =>
    rw [hnone] at hcall
    cases hcall
  | next call' callId callType nextState hcall' hlive hnext' =>
    cases hcall.symm.trans hcall'
    refine ⟨by simpa using hstate, fun hprior => hrings ⟨callId, ?_⟩, hnext'⟩
    dsimp only at hprior
    rw [hprior] at hstate
    refine isIn_iff.mpr ⟨⟨call.callType, nextState⟩, ?_, hstate⟩
    simp [tell, AudioWorld.deliver, hnext']
  | answer => exact absurd rfl hnext

theorem not_any_isCrs (h : ¬ c.Rings) : c.hasIncomingCallCrsType = false := by
  rw [hasIncomingCallCrsType, List.any_eq_false]
  intro callId _ hcrs
  exact h ⟨callId, (Bool.and_eq_true_iff.mp hcrs).1⟩

theorem not_any_videoRing (h : ¬ c.Rings) : c.hasIncomingCallVideoRingType = false := by
  rw [hasIncomingCallVideoRingType, List.any_eq_false]
  intro callId _ hvideo
  exact h ⟨callId, (Bool.and_eq_true_iff.mp hvideo).1⟩

/-- The end of the last ring by an end of the call, or by its becoming active, stops the
    vibrator. -/
theorem stopsVibrator_of_last
    (hprior : u.priorState = .incoming ∨ u.priorState = .waiting)
    (hne : u.priorState ≠ u.nextState) (hrings : ¬ (c.tell u).Rings)
    (hnext : u.nextState ∈ [TelCallState.disconnecting, .disconnected, .active]) :
    (c.tell u).stopsVibrator u = true := by
  refine decide_eq_true ?_
  simp only [List.mem_cons, List.not_mem_nil, or_false] at hnext
  rcases hnext with hnext | hnext | hnext
  · exact .inl ⟨.inl hnext, not_any_isCrs hrings, not_any_videoRing hrings⟩
  · exact .inl ⟨.inr hnext, not_any_isCrs hrings, not_any_videoRing hrings⟩
  · refine .inr ⟨hne, hprior, isIn_iff.mpr ⟨⟨u.callType, .active⟩, ?_, List.mem_cons_self⟩⟩
    simp [tell, AudioWorld.deliver, hnext]

/-- **An update.** Under the condition on it, what rings after has a ringing call or an event
    that stops it. -/
theorem attended_soundUpdate (hu : AudioWorld.Delivered c.toAudioWorld op u)
    (htype : u.callType ≠ .voip) (ht : r.Tidy) (h : r.Attended c.Rings c.control.queue)
    (hok : c.UpdateOk a r u) :
    (c.soundUpdate a u r).Attended (c.tell u).Rings (c.tell u).control.queue := by
  by_cases hrings : (c.tell u).Rings
  · exact .of_rings hrings
  obtain ⟨r', heq, -, hquieter, hstopped⟩ := soundUpdate_spec (c := c) (a := a) (u := u) ht
  rw [heq, updateForegroundLiveCall_of_not_rings hrings]
  have hupdate := hok.1 hrings
  by_cases hskips : c.skips u = true
  · rw [if_pos hskips] at hupdate
    rw [queue_tell_of_skips htype hskips]
    refine Ringer.Attended.quieter ⟨fun hr => .inr (hupdate.1 hr), fun hr => .inr (hupdate.2.1 hr),
      fun hr => ?_⟩ hquieter
    rw [hupdate.2.2] at hr
    cases hr
  · rw [if_neg hskips] at hupdate
    have hskips' : c.skips u = false := by simpa using hskips
    obtain ⟨control, hqueue⟩ := queue_tell_of_not_skips htype hskips'
    rw [hqueue]
    -- the update that ends the last ring queues the event that stops it
    have hends : c.Rings → .noMoreIncomingCall ∈ c.control.queue ++
        control.enterEvents u.callType u.callId u.priorState u.nextState := fun hrang => by
      obtain ⟨hprior, hne, -⟩ := prior_ringing_of_last hu hrang hrings
      exact List.mem_append_right _
        (AudioControl.noMoreIncomingCall_mem_enterEvents hprior hne)
    refine ⟨fun hr => .inr ?_, fun hr => .inr ?_, fun hr => ?_⟩
    · rcases h.ring (hquieter.either hr) with hrang | hring
      · exact .inl (hends hrang)
      · exact hring.imp (List.mem_append_left _) (List.mem_append_left _)
    · rcases h.tone (hquieter.tone hr) with hrang | htone
      · exact hends hrang
      · exact List.mem_append_left _ htone
    · have hon := hquieter.vibrator hr
      obtain ⟨hprior, hne, -⟩ := prior_ringing_of_last hu (h.vibrator hon) hrings
      by_cases hnext : u.nextState ∈ [TelCallState.disconnecting, .disconnected, .active]
      · rw [hstopped hskips' (stopsVibrator_of_last hprior hne hrings hnext)] at hr
        cases hr
      · rw [hupdate hnext] at hon
        cases hon

/-- What a pending task rings has a ringing call or an event that stops it, or is stopped. -/
theorem attended_playRing (h : r.Attended c.Rings c.control.queue) (hok : c.TaskOk a r) :
    (c.playRing a r).Attended c.Rings c.control.queue := by
  by_cases hrings : c.Rings
  · exact .of_rings hrings
  by_cases hget : a.getRingTonePlayer = false
  · have hplay : c.playRing a r = (r.ringPlay a).2 := by
      unfold playRing Ringer.ringPlay
      dsimp only
      rw [if_pos hget]
      rfl
    rw [hplay, Ringer.ringPlay, if_pos hget]
    exact ⟨h.ring, h.tone, h.vibrator⟩
  have hplay : r.ringPlay a = (a.startPlayer,
      { r with
        ringtonePlayer := some (if a.startPlayer then .started else .idle)
        lost := r.lost || r.ringtonePlayer = some .started
        isRinging := true }) := if_neg hget
  unfold playRing
  rw [hplay]
  dsimp only
  generalize hr₁ : ({ r with
    ringtonePlayer := some (if a.startPlayer then .started else .idle)
    lost := r.lost || r.ringtonePlayer = some .started
    isRinging := true } : Ringer) = r₁
  have hquiet : ∀ r', r₁.Quieter r' → EndsRing c.control.queue ∨ ¬ r'.EitherRings →
      r'.Attended c.Rings c.control.queue := by
    subst hr₁
    exact fun r' hquieter hends =>
      { ring := fun hr => .inr (hends.resolve_right fun hnot => hnot hr)
        tone := h.tone ∘ hquieter.tone
        vibrator := h.vibrator ∘ hquieter.vibrator }
  rcases (hok.2.1.resolve_left hrings).imp_right fun hok => hok.resolve_left hget with
    hends | ⟨hstart, hnone⟩
  · split_ifs
    · exact hquiet r₁ (.refl r₁) (.inl hends)
    · exact hquiet _ (Ringer.quieter_stopRingtone _ r₁) (.inl hends)
    · exact hquiet _ quieter_muteRinger (.inl hends)
    · exact hquiet r₁ (.refl r₁) (.inl hends)
  · -- the ring that the task began is stopped, since no call is ringing
    rw [if_neg (by simp [hstart]), if_pos hnone]
    refine hquiet _ (Ringer.quieter_stopRingtone _ r₁) ?_
    by_cases hno : r.isPlayForNoRing = true
    · exact .inl ((h.ring (.inr hno)).resolve_left hrings)
    · refine .inr (Ringer.not_eitherRings_stopRingtone _ fun hboth => hno ?_)
      subst hr₁
      exact hboth.2

end RingCalls

/-! ### Steps -/

namespace RingWorld

variable {w : RingWorld} {a : RingAnswers}

theorem covered_init (details : ℤ → RingDetails) (isWearableDevice : Bool) :
    (init details isWearableDevice).Covered where
  inv := AudioWorld.inv_init
  tidy := Ringer.tidy_init
  attended :=
    { ring := fun h => by rcases h with h | h <;> cases h
      tone := fun h => by cases h.1
      vibrator := fun h => by cases h }

theorem Covered.takeEvent (h : w.Covered) (hok : w.StepOk (.scene .takeEvent, a)) :
    (w.takeEvent a).Covered := by
  have hinv : (w.takeEvent a).calls.toAudioWorld.Inv :=
    AudioWorld.inv_step w.calls.toAudioWorld .takeEvent h.inv
  rw [StepOk] at hok
  cases hqueue : w.calls.control.queue with
  | nil =>
    have hringer : (w.takeEvent a).ringer = w.ringer := by
      unfold RingWorld.takeEvent
      rw [hqueue]
    refine ⟨hinv, hringer ▸ h.tidy, hringer ▸ h.attended.mono fun event hevent => ?_⟩
    rw [hqueue] at hevent
    cases hevent
  | cons event queue =>
    rw [hqueue] at hok
    have hringer : (w.takeEvent a).ringer = w.calls.soundEvent a w.ringer event := by
      unfold RingWorld.takeEvent
      rw [hqueue]
    refine ⟨hinv, hringer ▸ RingCalls.tidy_soundEvent h.tidy hok, hringer ▸ ?_⟩
    have hattended := h.attended
    rw [hqueue] at hattended
    exact (RingCalls.attended_soundEvent hattended h.inv.2 hok).mono
      (takeEvent_queue hqueue)

theorem Covered.update {op : AudioOp} {u : StateUpdate} (h : w.Covered)
    (hu : w.calls.toAudioWorld.update? op = some u) (hok : w.calls.UpdateOk a w.ringer u) :
    (RingWorld.mk (w.calls.tell u) (w.calls.soundUpdate a u w.ringer)).Covered := by
  have hdelivered := AudioWorld.delivered_of_update? hu
  have htype := hdelivered.ne_voip h.inv.1
  exact
    { inv := ⟨AudioWorld.typesMeet_deliver h.inv.1 htype,
        AudioWorld.tracked_deliver hdelivered htype h.inv.2⟩
      tidy := RingCalls.tidy_soundUpdate h.tidy hok.2
      attended := RingCalls.attended_soundUpdate hdelivered htype h.tidy h.attended hok }

theorem Covered.runTask (h : w.Covered) (hok : w.StepOk (.runTask, a)) :
    (w.runTask a).Covered := by
  unfold RingWorld.runTask
  by_cases hnone : w.ringer.ringTasks = 0
  · rw [if_pos hnone]
    exact h
  rw [if_neg hnone]
  have htidy : ({ w.ringer with ringTasks := w.ringer.ringTasks - 1 } : Ringer).Tidy :=
    ⟨h.tidy.notLost, h.tidy.started, h.tidy.flagged⟩
  have hattended : ({ w.ringer with ringTasks := w.ringer.ringTasks - 1 } : Ringer).Attended
      w.calls.Rings w.calls.control.queue :=
    ⟨h.attended.ring, h.attended.tone, h.attended.vibrator⟩
  by_cases hactive : a.isStreamActive = true
  · dsimp only
    rw [if_pos hactive]
    exact ⟨h.inv, htidy, hattended⟩
  · dsimp only
    rw [if_neg hactive]
    have htask : w.calls.TaskOk a w.ringer := hok hnone (by simpa using hactive)
    exact ⟨h.inv, RingCalls.tidy_playRing htidy htask.1 htask.2.2,
      RingCalls.attended_playRing hattended htask⟩

/-- **A step.** Under the condition on it, what rings stays attended. -/
theorem covered_step (w : RingWorld) (o : RingOp × RingAnswers) (h : w.Covered)
    (hok : w.StepOk o) : (w.step o).Covered := by
  obtain ⟨op, a⟩ := o
  cases op with
  | scene op =>
    cases op with
    | takeEvent => exact h.takeEvent hok
    | update callId callType nextState =>
      simp only [StepOk] at hok
      simp only [step]
      cases hu : w.calls.toAudioWorld.update? (.update callId callType nextState) with
      | none => exact h
      | some u =>
        rw [hu] at hok
        exact h.update hu hok
    | answered callId =>
      simp only [StepOk] at hok
      simp only [step]
      cases hu : w.calls.toAudioWorld.update? (.answered callId) with
      | none => exact h
      | some u =>
        rw [hu] at hok
        exact h.update hu hok
  | runTask => exact h.runTask hok
  | muteRinger =>
    exact ⟨h.inv, RingCalls.tidy_muteRinger h.tidy,
      h.attended.quieter RingCalls.quieter_muteRinger⟩
  | wear isNotWearOnWrist => exact ⟨h.inv, h.tidy, h.attended⟩
  | voipCall callId rings => exact ⟨h.inv, h.tidy, h.attended⟩

/-! ## Main results -/

/-- **The ringing ends with the calls.** For any calls, details of their ring, device and
    interleaving, and any answers: if every step meets its condition, then whenever the queue
    is empty, no ring task is pending and no carrier call is ringing, nothing rings, and no
    player that runs is ever replaced. -/
theorem ringing_ends_with_calls (details : ℤ → RingDetails) (isWearableDevice : Bool)
    (ops : List (RingOp × RingAnswers))
    (h : Run.StepsMeet step StepOk (init details isWearableDevice) ops) :
    Run.StatesMeet step RingEnds (init details isWearableDevice) ops :=
  (Run.statesMeet_of_stepsMeet covered_step (covered_init details isWearableDevice) h).mono
    fun _ hw => hw.ringEnds

/-- A step at a phone with one call, where the platform does what it is asked. -/
def usual : RingAnswers where
  voIPCallState := .idle
  hasCall := true
  isVoipCallExist := false
  currentCallNum := 1
  endCallCount := 0
  isStartVoiceBroadcast := false
  isNeedSilentInDoNotDisturbMode := false
  hasIncomingBtTransferCall := false
  isNeedMuteRing := false
  isBtCallDisconnected := false
  isSoundPlaying := false
  shouldPlayRingback := false
  ringerMode := .normal
  isRingingVibrateModeOn := false
  isRemoteDevicesConnected := false
  isStreamActive := false
  startVibrator := true
  getRingTonePlayer := true
  startPlayer := true
  stopPlayer := true
  stopPlayerAgain := true
  createRenderer := true

/-- A call that rings and is hung up. -/
def missedCall : List (RingOp × RingAnswers) :=
  [(.scene (.update 1 .ims .incoming), usual), (.scene .takeEvent, usual),
    (.scene .takeEvent, usual), (.scene (.update 1 .ims .disconnected), usual),
    (.scene .takeEvent, usual), (.scene .takeEvent, usual)]

theorem ringing_ends_with_missed_call :
    Run.StatesMeet step RingEnds (init (fun _ => ⟨false, false⟩) false) missedCall :=
  ringing_ends_with_calls _ false missedCall
    ⟨⟨fun _ => fun _ => rfl, .inr (RingCalls.restartOk_of_vibrator rfl)⟩,
      fun h => absurd h (by decide),
      ⟨RingCalls.restartOk_of_vibrator rfl, ⟨fun _ => nofun, nofun⟩, .inl ⟨1, by decide⟩⟩,
      ⟨fun _ h => absurd h (by decide), .inl ⟨rfl, by decide⟩⟩,
      ⟨fun _ _ => rfl, .inr (.inr fun h => absurd h.2 (by decide))⟩, trivial, trivial⟩

/-- A call rings while another stream is active and is hung up before the task of its ring
    runs, whose player does not start. -/
def failedLateRing : List (RingOp × RingAnswers) :=
  [(.scene (.update 1 .ims .incoming), usual), (.scene .takeEvent, usual),
    (.scene .takeEvent, { usual with isStreamActive := true }),
    (.scene (.update 1 .ims .disconnected), usual), (.scene .takeEvent, usual),
    (.scene .takeEvent, usual), (.runTask, { usual with startPlayer := false })]

/-- `Ring::Play` leaves `ringState_` at RINGING when the player does not start, and `PlayRing`
    gives up before it looks for the call. -/
theorem failed_start_rings_on :
    ¬ ∀ (details : ℤ → RingDetails) (isWearableDevice : Bool)
      (ops : List (RingOp × RingAnswers)),
      Run.StatesMeet step RingEnds (init details isWearableDevice) ops := by
  intro h
  have hlast := (h (fun _ => ⟨false, false⟩) false failedLateRing).last
  have hcalls : (Run.run step (init (fun _ => ⟨false, false⟩) false) failedLateRing).calls.calls =
      Function.update (Function.update (fun _ => none) 1 (some ⟨.ims, .incoming⟩)) 1
        (some ⟨.ims, .disconnected⟩) := rfl
  have hrings : ¬ (Run.run step (init (fun _ => ⟨false, false⟩) false)
      failedLateRing).calls.Rings := by
    rintro ⟨callId, hringing⟩
    obtain ⟨call, hcall, hstate⟩ := RingCalls.isIn_iff.mp hringing
    rw [hcalls] at hcall
    by_cases hid : callId = 1
    · subst hid
      cases hcall
      exact absurd hstate (by decide)
    · simp [Function.update_of_ne hid] at hcall
  have hsilent := hlast.silent (by decide +kernel) (by decide +kernel) hrings
  exact absurd hsilent.ringState (by decide +kernel)

end RingWorld

end CallManager.Ringing
