import CallManager.Ringing

/-!
# The voice-call volume under network ringing

While a call with a network ring tone (CRS) rings, its tone is played as a voice
call. `DealCrsScene` therefore gives the voice-call stream the volume of the
ring and keeps the old one in `voiceVolume_`, its only place. `StopSoundtone`
gives it back, and so does `ResumeCrsSoundTone` when the call is answered.

Specification: once the queue is empty and no CRS call is ringing, the volume is
the one before and `voiceVolume_` is −1 (`Restored`).

The code breaks this: the volume is changed whether or not the sound tone
starts, and `StopSoundtone` returns early if there is none; a second
`DealCrsScene` keeps the ring volume as the one to give back; the volume is
given back to the loudspeaker wherever it was taken; and the sound tone is
neither stopped while another call is left nor resumed for a call that is not
answered by the phone.

Results:
* `keepsVolume_iff`: in every state of a run the volume before is there or is
  kept, and is restored, iff every step meets `StepOk`.
* `volume_restored`: so in every run of such steps the volume is restored.
* `step_ring`, `soundUpdate_eq`: what rings goes on as in `CallManager.Ringing`, with the
  sound tone it hears.
* `ring_volume_stays`: a run in which it is not.
-/

namespace CallManager.Ringing

open AudioLocks (AudioRingerMode)

/-! ## Model -/

/-- `SoundState` (sound.h). -/
inductive SoundState
  | sounding | stopped
  deriving DecidableEq, Repr

/-- The output devices of the audio framework: the loudspeaker and the others.
    The volume of a stream is kept for each device. -/
inductive OutputDevice
  | speaker
  | other (id : ℕ)
  deriving DecidableEq, Repr

/-- What `PlaySoundtone` asks and what the platform answers: whether there is a
    call, `ShouldPlaySoundTone`, whether a `Sound` and its `AudioPlayer` are
    made, and whether the renderer and the capturer are initialised. -/
structure SoundAnswers where
  hasCall : Bool
  shouldPlaySoundTone : Bool
  makeSound : Bool
  makePlayer : Bool
  initAudio : Bool
  deriving DecidableEq, Repr

/-- What is asked in a step beside `RingAnswers`: the sound tone of the scenes
    and the updates, and that of `DealCrsScene`; the ring volume; the device that
    is in use for the voice-call stream; the number of calls that ring; and
    whether the build plays a sound tone after an emergency call. -/
structure CrsAnswers where
  sound : SoundAnswers
  crsSound : SoundAnswers
  ringVolume : ℕ
  activeDevice : OutputDevice
  ringCallCount : ℤ
  playsSosSoundTone : Bool
  deriving DecidableEq, Repr

/-- The fields of `AudioControlManager` that the network ringing uses, and the volume of
    `STREAM_VOICE_CALL`. `sound` tells whether `sound_` is there and has its player, and
    `unmuteTasks` counts the tasks of `UnmuteSoundTone` that are pending. -/
structure CrsVolume where
  soundState : SoundState
  sound : Option Bool
  isCrsStartSoundTone : Bool
  voiceVolume : ℤ
  volume : OutputDevice → ℕ
  unmuteTasks : ℕ

namespace CrsVolume

/-- The state after `Init`. -/
def init (volume : OutputDevice → ℕ) : CrsVolume where
  soundState := .stopped
  sound := none
  isCrsStartSoundTone := false
  voiceVolume := -1
  volume := volume
  unmuteTasks := 0

/-- `AdjustVolumesForCrs` (audio_control_manager.cpp:1889-1897), with `SaveVoiceVolume`. -/
def adjustVolumesForCrs (x : CrsAnswers) (v : CrsVolume) : CrsVolume :=
  { v with
    volume := Function.update v.volume x.activeDevice x.ringVolume
    voiceVolume := v.volume x.activeDevice }

/-- `RestoreVoiceValumeIfNecessary` (lines 1899-1909). -/
def restoreVoiceValumeIfNecessary (v : CrsVolume) : CrsVolume :=
  if 0 ≤ v.voiceVolume then
    { v with
      volume := Function.update v.volume .speaker v.voiceVolume.toNat
      voiceVolume := -1 }
  else v

/-- `PlaySoundtone` (lines 1179-1212), with `Sound::Play` (sound.cpp:34-41) and
    `AudioPlayer::Play` (audio_player.cpp:178-186), which sets SOUNDING before it initialises
    the renderer: whether it succeeds. -/
def playSoundtone (a : SoundAnswers) (v : CrsVolume) : Bool × CrsVolume :=
  if a.hasCall = false then (false, v)
  else if a.shouldPlaySoundTone = false then (false, v)
  else if v.soundState = .sounding then (false, v)
  else
    let v :=
      { v with sound := v.sound.or (if a.makeSound then some a.makePlayer else none) }
    if v.sound = some true then (a.initAudio, { v with soundState := .sounding })
    else (false, v)

/-- `StopSoundtone` (lines 1214-1234), with `Sound::Stop` (sound.cpp:43-51). -/
def stopSoundtone (v : CrsVolume) : Bool × CrsVolume :=
  if v.soundState = .stopped then (true, v)
  else if v.sound = some true then
    (true,
      { { v with soundState := .stopped }.restoreVoiceValumeIfNecessary with
        isCrsStartSoundTone := false })
  else (false, v)

/-- `ResumeCrsSoundTone` (lines 691-714), without the device. -/
def resumeCrsSoundTone (v : CrsVolume) : CrsVolume :=
  { v.restoreVoiceValumeIfNecessary with isCrsStartSoundTone := false }

/-- The task of `UnmuteSoundTone` (lines 522-537). -/
def unmuteTask (v : CrsVolume) : CrsVolume :=
  if v.unmuteTasks = 0 then v
  else { v with unmuteTasks := v.unmuteTasks - 1, isCrsStartSoundTone := false }

/-- The sound tone of `DealCrsScene` (lines 1086-1102): the volume is changed whether or not it
    starts. -/
def startCrsSoundTone (x : CrsAnswers) (v : CrsVolume) : CrsVolume :=
  let v := { v with isCrsStartSoundTone := true }
  let (played, v) := v.playSoundtone x.crsSound
  if played then v.adjustVolumesForCrs x
  else v.adjustVolumesForCrs x

end CrsVolume

/-- The answers once the sound tone is in the state of `v`. -/
def RingAnswers.hears (a : RingAnswers) (v : CrsVolume) : RingAnswers :=
  { a with isSoundPlaying := v.soundState = .sounding }

namespace RingCalls

variable (c : RingCalls)

/-! ### `DealCrsScene` -/

/-- `DealCrsScene` (audio_control_manager.cpp:1070-1112): a call that is not there any more is
    not played. -/
def crsDealCrsScene (a : RingAnswers) (x : CrsAnswers) (r : Ringer) (v : CrsVolume) : CrsVolume :=
  if r.isCrsVibrating = false ∧ a.ringerMode ≠ .silent ∧ a.isRingingVibrateModeOn = true ∧
      c.callObjectPtrList.any (c.isIn [.incoming]) = false then v
  else if a.ringerMode = .normal ∨ a.isRemoteDevicesConnected = true then v.startCrsSoundTone x
  else v

/-- `PlayRingtone` (lines 958-987). -/
def crsPlayRingtone (a : RingAnswers) (x : CrsAnswers) (r : Ringer) (v : CrsVolume) : CrsVolume :=
  if c.shouldPlayRingtone a r = false then v
  else
    match c.getRingingCall with
    | none => v
    | some incomingCall => if c.isCrs incomingCall then c.crsDealCrsScene a x r v else v

/-- `UpdateForegroundLiveCall` (lines 98-145). -/
def crsUpdateForegroundLiveCall (a : RingAnswers) (x : CrsAnswers) (r : Ringer) (v : CrsVolume) :
    CrsVolume :=
  let callId := c.control.processor.getAudioForegroundLiveCall
  if callId = invalidCallId then v
  else if c.isIn [.waiting] callId = false then v
  else if a.isVoipCallExist then v
  else if c.isWearableDevice ∧ c.isNotWearOnWrist then v
  else c.crsPlayRingtone a x (r.stopTone .waiting) v

/-! ### Updates -/

/-- `ProcessSoundtone` returns early (lines 665-674): there are other calls. -/
def hasOtherCalls (a : RingAnswers) (x : CrsAnswers) (callId : ℤ) : Bool :=
  (if callId ∈ c.control.answeredByPhone then 1 else 2) ≤ a.currentCallNum - x.ringCallCount

/-- `ProcessSoundtone` (lines 665-689). -/
def processSoundtone (a : RingAnswers) (x : CrsAnswers) (callId : ℤ) (v : CrsVolume) : CrsVolume :=
  if c.hasOtherCalls a x callId then v
  else if v.isCrsStartSoundTone then
    if callId ∈ c.control.answeredByPhone then v.resumeCrsSoundTone else v
  else (v.stopSoundtone.2.playSoundtone x.sound).2

/-- The update gets to `ProcessSoundtone`: it enters the scenes and is the end of INCOMING or
    WAITING for a call that is active or rings (`ProcessAudioWhenCallActive`, lines 654-663). -/
def processesSoundtone (u : StateUpdate) : Bool :=
  c.skips u = false ∧ u.priorState ≠ u.nextState ∧
    (u.priorState = .incoming ∨ u.priorState = .waiting) ∧
    (c.tell u).isIn [.active, .incoming, .waiting] u.callId = true

/-- The update gets to play the sound tone in `ApplyFocusForBlueToothCall` (lines 598-609). -/
def appliesFocus (u : StateUpdate) : Bool :=
  c.skips u = false ∧ u.priorState = u.nextState ∧ u.callType = .bluetooth ∧
    (u.nextState = .active ∨ u.nextState = .alerting)

/-- What an update does to the sound tone before `UpdateForegroundLiveCall`. -/
def crsUpdate (a : RingAnswers) (x : CrsAnswers) (u : StateUpdate) (v : CrsVolume) : CrsVolume :=
  let v :=
    if u.nextState = .active ∧ (u.priorState = .incoming ∨ u.priorState = .waiting) then
      { v with unmuteTasks := v.unmuteTasks + 1 }
    else v
  if c.processesSoundtone u then (c.tell u).processSoundtone a x u.callId v
  else if c.appliesFocus u = true ∧ v.soundState = .stopped then (v.playSoundtone x.sound).2
  else v

/-- What rings when an update gets to `UpdateForegroundLiveCall`. -/
def ringerUpdate (a : RingAnswers) (u : StateUpdate) (r : Ringer) : Ringer :=
  let c' := c.tell u
  let r := if c.answers u then c'.muteRinger a r else r
  let r := if c.skips u = false ∧ c'.stopsVibrator u = true then r.stopVibrator else r
  if u.priorState = .incoming ∧ u.priorState ≠ u.nextState ∧
      c'.control.processor.getCallNumber .incoming = 0 then
    { r with isIncomingConflict := false }
  else r

/-! ### The scenes -/

/-- `ProcessEventInner` (audio_scene_processor.cpp:62-124) stops the sound tone before a switch. -/
def crsStopBefore (v : CrsVolume) : AudioEvent → CrsVolume
  | .switchState _ => if c.shouldStopSoundtone then v.stopSoundtone.2 else v
  | _ => v

/-- `SwitchIncoming` (lines 239-289), without the conflict of incoming calls, which only delays
    the ringtone. -/
def crsSwitchIncoming (a : RingAnswers) (x : CrsAnswers) (r : Ringer) (v : CrsVolume) :
    CrsVolume :=
  if c.playsWaitingTone a then v
  else if playsTransferCall a then c.crsPlayRingtone a x (r.stopRingtone a.stopPlayer) v
  else if c.playsSystemRing a then c.crsPlayRingtone a x (r.stopRingtone a.stopPlayer) v
  else v

/-- What `ProcessEventInner` does to the sound tone after that: `SwitchDialing` (lines 176-199),
    `SwitchIncoming` and `PlaySosSoundTone` (lines 342-361). -/
def crsEvent (a : RingAnswers) (x : CrsAnswers) (r : Ringer) (v : CrsVolume) :
    AudioEvent → CrsVolume
  | .switchState .dialing => (v.playSoundtone x.sound).2
  | .switchState .incoming => c.crsSwitchIncoming a x r v
  | .noMoreAlertingCall | .noMoreDialingCall =>
    if x.playsSosSoundTone = true ∧ c.shouldStopSoundtone = false ∧
        c.control.processor.activeCalls.Nonempty then
      (v.playSoundtone x.sound).2
    else v
  | _ => v

end RingCalls

/-- The requests for `PlayRingtone` from outside the scenes: `ResumeWaitingToRinging`
    (call_control_manager.cpp:1638-1645), `HandleVideoRingPlayFail` (lines 2296-2314; whether
    the call still has a video ringtone without its path) and `PlayRing` of the voice assistant
    (call_voice_assistant_manager.cpp:722-745). -/
inductive RingRequest
  | resumeWaitingToRinging (numActive numHeld : ℤ)
  | handleVideoRingPlayFail (stillVideoRing : Bool)
  | voiceAssistantPlayRing
  deriving DecidableEq, Repr

namespace RingCalls

variable (c : RingCalls)

/-- `GetOneCarrierCallObject(CALL_RUNNING_STATE_RINGING)` (call_object_manager.cpp:695-705). -/
def getRingingCarrierCall : Option ℤ := c.callObjectPtrList.reverse.find? c.isRingingCall

/-- What a request does before `PlayRingtone`, and whether it gets there. The
    voice assistant takes it for granted that a carrier call is ringing. -/
def request (a : RingAnswers) (r : Ringer) : RingRequest → Bool × RingCalls × Ringer
  | .resumeWaitingToRinging numActive numHeld =>
    if (c.callObjectPtrList.filter (c.isIn [.waiting])).length = 1 ∧ numActive = 0 ∧
        numHeld = 0 then
      (true, c, r.stopTone .waiting)
    else (false, c, r)
  | .handleVideoRingPlayFail stillVideoRing =>
    match c.getRingingCarrierCall with
    | none => (false, c, r)
    | some callId =>
      (!a.isNeedSilentInDoNotDisturbMode,
        { c with
          details :=
            Function.update c.details callId
              { c.details callId with videoRing := stillVideoRing } },
        r)
  | .voiceAssistantPlayRing =>
    (c.getRingingCarrierCall.isSome, c, r.stopRingtone a.stopPlayer)

end RingCalls

/-- What can happen: a step of what rings, a request for the ringtone, the task of
    `UnmuteSoundTone`, or the answer to a call while another one is transferred
    (`ProcessTransferCall`, call_control_manager.cpp:681-701). -/
inductive CrsOp
  | ring (op : RingOp)
  | request (req : RingRequest)
  | unmuteTask
  | processTransferCall
  deriving DecidableEq, Repr

/-- The calls, what rings, and the volume. -/
structure CrsWorld where
  ring : RingWorld
  crs : CrsVolume

namespace CrsWorld

/-- The start, without calls. -/
def init (details : ℤ → RingDetails) (isWearableDevice : Bool) (volume : OutputDevice → ℕ) :
    CrsWorld :=
  ⟨.init details isWearableDevice, .init volume⟩

/-- The queue takes its oldest event. -/
def takeEvent (w : CrsWorld) (a : RingAnswers) (x : CrsAnswers) : CrsWorld :=
  match w.ring.calls.control.queue with
  | [] => w
  | event :: _ =>
    let v := w.ring.calls.crsStopBefore w.crs event
    let a := a.hears v
    { ring := w.ring.step (.scene .takeEvent, a)
      crs := w.ring.calls.crsEvent a x w.ring.ringer v event }

/-- The delivery of an update. -/
def update (w : CrsWorld) (op : AudioOp) (a : RingAnswers) (x : CrsAnswers) : CrsWorld :=
  match w.ring.calls.toAudioWorld.update? op with
  | none => w
  | some u =>
    let c := w.ring.calls
    let v := c.crsUpdate a x u w.crs
    let a := a.hears v
    { ring := w.ring.step (.scene op, a)
      crs := (c.tell u).crsUpdateForegroundLiveCall a x (c.ringerUpdate a u w.ring.ringer) v }

/-- A request for the ringtone. -/
def playRingtone (w : CrsWorld) (req : RingRequest) (a : RingAnswers) (x : CrsAnswers) :
    CrsWorld :=
  let a := a.hears w.crs
  let (plays, c, r) := w.ring.calls.request a w.ring.ringer req
  if plays then ⟨⟨c, c.playRingtone a r⟩, c.crsPlayRingtone a x r w.crs⟩
  else ⟨⟨c, r⟩, w.crs⟩

/-- One operation, with what is asked in it. -/
def step (w : CrsWorld) : CrsOp × RingAnswers × CrsAnswers → CrsWorld
  | (.ring (.scene .takeEvent), a, x) => w.takeEvent a x
  | (.ring (.scene op), a, x) => w.update op a x
  | (.ring op, a, _) => { w with ring := w.ring.step (op, a) }
  | (.request req, a, x) => w.playRingtone req a x
  | (.unmuteTask, _, _) => { w with crs := w.crs.unmuteTask }
  | (.processTransferCall, _, x) =>
    { w with crs := (w.crs.stopSoundtone.2.playSoundtone x.sound).2 }

end CrsWorld

/-! ## Specification -/

/-- **The volume is restored**: once the queue is empty and no CRS call is
    ringing, the volume is `volume` and none is kept to be given back. -/
def CrsWorld.Restored (volume : OutputDevice → ℕ) (w : CrsWorld) : Prop :=
  w.ring.calls.control.queue = [] → w.ring.calls.hasIncomingCallCrsType = false →
    w.crs.volume = volume ∧ w.crs.voiceVolume = -1

namespace CrsVolume

/-- The volume the loudspeaker is to have: the one that is kept, or else its own. -/
def toRestore (v : CrsVolume) : ℕ :=
  if 0 ≤ v.voiceVolume then v.voiceVolume.toNat else v.volume .speaker

/-- `volume` is there, or it is there once the one that is kept is given back. -/
structure Kept (volume : OutputDevice → ℕ) (v : CrsVolume) : Prop where
  backup : -1 ≤ v.voiceVolume
  restores : Function.update v.volume .speaker v.toRestore = volume

/-- The condition on `AdjustVolumesForCrs`: it finds the volume that the
    loudspeaker is to have, and changes it there or not at all. -/
def AdjustOk (x : CrsAnswers) (v : CrsVolume) : Prop :=
  v.volume x.activeDevice = v.toRestore ∧
    (x.activeDevice = .speaker ∨ x.ringVolume = v.volume x.activeDevice)

/-- The sound tone sounds. -/
def Sounding (v : CrsVolume) : Prop := v.soundState = .sounding

instance (v : CrsVolume) : Decidable v.Sounding := inferInstanceAs (Decidable (_ = _))

/-- A sound tone that sounds has a player. -/
def SoundReady (v : CrsVolume) : Prop := v.Sounding → v.sound = some true

end CrsVolume

namespace RingCalls

variable (c : RingCalls) (a : RingAnswers) (x : CrsAnswers) (r : Ringer)

/-- `PlayRingtone` gets to `AdjustVolumesForCrs`: it plays the ringtone of a CRS
    call that is there, aloud or on a remote device. -/
def DealsCrs : Prop :=
  c.shouldPlayRingtone a r = true ∧
    (∃ callId, c.getRingingCall = some callId ∧ c.isCrs callId = true) ∧
    ¬ (r.isCrsVibrating = false ∧ a.ringerMode ≠ .silent ∧ a.isRingingVibrateModeOn = true ∧
      c.callObjectPtrList.any (c.isIn [.incoming]) = false) ∧
    (a.ringerMode = .normal ∨ a.isRemoteDevicesConnected = true)

/-- `UpdateForegroundLiveCall` gets there. -/
def ForegroundDeals : Prop :=
  c.control.processor.getAudioForegroundLiveCall ≠ invalidCallId ∧
    c.isIn [.waiting] c.control.processor.getAudioForegroundLiveCall = true ∧
    a.isVoipCallExist = false ∧
    ¬ (c.isWearableDevice = true ∧ c.isNotWearOnWrist = true) ∧
    c.DealsCrs a (r.stopTone .waiting)

/-- An event gets there: a switch to the incoming scene that plays the ringtone. -/
def EventDeals (event : AudioEvent) : Prop :=
  event = .switchState .incoming ∧ c.playsWaitingTone a = false ∧
    (playsTransferCall a = true ∨ c.playsSystemRing a = true) ∧
    c.DealsCrs a (r.stopRingtone a.stopPlayer)

/-- An event gives the volume back where `sounds` tells whether the sound tone
    sounds: a switch that stops it. -/
def EventRestores (sounds : Prop) (event : AudioEvent) : Prop :=
  (∃ scene, event = .switchState scene) ∧ c.shouldStopSoundtone = true ∧ sounds

/-- An update gives the volume back where `sounds` tells whether the sound tone sounds: the
    network ring tone of a call that is answered by the phone is resumed, or the sound tone of
    another is played again, and there are no other calls. -/
def UpdateRestores (sounds : Prop) (v : CrsVolume) (u : StateUpdate) : Prop :=
  c.processesSoundtone u = true ∧ (c.tell u).hasOtherCalls a x u.callId = false ∧
    if v.isCrsStartSoundTone then u.callId ∈ (c.tell u).control.answeredByPhone else sounds

end RingCalls

namespace CrsWorld

/-- `P` holds where the step gets to `AdjustVolumesForCrs`. -/
def AtAdjust (P : CrsAnswers → CrsVolume → Prop) (w : CrsWorld) :
    CrsOp × RingAnswers × CrsAnswers → Prop
  | (.ring (.scene .takeEvent), a, x) =>
    match w.ring.calls.control.queue with
    | [] => True
    | event :: _ =>
      let v := w.ring.calls.crsStopBefore w.crs event
      w.ring.calls.EventDeals (a.hears v) w.ring.ringer event → P x v
  | (.ring (.scene op), a, x) =>
    match w.ring.calls.toAudioWorld.update? op with
    | none => True
    | some u =>
      let c := w.ring.calls
      let v := c.crsUpdate a x u w.crs
      (c.tell u).ForegroundDeals (a.hears v) (c.ringerUpdate (a.hears v) u w.ring.ringer) → P x v
  | (.request req, a, x) =>
    let a := a.hears w.crs
    let (plays, c, r) := w.ring.calls.request a w.ring.ringer req
    plays = true → c.DealsCrs a r → P x w.crs
  | _ => True

/-- A step that leaves the queue empty and no CRS call ringing gives back what is
    kept, where `sounds` tells whether the sound tone sounds. -/
def AtEnd (sounds : CrsVolume → Prop) (w : CrsWorld) : CrsOp × RingAnswers × CrsAnswers → Prop
  | (.ring (.scene .takeEvent), _, _) =>
    match w.ring.calls.control.queue with
    | [] => True
    | event :: _ =>
      w.ring.calls.control.takeEvent.queue = [] → w.ring.calls.hasIncomingCallCrsType = false →
        w.crs.voiceVolume = -1 ∨ w.ring.calls.EventRestores (sounds w.crs) event
  | (.ring (.scene op), a, x) =>
    match w.ring.calls.toAudioWorld.update? op with
    | none => True
    | some u =>
      (w.ring.calls.tell u).control.queue = [] →
        (w.ring.calls.tell u).hasIncomingCallCrsType = false →
          w.crs.voiceVolume = -1 ∨ w.ring.calls.UpdateRestores a x (sounds w.crs) w.crs u
  | _ => True

/-- The condition on a step: where the volume is changed for a CRS call, it is
    the one to be given back, on the loudspeaker; and a step that leaves the
    queue empty and no CRS call ringing gives back what is kept. -/
def StepOk (w : CrsWorld) (o : CrsOp × RingAnswers × CrsAnswers) : Prop :=
  w.AtAdjust (fun x v => v.AdjustOk x) o ∧ w.AtEnd CrsVolume.Sounding o

/-- In every state the volume is there or kept, and it is restored. -/
def KeepsVolume (volume : OutputDevice → ℕ) (w : CrsWorld) : Prop :=
  w.crs.Kept volume ∧ w.Restored volume

end CrsWorld

/-! ## The volume -/

namespace CrsVolume

variable {volume : OutputDevice → ℕ} {v v' : CrsVolume}

/-- The volume and what is kept are left as they are. -/
def SameVolume (v v' : CrsVolume) : Prop :=
  v'.volume = v.volume ∧ v'.voiceVolume = v.voiceVolume

theorem SameVolume.refl (v : CrsVolume) : v.SameVolume v := ⟨rfl, rfl⟩

theorem SameVolume.trans {v'' : CrsVolume} (h : v.SameVolume v') (h' : v'.SameVolume v'') :
    v.SameVolume v'' := ⟨h'.1.trans h.1, h'.2.trans h.2⟩

theorem SameVolume.toRestore (h : v.SameVolume v') : v'.toRestore = v.toRestore := by
  unfold CrsVolume.toRestore
  rw [h.1, h.2]

theorem SameVolume.kept_iff (h : v.SameVolume v') : v'.Kept volume ↔ v.Kept volume := by
  constructor
  · intro hk
    exact ⟨h.2 ▸ hk.backup, by rw [← h.toRestore, ← h.1]; exact hk.restores⟩
  · intro hk
    exact ⟨h.2.symm ▸ hk.backup, by rw [h.toRestore, h.1]; exact hk.restores⟩

theorem SameVolume.adjustOk_iff (h : v.SameVolume v') (x : CrsAnswers) :
    v'.AdjustOk x ↔ v.AdjustOk x := by
  unfold AdjustOk
  rw [h.toRestore, h.1]

theorem kept_init (volume : OutputDevice → ℕ) : (init volume).Kept volume :=
  ⟨le_rfl, Function.update_eq_self _ _⟩

/-- If none is kept to be given back, the volume is there. -/
theorem Kept.volume_eq (h : v.Kept volume) (hnone : v.voiceVolume = -1) : v.volume = volume := by
  rw [← h.restores]
  unfold toRestore
  rw [hnone, if_neg (by decide), Function.update_eq_self]

@[simp] theorem soundState_restoreVoiceValumeIfNecessary (v : CrsVolume) :
    v.restoreVoiceValumeIfNecessary.soundState = v.soundState := by
  unfold CrsVolume.restoreVoiceValumeIfNecessary
  split_ifs <;> rfl

@[simp] theorem sound_restoreVoiceValumeIfNecessary (v : CrsVolume) :
    v.restoreVoiceValumeIfNecessary.sound = v.sound := by
  unfold CrsVolume.restoreVoiceValumeIfNecessary
  split_ifs <;> rfl

theorem Kept.restoreVoiceValumeIfNecessary (h : v.Kept volume) :
    v.restoreVoiceValumeIfNecessary.Kept volume ∧
      v.restoreVoiceValumeIfNecessary.voiceVolume = -1 := by
  unfold CrsVolume.restoreVoiceValumeIfNecessary
  by_cases hkept : 0 ≤ v.voiceVolume
  · rw [if_pos hkept]
    have hvolume : Function.update v.volume .speaker v.voiceVolume.toNat = volume := by
      rw [← h.restores, toRestore, if_pos hkept]
    have hneg : ¬ (0 : ℤ) ≤ -1 := by decide
    refine ⟨⟨le_rfl, ?_⟩, rfl⟩
    unfold toRestore
    rw [if_neg hneg, Function.update_eq_self]
    exact hvolume
  · rw [if_neg hkept]
    have hbackup := h.backup
    exact ⟨h, by omega⟩

/-- `AdjustVolumesForCrs` keeps the volume iff it meets its condition. -/
theorem Kept.adjustVolumesForCrs_iff (h : v.Kept volume) (x : CrsAnswers) :
    (v.adjustVolumesForCrs x).Kept volume ↔ v.AdjustOk x := by
  have hto : (v.adjustVolumesForCrs x).toRestore = v.volume x.activeDevice := by
    unfold toRestore adjustVolumesForCrs
    rw [if_pos (Int.natCast_nonneg _)]
    exact Int.toNat_natCast _
  have hspeaker : volume .speaker = v.toRestore := by
    rw [← h.restores, Function.update_self]
  have hother : ∀ device, device ≠ .speaker → volume device = v.volume device :=
    fun device hne => by rw [← h.restores, Function.update_of_ne hne]
  constructor
  · intro hk
    have hvolume := congrFun hk.restores
    rw [hto] at hvolume
    have hat := hvolume .speaker
    rw [Function.update_self, hspeaker] at hat
    refine ⟨hat, or_iff_not_imp_left.mpr fun hne => ?_⟩
    have hnew : (v.adjustVolumesForCrs x).volume x.activeDevice = x.ringVolume :=
      Function.update_self _ _ _
    have hactive := hvolume x.activeDevice
    rw [Function.update_of_ne hne, hother _ hne, hnew] at hactive
    exact hactive
  · rintro ⟨hat, hdevice⟩
    refine ⟨(by decide : (-1 : ℤ) ≤ 0).trans (Int.natCast_nonneg _), ?_⟩
    rw [hto, hat]
    funext device
    by_cases hd : device = .speaker
    · rw [hd, Function.update_self, hspeaker]
    · rw [Function.update_of_ne hd, hother device hd]
      unfold adjustVolumesForCrs
      dsimp only
      by_cases hactive : device = x.activeDevice
      · rw [hactive, Function.update_self]
        exact hdevice.resolve_left (hactive ▸ hd)
      · rw [Function.update_of_ne hactive]

/-! ### The sound tone -/

theorem sameVolume_playSoundtone (a : SoundAnswers) (v : CrsVolume) :
    v.SameVolume (v.playSoundtone a).2 := by
  unfold playSoundtone
  dsimp only
  split_ifs <;> exact ⟨rfl, rfl⟩

theorem SoundReady.playSoundtone (h : v.SoundReady) (a : SoundAnswers) :
    (v.playSoundtone a).2.SoundReady := by
  unfold CrsVolume.playSoundtone
  dsimp only
  generalize v.sound.or (if a.makeSound then some a.makePlayer else none) = sound
  split_ifs with hcall hshould hsounding hsound
  · exact h
  · exact h
  · exact h
  · exact fun _ => hsound
  · exact fun hstate => absurd hstate hsounding

theorem sameVolume_unmuteTask (v : CrsVolume) : v.SameVolume v.unmuteTask := by
  unfold unmuteTask
  split_ifs <;> exact ⟨rfl, rfl⟩

theorem SoundReady.unmuteTask (h : v.SoundReady) : v.unmuteTask.SoundReady := by
  unfold CrsVolume.unmuteTask
  split_ifs <;> exact h

/-- `StopSoundtone` gives the volume back iff the sound tone sounds. -/
theorem stopSoundtone_spec (h : v.Kept volume) (hready : v.SoundReady) :
    v.stopSoundtone.2.Kept volume ∧ v.stopSoundtone.2.SoundReady ∧
      (v.stopSoundtone.2.voiceVolume = -1 ↔ v.voiceVolume = -1 ∨ v.Sounding) := by
  unfold CrsVolume.stopSoundtone
  cases hstate : v.soundState with
  | stopped =>
    rw [if_pos rfl]
    exact ⟨h, hready, (or_iff_left fun h => by simp [Sounding, hstate] at h).symm⟩
  | sounding =>
    rw [if_neg (by decide), if_pos (hready hstate)]
    have hstopped : ({ v with soundState := .stopped } : CrsVolume).Kept volume :=
      ⟨h.backup, h.restores⟩
    obtain ⟨hkept, hnone⟩ := hstopped.restoreVoiceValumeIfNecessary
    refine ⟨⟨hkept.backup, hkept.restores⟩, fun hsounding => ?_,
      iff_of_true hnone (Or.inr hstate)⟩
    have hstate' := (soundState_restoreVoiceValumeIfNecessary _).symm.trans hsounding
    cases hstate'

theorem resumeCrsSoundTone_spec (h : v.Kept volume) (hready : v.SoundReady) :
    v.resumeCrsSoundTone.Kept volume ∧ v.resumeCrsSoundTone.SoundReady ∧
      v.resumeCrsSoundTone.voiceVolume = -1 := by
  obtain ⟨hkept, hnone⟩ := h.restoreVoiceValumeIfNecessary
  refine ⟨⟨hkept.backup, hkept.restores⟩, fun hsounding => ?_, hnone⟩
  have hstate := (soundState_restoreVoiceValumeIfNecessary v).symm.trans hsounding
  exact (sound_restoreVoiceValumeIfNecessary v).trans (hready hstate)

theorem startCrsSoundTone_eq (x : CrsAnswers) (v : CrsVolume) :
    v.startCrsSoundTone x =
      CrsVolume.adjustVolumesForCrs x
        ({ v with isCrsStartSoundTone := true }.playSoundtone x.crsSound).2 := by
  unfold startCrsSoundTone
  dsimp only
  split_ifs <;> rfl

/-- The sound tone of `DealCrsScene` keeps the volume iff the change of the volume does. -/
theorem startCrsSoundTone_kept_iff (h : v.Kept volume) (x : CrsAnswers) :
    (v.startCrsSoundTone x).Kept volume ↔ v.AdjustOk x := by
  have hsame : v.SameVolume ({ v with isCrsStartSoundTone := true }.playSoundtone x.crsSound).2 :=
    SameVolume.trans ⟨rfl, rfl⟩ (sameVolume_playSoundtone x.crsSound _)
  rw [startCrsSoundTone_eq, (hsame.kept_iff.mpr h).adjustVolumesForCrs_iff x,
    hsame.adjustOk_iff x]

theorem SoundReady.startCrsSoundTone (h : v.SoundReady) (x : CrsAnswers) :
    (v.startCrsSoundTone x).SoundReady := by
  have hstart : ({ v with isCrsStartSoundTone := true } : CrsVolume).SoundReady := h
  rw [startCrsSoundTone_eq]
  exact hstart.playSoundtone x.crsSound

end CrsVolume

/-! ## The steps -/

namespace RingCalls

open CrsVolume

variable {c : RingCalls} {a : RingAnswers} {x : CrsAnswers} {r : Ringer} {v : CrsVolume}
variable {volume : OutputDevice → ℕ}

/-- `PlayRingtone` starts the sound tone iff it gets to change the volume, and
    leaves everything as it is otherwise. -/
theorem crsPlayRingtone_cases :
    (c.DealsCrs a r ∧ c.crsPlayRingtone a x r v = v.startCrsSoundTone x) ∨
      (¬ c.DealsCrs a r ∧ c.crsPlayRingtone a x r v = v) := by
  unfold crsPlayRingtone DealsCrs
  by_cases hplay : c.shouldPlayRingtone a r = false
  · rw [if_pos hplay]
    exact Or.inr ⟨fun h => absurd h.1 (by simp [hplay]), rfl⟩
  rw [if_neg hplay]
  cases hcall : c.getRingingCall with
  | none =>
    refine Or.inr ⟨?_, rfl⟩
    rintro ⟨-, ⟨_, h, -⟩, -⟩
    cases h
  | some callId =>
    dsimp only
    by_cases hcrs : c.isCrs callId = true
    swap
    · rw [if_neg hcrs]
      refine Or.inr ⟨?_, rfl⟩
      rintro ⟨-, ⟨_, heq, h⟩, -⟩
      cases heq
      exact hcrs h
    rw [if_pos hcrs]
    unfold crsDealCrsScene
    by_cases hgone : r.isCrsVibrating = false ∧ a.ringerMode ≠ .silent ∧
        a.isRingingVibrateModeOn = true ∧ c.callObjectPtrList.any (c.isIn [.incoming]) = false
    · rw [if_pos hgone]
      exact Or.inr ⟨fun h => h.2.2.1 hgone, rfl⟩
    rw [if_neg hgone]
    by_cases haloud : a.ringerMode = .normal ∨ a.isRemoteDevicesConnected = true
    · rw [if_pos haloud]
      have hshould : c.shouldPlayRingtone a r = true := by simpa using hplay
      exact Or.inl ⟨⟨hshould, ⟨callId, rfl, hcrs⟩, hgone, haloud⟩, rfl⟩
    · rw [if_neg haloud]
      exact Or.inr ⟨fun h => haloud h.2.2.2, rfl⟩

/-- Where the volume is changed, a CRS call is ringing. -/
theorem DealsCrs.hasIncomingCallCrsType (h : c.DealsCrs a r) :
    c.hasIncomingCallCrsType = true := by
  obtain ⟨-, ⟨callId, hcall, hcrs⟩, -⟩ := h
  have hmem : callId ∈ c.callObjectPtrList :=
    List.mem_reverse.mp (List.mem_of_find?_eq_some hcall)
  exact List.any_eq_true.mpr ⟨callId, hmem, hcrs⟩

/-- What `PlayRingtone` does to the volume, where `D` tells whether it gets to change it. -/
def PlaysCrs (D : Prop) (x : CrsAnswers) (v v' : CrsVolume) : Prop :=
  (D ∧ v' = v.startCrsSoundTone x) ∨
    (¬ D ∧ v.SameVolume v' ∧ (v.SoundReady → v'.SoundReady))

theorem PlaysCrs.of_not {D : Prop} (h : ¬ D) : PlaysCrs D x v v :=
  Or.inr ⟨h, .refl v, id⟩

theorem PlaysCrs.of_playSoundtone {D : Prop} (h : ¬ D) (sound : SoundAnswers) :
    PlaysCrs D x v (v.playSoundtone sound).2 :=
  Or.inr ⟨h, sameVolume_playSoundtone sound v, fun hready => hready.playSoundtone sound⟩

theorem PlaysCrs.ready {D : Prop} {v' : CrsVolume} (h : PlaysCrs D x v v') (hready : v.SoundReady) :
    v'.SoundReady := by
  rcases h with ⟨-, rfl⟩ | ⟨-, -, h⟩
  · exact hready.startCrsSoundTone x
  · exact h hready

/-- The volume stays kept iff the change of it, if there is one, meets its condition. -/
theorem PlaysCrs.kept_iff {D : Prop} {v' : CrsVolume} (h : PlaysCrs D x v v')
    (hk : v.Kept volume) : v'.Kept volume ↔ (D → v.AdjustOk x) := by
  rcases h with ⟨hD, rfl⟩ | ⟨hD, hsame, -⟩
  · rw [startCrsSoundTone_kept_iff hk x]
    exact ⟨fun hok _ => hok, fun hok => hok hD⟩
  · exact iff_of_true (hsame.kept_iff.mpr hk) fun h => absurd h hD

theorem playsCrs_crsPlayRingtone : PlaysCrs (c.DealsCrs a r) x v (c.crsPlayRingtone a x r v) := by
  rcases crsPlayRingtone_cases (c := c) (a := a) (x := x) (r := r) (v := v) with
    ⟨hD, heq⟩ | ⟨hD, heq⟩
  · exact Or.inl ⟨hD, heq⟩
  · rw [heq]
    exact PlaysCrs.of_not hD

theorem PlaysCrs.congr {D D' : Prop} {v' : CrsVolume} (h : PlaysCrs D x v v') (hD : D ↔ D') :
    PlaysCrs D' x v v' := by
  rcases h with ⟨hd, heq⟩ | ⟨hd, hsame⟩
  · exact Or.inl ⟨hD.mp hd, heq⟩
  · exact Or.inr ⟨fun hd' => hd (hD.mpr hd'), hsame⟩

theorem playsCrs_crsUpdateForegroundLiveCall :
    PlaysCrs (c.ForegroundDeals a r) x v (c.crsUpdateForegroundLiveCall a x r v) := by
  unfold crsUpdateForegroundLiveCall ForegroundDeals
  dsimp only
  split_ifs with hinvalid hwaiting hvoip hwear
  · exact PlaysCrs.of_not fun h => h.1 hinvalid
  · exact PlaysCrs.of_not fun h => by simp [hwaiting] at h
  · exact PlaysCrs.of_not fun h => by simp [hvoip] at h
  · exact PlaysCrs.of_not fun h => h.2.2.2.1 hwear
  · refine playsCrs_crsPlayRingtone.congr
      ⟨fun h => ⟨hinvalid, ?_, ?_, hwear, h⟩, fun h => h.2.2.2.2⟩
    · simpa using hwaiting
    · simpa using hvoip

theorem playsCrs_crsSwitchIncoming :
    PlaysCrs (c.EventDeals a r (.switchState .incoming)) x v (c.crsSwitchIncoming a x r v) := by
  unfold crsSwitchIncoming EventDeals
  split_ifs with hwaiting htransfer hsystem
  · exact PlaysCrs.of_not fun h => by simp [hwaiting] at h
  · refine playsCrs_crsPlayRingtone.congr ⟨fun h => ⟨rfl, ?_, Or.inl htransfer, h⟩,
      fun h => h.2.2.2⟩
    simpa using hwaiting
  · refine playsCrs_crsPlayRingtone.congr ⟨fun h => ⟨rfl, ?_, Or.inr hsystem, h⟩,
      fun h => h.2.2.2⟩
    simpa using hwaiting
  · exact PlaysCrs.of_not fun h => h.2.2.1.elim htransfer hsystem

theorem playsCrs_crsEvent (event : AudioEvent) :
    PlaysCrs (c.EventDeals a r event) x v (c.crsEvent a x r v event) := by
  have hother : ∀ event, event ≠ .switchState .incoming → ¬ c.EventDeals a r event :=
    fun event hne h => hne h.1
  have hsos : ∀ event, event ≠ .switchState .incoming →
      PlaysCrs (c.EventDeals a r event) x v
        (if x.playsSosSoundTone = true ∧ c.shouldStopSoundtone = false ∧
            c.control.processor.activeCalls.Nonempty then
          (v.playSoundtone x.sound).2
        else v) := by
    intro event hne
    split_ifs
    · exact PlaysCrs.of_playSoundtone (hother event hne) x.sound
    · exact PlaysCrs.of_not (hother event hne)
  cases event with
  | switchState scene =>
    cases scene with
    | incoming => exact playsCrs_crsSwitchIncoming
    | dialing => exact PlaysCrs.of_playSoundtone (hother _ (by decide)) x.sound
    | alerting => exact PlaysCrs.of_not (hother _ (by decide))
    | csCall => exact PlaysCrs.of_not (hother _ (by decide))
    | imsCall => exact PlaysCrs.of_not (hother _ (by decide))
    | holding => exact PlaysCrs.of_not (hother _ (by decide))
    | inactive => exact PlaysCrs.of_not (hother _ (by decide))
  | noMoreAlertingCall => exact hsos _ (by decide)
  | noMoreDialingCall => exact hsos _ (by decide)
  | newActiveCsCall => exact PlaysCrs.of_not (hother _ (by decide))
  | newActiveImsCall => exact PlaysCrs.of_not (hother _ (by decide))
  | newActiveOttCall => exact PlaysCrs.of_not (hother _ (by decide))
  | newDialingCall => exact PlaysCrs.of_not (hother _ (by decide))
  | newAlertingCall => exact PlaysCrs.of_not (hother _ (by decide))
  | newIncomingCall => exact PlaysCrs.of_not (hother _ (by decide))
  | noMoreActiveCall => exact PlaysCrs.of_not (hother _ (by decide))
  | noMoreIncomingCall => exact PlaysCrs.of_not (hother _ (by decide))
  | noMoreHoldingCall => exact PlaysCrs.of_not (hother _ (by decide))
  | callTypeCsChangeIms => exact PlaysCrs.of_not (hother _ (by decide))
  | callTypeImsChangeCs => exact PlaysCrs.of_not (hother _ (by decide))

/-! ### What comes before the ringtone -/

/-- A switch gives the volume back iff it stops a sound tone that sounds. -/
theorem crsStopBefore_spec (hk : v.Kept volume) (hready : v.SoundReady) (event : AudioEvent) :
    (c.crsStopBefore v event).Kept volume ∧ (c.crsStopBefore v event).SoundReady ∧
      ((c.crsStopBefore v event).voiceVolume = -1 ↔
        v.voiceVolume = -1 ∨ c.EventRestores v.Sounding event) := by
  have hother : (∀ scene, event ≠ .switchState scene) → c.crsStopBefore v event = v →
      (c.crsStopBefore v event).Kept volume ∧ (c.crsStopBefore v event).SoundReady ∧
      ((c.crsStopBefore v event).voiceVolume = -1 ↔
        v.voiceVolume = -1 ∨ c.EventRestores v.Sounding event) := by
    intro hne heq
    rw [heq]
    exact ⟨hk, hready, (or_iff_left fun h => h.1.elim hne).symm⟩
  cases event with
  | switchState scene =>
    unfold crsStopBefore EventRestores
    dsimp only
    by_cases hstop : c.shouldStopSoundtone = true
    · rw [if_pos hstop]
      obtain ⟨hkept, hready', hnone⟩ := stopSoundtone_spec hk hready
      refine ⟨hkept, hready', hnone.trans (or_congr_right ?_)⟩
      exact ⟨fun h => ⟨⟨scene, rfl⟩, hstop, h⟩, fun h => h.2.2⟩
    · rw [if_neg hstop]
      exact ⟨hk, hready, (or_iff_left fun h => hstop h.2.1).symm⟩
  | _ => exact hother (fun _ => nofun) rfl

theorem processSoundtone_spec (hk : v.Kept volume) (hready : v.SoundReady) (callId : ℤ) :
    (c.processSoundtone a x callId v).Kept volume ∧ (c.processSoundtone a x callId v).SoundReady ∧
      ((c.processSoundtone a x callId v).voiceVolume = -1 ↔
        v.voiceVolume = -1 ∨ (c.hasOtherCalls a x callId = false ∧
          if v.isCrsStartSoundTone then callId ∈ c.control.answeredByPhone
          else v.Sounding)) := by
  unfold processSoundtone
  by_cases hothers : c.hasOtherCalls a x callId = true
  · rw [if_pos hothers]
    exact ⟨hk, hready, (or_iff_left fun h => by simp [hothers] at h).symm⟩
  have hfalse : c.hasOtherCalls a x callId = false := by simpa using hothers
  rw [if_neg hothers]
  by_cases hcrs : v.isCrsStartSoundTone = true
  · rw [if_pos hcrs, if_pos hcrs]
    by_cases hphone : callId ∈ c.control.answeredByPhone
    · rw [if_pos hphone]
      obtain ⟨hkept, hready', hnone⟩ := resumeCrsSoundTone_spec hk hready
      exact ⟨hkept, hready', iff_of_true hnone (Or.inr ⟨hfalse, hphone⟩)⟩
    · rw [if_neg hphone]
      exact ⟨hk, hready, (or_iff_left fun h => hphone h.2).symm⟩
  · rw [if_neg hcrs, if_neg hcrs]
    obtain ⟨hkept, hready', hnone⟩ := stopSoundtone_spec hk hready
    have hsame := sameVolume_playSoundtone x.sound v.stopSoundtone.2
    refine ⟨hsame.kept_iff.mpr hkept, hready'.playSoundtone x.sound, ?_⟩
    rw [hsame.2, hnone]
    exact or_congr_right ⟨fun h => ⟨hfalse, h⟩, fun h => h.2⟩

/-- An update gives the volume back iff it resumes the sound tone or plays it again. -/
theorem crsUpdate_spec (hk : v.Kept volume) (hready : v.SoundReady) (u : StateUpdate) :
    (c.crsUpdate a x u v).Kept volume ∧ (c.crsUpdate a x u v).SoundReady ∧
      ((c.crsUpdate a x u v).voiceVolume = -1 ↔
        v.voiceVolume = -1 ∨ c.UpdateRestores a x v.Sounding v u) := by
  -- the task of `UnmuteSoundTone` is only counted
  obtain ⟨v', hv', hk', hready', hflag, hstate, hbackup⟩ : ∃ v' : CrsVolume,
      (if u.nextState = .active ∧ (u.priorState = .incoming ∨ u.priorState = .waiting) then
        { v with unmuteTasks := v.unmuteTasks + 1 }
      else v) = v' ∧ v'.Kept volume ∧ v'.SoundReady ∧
      v'.isCrsStartSoundTone = v.isCrsStartSoundTone ∧ v'.Sounding = v.Sounding ∧
      v'.voiceVolume = v.voiceVolume := by
    refine ⟨_, rfl, ?_⟩
    split_ifs
    · exact ⟨⟨hk.backup, hk.restores⟩, hready, rfl, rfl, rfl⟩
    · exact ⟨hk, hready, rfl, rfl, rfl⟩
  unfold crsUpdate UpdateRestores
  rw [hv']
  dsimp only
  rw [← hflag, ← hstate, ← hbackup]
  by_cases hprocess : c.processesSoundtone u = true
  · rw [if_pos hprocess]
    obtain ⟨hkept, hready'', hnone⟩ :=
      processSoundtone_spec (c := c.tell u) (a := a) (x := x) hk' hready' u.callId
    refine ⟨hkept, hready'', hnone.trans (or_congr_right ?_)⟩
    exact ⟨fun h => ⟨hprocess, h⟩, fun h => h.2⟩
  rw [if_neg hprocess]
  have hnot : v'.voiceVolume = -1 ↔ v'.voiceVolume = -1 ∨ (c.processesSoundtone u = true ∧
      (c.tell u).hasOtherCalls a x u.callId = false ∧
        if v'.isCrsStartSoundTone then u.callId ∈ (c.tell u).control.answeredByPhone
        else v'.Sounding) := (or_iff_left fun h => hprocess h.1).symm
  by_cases hfocus : c.appliesFocus u = true ∧ v'.soundState = .stopped
  · rw [if_pos hfocus]
    have hsame := sameVolume_playSoundtone x.sound v'
    refine ⟨hsame.kept_iff.mpr hk', hready'.playSoundtone x.sound, ?_⟩
    rw [hsame.2]
    exact hnot
  · rw [if_neg hfocus]
    exact ⟨hk', hready', hnot⟩

/-! ### Requests -/

/-- A request changes neither the queue nor which CRS calls are ringing. -/
theorem request_frame (req : RingRequest) :
    (c.request a r req).2.1.control = c.control ∧
      (c.request a r req).2.1.hasIncomingCallCrsType = c.hasIncomingCallCrsType := by
  cases req with
  | resumeWaitingToRinging numActive numHeld =>
    unfold request
    dsimp only
    split_ifs <;> exact ⟨rfl, rfl⟩
  | handleVideoRingPlayFail stillVideoRing =>
    unfold request
    cases c.getRingingCarrierCall with
    | none => exact ⟨rfl, rfl⟩
    | some callId =>
      refine ⟨rfl, List.any_congr rfl fun id => ?_⟩
      unfold isCrs
      dsimp only
      by_cases hid : id = callId
      · rw [hid, Function.update_self]
        rfl
      · rw [Function.update_of_ne hid]
        rfl
  | voiceAssistantPlayRing => exact ⟨rfl, rfl⟩

end RingCalls

namespace CrsWorld

open CrsVolume

variable {volume : OutputDevice → ℕ} {w : CrsWorld}

/-- Where the volume is there or kept, it is restored iff none is kept to be given back. -/
theorem restored_iff (hk : w.crs.Kept volume) :
    w.Restored volume ↔ (w.ring.calls.control.queue = [] →
      w.ring.calls.hasIncomingCallCrsType = false → w.crs.voiceVolume = -1) := by
  constructor
  · intro h hqueue hcrs
    exact (h hqueue hcrs).2
  · intro h hqueue hcrs
    exact ⟨hk.volume_eq (h hqueue hcrs), h hqueue hcrs⟩

/-- A step that first changes the sound tone without a change of the volume to the ring's, and
    then may play the ringtone, keeps the volume iff both meet their conditions. -/
theorem keepsVolume_of_spec {w' : CrsWorld} {x : CrsAnswers} {v : CrsVolume} {D R : Prop}
    (hkept : v.Kept volume) (hnone : v.voiceVolume = -1 ↔ w.crs.voiceVolume = -1 ∨ R)
    (hplays : RingCalls.PlaysCrs D x v w'.crs)
    (hcrs : D → w'.ring.calls.hasIncomingCallCrsType = true) :
    w'.KeepsVolume volume ↔
      (D → v.AdjustOk x) ∧ (w'.ring.calls.control.queue = [] →
        w'.ring.calls.hasIncomingCallCrsType = false → w.crs.voiceVolume = -1 ∨ R) := by
  unfold KeepsVolume
  rw [hplays.kept_iff hkept]
  refine and_congr_right fun hok => ?_
  rw [restored_iff ((hplays.kept_iff hkept).mpr hok)]
  refine imp_congr_right fun _ => imp_congr_right fun hquiet => ?_
  -- no CRS call is ringing, and so the volume was not changed
  have hD : ¬ D := fun h => by simp [hcrs h] at hquiet
  rcases hplays with ⟨h, -⟩ | ⟨-, hsame, -⟩
  · exact absurd h hD
  · rw [hsame.2, hnone]

/-- A step that leaves the queue as it is, and every CRS call that is ringing,
    and does not change the volume. -/
theorem keepsVolume_of_same {w' : CrsWorld} (h : w.KeepsVolume volume)
    (hk : w'.crs.Kept volume) (hnone : w.crs.voiceVolume = -1 → w'.crs.voiceVolume = -1)
    (hqueue : w'.ring.calls.control.queue = w.ring.calls.control.queue)
    (hcrs : w.ring.calls.hasIncomingCallCrsType = true →
      w'.ring.calls.hasIncomingCallCrsType = true) : w'.KeepsVolume volume := by
  refine ⟨hk, (restored_iff hk).mpr fun hempty hquiet => ?_⟩
  refine hnone ((restored_iff h.1).mp h.2 (hqueue ▸ hempty) ?_)
  cases hbefore : w.ring.calls.hasIncomingCallCrsType with
  | false => rfl
  | true => simp [hcrs hbefore] at hquiet

/-! ### One operation -/

/-- What rings takes a step of its own, which hears the sound tone. -/
theorem step_ring (op : RingOp) (a : RingAnswers) (x : CrsAnswers) :
    ∃ b : Bool, (w.step (.ring op, a, x)).ring =
      w.ring.step (op, { a with isSoundPlaying := b }) := by
  have hupdate : ∀ op, op ≠ .takeEvent → ∃ b : Bool, (w.update op a x).ring =
      w.ring.step (.scene op, { a with isSoundPlaying := b }) := by
    intro op hop
    unfold update
    cases hu : w.ring.calls.toAudioWorld.update? op with
    | none =>
      refine ⟨a.isSoundPlaying, ?_⟩
      cases op with
      | takeEvent => exact absurd rfl hop
      | update callId callType nextState => simp only [RingWorld.step, hu]
      | answered callId => simp only [RingWorld.step, hu]
    | some u => exact ⟨_, rfl⟩
  cases op with
  | scene op =>
    cases op with
    | takeEvent =>
      show ∃ b : Bool, (w.takeEvent a x).ring = _
      unfold takeEvent
      cases hqueue : w.ring.calls.control.queue with
      | nil =>
        refine ⟨a.isSoundPlaying, ?_⟩
        simp only [RingWorld.step, RingWorld.takeEvent, AudioControl.takeEvent, hqueue]
      | cons event queue => exact ⟨_, rfl⟩
    | update callId callType nextState => exact hupdate _ (by simp)
    | answered callId => exact hupdate _ (by simp)
  | runTask => exact ⟨a.isSoundPlaying, rfl⟩
  | muteRinger => exact ⟨a.isSoundPlaying, rfl⟩
  | wear isNotWearOnWrist => exact ⟨a.isSoundPlaying, rfl⟩
  | voipCall callId rings => exact ⟨a.isSoundPlaying, rfl⟩

theorem takeEvent_spec (h : w.KeepsVolume volume) (hready : w.crs.SoundReady) (a : RingAnswers)
    (x : CrsAnswers) :
    (w.takeEvent a x).crs.SoundReady ∧
      ((w.takeEvent a x).KeepsVolume volume ↔ w.StepOk (.ring (.scene .takeEvent), a, x)) := by
  unfold takeEvent StepOk AtAdjust AtEnd
  cases hqueue : w.ring.calls.control.queue with
  | nil => exact ⟨hready, iff_of_true h ⟨trivial, trivial⟩⟩
  | cons event queue =>
    dsimp only
    obtain ⟨hkept, hready', hnone⟩ :=
      RingCalls.crsStopBefore_spec (c := w.ring.calls) h.1 hready event
    have hplays := RingCalls.playsCrs_crsEvent (c := w.ring.calls)
      (a := a.hears (w.ring.calls.crsStopBefore w.crs event)) (x := x) (r := w.ring.ringer)
      (v := w.ring.calls.crsStopBefore w.crs event) event
    exact ⟨hplays.ready hready', keepsVolume_of_spec hkept hnone hplays fun hdeals =>
      hdeals.2.2.2.hasIncomingCallCrsType⟩

/-- What rings when an update gets to `UpdateForegroundLiveCall` is what that goes on with. -/
theorem soundUpdate_eq (c : RingCalls) (a : RingAnswers) (u : StateUpdate) (r : Ringer) :
    c.soundUpdate a u r = (c.tell u).updateForegroundLiveCall a (c.ringerUpdate a u r) := rfl

theorem step_calls {ring : RingWorld} {op : AudioOp} {u : StateUpdate} (hop : op ≠ .takeEvent)
    (hu : ring.calls.toAudioWorld.update? op = some u) (a : RingAnswers) :
    (ring.step (.scene op, a)).calls = ring.calls.tell u := by
  cases op with
  | takeEvent => exact absurd rfl hop
  | update callId callType nextState =>
    unfold RingWorld.step
    dsimp only
    rw [hu]
  | answered callId =>
    unfold RingWorld.step
    dsimp only
    rw [hu]

/-- What `AtAdjust` says of the delivery of an update. -/
theorem atAdjust_scene_iff {P : CrsAnswers → CrsVolume → Prop} {op : AudioOp}
    (hop : op ≠ .takeEvent) (a : RingAnswers) (x : CrsAnswers) :
    w.AtAdjust P (.ring (.scene op), a, x) ↔ ∀ u, w.ring.calls.toAudioWorld.update? op = some u →
      (w.ring.calls.tell u).ForegroundDeals (a.hears (w.ring.calls.crsUpdate a x u w.crs))
        (w.ring.calls.ringerUpdate (a.hears (w.ring.calls.crsUpdate a x u w.crs)) u
          w.ring.ringer) →
      P x (w.ring.calls.crsUpdate a x u w.crs) := by
  cases op with
  | takeEvent => exact absurd rfl hop
  | update callId callType nextState =>
    unfold AtAdjust
    dsimp only
    cases w.ring.calls.toAudioWorld.update? (.update callId callType nextState) with
    | none => exact iff_of_true trivial fun _ hu => nomatch hu
    | some u =>
      refine ⟨fun h _ hu => ?_, fun h => h u rfl⟩
      cases hu
      exact h
  | answered callId =>
    unfold AtAdjust
    dsimp only
    cases w.ring.calls.toAudioWorld.update? (.answered callId) with
    | none => exact iff_of_true trivial fun _ hu => nomatch hu
    | some u =>
      refine ⟨fun h _ hu => ?_, fun h => h u rfl⟩
      cases hu
      exact h

/-- What `AtEnd` says of the delivery of an update. -/
theorem atEnd_scene_iff {sounds : CrsVolume → Prop} {op : AudioOp} (hop : op ≠ .takeEvent)
    (a : RingAnswers) (x : CrsAnswers) :
    w.AtEnd sounds (.ring (.scene op), a, x) ↔ ∀ u, w.ring.calls.toAudioWorld.update? op = some u →
      (w.ring.calls.tell u).control.queue = [] →
        (w.ring.calls.tell u).hasIncomingCallCrsType = false →
          w.crs.voiceVolume = -1 ∨
            w.ring.calls.UpdateRestores a x (sounds w.crs) w.crs u := by
  cases op with
  | takeEvent => exact absurd rfl hop
  | update callId callType nextState =>
    unfold AtEnd
    dsimp only
    cases w.ring.calls.toAudioWorld.update? (.update callId callType nextState) with
    | none => exact iff_of_true trivial fun _ hu => nomatch hu
    | some u =>
      refine ⟨fun h _ hu => ?_, fun h => h u rfl⟩
      cases hu
      exact h
  | answered callId =>
    unfold AtEnd
    dsimp only
    cases w.ring.calls.toAudioWorld.update? (.answered callId) with
    | none => exact iff_of_true trivial fun _ hu => nomatch hu
    | some u =>
      refine ⟨fun h _ hu => ?_, fun h => h u rfl⟩
      cases hu
      exact h

theorem update_spec (h : w.KeepsVolume volume) (hready : w.crs.SoundReady) {op : AudioOp}
    (hop : op ≠ .takeEvent) (a : RingAnswers) (x : CrsAnswers) :
    (w.update op a x).crs.SoundReady ∧
      ((w.update op a x).KeepsVolume volume ↔ w.StepOk (.ring (.scene op), a, x)) := by
  cases hu : w.ring.calls.toAudioWorld.update? op with
  | none =>
    have hsame : w.update op a x = w := by
      unfold update
      rw [hu]
    have hok : w.StepOk (.ring (.scene op), a, x) := by
      constructor
      · exact (atAdjust_scene_iff hop a x).mpr fun u hu' => by simp [hu] at hu'
      · exact (atEnd_scene_iff hop a x).mpr fun u hu' => by simp [hu] at hu'
    rw [hsame]
    exact ⟨hready, iff_of_true h hok⟩
  | some u =>
    obtain ⟨hkept, hready', hnone⟩ :=
      RingCalls.crsUpdate_spec (c := w.ring.calls) (a := a) (x := x) h.1 hready u
    have hupdate : w.update op a x =
        { ring := w.ring.step (.scene op, a.hears (w.ring.calls.crsUpdate a x u w.crs))
          crs := (w.ring.calls.tell u).crsUpdateForegroundLiveCall
            (a.hears (w.ring.calls.crsUpdate a x u w.crs)) x
            (w.ring.calls.ringerUpdate (a.hears (w.ring.calls.crsUpdate a x u w.crs)) u
              w.ring.ringer)
            (w.ring.calls.crsUpdate a x u w.crs) } := by
      unfold update
      rw [hu]
    rw [StepOk, atAdjust_scene_iff hop, atEnd_scene_iff hop, hu, hupdate]
    simp only [Option.some.injEq, forall_eq']
    generalize w.ring.calls.crsUpdate a x u w.crs = v at hkept hready' hnone ⊢
    have hcalls := step_calls hop hu (a.hears v)
    have hplays := RingCalls.playsCrs_crsUpdateForegroundLiveCall (c := w.ring.calls.tell u)
      (a := a.hears v) (x := x) (r := w.ring.calls.ringerUpdate (a.hears v) u w.ring.ringer)
      (v := v)
    refine ⟨hplays.ready hready', ?_⟩
    rw [← hcalls] at hplays ⊢
    exact keepsVolume_of_spec hkept hnone hplays fun hdeals =>
      hdeals.2.2.2.2.hasIncomingCallCrsType

theorem playRingtone_spec (h : w.KeepsVolume volume) (hready : w.crs.SoundReady)
    (req : RingRequest) (a : RingAnswers) (x : CrsAnswers) :
    (w.playRingtone req a x).crs.SoundReady ∧
      ((w.playRingtone req a x).KeepsVolume volume ↔ w.StepOk (.request req, a, x)) := by
  obtain ⟨hcontrol, hcrs⟩ := RingCalls.request_frame (c := w.ring.calls) (a := a.hears w.crs)
    (r := w.ring.ringer) req
  unfold playRingtone StepOk AtAdjust AtEnd
  dsimp only
  generalize w.ring.calls.request (a.hears w.crs) w.ring.ringer req = res at hcontrol hcrs ⊢
  obtain ⟨plays, c, r⟩ := res
  dsimp only at hcontrol hcrs ⊢
  cases plays with
  | false =>
    refine ⟨hready, iff_of_true ?_ ⟨nofun, trivial⟩⟩
    exact keepsVolume_of_same h h.1 id (congrArg AudioControl.queue hcontrol)
      fun hon => hcrs.trans hon
  | true =>
    have hplays := RingCalls.playsCrs_crsPlayRingtone (c := c) (a := a.hears w.crs) (x := x)
      (r := r) (v := w.crs)
    refine ⟨hplays.ready hready, ?_⟩
    have hnone : w.crs.voiceVolume = -1 ↔ w.crs.voiceVolume = -1 ∨ False :=
      (iff_of_eq (or_false _)).symm
    -- what is restored stays so
    have hquiet : c.control.queue = [] → c.hasIncomingCallCrsType = false →
        w.crs.voiceVolume = -1 ∨ False := fun hempty hoff =>
      Or.inl ((restored_iff h.1).mp h.2 (hcontrol ▸ hempty) (hcrs ▸ hoff))
    rw [if_pos rfl, keepsVolume_of_spec h.1 hnone hplays fun hdeals =>
      hdeals.hasIncomingCallCrsType]
    exact ⟨fun hok => ⟨fun _ => hok.1, trivial⟩, fun hok => ⟨hok.1 rfl, hquiet⟩⟩

/-- **One operation** keeps the volume iff it meets its condition. -/
theorem step_spec (h : w.KeepsVolume volume) (hready : w.crs.SoundReady)
    (o : CrsOp × RingAnswers × CrsAnswers) :
    (w.step o).crs.SoundReady ∧ ((w.step o).KeepsVolume volume ↔ w.StepOk o) := by
  obtain ⟨op, a, x⟩ := o
  cases op with
  | ring op =>
    cases op with
    | scene op =>
      cases op with
      | takeEvent => exact takeEvent_spec h hready a x
      | update callId callType nextState => exact update_spec h hready (by simp) a x
      | answered callId => exact update_spec h hready (by simp) a x
    | runTask =>
      exact ⟨hready, iff_of_true (keepsVolume_of_same h h.1 id rfl id) ⟨trivial, trivial⟩⟩
    | muteRinger =>
      exact ⟨hready, iff_of_true (keepsVolume_of_same h h.1 id rfl id) ⟨trivial, trivial⟩⟩
    | wear isNotWearOnWrist =>
      exact ⟨hready, iff_of_true (keepsVolume_of_same h h.1 id rfl id) ⟨trivial, trivial⟩⟩
    | voipCall callId rings =>
      refine ⟨hready,
        iff_of_true (keepsVolume_of_same h h.1 id rfl fun hon => ?_) ⟨trivial, trivial⟩⟩
      obtain ⟨id, hid, hcrs⟩ := List.any_eq_true.mp hon
      refine List.any_eq_true.mpr ⟨id, ?_, hcrs⟩
      unfold step RingWorld.step
      dsimp only
      split_ifs
      · exact hid
      · exact List.mem_append_left _ hid
  | request req => exact playRingtone_spec h hready req a x
  | unmuteTask =>
    have hsame := sameVolume_unmuteTask w.crs
    exact ⟨hready.unmuteTask, iff_of_true
      (keepsVolume_of_same h (hsame.kept_iff.mpr h.1) (fun hnone => hsame.2.trans hnone) rfl id)
      ⟨trivial, trivial⟩⟩
  | processTransferCall =>
    obtain ⟨hkept, hready', hnone⟩ := stopSoundtone_spec h.1 hready
    have hsame := sameVolume_playSoundtone x.sound w.crs.stopSoundtone.2
    refine ⟨hready'.playSoundtone x.sound,
      iff_of_true (keepsVolume_of_same h (hsame.kept_iff.mpr hkept) ?_ rfl id) ⟨trivial, trivial⟩⟩
    exact fun h => hsame.2.trans (hnone.mpr (Or.inl h))

/-! ### What is kept while the sound tone sounds -/

/-! ## Main results -/

/-- **Exactly the steps that meet their condition keep the volume**: for any calls and
    interleaving, any volumes and any answers, in every state of a run the volume before is
    there or kept, and it is restored, iff every step of the run meets its condition. -/
theorem keepsVolume_iff (details : ℤ → RingDetails) (isWearableDevice : Bool)
    (volume : OutputDevice → ℕ) (ops : List (CrsOp × RingAnswers × CrsAnswers)) :
    Run.StatesMeet step (KeepsVolume volume) (init details isWearableDevice volume) ops ↔
      Run.StepsMeet step StepOk (init details isWearableDevice volume) ops := by
  have hinit : (init details isWearableDevice volume).KeepsVolume volume :=
    ⟨kept_init volume, fun _ _ => ⟨rfl, rfl⟩⟩
  refine Run.statesMeet_iff_stepsMeet_of_stronger
    (I := fun w : CrsWorld => w.KeepsVolume volume ∧ w.crs.SoundReady)
    (fun w hw => hw.1) (fun w o hw hok => ?_) (fun w o hw hstep => ?_) ops ⟨hinit, nofun⟩
  · obtain ⟨hready, hiff⟩ := step_spec hw.1 hw.2 o
    exact ⟨hiff.mpr hok, hready⟩
  · exact (step_spec hw.1 hw.2 o).2.mp hstep

/-- **The volume is restored.** For any calls, details of their ring and interleaving, any
    volumes and any answers: if every step meets its condition, then whenever the queue is empty
    and no CRS call is ringing, the volume is the one before, and none is kept to be given back. -/
theorem volume_restored (details : ℤ → RingDetails) (isWearableDevice : Bool)
    (volume : OutputDevice → ℕ) (ops : List (CrsOp × RingAnswers × CrsAnswers))
    (h : Run.StepsMeet step StepOk (init details isWearableDevice volume) ops) :
    Run.StatesMeet step (Restored volume) (init details isWearableDevice volume) ops :=
  ((keepsVolume_iff details isWearableDevice volume ops).mpr h).mono fun _ hw => hw.2

/-- A step at a phone with one call that rings aloud on the loudspeaker, where
    the platform does what it is asked. -/
def usual : CrsAnswers where
  sound := ⟨true, true, true, true, true⟩
  crsSound := ⟨true, true, true, true, true⟩
  ringVolume := 15
  activeDevice := .speaker
  ringCallCount := 1
  playsSosSoundTone := false

/-- A call that rings and is hung up by the remote side, with what is asked while it does. -/
def missedCrsCall (x : CrsAnswers) : List (CrsOp × RingAnswers × CrsAnswers) :=
  [.scene (.update 1 .ims .incoming), .scene .takeEvent, .scene .takeEvent,
    .scene (.update 1 .ims .disconnected), .scene .takeEvent, .scene .takeEvent].map
    fun op => (.ring op, RingWorld.usual, x)

theorem volume_restored_after_missed_call :
    Run.StatesMeet step (Restored fun _ => 5) (init (fun _ => ⟨true, false⟩) false fun _ => 5)
      (missedCrsCall usual) :=
  volume_restored _ false _ (missedCrsCall usual)
    ⟨⟨fun _ => ⟨rfl, Or.inl rfl⟩, fun h => absurd h (by decide)⟩,
      ⟨fun h => absurd h.1 (by decide), fun h => absurd h (by decide)⟩,
      ⟨fun _ => ⟨rfl, Or.inl rfl⟩, fun _ h => absurd h (by decide)⟩,
      ⟨fun h => absurd rfl h.1, fun h => absurd h (by decide)⟩,
      ⟨fun h => absurd h.1 (by decide), fun h => absurd h (by decide)⟩,
      ⟨fun h => absurd h.1 (by decide),
        fun _ _ => Or.inr ⟨⟨.inactive, rfl⟩, by decide, by decide⟩⟩,
      trivial⟩

/-- The call is one of a distributed modem: no sound tone is to be played. -/
def sinkStatus : CrsAnswers :=
  { usual with
    sound := ⟨true, false, true, true, true⟩
    crsSound := ⟨true, false, true, true, true⟩ }

/-- The sound tone is not played, the volume is changed all the same, and with
    no sound tone to stop it is not given back: the call is over, and the volume
    of the voice call is that of the ring. -/
theorem ring_volume_stays :
    let start := init (fun _ => ⟨true, false⟩) false fun _ => 5
    let w := Run.run step start (missedCrsCall sinkStatus)
    w.ring.calls.control.queue = [] ∧ w.ring.calls.hasIncomingCallCrsType = false ∧
    w.crs.volume .speaker = 15 ∧ w.crs.voiceVolume = 5 ∧
    ¬ Run.StatesMeet step (Restored fun _ => 5) start (missedCrsCall sinkStatus) := by
  have hqueue : (Run.run step (init (fun _ => ⟨true, false⟩) false fun _ => 5)
      (missedCrsCall sinkStatus)).ring.calls.control.queue = [] := by decide +kernel
  have hquiet : (Run.run step (init (fun _ => ⟨true, false⟩) false fun _ => 5)
      (missedCrsCall sinkStatus)).ring.calls.hasIncomingCallCrsType = false := by decide +kernel
  refine ⟨hqueue, hquiet, by decide +kernel, by decide +kernel, fun h => ?_⟩
  exact absurd (h.last hqueue hquiet).2 (by decide +kernel)

end CrsWorld

end CallManager.Ringing
