import CallManager.AudioLocks
import CallManager.Library.Run

/-!
# The call tones

`AudioControlManager` plays one tone at a time: the ringback tone, the waiting
tone or the tone of an ended call. `toneState_` tells whether one plays, and a
request is refused while it is TONEING.

Specification: between operations `toneState_` is TONEING iff `tone_` was
started with success and was not stopped since (`ToneAgrees`); so a request is
only refused while a tone plays (`NotBlocked`).

`PlayCallTone` sets TONEING before it makes and starts the tone, and none of its
failures takes that back. Of its callers only `PlayCallEndedTone` stops what did
not start.

Results:
* `toneAgrees_iff`: for any results of the tones, a run keeps the state in
  agreement with the tone iff each of its steps meets `StepOk`.
* `toneAgrees_iff_tonePlayer`: for the results of `Tone`, iff each ringback and
  waiting tone gets a tone player that loads it.
* `failed_tone_blocks`: a waiting tone that does not start refuses the ringback
  tone of a later call.
-/

namespace CallManager.Tones

open AudioLocks (AudioRingerMode)
open CallStateReport (CallStateToApp)

/-! ## Model -/

/-- `ToneDescriptor` (tone.h:30-51). -/
inductive ToneDescriptor
  | unknown | engaged | finished | waiting | ringback | noService | invalidNumber | callRecording
  | dtmfChar0 | dtmfChar1 | dtmfChar2 | dtmfChar3 | dtmfChar4 | dtmfChar5 | dtmfChar6 | dtmfChar7
  | dtmfChar8 | dtmfChar9 | dtmfCharP | dtmfCharW
  deriving DecidableEq, Repr

/-- `ToneState` (tone.h:57-61). -/
inductive ToneState
  | toneing | stopped | callended
  deriving DecidableEq, Repr

/-- A `Tone` of `AudioControlManager`. `playing` records that `Play` succeeded
    and `Stop` did not since. -/
structure CallTone where
  currentToneDescriptor : ToneDescriptor
  playing : Bool
  deriving DecidableEq, Repr

/-- The fields of `AudioControlManager` that the tones use. -/
structure ToneControl where
  toneState : ToneState
  tone : Option CallTone
  isLocalRingbackNeeded : Bool
  deriving DecidableEq, Repr

/-- What `make_unique` and `Play` of a tone yield. -/
structure PlayResult where
  made : Bool
  play : ErrorCode
  deriving DecidableEq, Repr

/-- What `PlayCallEndedTone` asks and what the tones answer: the state of the
    VoIP calls, the ringer mode, whether a Bluetooth call was disconnected, the
    tone that is played, and the results of the stops before and after it. -/
structure EndedAnswers where
  voIPCallState : CallStateToApp
  ringMode : AudioRingerMode
  isBtCallDisconnected : Bool
  result : PlayResult
  stop : ErrorCode
  stopAgain : ErrorCode
  deriving DecidableEq, Repr

namespace ToneControl

/-- The initial fields (audio_control_manager.h). -/
def init : ToneControl where
  toneState := .stopped
  tone := none
  isLocalRingbackNeeded := false

/-- `PlayCallTone` (audio_control_manager.cpp:1597-1616). -/
def playCallTone (type : ToneDescriptor) (result : PlayResult) (c : ToneControl) :
    ErrorCode × ToneControl :=
  if c.toneState = .toneing then (.callErrAudioTonePlayFailed, c)
  else
    let c := { c with toneState := .toneing }
    if result.made = false then (.telephonyErrLocalPtrNull, { c with tone := none })
    else if result.play ≠ .telephonySuccess then
      (.callErrAudioTonePlayFailed, { c with tone := some ⟨type, false⟩ })
    else (.telephonySuccess, { c with tone := some ⟨type, true⟩ })

/-- `StopCallTone` (lines 1618-1642). -/
def stopCallTone (stop : ErrorCode) (c : ToneControl) : ErrorCode × ToneControl :=
  match c.toneState, c.tone with
  | .stopped, _ => (.telephonySuccess, c)
  | .callended, _ => (.callErrAudioToneStopFailed, c)
  | .toneing, none => (.telephonyErrLocalPtrNull, c)
  | .toneing, some tone =>
    if stop ≠ .telephonySuccess then (.callErrAudioToneStopFailed, c)
    else
      (.telephonySuccess,
        { c with toneState := .stopped, tone := some { tone with playing := false } })

/-- `tone_ != nullptr && tone_->getCurrentToneType() == type`. -/
def HasTone (type : ToneDescriptor) (c : ToneControl) : Prop :=
  c.tone.map (·.currentToneDescriptor) = some type

instance (type : ToneDescriptor) (c : ToneControl) : Decidable (c.HasTone type) :=
  inferInstanceAs (Decidable (_ = _))

/-- `ShouldPlayRingback` (lines 1655-1667); `sos` is what the build for SOS calls asks, false
    without it. -/
def shouldPlayRingback (sos : Bool) (c : ToneControl) : Bool :=
  if sos then false else c.isLocalRingbackNeeded

/-- `PlayRingback` (lines 1669-1675). -/
def playRingback (sos : Bool) (result : PlayResult) (c : ToneControl) : ErrorCode × ToneControl :=
  if c.shouldPlayRingback sos = false then (.callErrAudioTonePlayFailed, c)
  else c.playCallTone .ringback result

/-- `StopRingback` (lines 1677-1684). -/
def stopRingback (stop : ErrorCode) (c : ToneControl) : ErrorCode × ToneControl :=
  let c := { c with isLocalRingbackNeeded := false }
  if c.HasTone .ringback then c.stopCallTone stop else (.telephonySuccess, c)

/-- `PlayWaitingTone` (lines 1686-1689). -/
def playWaitingTone (result : PlayResult) (c : ToneControl) : ErrorCode × ToneControl :=
  c.playCallTone .waiting result

/-- `StopWaitingTone` (lines 1691-1697). -/
def stopWaitingTone (stop : ErrorCode) (c : ToneControl) : ErrorCode × ToneControl :=
  if c.HasTone .waiting then c.stopCallTone stop else (.telephonySuccess, c)

/-- `StopDtmfTone` (lines 1722-1725). -/
def stopDtmfTone (stop : ErrorCode) (c : ToneControl) : ErrorCode × ToneControl :=
  c.stopCallTone stop

/-- `MuteWaitingTone` (lines 1436-1445). -/
def muteWaitingTone (waitingCallCount : ℤ) (stop : ErrorCode) (c : ToneControl) : ToneControl :=
  if c.toneState = .toneing ∧ 0 < waitingCallCount then (c.stopWaitingTone stop).2 else c

/-- `HandleNotNormalRingerMode` (lines 1489-1497). -/
def handleNotNormalRingerMode (stop : ErrorCode) (c : ToneControl) : ToneControl :=
  if c.toneState = .toneing then (c.stopCallTone stop).2 else c

/-- `PlayCallEndedTone` (lines 1454-1487). -/
def playCallEndedTone (a : EndedAnswers) (c : ToneControl) : ToneControl :=
  if a.voIPCallState ≠ .idle then c
  else if a.ringMode ≠ .normal then c.handleNotNormalRingerMode a.stop
  else
    let c := if c.toneState = .toneing then (c.stopCallTone a.stop).2 else c
    if a.isBtCallDisconnected then c
    else
      let (result, c) := c.playCallTone .finished a.result
      if result ≠ .telephonySuccess then (c.stopCallTone a.stopAgain).2
      else
        let c := { c with toneState := .callended }
        let c := { c with toneState := .toneing }
        (c.stopCallTone a.stopAgain).2

/-- `SetLocalRingbackNeeded` (lines 1564-1570). -/
def setLocalRingbackNeeded (isNeeded : Bool) (stop : ErrorCode) (c : ToneControl) : ToneControl :=
  let c := if c.isLocalRingbackNeeded ∧ isNeeded = false then (c.stopRingback stop).2 else c
  { c with isLocalRingbackNeeded := isNeeded }

end ToneControl

/-- The operations of a run, with what they ask and what the tones answer. -/
inductive ToneOp
  | playRingback (sos : Bool) (result : PlayResult)
  | playWaitingTone (result : PlayResult)
  | stopRingback (stop : ErrorCode)
  | stopWaitingTone (stop : ErrorCode)
  | stopDtmfTone (stop : ErrorCode)
  | playCallEndedTone (a : EndedAnswers)
  | muteWaitingTone (waitingCallCount : ℤ) (stop : ErrorCode)
  | setLocalRingbackNeeded (isNeeded : Bool) (stop : ErrorCode)
  deriving DecidableEq

/-- One operation: its result, if it has one, and the fields after it. -/
def toneOp (c : ToneControl) : ToneOp → ErrorCode × ToneControl
  | .playRingback sos result => c.playRingback sos result
  | .playWaitingTone result => c.playWaitingTone result
  | .stopRingback stop => c.stopRingback stop
  | .stopWaitingTone stop => c.stopWaitingTone stop
  | .stopDtmfTone stop => c.stopDtmfTone stop
  | .playCallEndedTone a => (.telephonySuccess, c.playCallEndedTone a)
  | .muteWaitingTone waitingCallCount stop =>
    (.telephonySuccess, c.muteWaitingTone waitingCallCount stop)
  | .setLocalRingbackNeeded isNeeded stop =>
    (.telephonySuccess, c.setLocalRingbackNeeded isNeeded stop)

/-- The fields after one operation. -/
def toneStep (c : ToneControl) (op : ToneOp) : ToneControl := (toneOp c op).2

/-! ### `Tone` -/

/-- What the audio framework answers when a tone is played: whether `TonePlayer::Create` gives a
    player, and whether `LoadTone` and `StartTone` succeed. -/
structure PlayerAnswers where
  create : Bool
  loadTone : Bool
  startTone : Bool
  deriving DecidableEq, Repr

/-- `Tone::IsUseTonePlayer` (tone.cpp:283-310). -/
def isUseTonePlayer : ToneDescriptor → Bool
  | .dtmfChar0 | .dtmfChar1 | .dtmfChar2 | .dtmfChar3 | .dtmfChar4 | .dtmfChar5 | .dtmfChar6
  | .dtmfChar7 | .dtmfChar8 | .dtmfChar9 | .dtmfCharP | .dtmfCharW => true
  | .ringback | .waiting | .finished => true
  | .unknown | .engaged | .noService | .invalidNumber | .callRecording => false

/-- `Tone::Play` of a new tone (lines 47-73), with `InitTonePlayer` (lines 97-116). The result
    of `StartTone` in a thread of its own is not used. -/
def Tone.play (tone : ToneDescriptor) (a : PlayerAnswers) : ErrorCode :=
  if tone = .unknown then .callErrAudioUnknownTone
  else if isUseTonePlayer tone then
    if a.create = false ∨ a.loadTone = false then .telephonyError
    else if tone = .finished then
      if a.startTone then .telephonySuccess else .callErrAudioTonePlayFailed
    else .telephonySuccess
  else .telephonySuccess

/-- `Tone::Stop` (lines 75-95); `audioPlayer` tells whether the tone has its audio player. -/
def Tone.stop (tone : ToneDescriptor) (audioPlayer : Bool) : ErrorCode :=
  if tone = .unknown then .callErrAudioUnknownTone
  else if isUseTonePlayer tone then .telephonySuccess
  else if audioPlayer = false then .telephonyErrLocalPtrNull
  else .telephonySuccess

/-! ## Specification -/

/-- `tone_` was started with success and was not stopped since. -/
def ToneControl.IsPlaying (c : ToneControl) : Prop := c.tone.any (·.playing)

instance (c : ToneControl) : Decidable c.IsPlaying := inferInstanceAs (Decidable (_ = _))

/-- **The state agrees with the tone.** -/
def ToneAgrees (c : ToneControl) : Prop := c.toneState = .toneing ↔ c.IsPlaying

/-- **No request is blocked**: while no tone plays, a ringback tone that is
    needed and a waiting tone start if they are made and `Play` succeeds. -/
def NotBlocked (c : ToneControl) : ToneOp → Prop
  | .playRingback sos result =>
    ¬ c.IsPlaying → c.shouldPlayRingback sos = true → result = ⟨true, .telephonySuccess⟩ →
      (toneOp c (.playRingback sos result)).1 = .telephonySuccess
  | .playWaitingTone result =>
    ¬ c.IsPlaying → result = ⟨true, .telephonySuccess⟩ →
      (toneOp c (.playWaitingTone result)).1 = .telephonySuccess
  | _ => True

/-- The condition on a step: a ringback or a waiting tone that is not refused is
    made and starts; and the tone of an ended call, if it gets to be played, is
    made and starts, or is stopped. -/
def StepOk (c : ToneControl) : ToneOp → Prop
  | .playRingback sos result =>
    c.shouldPlayRingback sos = false ∨ c.toneState = .toneing ∨
      result = ⟨true, .telephonySuccess⟩
  | .playWaitingTone result => c.toneState = .toneing ∨ result = ⟨true, .telephonySuccess⟩
  | .playCallEndedTone a =>
    a.voIPCallState ≠ .idle ∨ a.ringMode ≠ .normal ∨ a.isBtCallDisconnected = true ∨
      (c.toneState = .toneing ∧ a.stop ≠ .telephonySuccess) ∨
      (a.result.made = true ∧
        (a.result.play = .telephonySuccess ∨ a.stopAgain = .telephonySuccess))
  | .stopRingback _ | .stopWaitingTone _ | .stopDtmfTone _ | .muteWaitingTone _ _
  | .setLocalRingbackNeeded _ _ => True

/-! ## The tone that is played and stopped -/

section Step

variable {c : ToneControl}

/-- While the state is TONEING, and only then, a tone is refused as one that
    plays already; else it is the tone, which plays if it starts. -/
theorem playCallTone_agrees_iff (h : ToneAgrees c) (type : ToneDescriptor) (result : PlayResult) :
    ToneAgrees (c.playCallTone type result).2 ↔
      c.toneState = .toneing ∨ result = ⟨true, .telephonySuccess⟩ := by
  obtain ⟨made, play⟩ := result
  unfold ToneControl.playCallTone
  by_cases htoneing : c.toneState = .toneing
  · rw [if_pos htoneing]
    exact iff_of_true h (Or.inl htoneing)
  rw [if_neg htoneing, or_iff_right htoneing]
  cases made with
  | false => simp [ToneAgrees, ToneControl.IsPlaying]
  | true =>
    by_cases hplay : play = .telephonySuccess
    · simp [ToneAgrees, ToneControl.IsPlaying, hplay]
    · simp [ToneAgrees, ToneControl.IsPlaying, hplay]

theorem playCallTone_result (type : ToneDescriptor) (hstate : c.toneState ≠ .toneing) :
    (c.playCallTone type ⟨true, .telephonySuccess⟩).1 = .telephonySuccess := by
  unfold ToneControl.playCallTone
  rw [if_neg hstate]
  rfl

/-- A stop keeps the agreement: the state is STOPPED with the tone, and a tone
    that does not stop plays on. -/
theorem stopCallTone_agrees (h : ToneAgrees c) (stop : ErrorCode) :
    ToneAgrees (c.stopCallTone stop).2 := by
  unfold ToneControl.stopCallTone
  split
  · exact h
  · exact h
  · exact h
  · split_ifs with hstop
    · exact h
    · simp [ToneAgrees, ToneControl.IsPlaying]

/-- After a stop the state is TONEING iff it was and the tone did not stop. -/
theorem stopCallTone_toneing_iff (h : ToneAgrees c) (stop : ErrorCode) :
    (c.stopCallTone stop).2.toneState = .toneing ↔
      c.toneState = .toneing ∧ stop ≠ .telephonySuccess := by
  unfold ToneControl.stopCallTone
  split
  · next hstate => simp [hstate]
  · next hstate => simp [hstate]
  · next hstate htone =>
    -- a state of TONEING without a tone does not agree
    have hplaying := h.mp hstate
    simp [ToneControl.IsPlaying, htone] at hplaying
  · next hstate htone =>
    split_ifs with hstop
    · simp [hstate, hstop]
    · simp [hstop]

theorem stopRingback_agrees (h : ToneAgrees c) (stop : ErrorCode) :
    ToneAgrees (c.stopRingback stop).2 := by
  have hclear : ToneAgrees { c with isLocalRingbackNeeded := false } := h
  unfold ToneControl.stopRingback
  dsimp only
  split_ifs with htone
  · exact stopCallTone_agrees hclear stop
  · exact hclear

theorem stopWaitingTone_agrees (h : ToneAgrees c) (stop : ErrorCode) :
    ToneAgrees (c.stopWaitingTone stop).2 := by
  unfold ToneControl.stopWaitingTone
  split_ifs with htone
  · exact stopCallTone_agrees h stop
  · exact h

theorem muteWaitingTone_agrees (h : ToneAgrees c) (waitingCallCount : ℤ) (stop : ErrorCode) :
    ToneAgrees (c.muteWaitingTone waitingCallCount stop) := by
  unfold ToneControl.muteWaitingTone
  split_ifs with hwaiting
  · exact stopWaitingTone_agrees h stop
  · exact h

theorem handleNotNormalRingerMode_agrees (h : ToneAgrees c) (stop : ErrorCode) :
    ToneAgrees (c.handleNotNormalRingerMode stop) := by
  unfold ToneControl.handleNotNormalRingerMode
  split_ifs with hstate
  · exact stopCallTone_agrees h stop
  · exact h

theorem setLocalRingbackNeeded_agrees (h : ToneAgrees c) (isNeeded : Bool) (stop : ErrorCode) :
    ToneAgrees (c.setLocalRingbackNeeded isNeeded stop) := by
  unfold ToneControl.setLocalRingbackNeeded
  dsimp only
  split_ifs with hneeded
  · exact stopRingback_agrees h stop
  · exact h

/-- The tone of an ended call, once it is to be played: a tone that does not
    start has to be stopped. -/
theorem playAndStop_agrees_iff (h : ToneAgrees c) (result : PlayResult) (stop : ErrorCode) :
    ToneAgrees
      (if (c.playCallTone .finished result).1 ≠ .telephonySuccess then
        ((c.playCallTone .finished result).2.stopCallTone stop).2
      else
        ({ (c.playCallTone .finished result).2 with toneState := .toneing }.stopCallTone stop).2) ↔
      c.toneState = .toneing ∨
        (result.made = true ∧ (result.play = .telephonySuccess ∨ stop = .telephonySuccess)) := by
  obtain ⟨made, play⟩ := result
  by_cases htoneing : c.toneState = .toneing
  · have hrefused : c.playCallTone .finished ⟨made, play⟩ = (.callErrAudioTonePlayFailed, c) := by
      unfold ToneControl.playCallTone
      rw [if_pos htoneing]
    have hcode : ErrorCode.callErrAudioTonePlayFailed ≠ .telephonySuccess := by decide
    rw [hrefused, if_pos hcode]
    exact iff_of_true (stopCallTone_agrees h stop) (Or.inl htoneing)
  rw [or_iff_right htoneing]
  unfold ToneControl.playCallTone
  rw [if_neg htoneing]
  cases made with
  | false => simp [ToneControl.stopCallTone, ToneAgrees, ToneControl.IsPlaying]
  | true =>
    by_cases hplay : play = .telephonySuccess
    · by_cases hstop : stop = .telephonySuccess <;>
        simp [hplay, hstop, ToneControl.stopCallTone, ToneAgrees, ToneControl.IsPlaying]
    · by_cases hstop : stop = .telephonySuccess <;>
        simp [hplay, hstop, ToneControl.stopCallTone, ToneAgrees, ToneControl.IsPlaying]

theorem playCallEndedTone_agrees_iff (h : ToneAgrees c) (a : EndedAnswers) :
    ToneAgrees (c.playCallEndedTone a) ↔
      a.voIPCallState ≠ .idle ∨ a.ringMode ≠ .normal ∨ a.isBtCallDisconnected = true ∨
        (c.toneState = .toneing ∧ a.stop ≠ .telephonySuccess) ∨
        (a.result.made = true ∧
          (a.result.play = .telephonySuccess ∨ a.stopAgain = .telephonySuccess)) := by
  unfold ToneControl.playCallEndedTone
  by_cases hvoip : a.voIPCallState = .idle
  swap
  · rw [if_pos hvoip]
    exact iff_of_true h (Or.inl hvoip)
  rw [if_neg (not_not.mpr hvoip), or_iff_right (not_not.mpr hvoip)]
  by_cases hmode : a.ringMode = .normal
  swap
  · rw [if_pos hmode]
    exact iff_of_true (handleNotNormalRingerMode_agrees h a.stop) (Or.inl hmode)
  rw [if_neg (not_not.mpr hmode), or_iff_right (not_not.mpr hmode)]
  -- the tone that plays is stopped first
  obtain ⟨c', hc', hagrees, htoneing⟩ : ∃ c',
      (if c.toneState = .toneing then (c.stopCallTone a.stop).2 else c) = c' ∧ ToneAgrees c' ∧
      (c'.toneState = .toneing ↔ c.toneState = .toneing ∧ a.stop ≠ .telephonySuccess) := by
    refine ⟨_, rfl, ?_⟩
    split_ifs with hstate
    · exact ⟨stopCallTone_agrees h a.stop, stopCallTone_toneing_iff h a.stop⟩
    · exact ⟨h, iff_of_false hstate fun hand => hstate hand.1⟩
  rw [hc']
  dsimp only
  by_cases hbt : a.isBtCallDisconnected = true
  · rw [if_pos hbt]
    exact iff_of_true hagrees (Or.inl hbt)
  rw [if_neg hbt, or_iff_right hbt, ← htoneing]
  exact playAndStop_agrees_iff hagrees a.result a.stopAgain

/-- **One operation** keeps the state in agreement with the tone iff it meets its condition. -/
theorem toneAgrees_step_iff (h : ToneAgrees c) (op : ToneOp) :
    ToneAgrees (toneStep c op) ↔ StepOk c op := by
  cases op with
  | playRingback sos result =>
    unfold toneStep toneOp ToneControl.playRingback StepOk
    dsimp only
    by_cases hplay : c.shouldPlayRingback sos = false
    · rw [if_pos hplay]
      exact iff_of_true h (Or.inl hplay)
    · rw [if_neg hplay, or_iff_right hplay]
      exact playCallTone_agrees_iff h .ringback result
  | playWaitingTone result => exact playCallTone_agrees_iff h .waiting result
  | stopRingback stop => exact iff_of_true (stopRingback_agrees h stop) trivial
  | stopWaitingTone stop => exact iff_of_true (stopWaitingTone_agrees h stop) trivial
  | stopDtmfTone stop => exact iff_of_true (stopCallTone_agrees h stop) trivial
  | playCallEndedTone a => exact playCallEndedTone_agrees_iff h a
  | muteWaitingTone waitingCallCount stop =>
    exact iff_of_true (muteWaitingTone_agrees h waitingCallCount stop) trivial
  | setLocalRingbackNeeded isNeeded stop =>
    exact iff_of_true (setLocalRingbackNeeded_agrees h isNeeded stop) trivial

/-- Where the state agrees with the tone, no request is blocked. -/
theorem ToneAgrees.notBlocked (h : ToneAgrees c) (op : ToneOp) : NotBlocked c op := by
  cases op with
  | playRingback sos result =>
    rintro hplaying hneeded rfl
    have hplay : ¬ c.shouldPlayRingback sos = false := by simp [hneeded]
    unfold toneOp ToneControl.playRingback
    dsimp only
    rw [if_neg hplay]
    exact playCallTone_result .ringback fun hstate => hplaying (h.mp hstate)
  | playWaitingTone result =>
    rintro hplaying rfl
    exact playCallTone_result .waiting fun hstate => hplaying (h.mp hstate)
  | stopRingback stop => trivial
  | stopWaitingTone stop => trivial
  | stopDtmfTone stop => trivial
  | playCallEndedTone a => trivial
  | muteWaitingTone waitingCallCount stop => trivial
  | setLocalRingbackNeeded isNeeded stop => trivial

end Step

theorem toneAgrees_init : ToneAgrees ToneControl.init := by
  simp [ToneAgrees, ToneControl.init, ToneControl.IsPlaying]

/-- **Main theorem.** For any results of the tones: in every state of a run the state agrees
    with the tone, and no request is blocked, iff every step of the run meets its condition. -/
theorem toneAgrees_iff (ops : List ToneOp) :
    Run.StatesMeet toneStep ToneAgrees ToneControl.init ops ∧
        Run.StepsMeet toneStep NotBlocked ToneControl.init ops ↔
      Run.StepsMeet toneStep StepOk ToneControl.init ops := by
  refine Run.statesMeet_and_stepsMeet_iff (fun c op h => ?_) ops toneAgrees_init
  rw [toneAgrees_step_iff h op]
  exact and_iff_left (h.notBlocked op)

/-- A waiting tone that does not start leaves the state TONEING; when it and the
    call are over, the ringback tone of the next call is refused, which would
    start, although no tone was ever played. -/
theorem failed_tone_blocks :
    let failed : PlayResult := ⟨true, Tone.play .waiting ⟨false, true, true⟩⟩
    let c := Run.run toneStep ToneControl.init
      [.playWaitingTone failed, .setLocalRingbackNeeded true .telephonySuccess]
    c.toneState = .toneing ∧ ¬ c.IsPlaying ∧ ¬ ToneAgrees c ∧
    (toneOp c (.playRingback false ⟨true, .telephonySuccess⟩)).1 = .callErrAudioTonePlayFailed ∧
    ¬ NotBlocked c (.playRingback false ⟨true, .telephonySuccess⟩) := by
  refine ⟨by decide, by decide, fun h => absurd (h.mp (by decide)) (by decide), by decide,
    fun h => absurd (h (by decide) (by decide) rfl) (by decide)⟩

/-! ## The results of `Tone` -/

/-- The operations with what the audio framework answers. -/
inductive PlayerOp
  | playRingback (sos : Bool) (a : PlayerAnswers)
  | playWaitingTone (a : PlayerAnswers)
  | stopRingback
  | stopWaitingTone
  | stopDtmfTone
  | playCallEndedTone (voIPCallState : CallStateToApp) (ringMode : AudioRingerMode)
      (isBtCallDisconnected : Bool) (a : PlayerAnswers)
  | muteWaitingTone (waitingCallCount : ℤ)
  | setLocalRingbackNeeded (isNeeded : Bool)
  deriving DecidableEq

/-- What `Stop` of the tone there yields; `audioPlayer` tells whether tones have
    their audio player. -/
def ToneControl.stopResult (audioPlayer : Bool) (c : ToneControl) : ErrorCode :=
  match c.tone with
  | none => .telephonySuccess
  | some tone => Tone.stop tone.currentToneDescriptor audioPlayer

/-- The operation with the results that `Tone` gives. The second stop of
    `PlayCallEndedTone` is that of a tone that did not stop, if there is one, and
    else that of the tone of the ended call. -/
def PlayerOp.toToneOp (audioPlayer : Bool) (c : ToneControl) : PlayerOp → ToneOp
  | .playRingback sos a => .playRingback sos ⟨true, Tone.play .ringback a⟩
  | .playWaitingTone a => .playWaitingTone ⟨true, Tone.play .waiting a⟩
  | .stopRingback => .stopRingback (c.stopResult audioPlayer)
  | .stopWaitingTone => .stopWaitingTone (c.stopResult audioPlayer)
  | .stopDtmfTone => .stopDtmfTone (c.stopResult audioPlayer)
  | .playCallEndedTone voIPCallState ringMode isBtCallDisconnected a =>
    .playCallEndedTone
      { voIPCallState := voIPCallState
        ringMode := ringMode
        isBtCallDisconnected := isBtCallDisconnected
        result := ⟨true, Tone.play .finished a⟩
        stop := c.stopResult audioPlayer
        stopAgain :=
          if c.toneState = .toneing ∧ c.stopResult audioPlayer ≠ .telephonySuccess then
            c.stopResult audioPlayer
          else Tone.stop .finished audioPlayer }
  | .muteWaitingTone waitingCallCount =>
    .muteWaitingTone waitingCallCount (c.stopResult audioPlayer)
  | .setLocalRingbackNeeded isNeeded =>
    .setLocalRingbackNeeded isNeeded (c.stopResult audioPlayer)

/-- One operation with the results of `Tone`. -/
def playerStep (audioPlayer : Bool) (c : ToneControl) (op : PlayerOp) : ToneControl :=
  toneStep c (op.toToneOp audioPlayer c)

/-- The condition on a step: the tone player of a ringback or a waiting tone
    that is not refused is created and loads the tone. -/
def PlayerOk (c : ToneControl) : PlayerOp → Prop
  | .playRingback sos a =>
    c.shouldPlayRingback sos = false ∨ c.toneState = .toneing ∨
      (a.create = true ∧ a.loadTone = true)
  | .playWaitingTone a => c.toneState = .toneing ∨ (a.create = true ∧ a.loadTone = true)
  | .stopRingback | .stopWaitingTone | .stopDtmfTone | .playCallEndedTone _ _ _ _
  | .muteWaitingTone _ | .setLocalRingbackNeeded _ => True

/-- A ringback or a waiting tone starts iff its tone player is created and loads
    the tone: what `StartTone` yields in its thread is not used. -/
theorem Tone.play_eq_success_iff {tone : ToneDescriptor} (htone : tone = .ringback ∨ tone = .waiting)
    (a : PlayerAnswers) :
    Tone.play tone a = .telephonySuccess ↔ a.create = true ∧ a.loadTone = true := by
  rcases htone with rfl | rfl
  · simp [Tone.play, isUseTonePlayer]
  · simp [Tone.play, isUseTonePlayer]

theorem stepOk_toToneOp_iff (audioPlayer : Bool) (c : ToneControl) (op : PlayerOp) :
    StepOk c (op.toToneOp audioPlayer c) ↔ PlayerOk c op := by
  cases op with
  | playRingback sos a =>
    simp [StepOk, PlayerOk, PlayerOp.toToneOp, Tone.play_eq_success_iff (Or.inl rfl)]
  | playWaitingTone a =>
    simp [StepOk, PlayerOk, PlayerOp.toToneOp, Tone.play_eq_success_iff (Or.inr rfl)]
  | stopRingback => exact Iff.rfl
  | stopWaitingTone => exact Iff.rfl
  | stopDtmfTone => exact Iff.rfl
  | playCallEndedTone voIPCallState ringMode isBtCallDisconnected a =>
    refine iff_of_true ?_ trivial
    by_cases hstop : c.toneState = .toneing ∧ c.stopResult audioPlayer ≠ .telephonySuccess
    · exact Or.inr (Or.inr (Or.inr (Or.inl hstop)))
    · -- the tone of the ended call has a tone player, and its stop succeeds
      refine Or.inr (Or.inr (Or.inr (Or.inr ⟨rfl, Or.inr ?_⟩)))
      dsimp only
      rw [if_neg hstop]
      rfl
  | muteWaitingTone waitingCallCount => exact Iff.rfl
  | setLocalRingbackNeeded isNeeded => exact Iff.rfl

/-- With the results of `Tone`, the state agrees with the tone in every state of a run iff every
    ringback and waiting tone that is not refused gets a tone player that loads it. -/
theorem toneAgrees_iff_tonePlayer (audioPlayer : Bool) (ops : List PlayerOp) :
    Run.StatesMeet (playerStep audioPlayer) ToneAgrees ToneControl.init ops ↔
      Run.StepsMeet (playerStep audioPlayer) PlayerOk ToneControl.init ops := by
  refine Run.statesMeet_iff_stepsMeet (fun c op h => ?_) ops toneAgrees_init
  rw [← stepOk_toToneOp_iff audioPlayer]
  exact toneAgrees_step_iff h _

end CallManager.Tones
