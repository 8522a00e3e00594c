import CallManager.AudioLockOrder
import CallManager.Library.Run

/-!
# A device that is asked for and not reached

`SetAudioDevice` is told whether the user asks for the device, and keeps that in
`isSetAudioDeviceByUser_`: the routing of a voice call then leaves the device alone. It
writes the flag before it goes to the device, by one of three ways: a distributed device
is switched on, a wireless one is selected and becomes active, the others become active.

Specification: a request that fails leaves the flag as it was, and an automatic one does
not take the user's choice back while a call of the time of the choice goes on. The
calls of the last choice that succeeded are kept beside the state.

The flag is written before any of the ways can fail, and is not put back. An automatic
request writes it too, and only the routing of a voice call and the end of a video call
look at it before they make one. A step of a run is one call of `SetAudioDevice`, by
whomever, in the state it is called in; `CallStateUpdated` is such calls and its end.

Results:
* `keepsChoice_iff`: a run is as specified iff each request that comes to write the flag
  reaches its device, or finds the flag as it would write it, and no automatic one finds
  the flag set by a choice that stands.
* `value_setAudioDevice`: which requests reach their device.
* `flagOf_updateDeviceForForegroundCall`, `flagOf_checkTypeAndSetAudioDevice`: the two
  automatic callers that look at the flag.
* `failed_choice_recorded`: a headset that is not there, and a video call.
-/

namespace CallManager.AudioLocks

open LockOrder DistributedDevices

/-! ## Which requests reach their device -/

/-- The device that the platform prefers is of the type, and has an address. -/
def PlatformAnswers.Prefers (platform : PlatformAnswers) (deviceType : AudioDeviceType) : Prop :=
  ∃ device ∈ platform.preferredOutput (deviceOf .unknown),
    device.deviceType = deviceType ∧ device.address ≠ []

instance (platform : PlatformAnswers) (deviceType : AudioDeviceType) :
    Decidable (platform.Prefers deviceType) :=
  inferInstanceAs (Decidable (∃ device ∈ platform.preferredOutput (deviceOf .unknown), _))

namespace AudioManagers

variable (json : JsonLibrary) (w : AudioManagers) (device : AudioDevice)

/-- A request comes to write the flag: there is a call, and none of a satellite for which
    the earpiece is asked for. -/
def Admits : Prop :=
  w.hasCall = true ∧
    ¬ (w.ofStore StoreCode.hasSatelliteCallExist = true ∧ device.deviceType = .earpiece)

instance : Decidable (w.Admits device) := inferInstanceAs (Decidable (_ ∧ _))

/-- How many questions the platform is asked to leave the distributed device. -/
def questionsToLeave : ℕ :=
  if w.dcall.dCallDeviceSwitchedOn = true ∧ (w.dcall.getConnectedDCallDeviceId json).length ≠ 0 ∧
      w.dcall.dcallProxy = true then 1
  else 0

/-- How many questions it takes to find the address of a wireless device. -/
def questionsToFind : ℕ := if device.address = [] then 1 else 0

/-- `SwitchDevice` succeeds if the next question is the `n`-th. -/
def CanEnable (n : ℕ) : AudioDeviceType → Prop
  | .speaker =>
    w.dcall.audioDevices.isSpeakerAvailable = true ∧ (w.answers n).setDeviceActive = true
  | .earpiece =>
    w.dcall.audioDevices.isEarpieceAvailable = true ∧ (w.answers n).setDeviceActive = true
  | .wiredHeadset =>
    w.dcall.audioDevices.isWiredHeadsetConnected = true ∧ (w.answers n).setDeviceActive = true
  | .bluetoothSco => (w.answers n).isBtActived = true
  | .nearlink => (w.answers n).Prefers .nearlink
  | .bluetoothHearingAid => (w.answers n).Prefers .bluetoothHearingAid
  | .disable => True
  | .unknown | .distributedAutomotive | .distributedPhone | .distributedPad | .distributedPc =>
    False

instance instDecidableCanEnable (n : ℕ) :
    (deviceType : AudioDeviceType) → Decidable (w.CanEnable n deviceType)
  | .speaker | .earpiece | .wiredHeadset => inferInstanceAs (Decidable (_ = true ∧ _ = true))
  | .bluetoothSco => inferInstanceAs (Decidable (_ = true))
  | .nearlink | .bluetoothHearingAid =>
    inferInstanceAs (Decidable (PlatformAnswers.Prefers _ _))
  | .disable => .isTrue trivial
  | .unknown | .distributedAutomotive | .distributedPhone | .distributedPad | .distributedPc =>
    .isFalse id

/-- A wireless device has an address, or is the one that is active, and is selected. -/
def CanSelect : Prop :=
  (device.address = [] → w.CanEnable w.asked device.deviceType) ∧
    (w.answers (w.asked + questionsToFind device)).selectOutputDevice = true

instance : Decidable (w.CanSelect device) := inferInstanceAs (Decidable ((_ → _) ∧ _))

/-- A distributed device is switched on: as a sink, or because one is on, or because no
    call is active, or by the distributed call service. -/
def CanDistribute : Prop :=
  (w.isDistributedDev device = true ∧ (w.answers w.asked).switchDevice = true) ∨
    w.isDistributedDev device = false ∧
      (w.dcall.dCallDeviceSwitchedOn = true ∨ w.dcall.isCallActived = false ∨
        (isDistributedAudioDevice device = true ∧
            (getDevIdFromAudioDevice json device).length ≠ 0) ∧
          (w.dcall.dcallProxy = true ∧ w.dcall.isSwitching = false) ∧
            (w.answers w.asked).switchDevice = true)

instance : Decidable (w.CanDistribute json device) := inferInstanceAs (Decidable (_ ∧ _ ∨ _ ∧ _))

/-- The request reaches a device of the type. -/
def CanReach : AudioDeviceType → Prop
  | .speaker | .earpiece | .wiredHeadset =>
    w.CanEnable (w.asked + w.questionsToLeave json) device.deviceType
  | .distributedAutomotive | .distributedPhone | .distributedPad | .distributedPc =>
    w.CanDistribute json device
  | .bluetoothSco | .nearlink | .bluetoothHearingAid =>
    w.CanSelect device ∧
      w.CanEnable (w.asked + questionsToFind device + 1 + w.questionsToLeave json)
        device.deviceType
  | .disable | .unknown => False

instance instDecidableCanReach :
    (deviceType : AudioDeviceType) → Decidable (w.CanReach json device deviceType)
  | .speaker | .earpiece | .wiredHeadset =>
    inferInstanceAs (Decidable (w.CanEnable _ device.deviceType))
  | .distributedAutomotive | .distributedPhone | .distributedPad | .distributedPc =>
    inferInstanceAs (Decidable (w.CanDistribute json device))
  | .bluetoothSco | .nearlink | .bluetoothHearingAid =>
    inferInstanceAs (Decidable (w.CanSelect device ∧ w.CanEnable _ device.deviceType))
  | .disable | .unknown => .isFalse id

/-- The request reaches its device. -/
def CanSwitch : Prop := w.CanReach json device device.deviceType

instance : Decidable (w.CanSwitch json device) :=
  inferInstanceAs (Decidable (w.CanReach json device _))

end AudioManagers

/-! ## Runs -/

/-- The state, the calls that `CallStateUpdated` has been told of, and the ids of the calls
    that were there when the user's last choice succeeded. -/
structure ChoiceRun where
  world : AudioManagers
  totalCalls : Finset Ref
  chosenFor : List ℤ

/-- What can happen: a request for a device, by the user or not, the end of
    `CallStateUpdated`, and anything else, which leaves the flag. -/
inductive ChoiceOp
  | setAudioDevice (device : AudioDevice) (isByUser : Bool)
  | callStateUpdated (call : Ref) (nextState : TelCallState)
  | change (world : AudioManagers)

/-- The ids of the stored calls that are neither disconnecting nor disconnected. -/
def AudioManagers.liveCallIds (w : AudioManagers) : List ℤ :=
  (w.store.callObjectPtrList.filter fun r =>
    (w.call r).callState ≠ .disconnecting ∧ (w.call r).callState ≠ .disconnected).map
      fun r => (w.call r).callId

namespace ChoiceRun

variable (json : JsonLibrary) (s : ChoiceRun)

/-- A request: what it returns, and the state it leaves. -/
def request (device : AudioDevice) (isByUser : Bool) : Bool × AudioManagers :=
  let out := (AudioCode.setAudioDevice json device isByUser).run s.world
  (out.value, out.data)

/-- One operation. -/
def step : ChoiceOp → ChoiceRun
  | .setAudioDevice device isByUser =>
    let (succeeded, world) := s.request json device isByUser
    { s with
      world
      chosenFor := if isByUser ∧ succeeded then s.world.liveCallIds else s.chosenFor }
  | .callStateUpdated call nextState =>
    let m : AudioControlManager := ⟨s.totalCalls, s.world.isSetAudioDeviceByUser⟩
    let m := m.callStateUpdated call (s.world.call call).callType nextState
    { s with
      world := { s.world with isSetAudioDeviceByUser := m.isSetAudioDeviceByUser }
      totalCalls := m.totalCalls }
  | .change world =>
    { s with world := { world with isSetAudioDeviceByUser := s.world.isSetAudioDeviceByUser } }

/-! ## Specification -/

/-- The flag is that of a choice of the user, in a call that goes on. -/
def Stands : Prop :=
  s.world.isSetAudioDeviceByUser = true ∧ ∃ callId ∈ s.chosenFor, callId ∈ s.world.liveCallIds

instance : Decidable s.Stands := inferInstanceAs (Decidable (_ ∧ _))

/-- A request that fails leaves the flag, and an automatic one leaves a choice that stands. -/
def KeepsChoice : ChoiceOp → Prop
  | .setAudioDevice device isByUser =>
    let out := s.request json device isByUser
    (out.1 = false → out.2.isSetAudioDeviceByUser = s.world.isSetAudioDeviceByUser) ∧
      (isByUser = false → s.Stands → out.2.isSetAudioDeviceByUser = true)
  | _ => True

/-- The condition on a request that comes to write the flag: it reaches its device unless
    the flag has the value already, and finds no choice that stands if it is automatic. -/
def StepOk : ChoiceOp → Prop
  | .setAudioDevice device isByUser =>
    s.world.Admits device →
      (s.world.CanSwitch json device ∨ s.world.isSetAudioDeviceByUser = isByUser) ∧
        (isByUser = false → ¬ s.Stands)
  | _ => True

end ChoiceRun

namespace AudioCode

variable {json : JsonLibrary} {w : AudioManagers}

/-! ## What leaves the flag -/

/-- The flag. -/
def flagOf (w : AudioManagers) : Bool := w.isSetAudioDeviceByUser

theorem preserves_flagOf {α : Type} {p : AudioCode α} (hp : Preserves unasked p) :
    Preserves flagOf p := preserves_of_unasked (fun _ => rfl) hp

theorem preserves_reading {α τ : Type} {g : AudioManagers → τ} (l : AudioMutex)
    (f : AudioManagers → α) : Preserves g (reading l f) := fun _ => rfl

/-- A request to the distributed call service, if one can be made, is a question. -/
theorem preserves_request (c : AudioManagers → Prop) [∀ w, Decidable (c w)] :
    Preserves unasked (lockGuard .dcallProxyMtx do
      let w ← get
      if c w then pure false
      else
        let platform ← ask
        pure platform.switchDevice) := by
  refine Preserves.lockGuard (preserves_get.bind fun w => ?_)
  exact preserves_ite (fun _ => preserves_pure _) fun _ =>
    preserves_ask.bind fun _ => preserves_pure _

/-- Leaving the distributed device asks, and forgets the device. -/
theorem preserves_switchOffDCallDeviceSync {τ : Type} {g : AudioManagers → τ}
    (hasks : ∀ w, g (unasked w) = g w)
    (hclear : Preserves g (do
      setSwitchedOn false
      clearConnectedDCallDevice)) : Preserves g (switchOffDCallDeviceSync json) := by
  refine preserves_get.bind fun w => preserves_ite (fun _ => preserves_pure _) fun _ => ?_
  refine (preserves_reading _ _).bind fun devId =>
    preserves_ite (fun _ => preserves_pure _) fun _ => ?_
  refine (preserves_of_unasked hasks (preserves_request _)).bind fun switched => ?_
  exact preserves_ite (fun _ => hclear) fun _ => preserves_pure _

theorem keeps_flag_switchOffDCallDeviceSync : Preserves flagOf (switchOffDCallDeviceSync json) :=
  preserves_switchOffDCallDeviceSync (fun _ => rfl) fun _ => rfl

theorem keeps_flag_leaveDistributed (deviceType : AudioDeviceType) :
    Preserves flagOf (leaveDistributed json deviceType) :=
  preserves_get.bind fun _ => preserves_runIf fun _ => keeps_flag_switchOffDCallDeviceSync

theorem keeps_flag_reportAudioDeviceChange (device : AudioDevice) :
    Preserves flagOf (reportAudioDeviceChange device) := by
  refine preserves_get.bind fun w => (preserves_runIf fun _ => ?_).bind fun _ => ?_
  · exact (preserves_flagOf (preserves_getInitAudioDeviceType none)).bind fun _ _ => rfl
  · refine preserves_get.bind fun w => preserves_ite (fun _ => preserves_pure _) fun _ => ?_
    exact preserves_ite (fun _ => preserves_pure _) fun _ =>
      preserves_runIf fun _ => (preserves_reading _ _).discard

theorem keeps_flag_setCurrentAudioDevice (device : AudioDevice) :
    Preserves flagOf (setCurrentAudioDevice json device) :=
  (keeps_flag_leaveDistributed _).bind fun _ =>
    Preserves.bind (fun _ => rfl) fun _ => keeps_flag_reportAudioDeviceChange device

theorem keeps_flag_setCurrentAudioDeviceType (deviceType : AudioDeviceType) :
    Preserves flagOf (setCurrentAudioDeviceType json deviceType) := by
  refine (keeps_flag_leaveDistributed _).bind fun _ => preserves_get.bind fun w => ?_
  exact preserves_ite (fun _ _ => rfl) fun _ => keeps_flag_setCurrentAudioDevice _

theorem keeps_flag_enable (deviceType : AudioDeviceType) (enabled : Bool) :
    Preserves flagOf (enable json deviceType enabled) :=
  preserves_ite (fun _ => (keeps_flag_setCurrentAudioDeviceType _).bind fun _ => preserves_pure _)
    fun _ => preserves_pure _

theorem keeps_flag_switchDevice (device : AudioDeviceType) :
    Preserves flagOf (switchDevice json device) := by
  refine Preserves.lockGuard (preserves_get.bind fun w => ?_)
  cases device with
  | earpiece | speaker | wiredHeadset =>
    exact (preserves_flagOf preserves_ask).bind fun _ => keeps_flag_enable _ _
  | bluetoothSco =>
    exact (preserves_flagOf preserves_isBtActived).bind fun _ => keeps_flag_enable _ _
  | nearlink | bluetoothHearingAid =>
    exact (preserves_flagOf (preserves_isPreferred _)).bind fun _ => keeps_flag_enable _ _
  | disable => exact fun _ => rfl
  | unknown | distributedAutomotive | distributedPhone | distributedPad | distributedPc =>
    exact preserves_pure _

theorem keeps_flag_switchAudioDevice (deviceType : AudioDeviceType) :
    Preserves flagOf (switchAudioDevice json deviceType) :=
  preserves_get.bind fun _ => (preserves_runIf fun _ => keeps_flag_switchOffDCallDeviceSync).bind
    fun _ => keeps_flag_switchDevice deviceType

theorem keeps_flag_switchOnDCallDeviceSync (device : AudioDevice) :
    Preserves flagOf (switchOnDCallDeviceSync json device) := by
  refine preserves_get.bind fun w => preserves_ite (fun _ => preserves_pure _) fun _ => ?_
  refine preserves_ite (fun _ => preserves_pure _) fun _ =>
    preserves_ite (fun _ => preserves_pure _) fun _ => ?_
  refine (preserves_flagOf (preserves_request _)).bind fun switched => ?_
  refine preserves_ite (fun _ => ?_) fun _ => preserves_pure _
  refine Preserves.bind (fun _ => rfl) fun _ => Preserves.bind (fun _ => rfl) fun _ => ?_
  exact (keeps_flag_setCurrentAudioDeviceType _).bind fun _ => preserves_pure _

theorem keeps_flag_handleDistributeAudioDevice (device : AudioDevice) :
    Preserves flagOf (handleDistributeAudioDevice json device) := by
  refine preserves_get.bind fun w => preserves_ite (fun _ => ?_) fun _ => ?_
  · exact (preserves_flagOf preserves_ask).bind fun _ => preserves_pure _
  · exact preserves_ite (fun _ => preserves_pure _) fun _ =>
      keeps_flag_switchOnDCallDeviceSync device

theorem preserves_handleWirelessAudioDevice (device : AudioDevice) :
    Preserves unasked (handleWirelessAudioDevice device) := by
  have hselect : ∀ found : Bool, Preserves unasked (if found then do
      let platform ← ask
      pure platform.selectOutputDevice
    else pure false) := fun found =>
    preserves_ite (fun _ => preserves_ask.bind fun _ => preserves_pure _) fun _ => preserves_pure _
  refine preserves_ite (fun _ => (preserves_pure true).bind hselect) fun _ => ?_
  exact preserves_ite (fun _ => preserves_isBtActived.bind hselect) fun _ =>
    (preserves_isPreferred _).bind hselect

/-- What `SetAudioDevice` does after it has written the flag. -/
def reach (json : JsonLibrary) (device : AudioDevice) : AudioCode Bool :=
  match device.deviceType with
  | .speaker | .earpiece | .wiredHeadset => switchAudioDevice json device.deviceType
  | .distributedAutomotive | .distributedPhone | .distributedPad | .distributedPc =>
    handleDistributeAudioDevice json device
  | .bluetoothSco | .nearlink | .bluetoothHearingAid => do
    let handled ← handleWirelessAudioDevice device
    if handled then switchAudioDevice json device.deviceType else pure false
  | .disable | .unknown => pure false

theorem keeps_flag_reach (device : AudioDevice) : Preserves flagOf (reach json device) := by
  have hwireless : Preserves flagOf (do
      let handled ← handleWirelessAudioDevice device
      if handled then switchAudioDevice json device.deviceType else pure false) :=
    (preserves_flagOf (preserves_handleWirelessAudioDevice device)).bind fun handled =>
      preserves_ite (fun _ => keeps_flag_switchAudioDevice _) fun _ => preserves_pure _
  unfold reach
  split
  iterate 3 exact keeps_flag_switchAudioDevice _
  iterate 4 exact keeps_flag_handleDistributeAudioDevice _
  iterate 3 exact hwireless
  iterate 2 exact preserves_pure _

/-- A request that is not admitted fails and changes nothing. -/
theorem run_setAudioDevice_of_not {device : AudioDevice} (h : ¬ w.Admits device)
    (isByUser : Bool) : (setAudioDevice json device isByUser).run w = ⟨false, w, []⟩ := by
  show Code.run (if w.hasCall = false then pure false
    else if w.ofStore StoreCode.hasSatelliteCallExist = true ∧ device.deviceType = .earpiece then
      pure false
    else modify _ >>= fun _ => reach json device : AudioCode Bool) w = _
  by_cases hcall : w.hasCall = false
  · rw [if_pos hcall]
    rfl
  · rw [if_neg hcall, if_pos (by_contra fun hsatellite => h ⟨by simpa using hcall, hsatellite⟩)]
    rfl

/-- One that is admitted writes the flag and goes to its device. -/
theorem run_setAudioDevice {device : AudioDevice} (h : w.Admits device) (isByUser : Bool) :
    (setAudioDevice json device isByUser).run w =
      (reach json device).run { w with isSetAudioDeviceByUser := isByUser } := by
  show Code.run (if w.hasCall = false then pure false
    else if w.ofStore StoreCode.hasSatelliteCallExist = true ∧ device.deviceType = .earpiece then
      pure false
    else modify _ >>= fun _ => reach json device : AudioCode Bool) w = _
  rw [if_neg (by simp [h.1]), if_neg h.2]
  rfl

/-! ## What a request returns -/

theorem value_enable (deviceType : AudioDeviceType) (enabled : Bool) :
    ((enable json deviceType enabled).run w).value = enabled := by
  cases enabled <;> rfl

theorem value_ask : (ask.run w).value = w.answers w.asked := rfl

theorem data_ask : (ask.run w).data = { w with asked := w.asked + 1 } := rfl

theorem value_isPreferred (deviceType : AudioDeviceType) :
    ((isPreferred deviceType).run w).value = true ↔ (w.answers w.asked).Prefers deviceType := by
  unfold isPreferred PlatformAnswers.Prefers
  rw [value_bind, value_ask]
  cases (w.answers w.asked).preferredOutput (deviceOf .unknown) with
  | none => simp
  | some device => simp

theorem data_isPreferred (deviceType : AudioDeviceType) :
    ((isPreferred deviceType).run w).data = { w with asked := w.asked + 1 } := by
  unfold isPreferred
  rw [data_bind, value_ask, data_ask]
  cases (w.answers w.asked).preferredOutput (deviceOf .unknown) <;> rfl

/-- `SwitchDevice` succeeds iff it can. -/
theorem value_switchDevice (deviceType : AudioDeviceType) :
    ((switchDevice json deviceType).run w).value = true ↔ w.CanEnable w.asked deviceType := by
  unfold switchDevice
  rw [value_lockGuard, value_bind, run_get]
  cases deviceType with
  | earpiece | speaker | wiredHeadset =>
    show ((enable json _ _).run _).value = true ↔ _
    rw [value_enable, Bool.and_eq_true]
    rfl
  | bluetoothSco =>
    show ((enable json _ _).run _).value = true ↔ _
    rw [value_enable]
    rfl
  | nearlink | bluetoothHearingAid =>
    show ((enable json _ _).run _).value = true ↔ _
    rw [value_enable, value_isPreferred]
    rfl
  | disable => exact iff_of_true rfl trivial
  | unknown | distributedAutomotive | distributedPhone | distributedPad | distributedPc =>
    exact iff_of_false Bool.false_ne_true fun h => h

/-- What `SwitchDevice` reads, beside which answer is the next. -/
def switchableOf (w : AudioManagers) : (ℕ → PlatformAnswers) × AudioDeviceManager :=
  (w.answers, w.dcall.audioDevices)

theorem canEnable_congr {w' : AudioManagers} (h : switchableOf w' = switchableOf w) (n : ℕ)
    (deviceType : AudioDeviceType) : w'.CanEnable n deviceType ↔ w.CanEnable n deviceType := by
  obtain ⟨hanswers, hdevices⟩ := Prod.ext_iff.mp h
  have hanswers : w'.answers = w.answers := hanswers
  have hdevices : w'.dcall.audioDevices = w.dcall.audioDevices := hdevices
  cases deviceType <;> simp only [AudioManagers.CanEnable, hanswers, hdevices]

theorem preserves_switchable_switchOff :
    Preserves switchableOf (switchOffDCallDeviceSync json) :=
  preserves_switchOffDCallDeviceSync (fun _ => rfl) fun _ => rfl

/-- What follows the request of `SwitchOffDCallDeviceSync` asks nothing. -/
theorem asked_switchedOff (switched : Bool) :
    Preserves AudioManagers.asked (if switched then do
      setSwitchedOn false
      clearConnectedDCallDevice
    else pure ()) :=
  preserves_ite (fun _ _ => rfl) fun _ => preserves_pure _

/-- How many questions it takes to leave the distributed device. -/
theorem asked_leave :
    ((runIf (w.dcall.dCallDeviceSwitchedOn = true)
      (switchOffDCallDeviceSync json)).run w).data.asked = w.asked + w.questionsToLeave json := by
  unfold AudioManagers.questionsToLeave runIf
  by_cases hon : w.dcall.dCallDeviceSwitchedOn = true
  · rw [if_pos hon]
    unfold switchOffDCallDeviceSync
    rw [data_bind, run_get, if_neg (by simp [hon]), data_bind]
    show (Code.run (if (w.dcall.getConnectedDCallDeviceId json).length = 0 then pure ()
      else _ >>= _) w).data.asked = _
    by_cases hdev : (w.dcall.getConnectedDCallDeviceId json).length = 0
    · rw [if_pos hdev, if_neg fun h => h.2.1 hdev]
      rfl
    rw [if_neg hdev, data_bind, asked_switchedOff, data_lockGuard, data_bind, run_get]
    by_cases hproxy : w.dcall.dcallProxy = true
    · rw [if_neg (by simp [hproxy]), if_pos ⟨hon, hdev, hproxy⟩]
      rfl
    · rw [if_pos (by simpa using hproxy), if_neg fun h => hproxy h.2.2]
      rfl
  · rw [if_neg hon, if_neg fun h => hon h.1]
    rfl

theorem value_switchAudioDevice (deviceType : AudioDeviceType) :
    ((switchAudioDevice json deviceType).run w).value = true ↔
      w.CanEnable (w.asked + w.questionsToLeave json) deviceType := by
  have hsame : switchableOf ((runIf (w.dcall.dCallDeviceSwitchedOn = true)
      (switchOffDCallDeviceSync json)).run w).data = switchableOf w :=
    preserves_runIf (fun _ => preserves_switchable_switchOff) w
  unfold switchAudioDevice
  rw [value_bind, run_get, value_bind, value_switchDevice, canEnable_congr hsame, asked_leave]

/-- Selecting a wireless device succeeds iff it can, and takes its questions. -/
theorem run_handleWirelessAudioDevice {device : AudioDevice}
    (hwireless : device.deviceType = .bluetoothSco ∨ device.deviceType = .nearlink ∨
      device.deviceType = .bluetoothHearingAid) :
    (((handleWirelessAudioDevice device).run w).value = true ↔ w.CanSelect device) ∧
      (((handleWirelessAudioDevice device).run w).value = true →
        ((handleWirelessAudioDevice device).run w).data =
          { w with asked := w.asked + AudioManagers.questionsToFind device + 1 }) := by
  unfold handleWirelessAudioDevice AudioManagers.CanSelect AudioManagers.questionsToFind
  by_cases haddress : device.address ≠ []
  · rw [if_pos haddress, if_neg haddress, and_iff_right fun h => absurd h haddress]
    exact ⟨Iff.rfl, fun _ => rfl⟩
  rw [if_neg haddress, if_pos (not_not.mp haddress), forall_prop_of_true (not_not.mp haddress)]
  -- the active device of the type is looked for, and then selected
  have hselect : ∀ active : AudioCode Bool,
      (active.run w).data = { w with asked := w.asked + 1 } →
      ((active.run w).value = true ↔ w.CanEnable w.asked device.deviceType) →
      let select := active >>= fun found => if found then do
        let platform ← ask
        pure platform.selectOutputDevice
      else pure false
      ((select.run w).value = true ↔ w.CanEnable w.asked device.deviceType ∧
          (w.answers (w.asked + 1)).selectOutputDevice = true) ∧
        ((select.run w).value = true → (select.run w).data = { w with asked := w.asked + 2 }) := by
    intro active hdata hactive
    dsimp only
    rw [← hactive, value_bind, data_bind, hdata]
    cases (active.run w).value with
    | true => exact ⟨(and_iff_right rfl).symm, fun _ => rfl⟩
    | false =>
      exact ⟨iff_of_false Bool.false_ne_true fun h => Bool.false_ne_true h.1,
        fun h => absurd h Bool.false_ne_true⟩
  by_cases hsco : device.deviceType = .bluetoothSco
  · rw [if_pos hsco]
    exact hselect isBtActived rfl (by rw [hsco]; exact Iff.rfl)
  · rw [if_neg hsco]
    refine hselect (isPreferred device.deviceType) (data_isPreferred _) ?_
    rw [value_isPreferred]
    rcases hwireless with h | h | h
    · exact absurd h hsco
    · rw [h]
      rfl
    · rw [h]
      rfl

theorem value_switchOnDCallDeviceSync (device : AudioDevice) :
    ((switchOnDCallDeviceSync json device).run w).value = true ↔
      w.dcall.isCallActived = false ∨
        (isDistributedAudioDevice device = true ∧
            (getDevIdFromAudioDevice json device).length ≠ 0) ∧
          (w.dcall.dcallProxy = true ∧ w.dcall.isSwitching = false) ∧
            (w.answers w.asked).switchDevice = true := by
  have hafter : ∀ (switched : Bool) (w : AudioManagers),
      (Code.run (if switched then do
          setSwitchedOn true
          setConnectedDCallDevice device
          setCurrentAudioDeviceType json device.deviceType
          pure true
        else pure false) w).value = switched := by
    intro switched w
    cases switched <;> rfl
  unfold switchOnDCallDeviceSync
  rw [value_bind, run_get]
  dsimp only
  by_cases hactive : w.dcall.isCallActived = false
  · rw [if_pos hactive]
    exact iff_of_true rfl (.inl hactive)
  rw [if_neg hactive, or_iff_right hactive]
  by_cases hkind : isDistributedAudioDevice device = false
  · rw [if_pos hkind]
    exact iff_of_false Bool.false_ne_true fun h => by simp [h.1.1] at hkind
  rw [if_neg hkind]
  by_cases hdev : (getDevIdFromAudioDevice json device).length = 0
  · rw [if_pos hdev]
    exact iff_of_false Bool.false_ne_true fun h => h.1.2 hdev
  rw [if_neg hdev, and_iff_right ⟨by simpa using hkind, hdev⟩, value_bind, hafter, value_lockGuard,
    value_bind, run_get]
  by_cases hproxy : w.dcall.dcallProxy = false ∨ w.dcall.isSwitching = true
  · rw [if_pos hproxy]
    refine iff_of_false Bool.false_ne_true fun h => ?_
    rcases hproxy with hnone | hswitching
    · simp [h.1.1] at hnone
    · simp [h.1.2] at hswitching
  · rw [if_neg hproxy, and_iff_right (by simpa using hproxy)]
    exact Iff.rfl

theorem value_handleDistributeAudioDevice (device : AudioDevice) :
    ((handleDistributeAudioDevice json device).run w).value = true ↔
      w.CanDistribute json device := by
  unfold handleDistributeAudioDevice AudioManagers.CanDistribute
  rw [value_bind, run_get]
  dsimp only
  by_cases hsink : w.isDistributedDev device = true
  · rw [if_pos hsink, and_iff_right hsink, or_iff_left fun h => by simp [h.1] at hsink]
    exact Iff.rfl
  rw [if_neg hsink, or_iff_right fun h => hsink h.1, and_iff_right (by simpa using hsink)]
  by_cases hon : w.dcall.dCallDeviceSwitchedOn = true
  · rw [if_pos hon]
    exact iff_of_true rfl (.inl hon)
  · rw [if_neg hon, value_switchOnDCallDeviceSync, or_iff_right hon]

/-- A request that comes to its device succeeds iff it can. -/
theorem value_reach (device : AudioDevice) :
    ((reach json device).run w).value = true ↔ w.CanSwitch json device := by
  have hwireless : (device.deviceType = .bluetoothSco ∨ device.deviceType = .nearlink ∨
      device.deviceType = .bluetoothHearingAid) →
      ((Code.run (do
          let handled ← handleWirelessAudioDevice device
          if handled then switchAudioDevice json device.deviceType else pure false) w).value
            = true ↔
        w.CanSelect device ∧
          w.CanEnable (w.asked + AudioManagers.questionsToFind device + 1 + w.questionsToLeave json)
            device.deviceType) := by
    intro htype
    obtain ⟨hvalue, hdata⟩ := run_handleWirelessAudioDevice (w := w) htype
    rw [value_bind, ← hvalue]
    by_cases hhandled : ((handleWirelessAudioDevice device).run w).value = true
    · rw [hdata hhandled, hhandled, and_iff_right rfl]
      exact value_switchAudioDevice device.deviceType
    · rw [Bool.not_eq_true] at hhandled
      rw [hhandled]
      exact iff_of_false Bool.false_ne_true fun h => Bool.false_ne_true h.1
  unfold reach AudioManagers.CanSwitch AudioManagers.CanReach
  cases htype : device.deviceType with
  | speaker | earpiece | wiredHeadset => exact value_switchAudioDevice _
  | distributedAutomotive | distributedPhone | distributedPad | distributedPc =>
    exact value_handleDistributeAudioDevice device
  | bluetoothSco | nearlink | bluetoothHearingAid =>
    rw [htype] at hwireless
    exact hwireless (by decide)
  | disable | unknown => exact iff_of_false Bool.false_ne_true fun h => h

/-- A request succeeds iff it is admitted and can reach its device. -/
theorem value_setAudioDevice (device : AudioDevice) (isByUser : Bool) :
    ((setAudioDevice json device isByUser).run w).value = true ↔
      w.Admits device ∧ w.CanSwitch json device := by
  by_cases hadmits : w.Admits device
  · rw [run_setAudioDevice hadmits, value_reach, and_iff_right hadmits]
    exact Iff.rfl
  · rw [run_setAudioDevice_of_not hadmits]
    exact iff_of_false Bool.false_ne_true fun h => hadmits h.1

/-- An admitted request leaves its flag, whether it succeeds or not. -/
theorem flagOf_setAudioDevice (device : AudioDevice) (isByUser : Bool) :
    flagOf ((setAudioDevice json device isByUser).run w).data =
      if w.Admits device then isByUser else flagOf w := by
  by_cases hadmits : w.Admits device
  · rw [run_setAudioDevice hadmits, if_pos hadmits]
    exact keeps_flag_reach device _
  · rw [run_setAudioDevice_of_not hadmits, if_neg hadmits]

/-! ## The callers that look at the flag -/

/-- The routing of a voice call leaves the user's choice. -/
theorem flagOf_updateDeviceForForegroundCall {foregroundCall : Ref}
    (hvoice : (w.call foregroundCall).videoState ≠ .video ∧
      (w.call foregroundCall).callType ≠ .satellite) (hflag : flagOf w = true) :
    flagOf ((updateDeviceForForegroundCall json foregroundCall).run w).data = true := by
  unfold updateDeviceForForegroundCall
  rw [data_bind, data_bind, run_get]
  dsimp only
  have hinit := preserves_getInitAudioDeviceType (some foregroundCall)
  rw [← preserves_flagOf hinit w] at hflag
  have hcalls : ((getInitAudioDeviceType (some foregroundCall)).run w).data.call = w.call :=
    preserves_of_unasked (fun _ => rfl) hinit w
  rw [← hcalls] at hvoice
  generalize ((getInitAudioDeviceType (some foregroundCall)).run w).value = initDeviceType
  generalize ((getInitAudioDeviceType (some foregroundCall)).run w).data = w' at hflag hvoice ⊢
  rw [if_neg (not_or.mpr hvoice)]
  by_cases hsink : w'.isAudioOnSink = true
  · rw [if_pos hsink]
    exact hflag
  rw [if_neg hsink]
  by_cases hphone : (w'.callAudio foregroundCall).isAnsweredByPhone = false
  · rw [if_pos hphone]
    exact hflag
  rw [if_neg hphone, data_bind]
  by_cases honline : (isDistributedCarDeviceOnline.run w').value = true
  · rw [if_pos honline]
    exact hflag
  · have hchosen : w'.isSetAudioDeviceByUser = true := hflag
    rw [if_neg honline, if_pos hchosen]
    exact hflag

/-- The end of a video call leaves the user's choice, and so does every other change of the
    video state but the start of one. -/
theorem flagOf_checkTypeAndSetAudioDevice {call : Ref}
    {priorVideoState nextVideoState : VideoStateType}
    (hvoice : priorVideoState = .video ∨ nextVideoState ≠ .video) (hflag : flagOf w = true)
    (initDeviceType : AudioDeviceType) (device : AudioDevice) :
    flagOf ((checkTypeAndSetAudioDevice json call priorVideoState nextVideoState initDeviceType
      device).run w).data = true := by
  unfold checkTypeAndSetAudioDevice
  rw [data_bind, run_get]
  dsimp only
  rw [if_neg (by tauto), if_neg fun h => by simp [flagOf, h.2.1] at hflag]
  exact hflag

end AudioCode

/-! ## The runs as specified -/

namespace ChoiceRun

variable {json : JsonLibrary}

/-- A step is as specified iff its request reaches its device or finds the flag as it would
    write it, and finds no choice that stands if it is automatic. -/
theorem keepsChoice_iff_stepOk (s : ChoiceRun) (op : ChoiceOp) :
    s.KeepsChoice json op ↔ s.StepOk json op := by
  cases op with
  | callStateUpdated call nextState => exact Iff.rfl
  | change world => exact Iff.rfl
  | setAudioDevice device isByUser =>
    have hvalue := @AudioCode.value_setAudioDevice json s.world device isByUser
    have hflag := @AudioCode.flagOf_setAudioDevice json s.world device isByUser
    have hflagOf : (s.request json device isByUser).2.isSetAudioDeviceByUser =
        if s.world.Admits device then isByUser else s.world.isSetAudioDeviceByUser := hflag
    have hfails : (s.request json device isByUser).1 = false ↔
        ¬ (s.world.Admits device ∧ s.world.CanSwitch json device) := by
      rw [← hvalue, Bool.not_eq_true]
      exact Iff.rfl
    unfold KeepsChoice StepOk
    dsimp only
    rw [hflagOf, hfails]
    by_cases hadmits : s.world.Admits device
    · rw [if_pos hadmits, and_iff_right hadmits, forall_prop_of_true hadmits, ← or_iff_not_imp_left,
        eq_comm (a := isByUser)]
      refine and_congr_right fun _ => forall_congr' fun hauto => ?_
      rw [hauto]
      exact imp_congr_right fun _ => iff_of_false Bool.false_ne_true id
    · rw [if_neg hadmits]
      exact iff_of_true ⟨fun _ => rfl, fun _ hstands => hstands.1⟩ fun h => absurd h hadmits

/-- A run is as specified iff each of its requests that comes to write the flag reaches its
    device or finds the flag as it would write it, and no automatic one finds a choice of
    the user that stands. -/
theorem keepsChoice_iff (json : JsonLibrary) (s : ChoiceRun) (ops : List ChoiceOp) :
    Run.StepsMeet (step json) (KeepsChoice json) s ops ↔
      Run.StepsMeet (step json) (StepOk json) s ops :=
  Run.stepsMeet_congr keepsChoice_iff_stepOk

end ChoiceRun

/-- The store of a phone with an active call. -/
def oneActiveCall : CallStore :=
  { StoreOperation.emptyStore with
    callObjectPtrList := [0]
    objects := fun r =>
      { StoreOperation.emptyStore.objects r with
        callId := 1
        callType := .ims
        callState := .active
        callRunningState := .active } }

/-- A phone with an active call, and no Bluetooth headset. -/
def inCall : ChoiceRun where
  world :=
    { AudioOperation.worldOf (DCallWorld.init false) with
      store := oneActiveCall
      answers := fun _ => { AudioOperation.grantingPlatform with isBtActived := false } }
  totalCalls := {0}
  chosenFor := []

/-- The user asks for a headset that is not there, and is taken to have chosen the device
    in use. The user chooses the speaker, and the call becomes a video call. -/
theorem failed_choice_recorded :
    ¬ Run.StepsMeet (ChoiceRun.step DCallWorld.plainJson)
        (ChoiceRun.KeepsChoice DCallWorld.plainJson) inCall
        [.setAudioDevice (deviceOf .bluetoothSco) true] ∧
      ¬ Run.StepsMeet (ChoiceRun.step DCallWorld.plainJson)
        (ChoiceRun.KeepsChoice DCallWorld.plainJson) inCall
        [.setAudioDevice (deviceOf .speaker) true, .setAudioDevice (deviceOf .speaker) false] := by
  constructor
  · rintro ⟨⟨hfails, -⟩, -⟩
    exact absurd (hfails (by decide +kernel)) (by decide +kernel)
  · rintro ⟨-, ⟨-, hauto⟩, -⟩
    exact absurd (hauto rfl (by decide +kernel)) (by decide +kernel)

end CallManager.AudioLocks
