import CallManager.AudioLocks

/-!
# The order of the audio locks

Specification (`LockDiscipline`): no operation of the audio managers and the distributed
call manager acquires a lock it already holds, each ends with all locks free, the nested
acquisitions of all of them respect one order, and so they never wait for each other in
a circle.

The order is `mutex_` of `AudioControlManager`, `onlineDeviceMtx_`, `infoMutex_`,
`audioModeMutex_`, `mutex_` of `AudioDeviceManager`, `connectedDevMtx_`,
`dcallProxyMtx_`. The code departs from it in one place: it asks whether a distributed
device is online, which acquires `onlineDeviceMtx_`, with that lock or with
`infoMutex_` already held. It does so in these states (`AsksBehindLock`):

* A device that comes is a new car, and a call is active without a device switched on:
  `AddDCallDevice` holds `onlineDeviceMtx_` and acquires it again.
* The list of audio devices has a car: `CheckAndSwitchDistributedAudioDevice` holds
  `infoMutex_`.
* The audio is that of a video or satellite call, and the foreground call is another one,
  answered on this phone: `RemoveAudioDeviceList` holds `infoMutex_`, and behind
  `RemoveDCallDevice` also `onlineDeviceMtx_`.

Results:
* `orderly_of_not_asksBehindLock`: every other run keeps to the order.
* `audioLockDiscipline_iff`: runs keep to the discipline, beside those that do not ask behind
  a lock, iff none of them does.
* `car_comes_blocks`: a car that comes during a call.
-/

namespace CallManager.AudioLocks

open LockOrder DistributedDevices CallStateReport

/-! ## Specification -/

namespace AudioManagers

variable (w : AudioManagers)

/-- For a device that the call is told of, `UpdateDeviceForForegroundCall` comes to ask
    whether a distributed device is online. -/
def ChecksCar (call : Ref) : Prop :=
  ((w.call call).videoState ≠ .video ∧ (w.call call).callType ≠ .satellite) ∧
    w.isAudioOnSink = false ∧ (w.callAudio call).isAnsweredByPhone = true

/-- The routing of the foreground call comes to ask it. -/
def RoutingChecksCar : Prop :=
  ∃ call, w.ofStore (StoreCode.getForegroundCall true) = some call ∧
    ((w.call call).callType = .ims ∨ (w.call call).callType = .bluetooth) ∧ w.ChecksCar call

/-- The audio follows a video or satellite call, and the foreground call is another one,
    whose routing comes to ask whether a distributed device is online. -/
def ReroutesPastCar : Prop :=
  (∃ liveCall, w.ofStore StoreCode.getAudioLiveCall = some liveCall ∧
    ((w.call liveCall).videoState = .video ∨ (w.call liveCall).callType = .satellite)) ∧
    w.RoutingChecksCar

/-- There is a car among the audio devices. -/
def ListsCar : Prop :=
  ∃ it ∈ w.dcall.audioDevices.audioDeviceList, it.deviceType = .distributedAutomotive

/-- The device is a new car, and a call is active without a device switched on. -/
def BringsCar (json : JsonLibrary) (devId : ByteString) (devInfo : Option DCallDeviceInfo) :
    Prop :=
  ¬ w.dcall.onlineDCallDevices.Mem devId ∧
    ∃ device, w.dcall.createDAudioDevice json devId devInfo = some device ∧
      (w.dcall.dCallDeviceSwitchedOn = false ∧ w.dcall.isCallActived = true) ∧
        device.deviceType = .distributedAutomotive

/-- One of the devices is a new car, and those before it leave it new. -/
def BringsCarAmong (w : AudioManagers) (json : JsonLibrary)
    (devices : List (ByteString × Option DCallDeviceInfo)) : Prop :=
  ∃ before item after, devices = before ++ item :: after ∧ w.BringsCar json item.1 item.2 ∧
    ∀ earlier ∈ before, earlier.1 = item.1 →
      w.dcall.createDAudioDevice json earlier.1 earlier.2 = none

end AudioManagers

namespace AudioOperation

variable (json : JsonLibrary)

/-- What an operation that is started in `p.2`, with no lock held, does with the locks. -/
def lockEvents (p : AudioOperation × AudioManagers) : List (LockEvent AudioMutex) :=
  ((p.1.code json).run p.2).events

/-- The lock discipline, for operations started in certain states. -/
structure LockDiscipline (runs : Set (AudioOperation × AudioManagers)) : Prop where
  /-- No operation acquires a lock it already holds. -/
  neverAgain : ∀ p ∈ runs, Orderly (· ≠ ·) [] (lockEvents json p)
  /-- Each ends with all locks free. -/
  allFree : ∀ p ∈ runs, after [] (lockEvents json p) = []
  /-- The nested acquisitions of all of them respect one order. -/
  oneOrder : ∃ r, IsStrictOrder AudioMutex r ∧ ∀ p ∈ runs, Orderly r [] (lockEvents json p)
  /-- Any number of them at the same time never wait for each other in a circle. -/
  noCircle : ∀ n (threads : Fin n → AudioOperation × AudioManagers), (∀ i, threads i ∈ runs) →
    ∀ c, Reaches (fun i => lockEvents json (threads i)) c → ∀ i,
      ¬ Relation.TransGen (Waits c) i i

/-- Started in `w`, the operation comes to ask whether a distributed device is online behind
    `onlineDeviceMtx_` or `infoMutex_`. -/
def AsksBehindLock (w : AudioManagers) : AudioOperation → Prop
  | .processEvent event =>
    event = .wiredHeadsetDisconnected ∧ w.isAudioActivated = true ∧ w.ListsCar
  | .checkAndSwitchDistributedAudioDevice => w.ListsCar
  | .removeAudioDeviceList _ _ => w.ReroutesPastCar
  | .addDCallDevice devId devInfo | .onDCallDeviceOnline devId devInfo =>
    w.BringsCar json devId devInfo
  | .removeDCallDevice devId | .onDCallDeviceOffline devId =>
    w.dcall.onlineDCallDevices.Mem devId ∧ w.ReroutesPastCar
  | .onDCallSystemAbilityAdded devices =>
    ∃ dcallDevices, devices = some dcallDevices ∧
      { w with dcall := { w.dcall with dcallProxy := true } }.BringsCarAmong json dcallDevices
  | _ => False

end AudioOperation

/-! ## The order -/

/-- The place of a mutex in the order. -/
def AudioMutex.rank : AudioMutex → ℕ
  | .controlMutex => 0
  | .onlineDeviceMtx => 1
  | .infoMutex => 2
  | .audioModeMutex => 3
  | .deviceMutex => 4
  | .connectedDevMtx => 5
  | .dcallProxyMtx => 6

/-- The order of the mutexes. -/
def lockOrder (h l : AudioMutex) : Prop := h.rank < l.rank

instance : DecidableRel lockOrder := fun h l => inferInstanceAs (Decidable (h.rank < l.rank))

instance : IsStrictOrder AudioMutex lockOrder where
  irrefl _ h := Nat.lt_irrefl _ h
  trans _ _ _ h h' := Nat.lt_trans h h'

/-- The locks that are held come before `l`. -/
def Below (l : AudioMutex) (held : List AudioMutex) : Prop := ∀ h ∈ held, lockOrder h l

theorem Below.mono {l m : AudioMutex} {held : List AudioMutex} (h : Below l held)
    (hlm : l.rank ≤ m.rank) : Below m held := fun a ha => Nat.lt_of_lt_of_le (h a ha) hlm

theorem Below.cons {l m : AudioMutex} {held : List AudioMutex} (h : Below l held)
    (hlm : lockOrder l m) : Below m (l :: held) := by
  intro a ha
  rcases List.mem_cons.mp ha with rfl | ha
  · exact hlm
  · exact trans_of lockOrder (h a ha) hlm

namespace AudioCode

/-! ## Functions without locks -/

section Free

variable {r : AudioMutex → AudioMutex → Prop} {held : List AudioMutex}

theorem keeps_ask : Keeps r held ask :=
  keeps_get.bind fun _ => (keeps_modify _).bind fun _ => keeps_pure _

theorem keeps_updateDCall (f : DCallWorld → DCallWorld) : Keeps r held (updateDCall f) :=
  keeps_modify _

theorem keeps_isBtActived : Keeps r held isBtActived := keeps_ask.bind fun _ => keeps_pure _

theorem keeps_isPreferred (deviceType : AudioDeviceType) :
    Keeps r held (isPreferred deviceType) := by
  refine keeps_ask.bind fun platform => ?_
  split <;> exact keeps_pure _

theorem keeps_isRemoteDevicesConnected : Keeps r held isRemoteDevicesConnected :=
  keeps_get.bind fun _ => keeps_isBtActived.bind fun _ =>
    (keeps_isPreferred _).bind fun _ => keeps_pure _

theorem keeps_getInitAudioDeviceTypeOfRemote :
    Keeps r held getInitAudioDeviceTypeOfRemote := by
  refine keeps_get.bind fun w => keeps_ite (fun _ => keeps_pure _) fun _ => ?_
  refine (keeps_isPreferred _).bind fun nearlink => keeps_ite (fun _ => keeps_pure _) fun _ => ?_
  refine keeps_isBtActived.bind fun bt => keeps_ite (fun _ => keeps_pure _) fun _ => ?_
  refine keeps_ite (fun _ => keeps_pure _) fun _ => ?_
  exact (keeps_isPreferred _).bind fun hearingAid =>
    keeps_ite (fun _ => keeps_pure _) fun _ => keeps_pure _

theorem keeps_getInitAudioDeviceType (callObjectPtr : Option Ref) :
    Keeps r held (getInitAudioDeviceType callObjectPtr) := by
  refine keeps_get.bind fun w => keeps_ite (fun _ => keeps_pure _) fun _ => ?_
  refine keeps_ite (fun _ => keeps_ask.bind fun _ => keeps_pure _) fun _ => ?_
  refine keeps_getInitAudioDeviceTypeOfRemote.bind fun deviceType => ?_
  refine keeps_ite (fun _ => keeps_pure _) fun _ => keeps_ite (fun _ => keeps_pure _) fun _ => ?_
  exact keeps_ite (fun _ => keeps_pure _) fun _ => keeps_pure _

theorem keeps_handleWirelessAudioDevice (device : AudioDevice) :
    Keeps r held (handleWirelessAudioDevice device) := by
  have hrest : ∀ found : Bool, Keeps r held (if found then do
      let platform ← ask
      pure platform.selectOutputDevice
      else pure false) := fun _ =>
    keeps_ite (fun _ => keeps_ask.bind fun _ => keeps_pure _) fun _ => keeps_pure _
  unfold handleWirelessAudioDevice
  split_ifs
  · exact (keeps_pure _).bind hrest
  · exact keeps_isBtActived.bind hrest
  · exact (keeps_isPreferred _).bind hrest

theorem keeps_playSoundtone : Keeps r held playSoundtone :=
  keeps_get.bind fun _ => keeps_ask.bind fun _ => keeps_ite (fun _ => keeps_pure _) fun _ =>
    keeps_ite (fun _ => keeps_pure _) fun _ => (keeps_modify _).bind fun _ => keeps_pure _

theorem keeps_stopSoundtone : Keeps r held stopSoundtone :=
  keeps_get.bind fun _ => keeps_runIf fun _ => keeps_modify _

theorem keeps_stopVibrator : Keeps r held stopVibrator := keeps_modify _

theorem keeps_updateProcessor (f : CallStateProcessor → CallStateProcessor) :
    Keeps r held (updateProcessor f) := keeps_modify _

theorem keeps_muteRinger : Keeps r held muteRinger := by
  refine (keeps_modify _).bind fun _ => keeps_get.bind fun w => ?_
  split
  · exact keeps_pure _
  · exact keeps_runIf fun _ => keeps_modify _

theorem keeps_adjustDeviceForCrs (deviceType : AudioDeviceType) :
    Keeps r held (adjustDeviceForCrs deviceType) :=
  keeps_ask.bind fun _ => keeps_ite (fun _ => keeps_pure _) fun _ =>
    (keeps_getInitAudioDeviceType none).bind fun _ => keeps_pure _

theorem keeps_handleNextState (call : Ref) (nextState : TelCallState) :
    Keeps r held (handleNextState call nextState) := by
  refine keeps_get.bind fun w => (keeps_updateProcessor _).bind fun _ => ?_
  cases nextState with
  | dialing | alerting | waiting | incoming | active | answered => exact keeps_modify _
  | disconnecting | disconnected =>
    exact (keeps_runIf fun _ => keeps_stopVibrator).bind fun _ => keeps_modify _
  | unknown | holding | idle => exact keeps_pure _

end Free

/-! ## Functions that keep to the order -/

section Ordered

variable {json : JsonLibrary} {held : List AudioMutex}

/-- A scope of a mutex that comes after all that are held. -/
theorem keeps_scope {α : Type} {l : AudioMutex} {p : AudioCode α} (hheld : Below l held)
    (hp : Keeps lockOrder (l :: held) p) : Keeps lockOrder held (lockGuard l p) :=
  hp.lockGuard hheld

theorem keeps_reading {α : Type} {l : AudioMutex} (hheld : Below l held)
    (f : AudioManagers → α) : Keeps lockOrder held (reading l f) :=
  keeps_scope hheld (keeps_get.bind fun _ => keeps_pure _)

theorem keeps_clearConnectedDCallDevice (hheld : Below .connectedDevMtx held) :
    Keeps lockOrder held clearConnectedDCallDevice := keeps_scope hheld (keeps_updateDCall _)

theorem keeps_setConnectedDCallDevice (hheld : Below .connectedDevMtx held)
    (device : AudioDevice) :
    Keeps lockOrder held (setConnectedDCallDevice device) :=
  keeps_scope hheld (keeps_updateDCall _)

theorem keeps_dealDisconnectCall (hheld : Below .connectedDevMtx held) :
    Keeps lockOrder held dealDisconnectCall :=
  (keeps_updateDCall _).bind fun _ => keeps_clearConnectedDCallDevice hheld

/-- A request to the distributed call service, under its mutex. -/
theorem keeps_request {α : Type} (hheld : Below .dcallProxyMtx held) (c : AudioManagers → Prop)
    [DecidablePred c] (a : α) (f : PlatformAnswers → α) :
    Keeps lockOrder held (lockGuard .dcallProxyMtx do
      let w ← get
      if c w then pure a
      else
        let platform ← ask
        pure (f platform)) :=
  keeps_scope hheld (keeps_get.bind fun _ => keeps_ite (fun _ => keeps_pure _) fun _ =>
    keeps_ask.bind fun _ => keeps_pure _)

theorem keeps_isSelectVirtualModem (hheld : Below .onlineDeviceMtx held) :
    Keeps lockOrder held isSelectVirtualModem := by
  refine (keeps_reading hheld _).bind fun online => keeps_ite (fun _ => keeps_pure _) fun _ => ?_
  exact keeps_request (hheld.mono (by decide)) _ _ _

theorem keeps_switchOffDCallDeviceSync (hheld : Below .connectedDevMtx held) :
    Keeps lockOrder held (switchOffDCallDeviceSync json) := by
  refine keeps_get.bind fun w => keeps_ite (fun _ => keeps_pure _) fun _ => ?_
  refine (keeps_reading hheld _).bind fun devId => keeps_ite (fun _ => keeps_pure _) fun _ => ?_
  refine (keeps_request (hheld.mono (by decide)) _ _ _).bind fun switched => ?_
  refine keeps_ite (fun _ => ?_) fun _ => keeps_pure _
  exact (keeps_updateDCall _).bind fun _ => keeps_clearConnectedDCallDevice hheld

theorem keeps_reportAudioDeviceChange (hheld : Below .connectedDevMtx held)
    (device : AudioDevice) :
    Keeps lockOrder held (reportAudioDeviceChange device) := by
  refine keeps_get.bind fun w => (keeps_runIf fun _ => ?_).bind fun _ => ?_
  · exact (keeps_getInitAudioDeviceType none).bind fun _ => keeps_modify _
  · refine keeps_get.bind fun w => keeps_ite (fun _ => keeps_pure _) fun _ => ?_
    refine keeps_ite (fun _ => keeps_pure _) fun _ => keeps_runIf fun _ => ?_
    exact (keeps_reading hheld _).discard

theorem keeps_leaveDistributed (hheld : Below .connectedDevMtx held)
    (deviceType : AudioDeviceType) :
    Keeps lockOrder held (leaveDistributed json deviceType) :=
  keeps_get.bind fun _ => keeps_runIf fun _ => keeps_switchOffDCallDeviceSync hheld

theorem keeps_setCurrentAudioDevice (hheld : Below .connectedDevMtx held) (device : AudioDevice) :
    Keeps lockOrder held (setCurrentAudioDevice json device) :=
  (keeps_leaveDistributed hheld _).bind fun _ => (keeps_modify _).bind fun _ =>
    keeps_reportAudioDeviceChange hheld device

theorem keeps_setCurrentAudioDeviceType (hheld : Below .connectedDevMtx held)
    (deviceType : AudioDeviceType) :
    Keeps lockOrder held (setCurrentAudioDeviceType json deviceType) := by
  refine (keeps_leaveDistributed hheld _).bind fun _ => keeps_get.bind fun w => ?_
  exact keeps_ite (fun _ => keeps_modify _) fun _ => keeps_setCurrentAudioDevice hheld _

theorem keeps_enable (hheld : Below .connectedDevMtx held)
    (deviceType : AudioDeviceType) (enabled : Bool) :
    Keeps lockOrder held (enable json deviceType enabled) := by
  refine keeps_ite (fun _ => ?_) fun _ => keeps_pure _
  exact (keeps_setCurrentAudioDeviceType hheld _).bind fun _ => keeps_pure _

theorem keeps_switchDevice (hheld : Below .deviceMutex held) (device : AudioDeviceType) :
    Keeps lockOrder held (switchDevice json device) := by
  have hin : Below .connectedDevMtx (.deviceMutex :: held) := hheld.cons (by decide)
  refine keeps_scope hheld (keeps_get.bind fun w => ?_)
  cases device with
  | earpiece | speaker | wiredHeadset =>
    exact keeps_ask.bind fun _ => keeps_enable hin _ _
  | bluetoothSco => exact keeps_isBtActived.bind fun _ => keeps_enable hin _ _
  | nearlink | bluetoothHearingAid => exact (keeps_isPreferred _).bind fun _ => keeps_enable hin _ _
  | disable => exact (keeps_modify _).bind fun _ => keeps_pure _
  | unknown | distributedAutomotive | distributedPhone | distributedPad | distributedPc =>
    exact keeps_pure _

theorem keeps_initAudioDevice (hheld : Below .deviceMutex held) :
    Keeps lockOrder held (initAudioDevice json) :=
  (keeps_getInitAudioDeviceType none).bind fun _ => keeps_switchDevice hheld _

theorem keeps_switchOnDCallDeviceSync (hheld : Below .connectedDevMtx held)
    (device : AudioDevice) :
    Keeps lockOrder held (switchOnDCallDeviceSync json device) := by
  refine keeps_get.bind fun w => keeps_ite (fun _ => keeps_pure _) fun _ => ?_
  refine keeps_ite (fun _ => keeps_pure _) fun _ => keeps_ite (fun _ => keeps_pure _) fun _ => ?_
  refine (keeps_request (hheld.mono (by decide)) _ _ _).bind fun switched => ?_
  refine keeps_ite (fun _ => ?_) fun _ => keeps_pure _
  refine (keeps_updateDCall _).bind fun _ =>
    (keeps_setConnectedDCallDevice hheld _).bind fun _ => ?_
  exact (keeps_setCurrentAudioDeviceType hheld _).bind fun _ => keeps_pure _

theorem keeps_switchAudioDevice (hheld : Below .deviceMutex held)
    (audioDeviceType : AudioDeviceType) :
    Keeps lockOrder held (switchAudioDevice json audioDeviceType) := by
  refine keeps_get.bind fun w => (keeps_runIf fun _ => ?_).bind fun _ => keeps_switchDevice hheld _
  exact keeps_switchOffDCallDeviceSync (hheld.mono (by decide))

theorem keeps_handleDistributeAudioDevice (hheld : Below .connectedDevMtx held)
    (device : AudioDevice) :
    Keeps lockOrder held (handleDistributeAudioDevice json device) := by
  refine keeps_get.bind fun w => keeps_ite (fun _ => ?_) fun _ => ?_
  · exact keeps_ask.bind fun _ => keeps_pure _
  · exact keeps_ite (fun _ => keeps_pure _) fun _ => keeps_switchOnDCallDeviceSync hheld device

theorem keeps_setAudioDevice (hheld : Below .deviceMutex held) (device : AudioDevice)
    (isByUser : Bool) :
    Keeps lockOrder held (setAudioDevice json device isByUser) := by
  refine keeps_get.bind fun w => keeps_ite (fun _ => keeps_pure _) fun _ => ?_
  refine keeps_ite (fun _ => keeps_pure _) fun _ => (keeps_modify _).bind fun _ => ?_
  have hswitch : Keeps lockOrder held (switchAudioDevice json device.deviceType) :=
    keeps_switchAudioDevice hheld device.deviceType
  cases hdevice : device.deviceType with
  | speaker | earpiece | wiredHeadset => rw [hdevice] at hswitch; exact hswitch
  | distributedAutomotive | distributedPhone | distributedPad | distributedPc =>
    exact keeps_handleDistributeAudioDevice (hheld.mono (by decide)) device
  | bluetoothSco | nearlink | bluetoothHearingAid =>
    rw [hdevice] at hswitch
    exact (keeps_handleWirelessAudioDevice device).bind fun _ =>
      keeps_ite (fun _ => hswitch) fun _ => keeps_pure _
  | disable | unknown => exact keeps_pure _

theorem keeps_setAudioDeviceByAudioMode (hheld : Below .audioModeMutex held)
    (isVoipCall isIncomingCall : Bool) :
    Keeps lockOrder held (setAudioDeviceByAudioMode json isVoipCall isIncomingCall) := by
  refine keeps_ite (fun _ => keeps_pure _) fun _ => keeps_scope hheld (keeps_get.bind fun w => ?_)
  refine keeps_ite (fun _ => keeps_pure _) fun _ => keeps_ite (fun _ => ?_) fun _ => keeps_pure _
  exact keeps_isRemoteDevicesConnected.bind fun _ => keeps_runIf fun _ =>
    (keeps_setAudioDevice (hheld.cons (by decide)) _ _).discard

theorem keeps_setSpeakerDeactive (hheld : Below .audioModeMutex held) :
    Keeps lockOrder held setSpeakerDeactive :=
  keeps_scope hheld (keeps_get.bind fun _ => keeps_runIf fun _ => keeps_ask.discard)

theorem keeps_updateDeviceForForegroundCall (hheld : Below .onlineDeviceMtx held)
    (foregroundCall : Ref) :
    Keeps lockOrder held (updateDeviceForForegroundCall json foregroundCall) := by
  have hset : ∀ device, Keeps lockOrder held (setAudioDevice json device false) := fun device =>
    keeps_setAudioDevice (hheld.mono (by decide)) device false
  refine (keeps_getInitAudioDeviceType _).bind fun _ => keeps_get.bind fun w => ?_
  refine keeps_ite (fun _ => (hset _).discard) fun _ => ?_
  refine keeps_ite (fun _ => keeps_pure _) fun _ => keeps_ite (fun _ => keeps_pure _) fun _ => ?_
  refine (keeps_reading hheld _).bind fun _ => ?_
  refine keeps_ite (fun _ => keeps_pure _) fun _ => keeps_ite (fun _ => keeps_pure _) fun _ => ?_
  refine (keeps_reading (hheld.mono (by decide)) _).bind fun _ =>
    keeps_ite (fun _ => ?_) fun _ => ?_
  · exact keeps_setAudioDeviceByAudioMode (hheld.mono (by decide)) _ _
  · exact keeps_runIf fun _ => (hset _).discard

theorem keeps_updateDeviceType (hheld : Below .onlineDeviceMtx held) (callObjectPtr : Option Ref) :
    Keeps lockOrder held (updateDeviceType json callObjectPtr) := by
  refine keeps_get.bind fun w => ?_
  split
  · exact keeps_pure _
  · refine keeps_ite (fun _ => keeps_pure _) fun _ => (keeps_runIf fun _ => ?_).bind fun _ => ?_
    · exact keeps_setSpeakerDeactive (hheld.mono (by decide))
    · exact keeps_updateDeviceForForegroundCall hheld _

end Ordered

/-! ## Functions that come to ask behind a lock -/

section Asking

variable {json : JsonLibrary} {r : AudioMutex → AudioMutex → Prop} {held : List AudioMutex}
  {w : AudioManagers} {devId : ByteString} {devInfo : Option DCallDeviceInfo}

/-! ### The routing -/

/-- What the questions to the platform leave as it is: everything but their number. -/
def unasked (w : AudioManagers) : AudioManagers := { w with asked := 0 }

/-- The calls, and whether their audio is on a sink. -/
def callsOf (w : AudioManagers) : CallStore × (Ref → CallAudio) × Bool :=
  (w.store, w.callAudio, w.isAudioOnSink)

/-- A program that only asks leaves what does not depend on the number of questions. -/
theorem preserves_of_unasked {α τ : Type} {g : AudioManagers → τ} {p : AudioCode α}
    (hasks : ∀ w, g (unasked w) = g w) (hp : Preserves unasked p) : Preserves g p :=
  hp.of_determined fun w w' h => (hasks w).symm.trans ((congrArg g h).trans (hasks w'))

theorem preserves_callsOf {α : Type} {p : AudioCode α} (hp : Preserves unasked p) :
    Preserves callsOf p := preserves_of_unasked (fun _ => rfl) hp

theorem preserves_ask : Preserves unasked ask := fun _ => rfl

theorem preserves_isPreferred (deviceType : AudioDeviceType) :
    Preserves unasked (isPreferred deviceType) := by
  refine preserves_ask.bind fun platform => ?_
  split <;> exact preserves_pure _

theorem preserves_isBtActived : Preserves unasked isBtActived :=
  preserves_ask.bind fun _ => preserves_pure _

theorem preserves_getInitAudioDeviceTypeOfRemote :
    Preserves unasked getInitAudioDeviceTypeOfRemote := by
  refine preserves_get.bind fun w => preserves_ite (fun _ => preserves_pure _) fun _ => ?_
  refine (preserves_isPreferred _).bind fun nearlink =>
    preserves_ite (fun _ => preserves_pure _) fun _ => ?_
  refine preserves_isBtActived.bind fun bt => preserves_ite (fun _ => preserves_pure _) fun _ => ?_
  refine preserves_ite (fun _ => preserves_pure _) fun _ => ?_
  exact (preserves_isPreferred _).bind fun hearingAid =>
    preserves_ite (fun _ => preserves_pure _) fun _ => preserves_pure _

theorem preserves_getInitAudioDeviceType (callObjectPtr : Option Ref) :
    Preserves unasked (getInitAudioDeviceType callObjectPtr) := by
  refine preserves_get.bind fun w => preserves_ite (fun _ => preserves_pure _) fun _ => ?_
  refine preserves_ite (fun _ => preserves_ask.bind fun _ => preserves_pure _) fun _ => ?_
  refine preserves_getInitAudioDeviceTypeOfRemote.bind fun deviceType => ?_
  refine preserves_ite (fun _ => preserves_pure _) fun _ =>
    preserves_ite (fun _ => preserves_pure _) fun _ => ?_
  exact preserves_ite (fun _ => preserves_pure _) fun _ => preserves_pure _

theorem preserves_setSpeakerDeactive : Preserves unasked setSpeakerDeactive :=
  (preserves_get.bind fun _ => preserves_runIf fun _ => preserves_ask.discard).lockGuard

theorem checksCar_congr {w w' : AudioManagers} (h : callsOf w' = callsOf w) (call : Ref) :
    w'.ChecksCar call ↔ w.ChecksCar call := by
  obtain ⟨hstore, haudio, hsink⟩ : w'.store = w.store ∧ w'.callAudio = w.callAudio ∧
      w'.isAudioOnSink = w.isAudioOnSink := by simpa [callsOf] using h
  simp only [AudioManagers.ChecksCar, AudioManagers.call, hstore, haudio, hsink]

/-- If the routing of the call comes to ask, it asks with the locks it was started with. -/
theorem asks_of_checksCar {foregroundCall : Ref} (hchecks : w.ChecksCar foregroundCall)
    (h : Orderly r held ((updateDeviceForForegroundCall json foregroundCall).run w).events) :
    ∀ l ∈ held, r l .onlineDeviceMtx := by
  unfold updateDeviceForForegroundCall at h
  replace h := ((orderly_bind _ _ _).mp h).2
  rw [orderly_get_bind] at h
  have hsame := preserves_callsOf (preserves_getInitAudioDeviceType (some foregroundCall)) w
  generalize ((getInitAudioDeviceType (some foregroundCall)).run w).data = w' at h hsame
  obtain ⟨hvoice, hsink, hphone⟩ := (checksCar_congr hsame foregroundCall).mpr hchecks
  rw [if_neg (not_or.mpr hvoice), if_neg (by simp [hsink]), if_neg (by simp [hphone])] at h
  exact ((orderly_lockGuard _ _).mp ((orderly_bind _ _ _).mp h).1).1

/-- If it does not come to ask, it keeps to the order behind `infoMutex_` too. -/
theorem orderly_of_not_checksCar {foregroundCall : Ref} (hchecks : ¬ w.ChecksCar foregroundCall)
    (hheld : Below .audioModeMutex held) :
    Orderly lockOrder held ((updateDeviceForForegroundCall json foregroundCall).run w).events := by
  unfold updateDeviceForForegroundCall
  rw [orderly_bind]
  refine ⟨keeps_getInitAudioDeviceType _ _, ?_⟩
  rw [orderly_get_bind]
  have hsame := preserves_callsOf (preserves_getInitAudioDeviceType (some foregroundCall)) w
  generalize ((getInitAudioDeviceType (some foregroundCall)).run w).data = w' at hsame
  rw [← checksCar_congr hsame] at hchecks
  by_cases hvideo : (w'.call foregroundCall).videoState = .video ∨
      (w'.call foregroundCall).callType = .satellite
  · rw [if_pos hvideo]
    exact (keeps_setAudioDevice (hheld.mono (by decide)) _ _).discard _
  rw [if_neg hvideo]
  by_cases hsink : w'.isAudioOnSink = true
  · rw [if_pos hsink]
    trivial
  rw [if_neg hsink]
  by_cases hphone : (w'.callAudio foregroundCall).isAnsweredByPhone = false
  · rw [if_pos hphone]
    trivial
  · exact absurd ⟨not_or.mp hvideo, by simpa using hsink, by simpa using hphone⟩ hchecks

theorem orderly_updateDeviceType (hchecks : ¬ w.RoutingChecksCar)
    (hheld : Below .audioModeMutex held) :
    Orderly lockOrder held ((updateDeviceType json none).run w).events := by
  unfold updateDeviceType
  rw [orderly_get_bind, Option.none_or]
  cases hcall : w.ofStore (StoreCode.getForegroundCall true) with
  | none => trivial
  | some foregroundCall =>
    dsimp only
    by_cases htype : (w.call foregroundCall).callType ≠ .ims ∧
        (w.call foregroundCall).callType ≠ .satellite ∧
        (w.call foregroundCall).callType ≠ .bluetooth
    · rw [if_pos htype]
      trivial
    rw [if_neg htype, orderly_bind]
    refine ⟨keeps_runIf (fun _ => keeps_setSpeakerDeactive hheld) _, ?_⟩
    refine orderly_of_not_checksCar (fun h => ?_) hheld
    rw [checksCar_congr
      (preserves_callsOf (preserves_runIf fun _ => preserves_setSpeakerDeactive) w)] at h
    refine hchecks ⟨foregroundCall, hcall, ?_, h⟩
    have hsatellite := h.1.2
    tauto

theorem asks_of_routingChecksCar (hchecks : w.RoutingChecksCar)
    (h : Orderly r held ((updateDeviceType json none).run w).events) :
    ∀ l ∈ held, r l .onlineDeviceMtx := by
  obtain ⟨foregroundCall, hcall, htype, hasks⟩ := hchecks
  unfold updateDeviceType at h
  rw [orderly_get_bind, Option.none_or, hcall] at h
  dsimp only at h
  rw [if_neg (by tauto), orderly_bind] at h
  refine asks_of_checksCar ((checksCar_congr ?_ _).mpr hasks) h.2
  exact preserves_callsOf (preserves_runIf fun _ => preserves_setSpeakerDeactive) w

/-- What `RemoveAudioDeviceList` does with the call comes after what it does with the list,
    and does not depend on it. -/
theorem reroutesPastCar_congr {w w' : AudioManagers} (h : callsOf w' = callsOf w) :
    w'.ReroutesPastCar ↔ w.ReroutesPastCar := by
  obtain ⟨hstore, haudio, hsink⟩ : w'.store = w.store ∧ w'.callAudio = w.callAudio ∧
      w'.isAudioOnSink = w.isAudioOnSink := by simpa [callsOf] using h
  simp only [AudioManagers.ReroutesPastCar, AudioManagers.RoutingChecksCar, AudioManagers.ChecksCar,
    AudioManagers.call, AudioManagers.ofStore, hstore, haudio, hsink]

theorem orderly_removeAudioDeviceList (hreroutes : ¬ w.ReroutesPastCar)
    (hheld : Below .infoMutex held) (address : ByteString) (deviceType : AudioDeviceType) :
    Orderly lockOrder held ((removeAudioDeviceList json address deviceType).run w).events := by
  unfold removeAudioDeviceList
  rw [orderly_lockGuard, orderly_bind, orderly_bind]
  refine ⟨hheld, keeps_ask _, keeps_updateDCall _ _, ?_⟩
  generalize hw' : ((updateAudioDevices _).run _).data = w'
  have hsame : callsOf w' = callsOf w := by
    rw [← hw']
    rfl
  rw [orderly_get_bind]
  rw [← reroutesPastCar_congr hsame] at hreroutes
  cases hlive : w'.ofStore StoreCode.getAudioLiveCall with
  | none => trivial
  | some liveCall =>
    dsimp only
    by_cases hvideo : (w'.call liveCall).videoState = .video ∨
        (w'.call liveCall).callType = .satellite
    · rw [runIf, if_pos hvideo]
      exact orderly_updateDeviceType (fun h => hreroutes ⟨⟨liveCall, hlive, hvideo⟩, h⟩)
        (hheld.cons (by decide))
    · rw [runIf, if_neg hvideo]
      trivial

theorem asks_of_reroutesPastCar {address : ByteString} {deviceType : AudioDeviceType}
    (hreroutes : w.ReroutesPastCar)
    (h : Orderly r held ((removeAudioDeviceList json address deviceType).run w).events) :
    ∀ l ∈ AudioMutex.infoMutex :: held, r l .onlineDeviceMtx := by
  unfold removeAudioDeviceList at h
  rw [orderly_lockGuard, orderly_bind, orderly_bind] at h
  replace h := h.2.2.2
  generalize hw' : ((updateAudioDevices _).run _).data = w' at h
  rw [orderly_get_bind] at h
  have hsame : callsOf w' = callsOf w := by
    rw [← hw']
    rfl
  obtain ⟨⟨liveCall, hlive, hvideo⟩, hchecks⟩ := (reroutesPastCar_congr hsame).mpr hreroutes
  rw [hlive] at h
  dsimp only at h
  rw [runIf, if_pos hvideo] at h
  exact asks_of_routingChecksCar hchecks h

/-! ### The cars of the list -/

theorem asks_of_isDistributedPreferred
    (h : Orderly r held (isDistributedPreferredOutputAudioDevice.run w).events) :
    ∀ l ∈ held, r l .onlineDeviceMtx := by
  have hselect := ((orderly_bind _ _ _).mp h).1
  exact ((orderly_lockGuard _ _).mp ((orderly_bind _ _ _).mp hselect).1).1

theorem asks_of_switchToCar {list : List AudioDevice}
    (hcar : ∃ it ∈ list, it.deviceType = .distributedAutomotive)
    (h : Orderly r held ((switchToCar list).run w).events) :
    ∀ l ∈ held, r l .onlineDeviceMtx := by
  induction list with
  | nil => simp at hcar
  | cons it list ih =>
    rw [switchToCar] at h
    by_cases hit : it.deviceType = .distributedAutomotive
    · rw [if_pos hit, orderly_bind] at h
      exact asks_of_isDistributedPreferred h.1
    · rw [if_neg hit] at h
      refine ih ?_ h
      simpa [hit] using hcar

theorem keeps_switchToCar {list : List AudioDevice}
    (hcar : ¬ ∃ it ∈ list, it.deviceType = .distributedAutomotive) :
    Keeps r held (switchToCar list) := by
  induction list with
  | nil => exact keeps_pure _
  | cons it list ih =>
    have hit : it.deviceType ≠ .distributedAutomotive := fun h => hcar ⟨it, .head _, h⟩
    rw [switchToCar, if_neg hit]
    exact ih fun ⟨it, hmem, h⟩ => hcar ⟨it, .tail _ hmem, h⟩

theorem orderly_checkAndSwitch (hcar : ¬ w.ListsCar) (hheld : Below .infoMutex held) :
    Orderly lockOrder held (checkAndSwitchDistributedAudioDevice.run w).events := by
  unfold checkAndSwitchDistributedAudioDevice
  rw [orderly_lockGuard, setCallState, updateDCall, orderly_modify_bind, orderly_get_bind]
  exact ⟨hheld, keeps_switchToCar hcar _⟩

theorem asks_of_listsCar (hcar : w.ListsCar)
    (h : Orderly r held (checkAndSwitchDistributedAudioDevice.run w).events) :
    ∀ l ∈ AudioMutex.infoMutex :: held, r l .onlineDeviceMtx := by
  unfold checkAndSwitchDistributedAudioDevice at h
  rw [orderly_lockGuard, setCallState, updateDCall, orderly_modify_bind, orderly_get_bind] at h
  exact asks_of_switchToCar hcar h.2

/-! ### A device that comes -/

theorem keeps_addAudioDeviceList (hheld : Below .infoMutex held) (address : ByteString)
    (deviceType : AudioDeviceType) (deviceName : ByteString) :
    Keeps lockOrder held (addAudioDeviceList address deviceType deviceName) :=
  keeps_scope hheld (keeps_updateDCall _)

theorem value_createDAudioDevice :
    ((createDAudioDevice json devId devInfo).run w).value =
      w.dcall.createDAudioDevice json devId devInfo := by
  unfold createDAudioDevice
  by_cases hlen : devId.length = 0
  · rw [if_pos hlen]
    exact (if_pos hlen).symm
  · rw [if_neg hlen]
    rfl

theorem data_createDAudioDevice : ((createDAudioDevice json devId devInfo).run w).data = w := by
  unfold createDAudioDevice
  split_ifs <;> rfl

theorem keeps_createDAudioDevice (hheld : Below .dcallProxyMtx held) :
    Keeps lockOrder held (createDAudioDevice json devId devInfo) :=
  keeps_ite (fun _ => keeps_pure _) fun _ => keeps_reading hheld _

/-- What `AddDCallDevice` does for a device that it makes. -/
theorem orderly_addDCallDevice (hcar : ¬ w.BringsCar json devId devInfo)
    (hheld : Below .onlineDeviceMtx held) :
    Orderly lockOrder held ((addDCallDevice json devId devInfo).run w).events := by
  unfold addDCallDevice
  rw [orderly_lockGuard, orderly_get_bind]
  refine ⟨hheld, ?_⟩
  by_cases hmem : w.dcall.onlineDCallDevices.Mem devId
  · rw [if_pos hmem]
    trivial
  rw [if_neg hmem, orderly_bind, value_createDAudioDevice, data_createDAudioDevice]
  refine ⟨keeps_createDAudioDevice (hheld.cons (by decide)) _, ?_⟩
  cases hdevice : w.dcall.createDAudioDevice json devId devInfo with
  | none => trivial
  | some device =>
    dsimp only
    rw [orderly_bind, orderly_bind, if_neg]
    · exact ⟨keeps_addAudioDeviceList (hheld.cons (by decide)) _ _ _ _, keeps_updateDCall _ _,
        trivial⟩
    · exact fun h => hcar ⟨hmem, device, hdevice, h⟩

theorem asks_of_bringsCar (hcar : w.BringsCar json devId devInfo)
    (h : Orderly r held ((addDCallDevice json devId devInfo).run w).events) :
    ∀ l ∈ AudioMutex.onlineDeviceMtx :: held, r l .onlineDeviceMtx := by
  obtain ⟨hmem, device, hdevice, hactive⟩ := hcar
  unfold addDCallDevice at h
  rw [orderly_lockGuard, orderly_get_bind, if_neg hmem, orderly_bind, value_createDAudioDevice,
    hdevice] at h
  replace h := h.2.2
  dsimp only at h
  rw [orderly_bind, orderly_bind, if_pos hactive, orderly_bind] at h
  exact asks_of_isDistributedPreferred h.2.2.1

/-- The devices that are online, and what else `AddDCallDevice` reads. -/
def onlineOf (w : AudioManagers) : OrderedMap OnlineDevice.devId × Bool × Bool × Bool :=
  (w.dcall.onlineDCallDevices, w.dcall.dcallProxy, w.dcall.dCallDeviceSwitchedOn,
    w.dcall.isCallActived)

theorem preserves_isSelectVirtualModem : Preserves onlineOf isSelectVirtualModem := by
  refine Preserves.bind (fun _ => rfl) fun online =>
    preserves_ite (fun _ => preserves_pure _) fun _ => Preserves.lockGuard ?_
  exact preserves_get.bind fun _ => preserves_ite (fun _ => preserves_pure _) fun _ => fun _ => rfl

theorem preserves_switchOnDCallDeviceAsync (device : AudioDevice) :
    Preserves onlineOf (switchOnDCallDeviceAsync device) := by
  intro w
  change onlineOf { w with dcall := w.dcall.switchOnDCallDeviceAsync device w.isCeliaCall } = _
  unfold DCallWorld.switchOnDCallDeviceAsync
  split_ifs <;> rfl

/-- `AddDCallDevice` leaves the device online that it makes, and changes nothing else that it
    reads. -/
theorem onlineOf_addDCallDevice (json : JsonLibrary) (w : AudioManagers) (devId : ByteString)
    (devInfo : Option DCallDeviceInfo) :
    onlineOf ((addDCallDevice json devId devInfo).run w).data =
      (match w.dcall.createDAudioDevice json devId devInfo with
        | none => w.dcall.onlineDCallDevices
        | some device => w.dcall.onlineDCallDevices.insert ⟨devId, device⟩,
        (onlineOf w).2) := by
  unfold addDCallDevice
  rw [data_lockGuard, data_bind, run_get]
  by_cases hmem : w.dcall.onlineDCallDevices.Mem devId
  · rw [if_pos hmem]
    cases w.dcall.createDAudioDevice json devId devInfo with
    | none => rfl
    | some device =>
      have hinsert : w.dcall.onlineDCallDevices.insert ⟨devId, device⟩ =
          w.dcall.onlineDCallDevices := dif_pos hmem
      dsimp only
      rw [hinsert]
      rfl
  rw [if_neg hmem, data_bind, value_createDAudioDevice, data_createDAudioDevice]
  cases w.dcall.createDAudioDevice json devId devInfo with
  | none => rfl
  | some device =>
    dsimp only
    rw [data_bind, data_bind]
    refine (preserves_ite (fun _ => ?_) (fun _ => preserves_pure true) _).trans rfl
    refine Preserves.bind ?_ fun preferred =>
      (preserves_runIf fun _ => preserves_switchOnDCallDeviceAsync device).bind fun _ =>
        preserves_pure true
    exact preserves_isSelectVirtualModem.bind fun _ => fun _ => rfl

theorem createDAudioDevice_congr {w w' : AudioManagers} (h : (onlineOf w').2 = (onlineOf w).2)
    (devId : ByteString) (devInfo : Option DCallDeviceInfo) :
    w'.dcall.createDAudioDevice json devId devInfo =
      w.dcall.createDAudioDevice json devId devInfo := by
  have hproxy : w'.dcall.dcallProxy = w.dcall.dcallProxy := congrArg Prod.fst h
  unfold DCallWorld.createDAudioDevice
  rw [hproxy]

/-- After a device, another one is a new car iff it was one before, and the device is not
    online under its id now. -/
theorem bringsCar_after (item : ByteString × Option DCallDeviceInfo) :
    ((addDCallDevice json item.1 item.2).run w).data.BringsCar json devId devInfo ↔
      w.BringsCar json devId devInfo ∧
        (item.1 = devId → w.dcall.createDAudioDevice json item.1 item.2 = none) := by
  have honline := onlineOf_addDCallDevice json w item.1 item.2
  generalize ((addDCallDevice json item.1 item.2).run w).data = w' at honline
  have hrest : (onlineOf w').2 = (onlineOf w).2 := (Prod.ext_iff.mp honline).2
  have hflags : (w'.dcall.dCallDeviceSwitchedOn, w'.dcall.isCallActived) =
      (w.dcall.dCallDeviceSwitchedOn, w.dcall.isCallActived) := congrArg Prod.snd hrest
  have hmem : w'.dcall.onlineDCallDevices.Mem devId ↔ w.dcall.onlineDCallDevices.Mem devId ∨
      (item.1 = devId ∧ w.dcall.createDAudioDevice json item.1 item.2 ≠ none) := by
    rw [show w'.dcall.onlineDCallDevices = _ from (Prod.ext_iff.mp honline).1]
    cases w.dcall.createDAudioDevice json item.1 item.2 with
    | none => simp
    | some device => simp [OrderedMap.mem_insert, or_comm, eq_comm]
  obtain ⟨hswitched, hactive⟩ := Prod.mk.inj hflags
  unfold AudioManagers.BringsCar
  rw [hmem, createDAudioDevice_congr hrest, hswitched, hactive, not_or, not_and, not_ne_iff]
  exact and_right_comm

/-- Behind a device that is no new car, there is a new car among the others iff there is one
    among all. -/
theorem bringsCarAmong_tail {item : ByteString × Option DCallDeviceInfo}
    {devices : List (ByteString × Option DCallDeviceInfo)}
    (hitem : ¬ w.BringsCar json item.1 item.2) :
    ((addDCallDevice json item.1 item.2).run w).data.BringsCarAmong json devices ↔
      w.BringsCarAmong json (item :: devices) := by
  have hrest : (onlineOf ((addDCallDevice json item.1 item.2).run w).data).2 = (onlineOf w).2 :=
    (Prod.ext_iff.mp (onlineOf_addDCallDevice json w item.1 item.2)).2
  constructor
  · rintro ⟨before, car, after, rfl, hcar, hbefore⟩
    obtain ⟨hcar, hfirst⟩ := (bringsCar_after item).mp hcar
    refine ⟨item :: before, car, after, rfl, hcar, fun earlier hmem => ?_⟩
    rcases List.mem_cons.mp hmem with rfl | hmem
    · exact hfirst
    · rw [← createDAudioDevice_congr hrest]
      exact hbefore earlier hmem
  · rintro ⟨before, car, after, hsplit, hcar, hbefore⟩
    cases before with
    | nil =>
      obtain ⟨rfl, rfl⟩ := List.cons.inj hsplit
      exact absurd hcar hitem
    | cons first before =>
      obtain ⟨rfl, rfl⟩ := List.cons.inj hsplit
      refine ⟨before, car, after, rfl, (bringsCar_after item).mpr ⟨hcar, hbefore _ (.head _)⟩,
        fun earlier hmem => ?_⟩
      rw [createDAudioDevice_congr hrest]
      exact hbefore earlier (.tail _ hmem)

theorem orderly_notifyOnlineDCallDevices {devices : List (ByteString × Option DCallDeviceInfo)}
    (hcar : ¬ w.BringsCarAmong json devices) (hheld : Below .onlineDeviceMtx held) :
    Orderly lockOrder held ((notifyOnlineDCallDevices json devices).run w).events := by
  induction devices generalizing w with
  | nil => trivial
  | cons item devices ih =>
    have hitem : ¬ w.BringsCar json item.1 item.2 := fun h =>
      hcar ⟨[], item, devices, rfl, h, by simp⟩
    rw [notifyOnlineDCallDevices, orderly_bind]
    exact ⟨orderly_addDCallDevice hitem hheld, ih ((bringsCarAmong_tail hitem).not.mpr hcar)⟩

theorem asks_of_bringsCarAmong {devices : List (ByteString × Option DCallDeviceInfo)}
    (hcar : w.BringsCarAmong json devices)
    (h : Orderly r held ((notifyOnlineDCallDevices json devices).run w).events) :
    ∀ l ∈ AudioMutex.onlineDeviceMtx :: held, r l .onlineDeviceMtx := by
  induction devices generalizing w with
  | nil =>
    obtain ⟨before, car, after, hsplit, -⟩ := hcar
    simp at hsplit
  | cons item devices ih =>
    rw [notifyOnlineDCallDevices, orderly_bind] at h
    by_cases hitem : w.BringsCar json item.1 item.2
    · exact asks_of_bringsCar hitem h.1
    · exact ih ((bringsCarAmong_tail hitem).mpr hcar) h.2

/-! ### A device that leaves -/

theorem orderly_removeDCallDevice
    (hreroutes : ¬ (w.dcall.onlineDCallDevices.Mem devId ∧ w.ReroutesPastCar))
    (hheld : Below .onlineDeviceMtx held) :
    Orderly lockOrder held ((removeDCallDevice json devId).run w).events := by
  unfold removeDCallDevice
  rw [orderly_lockGuard, orderly_get_bind]
  refine ⟨hheld, ?_⟩
  cases hiter : w.dcall.onlineDCallDevices.lookup devId with
  | none => trivial
  | some iter =>
    have hmem : w.dcall.onlineDCallDevices.Mem devId := by
      rw [OrderedMap.mem_iff_lookup, hiter]
      rfl
    have hin : Below .infoMutex (.onlineDeviceMtx :: held) := hheld.cons (by decide)
    dsimp only
    rw [orderly_bind, orderly_bind]
    refine ⟨keeps_reading (hin.mono (by decide)) _ _,
      orderly_removeAudioDeviceList (fun h => hreroutes ⟨hmem, h⟩) hin _ _, ?_⟩
    refine ((keeps_updateDCall _).bind fun _ => keeps_runIf fun _ => ?_) _
    refine (keeps_updateDCall _).bind fun _ =>
      (keeps_clearConnectedDCallDevice (hin.mono (by decide))).bind fun _ => ?_
    exact (keeps_initAudioDevice (hin.mono (by decide))).discard

theorem asks_of_removeDCallDevice (hmem : w.dcall.onlineDCallDevices.Mem devId)
    (hreroutes : w.ReroutesPastCar)
    (h : Orderly r held ((removeDCallDevice json devId).run w).events) :
    ∀ l ∈ AudioMutex.infoMutex :: .onlineDeviceMtx :: held, r l .onlineDeviceMtx := by
  unfold removeDCallDevice at h
  rw [orderly_lockGuard, orderly_get_bind] at h
  replace h := h.2
  rw [OrderedMap.mem_iff_lookup] at hmem
  obtain ⟨iter, hiter⟩ := Option.isSome_iff_exists.mp hmem
  rw [hiter] at h
  dsimp only at h
  rw [orderly_bind, orderly_bind] at h
  exact asks_of_reroutesPastCar hreroutes h.2.1

end Asking

section Ordered

variable {json : JsonLibrary} {held : List AudioMutex}

/-! ### `AudioDeviceManager` -/

theorem keeps_updateCurrentAudioDevice (hheld : Below .connectedDevMtx held) :
    Keeps lockOrder held (updateCurrentAudioDevice json) := by
  refine keeps_ask.bind fun platform => ?_
  split
  · exact keeps_pure _
  · exact keeps_setCurrentAudioDevice hheld _

theorem keeps_setCallAudioMode (hheld : Below .audioModeMutex held) (audioMode audioScene : ℤ) :
    Keeps lockOrder held (setCallAudioMode audioMode audioScene) :=
  keeps_scope hheld (keeps_modify _)

theorem keeps_updateEarpieceDevice (hheld : Below .infoMutex held) :
    Keeps lockOrder held updateEarpieceDevice :=
  keeps_get.bind fun _ => keeps_ask.bind fun _ => keeps_ite (fun _ => keeps_updateDCall _)
    fun _ => keeps_scope hheld (keeps_updateDCall _)

theorem keeps_updateDeviceName (hheld : Below .infoMutex held) (macAddress deviceName : ByteString)
    (deviceType : AudioDeviceType) :
    Keeps lockOrder held (updateDeviceName macAddress deviceName deviceType) :=
  keeps_scope hheld (keeps_get.bind fun _ => (keeps_updateDCall _).bind fun _ => keeps_pure _)

theorem keeps_updateBluetoothDeviceName (hheld : Below .infoMutex held)
    (macAddress deviceName : ByteString) :
    Keeps lockOrder held (updateBluetoothDeviceName macAddress deviceName) :=
  (keeps_updateDeviceName hheld _ _ _).bind fun _ => keeps_ite (fun _ => keeps_pure _)
    fun _ => (keeps_updateDeviceName hheld _ _ _).discard

theorem keeps_resetWirelessDevicesList (hheld : Below .infoMutex held)
    (deviceType : AudioDeviceType) :
    Keeps lockOrder held (resetWirelessDevicesList json deviceType) := by
  refine (keeps_scope hheld (keeps_updateDCall _)).bind fun _ => keeps_get.bind fun w => ?_
  exact keeps_runIf fun _ => (keeps_initAudioDevice (hheld.mono (by decide))).discard

/-- `ProcessEvent` keeps to the order unless it looks for a car to switch to. -/
theorem orderly_processEvent {w : AudioManagers} {event : DeviceEvent}
    (hcar : ¬ (event = .wiredHeadsetDisconnected ∧ w.isAudioActivated = true ∧ w.ListsCar))
    (hheld : Below .infoMutex held) :
    Orderly lockOrder held ((processEvent json event).run w).events := by
  have hinit : Keeps lockOrder held (initAudioDevice json) :=
    keeps_initAudioDevice (hheld.mono (by decide))
  cases event with
  | audioActivated | audioRinging =>
    refine (keeps_get.bind fun w => keeps_ite (fun _ => keeps_pure _) fun _ => ?_) w
    refine (keeps_modify _).bind fun _ => keeps_ask.bind fun platform => ?_
    split
    · exact keeps_pure _
    · exact (keeps_setCurrentAudioDeviceType (hheld.mono (by decide)) _).bind fun _ => keeps_pure _
  | audioDeactivated =>
    refine (keeps_get.bind fun w => keeps_ite (fun _ => ?_) fun _ => keeps_pure _) w
    exact (keeps_modify _).bind fun _ => hinit
  | initAudioDevice => exact hinit w
  | wiredHeadsetDisconnected =>
    unfold processEvent
    rw [orderly_get_bind]
    by_cases hactivated : w.isAudioActivated = false
    · rw [if_pos hactivated]
      trivial
    · rw [if_neg hactivated, orderly_bind]
      have hlist : ¬ w.ListsCar := fun h => hcar ⟨rfl, by simpa using hactivated, h⟩
      exact ⟨orderly_checkAndSwitch hlist hheld, trivial⟩
  | other => exact keeps_pure _ w

/-! ### `DistributedCallManager` -/

theorem keeps_switchOnDCallDeviceThread (hheld : Below .connectedDevMtx held)
    (device : AudioDevice) : Keeps lockOrder held (switchOnDCallDeviceThread json device) :=
  (keeps_switchOnDCallDeviceSync hheld device).bind fun _ => keeps_get.bind fun _ =>
    keeps_runIf fun _ => keeps_switchOffDCallDeviceSync hheld

theorem keeps_clearDCallDevices (hheld : Below .onlineDeviceMtx held) :
    Keeps lockOrder held clearDCallDevices := keeps_scope hheld (keeps_updateDCall _)

theorem keeps_onDCallSystemAbilityRemoved (hheld : Below .onlineDeviceMtx held) :
    Keeps lockOrder held (onDCallSystemAbilityRemoved json) := by
  refine (keeps_scope (hheld.mono (by decide)) (keeps_updateDCall _)).bind fun _ => ?_
  refine (keeps_clearDCallDevices hheld).bind fun _ => ?_
  refine (keeps_clearConnectedDCallDevice (hheld.mono (by decide))).bind fun _ => ?_
  refine (keeps_scope (hheld.mono (by decide)) (keeps_updateDCall _)).bind fun _ => ?_
  refine keeps_get.bind fun w => (keeps_runIf fun _ => ?_).bind fun _ => keeps_updateDCall _
  exact (keeps_initAudioDevice (hheld.mono (by decide))).discard

/-! ### `AudioControlManager` -/

theorem keeps_checkTypeAndSetAudioDevice (hheld : Below .deviceMutex held) (call : Ref)
    (priorVideoState nextVideoState : VideoStateType) (initDeviceType : AudioDeviceType)
    (device : AudioDevice) :
    Keeps lockOrder held (checkTypeAndSetAudioDevice json call priorVideoState nextVideoState
      initDeviceType device) := by
  have hset : ∀ device, Keeps lockOrder held (discard (setAudioDevice json device false)) :=
    fun device => (keeps_setAudioDevice hheld device false).discard
  refine keeps_get.bind fun w => keeps_ite (fun _ => ?_) fun _ => ?_
  · exact keeps_ite (fun _ => keeps_pure _) fun _ => hset _
  · exact keeps_ite (fun _ => hset _) fun _ => keeps_pure _

theorem keeps_videoStateUpdated (hheld : Below .deviceMutex held) (call : Ref)
    (priorVideoState nextVideoState : VideoStateType) :
    Keeps lockOrder held (videoStateUpdated json call priorVideoState nextVideoState) := by
  have hset : ∀ device, Keeps lockOrder held (discard (setAudioDevice json device false)) :=
    fun device => (keeps_setAudioDevice hheld device false).discard
  refine keeps_get.bind fun w => keeps_ite (fun _ => keeps_pure _) fun _ => ?_
  refine (keeps_getInitAudioDeviceType none).bind fun _ => (keeps_modify _).bind fun _ => ?_
  refine keeps_ite (fun _ => keeps_ask.bind fun _ => ?_) fun _ => ?_
  · exact keeps_ite (fun _ => keeps_runIf fun _ => hset _) fun _ => hset _
  · exact keeps_checkTypeAndSetAudioDevice hheld _ _ _ _ _

theorem keeps_updateDeviceTypeForCrs (hheld : Below .deviceMutex held)
    (deviceType : AudioDeviceType) :
    Keeps lockOrder held (updateDeviceTypeForCrs json deviceType) := by
  refine keeps_get.bind fun w => ?_
  split
  · exact keeps_pure _
  · refine keeps_ite (fun _ => keeps_pure _) fun _ => keeps_ite (fun _ => ?_) fun _ => keeps_pure _
    refine (keeps_adjustDeviceForCrs _).bind fun _ => (keeps_modify _).bind fun _ => ?_
    exact keeps_runIf fun _ => (keeps_setAudioDevice hheld _ _).discard

theorem keeps_updateDeviceTypeForVideoDialing (hheld : Below .deviceMutex held) :
    Keeps lockOrder held (updateDeviceTypeForVideoDialing json) := by
  refine keeps_get.bind fun w => ?_
  split
  · exact keeps_pure _
  · refine keeps_ite (fun _ => (keeps_getInitAudioDeviceType none).bind fun _ => ?_)
      fun _ => keeps_pure _
    exact (keeps_setAudioDevice hheld _ _).discard

theorem keeps_dealCrsScene (hheld : Below .deviceMutex held) (ringMode : AudioRingerMode) :
    Keeps lockOrder held (dealCrsScene json ringMode) := by
  refine keeps_get.bind fun w => keeps_ask.bind fun platform =>
    (keeps_runIf fun _ => keeps_modify _).bind fun _ => keeps_ite (fun _ => ?_) fun _ => ?_
  · exact (keeps_modify _).bind fun _ => keeps_pure _
  · refine keeps_isRemoteDevicesConnected.bind fun remote =>
      keeps_ite (fun _ => (keeps_modify _).bind fun _ => ?_) fun _ => keeps_pure _
    exact (keeps_runIf fun _ => (keeps_setAudioDevice hheld _ _).discard).bind fun _ =>
      keeps_playSoundtone

theorem keeps_playRingtone (hheld : Below .deviceMutex held) :
    Keeps lockOrder held (playRingtone json) := by
  refine keeps_get.bind fun w => keeps_ite (fun _ => keeps_pure _) fun _ => ?_
  split
  · exact keeps_pure _
  · refine keeps_ask.bind fun platform =>
      keeps_ite (fun _ => keeps_dealCrsScene hheld _) fun _ => ?_
    refine keeps_ite (fun _ => ?_) fun _ => keeps_pure _
    exact (keeps_runIf fun _ => keeps_modify _).bind fun _ => keeps_pure _

theorem keeps_resumeCrsSoundTone (hheld : Below .audioModeMutex held) :
    Keeps lockOrder held (resumeCrsSoundTone json) := by
  refine keeps_ask.bind fun platform => (keeps_reading hheld _).bind fun speakerMode =>
    keeps_isRemoteDevicesConnected.bind fun remote => keeps_get.bind fun w => ?_
  refine (keeps_runIf fun _ => ?_).bind fun _ => keeps_modify _
  exact (keeps_setAudioDevice (hheld.mono (by decide)) _ _).discard

theorem keeps_processSoundtone (hheld : Below .audioModeMutex held) (call : Ref) :
    Keeps lockOrder held (processSoundtone json call) := by
  refine keeps_get.bind fun w => keeps_ite (fun _ => keeps_pure _) fun _ =>
    keeps_ite (fun _ => keeps_runIf fun _ => keeps_resumeCrsSoundTone hheld) fun _ => ?_
  exact keeps_stopSoundtone.bind fun _ => keeps_playSoundtone.discard

theorem keeps_processAudioWhenCallActive (hheld : Below .onlineDeviceMtx held) (call : Ref) :
    Keeps lockOrder held (processAudioWhenCallActive json call) := by
  refine keeps_get.bind fun w => keeps_runIf fun _ => keeps_stopVibrator.bind fun _ => ?_
  exact (keeps_processSoundtone (hheld.mono (by decide)) call).bind fun _ =>
    keeps_updateDeviceType hheld _

theorem keeps_preHandleAnswerdState (hheld : Below .audioModeMutex held) (call : Ref)
    (priorState nextState : TelCallState) :
    Keeps lockOrder held (preHandleAnswerdState json call priorState nextState) := by
  refine keeps_get.bind fun w => keeps_ite (fun _ => ?_) fun _ => ?_
  · refine keeps_ite (fun _ => ?_) fun _ => keeps_pure _
    refine (keeps_updateProcessor _).bind fun _ => (keeps_modify _).bind fun _ => ?_
    exact keeps_muteRinger.bind fun _ =>
      (keeps_setAudioDeviceByAudioMode hheld _ _).bind fun _ => keeps_pure _
  · refine keeps_ite (fun _ => (keeps_updateProcessor _).bind fun _ => keeps_pure _) fun _ => ?_
    exact (keeps_runIf fun _ => keeps_updateProcessor _).bind fun _ => keeps_pure _

theorem keeps_handlePriorState (hheld : Below .onlineDeviceMtx held) (call : Ref)
    (priorState : TelCallState) : Keeps lockOrder held (handlePriorState json call priorState) :=
  keeps_get.bind fun _ => (keeps_updateProcessor _).bind fun _ =>
    keeps_runIf fun _ => keeps_processAudioWhenCallActive hheld call

theorem keeps_handleCallStateUpdated (hheld : Below .onlineDeviceMtx held) (call : Ref)
    (priorState nextState : TelCallState) :
    Keeps lockOrder held (handleCallStateUpdated json call priorState nextState) := by
  refine (keeps_preHandleAnswerdState (hheld.mono (by decide)) _ _ _).bind fun goesOn =>
    keeps_ite (fun _ => keeps_pure _) fun _ => (keeps_handleNextState _ _).bind fun _ => ?_
  exact keeps_runIf fun _ => keeps_handlePriorState hheld _ _

theorem keeps_updateForegroundLiveCall (hheld : Below .deviceMutex held) :
    Keeps lockOrder held (updateForegroundLiveCall json) := by
  refine keeps_get.bind fun w => keeps_ite (fun _ => keeps_pure _) fun _ => ?_
  split
  · exact keeps_pure _
  · refine keeps_ite (fun _ => keeps_ite (fun _ => keeps_pure _) fun _ => ?_) fun _ => keeps_pure _
    exact keeps_ite (fun _ => keeps_pure _) fun _ => (keeps_playRingtone hheld).discard

theorem keeps_handleCallStateUpdatedForVoip (hheld : Below .connectedDevMtx held)
    (priorState nextState : TelCallState) :
    Keeps lockOrder held (handleCallStateUpdatedForVoip json priorState nextState) := by
  refine keeps_get.bind fun w => keeps_ite (fun _ => keeps_ite (fun _ => ?_) fun _ => keeps_pure _)
    fun _ => keeps_pure _
  refine keeps_ask.bind fun platform => ?_
  split
  · exact keeps_pure _
  · exact keeps_setCurrentAudioDeviceType hheld _

theorem keeps_callStateUpdated (hheld : Below .controlMutex held) (call : Ref)
    (priorState nextState : TelCallState) :
    Keeps lockOrder held (callStateUpdated json call priorState nextState) := by
  refine keeps_get.bind fun w => keeps_ite (fun _ => ?_) fun _ => keeps_scope hheld ?_
  · exact keeps_handleCallStateUpdatedForVoip (hheld.mono (by decide)) _ _
  · have hin : Below .onlineDeviceMtx (.controlMutex :: held) := hheld.cons (by decide)
    exact (keeps_handleCallStateUpdated hin _ _ _).bind fun _ =>
      keeps_updateForegroundLiveCall (hin.mono (by decide))

theorem keeps_getCurrentActiveCall (hheld : Below .controlMutex held) :
    Keeps lockOrder held getCurrentActiveCall :=
  keeps_get.bind fun _ => keeps_ite (fun _ => keeps_pure _) fun _ => keeps_reading hheld _

end Ordered

end AudioCode

namespace AudioOperation

/-! ## Results -/

variable {json : JsonLibrary}

theorem below_nil (l : AudioMutex) : Below l [] := fun _ h => absurd h List.not_mem_nil

/-- An operation that does not come to ask behind a lock keeps to the order. -/
theorem orderly_of_not_asksBehindLock {w : AudioManagers} {op : AudioOperation}
    (hasks : ¬ op.AsksBehindLock json w) : Orderly lockOrder [] (lockEvents json (op, w)) := by
  have hnil := below_nil
  unfold lockEvents
  cases op with
  -- those that can come to ask behind a lock
  | processEvent event =>
    exact (orderly_discard _ _).mpr (AudioCode.orderly_processEvent hasks (hnil _))
  | checkAndSwitchDistributedAudioDevice =>
    exact (orderly_discard _ _).mpr (AudioCode.orderly_checkAndSwitch hasks (hnil _))
  | removeAudioDeviceList address deviceType =>
    exact AudioCode.orderly_removeAudioDeviceList hasks (hnil _) _ _
  | addDCallDevice devId devInfo | onDCallDeviceOnline devId devInfo =>
    exact (orderly_discard _ _).mpr (AudioCode.orderly_addDCallDevice hasks (hnil _))
  | removeDCallDevice devId | onDCallDeviceOffline devId =>
    exact AudioCode.orderly_removeDCallDevice hasks (hnil _)
  | onDCallSystemAbilityAdded devices =>
    refine (orderly_bind _ _ _).mpr
      ⟨AudioCode.keeps_scope (hnil _) (AudioCode.keeps_updateDCall _) _, ?_⟩
    cases devices with
    | none => trivial
    | some dcallDevices =>
      exact AudioCode.orderly_notifyOnlineDCallDevices (fun h => hasks ⟨_, rfl, h⟩) (hnil _)
  -- `AudioDeviceManager`
  | initAudioDevice => exact (AudioCode.keeps_initAudioDevice (hnil _)).discard w
  | switchDevice device => exact (AudioCode.keeps_switchDevice (hnil _) _).discard w
  | addAudioDeviceList address deviceType deviceName =>
    exact AudioCode.keeps_addAudioDeviceList (hnil _) _ _ _ w
  | resetBtAudioDevicesList | resetDistributedCallDevicesList =>
    exact AudioCode.keeps_scope (hnil _) (AudioCode.keeps_updateDCall _) w
  | resetNearlinkAudioDevicesList | resetBtHearingAidDeviceList =>
    exact AudioCode.keeps_resetWirelessDevicesList (hnil _) _ w
  | reportAudioDeviceChange device => exact AudioCode.keeps_reportAudioDeviceChange (hnil _) _ w
  | setCurrentAudioDeviceType deviceType =>
    exact AudioCode.keeps_setCurrentAudioDeviceType (hnil _) _ w
  | setCurrentAudioDevice device => exact AudioCode.keeps_setCurrentAudioDevice (hnil _) _ w
  | onActivedCallDisconnected =>
    exact ((AudioCode.keeps_updateDCall _).bind fun _ =>
      AudioCode.keeps_dealDisconnectCall (hnil _)) w
  | updateEarpieceDevice => exact AudioCode.keeps_updateEarpieceDevice (hnil _) w
  | updateBluetoothDeviceName macAddress deviceName =>
    exact AudioCode.keeps_updateBluetoothDeviceName (hnil _) _ _ w
  | updateNearlinkDeviceName macAddress deviceName =>
    exact (AudioCode.keeps_updateDeviceName (hnil _) _ _ _).discard w
  | updateCurrentAudioDevice => exact AudioCode.keeps_updateCurrentAudioDevice (hnil _) w
  | setCallAudioMode audioMode audioScene =>
    exact AudioCode.keeps_setCallAudioMode (hnil _) _ _ w
  | setAudioDeviceByAudioMode isVoipCall isIncomingCall =>
    exact AudioCode.keeps_setAudioDeviceByAudioMode (hnil _) _ _ w
  | setSpeakerDeactive => exact AudioCode.keeps_setSpeakerDeactive (hnil _) w
  | isSpeakerMode | isBluetoothHeadsetConnect =>
    exact (AudioCode.keeps_reading (hnil _) _).discard w
  -- `AudioControlManager`
  | setAudioDevice device isByUser => exact (AudioCode.keeps_setAudioDevice (hnil _) _ _).discard w
  | playRingtone => exact (AudioCode.keeps_playRingtone (hnil _)).discard w
  | getCallList => exact AudioCode.keeps_reading (hnil _) _ w
  | getCurrentActiveCall => exact AudioCode.keeps_getCurrentActiveCall (hnil _) w
  | callStateUpdated call priorState nextState =>
    exact AudioCode.keeps_callStateUpdated (hnil _) _ _ _ w
  | videoStateUpdated call priorVideoState nextVideoState =>
    exact AudioCode.keeps_videoStateUpdated (hnil _) _ _ _ w
  | checkTypeAndSetAudioDevice call priorVideoState nextVideoState initDeviceType device =>
    exact AudioCode.keeps_checkTypeAndSetAudioDevice (hnil _) _ _ _ _ _ w
  | updateDeviceType callObjectPtr => exact AudioCode.keeps_updateDeviceType (hnil _) _ w
  | updateDeviceTypeForCrs deviceType => exact AudioCode.keeps_updateDeviceTypeForCrs (hnil _) _ w
  | updateDeviceTypeForVideoDialing =>
    exact AudioCode.keeps_updateDeviceTypeForVideoDialing (hnil _) w
  -- `DistributedCallManager`
  | clearDCallDevices => exact AudioCode.keeps_clearDCallDevices (hnil _) w
  | clearConnectedDCallDevice => exact AudioCode.keeps_clearConnectedDCallDevice (hnil _) w
  | getConnectedDCallDeviceAddr | getConnectedDCallDeviceType | getConnectedDCallDevice
  | getConnectedDCallDeviceId | isDistributedCarDeviceOnline =>
    exact (AudioCode.keeps_reading (hnil _) _).discard w
  | switchOffDCallDeviceSync => exact AudioCode.keeps_switchOffDCallDeviceSync (hnil _) w
  | switchOnDCallDeviceSync device =>
    exact (AudioCode.keeps_switchOnDCallDeviceSync (hnil _) _).discard w
  | switchOnDCallDeviceThread device =>
    exact AudioCode.keeps_switchOnDCallDeviceThread (hnil _) _ w
  | dealDisconnectCall => exact AudioCode.keeps_dealDisconnectCall (hnil _) w
  | isSelectVirtualModem => exact (AudioCode.keeps_isSelectVirtualModem (hnil _)).discard w
  | onDCallSystemAbilityRemoved => exact AudioCode.keeps_onDCallSystemAbilityRemoved (hnil _) w

/-- An operation that comes to ask behind a lock puts that lock before `onlineDeviceMtx_`. -/
theorem asks_of_asksBehindLock {r : AudioMutex → AudioMutex → Prop} {w : AudioManagers}
    {op : AudioOperation} (hasks : op.AsksBehindLock json w)
    (h : Orderly r [] (lockEvents json (op, w))) :
    r .onlineDeviceMtx .onlineDeviceMtx ∨ r .infoMutex .onlineDeviceMtx := by
  unfold lockEvents at h
  cases op with
  | processEvent event =>
    obtain ⟨rfl, hactivated, hcar⟩ := hasks
    replace h := (orderly_discard _ _).mp h
    unfold AudioCode.processEvent at h
    rw [orderly_get_bind, if_neg (by simp [hactivated]), orderly_bind] at h
    exact .inr (AudioCode.asks_of_listsCar hcar h.1 _ (.head _))
  | checkAndSwitchDistributedAudioDevice =>
    exact .inr (AudioCode.asks_of_listsCar hasks ((orderly_discard _ _).mp h) _ (.head _))
  | removeAudioDeviceList address deviceType =>
    exact .inr (AudioCode.asks_of_reroutesPastCar hasks h _ (.head _))
  | addDCallDevice devId devInfo | onDCallDeviceOnline devId devInfo =>
    exact .inl (AudioCode.asks_of_bringsCar hasks ((orderly_discard _ _).mp h) _ (.head _))
  | removeDCallDevice devId | onDCallDeviceOffline devId =>
    exact .inr (AudioCode.asks_of_removeDCallDevice hasks.1 hasks.2 h _ (.head _))
  | onDCallSystemAbilityAdded devices =>
    obtain ⟨dcallDevices, rfl, hcar⟩ := hasks
    exact .inl (AudioCode.asks_of_bringsCarAmong hcar ((orderly_bind _ _ _).mp h).2 _ (.head _))
  | _ => exact hasks.elim

/-- A platform that answers yes to every question, without a preferred output device. -/
def grantingPlatform : PlatformAnswers where
  preferredOutput _ := none
  isBtActived := true
  isSupportEarpiece := true
  setDeviceActive := true
  selectOutputDevice := true
  prefersDistributed := true
  isSelectVirtualModem := true
  switchDevice := true
  ringerMode := .normal
  isRingingVibrateModeOn := true
  startVibrator := true
  shouldPlaySoundTone := true

/-- A phone on which nothing happens but the distributed communication. -/
def worldOf (dcall : DCallWorld) : AudioManagers where
  store := StoreOperation.emptyStore
  storeEnv := StoreOperation.phoneEnv
  callAudio _ := ⟨false, false, 0, 0⟩
  voIPCallState := .idle
  isConnected := false
  isAudioOnSink := false
  isDistributedDev _ := false
  processor := .init
  dcall := dcall
  audioDeviceType := .unknown
  isAudioActivated := false
  audioMode := 0
  audioScene := 0
  isSetAudioDeviceByUser := false
  audioInterruptState := .deactivated
  isRinging := false
  isSounding := false
  isCrsVibrating := false
  isVideoRingVibrating := false
  isCrsStartSoundTone := false
  isWearableDevice := false
  isNotWearOnWrist := false
  initCrsDeviceType := .unknown
  answers _ := grantingPlatform
  asked := 0

/-- A phone with another one online. -/
def phoneOnline : AudioManagers :=
  worldOf
    { DCallWorld.init false with
      onlineDCallDevices :=
        (OrderedMap.empty _).insert ⟨[0x31], ⟨.distributedPhone, [0x31], []⟩⟩ }

/-- The other one leaves. -/
def phoneLeaves : AudioOperation × AudioManagers := (.removeDCallDevice [0x31], phoneOnline)

theorem not_reroutesPastCar_phoneOnline : ¬ phoneOnline.ReroutesPastCar := by
  rintro ⟨⟨liveCall, hlive, -⟩, -⟩
  have hnone : phoneOnline.ofStore StoreCode.getAudioLiveCall = none := by decide +kernel
  rw [hnone] at hlive
  cases hlive

/-- A device that leaves goes off the list of audio devices under both locks. -/
theorem online_before_info {r : AudioMutex → AudioMutex → Prop}
    (h : Orderly r [] (lockEvents json phoneLeaves)) : r .onlineDeviceMtx .infoMutex := by
  have hcode : phoneLeaves.1.code json = AudioCode.removeDCallDevice json [0x31] := rfl
  unfold lockEvents at h
  rw [hcode, show phoneLeaves.2 = phoneOnline from rfl] at h
  unfold AudioCode.removeDCallDevice at h
  rw [orderly_lockGuard, orderly_get_bind] at h
  replace h := h.2
  have hmem : phoneOnline.dcall.onlineDCallDevices.lookup [0x31] =
      some ⟨[0x31], ⟨.distributedPhone, [0x31], []⟩⟩ := by decide +kernel
  rw [hmem] at h
  dsimp only at h
  rw [orderly_bind, orderly_bind] at h
  exact ((orderly_lockGuard _ _).mp h.2.1).1 _ (.head _)

/-- **The lock discipline.** Beside the runs that do not come to ask whether a distributed
    device is online behind a lock, runs keep to the discipline iff they do not come to ask
    it there either. -/
theorem audioLockDiscipline_iff (json : JsonLibrary) (runs : Set (AudioOperation × AudioManagers)) :
    LockDiscipline json (runs ∪ {p | ¬ p.1.AsksBehindLock json p.2}) ↔
      ∀ p ∈ runs, ¬ p.1.AsksBehindLock json p.2 := by
  constructor
  · intro h p hp hasks
    obtain ⟨r, hr, horder⟩ := h.oneOrder
    have hleaves : r .onlineDeviceMtx .infoMutex := by
      have hquiet : ¬ phoneLeaves.1.AsksBehindLock json phoneLeaves.2 := fun h =>
        not_reroutesPastCar_phoneOnline h.2
      exact online_before_info (horder phoneLeaves (.inr hquiet))
    rcases asks_of_asksBehindLock hasks (horder p (.inl hp)) with hagain | hback
    · exact irrefl_of r _ hagain
    · exact irrefl_of r _ (trans_of r hleaves hback)
  · intro h
    have horder : ∀ p ∈ runs ∪ {p | ¬ p.1.AsksBehindLock json p.2},
        Orderly lockOrder [] (lockEvents json p) := by
      rintro ⟨op, w⟩ (hp | hp)
      · exact orderly_of_not_asksBehindLock (h _ hp)
      · exact orderly_of_not_asksBehindLock hp
    exact
      { neverAgain := fun p hp => (horder p hp).mono fun a b hab heq =>
          irrefl_of lockOrder b (heq ▸ hab)
        allFree := fun p _ => Code.balanced _ _ _
        oneOrder := ⟨lockOrder, inferInstance, horder⟩
        noCircle := fun n threads hin c hreach i =>
          not_waits_in_circle (fun i => horder _ (hin i)) hreach i }

/-- A car comes during an active call. -/
def carComes : AudioOperation × AudioManagers :=
  (.onDCallDeviceOnline [0x31] (some ⟨[0x63, 0x61, 0x72], .car⟩),
    worldOf { DCallWorld.init false with isCallActived := true, dcallProxy := true })

/-- **A car that comes during a call.** `AddDCallDevice` waits for itself. -/
theorem car_comes_blocks : ¬ LockDiscipline DCallWorld.plainJson Set.univ := by
  intro h
  have hagain : ¬ Orderly (· ≠ ·) [] (lockEvents DCallWorld.plainJson carComes) := by
    decide +kernel
  exact hagain (h.neverAgain _ (Set.mem_univ _))

end AudioOperation

end CallManager.AudioLocks
