import CallManager.CallStateReport
import CallManager.DistributedDevices
import CallManager.MuteChoice
import CallManager.StoreLock
import CallManager.UserDeviceChoice
import CallManager.Library.LockOrder

/-!
# The locks of the audio and the distributed call managers

`AudioDeviceManager`, `AudioControlManager` and `DistributedCallManager` call each
other in a circle and hold their own mutexes meanwhile: a distributed device that
leaves goes off the list of audio devices (`onlineDeviceMtx_`, then `infoMutex_`), for
a video or satellite call this routes the audio again, and the routing asks
`DistributedCallManager` whether a distributed device is online (`onlineDeviceMtx_`).
`IsDistributedPreferredOutputAudioDevice` asks it the same, and uses no answer.

Each function is a program that reads and changes the data and takes its locks in
scopes, as `std::lock_guard` does; a `unique_lock` that the source releases early is a
scope that ends there. The data are what decides which locks are taken: the device
list, the devices that are online, the connected and the current device, the calls, and
the flags of the managers. What the platform answers is a sequence of arbitrary
answers. `CallObjectManager` and the other classes have locks of their own and take none
of these. Reports, tones and what the ring tasks do in their own threads are left out.

An operation runs on the state it is started in; what it does with the locks, and that
it keeps to an order of them, is in `CallManager.AudioLockOrder`.
-/

namespace CallManager.AudioLocks

open LockOrder DistributedDevices CallStateReport

/-! ## Model -/

/-- The mutexes, none of which is recursive: `mutex_` of `AudioControlManager` (`controlMutex`)
    and of `AudioDeviceManager` (`deviceMutex`), and the others under their own names. -/
inductive AudioMutex
  | controlMutex | onlineDeviceMtx | infoMutex | audioModeMutex | deviceMutex
  | connectedDevMtx | dcallProxyMtx
  deriving DecidableEq, Repr

/-- `AudioInterruptState` (audio_control_manager.h). -/
inductive AudioInterruptState
  | deactivated | activated | ringing
  deriving DecidableEq, Repr

/-- `AudioRingerMode` of the audio framework. -/
inductive AudioRingerMode
  | silent | vibrate | normal
  deriving DecidableEq, Repr

/-- The events of `AudioDeviceManager::ProcessEvent`. -/
inductive DeviceEvent
  | audioActivated | audioRinging | audioDeactivated | initAudioDevice | wiredHeadsetDisconnected
  | other
  deriving DecidableEq, Repr

/-- The fields of a call that only the audio reads. -/
structure CallAudio where
  isAnsweredByPhone : Bool
  isAnswered : Bool
  originalCallType : ℤ
  celiaCallType : ℤ
  deriving DecidableEq, Repr

/-- What the audio framework, the distributed services, the sensors and the settings answer when
    they are asked: what becomes of a device that `GetPreferredOutputAudioDevice` is given, or
    nothing if it fails; whether a Bluetooth device is active, the platform has an earpiece, a
    device is set active, an output is selected; whether a distributed device is preferred and a
    distributed call service is asked with success; the ringer mode, whether to vibrate and
    whether the vibrator starts; whether a sound tone is to be played. -/
structure PlatformAnswers where
  preferredOutput : AudioDevice → Option AudioDevice
  isBtActived : Bool
  isSupportEarpiece : Bool
  setDeviceActive : Bool
  selectOutputDevice : Bool
  prefersDistributed : Bool
  isSelectVirtualModem : Bool
  switchDevice : Bool
  ringerMode : AudioRingerMode
  isRingingVibrateModeOn : Bool
  startVibrator : Bool
  shouldPlaySoundTone : Bool

/-- What the operations read: the calls, the state of the distributed communication, the fields
    of the managers, and what the platform answers to one question after the other. -/
structure AudioManagers where
  store : CallStore
  storeEnv : StoreLockEnv
  callAudio : Ref → CallAudio
  voIPCallState : CallStateToApp
  isConnected : Bool
  isAudioOnSink : Bool
  isDistributedDev : AudioDevice → Bool
  processor : CallStateProcessor
  dcall : DCallWorld
  audioDeviceType : AudioDeviceType
  isAudioActivated : Bool
  audioMode : ℤ
  audioScene : ℤ
  isSetAudioDeviceByUser : Bool
  audioInterruptState : AudioInterruptState
  isRinging : Bool
  isSounding : Bool
  isCrsVibrating : Bool
  isVideoRingVibrating : Bool
  isCrsStartSoundTone : Bool
  isWearableDevice : Bool
  isNotWearOnWrist : Bool
  initCrsDeviceType : AudioDeviceType
  answers : ℕ → PlatformAnswers
  asked : ℕ

/-- `AUDIO_MODE_SPEAKER` (audio_device_manager.cpp:51-54). -/
def audioModeSpeaker : ℤ := 1

/-- `AUDIO_MODE_SCEN_CELLULAR_CALL_INCOMING` (lines 55-60). -/
def sceneCellularCallIncoming : ℤ := 0

/-- `AUDIO_MODE_SCEN_CELLULAR_VOIP_CALL_INCOMING` (lines 55-60). -/
def sceneCellularVoipCallIncoming : ℤ := 2

/-- `IS_CELIA_CALL` (distributed_call_manager.cpp:36). -/
def isCeliaCallType : ℤ := 1

/-- `VOICE_TYPE` (audio_control_manager.cpp:49). -/
def voiceType : ℤ := 0

/-- The device that a list literal makes of a type. -/
def deviceOf (deviceType : AudioDeviceType) : AudioDevice := ⟨deviceType, [], []⟩

namespace AudioManagers

variable (w : AudioManagers)

/-- What a function of the call store returns, started with no lock held. -/
def ofStore {α : Type} [Inhabited α] (p : StoreCode α) : α :=
  ((p ⟨[], w.store⟩).map Prod.fst).getD default

/-- The fields of a call. -/
def call (r : Ref) : StoredCall := w.store.objects r

/-- `CallControlManager::HasCall` and `HasVoipCall` (call_control_manager.cpp:621-635). -/
def hasCall : Bool :=
  w.voIPCallState = .answered ∨ w.voIPCallState = .offhook ∨ w.voIPCallState = .ringing ∨
    w.ofStore StoreCode.hasCellularCallExist ∨ w.ofStore StoreCode.hasVoipCallExist

/-- `IsVoIPCallActived` (audio_control_manager.cpp:1780-1790). -/
def isVoIPCallActived : Bool := ¬ (w.voIPCallState = .idle ∨ w.voIPCallState = .unknown)

/-- `isCeliaCall` (distributed_call_manager.cpp:364-377). -/
def isCeliaCall : Bool :=
  match w.ofStore (StoreCode.getForegroundCall false) with
  | none => false
  | some foregroundCall => (w.callAudio foregroundCall).celiaCallType = isCeliaCallType

end AudioManagers

/-- A function of the managers. -/
abbrev AudioCode := Code AudioMutex AudioManagers

namespace AudioCode

/-- The next answer of the platform. -/
def ask : AudioCode PlatformAnswers := do
  let w ← get
  modify fun w => { w with asked := w.asked + 1 }
  pure (w.answers w.asked)

/-- A change of `DistributedCallManager` or of the list of audio devices. -/
def updateDCall (f : DCallWorld → DCallWorld) : AudioCode Unit :=
  modify fun w => { w with dcall := f w.dcall }

/-- A read under a lock. -/
def reading {α : Type} (l : AudioMutex) (f : AudioManagers → α) : AudioCode α :=
  lockGuard l do
    let w ← get
    pure (f w)

variable (json : JsonLibrary)

/-! ### The connected device -/

/-- `GetConnectedDCallDeviceAddr` (distributed_call_manager.cpp:249-254). -/
def getConnectedDCallDeviceAddr : AudioCode ByteString :=
  reading .connectedDevMtx fun w => w.dcall.connectedAudioDevice.address

/-- `GetConnectedDCallDeviceType` (lines 256-261). -/
def getConnectedDCallDeviceType : AudioCode AudioDeviceType :=
  reading .connectedDevMtx fun w => w.dcall.connectedAudioDevice.deviceType

/-- `GetConnectedDCallDeviceId` (lines 263-271). -/
def getConnectedDCallDeviceId : AudioCode ByteString :=
  reading .connectedDevMtx fun w => w.dcall.getConnectedDCallDeviceId json

/-- `GetConnectedDCallDevice` (lines 273-280). -/
def getConnectedDCallDevice : AudioCode (AudioDeviceType × ByteString) :=
  reading .connectedDevMtx fun w =>
    (w.dcall.connectedAudioDevice.deviceType, w.dcall.connectedAudioDevice.address)

/-- `SetConnectedDCallDevice` (lines 282-289). -/
def setConnectedDCallDevice (device : AudioDevice) : AudioCode Unit :=
  lockGuard .connectedDevMtx do
    updateDCall fun m =>
      { m with
        connectedAudioDevice :=
          { m.connectedAudioDevice with
            deviceType := device.deviceType
            address := device.address } }

/-- `ClearConnectedDCallDevice` (lines 291-298). -/
def clearConnectedDCallDevice : AudioCode Unit :=
  lockGuard .connectedDevMtx do
    updateDCall fun m =>
      { m with
        connectedAudioDevice :=
          { m.connectedAudioDevice with deviceType := .unknown, address := [] } }

/-- `dCallDeviceSwitchedOn_.store`. -/
def setSwitchedOn (switchedOn : Bool) : AudioCode Unit :=
  updateDCall fun m => { m with dCallDeviceSwitchedOn := switchedOn }

/-- `SetCallState` (lines 344-347). -/
def setCallState (isActive : Bool) : AudioCode Unit := updateDCall (·.setCallState isActive)

/-- `DealDisconnectCall` (lines 349-353). -/
def dealDisconnectCall : AudioCode Unit := do
  setSwitchedOn false
  clearConnectedDCallDevice

/-- `IsDistributedCarDeviceOnline` (lines 355-362). -/
def isDistributedCarDeviceOnline : AudioCode Bool :=
  reading .onlineDeviceMtx fun w => 0 < w.dcall.onlineDCallDevices.entries.length

/-- `IsSelectVirtualModem` (lines 431-446): the first lock is released before the second is
    acquired. -/
def isSelectVirtualModem : AudioCode Bool := do
  let online ← isDistributedCarDeviceOnline
  if online = false then pure false
  else
    lockGuard .dcallProxyMtx do
      let w ← get
      if w.dcall.dcallProxy = false then pure false
      else
        let platform ← ask
        pure platform.isSelectVirtualModem

/-- `SwitchOffDCallDeviceSync` (lines 400-429). -/
def switchOffDCallDeviceSync : AudioCode Unit := do
  let w ← get
  if w.dcall.dCallDeviceSwitchedOn = false then pure ()
  else
    let devId ← getConnectedDCallDeviceId json
    if devId.length = 0 then pure ()
    else
      let switched ← lockGuard .dcallProxyMtx do
        let w ← get
        if w.dcall.dcallProxy = false then pure false
        else
          let platform ← ask
          pure platform.switchDevice
      if switched then
        setSwitchedOn false
        clearConnectedDCallDevice
      else pure ()

/-- `SwitchOnDCallDeviceAsync` (lines 379-398) up to its thread. -/
def switchOnDCallDeviceAsync (device : AudioDevice) : AudioCode Unit := do
  let w ← get
  updateDCall fun m => m.switchOnDCallDeviceAsync device w.isCeliaCall

/-- `AudioProxy::IsDistributedPreferredOutputAudioDevice` (audio_proxy.cpp:383-409): what
    `IsSelectVirtualModem` returns is not used. -/
def isDistributedPreferredOutputAudioDevice : AudioCode Bool := do
  let _selected ← isSelectVirtualModem
  let platform ← ask
  pure platform.prefersDistributed

/-! ### The current device -/

/-- `IsBtActived` (audio_device_manager.cpp:893-902). -/
def isBtActived : AudioCode Bool := do
  let platform ← ask
  pure platform.isBtActived

/-- `IsNearlinkActived` and `IsBtHearingAidActived` (lines 904-926): the preferred device is of
    the type, and has an address. -/
def isPreferred (deviceType : AudioDeviceType) : AudioCode Bool := do
  let platform ← ask
  match platform.preferredOutput (deviceOf .unknown) with
  | none => pure false
  | some device => pure (device.deviceType = deviceType ∧ device.address ≠ [])

/-- `IsRemoteDevicesConnected` (lines 1000-1007). -/
def isRemoteDevicesConnected : AudioCode Bool := do
  let w ← get
  let bt ← isBtActived
  let nearlink ← isPreferred .nearlink
  pure (bt || w.dcall.audioDevices.isWiredHeadsetConnected || nearlink)

/-- `GetInitAudioDeviceTypeOfRemote` (audio_control_manager.cpp:1273-1295). -/
def getInitAudioDeviceTypeOfRemote : AudioCode AudioDeviceType := do
  let w ← get
  if w.dcall.audioDevices.isDCallDevConnected then pure .distributedAutomotive
  else
    let nearlink ← isPreferred .nearlink
    if nearlink then pure .nearlink
    else
      let bt ← isBtActived
      if bt then pure .bluetoothSco
      else if w.dcall.audioDevices.isWiredHeadsetConnected then pure .wiredHeadset
      else
        let hearingAid ← isPreferred .bluetoothHearingAid
        if hearingAid then pure .bluetoothHearingAid else pure .unknown

/-- `GetInitAudioDeviceType` (lines 1301-1339). -/
def getInitAudioDeviceType (callObjectPtr : Option Ref) : AudioCode AudioDeviceType := do
  let w ← get
  if w.audioInterruptState = .deactivated then pure .disable
  else if w.isConnected then
    let platform ← ask
    pure ((platform.preferredOutput (deviceOf .unknown)).getD (deviceOf .unknown)).deviceType
  else
    let deviceType ← getInitAudioDeviceTypeOfRemote
    if deviceType ≠ .unknown then pure deviceType
    else
      let speaks (liveCall : Ref) : Bool :=
        (w.call liveCall).videoState = .video ∨ (w.call liveCall).callType = .satellite ∨
          (w.call liveCall).callType = .bluetooth
      let liveCall := callObjectPtr.or (w.ofStore (StoreCode.getForegroundCall true))
      if liveCall.any speaks then pure .speaker
      else if w.dcall.audioDevices.isEarpieceAvailable then pure .earpiece
      else pure .speaker

/-- `ReportAudioDeviceChange` (audio_device_manager.cpp:640-668), without the report. -/
def reportAudioDeviceChange (device : AudioDevice) : AudioCode Unit := do
  let w ← get
  runIf (w.audioDeviceType = .unknown) do
    let audioDeviceType ← getInitAudioDeviceType none
    modify fun w => { w with audioDeviceType := audioDeviceType }
  let w ← get
  if w.audioDeviceType = .bluetoothSco then pure ()
  else if w.isDistributedDev device then pure ()
  else
    runIf (AudioDeviceManager.isDistributedAudioDeviceType w.audioDeviceType = true)
      (discard getConnectedDCallDeviceAddr)

/-- What both `SetCurrentAudioDevice` begin with: a distributed device is left. -/
def leaveDistributed (deviceType : AudioDeviceType) : AudioCode Unit := do
  let w ← get
  runIf (AudioDeviceManager.isDistributedAudioDeviceType deviceType = false ∧
      AudioDeviceManager.isDistributedAudioDeviceType w.audioDeviceType = true)
    (switchOffDCallDeviceSync json)

/-- `SetCurrentAudioDevice(device)` (lines 599-608). -/
def setCurrentAudioDevice (device : AudioDevice) : AudioCode Unit := do
  leaveDistributed json device.deviceType
  modify fun w => { w with audioDeviceType := device.deviceType }
  reportAudioDeviceChange device

/-- `SetCurrentAudioDevice(deviceType)` (lines 567-583). -/
def setCurrentAudioDeviceType (deviceType : AudioDeviceType) : AudioCode Unit := do
  leaveDistributed json deviceType
  let w ← get
  if deviceType = .earpiece ∧ w.ofStore StoreCode.hasSatelliteCallExist = true then
    modify fun w => { w with audioDeviceType := .speaker }
  else setCurrentAudioDevice json (deviceOf deviceType)

/-- `EnableSpeaker`, `EnableEarpiece`, `EnableWiredHeadset`, `EnableBtSco`, `EnableNearlink` and
    `EnableBtHearingAid` (lines 485-551): a device that is there and becomes active is the
    current one. -/
def enable (deviceType : AudioDeviceType) (enabled : Bool) : AudioCode Bool := do
  if enabled then
    setCurrentAudioDeviceType json deviceType
    pure true
  else pure false

/-- `SwitchDevice` (lines 449-483), with `DisableAll` (lines 552-565). -/
def switchDevice (device : AudioDeviceType) : AudioCode Bool :=
  lockGuard .deviceMutex do
    let w ← get
    match device with
    | .earpiece =>
      let platform ← ask
      enable json .earpiece
        (w.dcall.audioDevices.isEarpieceAvailable && platform.setDeviceActive)
    | .speaker =>
      let platform ← ask
      enable json .speaker (w.dcall.audioDevices.isSpeakerAvailable && platform.setDeviceActive)
    | .wiredHeadset =>
      let platform ← ask
      enable json .wiredHeadset
        (w.dcall.audioDevices.isWiredHeadsetConnected && platform.setDeviceActive)
    | .bluetoothSco =>
      let enabled ← isBtActived
      enable json .bluetoothSco enabled
    | .nearlink =>
      let enabled ← isPreferred .nearlink
      enable json .nearlink enabled
    | .bluetoothHearingAid =>
      let enabled ← isPreferred .bluetoothHearingAid
      enable json .bluetoothHearingAid enabled
    | .disable =>
      modify fun w => { w with audioDeviceType := .unknown }
      pure true
    | _ => pure false

/-- `InitAudioDevice` (lines 399-405). -/
def initAudioDevice : AudioCode Bool := do
  let device ← getInitAudioDeviceType none
  switchDevice json device

/-- `UpdateCurrentAudioDevice` (lines 1009-1018). -/
def updateCurrentAudioDevice : AudioCode Unit := do
  let platform ← ask
  match platform.preferredOutput (deviceOf .earpiece) with
  | none => pure ()
  | some device => setCurrentAudioDevice json device

/-- `SwitchOnDCallDeviceSync` (distributed_call_manager.cpp:300-342). -/
def switchOnDCallDeviceSync (device : AudioDevice) : AudioCode Bool := do
  let w ← get
  if w.dcall.isCallActived = false then pure true
  else if isDistributedAudioDevice device = false then pure false
  else if (getDevIdFromAudioDevice json device).length = 0 then pure false
  else
    let switched ← lockGuard .dcallProxyMtx do
      let w ← get
      if w.dcall.dcallProxy = false ∨ w.dcall.isSwitching = true then pure false
      else
        let platform ← ask
        pure platform.switchDevice
    if switched then
      setSwitchedOn true
      setConnectedDCallDevice device
      setCurrentAudioDeviceType json device.deviceType
      pure true
    else pure false

/-- The thread of `SwitchOnDCallDeviceAsync` (lines 386-395). -/
def switchOnDCallDeviceThread (device : AudioDevice) : AudioCode Unit := do
  let _switched ← switchOnDCallDeviceSync json device
  let w ← get
  runIf (w.isCeliaCall = true) (switchOffDCallDeviceSync json)

/-! ### Setting a device -/

/-- `SwitchAudioDevice` (audio_control_manager.cpp:804-822), for a device that is not unknown. -/
def switchAudioDevice (audioDeviceType : AudioDeviceType) : AudioCode Bool := do
  let w ← get
  runIf (w.dcall.dCallDeviceSwitchedOn = true) (switchOffDCallDeviceSync json)
  switchDevice json audioDeviceType

/-- `HandleDistributeAudioDevice` (lines 824-842). -/
def handleDistributeAudioDevice (device : AudioDevice) : AudioCode Bool := do
  let w ← get
  if w.isDistributedDev device then
    let platform ← ask
    pure platform.switchDevice
  else if w.dcall.dCallDeviceSwitchedOn then pure true
  else switchOnDCallDeviceSync json device

/-- `HandleWirelessAudioDevice` and `GetWirelessAudioDeviceAddress` (lines 844-914). -/
def handleWirelessAudioDevice (device : AudioDevice) : AudioCode Bool := do
  let found ←
    if device.address ≠ [] then pure true
    else if device.deviceType = .bluetoothSco then isBtActived
    else isPreferred device.deviceType
  if found then
    let platform ← ask
    pure platform.selectOutputDevice
  else pure false

/-- `SetAudioDevice` (lines 751-802). -/
def setAudioDevice (device : AudioDevice) (isByUser : Bool) : AudioCode Bool := do
  let w ← get
  if w.hasCall = false then pure false
  else if w.ofStore StoreCode.hasSatelliteCallExist = true ∧ device.deviceType = .earpiece then
    pure false
  else
    modify fun w => { w with isSetAudioDeviceByUser := isByUser }
    match device.deviceType with
    | .speaker | .earpiece | .wiredHeadset => switchAudioDevice json device.deviceType
    | .distributedAutomotive | .distributedPhone | .distributedPad | .distributedPc =>
      handleDistributeAudioDevice json device
    | .bluetoothSco | .nearlink | .bluetoothHearingAid =>
      let handled ← handleWirelessAudioDevice device
      if handled then switchAudioDevice json device.deviceType else pure false
    | .disable | .unknown => pure false

/-! ### The audio mode -/

/-- `SetCallAudioMode` (audio_device_manager.cpp:1020-1027). -/
def setCallAudioMode (audioMode audioScene : ℤ) : AudioCode Unit :=
  lockGuard .audioModeMutex do
    modify fun w => { w with audioMode := audioMode, audioScene := audioScene }

/-- `SetAudioDeviceByAudioMode` (lines 1029-1053). -/
def setAudioDeviceByAudioMode (isVoipCall isIncomingCall : Bool) : AudioCode Unit := do
  if isVoipCall then pure ()
  else
    lockGuard .audioModeMutex do
      let w ← get
      if isIncomingCall = false ∧ (w.audioScene = sceneCellularCallIncoming ∨
          w.audioScene = sceneCellularVoipCallIncoming) then pure ()
      else if w.audioMode = audioModeSpeaker then
        let remote ← isRemoteDevicesConnected
        runIf (remote = false) (discard (setAudioDevice json (deviceOf .speaker) false))
      else pure ()

/-- `SetSpeakerDeactive` (lines 1055-1065): the answer of the framework is not used. -/
def setSpeakerDeactive : AudioCode Unit :=
  lockGuard .audioModeMutex do
    let w ← get
    runIf (w.audioMode ≠ audioModeSpeaker) (discard ask)

/-- `IsSpeakerMode` (lines 1067-1071). -/
def isSpeakerMode : AudioCode Bool :=
  reading .audioModeMutex fun w => w.audioMode = audioModeSpeaker

/-! ### Routing -/

/-- `UpdateDeviceForForegroundCall` (audio_control_manager.cpp:322-365). -/
def updateDeviceForForegroundCall (foregroundCall : Ref) : AudioCode Unit := do
  let initDeviceType ← getInitAudioDeviceType (some foregroundCall)
  let w ← get
  if (w.call foregroundCall).videoState = .video ∨
      (w.call foregroundCall).callType = .satellite then
    let deviceType :=
      if AudioControlManager.isExternalAudioDevice initDeviceType then initDeviceType
      else .speaker
    discard (setAudioDevice json (deviceOf deviceType) false)
  else if w.isAudioOnSink then pure ()
  else if (w.callAudio foregroundCall).isAnsweredByPhone = false then pure ()
  else
    let online ← isDistributedCarDeviceOnline
    if online then pure ()
    else if w.isSetAudioDeviceByUser then pure ()
    else
      let speakerMode ← isSpeakerMode
      if speakerMode then setAudioDeviceByAudioMode json false true
      else
        runIf (initDeviceType ≠ w.audioDeviceType)
          (discard (setAudioDevice json (deviceOf initDeviceType) false))

/-- `UpdateDeviceType` (lines 296-320). -/
def updateDeviceType (callObjectPtr : Option Ref) : AudioCode Unit := do
  let w ← get
  match callObjectPtr.or (w.ofStore (StoreCode.getForegroundCall true)) with
  | none => pure ()
  | some foregroundCall =>
    let c := w.call foregroundCall
    if c.callType ≠ .ims ∧ c.callType ≠ .satellite ∧ c.callType ≠ .bluetooth then pure ()
    else
      runIf (c.crsType = crsTypeVideo ∧ c.videoState ≠ .video) setSpeakerDeactive
      updateDeviceForForegroundCall json foregroundCall

/-! ### The list of audio devices -/

/-- A change of the list of audio devices. -/
def updateAudioDevices (f : AudioDeviceManager → AudioDeviceManager) : AudioCode Unit :=
  updateDCall fun m => { m with audioDevices := f m.audioDevices }

/-- `UpdateEarpieceDevice` (audio_device_manager.cpp:115-133). -/
def updateEarpieceDevice : AudioCode Unit := do
  let w ← get
  let platform ← ask
  if w.dcall.audioDevices.isUpdateEarpieceDevice ∨ platform.isSupportEarpiece = true then
    updateAudioDevices fun m => m.updateEarpieceDevice true
  else
    lockGuard .infoMutex do
      updateAudioDevices fun m => m.updateEarpieceDevice false

/-- The loop of `UpdateDeviceName`: whether it gives the name, and the list. -/
def renameDevice (macAddress deviceName : ByteString) (deviceType : AudioDeviceType) :
    List AudioDevice → Bool × List AudioDevice
  | [] => (false, [])
  | device :: list =>
    if device.address = macAddress ∧ device.deviceType = deviceType then
      if maxDeviceNameLen < deviceName.length then (false, device :: list)
      else (true, { device with deviceName := cString deviceName } :: list)
    else
      let (renamed, list) := renameDevice macAddress deviceName deviceType list
      (renamed, device :: list)

/-- `UpdateDeviceName` (lines 151-175). -/
def updateDeviceName (macAddress deviceName : ByteString) (deviceType : AudioDeviceType) :
    AudioCode Bool :=
  lockGuard .infoMutex do
    let w ← get
    let out := renameDevice macAddress deviceName deviceType w.dcall.audioDevices.audioDeviceList
    updateAudioDevices fun m => { m with audioDeviceList := out.2 }
    pure out.1

/-- `UpdateBluetoothDeviceName` (lines 135-142). -/
def updateBluetoothDeviceName (macAddress deviceName : ByteString) : AudioCode Unit := do
  let renamed ← updateDeviceName macAddress deviceName .bluetoothSco
  if renamed then pure ()
  else discard (updateDeviceName macAddress deviceName .bluetoothHearingAid)

/-- `UpdateNearlinkDeviceName` (lines 144-149). -/
def updateNearlinkDeviceName (macAddress deviceName : ByteString) : AudioCode Unit :=
  discard (updateDeviceName macAddress deviceName .nearlink)

/-- `IsBluetoothHeadsetConnect` (lines 178-194). -/
def isBluetoothHeadsetConnect : AudioCode Bool :=
  reading .infoMutex fun w => w.dcall.audioDevices.audioDeviceList.any fun it =>
    it.deviceType ∈ [AudioDeviceType.bluetoothSco, .nearlink, .bluetoothHearingAid]

/-- `AddAudioDeviceList` (lines 197-248). -/
def addAudioDeviceList (address : ByteString) (deviceType : AudioDeviceType)
    (deviceName : ByteString) : AudioCode Unit :=
  lockGuard .infoMutex do
    updateAudioDevices fun m => m.addAudioDeviceList address deviceType deviceName

/-- `RemoveAudioDeviceList` (lines 250-295). -/
def removeAudioDeviceList (address : ByteString) (deviceType : AudioDeviceType) :
    AudioCode Unit :=
  lockGuard .infoMutex do
    let platform ← ask
    updateAudioDevices fun m =>
      m.removeAudioDeviceList platform.isSupportEarpiece address deviceType
    let w ← get
    match w.ofStore StoreCode.getAudioLiveCall with
    | none => pure ()
    | some liveCall =>
      runIf ((w.call liveCall).videoState = .video ∨ (w.call liveCall).callType = .satellite)
        (updateDeviceType json none)

/-- `ResetBtAudioDevicesList` (lines 311-329). -/
def resetBtAudioDevicesList : AudioCode Unit :=
  lockGuard .infoMutex do
    updateAudioDevices fun m => m.resetBtAudioDevicesList

/-- `ResetDistributedCallDevicesList` (lines 331-348). -/
def resetDistributedCallDevicesList : AudioCode Unit :=
  lockGuard .infoMutex do
    updateAudioDevices fun m => m.resetDistributedCallDevicesList

/-- What `ResetNearlinkAudioDevicesList` and `ResetBtHearingAidDeviceList` have in common:
    the lock is released before the device is initialized. -/
def resetWirelessDevicesList (deviceType : AudioDeviceType) : AudioCode Unit := do
  lockGuard .infoMutex do
    updateAudioDevices fun m =>
      { m with audioDeviceList := m.audioDeviceList.filter fun it => it.deviceType ≠ deviceType }
  let w ← get
  runIf (w.audioDeviceType = deviceType) (discard (initAudioDevice json))

/-- `ResetNearlinkAudioDevicesList` (lines 350-373). -/
def resetNearlinkAudioDevicesList : AudioCode Unit := resetWirelessDevicesList json .nearlink

/-- `ResetBtHearingAidDeviceList` (lines 374-397). -/
def resetBtHearingAidDeviceList : AudioCode Unit :=
  resetWirelessDevicesList json .bluetoothHearingAid

/-- The loop of `CheckAndSwitchDistributedAudioDevice`, which asks for each car until the
    platform prefers it. -/
def switchToCar : List AudioDevice → AudioCode Bool
  | [] => pure false
  | it :: list =>
    if it.deviceType = .distributedAutomotive then do
      let preferred ← isDistributedPreferredOutputAudioDevice
      if preferred then
        switchOnDCallDeviceAsync it
        pure true
      else switchToCar list
    else switchToCar list

/-- `CheckAndSwitchDistributedAudioDevice` (lines 616-632). -/
def checkAndSwitchDistributedAudioDevice : AudioCode Bool :=
  lockGuard .infoMutex do
    setCallState true
    let w ← get
    switchToCar w.dcall.audioDevices.audioDeviceList

/-- `OnActivedCallDisconnected` (lines 634-638). -/
def onActivedCallDisconnected : AudioCode Unit := do
  setCallState false
  dealDisconnectCall

/-- `ProcessEvent` (lines 407-447). -/
def processEvent : DeviceEvent → AudioCode Bool
  | .audioActivated | .audioRinging => do
    let w ← get
    if w.isAudioActivated then pure false
    else
      modify fun w => { w with isAudioActivated := true }
      let platform ← ask
      match platform.preferredOutput (deviceOf .earpiece) with
      | none => pure false
      | some device =>
        setCurrentAudioDeviceType json device.deviceType
        pure false
  | .audioDeactivated => do
    let w ← get
    if w.isAudioActivated then
      modify fun w => { w with isAudioActivated := false }
      initAudioDevice json
    else pure false
  | .initAudioDevice => initAudioDevice json
  | .wiredHeadsetDisconnected => do
    let w ← get
    if w.isAudioActivated = false then pure false
    else
      let _switched ← checkAndSwitchDistributedAudioDevice
      pure false
  | .other => pure false

/-! ### Devices that come and go -/

/-- `CreateDAudioDevice` (distributed_call_manager.cpp:106-147), of a device that the service
    describes by `devInfo`. -/
def createDAudioDevice (devId : ByteString) (devInfo : Option DCallDeviceInfo) :
    AudioCode (Option AudioDevice) :=
  if devId.length = 0 then pure none
  else reading .dcallProxyMtx fun w => w.dcall.createDAudioDevice json devId devInfo

/-- `AddDCallDevice` (lines 179-207). -/
def addDCallDevice (devId : ByteString) (devInfo : Option DCallDeviceInfo) : AudioCode Bool :=
  lockGuard .onlineDeviceMtx do
    let w ← get
    if w.dcall.onlineDCallDevices.Mem devId then pure true
    else
      let device ← createDAudioDevice json devId devInfo
      match device with
      | none => pure false
      | some device =>
        addAudioDeviceList device.address device.deviceType []
        updateDCall fun m =>
          { m with onlineDCallDevices := m.onlineDCallDevices.insert ⟨devId, device⟩ }
        if (w.dcall.dCallDeviceSwitchedOn = false ∧ w.dcall.isCallActived = true) ∧
            device.deviceType = .distributedAutomotive then
          let preferred ← isDistributedPreferredOutputAudioDevice
          runIf (preferred = true) (switchOnDCallDeviceAsync device)
          pure true
        else pure true

/-- `RemoveDCallDevice` (lines 209-230). -/
def removeDCallDevice (devId : ByteString) : AudioCode Unit :=
  lockGuard .onlineDeviceMtx do
    let w ← get
    match w.dcall.onlineDCallDevices.lookup devId with
    | none => pure ()
    | some iter =>
      let curDevId ← getConnectedDCallDeviceId json
      removeAudioDeviceList json iter.device.address iter.device.deviceType
      updateDCall fun m => { m with onlineDCallDevices := m.onlineDCallDevices.erase devId }
      runIf (curDevId = getDevIdFromAudioDevice json iter.device) do
        setSwitchedOn false
        clearConnectedDCallDevice
        discard (initAudioDevice json)

/-- `ClearDCallDevices` (lines 232-237). -/
def clearDCallDevices : AudioCode Unit :=
  lockGuard .onlineDeviceMtx do
    updateDCall fun m => { m with onlineDCallDevices := OrderedMap.empty _ }

/-- `NotifyOnlineDCallDevices` (lines 239-247): each device with what the service tells of it. -/
def notifyOnlineDCallDevices : List (ByteString × Option DCallDeviceInfo) → AudioCode Unit
  | [] => pure ()
  | item :: devices => do
    let _ret ← addDCallDevice json item.1 item.2
    notifyOnlineDCallDevices devices

/-- `OnDCallSystemAbilityAdded` (lines 548-581). `devices` are the devices that are online, or
    nothing if the proxy is not initialized, registered and asked with success. -/
def onDCallSystemAbilityAdded (devices : Option (List (ByteString × Option DCallDeviceInfo))) :
    AudioCode Unit := do
  lockGuard .dcallProxyMtx do
    updateDCall fun m => { m with dcallProxy := true }
  match devices with
  | none => pure ()
  | some dcallDevices => notifyOnlineDCallDevices json dcallDevices

/-- `OnDCallSystemAbilityRemoved` (lines 583-599). -/
def onDCallSystemAbilityRemoved : AudioCode Unit := do
  lockGuard .dcallProxyMtx do
    updateDCall fun m => { m with dcallProxy := false }
  clearDCallDevices
  clearConnectedDCallDevice
  resetDistributedCallDevicesList
  let w ← get
  runIf (w.dcall.dCallDeviceSwitchedOn = true) (discard (initAudioDevice json))
  setSwitchedOn false

/-! ### The audio of a call -/

/-- `IsInEarAudioDevice` (audio_control_manager.cpp:243-252). -/
def isInEarAudioDevice (initDeviceType : AudioDeviceType) : Bool :=
  initDeviceType ∈ [AudioDeviceType.wiredHeadset, .bluetoothSco, .nearlink, .bluetoothHearingAid]

/-- `CheckTypeAndSetAudioDevice` (lines 266-294). -/
def checkTypeAndSetAudioDevice (call : Ref) (priorVideoState nextVideoState : VideoStateType)
    (initDeviceType : AudioDeviceType) (device : AudioDevice) : AudioCode Unit := do
  let w ← get
  let callState := (w.call call).callState
  let external := AudioControlManager.isExternalAudioDevice initDeviceType
  if priorVideoState ≠ .video ∧ nextVideoState = .video ∧ callState ≠ .incoming ∧
      callState ≠ .waiting then
    if (w.callAudio call).originalCallType = voiceType ∧
        (callState = .dialing ∨ callState = .alerting ∨ callState = .disconnected) then pure ()
    else
      discard (setAudioDevice json
        { device with deviceType := if external then initDeviceType else device.deviceType } false)
  else if w.isAudioOnSink = false ∧ w.isSetAudioDeviceByUser = false ∧ priorVideoState = .video ∧
      nextVideoState ≠ .video then
    discard (setAudioDevice json
      { device with deviceType := if external then initDeviceType else .earpiece } false)
  else pure ()

/-- `VideoStateUpdated` (lines 207-241). -/
def videoStateUpdated (call : Ref) (priorVideoState nextVideoState : VideoStateType) :
    AudioCode Unit := do
  let w ← get
  if (w.call call).callType ≠ .ims ∧ (w.call call).callType ≠ .bluetooth then pure ()
  else
    let initDeviceType ← getInitAudioDeviceType none
    modify fun w => { w with initCrsDeviceType := initDeviceType }
    if (w.call call).crsType = crsTypeVideo ∧ w.isVoIPCallActived = false then
      let platform ← ask
      if platform.ringerMode ≠ .normal then
        runIf (isInEarAudioDevice initDeviceType = true)
          (discard (setAudioDevice json (deviceOf initDeviceType) false))
      else discard (setAudioDevice json (deviceOf .speaker) false)
    else
      checkTypeAndSetAudioDevice json call priorVideoState nextVideoState initDeviceType
        (deviceOf .speaker)

/-- `AdjustDeviceForCrs` (lines 392-414): the type that the device gets. -/
def adjustDeviceForCrs (deviceType : AudioDeviceType) : AudioCode AudioDeviceType := do
  let platform ← ask
  if platform.ringerMode = .normal then pure deviceType
  else
    let initDeviceType ← getInitAudioDeviceType none
    pure (if isInEarAudioDevice initDeviceType then initDeviceType else deviceType)

/-- `UpdateDeviceTypeForCrs` (lines 367-390). -/
def updateDeviceTypeForCrs (deviceType : AudioDeviceType) : AudioCode Unit := do
  let w ← get
  match w.ofStore (StoreCode.getOneCallObjectInState .ringing) with
  | none => pure ()
  | some incomingCall =>
    if (w.callAudio incomingCall).isAnswered then pure ()
    else if (w.call incomingCall).crsType = crsTypeVideo ∧ w.isVoIPCallActived = false then
      let adjusted ← adjustDeviceForCrs .speaker
      modify fun w => { w with initCrsDeviceType := deviceType }
      runIf (adjusted ≠ deviceType) (discard (setAudioDevice json (deviceOf adjusted) false))
    else pure ()

/-- `UpdateDeviceTypeForVideoDialing` (lines 416-434). -/
def updateDeviceTypeForVideoDialing : AudioCode Unit := do
  let w ← get
  match w.ofStore (StoreCode.getOneCallObjectInState .dialing) with
  | none => pure ()
  | some dialingCall =>
    if (w.call dialingCall).videoState = .video then
      let initDeviceType ← getInitAudioDeviceType none
      let deviceType := if isInEarAudioDevice initDeviceType then initDeviceType else .speaker
      discard (setAudioDevice json (deviceOf deviceType) false)
    else pure ()

/-- `PlaySoundtone` (lines 1188-1224), up to the renderer. -/
def playSoundtone : AudioCode Bool := do
  let w ← get
  let platform ← ask
  if platform.shouldPlaySoundTone = false then pure false
  else if w.isSounding then pure false
  else
    modify fun w => { w with isSounding := true }
    pure true

/-- `StopSoundtone` (lines 1226-1247). -/
def stopSoundtone : AudioCode Unit := do
  let w ← get
  runIf (w.isSounding = true) do
    modify fun w => { w with isSounding := false, isCrsStartSoundTone := false }

/-- `StopVibrator` (lines 538-553). -/
def stopVibrator : AudioCode Unit :=
  modify fun w => { w with isCrsVibrating := false, isVideoRingVibrating := false }

/-- `DealCrsScene` (lines 1070-1112). -/
def dealCrsScene (ringMode : AudioRingerMode) : AudioCode Bool := do
  let w ← get
  let platform ← ask
  let vibrates : Bool := w.isCrsVibrating = false ∧ ringMode ≠ .silent ∧
    platform.isRingingVibrateModeOn = true
  runIf (vibrates = true) do
    modify fun w => { w with isCrsVibrating := platform.startVibrator }
  if vibrates ∧ w.ofStore (StoreCode.getCallNum .incoming false) = 0 then
    modify fun w => { w with isCrsVibrating := false }
    pure false
  else
    let remote ← isRemoteDevicesConnected
    if ringMode = .normal ∨ remote = true then
      modify fun w => { w with isCrsStartSoundTone := true }
      runIf (w.isVoIPCallActived = false ∧ ringMode = .normal)
        (discard (setAudioDevice json (deviceOf .speaker) false))
      playSoundtone
    else pure true

end AudioCode

/-- `ShouldPlayRingtone` (lines 1569-1580). -/
def AudioManagers.shouldPlayRingtone (w : AudioManagers) : Bool :=
  ¬ (w.processor.getCallNumber .incoming = 0 ∨ 0 < w.processor.getCallNumber .alerting ∨
    w.isRinging = true ∨
      w.isSounding = true ∧ w.ofStore StoreCode.hasIncomingCallCrsType = true)

namespace AudioCode

variable (json : JsonLibrary)

/-- `PlayRingtone` (lines 958-987), up to the ring. -/
def playRingtone : AudioCode Bool := do
  let w ← get
  if w.shouldPlayRingtone = false then pure false
  else
    match w.ofStore (StoreCode.getOneCallObjectInState .ringing) with
    | none => pure false
    | some incomingCall =>
      let c := w.call incomingCall
      let platform ← ask
      if c.crsType = crsTypeVideo then dealCrsScene json platform.ringerMode
      else if StoreCode.isVideoRing c.personalNotificationRingtone c.ringtonePath then
        runIf ((platform.ringerMode = .normal ∧ platform.isRingingVibrateModeOn = true) ∨
            platform.ringerMode = .vibrate) do
          modify fun w => { w with isVideoRingVibrating := platform.startVibrator }
        pure true
      else pure true

/-- `MuteRinger` (lines 1385-1434): what it does to the vibrations. -/
def muteRinger : AudioCode Unit := do
  modify fun w => { w with isVideoRingVibrating := false }
  let w ← get
  match w.ofStore (StoreCode.getOneCallObjectInState .ringing) with
  | none => pure ()
  | some incomingCall =>
    runIf ((w.call incomingCall).crsType = crsTypeVideo ∧ w.isVoIPCallActived = false) do
      modify fun w => { w with isCrsVibrating := false }

/-- `ResumeCrsSoundTone` (lines 700-723). -/
def resumeCrsSoundTone : AudioCode Unit := do
  let platform ← ask
  let device := (platform.preferredOutput (deviceOf .earpiece)).getD (deviceOf .earpiece)
  let speakerMode ← isSpeakerMode
  let remote ← isRemoteDevicesConnected
  let w ← get
  runIf ((speakerMode = false ∨ remote = true) ∧ device.deviceType = .speaker ∧
      w.initCrsDeviceType ≠ .speaker)
    (discard (setAudioDevice json { device with deviceType := w.initCrsDeviceType } false))
  modify fun w => { w with isCrsStartSoundTone := false }

/-- `ProcessSoundtone` (lines 674-698). -/
def processSoundtone (call : Ref) : AudioCode Unit := do
  let w ← get
  let ringCallCount := w.ofStore (StoreCode.getCallNumByRunningState .ringing)
  let minMulityCall : ℤ := if (w.callAudio call).isAnsweredByPhone then 1 else 2
  if minMulityCall ≤ (w.ofStore (StoreCode.getCurrentCallNum w.storeEnv) : ℤ) - ringCallCount then
    pure ()
  else if w.isCrsStartSoundTone then
    runIf ((w.callAudio call).isAnsweredByPhone = true) (resumeCrsSoundTone json)
  else
    stopSoundtone
    discard playSoundtone

/-- `ProcessAudioWhenCallActive` (lines 663-672). -/
def processAudioWhenCallActive (call : Ref) : AudioCode Unit := do
  let w ← get
  runIf ((w.call call).callRunningState = .active ∨
      (w.call call).callRunningState = .ringing) do
    stopVibrator
    processSoundtone json call
    updateDeviceType json (some call)

/-- A change of the sets of the calls. -/
def updateProcessor (f : CallStateProcessor → CallStateProcessor) : AudioCode Unit :=
  modify fun w => { w with processor := f w.processor }

/-- `PreHandleAnswerdState` (lines 444-487). -/
def preHandleAnswerdState (call : Ref) (priorState nextState : TelCallState) :
    AudioCode Bool := do
  let w ← get
  let callId := (w.call call).callId
  let isMtCallActived : Bool := nextState = .active ∧
    (priorState = .incoming ∨ priorState = .waiting)
  if (w.callAudio call).isAnsweredByPhone = false then
    if nextState = .answered ∧ priorState = .incoming then
      updateProcessor (·.deleteCall callId priorState)
      modify fun w =>
        { w with
          callAudio := Function.update w.callAudio call
            { w.callAudio call with isAnsweredByPhone := true } }
      muteRinger
      setAudioDeviceByAudioMode json false true
      pure true
    else pure true
  else if isMtCallActived = true ∨ (nextState = .incoming ∧ nextState = priorState) ∨
      (nextState = .answered ∧ priorState = .incoming) then
    updateProcessor (·.deleteCall callId priorState)
    pure false
  else
    runIf (nextState = .disconnecting ∨ nextState = .disconnected) do
      updateProcessor (·.deleteCall callId .active)
    pure true

/-- `HandleNextState` (lines 555-601), up to the event it queues. -/
def handleNextState (call : Ref) (nextState : TelCallState) : AudioCode Unit := do
  let w ← get
  updateProcessor (·.addCall (w.call call).callId nextState)
  match nextState with
  | .dialing | .alerting | .waiting | .incoming =>
    modify fun w => { w with audioInterruptState := .ringing }
  | .active | .answered => modify fun w => { w with audioInterruptState := .activated }
  | .disconnecting | .disconnected =>
    runIf (w.ofStore StoreCode.hasIncomingCallCrsType = false ∧
      w.ofStore StoreCode.hasIncomingCallVideoRingType = false) stopVibrator
    modify fun w => { w with audioInterruptState := .deactivated }
  | .unknown | .holding | .idle => pure ()

/-- `HandlePriorState` (lines 617-661), up to the event it queues. -/
def handlePriorState (call : Ref) (priorState : TelCallState) : AudioCode Unit := do
  let w ← get
  updateProcessor (·.deleteCall (w.call call).callId priorState)
  runIf (priorState = .incoming ∨ priorState = .waiting) (processAudioWhenCallActive json call)

/-- `HandleCallStateUpdated` (lines 489-520), without the exclusion of Bluetooth and the sound
    tone of a call that is repeated. -/
def handleCallStateUpdated (call : Ref) (priorState nextState : TelCallState) :
    AudioCode Unit := do
  let goesOn ← preHandleAnswerdState json call priorState nextState
  if goesOn = false then pure ()
  else
    handleNextState call nextState
    runIf (priorState ≠ nextState) (handlePriorState json call priorState)

/-- `UpdateForegroundLiveCall` (lines 98-145), without the microphone. -/
def updateForegroundLiveCall : AudioCode Unit := do
  let w ← get
  let callId := w.processor.getAudioForegroundLiveCall
  if callId = invalidCallId then pure ()
  else
    match w.ofStore (StoreCode.getOneCallObject callId) with
    | none => pure ()
    | some liveCall =>
      if (w.call liveCall).callState = .waiting then
        if w.ofStore StoreCode.isVoipCallExist then pure ()
        else if w.isWearableDevice ∧ w.isNotWearOnWrist then pure ()
        else discard (playRingtone json)
      else pure ()

/-- `HandleCallStateUpdatedForVoip` (lines 147-168). -/
def handleCallStateUpdatedForVoip (priorState nextState : TelCallState) : AudioCode Unit := do
  let w ← get
  if (priorState = .incoming ∧ nextState = .incoming) ∨
      (priorState = .dialing ∧ nextState = .dialing) then
    if w.ofStore (StoreCode.getVoipCallNum false) = 1 then
      let platform ← ask
      match platform.preferredOutput (deviceOf .earpiece) with
      | none => pure ()
      | some device => setCurrentAudioDeviceType json device.deviceType
    else pure ()
  else pure ()

/-- `CallStateUpdated` (lines 170-205), without `totalCalls_`. -/
def callStateUpdated (call : Ref) (priorState nextState : TelCallState) : AudioCode Unit := do
  let w ← get
  if (w.call call).callType = .voip then handleCallStateUpdatedForVoip json priorState nextState
  else
    lockGuard .controlMutex do
      handleCallStateUpdated json call priorState nextState
      updateForegroundLiveCall json

/-- `GetCallList` and `GetCallBase` (lines 1499-1525), which read `totalCalls_`. -/
def readTotalCalls : AudioCode Unit := reading .controlMutex fun _ => ()

/-- `GetCurrentActiveCall` (lines 1505-1512). -/
def getCurrentActiveCall : AudioCode Unit := do
  let w ← get
  if (firstOf w.processor.activeCalls).getD invalidCallId = invalidCallId then pure ()
  else readTotalCalls

end AudioCode

/-! ### The operations -/

/-- The public operations of the three managers that use one of the mutexes, and the
    thread of `SwitchOnDCallDeviceAsync`. The operations for which a service is asked carry
    what it tells of the devices. -/
inductive AudioOperation
  -- AudioDeviceManager
  | initAudioDevice
  | processEvent (event : DeviceEvent)
  | switchDevice (device : AudioDeviceType)
  | addAudioDeviceList (address : ByteString) (deviceType : AudioDeviceType)
      (deviceName : ByteString)
  | removeAudioDeviceList (address : ByteString) (deviceType : AudioDeviceType)
  | resetBtAudioDevicesList
  | resetDistributedCallDevicesList
  | resetNearlinkAudioDevicesList
  | resetBtHearingAidDeviceList
  | reportAudioDeviceChange (device : AudioDevice)
  | checkAndSwitchDistributedAudioDevice
  | setCurrentAudioDeviceType (deviceType : AudioDeviceType)
  | setCurrentAudioDevice (device : AudioDevice)
  | onActivedCallDisconnected
  | updateEarpieceDevice
  | updateBluetoothDeviceName (macAddress deviceName : ByteString)
  | updateNearlinkDeviceName (macAddress deviceName : ByteString)
  | updateCurrentAudioDevice
  | setCallAudioMode (audioMode audioScene : ℤ)
  | setAudioDeviceByAudioMode (isVoipCall isIncomingCall : Bool)
  | setSpeakerDeactive
  | isSpeakerMode
  | isBluetoothHeadsetConnect
  -- AudioControlManager
  | setAudioDevice (device : AudioDevice) (isByUser : Bool)
  | playRingtone
  | getCallList
  | getCurrentActiveCall
  | callStateUpdated (call : Ref) (priorState nextState : TelCallState)
  | videoStateUpdated (call : Ref) (priorVideoState nextVideoState : VideoStateType)
  | checkTypeAndSetAudioDevice (call : Ref) (priorVideoState nextVideoState : VideoStateType)
      (initDeviceType : AudioDeviceType) (device : AudioDevice)
  | updateDeviceType (callObjectPtr : Option Ref)
  | updateDeviceTypeForCrs (deviceType : AudioDeviceType)
  | updateDeviceTypeForVideoDialing
  -- DistributedCallManager
  | addDCallDevice (devId : ByteString) (devInfo : Option DCallDeviceInfo)
  | removeDCallDevice (devId : ByteString)
  | clearDCallDevices
  | clearConnectedDCallDevice
  | getConnectedDCallDeviceAddr
  | getConnectedDCallDeviceType
  | getConnectedDCallDevice
  | getConnectedDCallDeviceId
  | switchOffDCallDeviceSync
  | switchOnDCallDeviceSync (device : AudioDevice)
  | switchOnDCallDeviceThread (device : AudioDevice)
  | dealDisconnectCall
  | isDistributedCarDeviceOnline
  | isSelectVirtualModem
  | onDCallDeviceOnline (devId : ByteString) (devInfo : Option DCallDeviceInfo)
  | onDCallDeviceOffline (devId : ByteString)
  | onDCallSystemAbilityAdded (devices : Option (List (ByteString × Option DCallDeviceInfo)))
  | onDCallSystemAbilityRemoved

namespace AudioOperation

variable (json : JsonLibrary)

/-- The program of an operation. `OnDCallDeviceOnline` and `OnDCallDeviceOffline`
    (distributed_call_manager.cpp:524-534) pass the device on. -/
def code : AudioOperation → AudioCode Unit
  | .initAudioDevice => discard (AudioCode.initAudioDevice json)
  | .processEvent event => discard (AudioCode.processEvent json event)
  | .switchDevice device => discard (AudioCode.switchDevice json device)
  | .addAudioDeviceList address deviceType deviceName =>
    AudioCode.addAudioDeviceList address deviceType deviceName
  | .removeAudioDeviceList address deviceType =>
    AudioCode.removeAudioDeviceList json address deviceType
  | .resetBtAudioDevicesList => AudioCode.resetBtAudioDevicesList
  | .resetDistributedCallDevicesList => AudioCode.resetDistributedCallDevicesList
  | .resetNearlinkAudioDevicesList => AudioCode.resetNearlinkAudioDevicesList json
  | .resetBtHearingAidDeviceList => AudioCode.resetBtHearingAidDeviceList json
  | .reportAudioDeviceChange device => AudioCode.reportAudioDeviceChange device
  | .checkAndSwitchDistributedAudioDevice =>
    discard AudioCode.checkAndSwitchDistributedAudioDevice
  | .setCurrentAudioDeviceType deviceType => AudioCode.setCurrentAudioDeviceType json deviceType
  | .setCurrentAudioDevice device => AudioCode.setCurrentAudioDevice json device
  | .onActivedCallDisconnected => AudioCode.onActivedCallDisconnected
  | .updateEarpieceDevice => AudioCode.updateEarpieceDevice
  | .updateBluetoothDeviceName macAddress deviceName =>
    AudioCode.updateBluetoothDeviceName macAddress deviceName
  | .updateNearlinkDeviceName macAddress deviceName =>
    AudioCode.updateNearlinkDeviceName macAddress deviceName
  | .updateCurrentAudioDevice => AudioCode.updateCurrentAudioDevice json
  | .setCallAudioMode audioMode audioScene => AudioCode.setCallAudioMode audioMode audioScene
  | .setAudioDeviceByAudioMode isVoipCall isIncomingCall =>
    AudioCode.setAudioDeviceByAudioMode json isVoipCall isIncomingCall
  | .setSpeakerDeactive => AudioCode.setSpeakerDeactive
  | .isSpeakerMode => discard AudioCode.isSpeakerMode
  | .isBluetoothHeadsetConnect => discard AudioCode.isBluetoothHeadsetConnect
  | .setAudioDevice device isByUser => discard (AudioCode.setAudioDevice json device isByUser)
  | .playRingtone => discard (AudioCode.playRingtone json)
  | .getCallList => AudioCode.readTotalCalls
  | .getCurrentActiveCall => AudioCode.getCurrentActiveCall
  | .callStateUpdated call priorState nextState =>
    AudioCode.callStateUpdated json call priorState nextState
  | .videoStateUpdated call priorVideoState nextVideoState =>
    AudioCode.videoStateUpdated json call priorVideoState nextVideoState
  | .checkTypeAndSetAudioDevice call priorVideoState nextVideoState initDeviceType device =>
    AudioCode.checkTypeAndSetAudioDevice json call priorVideoState nextVideoState initDeviceType
      device
  | .updateDeviceType callObjectPtr => AudioCode.updateDeviceType json callObjectPtr
  | .updateDeviceTypeForCrs deviceType => AudioCode.updateDeviceTypeForCrs json deviceType
  | .updateDeviceTypeForVideoDialing => AudioCode.updateDeviceTypeForVideoDialing json
  | .addDCallDevice devId devInfo | .onDCallDeviceOnline devId devInfo =>
    discard (AudioCode.addDCallDevice json devId devInfo)
  | .removeDCallDevice devId | .onDCallDeviceOffline devId =>
    AudioCode.removeDCallDevice json devId
  | .clearDCallDevices => AudioCode.clearDCallDevices
  | .clearConnectedDCallDevice => AudioCode.clearConnectedDCallDevice
  | .getConnectedDCallDeviceAddr => discard AudioCode.getConnectedDCallDeviceAddr
  | .getConnectedDCallDeviceType => discard AudioCode.getConnectedDCallDeviceType
  | .getConnectedDCallDevice => discard AudioCode.getConnectedDCallDevice
  | .getConnectedDCallDeviceId => discard (AudioCode.getConnectedDCallDeviceId json)
  | .switchOffDCallDeviceSync => AudioCode.switchOffDCallDeviceSync json
  | .switchOnDCallDeviceSync device => discard (AudioCode.switchOnDCallDeviceSync json device)
  | .switchOnDCallDeviceThread device => AudioCode.switchOnDCallDeviceThread json device
  | .dealDisconnectCall => AudioCode.dealDisconnectCall
  | .isDistributedCarDeviceOnline => discard AudioCode.isDistributedCarDeviceOnline
  | .isSelectVirtualModem => discard AudioCode.isSelectVirtualModem
  | .onDCallSystemAbilityAdded devices => AudioCode.onDCallSystemAbilityAdded json devices
  | .onDCallSystemAbilityRemoved => AudioCode.onDCallSystemAbilityRemoved json

end AudioOperation

end CallManager.AudioLocks
