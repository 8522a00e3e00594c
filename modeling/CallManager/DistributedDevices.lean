import CallManager.AudioDeviceList
import CallManager.Library.OrderedMap

/-!
# The devices of distributed calls

`DistributedCallManager` keeps which device the audio of the call was switched to,
`connectedAudioDevice_`, with a flag `dCallDeviceSwitchedOn_`, and the devices that are
online, `onlineDCallDevices_`; each of these also has an entry on the list of the audio
devices. A switch to a device is asked of the platform under `dcallProxyMtx_`, in the
caller's thread or in one of its own. Whether a call is active is checked before the
request and what it was switched to is recorded after the answer, when the call may
have ended and the device may have left: nothing is checked then.

Specification (`DevicesOk`): the flag is up iff the connected device is a distributed
one; if it is up, that device is online and a call is active, so without an active call
and without a switch on the way it is down; the audio device list has one distributed
entry for each device that is online and no other.

Each event is one step. A switch has one step before `dcallProxyMtx_`, one that takes
it, one at the platform's answer, which releases it, and one that records the answer;
what needs the mutex meanwhile waits. The address of a device is a JSON text; the
JSON library is a parameter. What the routing does with a device that leaves, the
reports and the platform's choice of an output device are left out.

Results:
* `devicesOk_iff`: the specification holds throughout a run iff each switch that the
  platform grants is recorded while its device is online and a call is active.
* `late_switch_stays`: a switch that is granted and recorded after the call ended.
-/

namespace CallManager.DistributedDevices

/-! ## Model -/

/-- What the code uses of the JSON library: the text of an object with the texts
    `devName` and `devId`, which the library refuses for texts that are not UTF-8, and
    the text `devId` of the object in a text. -/
structure JsonLibrary where
  dump : (devName devId : ByteString) → Option ByteString
  devId : (text : ByteString) → Option ByteString

/-- The library reads what it writes; it writes some text, without zero bytes. -/
structure JsonLibrary.RoundTrips (json : JsonLibrary) : Prop where
  devId_dump : ∀ devName devId text, json.dump devName devId = some text →
    json.devId text = some devId
  dump_ne_nil : ∀ devName devId, json.dump devName devId ≠ some []
  notMem_dump : ∀ devName devId text, json.dump devName devId = some text → 0 ∉ text

/-- `DCallDeviceType` (dcall_device_info.h). -/
inductive DCallDeviceType
  | unknown | car | phone | pad
  deriving DecidableEq, Repr

/-- The type of the audio device that `CreateDAudioDevice` makes
    (distributed_call_manager.cpp:128-137). -/
def DCallDeviceType.audioDeviceType : DCallDeviceType → AudioDeviceType
  | .phone => .distributedPhone
  | .pad => .distributedPad
  | .unknown | .car => .distributedAutomotive

/-- `DCallDeviceInfo`, without the id. -/
structure DCallDeviceInfo where
  devName : ByteString
  devType : DCallDeviceType
  deriving DecidableEq, Repr

/-- `IsDistributedAudioDevice` (lines 64-72). -/
def isDistributedAudioDevice (device : AudioDevice) : Bool :=
  device.deviceType = .distributedPhone ∨ device.deviceType = .distributedPad ∨
    device.deviceType = .distributedAutomotive

/-- `GetDevIdFromAudioDevice` (lines 149-177). -/
def getDevIdFromAudioDevice (json : JsonLibrary) (device : AudioDevice) : ByteString :=
  if isDistributedAudioDevice device = false then []
  else if device.address.length = 0 then []
  else (json.devId device.address).getD []

/-- An entry of `onlineDCallDevices_`. -/
structure OnlineDevice where
  devId : ByteString
  device : AudioDevice
  deriving DecidableEq, Repr

/-- A device that `SwitchOnDCallDeviceSync` asks the platform to switch to. -/
structure SwitchTarget where
  device : AudioDevice
  distributed : isDistributedAudioDevice device = true
  deriving DecidableEq

/-- Where a switch is. The thread of `SwitchOnDCallDeviceAsync` (`async`) goes on after
    `SwitchOnDCallDeviceSync`. -/
inductive Switch
  /-- The thread is there and has not begun. -/
  | onCreated (device : AudioDevice)
  /-- Before `dcallProxyMtx_`. -/
  | onChecked (target : SwitchTarget) (async : Bool)
  /-- In `SwitchDevice`, with the mutex. -/
  | onSent (target : SwitchTarget) (async : Bool)
  /-- The mutex is released, and the answer is not recorded. -/
  | onAnswered (target : SwitchTarget) (async granted : Bool)
  /-- The thread is back from `SwitchOnDCallDeviceSync`. -/
  | onReturned
  | offChecked (devId : ByteString)
  | offSent
  | offAnswered (granted : Bool)
  deriving DecidableEq

/-- The switch has `dcallProxyMtx_`. -/
def Switch.holdsProxyMtx : Switch → Bool
  | .onSent _ _ | .offSent => true
  | _ => false

/-- The manager, the audio devices, and the switches on the way. -/
structure DCallWorld where
  isCallActived : Bool
  dCallDeviceSwitchedOn : Bool
  connectedAudioDevice : AudioDevice
  onlineDCallDevices : OrderedMap OnlineDevice.devId
  dcallProxy : Bool
  isSwitching : Bool
  audioDevices : AudioDeviceManager
  switches : List Switch

/-- What the platform says when a device comes: `GetDCallDeviceInfo`,
    `IsDistributedPreferredOutputAudioDevice` and `isCeliaCall`. -/
structure OnlineAnswers where
  devInfo : Option DCallDeviceInfo
  preferred : Bool
  celiaCall : Bool
  deriving DecidableEq, Repr

namespace DCallWorld

/-- The state the process starts with. -/
def init (isWearable : Bool) : DCallWorld where
  isCallActived := false
  dCallDeviceSwitchedOn := false
  connectedAudioDevice := ⟨.unknown, [], []⟩
  onlineDCallDevices := OrderedMap.empty _
  dcallProxy := false
  isSwitching := false
  audioDevices := .init isWearable
  switches := []

/-- Some switch has `dcallProxyMtx_`. -/
def proxyMtxHeld (w : DCallWorld) : Bool := w.switches.any Switch.holdsProxyMtx

/-! ### Switching on and off -/

/-- `SetConnectedDCallDevice` (lines 282-289), after the flag. -/
def connect (w : DCallWorld) (device : AudioDevice) : DCallWorld :=
  { w with
    dCallDeviceSwitchedOn := true
    connectedAudioDevice :=
      { w.connectedAudioDevice with deviceType := device.deviceType, address := device.address } }

/-- The flag goes down, and `ClearConnectedDCallDevice` (lines 291-298). -/
def disconnect (w : DCallWorld) : DCallWorld :=
  { w with
    dCallDeviceSwitchedOn := false
    connectedAudioDevice := { w.connectedAudioDevice with deviceType := .unknown, address := [] } }

/-- The checks of `SwitchOnDCallDeviceSync` before the mutex (lines 300-315): the device it will
    ask for, if it goes on. -/
def switchOnTarget (json : JsonLibrary) (w : DCallWorld) (device : AudioDevice) :
    Option SwitchTarget :=
  if w.isCallActived = false then none
  else if h : isDistributedAudioDevice device = true then
    if (getDevIdFromAudioDevice json device).length = 0 then none else some ⟨device, h⟩
  else none

/-- `GetConnectedDCallDeviceId` (lines 263-271). -/
def getConnectedDCallDeviceId (json : JsonLibrary) (w : DCallWorld) : ByteString :=
  if w.dCallDeviceSwitchedOn then getDevIdFromAudioDevice json w.connectedAudioDevice else []

/-- The checks of `SwitchOffDCallDeviceSync` before the mutex (lines 400-411). -/
def switchOffDevId (json : JsonLibrary) (w : DCallWorld) : Option ByteString :=
  if w.dCallDeviceSwitchedOn = false then none
  else
    let devId := w.getConnectedDCallDeviceId json
    if devId.length = 0 then none else some devId

/-- A switch begins. -/
def begin (w : DCallWorld) (switch : Switch) : DCallWorld :=
  { w with switches := w.switches ++ [switch] }

/-- `SwitchOnDCallDeviceSync`, called in its caller's thread. -/
def switchOnDCallDeviceSync (json : JsonLibrary) (w : DCallWorld) (device : AudioDevice) :
    DCallWorld :=
  match w.switchOnTarget json device with
  | none => w
  | some target => w.begin (.onChecked target false)

/-- `SwitchOnDCallDeviceAsync` (lines 379-398), up to its thread. -/
def switchOnDCallDeviceAsync (w : DCallWorld) (device : AudioDevice) (celiaCall : Bool) :
    DCallWorld :=
  if celiaCall then w else w.begin (.onCreated device)

/-- `SwitchOffDCallDeviceSync`. -/
def switchOffDCallDeviceSync (json : JsonLibrary) (w : DCallWorld) : DCallWorld :=
  match w.switchOffDevId json with
  | none => w
  | some devId => w.begin (.offChecked devId)

/-- A switch goes to another place. -/
def moveTo (w : DCallWorld) (i : ℕ) (switch : Switch) : DCallWorld :=
  { w with switches := w.switches.set i switch }

/-- A switch is over. -/
def finish (w : DCallWorld) (i : ℕ) : DCallWorld :=
  { w with switches := w.switches.eraseIdx i }

/-- `SwitchOnDCallDeviceSync` returns. -/
def returnOn (w : DCallWorld) (i : ℕ) (async : Bool) : DCallWorld :=
  if async then w.moveTo i .onReturned else w.finish i

/-- A switch takes its next step. `answer` is what the platform answers to
    `SwitchDevice` and, once the thread is back, `isCeliaCall`. -/
def advance (json : JsonLibrary) (w : DCallWorld) (i : ℕ) (answer : Bool) : DCallWorld :=
  match w.switches[i]? with
  | none => w
  | some (.onCreated device) =>
    match w.switchOnTarget json device with
    | none => w.returnOn i true
    | some target => w.moveTo i (.onChecked target true)
  | some (.onChecked target async) =>
    if w.proxyMtxHeld then w
    else if w.dcallProxy = false then w.returnOn i async
    else if w.isSwitching then w.returnOn i async
    else { w with isSwitching := true }.moveTo i (.onSent target async)
  | some (.onSent target async) =>
    { w with isSwitching := false }.moveTo i (.onAnswered target async answer)
  | some (.onAnswered target async granted) =>
    if granted then (w.connect target.device).returnOn i async else w.returnOn i async
  | some .onReturned =>
    if answer = false then w.finish i
    else
      match w.switchOffDevId json with
      | none => w.finish i
      | some devId => w.moveTo i (.offChecked devId)
  | some (.offChecked _) =>
    if w.proxyMtxHeld then w
    else if w.dcallProxy = false then w.finish i
    else w.moveTo i .offSent
  | some .offSent => w.moveTo i (.offAnswered answer)
  | some (.offAnswered granted) => if granted then w.disconnect.finish i else w.finish i

/-! ### Devices that come and go -/

/-- `CreateDAudioDevice` (lines 106-147). -/
def createDAudioDevice (json : JsonLibrary) (w : DCallWorld) (devId : ByteString)
    (devInfo : Option DCallDeviceInfo) : Option AudioDevice :=
  if devId.length = 0 then none
  else if w.dcallProxy = false then none
  else
    match devInfo with
    | none => none
    | some devInfo =>
      match json.dump devInfo.devName devId with
      | none => none
      | some addressStr =>
        if maxAddressLen < addressStr.length then none
        else some ⟨devInfo.devType.audioDeviceType, cString addressStr, []⟩

/-- A device goes on the list and among the devices that are online. -/
def enlist (w : DCallWorld) (devId : ByteString) (device : AudioDevice) : DCallWorld :=
  { w with
    audioDevices := w.audioDevices.addAudioDeviceList device.address device.deviceType []
    onlineDCallDevices := w.onlineDCallDevices.insert ⟨devId, device⟩ }

/-- A device goes off both. -/
def delist (isSupportEarpiece : Bool) (w : DCallWorld) (iter : OnlineDevice) : DCallWorld :=
  { w with
    audioDevices := w.audioDevices.removeAudioDeviceList isSupportEarpiece
      iter.device.address iter.device.deviceType
    onlineDCallDevices := w.onlineDCallDevices.erase iter.devId }

/-- `AddDCallDevice` (lines 179-207), which waits for `dcallProxyMtx_` in `CreateDAudioDevice`. -/
def addDCallDevice (json : JsonLibrary) (w : DCallWorld) (devId : ByteString)
    (answers : OnlineAnswers) : DCallWorld :=
  if w.onlineDCallDevices.Mem devId then w
  else if w.proxyMtxHeld then w
  else
    match w.createDAudioDevice json devId answers.devInfo with
    | none => w
    | some device =>
      let w := w.enlist devId device
      if w.dCallDeviceSwitchedOn = false ∧ w.isCallActived then
        if device.deviceType = .distributedAutomotive ∧ answers.preferred then
          w.switchOnDCallDeviceAsync device answers.celiaCall
        else w
      else w

/-- `RemoveDCallDevice` (lines 209-230). -/
def removeDCallDevice (json : JsonLibrary) (isSupportEarpiece : Bool) (w : DCallWorld)
    (devId : ByteString) : DCallWorld :=
  match w.onlineDCallDevices.lookup devId with
  | none => w
  | some iter =>
    let removedDevId := getDevIdFromAudioDevice json iter.device
    let curDevId := w.getConnectedDCallDeviceId json
    let w := w.delist isSupportEarpiece iter
    if curDevId = removedDevId then w.disconnect else w

/-- `OnDCallSystemAbilityAdded` (lines 548-581), which needs `dcallProxyMtx_`. The devices that
    are online are then added one after the other by `AddDCallDevice`. -/
def onDCallSystemAbilityAdded (w : DCallWorld) : DCallWorld :=
  if w.proxyMtxHeld then w else { w with dcallProxy := true }

/-- `OnDCallSystemAbilityRemoved` (lines 583-599), which needs `dcallProxyMtx_`. -/
def onDCallSystemAbilityRemoved (w : DCallWorld) : DCallWorld :=
  if w.proxyMtxHeld then w
  else
    { w.disconnect with
      dcallProxy := false
      onlineDCallDevices := OrderedMap.empty _
      audioDevices := w.audioDevices.resetDistributedCallDevicesList }

/-! ### The call -/

/-- `SetCallState` (lines 344-347). -/
def setCallState (w : DCallWorld) (isActive : Bool) : DCallWorld :=
  { w with isCallActived := isActive }

/-- `DealDisconnectCall` (lines 349-353). -/
def dealDisconnectCall (w : DCallWorld) : DCallWorld := w.disconnect

/-- `AudioDeviceManager::CheckAndSwitchDistributedAudioDevice`
    (audio_device_manager.cpp:616-632). -/
def checkAndSwitchDistributedAudioDevice (w : DCallWorld) (preferred celiaCall : Bool) :
    DCallWorld :=
  let w := w.setCallState true
  match w.audioDevices.audioDeviceList.find? fun it =>
      it.deviceType = .distributedAutomotive ∧ preferred with
  | none => w
  | some it => w.switchOnDCallDeviceAsync it celiaCall

/-- `AudioDeviceManager::OnActivedCallDisconnected` (audio_device_manager.cpp:634-638). -/
def onActivedCallDisconnected (w : DCallWorld) : DCallWorld :=
  (w.setCallState false).dealDisconnectCall

end DCallWorld

/-- What happens: system abilities and devices come and go, a call becomes active or
    ends, switches are requested and go on. -/
inductive DCallOp
  | onDCallSystemAbilityAdded
  | onDCallSystemAbilityRemoved
  | onDCallDeviceOnline (devId : ByteString) (answers : OnlineAnswers)
  | onDCallDeviceOffline (devId : ByteString)
  | checkAndSwitchDistributedAudioDevice (preferred celiaCall : Bool)
  | onActivedCallDisconnected
  | switchOnDCallDeviceSync (device : AudioDevice)
  | switchOnDCallDeviceAsync (device : AudioDevice) (celiaCall : Bool)
  | switchOffDCallDeviceSync
  | advance (i : ℕ) (answer : Bool)
  deriving DecidableEq, Repr

/-- The state after one event. -/
def step (json : JsonLibrary) (isSupportEarpiece : Bool) (w : DCallWorld) :
    DCallOp → DCallWorld
  | .onDCallSystemAbilityAdded => w.onDCallSystemAbilityAdded
  | .onDCallSystemAbilityRemoved => w.onDCallSystemAbilityRemoved
  | .onDCallDeviceOnline devId answers => w.addDCallDevice json devId answers
  | .onDCallDeviceOffline devId => w.removeDCallDevice json isSupportEarpiece devId
  | .checkAndSwitchDistributedAudioDevice preferred celiaCall =>
    w.checkAndSwitchDistributedAudioDevice preferred celiaCall
  | .onActivedCallDisconnected => w.onActivedCallDisconnected
  | .switchOnDCallDeviceSync device => w.switchOnDCallDeviceSync json device
  | .switchOnDCallDeviceAsync device celiaCall => w.switchOnDCallDeviceAsync device celiaCall
  | .switchOffDCallDeviceSync => w.switchOffDCallDeviceSync json
  | .advance i answer => w.advance json i answer

/-! ## Specification -/

namespace DCallWorld

/-- The device is online. -/
def DeviceOnline (json : JsonLibrary) (w : DCallWorld) (device : AudioDevice) : Prop :=
  w.onlineDCallDevices.Mem (getDevIdFromAudioDevice json device)

instance (json : JsonLibrary) (w : DCallWorld) (device : AudioDevice) :
    Decidable (w.DeviceOnline json device) := by
  unfold DeviceOnline
  infer_instance

/-- How many distributed entries of the list are of the device. -/
def entriesOf (json : JsonLibrary) (w : DCallWorld) (devId : ByteString) : ℕ :=
  w.audioDevices.audioDeviceList.countP fun d =>
    AudioDeviceManager.isDistributedAudioDeviceType d.deviceType ∧
      getDevIdFromAudioDevice json d = devId

/-- The flag, the connected device, the devices online and the list agree. -/
structure DevicesOk (json : JsonLibrary) (w : DCallWorld) : Prop where
  switchedOn : w.dCallDeviceSwitchedOn = true ↔
    isDistributedAudioDevice w.connectedAudioDevice = true
  connected : w.dCallDeviceSwitchedOn = true →
    w.DeviceOnline json w.connectedAudioDevice ∧ w.isCallActived = true
  ended : w.isCallActived = false → w.switches = [] → w.dCallDeviceSwitchedOn = false
  listed : ∀ devId, w.entriesOf json devId = if w.onlineDCallDevices.Mem devId then 1 else 0

/-- The device that a step records as connected. -/
def recorded (w : DCallWorld) : DCallOp → Option AudioDevice
  | .advance i _ =>
    match w.switches[i]? with
    | some (.onAnswered target _ true) => some target.device
    | _ => none
  | _ => none

/-- The condition: what is recorded is online, and a call is active. -/
def RecordsInTime (json : JsonLibrary) (w : DCallWorld) (op : DCallOp) : Prop :=
  ∀ device, w.recorded op = some device →
    w.DeviceOnline json device ∧ w.isCallActived = true

instance (json : JsonLibrary) (w : DCallWorld) (op : DCallOp) :
    Decidable (w.RecordsInTime json op) :=
  match h : w.recorded op with
  | none => .isTrue fun _ hrec => nomatch h.symm.trans hrec
  | some device =>
    decidable_of_iff (w.DeviceOnline json device ∧ w.isCallActived = true)
      ⟨fun hok device' hrec => by cases h.symm.trans hrec; exact hok, fun hall => hall device h⟩

/-! ## What the steps leave alone -/

/-- Two states with the same stores; what differs is where the switches are. -/
structure SameStores (w w' : DCallWorld) : Prop where
  isCallActived : w'.isCallActived = w.isCallActived
  switchedOn : w'.dCallDeviceSwitchedOn = w.dCallDeviceSwitchedOn
  connected : w'.connectedAudioDevice = w.connectedAudioDevice
  online : w'.onlineDCallDevices = w.onlineDCallDevices
  audioDevices : w'.audioDevices = w.audioDevices

theorem SameStores.refl (w : DCallWorld) : SameStores w w := ⟨rfl, rfl, rfl, rfl, rfl⟩

theorem sameStores_begin (w : DCallWorld) (switch : Switch) : SameStores w (w.begin switch) :=
  ⟨rfl, rfl, rfl, rfl, rfl⟩

theorem sameStores_moveTo (w : DCallWorld) (i : ℕ) (switch : Switch) :
    SameStores w (w.moveTo i switch) := ⟨rfl, rfl, rfl, rfl, rfl⟩

theorem sameStores_finish (w : DCallWorld) (i : ℕ) : SameStores w (w.finish i) :=
  ⟨rfl, rfl, rfl, rfl, rfl⟩

theorem sameStores_returnOn (w : DCallWorld) (i : ℕ) (async : Bool) :
    SameStores w (w.returnOn i async) := by
  cases async with
  | false => exact sameStores_finish w i
  | true => exact sameStores_moveTo w i .onReturned

theorem sameStores_switchOnDCallDeviceSync (json : JsonLibrary) (w : DCallWorld)
    (device : AudioDevice) : SameStores w (w.switchOnDCallDeviceSync json device) := by
  unfold switchOnDCallDeviceSync
  cases w.switchOnTarget json device with
  | none => exact .refl w
  | some target => exact sameStores_begin w _

theorem sameStores_switchOnDCallDeviceAsync (w : DCallWorld) (device : AudioDevice)
    (celiaCall : Bool) : SameStores w (w.switchOnDCallDeviceAsync device celiaCall) := by
  unfold switchOnDCallDeviceAsync
  cases celiaCall with
  | true => exact .refl w
  | false => exact sameStores_begin w _

/-- Beside the request, a call is active. -/
theorem sameStores_checkAndSwitch (w : DCallWorld) (preferred celiaCall : Bool) :
    SameStores (w.setCallState true)
      (w.checkAndSwitchDistributedAudioDevice preferred celiaCall) := by
  unfold checkAndSwitchDistributedAudioDevice
  dsimp only
  split
  · exact .refl _
  · exact sameStores_switchOnDCallDeviceAsync (w.setCallState true) _ celiaCall

theorem sameStores_switchOffDCallDeviceSync (json : JsonLibrary) (w : DCallWorld) :
    SameStores w (w.switchOffDCallDeviceSync json) := by
  unfold switchOffDCallDeviceSync
  cases w.switchOffDevId json with
  | none => exact .refl w
  | some devId => exact sameStores_begin w _

/-- A step of a switch records the device it was for, records that it is switched off,
    or leaves the stores alone. -/
theorem advance_cases (json : JsonLibrary) (w : DCallWorld) (i : ℕ) (answer : Bool) :
    (w.recorded (.advance i answer) = none ∧ SameStores w (w.advance json i answer)) ∨
    (∃ target : SwitchTarget, w.recorded (.advance i answer) = some target.device ∧
      SameStores (w.connect target.device) (w.advance json i answer)) ∨
    (w.recorded (.advance i answer) = none ∧
      SameStores w.disconnect (w.advance json i answer)) := by
  unfold recorded advance
  dsimp only
  cases hsw : w.switches[i]? with
  | none => exact .inl ⟨rfl, .refl w⟩
  | some switch =>
    cases switch with
    | onCreated device =>
      refine .inl ⟨rfl, ?_⟩
      dsimp only
      cases w.switchOnTarget json device with
      | none => exact sameStores_returnOn w i true
      | some target => exact sameStores_moveTo w i _
    | onChecked target async =>
      refine .inl ⟨rfl, ?_⟩
      dsimp only
      split_ifs
      · exact .refl w
      · exact sameStores_returnOn w i async
      · exact sameStores_returnOn w i async
      · exact ⟨rfl, rfl, rfl, rfl, rfl⟩
    | onSent target async => exact .inl ⟨rfl, rfl, rfl, rfl, rfl, rfl⟩
    | onAnswered target async granted =>
      cases granted with
      | false => exact .inl ⟨rfl, sameStores_returnOn w i async⟩
      | true => exact .inr (.inl ⟨target, rfl, sameStores_returnOn (w.connect _) i async⟩)
    | onReturned =>
      refine .inl ⟨rfl, ?_⟩
      dsimp only
      split_ifs
      · exact sameStores_finish w i
      · cases w.switchOffDevId json with
        | none => exact sameStores_finish w i
        | some devId => exact sameStores_moveTo w i _
    | offChecked devId =>
      refine .inl ⟨rfl, ?_⟩
      dsimp only
      split_ifs
      · exact .refl w
      · exact sameStores_finish w i
      · exact sameStores_moveTo w i _
    | offSent => exact .inl ⟨rfl, sameStores_moveTo w i _⟩
    | offAnswered granted =>
      cases granted with
      | false => exact .inl ⟨rfl, sameStores_finish w i⟩
      | true => exact .inr (.inr ⟨rfl, sameStores_finish w.disconnect i⟩)

/-! ## The connected device -/

/-- What is connected is online, and a call is active. -/
def Connected (json : JsonLibrary) (w : DCallWorld) : Prop :=
  w.dCallDeviceSwitchedOn = true →
    w.DeviceOnline json w.connectedAudioDevice ∧ w.isCallActived = true

theorem SameStores.connected_iff {w w' : DCallWorld} (h : SameStores w w') (json : JsonLibrary) :
    w'.Connected json ↔ w.Connected json := by
  unfold Connected DeviceOnline
  rw [h.switchedOn, h.connected, h.online, h.isCallActived]

theorem connected_disconnect (json : JsonLibrary) (w : DCallWorld) :
    w.disconnect.Connected json := fun h => absurd h (by simp [disconnect])

theorem connected_connect (json : JsonLibrary) (w : DCallWorld) (device : AudioDevice) :
    (w.connect device).Connected json ↔ w.DeviceOnline json device ∧ w.isCallActived = true := by
  constructor
  · intro h
    exact h rfl
  · intro h _
    exact h

/-! ## The stores -/

/-- The entries of the devices that are online are what the list has of distributed
    devices; each is found under its own id. -/
structure Sound (json : JsonLibrary) (w : DCallWorld) : Prop where
  switchedOn : w.dCallDeviceSwitchedOn = true ↔
    isDistributedAudioDevice w.connectedAudioDevice = true
  online : ∀ e ∈ w.onlineDCallDevices.entries, e.devId ≠ [] ∧
    getDevIdFromAudioDevice json e.device = e.devId
  listed : (w.audioDevices.audioDeviceList.filter fun d =>
      AudioDeviceManager.isDistributedAudioDeviceType d.deviceType) =
    w.onlineDCallDevices.entries.map OnlineDevice.device

theorem SameStores.sound {json : JsonLibrary} {w w' : DCallWorld} (h : SameStores w w')
    (hs : w.Sound json) : w'.Sound json where
  switchedOn := by
    rw [h.switchedOn, h.connected]
    exact hs.switchedOn
  online := by
    rw [h.online]
    exact hs.online
  listed := by
    rw [h.audioDevices, h.online]
    exact hs.listed

theorem sound_init (json : JsonLibrary) (isWearable : Bool) : (init isWearable).Sound json where
  switchedOn := by simp [init, isDistributedAudioDevice]
  online := by simp [init]
  listed := by simp [init, AudioDeviceManager.init,
    AudioDeviceManager.isDistributedAudioDeviceType]

theorem Sound.disconnect {json : JsonLibrary} {w : DCallWorld} (h : w.Sound json) :
    w.disconnect.Sound json where
  switchedOn := by simp [DCallWorld.disconnect, isDistributedAudioDevice]
  online := h.online
  listed := h.listed

theorem Sound.connect {json : JsonLibrary} {w : DCallWorld} (h : w.Sound json)
    (target : SwitchTarget) : (w.connect target.device).Sound json where
  switchedOn := iff_of_true rfl target.distributed
  online := h.online
  listed := h.listed

/-- A device with an id is of a distributed type. -/
theorem isDistributedAudioDevice_of_devId {json : JsonLibrary} {device : AudioDevice}
    (h : getDevIdFromAudioDevice json device ≠ []) : isDistributedAudioDevice device = true := by
  by_contra hd
  exact h (by rw [getDevIdFromAudioDevice, if_pos (by simpa using hd)])

theorem getDevId_congr {json : JsonLibrary} {d d' : AudioDevice}
    (htype : d.deviceType = d'.deviceType) (haddress : d.address = d'.address) :
    getDevIdFromAudioDevice json d = getDevIdFromAudioDevice json d' := by
  unfold getDevIdFromAudioDevice isDistributedAudioDevice
  rw [htype, haddress]

/-- The types of distributed calls are among those of the list. -/
theorem isDistributedAudioDeviceType_of_isDistributedAudioDevice {device : AudioDevice}
    (h : isDistributedAudioDevice device = true) :
    AudioDeviceManager.isDistributedAudioDeviceType device.deviceType = true := by
  rcases (by simpa [isDistributedAudioDevice] using h :
    device.deviceType = .distributedPhone ∨ device.deviceType = .distributedPad ∨
      device.deviceType = .distributedAutomotive) with ht | ht | ht
  all_goals simp [AudioDeviceManager.isDistributedAudioDeviceType, ht]

/-- The entry of an online device is distributed. -/
theorem Sound.distributed {json : JsonLibrary} {w : DCallWorld} (h : w.Sound json)
    {e : OnlineDevice} (he : e ∈ w.onlineDCallDevices.entries) :
    AudioDeviceManager.isDistributedAudioDeviceType e.device.deviceType = true := by
  obtain ⟨hne, hid⟩ := h.online e he
  rw [← hid] at hne
  exact isDistributedAudioDeviceType_of_isDistributedAudioDevice
    (isDistributedAudioDevice_of_devId hne)

/-! ### A device that comes -/

/-- What `CreateDAudioDevice` makes for an id. -/
structure Created (json : JsonLibrary) (devId : ByteString) (device : AudioDevice) : Prop where
  devId_ne : devId ≠ []
  length_le : device.address.length ≤ maxAddressLen
  noZero : 0 ∉ device.address
  deviceName : device.deviceName = []
  distributed : isDistributedAudioDevice device = true
  devId_eq : getDevIdFromAudioDevice json device = devId

/-- The device that is made for an id has that id. -/
theorem createDAudioDevice_spec {json : JsonLibrary} (hjson : json.RoundTrips) {w : DCallWorld}
    {devId : ByteString} {devInfo : Option DCallDeviceInfo} {device : AudioDevice}
    (h : w.createDAudioDevice json devId devInfo = some device) : Created json devId device := by
  unfold createDAudioDevice at h
  by_cases hlen : devId.length = 0
  · rw [if_pos hlen] at h
    cases h
  rw [if_neg hlen] at h
  by_cases hproxy : w.dcallProxy = false
  · rw [if_pos hproxy] at h
    cases h
  rw [if_neg hproxy] at h
  cases devInfo with
  | none => cases h
  | some devInfo =>
    dsimp only at h
    cases hdump : json.dump devInfo.devName devId with
    | none =>
      rw [hdump] at h
      cases h
    | some text =>
      rw [hdump] at h
      dsimp only at h
      have hzero := hjson.notMem_dump _ _ _ hdump
      by_cases hmax : maxAddressLen < text.length
      · rw [if_pos hmax] at h
        cases h
      rw [if_neg hmax, Option.some.injEq, cString_of_notMem hzero] at h
      subst h
      have hdist : isDistributedAudioDevice ⟨devInfo.devType.audioDeviceType, text, []⟩ = true := by
        cases devInfo.devType <;> rfl
      constructor
      case devId_ne => exact fun he => hlen (by rw [he]; rfl)
      case length_le => exact Nat.le_of_not_lt hmax
      case noZero => exact hzero
      case deviceName => rfl
      case distributed => exact hdist
      case devId_eq =>
        -- the text is not empty, so it is parsed
        have hnil : text.length ≠ 0 := fun h0 =>
          hjson.dump_ne_nil _ _ (by rw [hdump, List.length_eq_zero_iff.mp h0])
        rw [getDevIdFromAudioDevice, if_neg (by simp [hdist]), if_neg hnil,
          hjson.devId_dump _ _ _ hdump]
        rfl

theorem Sound.enlist {json : JsonLibrary} {w : DCallWorld} (h : w.Sound json) {devId : ByteString}
    {device : AudioDevice} (hnew : ¬ w.onlineDCallDevices.Mem devId)
    (hd : Created json devId device) : (w.enlist devId device).Sound json := by
  have htype := isDistributedAudioDeviceType_of_isDistributedAudioDevice hd.distributed
  have hentries := OrderedMap.entries_insert_of_not_mem (m := w.onlineDCallDevices)
    (a := (⟨devId, device⟩ : OnlineDevice)) hnew
  -- an entry with this address and type would be of a device with this id
  have hpush : w.audioDevices.Pushes device.address device.deviceType [] := by
    refine ⟨?_, hd.length_le, by simp [maxDeviceNameLen]⟩
    rintro d hmem ⟨haddress, hdtype⟩
    have hlisted : d ∈ w.onlineDCallDevices.entries.map OnlineDevice.device := by
      rw [← h.listed, List.mem_filter]
      exact ⟨hmem, by rw [hdtype]; exact htype⟩
    obtain ⟨e, he, rfl⟩ := List.mem_map.mp hlisted
    exact hnew ⟨e, he, by rw [← hd.devId_eq, ← (h.online e he).2, getDevId_congr hdtype haddress]⟩
  have hwired : device.deviceType ≠ .wiredHeadset := by
    intro hw
    rw [hw] at htype
    exact absurd htype (by decide)
  constructor
  case switchedOn => exact h.switchedOn
  case online =>
    show ∀ e ∈ (w.onlineDCallDevices.insert ⟨devId, device⟩).entries, _
    rw [hentries]
    intro e he
    rcases List.mem_append.mp he with he | he
    · exact h.online e he
    · rw [List.mem_singleton] at he
      subst he
      exact ⟨hd.devId_ne, hd.devId_eq⟩
  case listed =>
    show (w.audioDevices.addAudioDeviceList device.address device.deviceType
      []).audioDeviceList.filter _ = (w.onlineDCallDevices.insert ⟨devId, device⟩).entries.map _
    rw [hentries, AudioDeviceManager.addAudioDeviceList_of_pushes hpush,
      AudioDeviceManager.addScan_of_ne hwired, cString_of_notMem hd.noZero]
    have hdev : (⟨device.deviceType, device.address, cString []⟩ : AudioDevice) = device := by
      have hname := hd.deviceName
      cases device
      subst hname
      rfl
    simp only [AudioDeviceManager.pushed, List.filter_append, List.map_append, h.listed, hdev]
    simp [htype]

/-- A device that comes keeps the stores, and is not connected yet. -/
theorem addDCallDevice_spec {json : JsonLibrary} (hjson : json.RoundTrips) {w : DCallWorld}
    (h : w.Sound json) (devId : ByteString) (answers : OnlineAnswers) :
    (w.addDCallDevice json devId answers).Sound json ∧
      (w.Connected json → (w.addDCallDevice json devId answers).Connected json) := by
  unfold addDCallDevice
  by_cases hmem : w.onlineDCallDevices.Mem devId
  · rw [if_pos hmem]
    exact ⟨h, id⟩
  by_cases hheld : w.proxyMtxHeld = true
  · rw [if_neg hmem, if_pos hheld]
    exact ⟨h, id⟩
  rw [if_neg hmem, if_neg hheld]
  cases hdev : w.createDAudioDevice json devId answers.devInfo with
  | none => exact ⟨h, id⟩
  | some device =>
    dsimp only
    have hsound := h.enlist hmem (createDAudioDevice_spec hjson hdev)
    have hconn : w.Connected json → (w.enlist devId device).Connected json := by
      intro hc hon
      obtain ⟨honline, hactive⟩ := hc hon
      exact ⟨OrderedMap.mem_insert.mpr (.inr honline), hactive⟩
    split_ifs
    · have hsame := sameStores_switchOnDCallDeviceAsync (w.enlist devId device) device
        answers.celiaCall
      exact ⟨hsame.sound hsound, fun hc => (hsame.connected_iff json).mpr (hconn hc)⟩
    · exact ⟨hsound, hconn⟩
    · exact ⟨hsound, hconn⟩

/-! ### A device that leaves -/

theorem audioDeviceList_remove (isSupportEarpiece : Bool) (m : AudioDeviceManager)
    (address : ByteString) {deviceType : AudioDeviceType} (h : deviceType ≠ .wiredHeadset) :
    (m.removeAudioDeviceList isSupportEarpiece address deviceType).audioDeviceList =
      m.audioDeviceList.filter fun it =>
        ¬ (it.address = address ∧ it.deviceType = deviceType) := by
  rw [AudioDeviceManager.removeAudioDeviceList_eq, if_neg fun hc => h hc.2.1]
  rfl

theorem Sound.delist {json : JsonLibrary} {w : DCallWorld} (h : w.Sound json)
    (isSupportEarpiece : Bool) {iter : OnlineDevice} (hiter : iter ∈ w.onlineDCallDevices.entries) :
    (w.delist isSupportEarpiece iter).Sound json := by
  have hwired : iter.device.deviceType ≠ .wiredHeadset := by
    intro hw
    have htype := h.distributed hiter
    rw [hw] at htype
    exact absurd htype (by decide)
  constructor
  case switchedOn => exact h.switchedOn
  case online =>
    intro e he
    exact h.online e (List.mem_of_mem_filter he)
  case listed =>
    show (w.audioDevices.removeAudioDeviceList isSupportEarpiece iter.device.address
      iter.device.deviceType).audioDeviceList.filter _ =
        (w.onlineDCallDevices.entries.filter fun e => e.devId ≠ iter.devId).map OnlineDevice.device
    rw [audioDeviceList_remove _ _ _ hwired, List.filter_comm, h.listed, List.filter_map]
    congr 1
    refine List.filter_congr fun e he => ?_
    rw [Function.comp_apply, decide_eq_decide, not_iff_not]
    constructor
    · rintro ⟨haddress, htype⟩
      rw [← (h.online e he).2, ← (h.online iter hiter).2, getDevId_congr htype haddress]
    · intro heq
      rw [OrderedMap.eq_of_key_eq he hiter heq]
      exact ⟨rfl, rfl⟩

/-- A device that leaves keeps the stores, and is not connected any more. -/
theorem removeDCallDevice_spec {json : JsonLibrary} (isSupportEarpiece : Bool) {w : DCallWorld}
    (h : w.Sound json) (devId : ByteString) :
    (w.removeDCallDevice json isSupportEarpiece devId).Sound json ∧
      (w.Connected json → (w.removeDCallDevice json isSupportEarpiece devId).Connected json) := by
  unfold removeDCallDevice
  cases hiter : w.onlineDCallDevices.lookup devId with
  | none => exact ⟨h, id⟩
  | some iter =>
    dsimp only
    have hmem : iter ∈ w.onlineDCallDevices.entries := (OrderedMap.lookup_spec hiter).1
    have hsound := h.delist isSupportEarpiece hmem
    by_cases hcur : w.getConnectedDCallDeviceId json = getDevIdFromAudioDevice json iter.device
    · rw [if_pos hcur]
      exact ⟨hsound.disconnect, fun _ => connected_disconnect json _⟩
    · rw [if_neg hcur]
      refine ⟨hsound, fun hc hon => ?_⟩
      obtain ⟨honline, hactive⟩ := hc hon
      refine ⟨OrderedMap.mem_erase.mpr ⟨fun heq => hcur ?_, honline⟩, hactive⟩
      rw [getConnectedDCallDeviceId, if_pos (show w.dCallDeviceSwitchedOn = true from hon),
        (h.online iter hmem).2]
      exact heq

/-! ## Runs -/

theorem Sound.onDCallSystemAbilityRemoved {json : JsonLibrary} {w : DCallWorld}
    (h : w.Sound json) : w.onDCallSystemAbilityRemoved.Sound json := by
  unfold DCallWorld.onDCallSystemAbilityRemoved
  by_cases hheld : w.proxyMtxHeld = true
  · rw [if_pos hheld]
    exact h
  rw [if_neg hheld]
  constructor
  case switchedOn => exact h.disconnect.switchedOn
  case online =>
    intro e he
    cases he
  case listed =>
    show (w.audioDevices.audioDeviceList.filter _).filter _ = []
    rw [List.filter_filter]
    refine List.filter_eq_nil_iff.mpr fun d _ => ?_
    simp

/-- The list has one distributed entry for each device that is online. -/
theorem Sound.entriesOf_eq {json : JsonLibrary} {w : DCallWorld} (h : w.Sound json)
    (devId : ByteString) :
    w.entriesOf json devId = if w.onlineDCallDevices.Mem devId then 1 else 0 := by
  have hcount : w.entriesOf json devId =
      (w.onlineDCallDevices.entries.filter fun e => e.devId = devId).length := by
    calc w.entriesOf json devId
        = (w.audioDevices.audioDeviceList.filter fun d =>
            AudioDeviceManager.isDistributedAudioDeviceType d.deviceType).countP fun d =>
              getDevIdFromAudioDevice json d = devId := by
          rw [List.countP_filter]
          refine List.countP_congr fun d _ => ?_
          simp [and_comm]
      _ = w.onlineDCallDevices.entries.countP fun e =>
            getDevIdFromAudioDevice json e.device = devId := by
          rw [h.listed, List.countP_map]
          rfl
      _ = w.onlineDCallDevices.entries.countP fun e => e.devId = devId := by
          refine List.countP_congr fun e he => ?_
          rw [(h.online e he).2]
      _ = (w.onlineDCallDevices.entries.filter fun e => e.devId = devId).length :=
          List.countP_eq_length_filter
  rw [hcount]
  by_cases hmem : w.onlineDCallDevices.Mem devId
  · rw [if_pos hmem]
    obtain ⟨e, he, rfl⟩ := hmem
    rw [OrderedMap.filter_key he, List.length_singleton]
  · rw [if_neg hmem, OrderedMap.filter_key_of_not_mem hmem, List.length_nil]

/-- With sound stores the specification is about what is connected. -/
theorem Sound.ok_iff_connected {json : JsonLibrary} {w : DCallWorld} (h : w.Sound json) :
    w.DevicesOk json ↔ w.Connected json := by
  constructor
  · intro hok
    exact hok.connected
  · intro hc
    refine ⟨h.switchedOn, hc, fun hactive _ => ?_, h.entriesOf_eq⟩
    by_contra hon
    rw [(hc (by simpa using hon)).2] at hactive
    cases hactive

theorem Sound.step {json : JsonLibrary} (hjson : json.RoundTrips) (isSupportEarpiece : Bool)
    {w : DCallWorld} (h : w.Sound json) (op : DCallOp) :
    (step json isSupportEarpiece w op).Sound json := by
  cases op with
  | onDCallSystemAbilityAdded =>
    show w.onDCallSystemAbilityAdded.Sound json
    unfold DCallWorld.onDCallSystemAbilityAdded
    split_ifs
    · exact h
    · exact ⟨h.switchedOn, h.online, h.listed⟩
  | onDCallSystemAbilityRemoved => exact h.onDCallSystemAbilityRemoved
  | onDCallDeviceOnline devId answers => exact (addDCallDevice_spec hjson h devId answers).1
  | onDCallDeviceOffline devId => exact (removeDCallDevice_spec isSupportEarpiece h devId).1
  | checkAndSwitchDistributedAudioDevice preferred celiaCall =>
    have hactive : (w.setCallState true).Sound json := ⟨h.switchedOn, h.online, h.listed⟩
    exact (sameStores_checkAndSwitch w preferred celiaCall).sound hactive
  | onActivedCallDisconnected =>
    have hended : (w.setCallState false).Sound json := ⟨h.switchedOn, h.online, h.listed⟩
    exact hended.disconnect
  | switchOnDCallDeviceSync device =>
    exact (sameStores_switchOnDCallDeviceSync json w device).sound h
  | switchOnDCallDeviceAsync device celiaCall =>
    exact (sameStores_switchOnDCallDeviceAsync w device celiaCall).sound h
  | switchOffDCallDeviceSync => exact (sameStores_switchOffDCallDeviceSync json w).sound h
  | advance i answer =>
    rcases advance_cases json w i answer with ⟨-, hsame⟩ | ⟨target, -, hsame⟩ | ⟨-, hsame⟩
    · exact hsame.sound h
    · exact hsame.sound (h.connect target)
    · exact hsame.sound h.disconnect

/-- One event keeps what is connected online and the call active iff what it records is. -/
theorem connected_step_iff {json : JsonLibrary} (hjson : json.RoundTrips)
    (isSupportEarpiece : Bool) {w : DCallWorld} (h : w.Sound json) (hc : w.Connected json)
    (op : DCallOp) :
    (step json isSupportEarpiece w op).Connected json ↔ w.RecordsInTime json op := by
  cases op with
  | onDCallSystemAbilityAdded =>
    refine iff_of_true ?_ (fun _ hrec => nomatch hrec)
    show w.onDCallSystemAbilityAdded.Connected json
    unfold onDCallSystemAbilityAdded
    split_ifs
    · exact hc
    · exact hc
  | onDCallSystemAbilityRemoved =>
    refine iff_of_true ?_ (fun _ hrec => nomatch hrec)
    show w.onDCallSystemAbilityRemoved.Connected json
    unfold onDCallSystemAbilityRemoved
    split_ifs
    · exact hc
    · exact fun hon => absurd hon (by simp [disconnect])
  | onDCallDeviceOnline devId answers =>
    exact iff_of_true ((addDCallDevice_spec hjson h devId answers).2 hc)
      (fun _ hrec => nomatch hrec)
  | onDCallDeviceOffline devId =>
    exact iff_of_true ((removeDCallDevice_spec isSupportEarpiece h devId).2 hc)
      (fun _ hrec => nomatch hrec)
  | checkAndSwitchDistributedAudioDevice preferred celiaCall =>
    have hactive : (w.setCallState true).Connected json := fun hon => ⟨(hc hon).1, rfl⟩
    exact iff_of_true (((sameStores_checkAndSwitch w preferred celiaCall).connected_iff json).mpr
      hactive) (fun _ hrec => nomatch hrec)
  | onActivedCallDisconnected =>
    exact iff_of_true (connected_disconnect json (w.setCallState false))
      (fun _ hrec => nomatch hrec)
  | switchOnDCallDeviceSync device =>
    exact iff_of_true (((sameStores_switchOnDCallDeviceSync json w device).connected_iff json).mpr
      hc) (fun _ hrec => nomatch hrec)
  | switchOnDCallDeviceAsync device celiaCall =>
    exact iff_of_true (((sameStores_switchOnDCallDeviceAsync w device celiaCall).connected_iff
      json).mpr hc) (fun _ hrec => nomatch hrec)
  | switchOffDCallDeviceSync =>
    exact iff_of_true (((sameStores_switchOffDCallDeviceSync json w).connected_iff json).mpr hc)
      (fun _ hrec => nomatch hrec)
  | advance i answer =>
    unfold RecordsInTime
    rcases advance_cases json w i answer with ⟨hrec, hsame⟩ | ⟨target, hrec, hsame⟩ |
      ⟨hrec, hsame⟩
    · rw [hrec]
      exact iff_of_true ((hsame.connected_iff json).mpr hc) (fun _ h => nomatch h)
    · rw [hrec]
      refine (hsame.connected_iff json).trans ((connected_connect json w _).trans ?_)
      constructor
      · rintro hok device hdevice
        cases hdevice
        exact hok
      · exact fun hok => hok _ rfl
    · rw [hrec]
      exact iff_of_true ((hsame.connected_iff json).mpr (connected_disconnect json w))
        (fun _ h => nomatch h)

/-- **Devices of distributed calls.** The specification holds in every state of a run
    iff whatever the run records as connected is online then, with a call active. -/
theorem devicesOk_iff {json : JsonLibrary} (hjson : json.RoundTrips)
    (isSupportEarpiece isWearable : Bool) (ops : List DCallOp) :
    Run.StatesMeet (step json isSupportEarpiece) (DevicesOk json) (init isWearable) ops ↔
      Run.StepsMeet (step json isSupportEarpiece) (RecordsInTime json) (init isWearable) ops := by
  have hinit : (init isWearable).Connected json := fun h => absurd h (by simp [init])
  have hsound := sound_init json isWearable
  refine Run.statesMeet_iff_stepsMeet_of_invariant
    (fun w op h => h.step hjson isSupportEarpiece op) (fun w op h hok => ?_) ops hsound
    (hsound.ok_iff_connected.mpr hinit)
  rw [(h.step hjson isSupportEarpiece op).ok_iff_connected]
  exact connected_step_iff hjson isSupportEarpiece h hok.connected op

/-! ### A late switch -/

/-- What JSON writes as it is. -/
def PlainText (text : ByteString) : Prop :=
  ∀ c ∈ text, 0x20 ≤ c.toNat ∧ c.toNat ≤ 0x7e ∧ c ≠ 0x22 ∧ c ≠ 0x5c

instance (text : ByteString) : Decidable (PlainText text) := List.decidableBAll _ _

/-- The text of an object with `devId`, up to the id. -/
def devIdKey : ByteString := [0x7b, 0x22, 0x64, 0x65, 0x76, 0x49, 0x64, 0x22, 0x3a, 0x22]

/-- The text between the id and the name. -/
def devNameKey : ByteString :=
  [0x22, 0x2c, 0x22, 0x64, 0x65, 0x76, 0x4e, 0x61, 0x6d, 0x65, 0x22, 0x3a, 0x22]

/-- The library on texts that it writes as they are. -/
def plainJson : JsonLibrary where
  dump devName devId :=
    if PlainText devName ∧ PlainText devId then
      some (devIdKey ++ (devId ++ (devNameKey ++ (devName ++ [0x22, 0x7d]))))
    else none
  devId text :=
    if devIdKey <+: text then some ((text.drop devIdKey.length).takeWhile fun c => c ≠ 0x22)
    else none

theorem plainJson_dump {devName devId text : ByteString}
    (h : plainJson.dump devName devId = some text) :
    PlainText devName ∧ PlainText devId ∧
      text = devIdKey ++ (devId ++ (devNameKey ++ (devName ++ [0x22, 0x7d]))) := by
  unfold plainJson at h
  dsimp only at h
  by_cases hplain : PlainText devName ∧ PlainText devId
  · rw [if_pos hplain, Option.some.injEq] at h
    exact ⟨hplain.1, hplain.2, h.symm⟩
  · rw [if_neg hplain] at h
    cases h

theorem plainJson_roundTrips : plainJson.RoundTrips where
  devId_dump devName devId text h := by
    obtain ⟨-, hid, rfl⟩ := plainJson_dump h
    have hquote : ∀ c ∈ devId, decide (c ≠ 0x22) = true := fun c hc =>
      decide_eq_true (hid c hc).2.2.1
    unfold plainJson
    dsimp only
    rw [if_pos (List.prefix_append ..), List.drop_left, List.takeWhile_append_of_pos hquote]
    simp [devNameKey]
  dump_ne_nil devName devId h := by
    obtain ⟨-, -, htext⟩ := plainJson_dump h
    cases htext
  notMem_dump devName devId text h := by
    obtain ⟨hname, hid, rfl⟩ := plainJson_dump h
    have hplain : ∀ s : ByteString, PlainText s → (0 : UInt8) ∉ s := fun s hs h0 =>
      absurd (hs 0 h0).1 (by decide)
    simp only [List.mem_append, not_or]
    exact ⟨by decide, hplain _ hid, by decide, hplain _ hname, by decide⟩

/-- A car comes, and the platform prefers it for the call that becomes active. -/
def carOps : List DCallOp :=
  [.onDCallSystemAbilityAdded,
    .onDCallDeviceOnline [0x31] ⟨some ⟨[0x63, 0x61, 0x72], .car⟩, true, false⟩,
    .checkAndSwitchDistributedAudioDevice true false, .advance 0 false, .advance 0 false,
    .advance 0 true]

/-- The switch is recorded in time, and off again when the call ends. -/
theorem devicesOk_iff_inTime :
    Run.StatesMeet (step plainJson true) (DevicesOk plainJson) (init false)
      (carOps ++ [.advance 0 false, .onActivedCallDisconnected]) :=
  (devicesOk_iff plainJson_roundTrips true false _).mpr (by decide +kernel)

/-- The call ends before the switch is recorded: the car stays connected. -/
theorem late_switch_stays :
    plainJson.RoundTrips ∧
      ¬ Run.StatesMeet (step plainJson true) (DevicesOk plainJson) (init false)
        (carOps ++ [.onActivedCallDisconnected, .advance 0 false]) := by
  refine ⟨plainJson_roundTrips, fun hall => ?_⟩
  have hon : (Run.run (step plainJson true) (init false)
      (carOps ++ [.onActivedCallDisconnected, .advance 0 false])).dCallDeviceSwitchedOn = true := by
    decide +kernel
  have hended : (Run.run (step plainJson true) (init false)
      (carOps ++ [.onActivedCallDisconnected, .advance 0 false])).isCallActived = false := by
    decide +kernel
  have hactive := (hall.last.connected hon).2
  rw [hended] at hactive
  cases hactive

end DCallWorld

end CallManager.DistributedDevices
