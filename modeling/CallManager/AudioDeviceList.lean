import CallManager.Types
import CallManager.Library.Run

/-!
# The list of audio devices

`AudioDeviceManager` keeps the list of the audio devices, and beside it three
flags that the routing reads instead of the list: whether a wired headset, a
Bluetooth SCO device and a distributed device are connected. It keeps one
earpiece on the list, and takes it off while a wired headset is connected.

What `RemoveAudioDeviceList` asks of the audio control and the reports of the
list are left out, with the order in which the report of a transferred call
leaves the list.

Results:
* `deviceListOk_iff`: the list and the flags agree throughout a run iff no step
  takes a distributed device off while another one stays, adds a second
  earpiece or one beside a wired headset, or adds an address with a zero byte
  that another entry is a prefix of.
* `removed_phone_hides_car`: the loss of one of two distributed devices.
* `addsAtomically_iff`: `AddAudioDeviceList` puts the device on the list or leaves
  everything as it is, iff it puts it there or passes no earpiece on behalf of a
  wired headset before it gives up.
* `long_address_loses_earpiece`: a wired headset that is refused takes the
  earpiece with it.
-/

namespace CallManager

/-- `AudioDevice` (call_manager_inner_type.h:1011-1024), with its two arrays as C strings. -/
structure AudioDevice where
  deviceType : AudioDeviceType
  address : ByteString
  deviceName : ByteString
  deriving DecidableEq, Repr

/-- `kMaxAddressLen` (call_manager_base.h:38). -/
def maxAddressLen : ℕ := 225

/-- `kMaxDeviceNameLen` (call_manager_base.h:42). -/
def maxDeviceNameLen : ℕ := 64

/-- The device list and the flags of `AudioDeviceManager` (audio_device_manager.h:119-136). -/
structure AudioDeviceManager where
  audioDeviceList : List AudioDevice
  isSpeakerAvailable : Bool
  isEarpieceAvailable : Bool
  isUpdateEarpieceDevice : Bool
  isWiredHeadsetConnected : Bool
  isBtScoConnected : Bool
  isDCallDevConnected : Bool
  deriving DecidableEq, Repr

namespace AudioDeviceManager

/-! ## Operations -/

/-- `Init` (audio_device_manager.cpp:75-100), on a wearable device or not. -/
def init (isWearable : Bool) : AudioDeviceManager where
  audioDeviceList := [⟨.speaker, [], []⟩, ⟨.earpiece, [], []⟩]
  isSpeakerAvailable := true
  isEarpieceAvailable := !isWearable
  isUpdateEarpieceDevice := false
  isWiredHeadsetConnected := false
  isBtScoConnected := false
  isDCallDevConnected := false

/-- `IsDistributedAudioDeviceType` (audio_device_manager.cpp:963-972). -/
def isDistributedAudioDeviceType (deviceType : AudioDeviceType) : Bool :=
  deviceType ∈ [AudioDeviceType.distributedAutomotive, .distributedPhone, .distributedPad,
    .distributedPc]

/-- `SetDeviceAvailable` (audio_device_manager.cpp:974-998). -/
def setDeviceAvailable (m : AudioDeviceManager) (deviceType : AudioDeviceType) (available : Bool) :
    AudioDeviceManager :=
  match deviceType with
  | .speaker => { m with isSpeakerAvailable := available }
  | .earpiece => { m with isEarpieceAvailable := available }
  | .bluetoothSco => { m with isBtScoConnected := available }
  | .wiredHeadset => { m with isWiredHeadsetConnected := available }
  | .distributedAutomotive | .distributedPhone | .distributedPad | .distributedPc =>
    { m with isDCallDevConnected := available }
  | .disable | .unknown | .nearlink | .bluetoothHearingAid => m

/-- The loop of `AddAudioDeviceList`: whether it finds the device, and the list
    it leaves. It takes the earpieces off that it passes. -/
def addScan (address : ByteString) (deviceType : AudioDeviceType) :
    List AudioDevice → Bool × List AudioDevice
  | [] => (false, [])
  | it :: list =>
    if it.address = address ∧ it.deviceType = deviceType then (true, it :: list)
    else
      let (found, list) := addScan address deviceType list
      (found, if deviceType = .wiredHeadset ∧ it.deviceType = .earpiece then list else it :: list)

/-- `AddAudioDeviceList` (audio_device_manager.cpp:197-248). -/
def addAudioDeviceList (m : AudioDeviceManager) (address : ByteString)
    (deviceType : AudioDeviceType) (deviceName : ByteString) : AudioDeviceManager :=
  let (found, list) := addScan address deviceType m.audioDeviceList
  let m := { m with audioDeviceList := list }
  if found then m
  else if maxAddressLen < address.length then m
  else if maxDeviceNameLen < deviceName.length then m
  else
    let audioDevice : AudioDevice := ⟨deviceType, cString address, cString deviceName⟩
    let m := { m with audioDeviceList := m.audioDeviceList ++ [audioDevice] }
    let m := if deviceType = .wiredHeadset then m.setDeviceAvailable .wiredHeadset true else m
    let m := if deviceType = .bluetoothSco then m.setDeviceAvailable .bluetoothSco true else m
    if isDistributedAudioDeviceType deviceType then m.setDeviceAvailable deviceType true else m

/-- Whether the list has a device of the type. -/
def lists (list : List AudioDevice) (deviceType : AudioDeviceType) : Bool :=
  list.any fun it => it.deviceType = deviceType

/-- `AddEarpiece` (audio_device_manager.cpp:297-309). -/
def addEarpiece (isSupportEarpiece : Bool) (m : AudioDeviceManager) : AudioDeviceManager :=
  if isSupportEarpiece then
    { m with audioDeviceList := m.audioDeviceList ++ [⟨.earpiece, [], []⟩] }
  else m

/-- `RemoveAudioDeviceList` (audio_device_manager.cpp:250-295). -/
def removeAudioDeviceList (isSupportEarpiece : Bool) (m : AudioDeviceManager) (address : ByteString)
    (deviceType : AudioDeviceType) : AudioDeviceManager :=
  let needAddEarpiece := !lists m.audioDeviceList .earpiece
  let list := m.audioDeviceList.filter fun it =>
    ¬ (it.address = address ∧ it.deviceType = deviceType)
  let m := { m with audioDeviceList := list }
  let wiredHeadsetExist := lists list .wiredHeadset
  let blueToothScoExist := lists list .bluetoothSco
  let m :=
    if deviceType = .wiredHeadset ∧ wiredHeadsetExist = false then
      m.setDeviceAvailable .wiredHeadset false
    else m
  let m :=
    if deviceType = .bluetoothSco ∧ blueToothScoExist = false then
      m.setDeviceAvailable .bluetoothSco false
    else m
  let m :=
    if isDistributedAudioDeviceType deviceType then m.setDeviceAvailable deviceType false else m
  if needAddEarpiece ∧ deviceType = .wiredHeadset ∧ wiredHeadsetExist = false then
    m.addEarpiece isSupportEarpiece
  else m

/-- `ResetBtAudioDevicesList` (audio_device_manager.cpp:311-329). -/
def resetBtAudioDevicesList (m : AudioDeviceManager) : AudioDeviceManager :=
  let m :=
    { m with
      audioDeviceList :=
        m.audioDeviceList.filter fun it => it.deviceType ≠ AudioDeviceType.bluetoothSco }
  m.setDeviceAvailable .bluetoothSco false

/-- `ResetDistributedCallDevicesList` (audio_device_manager.cpp:331-348). -/
def resetDistributedCallDevicesList (m : AudioDeviceManager) : AudioDeviceManager :=
  let m :=
    { m with
      audioDeviceList :=
        m.audioDeviceList.filter fun it => ¬ isDistributedAudioDeviceType it.deviceType }
  let m := m.setDeviceAvailable .distributedAutomotive false
  let m := m.setDeviceAvailable .distributedPhone false
  let m := m.setDeviceAvailable .distributedPad false
  m.setDeviceAvailable .distributedPc false

/-- `UpdateEarpieceDevice` (audio_device_manager.cpp:115-133): the first earpiece is taken off,
    once. -/
def updateEarpieceDevice (isSupportEarpiece : Bool) (m : AudioDeviceManager) : AudioDeviceManager :=
  if m.isUpdateEarpieceDevice ∨ isSupportEarpiece then { m with isUpdateEarpieceDevice := true }
  else
    { m with
      isUpdateEarpieceDevice := true
      audioDeviceList := m.audioDeviceList.eraseP fun it => it.deviceType = .earpiece }

end AudioDeviceManager

/-- The operations on the list. -/
inductive DeviceListOp
  | addAudioDeviceList (address : ByteString) (deviceType : AudioDeviceType)
      (deviceName : ByteString)
  | removeAudioDeviceList (address : ByteString) (deviceType : AudioDeviceType)
  | resetBtAudioDevicesList
  | resetDistributedCallDevicesList
  | updateEarpieceDevice
  deriving DecidableEq, Repr

/-- The state after one operation, on a platform that supports an earpiece or does not. -/
def deviceListStep (isSupportEarpiece : Bool) (m : AudioDeviceManager) :
    DeviceListOp → AudioDeviceManager
  | .addAudioDeviceList address deviceType deviceName =>
    m.addAudioDeviceList address deviceType deviceName
  | .removeAudioDeviceList address deviceType =>
    m.removeAudioDeviceList isSupportEarpiece address deviceType
  | .resetBtAudioDevicesList => m.resetBtAudioDevicesList
  | .resetDistributedCallDevicesList => m.resetDistributedCallDevicesList
  | .updateEarpieceDevice => m.updateEarpieceDevice isSupportEarpiece

/-! ## Specification -/

namespace AudioDevice

/-- What tells two devices apart. -/
def key (d : AudioDevice) : ByteString × AudioDeviceType := (d.address, d.deviceType)

/-- A device of one of the four distributed types. -/
def IsDistributed (d : AudioDevice) : Prop :=
  AudioDeviceManager.isDistributedAudioDeviceType d.deviceType = true

instance (d : AudioDevice) : Decidable d.IsDistributed := inferInstanceAs (Decidable (_ = _))

end AudioDevice

namespace AudioDeviceManager

/-- The list has no device twice, the flags say what it has, and it has at most
    one earpiece and none beside a wired headset. -/
structure DeviceListOk (m : AudioDeviceManager) : Prop where
  nodup : (m.audioDeviceList.map AudioDevice.key).Nodup
  wired : m.isWiredHeadsetConnected = true ↔ ∃ d ∈ m.audioDeviceList, d.deviceType = .wiredHeadset
  btSco : m.isBtScoConnected = true ↔ ∃ d ∈ m.audioDeviceList, d.deviceType = .bluetoothSco
  dCall : m.isDCallDevConnected = true ↔ ∃ d ∈ m.audioDeviceList, d.IsDistributed
  earpiece : m.audioDeviceList.countP (fun d => d.deviceType = .earpiece) ≤ 1
  apart : (∃ d ∈ m.audioDeviceList, d.deviceType = .wiredHeadset) →
    ∀ d ∈ m.audioDeviceList, d.deviceType ≠ .earpiece

/-- `AddAudioDeviceList` puts the device on the list: it does not find it, and
    the address and the name are not too long. -/
def Pushes (m : AudioDeviceManager) (address : ByteString) (deviceType : AudioDeviceType)
    (deviceName : ByteString) : Prop :=
  (∀ d ∈ m.audioDeviceList, ¬ (d.address = address ∧ d.deviceType = deviceType)) ∧
    address.length ≤ maxAddressLen ∧ deviceName.length ≤ maxDeviceNameLen

/-- What is on the list when a device is put on it. -/
def pushed (m : AudioDeviceManager) (list : List AudioDevice) (d : AudioDevice) :
    AudioDeviceManager :=
  { m with
    audioDeviceList := list ++ [d]
    isWiredHeadsetConnected := m.isWiredHeadsetConnected || d.deviceType = .wiredHeadset
    isBtScoConnected := m.isBtScoConnected || d.deviceType = .bluetoothSco
    isDCallDevConnected := m.isDCallDevConnected || isDistributedAudioDeviceType d.deviceType }

/-- `AddAudioDeviceList` puts the device on the list, without the earpieces if it
    is a wired headset, or leaves the list and the flags as they are. -/
def AddsAtomically (m : AudioDeviceManager) (address : ByteString) (deviceType : AudioDeviceType)
    (deviceName : ByteString) : Prop :=
  let earpieceRemoved :=
    if deviceType = .wiredHeadset then
      m.audioDeviceList.filter fun d => d.deviceType ≠ .earpiece
    else m.audioDeviceList
  m.Pushes address deviceType deviceName ∧
      m.addAudioDeviceList address deviceType deviceName =
        m.pushed earpieceRemoved ⟨deviceType, cString address, cString deviceName⟩ ∨
    m.addAudioDeviceList address deviceType deviceName = m

/-- The condition on an operation: a device that is put on the list is not there under the part
    of its address before the first zero byte, and it is an earpiece only if there is neither
    another one nor a wired headset; a distributed device is removed only if no other one stays. -/
def StepOk (m : AudioDeviceManager) : DeviceListOp → Prop
  | .addAudioDeviceList address deviceType deviceName =>
    m.Pushes address deviceType deviceName →
      (∀ d ∈ m.audioDeviceList, ¬ (d.address = cString address ∧ d.deviceType = deviceType)) ∧
        (deviceType = .earpiece →
          ∀ d ∈ m.audioDeviceList, d.deviceType ≠ .earpiece ∧ d.deviceType ≠ .wiredHeadset)
  | .removeAudioDeviceList address deviceType =>
    isDistributedAudioDeviceType deviceType = true →
      ∀ d ∈ m.audioDeviceList, d.IsDistributed → d.address = address ∧ d.deviceType = deviceType
  | _ => True

/-! ## The scan for a device -/

theorem addScan_fst (address : ByteString) (deviceType : AudioDeviceType)
    (list : List AudioDevice) :
    (addScan address deviceType list).1 = true ↔
      ∃ d ∈ list, d.address = address ∧ d.deviceType = deviceType := by
  induction list with
  | nil => simp [addScan]
  | cons it list ih =>
    unfold addScan
    by_cases hit : it.address = address ∧ it.deviceType = deviceType
    · rw [if_pos hit]
      simp [hit]
    · rw [if_neg hit]
      simp [ih, hit]

/-- The scan only takes devices off. -/
theorem addScan_sublist (address : ByteString) (deviceType : AudioDeviceType)
    (list : List AudioDevice) : (addScan address deviceType list).2.Sublist list := by
  induction list with
  | nil => exact .slnil
  | cons it list ih =>
    unfold addScan
    by_cases hit : it.address = address ∧ it.deviceType = deviceType
    · rw [if_pos hit]
    · rw [if_neg hit]
      dsimp only
      by_cases he : deviceType = .wiredHeadset ∧ it.deviceType = .earpiece
      · rw [if_pos he]
        exact ih.cons _
      · rw [if_neg he]
        exact ih.cons_cons _

/-- What the scan takes off is an earpiece. -/
theorem mem_addScan {address : ByteString} {deviceType : AudioDeviceType}
    {list : List AudioDevice} {d : AudioDevice} (hd : d ∈ list) (he : d.deviceType ≠ .earpiece) :
    d ∈ (addScan address deviceType list).2 := by
  induction list with
  | nil => exact hd
  | cons it list ih =>
    unfold addScan
    by_cases hit : it.address = address ∧ it.deviceType = deviceType
    · rw [if_pos hit]
      exact hd
    · rw [if_neg hit]
      dsimp only
      rcases List.mem_cons.mp hd with rfl | hd
      · rw [if_neg fun h => he h.2]
        exact List.mem_cons_self
      · have htail := ih hd
        split
        · exact htail
        · exact List.mem_cons_of_mem _ htail

/-- Only a wired headset has earpieces taken off. -/
theorem addScan_of_ne {address : ByteString} {deviceType : AudioDeviceType}
    (h : deviceType ≠ .wiredHeadset) (list : List AudioDevice) :
    (addScan address deviceType list).2 = list := by
  induction list with
  | nil => rfl
  | cons it list ih =>
    unfold addScan
    by_cases hit : it.address = address ∧ it.deviceType = deviceType
    · rw [if_pos hit]
    · rw [if_neg hit]
      dsimp only
      rw [if_neg fun hw => h hw.1, ih]

/-- The scan does not change whether the list has a device of that type. -/
theorem key_notMem_addScan {address address' : ByteString} {deviceType : AudioDeviceType}
    {list : List AudioDevice} :
    (address', deviceType) ∉ (addScan address deviceType list).2.map AudioDevice.key ↔
      ∀ d ∈ list, ¬ (d.address = address' ∧ d.deviceType = deviceType) := by
  have hkey : ∀ l : List AudioDevice, (address', deviceType) ∉ l.map AudioDevice.key ↔
      ∀ d ∈ l, ¬ (d.address = address' ∧ d.deviceType = deviceType) := by
    intro l
    simp only [List.mem_map, AudioDevice.key, Prod.mk.injEq, not_exists, not_and]
  rw [hkey]
  by_cases hw : deviceType = .wiredHeadset
  · constructor
    · intro h d hd he
      exact h d (mem_addScan hd (by simp [he.2, hw])) he
    · intro h d hd he
      exact h d ((addScan_sublist ..).subset hd) he
  · rw [addScan_of_ne hw]

/-- A wired headset that is not on the list yet has every earpiece taken off. -/
theorem ne_earpiece_of_mem_addScan {address : ByteString} {list : List AudioDevice}
    (hnew : ∀ d ∈ list, ¬ (d.address = address ∧ d.deviceType = .wiredHeadset)) {d : AudioDevice}
    (hd : d ∈ (addScan address .wiredHeadset list).2) : d.deviceType ≠ .earpiece := by
  induction list with
  | nil => simp [addScan] at hd
  | cons it list ih =>
    have hit := hnew it List.mem_cons_self
    have hrest := ih fun d hd => hnew d (List.mem_cons_of_mem _ hd)
    unfold addScan at hd
    rw [if_neg hit] at hd
    dsimp only at hd
    by_cases he : it.deviceType = .earpiece
    · rw [if_pos ⟨rfl, he⟩] at hd
      exact hrest hd
    · rw [if_neg fun h => he h.2] at hd
      rcases List.mem_cons.mp hd with rfl | hd
      · exact he
      · exact hrest hd

/-! ## What a device on the list is -/

@[simp] theorem lists_iff (list : List AudioDevice) (deviceType : AudioDeviceType) :
    lists list deviceType = true ↔ ∃ d ∈ list, d.deviceType = deviceType := by
  simp [lists]

@[simp] theorem lists_eq_false (list : List AudioDevice) (deviceType : AudioDeviceType) :
    lists list deviceType = false ↔ ∀ d ∈ list, d.deviceType ≠ deviceType := by
  simp [lists]

/-- Taking devices off keeps what concerns the list alone. -/
theorem DeviceListOk.of_sublist {m m' : AudioDeviceManager} (h : m.DeviceListOk)
    (hsub : m'.audioDeviceList.Sublist m.audioDeviceList)
    (wired : m'.isWiredHeadsetConnected = true ↔
      ∃ d ∈ m'.audioDeviceList, d.deviceType = .wiredHeadset)
    (btSco : m'.isBtScoConnected = true ↔ ∃ d ∈ m'.audioDeviceList, d.deviceType = .bluetoothSco)
    (dCall : m'.isDCallDevConnected = true ↔ ∃ d ∈ m'.audioDeviceList, d.IsDistributed) :
    m'.DeviceListOk where
  nodup := (hsub.map _).nodup h.nodup
  wired := wired
  btSco := btSco
  dCall := dCall
  earpiece := Nat.le_trans hsub.countP_le h.earpiece
  apart := by
    rintro ⟨d, hd, hw⟩ e he
    exact h.apart ⟨d, hsub.subset hd, hw⟩ e (hsub.subset he)

theorem not_isDistributed_of_earpiece {d : AudioDevice} (h : d.deviceType = .earpiece) :
    ¬ d.IsDistributed := by
  simp [AudioDevice.IsDistributed, isDistributedAudioDeviceType, h]

/-- An earpiece may go at any time: no flag is about it. -/
theorem DeviceListOk.of_keeps {m : AudioDeviceManager} (h : m.DeviceListOk)
    {list : List AudioDevice} (hsub : list.Sublist m.audioDeviceList)
    (hkeep : ∀ d ∈ m.audioDeviceList, d.deviceType ≠ .earpiece → d ∈ list) :
    ({ m with audioDeviceList := list } : AudioDeviceManager).DeviceListOk := by
  have hmem : ∀ p : AudioDevice → Prop, (∀ d, p d → d.deviceType ≠ .earpiece) →
      ((∃ d ∈ m.audioDeviceList, p d) ↔ ∃ d ∈ list, p d) := by
    intro p hp
    constructor
    · rintro ⟨d, hd, hpd⟩
      exact ⟨d, hkeep d hd (hp d hpd), hpd⟩
    · rintro ⟨d, hd, hpd⟩
      exact ⟨d, hsub.subset hd, hpd⟩
  refine h.of_sublist hsub ?_ ?_ ?_
  · exact h.wired.trans (hmem _ fun d hd => by simp [hd])
  · exact h.btSco.trans (hmem _ fun d hd => by simp [hd])
  · exact h.dCall.trans (hmem _ fun d hd he => not_isDistributed_of_earpiece he hd)

/-! ## Adding a device -/

theorem addAudioDeviceList_of_pushes {m : AudioDeviceManager} {address deviceName : ByteString}
    {deviceType : AudioDeviceType} (h : m.Pushes address deviceType deviceName) :
    m.addAudioDeviceList address deviceType deviceName =
      m.pushed (addScan address deviceType m.audioDeviceList).2
        ⟨deviceType, cString address, cString deviceName⟩ := by
  obtain ⟨hnew, ha, hn⟩ := h
  have hfound : ¬ (addScan address deviceType m.audioDeviceList).1 = true := by
    intro hf
    obtain ⟨d, hd, he⟩ := (addScan_fst ..).mp hf
    exact hnew d hd he
  unfold addAudioDeviceList
  dsimp only
  rw [if_neg hfound, if_neg (by omega), if_neg (by omega)]
  cases deviceType <;> simp [pushed, setDeviceAvailable, isDistributedAudioDeviceType]

/-- A device that is not put on the list changes nothing but the earpieces. -/
theorem addAudioDeviceList_of_not_pushes {m : AudioDeviceManager}
    {address deviceName : ByteString} {deviceType : AudioDeviceType}
    (h : ¬ m.Pushes address deviceType deviceName) :
    m.addAudioDeviceList address deviceType deviceName =
      { m with audioDeviceList := (addScan address deviceType m.audioDeviceList).2 } := by
  unfold addAudioDeviceList
  dsimp only
  by_cases hf : (addScan address deviceType m.audioDeviceList).1 = true
  · rw [if_pos hf]
  · rw [if_neg hf]
    by_cases ha : maxAddressLen < address.length
    · rw [if_pos ha]
    · rw [if_neg ha, if_pos]
      by_contra hn
      refine h ⟨fun d hd he => hf ((addScan_fst ..).mpr ⟨d, hd, he⟩), ?_, ?_⟩ <;> omega

/-- The scan of a list without the device takes the earpieces off for a wired
    headset, and nothing for another device. -/
theorem addScan_snd_of_new {address : ByteString} {deviceType : AudioDeviceType}
    {list : List AudioDevice}
    (h : ∀ d ∈ list, ¬ (d.address = address ∧ d.deviceType = deviceType)) :
    (addScan address deviceType list).2 =
      if deviceType = .wiredHeadset then list.filter fun d => d.deviceType ≠ .earpiece
      else list := by
  induction list with
  | nil => simp [addScan]
  | cons it list ih =>
    rw [List.forall_mem_cons] at h
    rw [addScan, if_neg h.1]
    dsimp only
    rw [ih h.2]
    by_cases hwired : deviceType = .wiredHeadset
    · by_cases hear : it.deviceType = .earpiece
      · simp [hwired, hear]
      · simp [hwired, hear]
    · simp [hwired]

/-- The devices that the scan passes. -/
def scanned (address : ByteString) (deviceType : AudioDeviceType) (list : List AudioDevice) :
    List AudioDevice :=
  list.takeWhile fun d => ¬ (d.address = address ∧ d.deviceType = deviceType)

/-- The scan leaves the list as it is iff it passes no earpiece for a wired headset. -/
theorem addScan_snd_eq_self_iff {address : ByteString} {deviceType : AudioDeviceType}
    {list : List AudioDevice} :
    (addScan address deviceType list).2 = list ↔
      (deviceType = .wiredHeadset →
        ∀ d ∈ scanned address deviceType list, d.deviceType ≠ .earpiece) := by
  induction list with
  | nil => simp [addScan, scanned]
  | cons it list ih =>
    by_cases hfound : it.address = address ∧ it.deviceType = deviceType
    · rw [addScan, if_pos hfound, scanned, List.takeWhile_cons_of_neg (by simp [hfound])]
      simp
    have hscanned : scanned address deviceType (it :: list) =
        it :: scanned address deviceType list :=
      List.takeWhile_cons_of_pos (decide_eq_true hfound)
    rw [addScan, if_neg hfound, hscanned]
    dsimp only
    by_cases hremoved : deviceType = .wiredHeadset ∧ it.deviceType = .earpiece
    · rw [if_pos hremoved]
      refine iff_of_false (fun heq => ?_) fun hall => ?_
      · -- the scan leaves no more than what follows the earpiece
        have hle := (addScan_sublist address deviceType list).length_le
        rw [heq, List.length_cons] at hle
        omega
      · exact hall hremoved.1 it List.mem_cons_self hremoved.2
    · rw [if_neg hremoved, List.cons_inj_right, ih]
      refine forall_congr' fun hwired => ?_
      rw [List.forall_mem_cons]
      exact (and_iff_right fun hear => hremoved ⟨hwired, hear⟩).symm

/-- **Adding a device.** `AddAudioDeviceList` puts the device on the list or leaves everything
    as it is, iff it puts it there or passes no earpiece for a wired headset. -/
theorem addsAtomically_iff (m : AudioDeviceManager) (address : ByteString)
    (deviceType : AudioDeviceType) (deviceName : ByteString) :
    m.AddsAtomically address deviceType deviceName ↔
      (¬ m.Pushes address deviceType deviceName → deviceType = .wiredHeadset →
        ∀ d ∈ scanned address deviceType m.audioDeviceList, d.deviceType ≠ .earpiece) := by
  by_cases hpushes : m.Pushes address deviceType deviceName
  · refine iff_of_true (.inl ⟨hpushes, ?_⟩) fun h => absurd hpushes h
    rw [addAudioDeviceList_of_pushes hpushes, addScan_snd_of_new hpushes.1]
  · have hself : { m with audioDeviceList := (addScan address deviceType m.audioDeviceList).2 } =
        m ↔ (addScan address deviceType m.audioDeviceList).2 = m.audioDeviceList :=
      ⟨fun h => congrArg audioDeviceList h, fun h => by rw [h]⟩
    unfold AddsAtomically
    rw [addAudioDeviceList_of_not_pushes hpushes, hself, addScan_snd_eq_self_iff]
    simp only [hpushes, false_and, false_or, not_false_eq_true, forall_const]

/-- The earpiece is taken off before the length of the address is looked at. -/
theorem long_address_loses_earpiece :
    ¬ ∀ (m : AudioDeviceManager) (address : ByteString) (deviceType : AudioDeviceType)
      (deviceName : ByteString), m.AddsAtomically address deviceType deviceName := by
  intro h
  rcases h (init false) (List.replicate 226 1) .wiredHeadset [] with ⟨⟨-, haddress, -⟩, -⟩ | hself
  · rw [List.length_replicate] at haddress
    exact absurd haddress (by decide)
  · exact absurd (congrArg (fun m => m.audioDeviceList.length) hself) (by decide +kernel)

/-- Putting a device on a list in order keeps it in order iff the device is new
    and its type agrees with the others. -/
theorem DeviceListOk.pushed_iff {m : AudioDeviceManager} {list : List AudioDevice}
    (h : ({ m with audioDeviceList := list } : AudioDeviceManager).DeviceListOk)
    {d : AudioDevice} (hw : d.deviceType = .wiredHeadset → ∀ e ∈ list, e.deviceType ≠ .earpiece) :
    (m.pushed list d).DeviceListOk ↔
      d.key ∉ list.map AudioDevice.key ∧
        (d.deviceType = .earpiece →
          ∀ e ∈ list, e.deviceType ≠ .earpiece ∧ e.deviceType ≠ .wiredHeadset) := by
  constructor
  · intro hok
    refine ⟨fun hmem => ?_, fun hd e he => ⟨fun hee => ?_, fun hew => ?_⟩⟩
    · have hnd := hok.nodup
      simp only [pushed, List.map_append, List.nodup_append] at hnd
      exact hnd.2.2 _ hmem _ (by simp) rfl
    · have hcount : 0 < list.countP fun d => d.deviceType = .earpiece :=
        List.countP_pos_iff.mpr ⟨e, he, by simp [hee]⟩
      have hle := hok.earpiece
      simp only [pushed, List.countP_append, List.countP_singleton, hd, decide_true,
        if_true] at hle
      omega
    · refine hok.apart ⟨e, by simp [pushed, he], hew⟩ d ?_ hd
      simp [pushed]
  · rintro ⟨hnew, hear⟩
    have hflag : ∀ (p : AudioDevice → Prop) [DecidablePred p] (b : Bool),
        (b = true ↔ ∃ e ∈ list, p e) →
          ((b || decide (p d)) = true ↔ ∃ e ∈ list ++ [d], p e) := by
      intro p _ b hb
      rw [Bool.or_eq_true, hb, decide_eq_true_iff]
      simp only [List.mem_append, List.mem_singleton, or_and_right, exists_or, exists_eq_left]
    constructor
    case nodup =>
      simp only [pushed, List.map_append, List.nodup_append]
      refine ⟨h.nodup, by simp, fun a ha b hb => ?_⟩
      rw [List.map_singleton, List.mem_singleton] at hb
      exact fun hab => hnew (hb ▸ hab ▸ ha)
    case wired => exact hflag (fun e => e.deviceType = .wiredHeadset) _ h.wired
    case btSco => exact hflag (fun e => e.deviceType = .bluetoothSco) _ h.btSco
    case dCall =>
      have hd := hflag AudioDevice.IsDistributed _ h.dCall
      rwa [show decide d.IsDistributed = isDistributedAudioDeviceType d.deviceType from
        Bool.decide_eq_true] at hd
    case earpiece =>
      have hle : list.countP (fun d => d.deviceType = .earpiece) ≤ 1 := h.earpiece
      simp only [pushed, List.countP_append, List.countP_singleton]
      by_cases hd : d.deviceType = .earpiece
      · have hzero : list.countP (fun d => d.deviceType = .earpiece) = 0 :=
          List.countP_eq_zero.mpr fun e he => by simp [(hear hd e he).1]
        simp [hzero, hd]
      · simpa [hd] using hle
    case apart =>
      rintro ⟨w, hw', hwt⟩ e he
      rcases List.mem_append.mp he with he | he
      · rcases List.mem_append.mp hw' with hw' | hw'
        · exact h.apart ⟨w, hw', hwt⟩ e he
        · rw [List.mem_singleton] at hw'
          exact hw (hw' ▸ hwt) e he
      · rw [List.mem_singleton] at he
        subst he
        intro hd
        rcases List.mem_append.mp hw' with hw' | hw'
        · exact (hear hd w hw').2 hwt
        · rw [List.mem_singleton] at hw'
          rw [hw', hd] at hwt
          contradiction

theorem deviceListOk_addAudioDeviceList {m : AudioDeviceManager} (h : m.DeviceListOk)
    (address : ByteString) (deviceType : AudioDeviceType) (deviceName : ByteString) :
    (m.addAudioDeviceList address deviceType deviceName).DeviceListOk ↔
      m.StepOk (.addAudioDeviceList address deviceType deviceName) := by
  have hscan := h.of_keeps (addScan_sublist address deviceType m.audioDeviceList)
    fun d hd he => mem_addScan hd he
  by_cases hp : m.Pushes address deviceType deviceName
  · rw [addAudioDeviceList_of_pushes hp, hscan.pushed_iff]
    · simp only [StepOk, hp, forall_const]
      refine and_congr ?_ ?_
      · exact key_notMem_addScan
      · by_cases hw : deviceType = .wiredHeadset
        · simp [hw]
        · rw [addScan_of_ne hw]
    · rintro rfl e he
      exact ne_earpiece_of_mem_addScan hp.1 he
  · rw [addAudioDeviceList_of_not_pushes hp]
    exact ⟨fun _ h' => absurd h' hp, fun _ => hscan⟩

/-! ## Removing devices -/

/-- Adding the earpiece where there is neither one nor a wired headset. -/
theorem DeviceListOk.addEarpiece {m : AudioDeviceManager} (h : m.DeviceListOk)
    (isSupportEarpiece : Bool)
    (hnew : ∀ e ∈ m.audioDeviceList, e.deviceType ≠ .earpiece ∧ e.deviceType ≠ .wiredHeadset) :
    (m.addEarpiece isSupportEarpiece).DeviceListOk := by
  unfold AudioDeviceManager.addEarpiece
  cases isSupportEarpiece with
  | false => exact h
  | true =>
    have hp : m.pushed m.audioDeviceList ⟨.earpiece, [], []⟩ =
        { m with audioDeviceList := m.audioDeviceList ++ [⟨.earpiece, [], []⟩] } := by
      simp [pushed, isDistributedAudioDeviceType]
    rw [if_pos rfl, ← hp]
    refine (DeviceListOk.pushed_iff (m := m) h (by simp)).mpr ⟨?_, fun _ => hnew⟩
    intro hmem
    obtain ⟨e, he, hkey⟩ := List.mem_map.mp hmem
    exact (hnew e he).1 (congrArg Prod.snd hkey)

/-- The list and the flags after a removal, before the earpiece is added. -/
def removed (m : AudioDeviceManager) (address : ByteString) (deviceType : AudioDeviceType) :
    AudioDeviceManager :=
  let list := m.audioDeviceList.filter fun it =>
    ¬ (it.address = address ∧ it.deviceType = deviceType)
  { m with
    audioDeviceList := list
    isWiredHeadsetConnected :=
      m.isWiredHeadsetConnected && !(deviceType = .wiredHeadset ∧ lists list .wiredHeadset = false)
    isBtScoConnected :=
      m.isBtScoConnected && !(deviceType = .bluetoothSco ∧ lists list .bluetoothSco = false)
    isDCallDevConnected := m.isDCallDevConnected && !isDistributedAudioDeviceType deviceType }

theorem removeAudioDeviceList_eq (isSupportEarpiece : Bool) (m : AudioDeviceManager)
    (address : ByteString) (deviceType : AudioDeviceType) :
    m.removeAudioDeviceList isSupportEarpiece address deviceType =
      if lists m.audioDeviceList .earpiece = false ∧ deviceType = .wiredHeadset ∧
          lists (m.removed address deviceType).audioDeviceList .wiredHeadset = false then
        (m.removed address deviceType).addEarpiece isSupportEarpiece
      else m.removed address deviceType := by
  unfold removeAudioDeviceList removed
  dsimp only
  generalize m.audioDeviceList.filter _ = list
  cases deviceType
  case wiredHeadset =>
    cases h : lists list .wiredHeadset <;>
      simp [setDeviceAvailable, isDistributedAudioDeviceType]
  case bluetoothSco =>
    cases h : lists list .bluetoothSco <;>
      simp [setDeviceAvailable, isDistributedAudioDeviceType]
  all_goals simp [setDeviceAvailable, isDistributedAudioDeviceType]

/-- A flag that is cleared when a removal of its type leaves none follows the list. -/
theorem flag_removed {list : List AudioDevice} {flag : Bool} {type : AudioDeviceType}
    (h : flag = true ↔ ∃ d ∈ list, d.deviceType = type) (address : ByteString)
    (deviceType : AudioDeviceType) :
    let list' := list.filter fun it => ¬ (it.address = address ∧ it.deviceType = deviceType)
    (flag && !(deviceType = type ∧ lists list' type = false)) = true ↔
      ∃ d ∈ list', d.deviceType = type := by
  dsimp only
  by_cases ht : deviceType = type
  · subst ht
    constructor
    · intro hf
      have hlists := (Bool.and_eq_true_iff.mp hf).2
      rw [Bool.not_eq_true', decide_eq_false_iff_not, eq_self, true_and, Bool.not_eq_false]
        at hlists
      exact (lists_iff ..).mp hlists
    · rintro ⟨d, hd, htype⟩
      have hflag := h.mpr ⟨d, List.mem_of_mem_filter hd, htype⟩
      have hlists := (lists_iff ..).mpr ⟨d, hd, htype⟩
      rw [hflag, Bool.true_and, Bool.not_eq_true', decide_eq_false_iff_not, hlists]
      simp
  · simp only [ht, false_and, decide_false, Bool.not_false, Bool.and_true, h]
    constructor
    · rintro ⟨d, hd, rfl⟩
      exact ⟨d, List.mem_filter.mpr ⟨hd, by simp [Ne.symm ht]⟩, rfl⟩
    · rintro ⟨d, hd, htype⟩
      exact ⟨d, List.mem_of_mem_filter hd, htype⟩

/-- **Removal.** A removal keeps the order iff it does not take a distributed
    device off while another one stays. -/
theorem deviceListOk_removed {m : AudioDeviceManager} (h : m.DeviceListOk) (address : ByteString)
    (deviceType : AudioDeviceType) :
    (m.removed address deviceType).DeviceListOk ↔
      (isDistributedAudioDeviceType deviceType = true →
        ∀ d ∈ m.audioDeviceList, d.IsDistributed →
          d.address = address ∧ d.deviceType = deviceType) := by
  constructor
  · intro hok hdist d hd hdd
    by_contra hne
    have hlisted : d ∈ (m.removed address deviceType).audioDeviceList :=
      List.mem_filter.mpr ⟨hd, decide_eq_true hne⟩
    have hflag := hok.dCall.mpr ⟨d, hlisted, hdd⟩
    simp [removed, hdist] at hflag
  · intro hcond
    refine h.of_sublist List.filter_sublist ?_ ?_ ?_
    · exact flag_removed h.wired address deviceType
    · exact flag_removed h.btSco address deviceType
    · show (m.isDCallDevConnected && !isDistributedAudioDeviceType deviceType) = true ↔ _
      cases hdist : isDistributedAudioDeviceType deviceType with
      | true =>
        rw [Bool.not_true, Bool.and_false]
        refine iff_of_false (by simp) ?_
        rintro ⟨d, hd, hdd⟩
        obtain ⟨hmem, hne⟩ := List.mem_filter.mp hd
        simp [hcond hdist d hmem hdd] at hne
      | false =>
        rw [Bool.not_false, Bool.and_true, h.dCall]
        constructor
        · rintro ⟨d, hd, hdd⟩
          refine ⟨d, List.mem_filter.mpr ⟨hd, ?_⟩, hdd⟩
          have hne : d.deviceType ≠ deviceType := by
            rintro rfl
            exact absurd (hdist ▸ hdd : false = true) (by simp)
          simp [hne]
        · rintro ⟨d, hd, hdd⟩
          exact ⟨d, List.mem_of_mem_filter hd, hdd⟩

theorem deviceListOk_removeAudioDeviceList (isSupportEarpiece : Bool) {m : AudioDeviceManager}
    (h : m.DeviceListOk) (address : ByteString) (deviceType : AudioDeviceType) :
    (m.removeAudioDeviceList isSupportEarpiece address deviceType).DeviceListOk ↔
      m.StepOk (.removeAudioDeviceList address deviceType) := by
  have hrem := deviceListOk_removed h address deviceType
  rw [removeAudioDeviceList_eq]
  by_cases hadd : lists m.audioDeviceList .earpiece = false ∧ deviceType = .wiredHeadset ∧
      lists (m.removed address deviceType).audioDeviceList .wiredHeadset = false
  · rw [if_pos hadd]
    obtain ⟨hear, rfl, hwired⟩ := hadd
    have hok : (m.removed address .wiredHeadset).DeviceListOk :=
      hrem.mpr fun hd => by simp [isDistributedAudioDeviceType] at hd
    refine iff_of_true (hok.addEarpiece _ fun e he => ⟨?_, ?_⟩) (hrem.mp hok)
    · exact (lists_eq_false ..).mp hear e (List.mem_of_mem_filter he)
    · exact (lists_eq_false ..).mp hwired e he
  · rw [if_neg hadd]
    exact hrem

/-- No device of the kinds that a reset takes off is on the list after it. -/
theorem exists_filter_not {list : List AudioDevice} {p q : AudioDevice → Prop} [DecidablePred p]
    (hpq : ∀ d, q d → ¬ p d) :
    (∃ d ∈ list.filter fun d => ¬ p d, q d) ↔ ∃ d ∈ list, q d := by
  constructor
  · rintro ⟨d, hd, hq⟩
    exact ⟨d, List.mem_of_mem_filter hd, hq⟩
  · rintro ⟨d, hd, hq⟩
    exact ⟨d, List.mem_filter.mpr ⟨hd, by simpa using hpq d hq⟩, hq⟩

theorem DeviceListOk.resetBtAudioDevicesList {m : AudioDeviceManager} (h : m.DeviceListOk) :
    m.resetBtAudioDevicesList.DeviceListOk := by
  refine h.of_sublist List.filter_sublist ?_ ?_ ?_
  · exact h.wired.trans (exists_filter_not fun d hd => by simp [hd]).symm
  · simp [AudioDeviceManager.resetBtAudioDevicesList, setDeviceAvailable]
  · refine h.dCall.trans (exists_filter_not fun d hd => ?_).symm
    rintro ht
    simp [AudioDevice.IsDistributed, isDistributedAudioDeviceType, ht] at hd

theorem DeviceListOk.resetDistributedCallDevicesList {m : AudioDeviceManager}
    (h : m.DeviceListOk) : m.resetDistributedCallDevicesList.DeviceListOk := by
  refine h.of_sublist List.filter_sublist ?_ ?_ ?_
  · refine h.wired.trans (exists_filter_not fun d hd => ?_).symm
    simp [hd, isDistributedAudioDeviceType]
  · refine h.btSco.trans (exists_filter_not fun d hd => ?_).symm
    simp [hd, isDistributedAudioDeviceType]
  · simp [AudioDeviceManager.resetDistributedCallDevicesList, setDeviceAvailable,
      AudioDevice.IsDistributed]

theorem DeviceListOk.updateEarpieceDevice {m : AudioDeviceManager} (h : m.DeviceListOk)
    (isSupportEarpiece : Bool) : (m.updateEarpieceDevice isSupportEarpiece).DeviceListOk := by
  unfold AudioDeviceManager.updateEarpieceDevice
  by_cases hu : m.isUpdateEarpieceDevice ∨ isSupportEarpiece
  · rw [if_pos hu]
    exact ⟨h.nodup, h.wired, h.btSco, h.dCall, h.earpiece, h.apart⟩
  · rw [if_neg hu]
    have hkeep := h.of_keeps List.eraseP_sublist fun d hd he =>
      (List.mem_eraseP_of_neg (p := fun it => it.deviceType = .earpiece) (by simpa using he)).mpr hd
    exact ⟨hkeep.nodup, hkeep.wired, hkeep.btSco, hkeep.dCall, hkeep.earpiece, hkeep.apart⟩

/-! ## Runs -/

theorem deviceListOk_init (isWearable : Bool) : (init isWearable).DeviceListOk where
  nodup := by simp [init, AudioDevice.key]
  wired := by simp [init]
  btSco := by simp [init]
  dCall := by simp [init, AudioDevice.IsDistributed, isDistributedAudioDeviceType]
  earpiece := by simp [init]
  apart := by simp [init]

/-- One operation keeps the order iff it meets the condition. -/
theorem deviceListOk_deviceListStep (isSupportEarpiece : Bool) {m : AudioDeviceManager}
    (h : m.DeviceListOk) (op : DeviceListOp) :
    (deviceListStep isSupportEarpiece m op).DeviceListOk ↔ m.StepOk op := by
  cases op with
  | addAudioDeviceList address deviceType deviceName =>
    exact deviceListOk_addAudioDeviceList h address deviceType deviceName
  | removeAudioDeviceList address deviceType =>
    exact deviceListOk_removeAudioDeviceList isSupportEarpiece h address deviceType
  | resetBtAudioDevicesList => exact iff_of_true h.resetBtAudioDevicesList trivial
  | resetDistributedCallDevicesList =>
    exact iff_of_true h.resetDistributedCallDevicesList trivial
  | updateEarpieceDevice => exact iff_of_true (h.updateEarpieceDevice isSupportEarpiece) trivial

/-- **Audio device list.** From the initial list the list and the flags agree in
    every state of a run iff every operation of it meets the condition. -/
theorem deviceListOk_iff (isSupportEarpiece isWearable : Bool) (ops : List DeviceListOp) :
    Run.StatesMeet (deviceListStep isSupportEarpiece) DeviceListOk (init isWearable) ops ↔
      Run.StepsMeet (deviceListStep isSupportEarpiece) StepOk (init isWearable) ops :=
  Run.statesMeet_iff_stepsMeet
    (fun _ op h => deviceListOk_deviceListStep isSupportEarpiece h op) ops
    (deviceListOk_init isWearable)

/-- A distributed phone leaves while the car stays. -/
def removedPhoneOps : List DeviceListOp :=
  [.addAudioDeviceList [1] .distributedAutomotive [], .addAudioDeviceList [2] .distributedPhone [],
    .removeAudioDeviceList [2] .distributedPhone]

/-- The flag is down, and the car is on the list. -/
theorem removed_phone_hides_car :
    ¬ ∀ (isSupportEarpiece isWearable : Bool) (ops : List DeviceListOp),
      Run.StatesMeet (deviceListStep isSupportEarpiece) DeviceListOk (init isWearable) ops := by
  intro hall
  have hok := (hall true false removedPhoneOps).last.dCall
  have hcar : ∃ d ∈ (Run.run (deviceListStep true) (init false) removedPhoneOps).audioDeviceList,
      d.IsDistributed := by decide
  have hflag : (Run.run (deviceListStep true) (init false)
      removedPhoneOps).isDCallDevConnected = false := by decide
  rw [hflag] at hok
  exact absurd (hok.mpr hcar) (by decide)

end AudioDeviceManager

end CallManager
