import CallManager.Library.Run
import CallManager.Types

/-!
# Several peer devices

`DistributedCommunicationManager` and `InteroperableCommunicationManager` keep
the peers that are online, a role, and the controllers of that role. The
controllers hear of the peers through a device observer, with which the manager
registers them; the controller of the side that takes the calls opens a server
session when a peer comes online.

Specification (`Sound`): the manager is connected iff a peer is online; its role
is that of its controllers; while a peer is online the controllers are
registered and the server is open; with the last peer all of it goes. And a peer
that goes offline while another remains destroys no session (`KeepsSession`).

Every online event sets the role anew, but leaves the controllers that exist;
every offline event reaches the controllers and takes them off the observer, and
only then looks whether a peer remains.

Results:
* `peers_share_controllers`: the runs of either manager that keep the
  specification are those in which all peers have one role and go offline alone.
* `offline_peer_closes_server`: of two peers, one goes offline.
-/

namespace CallManager.DistributedPeers

/-! ## The controllers -/

/-- The classes of the controllers of both managers. -/
inductive ControllerKind
  | dataSink
  | dataSource
  | sinkSwitch
  | sourceSwitch
  | client
  | server
  deriving DecidableEq, Repr

namespace ControllerKind

/-- Whether `session_` is set after `OnDeviceOnline`
    (distributed_data_source_controller.cpp:25-57, interoperable_server_manager.cpp:26-39). The
    other classes do nothing with it. -/
def onDeviceOnline : ControllerKind → Bool → Bool
  | .dataSource, _ | .server, _ => true
  | _, session => session

/-- Whether `session_` is set after `OnDeviceOffline`
    (distributed_data_source_controller.cpp:59-68, interoperable_server_manager.cpp:41-51). -/
def onDeviceOffline : ControllerKind → Bool → Bool
  | .dataSource, _ | .server, _ => false
  | _, session => session

/-- `OnCallCreated` and `CallCreated`, with `ConnectRemote`
    (distributed_data_sink_controller.cpp:26-32, interoperable_client_manager.cpp:25-28 and
    76-90). -/
def onCallCreated : ControllerKind → Bool → Bool
  | .dataSink, _ | .client, _ => true
  | _, session => session

/-- `OnCallDestroyed`, with the number of carrier calls
    (distributed_data_sink_controller.cpp:34-53, interoperable_client_manager.cpp:30-40). -/
def onCallDestroyed (carrierCalls : ℕ) : ControllerKind → Bool → Bool
  | .dataSink, session => if 1 < carrierCalls then session else false
  | .client, _ => false
  | _, session => session

end ControllerKind

/-- A controller, by the number of its object, and its class. -/
structure Controller where
  object : ℕ
  kind : ControllerKind
  deriving DecidableEq, Repr

/-- Whether the session of each controller object is set. -/
abbrev Sessions := ℕ → Bool

/-- One controller does `f`. -/
def Sessions.call (f : ControllerKind → Bool → Bool) (sessions : Sessions) (c : Controller) :
    Sessions :=
  Function.update sessions c.object (f c.kind (sessions c.object))

theorem Sessions.call_apply (f : ControllerKind → Bool → Bool) (sessions : Sessions)
    (c : Controller) (n : ℕ) :
    sessions.call f c n = if n = c.object then f c.kind (sessions c.object) else sessions n :=
  Function.update_apply ..

/-! ## The device observer -/

/-- `callbacks_` of the device observers (distributed_device_observer.cpp,
    interoperable_device_observer.cpp). -/
abbrev Callbacks := List Controller

namespace Callbacks

/-- `RegisterDevStatusCallback` (lines 50-65 and 43-58). -/
def registerDevStatusCallback (callbacks : Callbacks) : Option Controller → Callbacks
  | none => callbacks
  | some callback => if callback ∈ callbacks then callbacks else callbacks ++ [callback]

/-- `UnRegisterDevStatusCallback` (lines 67-76 and 60-69). -/
def unRegisterDevStatusCallback (callbacks : Callbacks) : Option Controller → Callbacks
  | none => callbacks
  | some callback => callbacks.erase callback

/-- `OnDeviceOnline` (lines 114-127 and 71-84). -/
def onDeviceOnline (callbacks : Callbacks) (sessions : Sessions) : Sessions :=
  callbacks.foldl (Sessions.call ControllerKind.onDeviceOnline) sessions

/-- `OnDeviceOffline` (lines 129-142 and 86-99). -/
def onDeviceOffline (callbacks : Callbacks) (sessions : Sessions) : Sessions :=
  callbacks.foldl (Sessions.call ControllerKind.onDeviceOffline) sessions

variable {callbacks : Callbacks}

theorem mem_register (callbacks : Callbacks) (c : Controller) :
    c ∈ callbacks.registerDevStatusCallback (some c) := by
  rw [registerDevStatusCallback]
  split_ifs with hmem
  · exact hmem
  · exact List.mem_append_right _ (List.mem_singleton.mpr rfl)

theorem subset_register (callbacks : Callbacks) (callback : Option Controller) :
    callbacks ⊆ callbacks.registerDevStatusCallback callback := by
  intro c hc
  cases callback with
  | none => exact hc
  | some callback =>
    rw [registerDevStatusCallback]
    split_ifs
    · exact hc
    · exact List.mem_append_left _ hc

theorem nodup_register (h : callbacks.Nodup) (callback : Option Controller) :
    (callbacks.registerDevStatusCallback callback).Nodup := by
  cases callback with
  | none => exact h
  | some callback =>
    rw [registerDevStatusCallback]
    split_ifs with hmem
    · exact h
    · exact List.nodup_append.mpr
        ⟨h, List.pairwise_singleton _ _, fun a ha b hb => by
          rw [List.mem_singleton.mp hb]
          exact ne_of_mem_of_not_mem ha hmem⟩

theorem nodup_unRegister (h : callbacks.Nodup) (callback : Option Controller) :
    (callbacks.unRegisterDevStatusCallback callback).Nodup := by
  cases callback with
  | none => exact h
  | some callback => exact h.erase callback

/-- A controller that was taken off is not told any more. -/
theorem notMem_unRegister (h : callbacks.Nodup) (c : Controller) :
    c ∉ callbacks.unRegisterDevStatusCallback (some c) := h.not_mem_erase

theorem unRegister_subset (callbacks : Callbacks) (callback : Option Controller) :
    callbacks.unRegisterDevStatusCallback callback ⊆ callbacks := by
  cases callback with
  | none => exact List.Subset.refl callbacks
  | some callback => exact List.erase_subset

/-- An online event closes no session. -/
theorem onDeviceOnline_of_open {sessions : Sessions} {n : ℕ} (h : sessions n = true) :
    callbacks.onDeviceOnline sessions n = true := by
  induction callbacks generalizing sessions with
  | nil => exact h
  | cons c callbacks ih =>
    refine ih ?_
    rw [Sessions.call_apply]
    split_ifs with hn
    · rw [← hn, h]
      cases c.kind <;> rfl
    · exact h

/-- After an online event the servers that were told are open. -/
theorem onDeviceOnline_server {sessions : Sessions} {c : Controller} (hc : c ∈ callbacks)
    (hkind : c.kind = .dataSource ∨ c.kind = .server) :
    callbacks.onDeviceOnline sessions c.object = true := by
  induction callbacks generalizing sessions with
  | nil => cases hc
  | cons b callbacks ih =>
    rcases List.mem_cons.mp hc with rfl | hc
    · have hopen : sessions.call ControllerKind.onDeviceOnline c c.object = true := by
        rw [Sessions.call_apply, if_pos rfl]
        rcases hkind with hkind | hkind <;> rw [hkind] <;> rfl
      show onDeviceOnline callbacks (sessions.call ControllerKind.onDeviceOnline c) c.object = true
      exact onDeviceOnline_of_open hopen
    · exact ih hc

end Callbacks

/-! ## The peers -/

/-- A peer that comes online, in `peerDevices_`. -/
def addPeer (peerDevices : List ByteString) (devId : ByteString) : List ByteString :=
  if devId ∈ peerDevices then peerDevices else peerDevices ++ [devId]

theorem addPeer_ne_nil (peerDevices : List ByteString) (devId : ByteString) :
    addPeer peerDevices devId ≠ [] := by
  unfold addPeer
  split_ifs with hmem
  · exact List.ne_nil_of_mem hmem
  · exact List.concat_ne_nil devId peerDevices

/-! ## `DistributedCommunicationManager` -/

/-- `DistributedRole` (distributed_communication_manager.h:28-32). -/
inductive DistributedRole
  | unknown
  | source
  | sink
  deriving DecidableEq, Repr

namespace DistributedRole

/-- The class of the data controller of a role. -/
def dataKind : DistributedRole → Option ControllerKind
  | unknown => none
  | source => some .dataSource
  | sink => some .dataSink

/-- The class of the switch controller of a role. -/
def switchKind : DistributedRole → Option ControllerKind
  | unknown => none
  | source => some .sourceSwitch
  | sink => some .sinkSwitch

theorem dataKind_inj {a b : DistributedRole} {kind : ControllerKind} (ha : a.dataKind = some kind)
    (hb : b.dataKind = some kind) : a = b := by
  rw [← ha] at hb
  revert hb ha
  cases a <;> cases b <;> simp [dataKind]

end DistributedRole

/-- `DistributedStatus` (lines 34-38). -/
inductive DistributedStatus
  | unknown
  | disconnect
  | connect
  deriving DecidableEq, Repr

/-- The fields of `DistributedCommunicationManager` (lines 96-102), the callbacks of its
    observer, and the controller objects: how many have been made, and whether each has a
    session. -/
structure DistributedManager where
  peerDevices : List ByteString
  callbacks : Callbacks
  dataController : Option Controller
  devSwitchController : Option Controller
  status : DistributedStatus
  role : DistributedRole
  created : ℕ
  sessions : Sessions

/-- What the manager is told: that a peer comes online, with its role, or goes offline, that the
    system ability is removed, that a call is created or has ended. -/
inductive DistributedOp
  | onDeviceOnline (devId : ByteString) (devRole : ℤ)
  | onDeviceOffline (devId : ByteString)
  | onRemoveSystemAbility
  | newCallCreated (callType : CallType)
  | callDestroyed (carrierCalls : ℕ)
  deriving DecidableEq, Repr

/-- The local role for the role of a peer. -/
def localRole (devRole : ℤ) : DistributedRole := if devRole = 0 then .sink else .source

namespace DistributedManager

/-- The fields of a new object. -/
def init : DistributedManager where
  peerDevices := []
  callbacks := []
  dataController := none
  devSwitchController := none
  status := .unknown
  role := .unknown
  created := 0
  sessions := fun _ => false

/-- `IsConnected` (lines 209-213). -/
def isConnected (m : DistributedManager) : Bool := m.status = .connect

/-- `OnDeviceOnline` (distributed_communication_manager.cpp:105-146). -/
def onDeviceOnline (m : DistributedManager) (devId : ByteString) (devRole : ℤ) :
    DistributedManager :=
  let role := localRole devRole
  let dataController := m.dataController.getD
    ⟨m.created, if role = .sink then .dataSink else .dataSource⟩
  let devSwitchController := m.devSwitchController.getD
    ⟨m.created + 1, if role = .sink then .sinkSwitch else .sourceSwitch⟩
  let callbacks := (m.callbacks.registerDevStatusCallback (some dataController)
    ).registerDevStatusCallback (some devSwitchController)
  { peerDevices := addPeer m.peerDevices devId, callbacks,
    dataController := some dataController, devSwitchController := some devSwitchController,
    status := .connect, role, created := m.created + 2,
    sessions := callbacks.onDeviceOnline m.sessions }

/-- `OnDeviceOffline` (lines 148-190). -/
def onDeviceOffline (m : DistributedManager) (devId : ByteString) : DistributedManager :=
  let told := { m with
    sessions := m.callbacks.onDeviceOffline m.sessions
    callbacks := (m.callbacks.unRegisterDevStatusCallback m.dataController
      ).unRegisterDevStatusCallback m.devSwitchController
    peerDevices := m.peerDevices.erase devId }
  if told.peerDevices ≠ [] then told
  else { told with
    status := .disconnect
    role := .unknown
    dataController := none
    devSwitchController := none }

/-- `OnRemoveSystemAbility` of the listener: the observer's, which drops its callbacks, and the
    manager's (lines 192-201, distributed_device_observer.cpp:159-173 and 260-282). -/
def onRemoveSystemAbility (m : DistributedManager) : DistributedManager :=
  { m with
    callbacks := []
    peerDevices := []
    status := .disconnect
    role := .unknown
    dataController := none
    devSwitchController := none }

/-- `NewCallCreated` (lines 297-318). -/
def newCallCreated (m : DistributedManager) (callType : CallType) : DistributedManager :=
  if callType ≠ .ims ∧ callType ≠ .cs then m
  else
    match m.dataController with
    | none => m
    | some c =>
      if m.peerDevices = [] then m
      else { m with sessions := m.sessions.call ControllerKind.onCallCreated c }

/-- `CallDestroyed` (lines 320-327), which the end of a call in `CallStateUpdated` comes to as
    well. -/
def callDestroyed (m : DistributedManager) (carrierCalls : ℕ) : DistributedManager :=
  match m.dataController with
  | none => m
  | some c => { m with sessions := m.sessions.call (ControllerKind.onCallDestroyed carrierCalls) c }

/-- One operation. -/
def step (m : DistributedManager) : DistributedOp → DistributedManager
  | .onDeviceOnline devId devRole => m.onDeviceOnline devId devRole
  | .onDeviceOffline devId => m.onDeviceOffline devId
  | .onRemoveSystemAbility => m.onRemoveSystemAbility
  | .newCallCreated callType => m.newCallCreated callType
  | .callDestroyed carrierCalls => m.callDestroyed carrierCalls

/-! ### Specification -/

/-- The manager is in order. -/
structure Sound (m : DistributedManager) : Prop where
  connected : m.isConnected ↔ m.peerDevices ≠ []
  dataKind : ∀ c ∈ m.dataController, m.role.dataKind = some c.kind
  switchKind : ∀ c ∈ m.devSwitchController, m.role.switchKind = some c.kind
  registered : m.peerDevices ≠ [] → ∃ data ∈ m.dataController, ∃ switch ∈ m.devSwitchController,
    data ∈ m.callbacks ∧ switch ∈ m.callbacks ∧
      (data.kind = .dataSource → m.sessions data.object = true)
  reset : m.peerDevices = [] →
    m.dataController = none ∧ m.devSwitchController = none ∧ m.role = .unknown

/-- A peer that goes offline while another remains leaves the session of the data controller. -/
def KeepsSession (m : DistributedManager) : DistributedOp → Prop
  | .onDeviceOffline devId => (m.onDeviceOffline devId).peerDevices ≠ [] →
    ∀ c ∈ m.dataController, m.sessions c.object = true →
      (m.onDeviceOffline devId).sessions c.object = true
  | _ => True

/-- The condition on an operation: a peer comes online in the role the manager is
    in, if it is in any, and goes offline as the only one. -/
def StepOk (m : DistributedManager) : DistributedOp → Prop
  | .onDeviceOnline _ devRole => m.peerDevices ≠ [] → localRole devRole = m.role
  | .onDeviceOffline devId => m.peerDevices.erase devId = []
  | _ => True

instance (m : DistributedManager) : (op : DistributedOp) → Decidable (m.StepOk op)
  | .onDeviceOnline _ devRole =>
    inferInstanceAs (Decidable (m.peerDevices ≠ [] → localRole devRole = m.role))
  | .onDeviceOffline devId => inferInstanceAs (Decidable (m.peerDevices.erase devId = []))
  | .onRemoveSystemAbility | .newCallCreated _ | .callDestroyed _ =>
    inferInstanceAs (Decidable True)

/-! ### What an operation does -/

variable {m : DistributedManager}

theorem nodup_callbacks_step (h : m.callbacks.Nodup) (op : DistributedOp) :
    (m.step op).callbacks.Nodup := by
  cases op with
  | onDeviceOnline devId devRole =>
    show (m.onDeviceOnline devId devRole).callbacks.Nodup
    unfold onDeviceOnline
    dsimp only
    exact Callbacks.nodup_register (Callbacks.nodup_register h _) _
  | onDeviceOffline devId =>
    have htold : ((m.callbacks.unRegisterDevStatusCallback m.dataController
        ).unRegisterDevStatusCallback m.devSwitchController).Nodup :=
      Callbacks.nodup_unRegister (Callbacks.nodup_unRegister h _) _
    show (m.onDeviceOffline devId).callbacks.Nodup
    unfold onDeviceOffline
    dsimp only
    split_ifs <;> exact htold
  | onRemoveSystemAbility => exact List.nodup_nil
  | newCallCreated callType =>
    show (m.newCallCreated callType).callbacks.Nodup
    unfold newCallCreated
    split_ifs
    · exact h
    · split <;> exact h
    · split <;> exact h
  | callDestroyed carrierCalls =>
    show (m.callDestroyed carrierCalls).callbacks.Nodup
    unfold callDestroyed
    split <;> exact h

/-- The session of a source is not one that calls open or close. -/
theorem Sound.call {f : ControllerKind → Bool → Bool} (h : m.Sound) {c : Controller}
    (hc : m.dataController = some c) (hf : ∀ session, f .dataSource session = session) :
    Sound { m with sessions := m.sessions.call f c } where
  connected := h.connected
  dataKind := h.dataKind
  switchKind := h.switchKind
  registered := fun hpeers => by
    obtain ⟨data, hdata, switch, hswitch, hin, hin', hopen⟩ := h.registered hpeers
    refine ⟨data, hdata, switch, hswitch, hin, hin', fun hkind => ?_⟩
    have hsame : c = data := Option.some.inj (hc.symm.trans hdata)
    show m.sessions.call f c data.object = true
    rw [Sessions.call_apply, hsame, if_pos rfl, hkind, hf]
    exact hopen hkind
  reset := h.reset

theorem Sound.newCallCreated (h : m.Sound) (callType : CallType) :
    (m.newCallCreated callType).Sound := by
  unfold DistributedManager.newCallCreated
  split_ifs
  · exact h
  · split <;> exact h
  · split
    · exact h
    · next c hc => exact h.call hc fun _ => rfl

theorem Sound.callDestroyed (h : m.Sound) (carrierCalls : ℕ) :
    (m.callDestroyed carrierCalls).Sound := by
  unfold DistributedManager.callDestroyed
  split
  · exact h
  · next c hc => exact h.call hc fun _ => rfl

theorem sound_onRemoveSystemAbility (m : DistributedManager) : m.onRemoveSystemAbility.Sound where
  connected := by
    show (decide (DistributedStatus.disconnect = .connect)) = true ↔ ([] : List ByteString) ≠ []
    decide
  dataKind := fun _ hc => by cases hc
  switchKind := fun _ hc => by cases hc
  registered := fun hpeers => absurd rfl hpeers
  reset := fun _ => ⟨rfl, rfl, rfl⟩

/-- The last peer takes everything with it. -/
theorem sound_onDeviceOffline {devId : ByteString} (h : m.peerDevices.erase devId = []) :
    (m.onDeviceOffline devId).Sound := by
  have hpeers : (m.onDeviceOffline devId).peerDevices = [] := by
    unfold onDeviceOffline
    dsimp only
    split_ifs <;> exact h
  have hlast : (m.onDeviceOffline devId).status = .disconnect ∧
      (m.onDeviceOffline devId).role = .unknown ∧
      (m.onDeviceOffline devId).dataController = none ∧
      (m.onDeviceOffline devId).devSwitchController = none := by
    unfold onDeviceOffline
    dsimp only
    rw [if_neg (not_not_intro h)]
    exact ⟨rfl, rfl, rfl, rfl⟩
  obtain ⟨hstatus, hrole, hdata, hswitch⟩ := hlast
  refine ⟨?_, ?_, ?_, fun hne => absurd hpeers hne, fun _ => ⟨hdata, hswitch, hrole⟩⟩
  · rw [isConnected, hstatus, hpeers]
    decide
  · intro c hc
    rw [hdata] at hc
    cases hc
  · intro c hc
    rw [hswitch] at hc
    cases hc

/-- While another peer remains, the data controller is off the observer. -/
theorem not_sound_onDeviceOffline (hnodup : m.callbacks.Nodup) {devId : ByteString}
    (h : m.peerDevices.erase devId ≠ []) : ¬ (m.onDeviceOffline devId).Sound := by
  intro hsound
  have hoff : (m.onDeviceOffline devId).dataController = m.dataController ∧
      (m.onDeviceOffline devId).peerDevices = m.peerDevices.erase devId ∧
      (m.onDeviceOffline devId).callbacks =
        (m.callbacks.unRegisterDevStatusCallback m.dataController
          ).unRegisterDevStatusCallback m.devSwitchController := by
    unfold onDeviceOffline
    dsimp only
    rw [if_pos h]
    exact ⟨rfl, rfl, rfl⟩
  obtain ⟨hdata, hpeers, hcallbacks⟩ := hoff
  obtain ⟨c, hc, -, -, hin, -⟩ := hsound.registered (by rwa [hpeers])
  rw [hdata] at hc
  rw [hcallbacks, Option.mem_def.mp hc] at hin
  exact Callbacks.notMem_unRegister hnodup c (Callbacks.unRegister_subset _ _ hin)

/-- What an online event leaves, in order if the role fits the controllers that were there. -/
theorem sound_onDeviceOnline {devId : ByteString} {devRole : ℤ}
    (hdata : ∀ c ∈ m.dataController, (localRole devRole).dataKind = some c.kind)
    (hswitch : ∀ c ∈ m.devSwitchController, (localRole devRole).switchKind = some c.kind) :
    (m.onDeviceOnline devId devRole).Sound := by
  have hnew : (localRole devRole).dataKind =
      some (if localRole devRole = .sink then .dataSink else .dataSource) := by
    by_cases hsink : devRole = 0
    · rw [localRole, if_pos hsink]
      rfl
    · rw [localRole, if_neg hsink]
      rfl
  have hnew' : (localRole devRole).switchKind =
      some (if localRole devRole = .sink then .sinkSwitch else .sourceSwitch) := by
    by_cases hsink : devRole = 0
    · rw [localRole, if_pos hsink]
      rfl
    · rw [localRole, if_neg hsink]
      rfl
  have hpeers := addPeer_ne_nil m.peerDevices devId
  refine ⟨⟨fun _ => hpeers, fun _ => rfl⟩, ?_, ?_, fun _ => ?_, fun hnil => absurd hnil hpeers⟩
  · intro c hc
    obtain rfl := Option.some.inj hc
    cases hm : m.dataController with
    | none => exact hnew
    | some c => exact hdata c hm
  · intro c hc
    obtain rfl := Option.some.inj hc
    cases hm : m.devSwitchController with
    | none => exact hnew'
    | some c => exact hswitch c hm
  · have hin : ∀ data switch : Controller, data ∈ (m.callbacks.registerDevStatusCallback
        (some data)).registerDevStatusCallback (some switch) := fun data switch =>
      Callbacks.subset_register _ _ (Callbacks.mem_register _ _)
    refine ⟨_, rfl, _, rfl, hin _ _, Callbacks.mem_register _ _, fun hkind => ?_⟩
    exact Callbacks.onDeviceOnline_server (hin _ _) (.inl hkind)

/-- One operation keeps the manager in order iff it meets the condition. -/
theorem sound_step_iff (m : DistributedManager) (op : DistributedOp) (hnodup : m.callbacks.Nodup)
    (h : m.Sound) : (m.step op).Sound ↔ m.StepOk op := by
  cases op with
  | onDeviceOnline devId devRole =>
    constructor
    · intro hsound hpeers
      obtain ⟨data, hdata, -⟩ := h.registered hpeers
      have hkept : data ∈ (m.onDeviceOnline devId devRole).dataController := by
        show some (m.dataController.getD _) = some data
        rw [Option.mem_def.mp hdata, Option.getD_some]
      exact DistributedRole.dataKind_inj (hsound.dataKind data hkept) (h.dataKind data hdata)
    · intro hok
      by_cases hpeers : m.peerDevices = []
      · obtain ⟨hdata, hswitch, -⟩ := h.reset hpeers
        refine sound_onDeviceOnline ?_ ?_
        · rw [hdata]
          intro c hc
          cases hc
        · rw [hswitch]
          intro c hc
          cases hc
      · have hrole : localRole devRole = m.role := hok hpeers
        refine sound_onDeviceOnline ?_ ?_
        · rw [hrole]
          exact h.dataKind
        · rw [hrole]
          exact h.switchKind
  | onDeviceOffline devId =>
    constructor
    · intro hsound
      by_contra hok
      exact not_sound_onDeviceOffline hnodup hok hsound
    · exact sound_onDeviceOffline
  | onRemoveSystemAbility => exact iff_of_true m.sound_onRemoveSystemAbility trivial
  | newCallCreated callType => exact iff_of_true (h.newCallCreated callType) trivial
  | callDestroyed carrierCalls => exact iff_of_true (h.callDestroyed carrierCalls) trivial

/-- An operation that meets the condition destroys no session of peers that remain. -/
theorem StepOk.keepsSession {op : DistributedOp} (h : m.StepOk op) : m.KeepsSession op := by
  cases op with
  | onDeviceOffline devId =>
    intro hpeers
    have hnil : (m.onDeviceOffline devId).peerDevices = [] := by
      unfold onDeviceOffline
      dsimp only
      split_ifs <;> exact h
    exact absurd hnil hpeers
  | onDeviceOnline devId devRole => exact trivial
  | onRemoveSystemAbility => exact trivial
  | newCallCreated callType => exact trivial
  | callDestroyed carrierCalls => exact trivial

theorem sound_init : init.Sound where
  connected := by decide
  dataKind := fun _ hc => by cases hc
  switchKind := fun _ hc => by cases hc
  registered := fun hpeers => absurd rfl hpeers
  reset := fun _ => ⟨rfl, rfl, rfl⟩

/-- The runs that keep the specification. -/
theorem run_iff (ops : List DistributedOp) :
    (Run.StatesMeet step Sound init ops ∧ Run.StepsMeet step KeepsSession init ops) ↔
      Run.StepsMeet step StepOk init ops := by
  have hstates := Run.statesMeet_iff_stepsMeet_of_invariant
    (fun _ op hnodup => nodup_callbacks_step hnodup op)
    (fun m op hnodup h => m.sound_step_iff op hnodup h) ops List.nodup_nil sound_init
  rw [hstates]
  refine ⟨And.left, fun h => ⟨h, ?_⟩⟩
  exact Run.StepsMeet.of_invariant (P := fun _ => True)
    (fun _ _ _ hok => ⟨trivial, hok.keepsSession⟩) trivial h

end DistributedManager

/-! ## `InteroperableCommunicationManager` -/

/-- `InteroperableRole` (interoperable_communication_manager.h:27-31). -/
inductive InteroperableRole
  | unknown
  | phone
  | others
  deriving DecidableEq, Repr

/-- The class of the data controller of a role. -/
def InteroperableRole.dataKind : InteroperableRole → Option ControllerKind
  | unknown => none
  | phone => some .server
  | others => some .client

theorem InteroperableRole.dataKind_inj {a b : InteroperableRole} {kind : ControllerKind}
    (ha : a.dataKind = some kind) (hb : b.dataKind = some kind) : a = b := by
  rw [← ha] at hb
  revert hb ha
  cases a <;> cases b <;> simp [dataKind]

/-- `DEV_PHONE`. -/
def devPhone : UInt16 := 0x0E

/-- `DEV_WATCH`. -/
def devWatch : UInt16 := 0x6D

/-- The fields of `InteroperableCommunicationManager` (lines 49-53), the callbacks of its
    observer, and the controller objects. -/
structure InteroperableManager where
  peerDevices : List ByteString
  callbacks : Callbacks
  dataController : Option Controller
  role : InteroperableRole
  created : ℕ
  sessions : Sessions

/-- What the manager is told: of a peer, by its network id and device type, and of the calls. -/
inductive InteroperableOp
  | onDeviceOnline (networkId : ByteString) (devType : UInt16)
  | onDeviceOffline (networkId : ByteString) (devType : UInt16)
  | callStateUpdated (nextState : TelCallState)
  | newCallCreated
  deriving DecidableEq, Repr

namespace InteroperableManager

/-- The fields of a new object. -/
def init : InteroperableManager where
  peerDevices := []
  callbacks := []
  dataController := none
  role := .unknown
  created := 0
  sessions := fun _ => false

/-- The role that a peer which comes online gives a device that is a wearable or not
    (interoperable_communication_manager.cpp:43-51). -/
def onlineRole (wearable : Bool) (devType : UInt16) : Option InteroperableRole :=
  if devType = devPhone ∧ wearable then some .others
  else if devType = devWatch then some .phone
  else none

/-- `OnDeviceOnline` (lines 36-68). -/
def onDeviceOnline (wearable : Bool) (m : InteroperableManager) (networkId : ByteString)
    (devType : UInt16) : InteroperableManager :=
  match onlineRole wearable devType with
  | none => m
  | some role =>
    let dataController := m.dataController.getD
      ⟨m.created, if role = .others then .client else .server⟩
    let callbacks := m.callbacks.registerDevStatusCallback (some dataController)
    { peerDevices := addPeer m.peerDevices networkId, callbacks,
      dataController := some dataController, role, created := m.created + 1,
      sessions := callbacks.onDeviceOnline m.sessions }

/-- `OnDeviceOffline` (lines 70-101). -/
def onDeviceOffline (wearable : Bool) (m : InteroperableManager) (networkId : ByteString)
    (devType : UInt16) : InteroperableManager :=
  if devType ≠ devWatch ∧ wearable = false then m
  else
    let told := { m with
      sessions := m.callbacks.onDeviceOffline m.sessions
      callbacks := m.callbacks.unRegisterDevStatusCallback m.dataController
      peerDevices := m.peerDevices.erase networkId }
    if told.peerDevices ≠ [] then told
    else { told with role := .unknown, dataController := none }

/-- `CallStateUpdated` (lines 123-146). -/
def callStateUpdated (m : InteroperableManager) (nextState : TelCallState) :
    InteroperableManager :=
  match m.dataController with
  | none => m
  | some c =>
    if nextState = .incoming then
      if m.role = .phone ∨ m.peerDevices = [] then m
      else { m with sessions := m.sessions.call ControllerKind.onCallCreated c }
    else if nextState = .disconnected ∨ nextState = .disconnecting then
      { m with sessions := m.sessions.call (ControllerKind.onCallDestroyed 0) c }
    else m

/-- `NewCallCreated` (lines 148-160). -/
def newCallCreated (m : InteroperableManager) : InteroperableManager :=
  match m.dataController with
  | none => m
  | some c =>
    if m.peerDevices = [] then m
    else { m with sessions := m.sessions.call ControllerKind.onCallCreated c }

/-- One operation, on a device that is a wearable or not. -/
def step (wearable : Bool) (m : InteroperableManager) : InteroperableOp → InteroperableManager
  | .onDeviceOnline networkId devType => m.onDeviceOnline wearable networkId devType
  | .onDeviceOffline networkId devType => m.onDeviceOffline wearable networkId devType
  | .callStateUpdated nextState => m.callStateUpdated nextState
  | .newCallCreated => m.newCallCreated

/-! ### Specification -/

/-- The manager is in order. It has no status: it counts as connected when it has a controller. -/
structure Sound (m : InteroperableManager) : Prop where
  connected : m.dataController.isSome ↔ m.peerDevices ≠ []
  dataKind : ∀ c ∈ m.dataController, m.role.dataKind = some c.kind
  registered : m.peerDevices ≠ [] → ∃ data ∈ m.dataController, data ∈ m.callbacks ∧
    (data.kind = .server → m.sessions data.object = true)
  reset : m.peerDevices = [] → m.dataController = none ∧ m.role = .unknown

/-- A peer that goes offline while another remains leaves the session of the data controller. -/
def KeepsSession (wearable : Bool) (m : InteroperableManager) : InteroperableOp → Prop
  | .onDeviceOffline networkId devType =>
    (m.onDeviceOffline wearable networkId devType).peerDevices ≠ [] →
      ∀ c ∈ m.dataController, m.sessions c.object = true →
        (m.onDeviceOffline wearable networkId devType).sessions c.object = true
  | _ => True

/-- The condition on an operation: a peer that is served comes online in the role the manager is
    in, if it is in any; and what gets past the test of `OnDeviceOffline` leaves no peer. -/
def StepOk (wearable : Bool) (m : InteroperableManager) : InteroperableOp → Prop
  | .onDeviceOnline _ devType =>
    ∀ role ∈ onlineRole wearable devType, m.peerDevices ≠ [] → role = m.role
  | .onDeviceOffline networkId devType =>
    devType = devWatch ∨ wearable = true → m.peerDevices.erase networkId = []
  | _ => True

instance (wearable : Bool) (m : InteroperableManager) : (op : InteroperableOp) →
    Decidable (m.StepOk wearable op)
  | .onDeviceOnline _ devType =>
    inferInstanceAs (Decidable
      (∀ role ∈ onlineRole wearable devType, m.peerDevices ≠ [] → role = m.role))
  | .onDeviceOffline networkId devType =>
    inferInstanceAs (Decidable
      (devType = devWatch ∨ wearable = true → m.peerDevices.erase networkId = []))
  | .callStateUpdated _ | .newCallCreated => inferInstanceAs (Decidable True)

/-! ### What an operation does -/

variable {wearable : Bool} {m : InteroperableManager}

/-- A call changes sessions at most, and never those of a server. -/
theorem callStateUpdated_cases (m : InteroperableManager) (nextState : TelCallState) :
    (∃ f c, m.dataController = some c ∧ (∀ session, f .server session = session) ∧
      m.callStateUpdated nextState = { m with sessions := m.sessions.call f c }) ∨
    m.callStateUpdated nextState = m := by
  unfold callStateUpdated
  cases hm : m.dataController with
  | none => exact .inr rfl
  | some c =>
    dsimp only
    split_ifs
    · exact .inr rfl
    · exact .inl ⟨ControllerKind.onCallCreated, c, rfl, fun _ => rfl, rfl⟩
    · exact .inl ⟨ControllerKind.onCallDestroyed 0, c, rfl, fun _ => rfl, rfl⟩
    · exact .inr rfl

theorem newCallCreated_cases (m : InteroperableManager) :
    (∃ f c, m.dataController = some c ∧ (∀ session, f .server session = session) ∧
      m.newCallCreated = { m with sessions := m.sessions.call f c }) ∨
    m.newCallCreated = m := by
  unfold newCallCreated
  cases hm : m.dataController with
  | none => exact .inr rfl
  | some c =>
    dsimp only
    split_ifs
    · exact .inr rfl
    · exact .inl ⟨ControllerKind.onCallCreated, c, rfl, fun _ => rfl, rfl⟩

theorem Sound.call {f : ControllerKind → Bool → Bool} (h : m.Sound) {c : Controller}
    (hc : m.dataController = some c) (hf : ∀ session, f .server session = session) :
    Sound { m with sessions := m.sessions.call f c } where
  connected := h.connected
  dataKind := h.dataKind
  registered := fun hpeers => by
    obtain ⟨data, hdata, hin, hopen⟩ := h.registered hpeers
    refine ⟨data, hdata, hin, fun hkind => ?_⟩
    have hsame : c = data := Option.some.inj (hc.symm.trans hdata)
    show m.sessions.call f c data.object = true
    rw [Sessions.call_apply, hsame, if_pos rfl, hkind, hf]
    exact hopen hkind
  reset := h.reset

theorem nodup_callbacks_step (h : m.callbacks.Nodup) (op : InteroperableOp) :
    (m.step wearable op).callbacks.Nodup := by
  cases op with
  | onDeviceOnline networkId devType =>
    show (m.onDeviceOnline wearable networkId devType).callbacks.Nodup
    unfold onDeviceOnline
    split
    · exact h
    · dsimp only
      exact Callbacks.nodup_register h _
  | onDeviceOffline networkId devType =>
    show (m.onDeviceOffline wearable networkId devType).callbacks.Nodup
    unfold onDeviceOffline
    dsimp only
    split_ifs
    · exact h
    · exact Callbacks.nodup_unRegister h _
    · exact Callbacks.nodup_unRegister h _
  | callStateUpdated nextState =>
    show (m.callStateUpdated nextState).callbacks.Nodup
    obtain ⟨f, c, -, -, heq⟩ | heq := m.callStateUpdated_cases nextState <;> rw [heq] <;> exact h
  | newCallCreated =>
    show m.newCallCreated.callbacks.Nodup
    obtain ⟨f, c, -, -, heq⟩ | heq := m.newCallCreated_cases <;> rw [heq] <;> exact h

/-- The test of `OnDeviceOffline`. -/
theorem not_served_iff {devType : UInt16} :
    (devType ≠ devWatch ∧ wearable = false) ↔ ¬ (devType = devWatch ∨ wearable = true) := by
  rw [not_or, Bool.not_eq_true]

/-- An offline event that gets past the test. -/
theorem peerDevices_onDeviceOffline {devType : UInt16}
    (hserved : devType = devWatch ∨ wearable = true) (networkId : ByteString) :
    (m.onDeviceOffline wearable networkId devType).peerDevices = m.peerDevices.erase networkId := by
  unfold onDeviceOffline
  rw [if_neg (mt not_served_iff.mp (not_not_intro hserved))]
  dsimp only
  split_ifs <;> rfl

/-- The last peer takes everything with it. -/
theorem sound_onDeviceOffline {networkId : ByteString} {devType : UInt16}
    (hserved : devType = devWatch ∨ wearable = true) (h : m.peerDevices.erase networkId = []) :
    (m.onDeviceOffline wearable networkId devType).Sound := by
  have hpeers : (m.onDeviceOffline wearable networkId devType).peerDevices = [] := by
    rw [peerDevices_onDeviceOffline hserved, h]
  have hlast : (m.onDeviceOffline wearable networkId devType).role = .unknown ∧
      (m.onDeviceOffline wearable networkId devType).dataController = none := by
    unfold onDeviceOffline
    rw [if_neg (mt not_served_iff.mp (not_not_intro hserved))]
    dsimp only
    rw [if_neg (not_not_intro h)]
    exact ⟨rfl, rfl⟩
  obtain ⟨hrole, hdata⟩ := hlast
  refine ⟨?_, ?_, fun hne => absurd hpeers hne, fun _ => ⟨hdata, hrole⟩⟩
  · rw [hdata, hpeers]
    decide
  · intro c hc
    rw [hdata] at hc
    cases hc

/-- While another peer remains, the data controller is off the observer. -/
theorem not_sound_onDeviceOffline (hnodup : m.callbacks.Nodup) {networkId : ByteString}
    {devType : UInt16} (hserved : devType = devWatch ∨ wearable = true)
    (h : m.peerDevices.erase networkId ≠ []) :
    ¬ (m.onDeviceOffline wearable networkId devType).Sound := by
  intro hsound
  have hoff : (m.onDeviceOffline wearable networkId devType).dataController = m.dataController ∧
      (m.onDeviceOffline wearable networkId devType).callbacks =
        m.callbacks.unRegisterDevStatusCallback m.dataController := by
    unfold onDeviceOffline
    rw [if_neg (mt not_served_iff.mp (not_not_intro hserved))]
    dsimp only
    rw [if_pos h]
    exact ⟨rfl, rfl⟩
  obtain ⟨hdata, hcallbacks⟩ := hoff
  obtain ⟨c, hc, hin, -⟩ := hsound.registered (by rwa [peerDevices_onDeviceOffline hserved])
  rw [hdata] at hc
  rw [hcallbacks, Option.mem_def.mp hc] at hin
  exact Callbacks.notMem_unRegister hnodup c hin

/-- What an online event leaves, in order if the role fits the controller that was there. -/
theorem sound_onDeviceOnline {networkId : ByteString} {devType : UInt16} {role : InteroperableRole}
    (hrole : onlineRole wearable devType = some role)
    (hdata : ∀ c ∈ m.dataController, role.dataKind = some c.kind) :
    (m.onDeviceOnline wearable networkId devType).Sound := by
  have hnew : role.dataKind = some (if role = .others then .client else .server) := by
    unfold onlineRole at hrole
    split_ifs at hrole
    · obtain rfl := Option.some.inj hrole
      rfl
    · obtain rfl := Option.some.inj hrole
      rfl
  have hpeers := addPeer_ne_nil m.peerDevices networkId
  unfold onDeviceOnline
  rw [hrole]
  refine ⟨⟨fun _ => hpeers, fun _ => rfl⟩, ?_, fun _ => ?_, fun hnil => absurd hnil hpeers⟩
  · intro c hc
    obtain rfl := Option.some.inj hc
    cases hm : m.dataController with
    | none => exact hnew
    | some c => exact hdata c hm
  · refine ⟨_, rfl, Callbacks.mem_register _ _, fun hkind => ?_⟩
    exact Callbacks.onDeviceOnline_server (Callbacks.mem_register _ _) (.inr hkind)

/-- One operation keeps the manager in order iff it meets the condition. -/
theorem sound_step_iff (m : InteroperableManager) (op : InteroperableOp)
    (hnodup : m.callbacks.Nodup) (h : m.Sound) :
    (m.step wearable op).Sound ↔ m.StepOk wearable op := by
  cases op with
  | onDeviceOnline networkId devType =>
    show (m.onDeviceOnline wearable networkId devType).Sound ↔ _
    constructor
    · intro hsound role hrole hpeers
      obtain ⟨data, hdata, -⟩ := h.registered hpeers
      have hkept : data ∈ (m.onDeviceOnline wearable networkId devType).dataController ∧
          (m.onDeviceOnline wearable networkId devType).role = role := by
        unfold onDeviceOnline
        rw [Option.mem_def.mp hrole]
        refine ⟨?_, rfl⟩
        show some (m.dataController.getD _) = some data
        rw [Option.mem_def.mp hdata, Option.getD_some]
      have hkind := hsound.dataKind data hkept.1
      rw [hkept.2] at hkind
      exact InteroperableRole.dataKind_inj hkind (h.dataKind data hdata)
    · intro hok
      cases hrole : onlineRole wearable devType with
      | none =>
        unfold onDeviceOnline
        rw [hrole]
        exact h
      | some role =>
        refine sound_onDeviceOnline hrole ?_
        by_cases hpeers : m.peerDevices = []
        · rw [(h.reset hpeers).1]
          intro c hc
          cases hc
        · rw [hok role hrole hpeers]
          exact h.dataKind
  | onDeviceOffline networkId devType =>
    show (m.onDeviceOffline wearable networkId devType).Sound ↔ _
    by_cases hserved : devType = devWatch ∨ wearable = true
    · constructor
      · intro hsound _
        by_contra hok
        exact not_sound_onDeviceOffline hnodup hserved hok hsound
      · exact fun hok => sound_onDeviceOffline hserved (hok hserved)
    · refine iff_of_true ?_ fun hserved' => absurd hserved' hserved
      unfold onDeviceOffline
      rw [if_pos (not_served_iff.mpr hserved)]
      exact h
  | callStateUpdated nextState =>
    refine iff_of_true ?_ trivial
    show (m.callStateUpdated nextState).Sound
    obtain ⟨f, c, hc, hf, heq⟩ | heq := m.callStateUpdated_cases nextState
    · rw [heq]
      exact h.call hc hf
    · rw [heq]
      exact h
  | newCallCreated =>
    refine iff_of_true ?_ trivial
    show m.newCallCreated.Sound
    obtain ⟨f, c, hc, hf, heq⟩ | heq := m.newCallCreated_cases
    · rw [heq]
      exact h.call hc hf
    · rw [heq]
      exact h

/-- An operation that meets the condition destroys no session of peers that remain. -/
theorem StepOk.keepsSession {op : InteroperableOp} (h : m.StepOk wearable op) :
    m.KeepsSession wearable op := by
  cases op with
  | onDeviceOffline networkId devType =>
    intro hpeers c hc hopen
    by_cases hserved : devType = devWatch ∨ wearable = true
    · rw [peerDevices_onDeviceOffline hserved] at hpeers
      exact absurd (h hserved) hpeers
    · unfold onDeviceOffline
      rw [if_pos (not_served_iff.mpr hserved)]
      exact hopen
  | onDeviceOnline networkId devType => exact trivial
  | callStateUpdated nextState => exact trivial
  | newCallCreated => exact trivial

theorem sound_init : init.Sound where
  connected := by decide
  dataKind := fun _ hc => by cases hc
  registered := fun hpeers => absurd rfl hpeers
  reset := fun _ => ⟨rfl, rfl⟩

/-- The runs that keep the specification. -/
theorem run_iff (wearable : Bool) (ops : List InteroperableOp) :
    (Run.StatesMeet (step wearable) Sound init ops ∧
        Run.StepsMeet (step wearable) (KeepsSession wearable) init ops) ↔
      Run.StepsMeet (step wearable) (StepOk wearable) init ops := by
  have hstates : Run.StatesMeet (step wearable) Sound init ops ↔
      Run.StepsMeet (step wearable) (StepOk wearable) init ops :=
    Run.statesMeet_iff_stepsMeet_of_invariant (fun _ op hnodup => nodup_callbacks_step hnodup op)
      (fun m op hnodup h => sound_step_iff m op hnodup h) ops List.nodup_nil sound_init
  rw [hstates]
  refine ⟨And.left, fun h => ⟨h, ?_⟩⟩
  exact Run.StepsMeet.of_invariant (P := fun _ => True)
    (fun _ _ _ hok => ⟨trivial, hok.keepsSession⟩) trivial h

end InteroperableManager

/-! ## Main result -/

/-- **Main theorem.** The runs of either manager that keep it in order, and the sessions of the
    peers that remain, are those whose operations meet the condition. -/
theorem peers_share_controllers (wearable : Bool) (ops : List DistributedOp)
    (iops : List InteroperableOp) :
    ((Run.StatesMeet DistributedManager.step DistributedManager.Sound .init ops ∧
        Run.StepsMeet DistributedManager.step DistributedManager.KeepsSession .init ops) ↔
      Run.StepsMeet DistributedManager.step DistributedManager.StepOk .init ops) ∧
    ((Run.StatesMeet (InteroperableManager.step wearable) InteroperableManager.Sound .init iops ∧
        Run.StepsMeet (InteroperableManager.step wearable)
          (InteroperableManager.KeepsSession wearable) .init iops) ↔
      Run.StepsMeet (InteroperableManager.step wearable) (InteroperableManager.StepOk wearable)
        .init iops) :=
  ⟨DistributedManager.run_iff ops, InteroperableManager.run_iff wearable iops⟩

/-- Two sinks come online at a source, and the first goes offline. -/
def twoSinks : List DistributedOp :=
  [.onDeviceOnline [1] 1, .onDeviceOnline [2] 1, .onDeviceOffline [1]]

/-- Two watches come online at a phone, and the first goes offline. -/
def twoWatches : List InteroperableOp :=
  [.onDeviceOnline [1] devWatch, .onDeviceOnline [2] devWatch, .onDeviceOffline [1] devWatch]

/-- The peer that goes offline takes the server of the other with it, and the
    controllers off the observer. -/
theorem offline_peer_closes_server :
    (¬ Run.StatesMeet DistributedManager.step DistributedManager.Sound .init twoSinks ∧
      ¬ Run.StepsMeet DistributedManager.step DistributedManager.KeepsSession .init twoSinks) ∧
    (¬ Run.StatesMeet (InteroperableManager.step false) InteroperableManager.Sound .init
        twoWatches ∧
      ¬ Run.StepsMeet (InteroperableManager.step false) (InteroperableManager.KeepsSession false)
        .init twoWatches) := by
  refine ⟨⟨fun h => ?_, ?_⟩, fun h => ?_, ?_⟩
  · obtain ⟨c, hc, -, -, hin, -⟩ := h.last.registered (by decide)
    have hnone : (Run.run DistributedManager.step .init twoSinks).callbacks = [] := by decide
    rw [hnone] at hin
    cases hin
  · rintro ⟨-, -, hkeeps, -⟩
    exact absurd (hkeeps (by decide) ⟨0, .dataSource⟩ (by decide) (by decide)) (by decide)
  · obtain ⟨c, hc, hin, -⟩ := h.last.registered (by decide)
    have hnone : (Run.run (InteroperableManager.step false) .init twoWatches).callbacks = [] := by
      decide
    rw [hnone] at hin
    cases hin
  · rintro ⟨-, -, hkeeps, -⟩
    exact absurd (hkeeps (by decide) ⟨0, .server⟩ (by decide) (by decide)) (by decide)

end CallManager.DistributedPeers
