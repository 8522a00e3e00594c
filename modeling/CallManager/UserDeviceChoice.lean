import CallManager.CallKeys

/-!
# The user's choice of an audio device

`SetAudioDevice` records in `isSetAudioDeviceByUser_` that the user has chosen
the device, and `UpdateDeviceForForegroundCall` then leaves the device alone.
`CallStateUpdated` keeps the calls it has been told of in `totalCalls_`, by
object, and takes the flag back when none is left.

A call is taken out of `totalCalls_` with its DISCONNECTED update, by the
object it has then. `RefreshCall` gives a call another object in the middle of
its life, and the old one stays. An update needs a call on the list: as
`AddOneCallObject` is written it puts none there, so that the report that a call
has ended comes to no update. The results are about calls that are put on the
list.

Results:
* `device_choice_forgotten`: in a run that converts no call the audio manager
  knows of, no call and no choice is left when the last call ends.
* `converted_call_keeps_choice`: an IMS call that goes on as a CS call leaves
  its first object and the user's choice behind, and so does any call that is
  not put on the list.
-/

namespace CallManager

/-! ## The audio manager -/

/-- The fields of `AudioControlManager` that concern the user's choice
    (audio_control_manager.h:158-165). -/
structure AudioControlManager where
  totalCalls : Finset Ref
  isSetAudioDeviceByUser : Bool
  deriving DecidableEq

/-- What `UpdateDeviceForForegroundCall` asks for: `SetAudioDevice`, or
    `SetAudioDeviceByAudioMode`. -/
inductive RoutingRequest
  | setAudioDevice (deviceType : AudioDeviceType)
  | setAudioDeviceByAudioMode
  deriving DecidableEq, Repr

/-- What `UpdateDeviceForForegroundCall` is told by the other services. -/
structure RoutingEnv where
  initDeviceType : AudioDeviceType
  currentDeviceType : AudioDeviceType
  isAudioOnSink : Bool
  isAnsweredByPhone : Bool
  isDistributedCarDeviceOnline : Bool
  isSpeakerMode : Bool
  deriving DecidableEq, Repr

namespace AudioControlManager

/-- The fields of a new object. -/
def init : AudioControlManager where
  totalCalls := ∅
  isSetAudioDeviceByUser := false

/-- `IsExternalAudioDevice` (audio_control_manager.cpp:254-264). -/
def isExternalAudioDevice (initDeviceType : AudioDeviceType) : Bool :=
  initDeviceType ∈ [AudioDeviceType.wiredHeadset, .bluetoothSco, .nearlink, .distributedAutomotive,
    .bluetoothHearingAid]

/-- `UpdateDeviceForForegroundCall` (audio_control_manager.cpp:322-365). -/
def updateDeviceForForegroundCall (m : AudioControlManager) (env : RoutingEnv)
    (foregroundCall : CallBase) : Option RoutingRequest :=
  if foregroundCall.videoState = .video ∨ foregroundCall.callType = .satellite then
    if isExternalAudioDevice env.initDeviceType then some (.setAudioDevice env.initDeviceType)
    else some (.setAudioDevice .speaker)
  else if env.isAudioOnSink then none
  else if !env.isAnsweredByPhone ∨ env.isDistributedCarDeviceOnline then none
  else if m.isSetAudioDeviceByUser then none
  else if env.isSpeakerMode then some .setAudioDeviceByAudioMode
  else if env.initDeviceType ≠ env.currentDeviceType then some (.setAudioDevice env.initDeviceType)
  else none

/-- `CallStateUpdated` (audio_control_manager.cpp:170-205). -/
def callStateUpdated (m : AudioControlManager) (call : Ref) (callType : CallType)
    (nextState : TelCallState) : AudioControlManager :=
  if callType = .voip then m
  else
    let m := { m with totalCalls := insert call m.totalCalls }
    let m :=
      if nextState = .disconnected then { m with totalCalls := m.totalCalls.erase call } else m
    if m.totalCalls = ∅ then { m with isSetAudioDeviceByUser := false } else m

/-- `SetAudioDevice` (audio_control_manager.cpp:755-769) up to the flag. `hasVoipApp` is the
    part of `HasCall` that asks for the state of a VoIP app (call_control_manager.cpp:621-635). -/
def setAudioDevice (m : AudioControlManager) (w : StatusWorld) (hasVoipApp : Bool)
    (deviceType : AudioDeviceType) (isByUser : Bool) : AudioControlManager :=
  let hasCellularCall := w.store.callObjectPtrList.any fun it =>
    (w.object it).callType ∈ [CallType.cs, .ims, .satellite, .bluetooth] ∧
      (w.object it).callState ≠ .disconnected ∧ (w.object it).callState ≠ .disconnecting
  let hasVoipCall := w.store.callObjectPtrList.any fun it => (w.object it).callType = .voip
  let hasSatelliteCall := w.store.callObjectPtrList.any fun it =>
    (w.object it).callType = .satellite
  if ¬ (hasVoipApp ∨ hasCellularCall ∨ hasVoipCall) then m
  else if hasSatelliteCall ∧ deviceType = .earpiece then m
  else { m with isSetAudioDeviceByUser := isByUser }

end AudioControlManager

/-! ## What the audio manager is told -/

/-- An update that `NotifyCallStateUpdated` passes on, with the id and the type
    that the call has at the time. -/
structure CallUpdate where
  call : Ref
  callId : ℤ
  callType : CallType
  priorState : TelCallState
  nextState : TelCallState
  deriving DecidableEq, Repr

/-- The notification of an update. -/
def CallUpdate.notification (u : CallUpdate) : Notification :=
  ⟨u.callId, u.priorState, u.nextState⟩

namespace StatusWorld

/-- The update of `UpdateCallState`, if there is an object. -/
def updatesTo (w : StatusWorld) (call : Ref) (nextState : TelCallState) : List CallUpdate :=
  match w.heap call with
  | none => []
  | some c => [⟨call, c.callId, c.callType, c.callState, nextState⟩]

/-- The updates of `SetConferenceCall`, in order. -/
def conferenceUpdates (w : StatusWorld) : List Ref → List CallUpdate
  | [] => []
  | conferenceCall :: list =>
    let w := w.setTelConferenceState conferenceCall .idle
    let w := (w.launchConference conferenceCall).2
    let nextState := (w.object conferenceCall).callState
    w.updatesTo conferenceCall nextState ++
      (w.updateCallState conferenceCall nextState).conferenceUpdates list

/-- The updates of the end of `DisconnectedHandle`. -/
def leftOneUpdates (w : StatusWorld) : List Ref → List CallUpdate
  | [leftOneConferenceCall] =>
    if (w.object leftOneConferenceCall).conferenceState ≠ .idle then
      let w := w.setTelConferenceState leftOneConferenceCall .idle
      w.updatesTo leftOneConferenceCall (w.object leftOneConferenceCall).callState
    else []
  | _ => []

/-- The updates of an action, in order. -/
def updates (w : StatusWorld) : StatusAction → List CallUpdate
  | .updateCallState call nextState => w.updatesTo call nextState
  | .setConferenceCall slotId => w.conferenceUpdates (w.getConferenceCallList slotId)
  | .endConferenceOfOne slotId => w.leftOneUpdates (w.getConferenceCallList slotId)
  | _ => []

end StatusWorld

/-- The state of the service, the audio manager, and the updates that it has
    taken up, the latest first. -/
structure DeviceWorld where
  status : StatusWorld
  audio : AudioControlManager
  taken : List CallUpdate

namespace DeviceWorld

/-- The state the process starts with. -/
def init : DeviceWorld where
  status := StatusWorld.init
  audio := AudioControlManager.init
  taken := []

/-- The audio manager is told of an update. -/
def tell (d : DeviceWorld) (u : CallUpdate) : DeviceWorld :=
  { d with
    audio := d.audio.callStateUpdated u.call u.callType u.nextState
    taken := if u.callType = .voip then d.taken else u :: d.taken }

/-- An action of a handler with the updates it produces. -/
def action (ins : Insertion) (env : StatusEnv) (d : DeviceWorld) (a : StatusAction) : DeviceWorld :=
  let d' := { d with status := statusAction ins env d.status a }
  if env.hasCallStateListener = true then (d.status.updates a).foldl tell d' else d'

/-- The update INCOMING → ANSWERED of a stored call (call_control_manager.cpp:294,
    call_status_manager.cpp:1728-1729). -/
def notifyAnswered (d : DeviceWorld) (callId : ℤ) : DeviceWorld :=
  match d.status.getOneCallObject callId with
  | none => d
  | some call =>
    match d.status.heap call with
    | none => d
    | some c => d.tell ⟨call, c.callId, c.callType, .incoming, .answered⟩

end DeviceWorld

/-- The operations of a run: those on the calls, the notification of an answered call, and the
    choice of a device, by the user or by the service. -/
inductive DeviceOp
  | status (op : StatusOp)
  | answered (callId : ℤ)
  | setAudioDevice (hasVoipApp : Bool) (deviceType : AudioDeviceType) (isByUser : Bool)

/-- The state after one operation. -/
def deviceStep (ins : Insertion) (d : DeviceWorld) : DeviceOp → DeviceWorld
  | .status (.report env info) =>
    (((CallStatusManager.handleCallReportInfo ins env info).comap DeviceWorld.status).run
      (DeviceWorld.action ins env) d).2
  | .status op => { d with status := statusStep ins d.status op }
  | .answered callId => d.notifyAnswered callId
  | .setAudioDevice hasVoipApp deviceType isByUser =>
    { d with audio := d.audio.setAudioDevice d.status hasVoipApp deviceType isByUser }

/-! ## Specification -/

namespace StatusWorld

/-- The object `r` is not replaced when `call` is converted to the type of the report: it is
    another one, or it has the type already, or the type has no class. -/
def Spares (w : StatusWorld) (r call : Ref) (info : CallDetailInfo) : Prop :=
  r = call → (w.object call).callType = info.callType ∨ info.callType = .errCall

/-- The same for the call that `UpdateDialingCallInfo` finds. -/
def DialingSpares (w : StatusWorld) (r : Ref) (info : CallDetailInfo) : Prop :=
  ∀ call ∈ (w.getOneCallObjectByKey info.index info).or (w.getOneCallObjectByIndex initIndex),
    w.Spares r call info

/-- The action does not replace the object `r`. -/
def ActionSpares (w : StatusWorld) (r : Ref) : StatusAction → Prop
  | .refreshCallIfNecessary call info => w.Spares r call info
  | .updateDialingCallInfo info => w.DialingSpares r info
  | .btCallDialingHandleFirst call info =>
    info.state = .alerting →
      (w.setPhoneOrWatchDial call CallObjectManager.watchDial).DialingSpares r info
  | _ => True

end StatusWorld

namespace DeviceWorld

/-- The latest update of a call. -/
def lastUpdate (d : DeviceWorld) (callId : ℤ) : Option CallUpdate :=
  KeyedLog.last? CallUpdate.callId d.taken callId

/-- The call has been reported to the audio manager, and not as DISCONNECTED since. -/
def Ongoing (d : DeviceWorld) (callId : ℤ) : Prop :=
  ∃ last ∈ d.lastUpdate callId, last.nextState ≠ .disconnected

/-- Neither a call nor a choice is left: the routing of a later call is that of
    a new audio manager. -/
def Forgotten (d : DeviceWorld) : Prop :=
  d.audio.totalCalls = ∅ ∧ d.audio.isSetAudioDeviceByUser = false ∧
    ∀ env call, d.audio.updateDeviceForForegroundCall env call =
      AudioControlManager.init.updateDeviceForForegroundCall env call

/-- The operation reports something to the audio manager, and after it no call
    is ongoing: the last one has been reported DISCONNECTED. -/
def EndsLastCall (ins : Insertion) (d : DeviceWorld) (op : DeviceOp) : Prop :=
  (deviceStep ins d op).taken ≠ d.taken ∧ ∀ callId, ¬ (deviceStep ins d op).Ongoing callId

/-- An operation that ends the last call leaves neither a call nor a choice. -/
def Forgets (ins : Insertion) (d : DeviceWorld) (op : DeviceOp) : Prop :=
  d.EndsLastCall ins op → (deviceStep ins d op).Forgotten

/-- The condition on an action: it converts no call in `totalCalls_`. -/
def ActionOk (d : DeviceWorld) (a : StatusAction) : Prop :=
  ∀ r ∈ d.audio.totalCalls, d.status.ActionSpares r a

/-- The condition on an operation: no action of the handler of a report
    converts a call in `totalCalls_`. -/
def StepOk (ins : Insertion) (d : DeviceWorld) : DeviceOp → Prop
  | .status (.report env info) =>
    ((CallStatusManager.handleCallReportInfo ins env info).comap DeviceWorld.status).Meets
      (action ins env) ActionOk d
  | _ => True

end DeviceWorld

namespace StatusWorld

instance (w : StatusWorld) (r call : Ref) (info : CallDetailInfo) :
    Decidable (w.Spares r call info) :=
  inferInstanceAs (Decidable (_ = _ → _ ∨ _))

instance (w : StatusWorld) (r : Ref) (info : CallDetailInfo) : Decidable (w.DialingSpares r info) :=
  inferInstanceAs (Decidable (∀ call ∈ _, w.Spares r call info))

instance (w : StatusWorld) (r : Ref) : (a : StatusAction) → Decidable (w.ActionSpares r a)
  | .refreshCallIfNecessary call info => inferInstanceAs (Decidable (w.Spares r call info))
  | .updateDialingCallInfo info => inferInstanceAs (Decidable (w.DialingSpares r info))
  | .btCallDialingHandleFirst call info =>
    inferInstanceAs (Decidable (info.state = .alerting →
      (w.setPhoneOrWatchDial call CallObjectManager.watchDial).DialingSpares r info))
  | .createNewCall _ | .addOneCallObject _ | .deleteOneCallObject _ | .setTelCallState _ _
  | .updateCallState _ _ | .setPhoneOrWatchDial _ _ | .dialingProcess _ | .incomingCallBase _
  | .setNonVirtualCall _ _ | .clearPendingState _ | .setPendingMo _ | .clearPendingHangup
  | .clearNeedWaitHold | .setConferenceCall _ | .exitConference _ | .holdConference _
  | .endConferenceOfOne _ => .isTrue trivial

end StatusWorld

namespace DeviceWorld

instance (d : DeviceWorld) (a : StatusAction) : Decidable (d.ActionOk a) :=
  inferInstanceAs (Decidable (∀ r ∈ d.audio.totalCalls, d.status.ActionSpares r a))

instance (ins : Insertion) (d : DeviceWorld) : (op : DeviceOp) → Decidable (d.StepOk ins op)
  | .status (.report env info) =>
    inferInstanceAs (Decidable
      (((CallStatusManager.handleCallReportInfo ins env info).comap DeviceWorld.status).Meets
        (action ins env) ActionOk d))
  | .status (.callsReport _ _) | .status (.waitHold _) | .status (.hangUpPendingCall _)
  | .status (.combineConference _ _) | .status .combineConferenceFailed | .answered _
  | .setAudioDevice _ _ _ => .isTrue trivial

end DeviceWorld

/-! ## The ids of the objects -/

namespace StatusWorld

variable {w w' : StatusWorld} {ins : Insertion} {env : StatusEnv}

/-- The id of each object. -/
def callIds (w : StatusWorld) (r : Ref) : Option ℤ := (w.heap r).map CallBase.callId

theorem callIds_eq_some {r : Ref} {callId : ℤ} :
    w.callIds r = some callId ↔ ∃ c, w.heap r = some c ∧ c.callId = callId :=
  Option.map_eq_some_iff

theorem Numbered.callIds_inj (h : w.Numbered) {r r' : Ref} {callId : ℤ}
    (hr : w.callIds r = some callId) (hr' : w.callIds r' = some callId) : r = r' := by
  obtain ⟨c, hc, hid⟩ := callIds_eq_some.mp hr
  obtain ⟨c', hc', hid'⟩ := callIds_eq_some.mp hr'
  exact h.inj r r' c c' hc hc' (hid.trans hid'.symm)

theorem callIds_congr (h : w'.heap = w.heap) : w'.callIds = w.callIds := by
  funext r
  rw [callIds, callIds, h]

theorem callIds_of_keys (h : SameKeys w w') : w'.callIds = w.callIds := by
  have hfst : ∀ w : StatusWorld, w.callIds = fun r => (w.keys r).map CallKey.callId := fun w => by
    funext r
    rw [keys, Option.map_map]
    rfl
  rw [hfst, hfst, h.keys]

theorem callIds_modify (w : StatusWorld) (call : Ref) {f : CallBase → CallBase}
    (hf : ∀ c, (f c).callId = c.callId) : (w.modify call f).callIds = w.callIds := by
  funext r
  unfold callIds
  by_cases hr : r = call
  · rw [hr, modify_heap_self, Option.map_map]
    congr 1
    funext c
    exact hf c
  · rw [modify_heap_of_ne w f hr]

/-- The state in which `SetConferenceCall` updates its first call. -/
theorem callIds_joined (w : StatusWorld) (call : Ref) :
    ((w.setTelConferenceState call .idle).launchConference call).2.callIds = w.callIds :=
  callIds_of_keys ((SameKeys.setTelConferenceState w call .idle).trans
    (SameKeys.launchConference _ call))

/-! ### Actions that convert calls -/

theorem callIds_refreshCall (ins : Insertion) (env : StatusEnv) {call r : Ref}
    {info : CallDetailInfo} {callId : ℤ} (hlt : r < w.nextRef) (hr : w.callIds r = some callId)
    (hok : r = call → info.callType = .errCall) :
    (w.refreshCall ins env call info).2.callIds r = some callId := by
  by_cases hcall : r = call
  · -- no new object is made
    subst hcall
    obtain ⟨c, hc, -⟩ := callIds_eq_some.mp hr
    rcases hnew : w.createNewCall env info with ⟨_ | newCall, w'⟩
    · rw [refreshCall_none hc hnew, callIds_congr (createNewCall_none hnew).2]
      exact hr
    · obtain ⟨-, n, hn, -⟩ := createNewCall_eq_some hnew
      rw [CallBase.newCall, if_pos (hok rfl)] at hn
      cases hn
  · rw [callIds, refreshCall_heap_of_ne hlt hcall]
    exact hr

/-- A call that is not replaced keeps its id. -/
theorem callIds_refreshCallIfNecessary (h : w.Numbered) (ins : Insertion) (env : StatusEnv)
    {call r : Ref} {info : CallDetailInfo} {callId : ℤ} (hr : w.callIds r = some callId)
    (hok : w.Spares r call info) :
    (w.refreshCallIfNecessary ins env call info).2.callIds r = some callId := by
  obtain ⟨c, hc, -⟩ := callIds_eq_some.mp hr
  have hvideo := callIds_modify w call fun c => c.refreshVideoState_callId info
  have htype : ((w.modify call fun c => c.refreshVideoState info).object call).callType =
      (w.object call).callType := by
    unfold object
    rw [modify_heap_self]
    cases w.heap call with
    | none => rfl
    | some c => exact c.refreshVideoState_callType info
  have hr' := hr
  rw [← hvideo] at hr'
  unfold StatusWorld.refreshCallIfNecessary
  dsimp only
  rw [htype]
  by_cases hsame : (w.object call).callType = info.callType
  · rw [if_pos hsame]
    exact hr'
  · rw [if_neg hsame]
    refine callIds_refreshCall ins env (h.live r c hc).1 hr' fun hcall => ?_
    exact (hok hcall).resolve_left hsame

theorem callIds_updateDialingCallInfo (h : w.Numbered) (ins : Insertion) (env : StatusEnv) {r : Ref}
    {info : CallDetailInfo} {callId : ℤ} (hr : w.callIds r = some callId)
    (hok : w.DialingSpares r info) :
    (w.updateDialingCallInfo ins env info).2.callIds r = some callId := by
  unfold StatusWorld.updateDialingCallInfo
  split
  · rename_i call hcall
    refine callIds_refreshCallIfNecessary h ins env hr (hok call ?_)
    rw [hcall]
    rfl
  · rename_i hkey
    split
    · exact hr
    · rename_i pending hpending
      dsimp only
      rw [callIds_of_keys (SameKeys.clearPendingState _ _),
        callIds_modify _ _ fun c => c.adopt_callId info _]
      refine callIds_refreshCallIfNecessary h ins env hr (hok pending ?_)
      rw [hkey, hpending]
      rfl

theorem callIds_btCallDialingHandleFirst (h : w.Numbered) (ins : Insertion) (env : StatusEnv)
    {call r : Ref} {info : CallDetailInfo} {callId : ℤ} (hr : w.callIds r = some callId)
    (hok : info.state = .alerting →
      (w.setPhoneOrWatchDial call CallObjectManager.watchDial).DialingSpares r info) :
    (w.btCallDialingHandleFirst ins env call info).callIds r = some callId := by
  have hnumbered := h.setPhoneOrWatchDial call CallObjectManager.watchDial
  have hdial := hr
  rw [← callIds_of_keys (SameKeys.setPhoneOrWatchDial w call CallObjectManager.watchDial)] at hdial
  unfold StatusWorld.btCallDialingHandleFirst
  dsimp only
  by_cases hcall : (w.heap call).isNone = true
  · rw [if_pos hcall]
    exact hr
  rw [if_neg hcall]
  by_cases hstate : info.state = .alerting
  · rw [if_pos hstate]
    have hupdate := callIds_updateDialingCallInfo hnumbered ins env hdial (hok hstate)
    split_ifs
    · rw [callIds_of_keys (SameKeys.setTelCallState _ call .dialing)]
      exact hupdate
    · exact hupdate
  · rw [if_neg hstate]
    exact hdial

/-! ### All actions -/

/-- An object that an action does not replace keeps its id. -/
theorem callIds_statusAction (h : w.Numbered) (ins : Insertion) (env : StatusEnv) {a : StatusAction}
    {r : Ref} {callId : ℤ} (hr : w.callIds r = some callId) (hok : w.ActionSpares r a) :
    (statusAction ins env w a).callIds r = some callId := by
  cases a with
  | createNewCall info =>
    obtain ⟨c, hc, -⟩ := callIds_eq_some.mp hr
    rcases hnew : w.createNewCall env info with ⟨_ | newCall, w'⟩
    · show (w.createNewCall env info).2.callIds r = some callId
      rw [hnew, callIds_congr (createNewCall_none hnew).2, hr]
    · obtain ⟨href, -, -, -, hheap⟩ := createNewCall_some hnew
      have hne : r ≠ newCall := href ▸ Nat.ne_of_lt (h.live r c hc).1
      show (w.createNewCall env info).2.callIds r = some callId
      rw [hnew, callIds, hheap r hne]
      exact hr
  | refreshCallIfNecessary call info => exact callIds_refreshCallIfNecessary h ins env hr hok
  | updateDialingCallInfo info => exact callIds_updateDialingCallInfo h ins env hr hok
  | btCallDialingHandleFirst call info => exact callIds_btCallDialingHandleFirst h ins env hr hok
  | addOneCallObject _ | deleteOneCallObject _ | setPendingMo _ | clearPendingHangup
  | clearNeedWaitHold => exact hr
  | setTelCallState call s =>
    exact (congrFun (callIds_of_keys (SameKeys.setTelCallState w call s)) r).trans hr
  | updateCallState call s =>
    exact (congrFun (callIds_of_keys (SameKeys.updateCallState w call s)) r).trans hr
  | setPhoneOrWatchDial call v =>
    exact (congrFun (callIds_of_keys (SameKeys.setPhoneOrWatchDial w call v)) r).trans hr
  | dialingProcess call =>
    refine (congrFun (callIds_modify w call fun c => ?_) r).trans hr
    split_ifs <;> rfl
  | incomingCallBase call | setNonVirtualCall call v =>
    refine (congrFun (callIds_modify w call ?_) r).trans hr
    exact fun _ => rfl
  | clearPendingState call =>
    exact (congrFun (callIds_of_keys (SameKeys.clearPendingState w call)) r).trans hr
  | setConferenceCall slotId =>
    exact (congrFun (callIds_of_keys (SameKeys.setConferenceCall w slotId)) r).trans hr
  | exitConference call =>
    exact (congrFun (callIds_of_keys (SameKeys.exitConference w call)) r).trans hr
  | holdConference call =>
    exact (congrFun (callIds_of_keys (SameKeys.holdConference w call)) r).trans hr
  | endConferenceOfOne slotId =>
    exact (congrFun (callIds_of_keys (SameKeys.endConferenceOfOne w slotId)) r).trans hr

/-! ## The updates of an action -/

theorem updatesTo_notifications (w : StatusWorld) (call : Ref) (s : TelCallState) :
    (w.updateCallState call s).notifications =
      ((w.updatesTo call s).map CallUpdate.notification).reverse ++ w.notifications := by
  unfold StatusWorld.updateCallState updatesTo
  cases hc : w.heap call with
  | none => rfl
  | some c =>
    have hsecond := updateOneCallObjectByCallId_comesTo (w.setTelCallState call s) c.callId s
    show _ :: ((w.setTelCallState call s).updateOneCallObjectByCallId c.callId s).notifications = _
    rw [hsecond.notifications]
    rfl

theorem conferenceUpdates_notifications (w : StatusWorld) (list : List Ref) :
    (list.foldl (fun w conferenceCall =>
      let w := w.setTelConferenceState conferenceCall .idle
      let w := (w.launchConference conferenceCall).2
      w.updateCallState conferenceCall (w.object conferenceCall).callState) w).notifications =
      ((w.conferenceUpdates list).map CallUpdate.notification).reverse ++ w.notifications := by
  induction list generalizing w with
  | nil => rfl
  | cons conferenceCall list ih =>
    have hidle := (Quiet.setTelConferenceState w conferenceCall .idle).notifications
    have hlaunch := (Quiet.launchConference (w.setTelConferenceState conferenceCall .idle)
      conferenceCall).notifications
    rw [List.foldl_cons, ih, conferenceUpdates]
    dsimp only
    rw [updatesTo_notifications, hlaunch, hidle, List.map_append, List.reverse_append,
      List.append_assoc]

theorem leftOneUpdates_notifications (w : StatusWorld) (slotId : ℤ) :
    (w.endConferenceOfOne slotId).notifications =
      ((w.leftOneUpdates (w.getConferenceCallList slotId)).map CallUpdate.notification).reverse ++
        w.notifications := by
  unfold StatusWorld.endConferenceOfOne
  generalize w.getConferenceCallList slotId = list
  match list with
  | [] | _ :: _ :: _ => rfl
  | [call] =>
    unfold leftOneUpdates
    dsimp only
    split_ifs
    · rw [updatesTo_notifications, (Quiet.setTelConferenceState w call .idle).notifications]
    · rfl

/-- The audio manager is told of the notifications of an action, and of nothing else. -/
theorem updates_notifications (w : StatusWorld) (ins : Insertion) (env : StatusEnv)
    (a : StatusAction) :
    (statusAction ins env w a).notifications =
      ((w.updates a).map CallUpdate.notification).reverse ++ w.notifications := by
  cases a with
  | updateCallState call s => exact updatesTo_notifications w call s
  | setConferenceCall slotId => exact conferenceUpdates_notifications w _
  | endConferenceOfOne slotId => exact leftOneUpdates_notifications w slotId
  | createNewCall info =>
    rcases hnew : w.createNewCall env info with ⟨_ | newCall, w'⟩
    · show (w.createNewCall env info).2.notifications = _
      rw [hnew]
      exact (createNewCall_none hnew).1
    · show (w.createNewCall env info).2.notifications = _
      rw [hnew]
      exact (createNewCall_some hnew).2.2.1
  | refreshCallIfNecessary call info => exact refreshCallIfNecessary_notifications w call info
  | updateDialingCallInfo info => exact updateDialingCallInfo_notifications w info
  | btCallDialingHandleFirst call info =>
    show (w.btCallDialingHandleFirst ins env call info).notifications = w.notifications
    unfold StatusWorld.btCallDialingHandleFirst
    dsimp only
    split_ifs
    · rfl
    · exact updateDialingCallInfo_notifications _ info
    · exact updateDialingCallInfo_notifications _ info
    · rfl
  | clearPendingState call => exact (Quiet.clearPendingState w call).notifications
  | exitConference call => exact (Quiet.exitConference w call).notifications
  | holdConference call => exact (Quiet.holdConference w call).notifications
  | addOneCallObject _ | deleteOneCallObject _ | setTelCallState _ _ | setPhoneOrWatchDial _ _
  | dialingProcess _ | incomingCallBase _ | setNonVirtualCall _ _ | setPendingMo _
  | clearPendingHangup | clearNeedWaitHold => rfl

theorem updatesTo_live {call : Ref} {s : TelCallState} {u : CallUpdate}
    (h : u ∈ w.updatesTo call s) : w.callIds u.call = some u.callId := by
  unfold updatesTo at h
  cases hc : w.heap call with
  | none =>
    rw [hc] at h
    cases h
  | some c =>
    rw [hc] at h
    rw [List.mem_singleton.mp h, callIds, hc]
    rfl

theorem conferenceUpdates_live {list : List Ref} {u : CallUpdate}
    (h : u ∈ w.conferenceUpdates list) : w.callIds u.call = some u.callId := by
  induction list generalizing w with
  | nil => cases h
  | cons conferenceCall list ih =>
    rcases List.mem_append.mp h with h | h
    · rw [← callIds_joined w conferenceCall]
      exact updatesTo_live h
    · have hrest := ih h
      rwa [callIds_of_keys (SameKeys.updateCallState _ conferenceCall _), callIds_joined] at hrest

theorem leftOneUpdates_live {list : List Ref} {u : CallUpdate} (h : u ∈ w.leftOneUpdates list) :
    w.callIds u.call = some u.callId := by
  match list with
  | [] | _ :: _ :: _ => cases h
  | [call] =>
    unfold leftOneUpdates at h
    dsimp only at h
    split_ifs at h
    · have hlive := updatesTo_live h
      rwa [callIds_of_keys (SameKeys.setTelConferenceState w _ .idle)] at hlive
    · cases h

/-- An update is about an object that is there, with its id, and that stays. -/
theorem updates_live {a : StatusAction} {u : CallUpdate} (h : u ∈ w.updates a) :
    w.callIds u.call = some u.callId ∧ w.ActionSpares u.call a := by
  cases a with
  | updateCallState call s => exact ⟨updatesTo_live h, trivial⟩
  | setConferenceCall slotId => exact ⟨conferenceUpdates_live h, trivial⟩
  | endConferenceOfOne slotId => exact ⟨leftOneUpdates_live h, trivial⟩
  | _ => cases h

end StatusWorld

/-! ## The invariant -/

namespace DeviceWorld

variable {d d₀ : DeviceWorld} {ins : Insertion} {env : StatusEnv}

/-- The objects have their own ids, and those in `totalCalls_` are the objects of ongoing calls. -/
structure Tracked (d : DeviceWorld) : Prop where
  numbered : d.status.Numbered
  ongoing : ∀ r ∈ d.audio.totalCalls, ∃ callId, d.status.callIds r = some callId ∧ d.Ongoing callId

/-- If anything has been reported to the audio manager since `d₀`, the flag is
    down unless there are calls. -/
def SettledSince (d₀ d : DeviceWorld) : Prop :=
  d.taken = d₀.taken ∨ (d.audio.totalCalls = ∅ → d.audio.isSetAudioDeviceByUser = false)

theorem Tracked.init : Tracked init where
  numbered := StatusWorld.Synced.init.toNumbered
  ongoing _ h := nomatch h

/-! ### Updates -/

/-- After an update of a carrier call its object is in `totalCalls_` unless the
    call has ended, and the others are as they were. -/
theorem mem_callStateUpdated {m : AudioControlManager} {call r : Ref} {callType : CallType}
    {nextState : TelCallState} (htype : callType ≠ .voip) :
    r ∈ (m.callStateUpdated call callType nextState).totalCalls ↔
      r = call ∧ nextState ≠ .disconnected ∨ r ≠ call ∧ r ∈ m.totalCalls := by
  unfold AudioControlManager.callStateUpdated
  rw [if_neg htype]
  dsimp only
  by_cases hnext : nextState = .disconnected
  · rw [if_pos hnext]
    split_ifs <;> simp [hnext]
  · rw [if_neg hnext]
    split_ifs <;> by_cases hr : r = call <;> simp [hr, hnext]

/-- After an update of a carrier call no choice is left without a call. -/
theorem callStateUpdated_settled {m : AudioControlManager} {call : Ref} {callType : CallType}
    {nextState : TelCallState} (htype : callType ≠ .voip)
    (hempty : (m.callStateUpdated call callType nextState).totalCalls = ∅) :
    (m.callStateUpdated call callType nextState).isSetAudioDeviceByUser = false := by
  unfold AudioControlManager.callStateUpdated at hempty ⊢
  rw [if_neg htype] at hempty ⊢
  dsimp only at hempty ⊢
  generalize (if nextState = .disconnected then _ else _ : AudioControlManager) = m' at hempty ⊢
  by_cases hm : m'.totalCalls = ∅
  · rw [if_pos hm]
  · rw [if_neg hm] at hempty
    exact absurd hempty hm

/-- The audio manager does not take up an update of a VoIP call. -/
theorem tell_voip {u : CallUpdate} (htype : u.callType = .voip) : d.tell u = d := by
  unfold tell AudioControlManager.callStateUpdated
  rw [if_pos htype, if_pos htype]

theorem tell_taken {u : CallUpdate} (htype : u.callType ≠ .voip) :
    (d.tell u).taken = u :: d.taken := by
  rw [tell, if_neg htype]

theorem Tracked.tell (h : Tracked d) {u : CallUpdate}
    (hu : d.status.callIds u.call = some u.callId) : Tracked (d.tell u) := by
  by_cases htype : u.callType = .voip
  · rwa [tell_voip htype]
  refine ⟨h.numbered, fun r hr => ?_⟩
  have hlast : ∀ callId, (d.tell u).lastUpdate callId =
      KeyedLog.last? CallUpdate.callId (u :: d.taken) callId := by
    intro callId
    rw [lastUpdate, tell_taken htype]
  rcases (mem_callStateUpdated htype).mp hr with ⟨rfl, hnext⟩ | ⟨hne, hold⟩
  · refine ⟨u.callId, hu, u, ?_, hnext⟩
    rw [hlast, KeyedLog.last?_cons_self]
    rfl
  · obtain ⟨callId, hid, last, hmem, hongoing⟩ := h.ongoing r hold
    refine ⟨callId, hid, last, ?_, hongoing⟩
    have hids : u.callId ≠ callId := by
      rintro rfl
      exact hne (h.numbered.callIds_inj hid hu)
    rw [hlast, KeyedLog.last?_cons_of_ne hids]
    exact hmem

theorem SettledSince.tell (h : SettledSince d₀ d) (u : CallUpdate) : SettledSince d₀ (d.tell u) := by
  by_cases htype : u.callType = .voip
  · rwa [tell_voip htype]
  · exact .inr fun hempty => callStateUpdated_settled htype hempty

theorem Tracked.foldl_tell {us : List CallUpdate} (h : Tracked d)
    (hus : ∀ u ∈ us, d.status.callIds u.call = some u.callId) : Tracked (us.foldl DeviceWorld.tell d) := by
  induction us generalizing d with
  | nil => exact h
  | cons u us ih =>
    exact ih (h.tell (hus u List.mem_cons_self)) fun v hv => hus v (List.mem_cons_of_mem u hv)

theorem SettledSince.foldl_tell (h : SettledSince d₀ d) (us : List CallUpdate) :
    SettledSince d₀ (us.foldl DeviceWorld.tell d) := by
  induction us generalizing d with
  | nil => exact h
  | cons u us ih => exact ih (h.tell u)

theorem foldl_tell_status (d : DeviceWorld) (us : List CallUpdate) :
    (us.foldl tell d).status = d.status := by
  induction us generalizing d with
  | nil => rfl
  | cons u us ih => exact ih (d.tell u)

/-! ### Actions -/

/-- The step lemma for actions: one that converts no call in `totalCalls_` keeps the invariant. -/
theorem Tracked.action (h : Tracked d) (ins : Insertion) (env : StatusEnv) {a : StatusAction}
    (hok : ActionOk d a) : Tracked (d.action ins env a) := by
  have hstatus : Tracked { d with status := statusAction ins env d.status a } := by
    refine ⟨h.numbered.statusAction ins env a, fun r hr => ?_⟩
    obtain ⟨callId, hid, hongoing⟩ := h.ongoing r hr
    exact ⟨callId, StatusWorld.callIds_statusAction h.numbered ins env hid (hok r hr), hongoing⟩
  unfold DeviceWorld.action
  dsimp only
  split_ifs
  · refine hstatus.foldl_tell fun u hu => ?_
    obtain ⟨hid, hstays⟩ := StatusWorld.updates_live hu
    exact StatusWorld.callIds_statusAction h.numbered ins env hid hstays
  · exact hstatus

theorem SettledSince.action (h : SettledSince d₀ d) (ins : Insertion) (env : StatusEnv)
    (a : StatusAction) : SettledSince d₀ (d.action ins env a) := by
  have hstatus : SettledSince d₀ { d with status := statusAction ins env d.status a } := h
  unfold DeviceWorld.action
  dsimp only
  split_ifs
  · exact hstatus.foldl_tell _
  · exact hstatus

/-- What an action does to the calls is what it does without an audio manager. -/
theorem action_status (ins : Insertion) (env : StatusEnv) (d : DeviceWorld) (a : StatusAction) :
    (d.action ins env a).status = statusAction ins env d.status a := by
  unfold DeviceWorld.action
  dsimp only
  split_ifs
  · rw [foldl_tell_status]
  · rfl

/-! ### Operations -/

theorem notifyAnswered_invariant (h : Tracked d) (callId : ℤ) :
    Tracked (d.notifyAnswered callId) ∧ SettledSince d (d.notifyAnswered callId) := by
  unfold notifyAnswered
  split
  · exact ⟨h, .inl rfl⟩
  · rename_i call _
    split
    · exact ⟨h, .inl rfl⟩
    · rename_i c hc
      refine ⟨h.tell ?_, SettledSince.tell (.inl rfl) _⟩
      exact StatusWorld.callIds_eq_some.mpr ⟨c, hc, rfl⟩

/-- What reaches the calls between two reports leaves their objects alone. -/
theorem heap_statusStep (ins : Insertion) (w : StatusWorld) {op : StatusOp}
    (hop : ∀ env info, op ≠ .report env info) : (statusStep ins w op).heap = w.heap := by
  cases op with
  | report env info => exact absurd rfl (hop env info)
  | callsReport _ _ | waitHold _ => rfl
  | hangUpPendingCall callId =>
    show (w.hangUpPendingCall callId).heap = w.heap
    unfold StatusWorld.hangUpPendingCall
    split_ifs <;> rfl
  | combineConference callId packOttCallRequestInfo =>
    show (w.combineConference callId packOttCallRequestInfo).heap = w.heap
    unfold StatusWorld.combineConference
    split
    · rfl
    · split <;> first | rfl | (split_ifs <;> rfl)
  | combineConferenceFailed =>
    show w.combineConferenceFailed.heap = w.heap
    unfold StatusWorld.combineConferenceFailed
    split
    · rfl
    · split <;> rfl

theorem numbered_statusStep {w : StatusWorld} (h : w.Numbered) (ins : Insertion) {op : StatusOp}
    (hop : ∀ env info, op ≠ .report env info) : (statusStep ins w op).Numbered := by
  cases op with
  | report env info => exact absurd rfl (hop env info)
  | callsReport _ _ => exact h.writes (StatusWorld.Quiet.of_heap rfl rfl rfl rfl)
  | waitHold _ => exact h.writes (StatusWorld.Quiet.of_heap rfl rfl rfl rfl)
  | hangUpPendingCall callId => exact h.writes (StatusWorld.Quiet.hangUpPendingCall w callId)
  | combineConference callId ret => exact h.writes (StatusWorld.Quiet.combineConference w callId ret)
  | combineConferenceFailed => exact h.writes (StatusWorld.Quiet.combineConferenceFailed w)

theorem Tracked.statusStep (h : Tracked d) (ins : Insertion) {op : StatusOp}
    (hop : ∀ env info, op ≠ .report env info) :
    Tracked { d with status := CallManager.statusStep ins d.status op } := by
  refine ⟨numbered_statusStep h.numbered ins hop, fun r hr => ?_⟩
  obtain ⟨callId, hid, hongoing⟩ := h.ongoing r hr
  refine ⟨callId, ?_, hongoing⟩
  rw [StatusWorld.callIds_congr (heap_statusStep ins d.status hop)]
  exact hid

theorem setAudioDevice_totalCalls (m : AudioControlManager) (w : StatusWorld) (hasVoipApp : Bool)
    (deviceType : AudioDeviceType) (isByUser : Bool) :
    (m.setAudioDevice w hasVoipApp deviceType isByUser).totalCalls = m.totalCalls := by
  unfold AudioControlManager.setAudioDevice
  dsimp only
  split_ifs <;> rfl

/-- The step lemma for operations. -/
theorem Tracked.deviceStep (h : Tracked d) {op : DeviceOp} (hok : StepOk ins d op) :
    Tracked (deviceStep ins d op) ∧ SettledSince d (deviceStep ins d op) := by
  match op with
  | .status (.report env info) =>
    refine Program.run_preserves (I := fun d' => Tracked d' ∧ SettledSince d d')
      (fun d' a hI hcond => ?_) _ ⟨h, .inl rfl⟩ hok
    exact ⟨hI.1.action ins env hcond, hI.2.action ins env a⟩
  | .status (.callsReport _ _) => exact ⟨h.statusStep ins (by simp), .inl rfl⟩
  | .status (.waitHold _) => exact ⟨h.statusStep ins (by simp), .inl rfl⟩
  | .status (.hangUpPendingCall _) => exact ⟨h.statusStep ins (by simp), .inl rfl⟩
  | .status (.combineConference _ _) => exact ⟨h.statusStep ins (by simp), .inl rfl⟩
  | .status .combineConferenceFailed => exact ⟨h.statusStep ins (by simp), .inl rfl⟩
  | .answered callId => exact notifyAnswered_invariant h callId
  | .setAudioDevice hasVoipApp deviceType isByUser =>
    refine ⟨⟨h.numbered, fun r hr => h.ongoing r ?_⟩, .inl rfl⟩
    rwa [← setAudioDevice_totalCalls d.audio d.status hasVoipApp deviceType isByUser]

/-- What a report does to the calls is what it does without an audio manager. -/
theorem deviceStep_status (ins : Insertion) (d : DeviceWorld) (op : StatusOp) :
    (CallManager.deviceStep ins d (.status op)).status = CallManager.statusStep ins d.status op := by
  cases op with
  | report env info => exact (Program.run_comap (action_status ins env) _ d).2
  | callsReport _ _ | waitHold _ | hangUpPendingCall _ | combineConference _ _
  | combineConferenceFailed => rfl

/-- Without a choice the device is routed as by a new audio manager. -/
theorem forgotten_of_empty (hcalls : d.audio.totalCalls = ∅)
    (hflag : d.audio.isSetAudioDeviceByUser = false) : d.Forgotten := by
  refine ⟨hcalls, hflag, fun env call => ?_⟩
  unfold AudioControlManager.updateDeviceForForegroundCall
  rw [hflag]
  rfl

theorem Tracked.forgets (h : Tracked d) {op : DeviceOp} (hok : StepOk ins d op) :
    d.Forgets ins op := by
  rintro ⟨htaken, hnone⟩
  obtain ⟨hstep, hsettled⟩ := h.deviceStep hok
  have hempty : (CallManager.deviceStep ins d op).audio.totalCalls = ∅ := by
    refine Finset.eq_empty_of_forall_notMem fun r hr => ?_
    obtain ⟨callId, -, hongoing⟩ := hstep.ongoing r hr
    exact hnone callId hongoing
  exact forgotten_of_empty hempty (hsettled.resolve_left htaken hempty)

end DeviceWorld

/-- **Main theorem.** From a state whose objects in `totalCalls_` are those of
    ongoing calls, in a run whose new calls are put on the list and that converts
    no call in `totalCalls_`, every operation that ends the last call leaves
    `totalCalls_` empty and the user's choice forgotten. -/
theorem device_choice_forgotten {d : DeviceWorld} (hd : d.Tracked) (ops : List DeviceOp)
    (hops : Run.StepsMeet (deviceStep .restored) (DeviceWorld.StepOk .restored) d ops) :
    Run.StepsMeet (deviceStep .restored) (DeviceWorld.Forgets .restored) d ops :=
  hops.of_invariant (P := DeviceWorld.Tracked) (fun _ _ h hok => ⟨(h.deviceStep hok).1, h.forgets hok⟩)
    hd

/-- A report of a call of slot 0 with index 1. -/
def deviceReport (callType : CallType) (state : TelCallState) : DeviceOp :=
  .status (.report modemEnv (slotCall callType 1 state 0))

/-- A call that is answered, played through the speaker and hung up, and a
    second one that rings. -/
theorem device_choice_forgotten_call :
    Run.StepsMeet (deviceStep .restored) (DeviceWorld.Forgets .restored) DeviceWorld.init
      [deviceReport .ims .incoming, .answered 1, deviceReport .ims .active,
        .setAudioDevice false .speaker true, deviceReport .ims .disconnected,
        deviceReport .ims .incoming] :=
  device_choice_forgotten DeviceWorld.Tracked.init _ (by decide +kernel)

/-- A call that is answered over IMS, played through the speaker, and goes on as a CS call. -/
def convertedCall : DeviceWorld :=
  Run.run (deviceStep .restored) DeviceWorld.init
    [deviceReport .ims .incoming, deviceReport .ims .active, .setAudioDevice false .speaker true,
      deviceReport .cs .active]

theorem DeviceWorld.not_ongoing {d : DeviceWorld}
    (h : ∀ u ∈ d.taken, ∀ last ∈ d.lastUpdate u.callId, last.nextState = .disconnected)
    (callId : ℤ) : ¬ d.Ongoing callId := by
  rintro ⟨last, hlast, hongoing⟩
  obtain ⟨hmem, hid⟩ := KeyedLog.mem_of_last? hlast
  exact hongoing (h last hmem last (hid ▸ hlast))

/-- A call that rings, is played through the speaker and ends, on a device that a
    VoIP application has a call on. -/
def endedCall : List DeviceOp :=
  [deviceReport .ims .incoming, .setAudioDevice true .speaker true,
    deviceReport .ims .disconnected]

/-- A call that is converted to a CS call is in `totalCalls_` for good, and so
    is the user's choice; as `AddOneCallObject` is written, any call is. -/
theorem converted_call_keeps_choice :
    ¬ Run.StepsMeet (deviceStep .restored) (DeviceWorld.Forgets .restored) DeviceWorld.init
        [deviceReport .ims .incoming, deviceReport .ims .active,
          .setAudioDevice false .speaker true, deviceReport .cs .active,
          deviceReport .cs .disconnected] ∧
      (Run.run (deviceStep .asWritten) DeviceWorld.init endedCall).audio = ⟨{0}, true⟩ := by
  refine ⟨fun h => ?_, by decide +kernel⟩
  obtain ⟨-, -, -, -, hlast, -⟩ := h
  have hends : convertedCall.EndsLastCall .restored (deviceReport .cs .disconnected) :=
    ⟨by decide +kernel, DeviceWorld.not_ongoing (by decide +kernel)⟩
  have hkept : (deviceStep .restored convertedCall
      (deviceReport .cs .disconnected)).audio.totalCalls ≠ ∅ := by decide +kernel
  exact hkept (hlast hends).1

end CallManager
