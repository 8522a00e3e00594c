import CallManager.EmergencyCalls

/-!
# The emergency location service

When an emergency call is dialed, `StartEccService` connects the service that reports
the location, unless the user has switched it off; when a call ends, `StopEccService`
disconnects it, if this is the call it was started for. One call id is kept for the
whole service, and a start is refused while the service is started.

So with two emergency calls the service belongs to the first one, and its end takes
the service away from the second.

Specification: the service is connected iff a call for which it was requested is
still stored (`Covered`). A request is a start for an emergency call with the user's
switch on; one whose own connection the platform refuses does not count.

The store is that of `EmergencyCalls`, with the insertion that the callers of
`AddOneCallObject` rely on; the location switch of OOBE, the connection's parameters
and the notification of the dial are left out.

Results:
* `eccService_covers_iff`: the specification holds in every state of a run iff no
  call ends that the service was started for while another requested call is
  stored, and no request comes while the service counts as started but the platform
  has refused its connection.
* `second_emergencyCall_uncovered`: two emergency calls, of which the first ends.
-/

namespace CallManager.EmergencyLocation

open EmergencyCalls

/-! ## The service -/

/-- What a dial is told beside what an incoming report is told: whether the user's
    switch `emergency_post_location_switch` is on, and whether the platform connects
    the service, if it is asked. -/
structure LocationEnv extends IncomingEnv where
  isSwitchOn : Bool
  connects : Bool
  deriving DecidableEq, Repr

/-- The store, the static fields of `EmergencyCallConnectCallback`
    (call_earthquake_alarm_locator.h:128-141), of the callback whether it is there, and whether
    the service is connected. `requested` has the calls for which a start was requested; nothing
    of the source reads it. -/
structure LocationWorld where
  status : EccWorld
  isStartEccService : Bool
  nowCallId : ℤ
  connectCallbackEcc : Bool
  connected : Bool
  requested : List ℤ

namespace LocationWorld

/-- The state the process starts with. -/
def init : LocationWorld where
  status := { calls := OrderedMap.empty _, callId := 0, reports := [], rejected := [] }
  isStartEccService := false
  nowCallId := -1
  connectCallbackEcc := false
  connected := false
  requested := []

/-- `StartEccService` (call_earthquake_alarm_locator.cpp:356-384). The result of the connection
    is only logged. -/
def startEccService (env : LocationEnv) (w : LocationWorld) (call : EccCall) : LocationWorld :=
  if w.isStartEccService = true then w
  else if call.isEcc = false then w
  else if env.isSwitchOn = false then w
  else
    { w with
      connectCallbackEcc := true
      connected := env.connects
      nowCallId := call.callId
      isStartEccService := true }

/-- `StopEccService` (call_earthquake_alarm_locator.cpp:386-401). -/
def stopEccService (w : LocationWorld) (callId : ℤ) : LocationWorld :=
  if w.connectCallbackEcc = false then w
  else if w.nowCallId ≠ callId then w
  else
    { w with
      connected := false
      connectCallbackEcc := false
      nowCallId := -1
      isStartEccService := false }

/-- The start for this call counts as a request. -/
def Requests (env : LocationEnv) (w : LocationWorld) (call : EccCall) : Prop :=
  call.isEcc = true ∧ env.isSwitchOn = true ∧ (w.isStartEccService = true ∨ env.connects = true)

instance (env : LocationEnv) (w : LocationWorld) (call : EccCall) :
    Decidable (Requests env w call) := by
  unfold Requests
  infer_instance

/-- The request is noted. -/
def note (env : LocationEnv) (w : LocationWorld) (call : EccCall) : LocationWorld :=
  if Requests env w call then { w with requested := call.callId :: w.requested } else w

/-! ## The handlers -/

/-- The call that `DialingHandle` makes of a report. -/
def dialedCall (env : LocationEnv) (info : CallDetailInfo) (c : CallBase) : EccCall where
  toCallBase :=
    if info.index = StatusWorld.initIndex then
      { c with phoneOrWatch := CallObjectManager.watchDial }
    else c
  isEcc := EccWorld.isEccOf env.toIncomingEnv info.callType true
  isOutgoing := true

/-- The part of `DialingHandle` that creates a call (call_status_manager.cpp:968-998). -/
def dialingNewCall (env : LocationEnv) (w : LocationWorld) (info : CallDetailInfo) :
    LocationWorld :=
  let w := { w with status := { w.status with callId := w.status.callId + 1 } }
  match CallBase.newCall env.toStatusEnv info w.status.callId with
  | none => w
  | some c =>
    let call := dialedCall env info c
    let w := { w with
      status := { w.status with calls := addOneCallObject .restored w.status.calls call } }
    let w := (w.note env call).startEccService env call
    { w with status := w.status.updateCallState call.callId .dialing }

/-- What `UpdateDialingCallInfo` writes to the pending call it adopts. -/
def adopt (info : CallDetailInfo) (oriNum : String) (c : EccCall) : EccCall :=
  { c with toCallBase := c.toCallBase.adopt info oriNum }

theorem adopt_callId (info : CallDetailInfo) (oriNum : String) (c : EccCall) :
    (adopt info oriNum c).callId = c.callId :=
  c.toCallBase.adopt_callId info oriNum

/-- `UpdateDialingCallInfo` (call_status_manager.cpp:928-957). -/
def updateDialingCallInfo (env : LocationEnv) (s : EccWorld) (info : CallDetailInfo) : EccWorld :=
  match s.getOneCallObjectByKey info with
  | some call => s.refreshCallIfNecessary .restored env.toIncomingEnv call info
  | none =>
    match s.getOneCallObjectByIndex StatusWorld.initIndex with
    | none => s
    | some call =>
      let s := s.refreshCallIfNecessary .restored env.toIncomingEnv call info
      { s with
        calls := s.calls.modify call.callId (adopt info call.accountNumber)
          (adopt_callId info call.accountNumber) }

/-- `SetPhoneOrWatchDial`. -/
def setPhoneOrWatchDial (s : EccWorld) (callId phoneOrWatch : ℤ) : EccWorld :=
  { s with
    calls := s.calls.modify callId (fun c : EccCall => { c with phoneOrWatch := phoneOrWatch })
      fun _ => rfl }

/-- `UpdateDialingHandle` with `BtCallDialingHandle` (call_status_manager.cpp:1001-1018,
    2564-2576): whether there is a call to update. -/
def updateDialingHandle (s : EccWorld) (info : CallDetailInfo) : Bool × EccWorld :=
  match s.getOneCallObjectByKey { info with index := StatusWorld.initIndex },
    s.getOneCallObjectByKey info with
  | some call, _ =>
    (true, if info.callType = .bluetooth then
      setPhoneOrWatchDial s call.callId CallObjectManager.watchDial else s)
  | none, some call =>
    (true, if info.callType = .bluetooth then setPhoneOrWatchDial s call.callId 0 else s)
  | none, none => (false, s)

/-- `DialingHandle` (call_status_manager.cpp:959-999). -/
def dialingHandle (env : LocationEnv) (w : LocationWorld) (info : CallDetailInfo) :
    LocationWorld :=
  if 0 < info.index then
    match updateDialingHandle w.status info with
    | (true, s) => { w with status := updateDialingCallInfo env s info }
    | (false, s) => { w with status := s }.dialingNewCall env info
  else w.dialingNewCall env info

/-- The state in which `DisconnectedHandle` looks the call of the report up at last: without a
    call, `RefreshDialingStateByOtherState` treats a pending dial first
    (call_status_manager.cpp:2887-2905). -/
def redialed (env : LocationEnv) (w : LocationWorld) (info : CallDetailInfo) : LocationWorld :=
  if (w.status.getOneCallObjectByKey info).isNone ∧
      (w.status.getOneCallObjectByIndex StatusWorld.initIndex).isSome then
    w.dialingHandle env { info with state := .dialing }
  else w

/-- `DisconnectedHandle` (call_status_manager.cpp:1472-1533): the call is refreshed and ends. -/
def disconnectedHandle (env : LocationEnv) (w : LocationWorld) (info : CallDetailInfo) :
    LocationWorld :=
  let w := w.redialed env info
  match w.status.getOneCallObjectByKey info with
  | none => w
  | some call =>
    let s := w.status.refreshCallIfNecessary .restored env.toIncomingEnv call info
    { w with status := { s with calls := s.calls.erase call.callId } }.stopEccService call.callId

/-- The reports of a run: a dial of the user is a DIALING report without an index. -/
inductive LocationOp
  | dialing (env : LocationEnv) (info : CallDetailInfo)
  | disconnected (env : LocationEnv) (info : CallDetailInfo)

/-- One step. -/
def step (w : LocationWorld) : LocationOp → LocationWorld
  | .dialing env info => w.dialingHandle env info
  | .disconnected env info => w.disconnectedHandle env info

/-! ## Specification -/

/-- A call for which the service was requested is stored under this id. -/
def Needs (w : LocationWorld) (callId : ℤ) : Prop :=
  callId ∈ w.requested ∧ w.status.calls.Mem callId

/-- The service is connected iff a call needs it. -/
def Covered (w : LocationWorld) : Prop := w.connected = true ↔ ∃ callId, w.Needs callId

/-- A dial that creates an emergency call with the switch on does not find the
    service started but refused by the platform. -/
def DialOk (env : LocationEnv) (w : LocationWorld) (info : CallDetailInfo) : Prop :=
  (0 < info.index → (updateDialingHandle w.status info).1 = false) → info.callType ≠ .errCall →
    EccWorld.isEccOf env.toIncomingEnv info.callType true = true → env.isSwitchOn = true →
    w.isStartEccService = true → w.connected = true

/-- No other call needs the service when the call ends that it was started for, or
    while it is not connected. -/
def EndOk (w : LocationWorld) (callId : ℤ) : Prop :=
  w.connected = false ∨ w.nowCallId = callId → ∀ other ∈ w.requested, w.status.calls.Mem other →
    other = callId

/-- What a step must meet. The end of a call is looked at after a pending dial was treated. -/
def StepOk (w : LocationWorld) : LocationOp → Prop
  | .dialing env info => w.DialOk env info
  | .disconnected env info =>
    match (w.redialed env info).status.getOneCallObjectByKey info with
    | some call => (w.redialed env info).EndOk call.callId
    | none =>
      (w.status.getOneCallObjectByIndex StatusWorld.initIndex).isSome →
        w.DialOk env { info with state := .dialing }

/-! ## What keeps the stored ids -/

/-- The same ids are stored, and no id is given back. -/
structure SameIds (s s' : EccWorld) : Prop where
  mem : ∀ callId, s'.calls.Mem callId ↔ s.calls.Mem callId
  le : s.callId ≤ s'.callId

theorem SameIds.refl (s : EccWorld) : SameIds s s := ⟨fun _ => Iff.rfl, le_rfl⟩

theorem SameIds.trans {s s' s'' : EccWorld} (h : SameIds s s') (h' : SameIds s' s'') :
    SameIds s s'' :=
  ⟨fun callId => (h'.mem callId).trans (h.mem callId), h.le.trans h'.le⟩

theorem SameIds.modify (s : EccWorld) (callId : ℤ) {f : EccCall → EccCall}
    (hf : ∀ c, (f c).callId = c.callId) :
    SameIds s { s with calls := s.calls.modify callId f hf } :=
  ⟨fun _ => OrderedMap.mem_modify hf, le_rfl⟩

/-- A refresh gives the new object the id of the old one. -/
theorem sameIds_refreshCall (env : IncomingEnv) {s : EccWorld} {call : EccCall}
    (info : CallDetailInfo) (hmem : s.calls.Mem call.callId) :
    SameIds s (s.refreshCall .restored env call info) := by
  unfold EccWorld.refreshCall
  cases hnew : CallBase.newCall env.toStatusEnv info call.callId with
  | none => exact ⟨fun _ => Iff.rfl, by show s.callId ≤ s.callId + 1; omega⟩
  | some c =>
    refine ⟨fun callId => ?_, by show s.callId ≤ s.callId + 1; omega⟩
    dsimp only [addOneCallObject]
    rw [OrderedMap.mem_insert, OrderedMap.mem_erase, EccCall.setTelCallState_callId,
      (StatusWorld.newCall_some hnew).1]
    constructor
    · rintro (rfl | ⟨-, h⟩)
      · exact hmem
      · exact h
    · intro h
      by_cases heq : callId = call.callId
      · exact .inl heq
      · exact .inr ⟨heq, h⟩

theorem sameIds_refreshCallIfNecessary (env : IncomingEnv) {s : EccWorld} {call : EccCall}
    (info : CallDetailInfo) (hmem : s.calls.Mem call.callId) :
    SameIds s (s.refreshCallIfNecessary .restored env call info) := by
  have hvideo := SameIds.modify s call.callId (EccCall.refreshVideoState_callId info)
  unfold EccWorld.refreshCallIfNecessary
  dsimp only
  split_ifs
  · exact hvideo
  · exact hvideo.trans (sameIds_refreshCall env info ((hvideo.mem _).mpr hmem))

theorem mem_of_key {s : EccWorld} {info : CallDetailInfo} {call : EccCall}
    (h : s.getOneCallObjectByKey info = some call) : s.calls.Mem call.callId :=
  ⟨call, EccWorld.mem_of_key h, rfl⟩

theorem mem_of_index {s : EccWorld} {index : ℤ} {call : EccCall}
    (h : s.getOneCallObjectByIndex index = some call) : s.calls.Mem call.callId :=
  ⟨call, List.mem_of_find?_eq_some h, rfl⟩

theorem sameIds_updateDialingCallInfo (env : LocationEnv) (s : EccWorld) (info : CallDetailInfo) :
    SameIds s (updateDialingCallInfo env s info) := by
  unfold updateDialingCallInfo
  cases hkey : s.getOneCallObjectByKey info with
  | some call => exact sameIds_refreshCallIfNecessary _ info (mem_of_key hkey)
  | none =>
    dsimp only
    cases hinit : s.getOneCallObjectByIndex StatusWorld.initIndex with
    | none => exact SameIds.refl s
    | some call =>
      have hrefresh := sameIds_refreshCallIfNecessary env.toIncomingEnv info (mem_of_index hinit)
      exact hrefresh.trans (SameIds.modify _ _ _)

theorem sameIds_setPhoneOrWatchDial (s : EccWorld) (callId phoneOrWatch : ℤ) :
    SameIds s (setPhoneOrWatchDial s callId phoneOrWatch) :=
  SameIds.modify s callId _

theorem sameIds_updateDialingHandle (s : EccWorld) (info : CallDetailInfo) :
    SameIds s (updateDialingHandle s info).2 := by
  unfold updateDialingHandle
  split
  · dsimp only
    split_ifs
    · exact sameIds_setPhoneOrWatchDial s _ _
    · exact SameIds.refl s
  · dsimp only
    split_ifs
    · exact sameIds_setPhoneOrWatchDial s _ _
    · exact SameIds.refl s
  · exact SameIds.refl s

/-! ## The invariant -/

/-- Stored and requested ids were given out, and the service is started for a stored
    call: the calls that need it are looked at only while it is connected. -/
structure Ok (w : LocationWorld) : Prop where
  stored : ∀ callId, w.status.calls.Mem callId → callId ≤ w.status.callId
  requested : ∀ callId ∈ w.requested, callId ≤ w.status.callId
  started : w.isStartEccService = true →
    w.connectCallbackEcc = true ∧ w.status.calls.Mem w.nowCallId
  stopped : w.isStartEccService = false → w.connectCallbackEcc = false ∧ w.connected = false
  owner : w.connected = true → w.nowCallId ∈ w.requested

theorem Ok.init : Ok init where
  stored _ h := by simp [LocationWorld.init, OrderedMap.Mem] at h
  requested _ h := absurd h List.not_mem_nil
  started h := nomatch h
  stopped _ := ⟨rfl, rfl⟩
  owner h := nomatch h

variable {w : LocationWorld} {env : LocationEnv} {info : CallDetailInfo}

/-- What writes the store only and keeps its ids keeps the invariant and what the
    specification says. -/
theorem Ok.of_sameIds (h : w.Ok) {s : EccWorld} (hs : SameIds w.status s) :
    Ok { w with status := s } where
  stored callId hmem := (h.stored callId ((hs.mem callId).mp hmem)).trans hs.le
  requested callId hmem := (h.requested callId hmem).trans hs.le
  started hstart := ⟨(h.started hstart).1, (hs.mem _).mpr (h.started hstart).2⟩
  stopped := h.stopped
  owner := h.owner

theorem covered_of_sameIds {s : EccWorld} (hs : SameIds w.status s) :
    Covered { w with status := s } ↔ w.Covered := by
  unfold Covered Needs
  simp only [hs.mem]

/-! ## A request -/

/-- What a dial does to the service: nothing without a request, a note while it is
    started, and a start otherwise. -/
theorem start_eq (env : LocationEnv) (w : LocationWorld) (call : EccCall) :
    (w.note env call).startEccService env call =
      if call.isEcc = true ∧ env.isSwitchOn = true then
        if w.isStartEccService = true then { w with requested := call.callId :: w.requested }
        else
          { w with
            requested := if env.connects = true then call.callId :: w.requested else w.requested
            connectCallbackEcc := true
            connected := env.connects
            nowCallId := call.callId
            isStartEccService := true }
      else w := by
  unfold startEccService note Requests
  by_cases hecc : call.isEcc = true
  · by_cases hswitch : env.isSwitchOn = true
    · by_cases hstart : w.isStartEccService = true
      · simp [hecc, hswitch, hstart]
      · by_cases hconnects : env.connects = true
        · simp [hecc, hswitch, hstart, hconnects]
        · simp [hecc, hswitch, hstart, hconnects]
    · simp [hswitch]
  · simp [hecc]

theorem Ok.start (h : w.Ok) {call : EccCall} (hmem : w.status.calls.Mem call.callId) :
    Ok ((w.note env call).startEccService env call) := by
  have hrequested : ∀ callId ∈ call.callId :: w.requested, callId ≤ w.status.callId := by
    intro callId hid
    rcases List.mem_cons.mp hid with rfl | hid
    · exact h.stored _ hmem
    · exact h.requested callId hid
  rw [start_eq]
  split_ifs with hrequest hstart hconnects
  · exact ⟨h.stored, hrequested, h.started, h.stopped,
      fun hc => List.mem_cons_of_mem _ (h.owner hc)⟩
  · exact ⟨h.stored, hrequested, fun _ => ⟨rfl, hmem⟩, fun hs => (nomatch hs),
      fun _ => List.mem_cons_self⟩
  · exact ⟨h.stored, h.requested, fun _ => ⟨rfl, hmem⟩, fun hs => (nomatch hs),
      fun hc => absurd hc hconnects⟩
  · exact h

/-- A dial leaves the calls covered iff a request does not find the service started
    but not connected. -/
theorem covered_start_iff (h : w.Ok) (hcovered : w.Covered) {call : EccCall}
    (hmem : w.status.calls.Mem call.callId) :
    Covered ((w.note env call).startEccService env call) ↔
      (call.isEcc = true → env.isSwitchOn = true → w.isStartEccService = true →
        w.connected = true) := by
  rw [start_eq]
  split_ifs with hrequest hstart hconnects
  · obtain ⟨hecc, hswitch⟩ := hrequest
    have hneeds : ∃ callId, Needs { w with requested := call.callId :: w.requested } callId :=
      ⟨call.callId, List.mem_cons_self, hmem⟩
    constructor
    · intro hc _ _ _
      exact hc.mpr hneeds
    · intro hc
      exact ⟨fun _ => hneeds, fun _ => hc hecc hswitch hstart⟩
  · exact ⟨fun _ _ _ hs => absurd hs hstart,
      fun _ => ⟨fun _ => ⟨call.callId, List.mem_cons_self, hmem⟩, fun _ => hconnects⟩⟩
  · have hnone : ¬ ∃ callId, w.Needs callId := by
      intro hneeds
      have hfalse := (h.stopped (by simpa using hstart)).2
      rw [hcovered.mpr hneeds] at hfalse
      exact absurd hfalse (by simp)
    exact ⟨fun _ _ _ hs => absurd hs hstart,
      fun _ => ⟨fun hc => absurd hc hconnects, fun hneeds => absurd hneeds hnone⟩⟩
  · constructor
    · intro _ hecc hswitch
      exact absurd ⟨hecc, hswitch⟩ hrequest
    · intro _
      exact hcovered

/-! ## A dial -/

/-- A call under a new id is stored, and neither the invariant nor what the
    specification says changes, since nothing was requested for it yet. -/
theorem Ok.insert (h : w.Ok) {call : EccCall} (hid : call.callId = w.status.callId + 1) :
    Ok { w with
      status :=
        { w.status with
          callId := w.status.callId + 1
          calls := addOneCallObject .restored w.status.calls call } } where
  stored callId hmem := by
    show callId ≤ w.status.callId + 1
    rcases OrderedMap.mem_insert.mp hmem with rfl | hmem
    · exact hid.le
    · have hle := h.stored callId hmem
      omega
  requested callId hmem := by
    show callId ≤ w.status.callId + 1
    have hle := h.requested callId hmem
    omega
  started hstart := ⟨(h.started hstart).1, OrderedMap.mem_insert.mpr (.inr (h.started hstart).2)⟩
  stopped := h.stopped
  owner := h.owner

theorem covered_insert (h : w.Ok) {call : EccCall} (hid : call.callId = w.status.callId + 1) :
    Covered { w with
      status :=
        { w.status with
          callId := w.status.callId + 1
          calls := addOneCallObject .restored w.status.calls call } } ↔ w.Covered := by
  have hneeds : ∀ callId, Needs { w with
      status :=
        { w.status with
          callId := w.status.callId + 1
          calls := addOneCallObject .restored w.status.calls call } } callId ↔
        w.Needs callId := by
    intro callId
    unfold Needs
    refine and_congr_right fun hrequested => ?_
    show (OrderedMap.insert w.status.calls call).Mem callId ↔ _
    rw [OrderedMap.mem_insert]
    refine or_iff_right ?_
    rintro rfl
    have hle := h.requested _ hrequested
    omega
  unfold Covered
  simp only [hneeds]

/-- The dial of a new call keeps the invariant, and covers the calls iff its request
    does not find the service started but not connected. -/
theorem dialingNewCall_spec (h : w.Ok) (env : LocationEnv) (info : CallDetailInfo) :
    Ok (w.dialingNewCall env info) ∧
      (w.Covered → (Covered (w.dialingNewCall env info) ↔
        (info.callType ≠ .errCall → EccWorld.isEccOf env.toIncomingEnv info.callType true = true →
          env.isSwitchOn = true → w.isStartEccService = true → w.connected = true))) := by
  unfold dialingNewCall
  dsimp only
  cases hnew : CallBase.newCall env.toStatusEnv info (w.status.callId + 1) with
  | none =>
    have hsame : SameIds w.status { w.status with callId := w.status.callId + 1 } :=
      ⟨fun _ => Iff.rfl, by show w.status.callId ≤ w.status.callId + 1; omega⟩
    refine ⟨h.of_sameIds hsame, fun hcovered => ⟨fun _ herr => ?_, fun _ => ?_⟩⟩
    · exact absurd (StatusWorld.newCall_none hnew) herr
    · exact (covered_of_sameIds hsame).mpr hcovered
  | some c =>
    have herr : info.callType ≠ .errCall := by
      intro herr
      rw [CallBase.newCall, if_pos herr] at hnew
      cases hnew
    have hid : (dialedCall env info c).callId = w.status.callId + 1 := by
      unfold dialedCall
      dsimp only
      split_ifs <;> exact (StatusWorld.newCall_some hnew).1
    have hok := h.insert hid
    have hmem : (addOneCallObject .restored w.status.calls (dialedCall env info c)).Mem
        (dialedCall env info c).callId := OrderedMap.mem_insert.mpr (.inl rfl)
    have hstate : ∀ w' : LocationWorld, SameIds w'.status
        (w'.status.updateCallState (dialedCall env info c).callId .dialing) :=
      fun w' => SameIds.modify _ _ _
    refine ⟨(hok.start hmem).of_sameIds (hstate _), fun hcovered => ?_⟩
    dsimp only
    rw [covered_of_sameIds (hstate _),
      covered_start_iff hok ((covered_insert h hid).mpr hcovered) hmem]
    exact ⟨fun hstart _ => hstart, fun hstart => hstart herr⟩

/-- A DIALING report keeps the invariant, and covers the calls iff it meets the condition. -/
theorem dialingHandle_spec (h : w.Ok) (env : LocationEnv) (info : CallDetailInfo) :
    Ok (w.dialingHandle env info) ∧
      (w.Covered → (Covered (w.dialingHandle env info) ↔ w.DialOk env info)) := by
  have hsame := sameIds_updateDialingHandle w.status info
  unfold dialingHandle DialOk
  by_cases hindex : 0 < info.index
  · rw [if_pos hindex]
    rcases hupdate : updateDialingHandle w.status info with ⟨_ | _, s⟩
    · rw [hupdate] at hsame
      have hspec := dialingNewCall_spec (h.of_sameIds hsame) env info
      refine ⟨hspec.1, fun hcovered => ?_⟩
      rw [hspec.2 ((covered_of_sameIds hsame).mpr hcovered)]
      exact ⟨fun hstart _ => hstart, fun hstart => hstart fun _ => rfl⟩
    · rw [hupdate] at hsame
      have hall := hsame.trans (sameIds_updateDialingCallInfo env s info)
      refine ⟨h.of_sameIds hall, fun hcovered => ⟨fun _ hfalse => ?_, fun _ => ?_⟩⟩
      · exact absurd (hfalse hindex) (by simp)
      · exact (covered_of_sameIds hall).mpr hcovered
  · rw [if_neg hindex]
    have hspec := dialingNewCall_spec h env info
    refine ⟨hspec.1, fun hcovered => ?_⟩
    rw [hspec.2 hcovered]
    exact ⟨fun hstart _ => hstart, fun hstart => hstart fun hpos => absurd hpos hindex⟩

/-! ## The end of a call -/

theorem Ok.redialed (h : w.Ok) (env : LocationEnv) (info : CallDetailInfo) :
    Ok (w.redialed env info) := by
  unfold LocationWorld.redialed
  split_ifs
  · exact (dialingHandle_spec h env _).1
  · exact h

/-- The state after the end of the call: the service stops if it was started for it. -/
theorem ended_spec (h : w.Ok) {s : EccWorld} (hs : SameIds w.status s) (callId : ℤ) :
    Ok (({ w with status := { s with calls := s.calls.erase callId } } :
        LocationWorld).stopEccService callId) ∧
      (Covered (({ w with status := { s with calls := s.calls.erase callId } } :
        LocationWorld).stopEccService callId) ↔ w.EndOk callId) := by
  have hmem : ∀ other, (s.calls.erase callId).Mem other ↔
      other ≠ callId ∧ w.status.calls.Mem other := by
    intro other
    rw [OrderedMap.mem_erase, hs.mem]
  have hstored : ∀ other, (s.calls.erase callId).Mem other → other ≤ s.callId :=
    fun other ho => (h.stored other ((hmem other).mp ho).2).trans hs.le
  have hrequested : ∀ other ∈ w.requested, other ≤ s.callId :=
    fun other ho => (h.requested other ho).trans hs.le
  have hnone : (∃ other, other ∈ w.requested ∧ (s.calls.erase callId).Mem other) ↔
      ¬ ∀ other ∈ w.requested, w.status.calls.Mem other → other = callId := by
    push Not
    refine exists_congr fun other => and_congr_right fun _ => ?_
    rw [hmem, and_comm]
  have hconnected : w.connected = true → w.isStartEccService = true := by
    intro hc
    by_contra hstart
    rw [(h.stopped (by simpa using hstart)).2] at hc
    cases hc
  unfold stopEccService EndOk
  dsimp only
  split_ifs with hcallback hnow
  · -- the service is not started
    have hstart : w.isStartEccService = false := by
      by_contra hstart
      rw [(h.started (by simpa using hstart)).1] at hcallback
      cases hcallback
    have hfalse := (h.stopped hstart).2
    refine ⟨⟨hstored, hrequested, fun hs => absurd hs (by simp [hstart]), h.stopped, h.owner⟩, ?_⟩
    unfold Covered Needs
    dsimp only
    rw [hnone, hfalse]
    simp
  · -- it was started for another call, which is stored still
    refine ⟨⟨hstored, hrequested, fun hs => ⟨(h.started hs).1, ?_⟩, h.stopped, h.owner⟩, ?_⟩
    · exact (hmem _).mpr ⟨hnow, (h.started hs).2⟩
    · unfold Covered Needs
      dsimp only
      by_cases hc : w.connected = true
      · have howner : ∃ other, other ∈ w.requested ∧ (s.calls.erase callId).Mem other :=
          ⟨w.nowCallId, h.owner hc, (hmem _).mpr ⟨hnow, (h.started (hconnected hc)).2⟩⟩
        simp [hc, hnow, howner]
      · rw [hnone]
        simp [hc]
  · have hnow : w.nowCallId = callId := by simpa using hnow
    refine ⟨⟨hstored, hrequested, fun hs => (nomatch hs), fun _ => ⟨rfl, rfl⟩,
      fun hc => (nomatch hc)⟩, ?_⟩
    unfold Covered Needs
    dsimp only
    rw [hnone]
    simp [hnow]

/-- A DISCONNECTED report keeps the invariant, and leaves the calls covered iff it
    meets the condition. -/
theorem disconnectedHandle_spec (h : w.Ok) (env : LocationEnv) (info : CallDetailInfo) :
    Ok (w.disconnectedHandle env info) ∧
      (w.Covered → (Covered (w.disconnectedHandle env info) ↔
        w.StepOk (.disconnected env info))) := by
  have hok := h.redialed env info
  unfold disconnectedHandle StepOk
  dsimp only
  cases hcall : (w.redialed env info).status.getOneCallObjectByKey info with
  | some call =>
    have hspec := ended_spec hok
      (sameIds_refreshCallIfNecessary env.toIncomingEnv info (mem_of_key hcall)) call.callId
    exact ⟨hspec.1, fun _ => hspec.2⟩
  | none =>
    refine ⟨hok, fun hcovered => ?_⟩
    dsimp only
    unfold LocationWorld.redialed at hcall ⊢
    split_ifs at hcall ⊢ with hredial
    · rw [(dialingHandle_spec h env _).2 hcovered]
      exact ⟨fun hdial _ => hdial, fun hdial => hdial hredial.2⟩
    · have hinit : ¬ (w.status.getOneCallObjectByIndex StatusWorld.initIndex).isSome = true :=
        fun hinit => hredial ⟨by simp [hcall], hinit⟩
      exact ⟨fun _ hsome => absurd hsome hinit, fun _ => hcovered⟩

/-! ## Runs -/

open Run

theorem Ok.step (h : w.Ok) (op : LocationOp) : Ok (w.step op) := by
  cases op with
  | dialing env info => exact (dialingHandle_spec h env info).1
  | disconnected env info => exact (disconnectedHandle_spec h env info).1

theorem covered_step_iff (h : w.Ok) (hcovered : w.Covered) (op : LocationOp) :
    Covered (w.step op) ↔ w.StepOk op := by
  cases op with
  | dialing env info => exact (dialingHandle_spec h env info).2 hcovered
  | disconnected env info => exact (disconnectedHandle_spec h env info).2 hcovered

/-- **Emergency location.** In a run of dials, DIALING reports and DISCONNECTED reports, the
    service is connected exactly while a call needs it iff no step ends the call it was started
    for while another call needs it, and no request comes while it is started but not connected. -/
theorem eccService_covers_iff (ops : List LocationOp) :
    StatesMeet step Covered init ops ↔ StepsMeet step StepOk init ops :=
  statesMeet_iff_stepsMeet_of_invariant (fun _ op h => Ok.step h op)
    (fun _ op h hcovered => covered_step_iff h hcovered op) ops Ok.init
    ⟨fun hc => (nomatch hc), fun ⟨_, hmem, _⟩ => absurd hmem List.not_mem_nil⟩

/-- An emergency call is dialed, with the switch on. -/
private def emergencyDial : LocationEnv where
  toStatusEnv := modemEnv
  hasCallStatusManager := true
  isDevProvisioned := true
  isTransferCall := false
  isSinkRole := false
  isConnected := false
  isDialEcc := true
  isSwitchOn := true
  connects := true

/-- Two emergency calls are dialed, each is reported with its index, and the first one ends. -/
private def twoEmergencyCalls : List LocationOp :=
  [.dialing emergencyDial (slotCall .cs 0 .dialing 0),
    .dialing emergencyDial (slotCall .cs 1 .dialing 0),
    .dialing emergencyDial (slotCall .cs 0 .dialing 0),
    .dialing emergencyDial (slotCall .cs 2 .dialing 0),
    .disconnected emergencyDial (slotCall .cs 1 .disconnected 0)]

/-- **The second emergency call loses the service.** The service was started for the
    first one, whose end disconnects it. -/
theorem second_emergencyCall_uncovered :
    (run step init twoEmergencyCalls).connected = false ∧
      (run step init twoEmergencyCalls).Needs 2 ∧
      ¬ StatesMeet step Covered init twoEmergencyCalls := by
  have hconnected : (run step init twoEmergencyCalls).connected = false := by decide +kernel
  have hneeds : (run step init twoEmergencyCalls).Needs 2 := by
    unfold Needs
    decide +kernel
  refine ⟨hconnected, hneeds, fun h => ?_⟩
  have htrue := h.last.mpr ⟨2, hneeds⟩
  rw [hconnected] at htrue
  cases htrue

end LocationWorld

end CallManager.EmergencyLocation
