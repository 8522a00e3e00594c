import CallManager.AnswerArbitration
import CallManager.AutoUnhold

/-!
# A request to answer a call

`AnswerRequest` serves the request of the user to answer a ringing call. A VoIP
call is answered at once. For a carrier call the request first looks whether video
is in the way: a video answer beside any call that is connecting or connected, or a
voice answer beside a video call, hangs up the other calls. Otherwise the mode of
the two slots decides: one slot at a time hangs up the calls of the other slot, DSDA
goes through `HoldOrDisconnectedCall`, and a device with one slot answers at once.

A request whose answer has to wait for other calls leaves a mark, the auto-answer
state of the call, which the status manager looks for when a call has ended. So
each request should either send the answer or leave the mark.

Results:
* `answerRequest_settled_iff`: a request sends the answer and takes the mark away,
  or leaves the mark and no answer, with one command at most to every other call,
  iff no mark is left from an earlier request where the answer is sent at once, and
  no two turns of `HoldOrDisconnectedCall` conflict where it is taken.

**Deviation.** The paths that answer at once outside `HoldOrDisconnectedCall` do not
reset the mark.
-/

namespace CallManager

namespace CallRequestProcess

open LiveWorld AutoUnhold

/-! ## Model -/

/-- What a request reads outside the store: the mode of the device, `GetCrsType` of
    each call, and what `AnswerCall` of the call returns. -/
structure AnswerEnv where
  dsdsMode : DsdsMode
  crsType : ℤ → ℤ
  answerCall : ErrorCode

/-- The state after a request, the static `g_flagForDsda`, and whether
    `NotifyIncomingCallAnswered` is called. -/
structure AnswerOutcome where
  world : LiveWorld
  flagForDsda : Bool
  notified : Bool

variable (env : AnswerEnv) (w : LiveWorld) (flagForDsda : Bool)

/-- `GetOneCarrierCallObject`: the last call in the running state that is not a VoIP call
    (call_object_manager.cpp:695-705). -/
def getOneCarrierCallObject (callState : CallRunningState) : Option LiveCall :=
  w.calls.entries.reverse.find? fun it => it.callRunningState = callState ∧ it.callType ≠ .voip

/-- `GetCallNum(callState, false)` (call_object_manager.cpp:864-880). -/
def getCallNumWithoutVoip (callState : TelCallState) : ℕ :=
  (w.calls.entries.filter fun it => it.callState = callState ∧ it.callType ≠ .voip).length

/-- `HasConnectingCall(false)` (call_request_process.cpp:196-204). -/
def HasConnectingCall : Prop :=
  ¬ (getCallNumWithoutVoip w .dialing = 0 ∧ getCallNumWithoutVoip w .alerting = 0)

instance : Decidable (HasConnectingCall w) := inferInstanceAs (Decidable (¬ _))

/-- `HasActivedCall(false)` (call_request_process.cpp:206-215). -/
def HasActivedCall : Prop :=
  ¬ (getCallNumWithoutVoip w .active = 0 ∧ getCallNumWithoutVoip w .holding = 0 ∧
    getCallNumWithoutVoip w .answered = 0)

instance : Decidable (HasActivedCall w) := inferInstanceAs (Decidable (¬ _))

/-- The call of `GetOneCarrierCallObject` has the id. -/
def IsCarrierCallIn (callState : CallRunningState) (callId : ℤ) : Prop :=
  (getOneCarrierCallObject w callState).map (·.callId) = some callId

instance (callState : CallRunningState) (callId : ℤ) :
    Decidable (IsCarrierCallIn w callState callId) := inferInstanceAs (Decidable (_ = _))

/-- `NeedAnswerVTAndEndActiveVO` (call_request_process.cpp:217-234). -/
def NeedAnswerVTAndEndActiveVO (callId videoState : ℤ) : Prop :=
  ¬ (IsCarrierCallIn w .active callId ∨ IsCarrierCallIn w .hold callId) ∧
    (HasConnectingCall w ∨ HasActivedCall w) ∧ videoState ≠ VideoStateType.voice.number

instance (callId videoState : ℤ) : Decidable (NeedAnswerVTAndEndActiveVO w callId videoState) :=
  inferInstanceAs (Decidable (_ ∧ _))

/-- The call is a video call other than the one with the id. -/
def IsOtherVideoCall (callId : ℤ) (call : LiveCall) : Prop :=
  call.videoState ≠ .voice ∧ call.callId ≠ callId

instance (callId : ℤ) (call : LiveCall) : Decidable (IsOtherVideoCall callId call) :=
  inferInstanceAs (Decidable (_ ∧ _))

/-- `NeedAnswerVOAndEndActiveVT` (call_request_process.cpp:236-253). -/
def NeedAnswerVOAndEndActiveVT (callId videoState : ℤ) : Prop :=
  videoState = VideoStateType.voice.number ∧ HasActivedCall w ∧
    ((∃ call ∈ getOneCarrierCallObject w .active, IsOtherVideoCall callId call) ∨
      ∃ call ∈ getOneCarrierCallObject w .hold, IsOtherVideoCall callId call)

instance (callId videoState : ℤ) : Decidable (NeedAnswerVOAndEndActiveVT w callId videoState) :=
  inferInstanceAs (Decidable (_ ∧ _))

/-- The calls that `DisconnectOtherCallForVideoCall` hangs up. -/
def IsInTheWayOfVideo (callId : ℤ) (call : LiveCall) : Prop :=
  call.callId ≠ callId ∧ (call.callRunningState = .active ∨ call.callRunningState = .dialing ∨
    call.callRunningState = .hold)

instance (callId : ℤ) (call : LiveCall) : Decidable (IsInTheWayOfVideo callId call) :=
  inferInstanceAs (Decidable (_ ∧ _))

/-- The loop of `DisconnectOtherCallForVideoCall`. -/
def videoCallLoop (callId : ℤ) : LiveWorld → List ℤ → LiveWorld
  | w, [] => w
  | w, otherCallId :: rest =>
    match w.getOneCallObject otherCallId with
    | none => videoCallLoop callId w rest
    | some call =>
      if IsInTheWayOfVideo callId call then
        videoCallLoop callId (w.send (.hangUpCall call.callId)) rest
      else videoCallLoop callId w rest

/-- `DisconnectOtherCallForVideoCall` (call_request_process.cpp:522-537). -/
def disconnectOtherCallForVideoCall (callId : ℤ) : LiveWorld :=
  videoCallLoop callId w w.getCarrierCallList

/-- `AnswerCall` of the call, and the notification if it succeeds. -/
def answerNow (callId videoState : ℤ) : AnswerOutcome where
  world := w.send (.answerCall callId videoState)
  flagForDsda := flagForDsda
  notified := env.answerCall = .telephonySuccess

/-- The loop of `DisconnectOtherSubIdCall`, with `noOtherCall`. -/
def subIdLoop (callId slotId : ℤ) : LiveWorld → Bool → List ℤ → LiveWorld × Bool
  | w, noOtherCall, [] => (w, noOtherCall)
  | w, noOtherCall, otherCallId :: rest =>
    match w.getOneCallObject otherCallId with
    | none => subIdLoop callId slotId w noOtherCall rest
    | some call =>
      if call.slotId ≠ slotId then
        subIdLoop callId slotId
          ((w.setAutoAnswerState callId true).send (.hangUpCall call.callId)) false rest
      else subIdLoop callId slotId w noOtherCall rest

/-- `DisconnectOtherSubIdCall` (call_request_process.cpp:493-520). -/
def disconnectOtherSubIdCall (callId slotId videoState : ℤ) : AnswerOutcome :=
  let callIdList := w.getCarrierCallList
  let (w, noOtherCall) :=
    if 1 < callIdList.length then subIdLoop callId slotId w true callIdList else (w, true)
  if noOtherCall then answerNow env w flagForDsda callId videoState else ⟨w, flagForDsda, false⟩

/-- The loop of `GetOtherRingingCall`. -/
def otherRingingLoop (currentCallId : ℤ) : List ℤ → Option LiveCall
  | [] => none
  | otherCallId :: rest =>
    if otherCallId = currentCallId then otherRingingLoop currentCallId rest
    else
      match w.getOneCallObject otherCallId with
      | some call =>
        if call.callRunningState = .ringing then some call
        else otherRingingLoop currentCallId rest
      | none => otherRingingLoop currentCallId rest

/-- `GetOtherRingingCall`, with the call that its id stands for
    (call_request_process.cpp:255-271). -/
def getOtherRingingCall (currentCallId : ℤ) : Option LiveCall :=
  otherRingingLoop w currentCallId w.getCarrierCallList

/-- `callCrsType`. -/
def callCrsType : ℤ := 2

/-- The end of the DSDA branch: the mark is set, and `HoldOrDisconnectedCall` answers
    or makes room. It notifies only where it finds no call on another slot. -/
def makeRoomForDsda (callId slotId videoState : ℤ) : AnswerOutcome :=
  let w := w.setAutoAnswerState callId true
  let r := holdOrDisconnectedCall w slotId callId videoState flagForDsda
  ⟨{ w.setAutoAnswerState callId r.autoAnswerState with commands := w.commands ++ r.commands },
    r.flagForDsda,
    w.isExistCallOtherSlot w.getCarrierCallList slotId && env.answerCall = .telephonySuccess⟩

/-- The DSDA branch of `AnswerRequestForDsda`. -/
def answerForDsda (callId slotId videoState : ℤ) : AnswerOutcome :=
  match getOtherRingingCall w callId with
  | none => makeRoomForDsda env w flagForDsda callId slotId videoState
  | some ringingCall =>
    if env.crsType ringingCall.callId = callCrsType then
      ⟨(w.send (.hangUpCall ringingCall.callId)).setAutoAnswerState callId true, flagForDsda, false⟩
    else makeRoomForDsda env w flagForDsda callId slotId videoState

/-- `AnswerRequestForDsda` (call_request_process.cpp:135-171). -/
def answerRequestForDsda (callId slotId videoState : ℤ) : AnswerOutcome :=
  if NeedAnswerVTAndEndActiveVO w callId videoState ∨ NeedAnswerVOAndEndActiveVT w callId videoState
  then
    ⟨(disconnectOtherCallForVideoCall w callId).setAutoAnswerState callId true, flagForDsda, false⟩
  else
    match env.dsdsMode with
    | .v3 => disconnectOtherSubIdCall env w flagForDsda callId slotId videoState
    | .v5Dsda | .v5Tdm => answerForDsda env w flagForDsda callId slotId videoState
    | .v2 => answerNow env w flagForDsda callId videoState

/-- `SetAnswerVideoState` of a stored call. -/
def setAnswerVideoState (callId videoState : ℤ) : LiveWorld :=
  w.setFlag callId (fun it => { it with answerVideoState := videoState }) fun _ => rfl

/-- `AnswerRequest` (call_request_process.cpp:115-133). -/
def answerRequest (callId videoState : ℤ) : AnswerOutcome :=
  match w.getOneCallObject callId with
  | none => ⟨w, flagForDsda, false⟩
  | some call =>
    let w := setAnswerVideoState w callId videoState
    if call.callType = .voip then answerNow env w flagForDsda callId videoState
    else answerRequestForDsda env w flagForDsda callId call.slotId videoState

/-! ## Specification -/

/-- The call with the answer video state of a request and with or without the mark. -/
def mark (callId videoState : ℤ) (auto : Bool) : LiveWorld :=
  w.setFlag callId
    (fun it => { it with answerVideoState := videoState, autoAnswerState := auto }) fun _ => rfl

/-- The request is settled in `w'`: the answer is sent once and the call has no mark,
    or no answer is sent and it has one; the other calls get one command at most, and
    nothing else is changed. -/
def Settled (callId videoState : ℤ) (w' : LiveWorld) : Prop :=
  ∃ (answered : Bool) (sent : List CallCommand),
    w' = { mark w callId videoState !answered with commands := w.commands ++ sent } ∧
      SendsOnce callId sent ∧ sent.countP (IsAnswerTo callId) = answered.toNat

/-- Another carrier call rings with a video ring back tone. -/
def CrsRings (callId : ℤ) : Prop :=
  ∃ ringingCall ∈ w.carrierCalls.find? fun it =>
      it.callId ≠ callId ∧ it.callRunningState = .ringing,
    env.crsType ringingCall.callId = callCrsType

/-- No mark is left where the answer is sent at once, and no two turns conflict where
    `HoldOrDisconnectedCall` makes room for it. -/
def MaySettle (call : LiveCall) (videoState : ℤ) : Prop :=
  if call.callType = .voip then call.autoAnswerState = false
  else if NeedAnswerVTAndEndActiveVO w call.callId videoState ∨
      NeedAnswerVOAndEndActiveVT w call.callId videoState then True
  else
    match env.dsdsMode with
    | .v2 => call.autoAnswerState = false
    | .v3 => OnOneSlot w call.slotId → call.autoAnswerState = false
    | .v5Dsda | .v5Tdm =>
      CrsRings env w call.callId ∨ NoConflict w { call with autoAnswerState := true } call.slotId

/-! ## The flags of the call -/

variable {env w flagForDsda}

section SetFlag

variable {callId : ℤ} {f g : LiveCall → LiveCall} (hf : ∀ it, (f it).toCallBase = it.toCallBase)
  (hg : ∀ it, (g it).toCallBase = it.toCallBase)

include hf in
/-- What the store holds for an entry. -/
theorem toCallBase_ite (it : LiveCall) :
    (if it.callId = callId then f it else it).toCallBase = it.toCallBase := by
  split_ifs
  · exact hf it
  · rfl

theorem setFlag_setFlag :
    (w.setFlag callId f hf).setFlag callId g hg =
      w.setFlag callId (fun it => g (f it)) fun it => (hg _).trans (hf it) := by
  have hentry : ∀ it : LiveCall,
      (if (if it.callId = callId then f it else it).callId = callId
        then g (if it.callId = callId then f it else it)
        else if it.callId = callId then f it else it) =
        if it.callId = callId then g (f it) else it := by
    intro it
    have hid : (if it.callId = callId then f it else it).callId = it.callId :=
      congrArg CallBase.callId (toCallBase_ite hf it)
    rw [hid]
    split_ifs <;> rfl
  have hentries : ((w.setFlag callId f hf).setFlag callId g hg).calls.entries =
      (w.setFlag callId (fun it => g (f it)) fun it => (hg _).trans (hf it)).calls.entries := by
    show List.map _ (List.map _ _) = List.map _ _
    rw [List.map_map]
    exact List.map_congr_left fun it _ => hentry it
  show LiveWorld.mk _ _ _ _ = LiveWorld.mk _ _ _ _
  congr 1
  exact OrderedMap.ext hentries

theorem getOneCallObject_setFlag (id : ℤ) :
    (w.setFlag callId f hf).getOneCallObject id =
      (w.getOneCallObject id).map fun it => if it.callId = callId then f it else it := by
  have hlookup := OrderedMap.lookup_modify w.calls callId
    (fun it => congrArg CallBase.callId (hf it)) id
  refine hlookup.trans ?_
  cases hfind : w.calls.lookup id with
  | none =>
    rw [getOneCallObject, hfind]
    split_ifs <;> rfl
  | some it =>
    have hid : it.callId = id := (OrderedMap.lookup_spec hfind).2
    rw [getOneCallObject, hfind, Option.map_some, Option.map_some, hid]
    split_ifs <;> rfl

/-- A flag does not change which call a search from the back finds. -/
theorem find?_reverse_setFlag {p : LiveCall → Prop} [DecidablePred p]
    (hp : ∀ it it' : LiveCall, it'.toCallBase = it.toCallBase → (p it' ↔ p it)) :
    ((w.setFlag callId f hf).calls.entries.reverse.find? (p ·)) =
      (w.calls.entries.reverse.find? (p ·)).map fun it =>
        if it.callId = callId then f it else it := by
  show (List.map _ w.calls.entries).reverse.find? _ = _
  rw [← List.map_reverse, List.find?_map]
  refine congrArg (Option.map _) (congrArg (List.find? · _) (funext fun it => ?_))
  exact decide_eq_decide.mpr (hp _ _ (toCallBase_ite hf it))

theorem carrierCalls_setFlag :
    (w.setFlag callId f hf).carrierCalls =
      w.carrierCalls.map fun it => if it.callId = callId then f it else it := by
  unfold carrierCalls
  show List.filter _ (List.map _ _) = _
  rw [List.filter_map]
  refine congrArg (List.map _) (List.filter_congr fun it _ => ?_)
  exact decide_eq_decide.mpr (isCarrier_congr (toCallBase_ite hf it))

/-! ### What a request asks does not depend on the flags of the call -/

theorem hasConnectingCall_setFlag :
    HasConnectingCall (w.setFlag callId f hf) ↔ HasConnectingCall w := by
  have hnum := fun callState => length_filter_setFlag (w := w) callId f hf
    (p := fun it => it.callState = callState ∧ it.callType ≠ .voip) fun it => by rw [hf it]
  unfold HasConnectingCall getCallNumWithoutVoip
  rw [hnum, hnum]

theorem hasActivedCall_setFlag :
    HasActivedCall (w.setFlag callId f hf) ↔ HasActivedCall w := by
  have hnum := fun callState => length_filter_setFlag (w := w) callId f hf
    (p := fun it => it.callState = callState ∧ it.callType ≠ .voip) fun it => by rw [hf it]
  unfold HasActivedCall getCallNumWithoutVoip
  rw [hnum, hnum, hnum]

theorem getOneCarrierCallObject_setFlag (callState : CallRunningState) :
    getOneCarrierCallObject (w.setFlag callId f hf) callState =
      (getOneCarrierCallObject w callState).map fun it =>
        if it.callId = callId then f it else it :=
  find?_reverse_setFlag hf fun it it' h => by rw [h]

theorem isCarrierCallIn_setFlag (callState : CallRunningState) (id : ℤ) :
    IsCarrierCallIn (w.setFlag callId f hf) callState id ↔ IsCarrierCallIn w callState id := by
  unfold IsCarrierCallIn
  rw [getOneCarrierCallObject_setFlag, Option.map_map]
  have hid : (fun it : LiveCall => it.callId) ∘ (fun it => if it.callId = callId then f it else it) =
      fun it : LiveCall => it.callId :=
    funext fun it => congrArg CallBase.callId (toCallBase_ite hf it)
  exact iff_of_eq (congrArg (fun g => Option.map g _ = _) hid)

theorem exists_isOtherVideoCall_setFlag (callState : CallRunningState) (id : ℤ) :
    (∃ call ∈ getOneCarrierCallObject (w.setFlag callId f hf) callState,
        IsOtherVideoCall id call) ↔
      ∃ call ∈ getOneCarrierCallObject w callState, IsOtherVideoCall id call := by
  have hvideo : ∀ it : LiveCall,
      IsOtherVideoCall id (if it.callId = callId then f it else it) ↔ IsOtherVideoCall id it := by
    intro it
    unfold IsOtherVideoCall
    rw [toCallBase_ite hf it]
  rw [getOneCarrierCallObject_setFlag]
  cases getOneCarrierCallObject w callState with
  | none => rfl
  | some it => simpa using hvideo it

theorem videoInTheWay_setFlag (id videoState : ℤ) :
    NeedAnswerVTAndEndActiveVO (w.setFlag callId f hf) id videoState ∨
        NeedAnswerVOAndEndActiveVT (w.setFlag callId f hf) id videoState ↔
      NeedAnswerVTAndEndActiveVO w id videoState ∨ NeedAnswerVOAndEndActiveVT w id videoState := by
  unfold NeedAnswerVTAndEndActiveVO NeedAnswerVOAndEndActiveVT
  rw [hasConnectingCall_setFlag, hasActivedCall_setFlag, isCarrierCallIn_setFlag,
    isCarrierCallIn_setFlag, exists_isOtherVideoCall_setFlag, exists_isOtherVideoCall_setFlag]

theorem onOneSlot_setFlag (slotId : ℤ) :
    OnOneSlot (w.setFlag callId f hf) slotId ↔ OnOneSlot w slotId := by
  have hslot : ∀ it : LiveCall,
      (if it.callId = callId then f it else it).slotId = it.slotId :=
    fun it => congrArg CallBase.slotId (toCallBase_ite hf it)
  unfold OnOneSlot
  rw [carrierCalls_setFlag, List.length_map, List.forall_mem_map]
  exact or_congr Iff.rfl (forall₂_congr fun it _ => by rw [hslot])

theorem crsRings_setFlag (id : ℤ) :
    CrsRings env (w.setFlag callId f hf) id ↔ CrsRings env w id := by
  have hid : ∀ it : LiveCall, (if it.callId = callId then f it else it).callId = it.callId :=
    fun it => congrArg CallBase.callId (toCallBase_ite hf it)
  have hfind : (w.setFlag callId f hf).carrierCalls.find?
        (fun it => it.callId ≠ id ∧ it.callRunningState = .ringing) =
      (w.carrierCalls.find? fun it => it.callId ≠ id ∧ it.callRunningState = .ringing).map
        fun it => if it.callId = callId then f it else it := by
    rw [carrierCalls_setFlag, List.find?_map]
    refine congrArg (Option.map _) (congrArg (List.find? · _) (funext fun it => ?_))
    rw [Function.comp_apply, toCallBase_ite hf it]
  unfold CrsRings
  rw [hfind]
  cases w.carrierCalls.find? fun it => it.callId ≠ id ∧ it.callRunningState = .ringing with
  | none => rfl
  | some it => simp [hid it]

/-- The flags of the incoming call do not make its turns conflict. -/
theorem noConflict_setFlag (incomingCall : LiveCall) (slotId : ℤ) :
    NoConflict (w.setFlag incomingCall.callId f hf) incomingCall slotId ↔
      NoConflict w incomingCall slotId := by
  have hhold : ((w.setFlag incomingCall.callId f hf).getOneCallObjectByState .hold).isSome =
      (w.getOneCallObjectByState .hold).isSome := by
    have hfind := @find?_reverse_setFlag w incomingCall.callId f hf
      (fun it => it.callRunningState = .hold) _ fun it it' h => by rw [h]
    unfold getOneCallObjectByState StoredCalls.getOneCallObject
    rw [hfind, Option.isSome_map]
  have hother : otherCalls (w.setFlag incomingCall.callId f hf) incomingCall =
      otherCalls w incomingCall := by
    unfold otherCalls
    rw [carrierCalls_setFlag, List.filter_map]
    have hfilter : w.carrierCalls.filter ((fun call => decide (call.callId ≠ incomingCall.callId)) ∘
        fun it => if it.callId = incomingCall.callId then f it else it) =
        w.carrierCalls.filter fun call => call.callId ≠ incomingCall.callId := by
      refine List.filter_congr fun it _ => ?_
      rw [Function.comp_apply, toCallBase_ite hf it]
    rw [hfilter]
    conv_rhs => rw [← List.map_id (w.carrierCalls.filter _)]
    refine List.map_congr_left fun it hit => ?_
    exact if_neg (by simpa using (List.mem_filter.mp hit).2)
  unfold NoConflict
  rw [onOneSlot_setFlag, hother]
  refine or_congr Iff.rfl (iff_of_eq (congrArg (List.Pairwise · _) ?_))
  funext first second
  unfold Conflict HangsUpHeld AnswersAtOnce AnswersIfAuto ManyWaiting IsLeftAside
  simp only [getCallNum_setFlag, getCurrentCallNum_setFlag, hhold]

end SetFlag

/-! ## What the loops send -/

theorem videoCallLoop_eq (callId : ℤ) {l : List LiveCall}
    (hl : ∀ call ∈ l, call ∈ w.calls.entries) :
    videoCallLoop callId w (l.map (·.callId)) =
      { w with
        commands := w.commands ++
          (l.filter (IsInTheWayOfVideo callId ·)).map (.hangUpCall ·.callId) } := by
  induction l generalizing w with
  | nil => simp [videoCallLoop]
  | cons call rest ih =>
    rw [List.map_cons, videoCallLoop, getOneCallObject_of_mem (hl call List.mem_cons_self)]
    dsimp only
    have hrest : ∀ c ∈ rest, c ∈ w.calls.entries := fun c hc => hl c (List.mem_cons_of_mem _ hc)
    by_cases hin : IsInTheWayOfVideo callId call
    · rw [if_pos hin, ih (w := w.send _) hrest, List.filter_cons_of_pos (by simpa using hin)]
      simp [send]
    · rw [if_neg hin, ih hrest, List.filter_cons_of_neg (by simpa using hin)]

theorem setAutoAnswerState_setAutoAnswerState (callId : ℤ) (flag flag' : Bool) :
    (w.setAutoAnswerState callId flag).setAutoAnswerState callId flag' =
      w.setAutoAnswerState callId flag' :=
  setFlag_setFlag _ _

/-- Once a call of another slot is found, all turns mark the call and hang up. -/
theorem subIdLoop_eq (callId slotId : ℤ) (noOtherCall : Bool) {l : List LiveCall}
    (hl : ∀ call ∈ l, ∃ it, w.getOneCallObject call.callId = some it ∧
      it.toCallBase = call.toCallBase) :
    subIdLoop callId slotId w noOtherCall (l.map (·.callId)) =
      if l.all (·.slotId = slotId) then (w, noOtherCall)
      else
        ({ w.setAutoAnswerState callId true with
            commands := w.commands ++
              (l.filter (·.slotId ≠ slotId)).map (.hangUpCall ·.callId) }, false) := by
  induction l generalizing w noOtherCall with
  | nil => simp [subIdLoop]
  | cons call rest ih =>
    obtain ⟨it, hfind, hit⟩ := hl call List.mem_cons_self
    have hrest := fun c hc => hl c (List.mem_cons_of_mem _ hc)
    rw [List.map_cons, subIdLoop, hfind]
    dsimp only
    rw [hit]
    by_cases hslot : call.slotId = slotId
    · rw [if_neg (not_not_intro hslot), ih noOtherCall hrest, List.all_cons,
        List.filter_cons_of_neg (by simpa using hslot)]
      simp [hslot]
    · have hsent : ∀ c ∈ rest, ∃ it',
          ((w.setAutoAnswerState callId true).send (.hangUpCall call.callId)).getOneCallObject
              c.callId = some it' ∧ it'.toCallBase = c.toCallBase := by
        intro c hc
        obtain ⟨it', hfind', hit'⟩ := hrest c hc
        have hmap := @getOneCallObject_setFlag w callId
          (fun it => { it with autoAnswerState := true }) (fun _ => rfl) c.callId
        rw [hfind'] at hmap
        exact ⟨_, hmap, (@toCallBase_ite callId
          (fun it => { it with autoAnswerState := true }) (fun _ => rfl) it').trans hit'⟩
      have hfilter : (call :: rest).filter (·.slotId ≠ slotId) =
          call :: rest.filter (·.slotId ≠ slotId) := List.filter_cons_of_pos (by simpa using hslot)
      have hall : ((call :: rest).all (·.slotId = slotId)) = false := by simp [hslot]
      rw [if_pos hslot, ih (w := (w.setAutoAnswerState callId true).send _) false hsent, hall,
        hfilter, if_neg Bool.false_ne_true]
      split_ifs with hnone
      · have hempty : rest.filter (·.slotId ≠ slotId) = [] := by
          rw [List.filter_eq_nil_iff]
          intro c hc
          simpa using List.all_eq_true.mp hnone c hc
        rw [hempty]
        rfl
      · have hmark := setAutoAnswerState_setAutoAnswerState (w := w) callId true true
        refine Prod.ext ?_ rfl
        show LiveWorld.mk _ _ _ _ = LiveWorld.mk _ _ _ _
        congr 1
        · show ((w.setAutoAnswerState callId true).setAutoAnswerState callId true).calls = _
          rw [hmark]
        · show (w.commands ++ [_]) ++ _ = w.commands ++ _
          rw [List.append_assoc]
          rfl

theorem otherRingingLoop_eq (currentCallId : ℤ) {l : List LiveCall}
    (hl : ∀ call ∈ l, call ∈ w.calls.entries) :
    otherRingingLoop w currentCallId (l.map (·.callId)) =
      l.find? fun it => it.callId ≠ currentCallId ∧ it.callRunningState = .ringing := by
  induction l with
  | nil => rfl
  | cons call rest ih =>
    have hrest := ih fun c hc => hl c (List.mem_cons_of_mem _ hc)
    rw [List.map_cons, otherRingingLoop, getOneCallObject_of_mem (hl call List.mem_cons_self),
      hrest]
    dsimp only
    by_cases hid : call.callId = currentCallId
    · rw [if_pos hid, List.find?_cons_of_neg (by simp [hid])]
    · rw [if_neg hid]
      split_ifs with hring
      · rw [List.find?_cons_of_pos (by simpa using ⟨hid, hring⟩)]
      · rw [List.find?_cons_of_neg (by simp [hring])]

/-- The loop of `HoldOrDisconnectedCall`, as the turns of the other calls. -/
theorem holdOrDisconnectedCall_eq {slotId videoState : ℤ} {call : LiveCall}
    (hcall : w.getOneCallObject call.callId = some call) :
    holdOrDisconnectedCall w slotId call.callId videoState flagForDsda =
      let r : AnswerRun := ⟨call.autoAnswerState, false, flagForDsda, []⟩
      if w.isExistCallOtherSlot w.getCarrierCallList slotId then r.answerCall call videoState
      else runTurns w call slotId videoState (otherCalls w call) r := by
  rw [holdOrDisconnectedCall, hcall]
  refine if_congr Iff.rfl rfl ?_
  exact answerLoop_eq videoState _ _ (fun it hit => (mem_carrierCalls.mp hit).1) _

/-- A mark stays until the answer is sent. -/
theorem runTurns_auto (incomingCall : LiveCall) (slotId videoState : ℤ) {l : List LiveCall}
    (hl : ∀ call ∈ l, call ∈ w.carrierCalls) (r : AnswerRun) :
    (runTurns w incomingCall slotId videoState l r).autoAnswerState = true ↔
      r.autoAnswerState = true ∧
        stepsTaken (AnswersAtOnce w slotId) (AnswersIfAuto w) r.autoAnswerState l = 0 := by
  induction l generalizing r with
  | nil => simp [runTurns, stepsTaken]
  | cons call rest ih =>
    have heffect := turn_effect incomingCall slotId videoState r (hl call List.mem_cons_self)
    have hrest := fun r => ih (fun c hc => hl c (List.mem_cons_of_mem _ hc)) r
    have hauto := heffect.auto
    rw [runTurns, List.foldl_cons, ← runTurns, hrest, hauto, stepsTaken]
    split_ifs with hanswers
    · exact iff_of_false (fun h => h.1.2 hanswers) fun h => by simpa using h.2
    · rw [and_iff_left hanswers]
      refine and_congr_right fun hmark => ?_
      rw [hauto.mpr ⟨hmark, hanswers⟩, hmark]

/-! ## The whole request -/

/-- One hang-up of each of some other calls is what a request may send. -/
theorem sendsOnce_hangUps {callId : ℤ} {l : List LiveCall} (hnodup : (l.map (·.callId)).Nodup)
    (hother : ∀ call ∈ l, call.callId ≠ callId) :
    SendsOnce callId (l.map (.hangUpCall ·.callId)) ∧
      (l.map (CallCommand.hangUpCall ·.callId)).countP (IsAnswerTo callId) = 0 := by
  have hanswer : (l.map (CallCommand.hangUpCall ·.callId)).countP (IsAnswerTo callId) = 0 := by
    rw [List.countP_map]
    exact List.countP_eq_zero.mpr (by simp [IsAnswerTo])
  have hclears : ∀ id, (l.map (CallCommand.hangUpCall ·.callId)).countP (ClearsCall id) =
      (l.map (·.callId)).count id := by
    intro id
    rw [List.countP_map, List.count_eq_countP, List.countP_map]
    exact List.countP_congr fun call _ => by simp [ClearsCall]
  refine ⟨⟨by omega, ?_, ?_, fun id => ?_⟩, hanswer⟩
  · rw [hclears, List.count_eq_zero]
    intro hmem
    obtain ⟨call, hcall, hid⟩ := List.mem_map.mp hmem
    exact hother call hcall hid
  · have hhold : (l.map (CallCommand.hangUpCall ·.callId)).countP IsHold = 0 := by
      rw [List.countP_map]
      exact List.countP_eq_zero.mpr (by simp [IsHold])
    omega
  · rw [hclears]
    exact List.nodup_iff_count_le_one.mp hnodup id

variable {callId videoState : ℤ} {call : LiveCall}

/-- The mark is set after the answer video state. -/
theorem setAutoAnswerState_eq_mark (auto : Bool) :
    (setAnswerVideoState w callId videoState).setAutoAnswerState callId auto =
      mark w callId videoState auto :=
  setFlag_setFlag _ _

theorem setAutoAnswerState_mark (auto auto' : Bool) :
    (mark w callId videoState auto).setAutoAnswerState callId auto' =
      mark w callId videoState auto' :=
  setFlag_setFlag _ _

theorem getOneCallObject_mark (hcall : w.getOneCallObject call.callId = some call) (auto : Bool) :
    (mark w call.callId videoState auto).getOneCallObject call.callId =
      some { call with answerVideoState := videoState, autoAnswerState := auto } := by
  have hmap := @getOneCallObject_setFlag w call.callId
    (fun it => { it with answerVideoState := videoState, autoAnswerState := auto })
    (fun _ => rfl) call.callId
  rw [hcall, Option.map_some, if_pos rfl] at hmap
  exact hmap

/-- A call without a mark is as if it had been taken away. -/
theorem setAnswerVideoState_eq_mark (hcall : w.getOneCallObject call.callId = some call) :
    setAnswerVideoState w call.callId videoState =
      mark w call.callId videoState call.autoAnswerState := by
  have hentries : (setAnswerVideoState w call.callId videoState).calls.entries =
      (mark w call.callId videoState call.autoAnswerState).calls.entries := by
    show List.map _ _ = List.map _ _
    refine List.map_congr_left fun it hit => ?_
    split_ifs with hid
    · obtain rfl := OrderedMap.eq_of_key_eq hit (getOneCallObject_spec hcall).1 hid
      rfl
    · rfl
  show LiveWorld.mk _ _ _ _ = LiveWorld.mk _ _ _ _
  congr 1
  exact OrderedMap.ext hentries

/-- What a request leaves decides whether it is settled. -/
theorem settled_iff (hcall : w.getOneCallObject call.callId = some call) {auto : Bool}
    {sent : List CallCommand} :
    Settled w call.callId videoState
        { mark w call.callId videoState auto with commands := w.commands ++ sent } ↔
      SendsOnce call.callId sent ∧ sent.countP (IsAnswerTo call.callId) = (!auto).toNat := by
  constructor
  · rintro ⟨answered, sent', heq, hsends, hcount⟩
    have hsent : sent = sent' :=
      List.append_cancel_left (congrArg LiveWorld.commands heq)
    have hlookup := congrArg (fun w => w.getOneCallObject call.callId) heq
    have hauto : auto = !answered := by
      have hboth : (mark w call.callId videoState auto).getOneCallObject call.callId =
          (mark w call.callId videoState !answered).getOneCallObject call.callId := hlookup
      rw [getOneCallObject_mark hcall, getOneCallObject_mark hcall] at hboth
      exact congrArg LiveCall.autoAnswerState (Option.some.inj hboth)
    subst hsent
    rw [hauto, Bool.not_not]
    exact ⟨hsends, hcount⟩
  · rintro ⟨hsends, hcount⟩
    exact ⟨!auto, sent, by rw [Bool.not_not], hsends, hcount⟩

/-- An answer that is sent at once settles the request iff there is no mark. -/
theorem settled_answerNow_iff (hcall : w.getOneCallObject call.callId = some call) :
    Settled w call.callId videoState
        (answerNow env (setAnswerVideoState w call.callId videoState) flagForDsda call.callId
          videoState).world ↔
      call.autoAnswerState = false := by
  have hworld : (answerNow env (setAnswerVideoState w call.callId videoState) flagForDsda
      call.callId videoState).world =
      { mark w call.callId videoState call.autoAnswerState with
        commands := w.commands ++ [.answerCall call.callId videoState] } := by
    rw [answerNow, setAnswerVideoState_eq_mark hcall]
    rfl
  have hcount : [CallCommand.answerCall call.callId videoState].countP (IsAnswerTo call.callId) =
      1 := by simp [IsAnswerTo]
  rw [hworld, settled_iff hcall, and_iff_right (sendsOnce_answer _ _), hcount]
  cases call.autoAnswerState <;> decide

/-- A request that hangs up some other calls and marks its own is settled. -/
theorem settled_hangUps (hcall : w.getOneCallObject call.callId = some call) {l : List LiveCall}
    (hnodup : (l.map (·.callId)).Nodup) (hother : ∀ c ∈ l, c.callId ≠ call.callId) :
    Settled w call.callId videoState
      { mark w call.callId videoState true with
        commands := w.commands ++ l.map (.hangUpCall ·.callId) } :=
  (settled_iff hcall).mpr (sendsOnce_hangUps hnodup hother)

/-- A run of `HoldOrDisconnectedCall` takes the mark away iff it answers. -/
theorem holdOrDisconnectedCall_auto {slotId : ℤ}
    (hcall : w.getOneCallObject call.callId = some call) (hmark : call.autoAnswerState = true)
    (hsends : SendsOnce call.callId
      (holdOrDisconnectedCall w slotId call.callId videoState flagForDsda).commands) :
    (holdOrDisconnectedCall w slotId call.callId videoState flagForDsda).commands.countP
        (IsAnswerTo call.callId) =
      (!(holdOrDisconnectedCall w slotId call.callId videoState flagForDsda).autoAnswerState).toNat
    := by
  have hanswer := hsends.answer
  rw [holdOrDisconnectedCall_eq hcall] at hanswer ⊢
  dsimp only at hanswer ⊢
  split_ifs at hanswer ⊢ with hslot
  · simp [AnswerRun.answerCall, IsAnswerTo]
  · have hl : ∀ c ∈ otherCalls w call, c ∈ w.carrierCalls := fun c hc => (mem_otherCalls.mp hc).1
    have hcount := runTurns_answer call slotId videoState hl
      ⟨call.autoAnswerState, false, flagForDsda, []⟩
    have hauto := runTurns_auto call slotId videoState hl
      ⟨call.autoAnswerState, false, flagForDsda, []⟩
    rw [List.countP_nil, Nat.zero_add] at hcount
    rw [and_iff_right hmark, ← hcount] at hauto
    cases hafter : (runTurns w call slotId videoState (otherCalls w call)
        ⟨call.autoAnswerState, false, flagForDsda, []⟩).autoAnswerState with
    | true => exact hauto.mp hafter
    | false =>
      have hsome := mt hauto.mpr (by rw [hafter]; exact Bool.false_ne_true)
      rw [Bool.not_false, Bool.toNat_true]
      omega

/-- Where `HoldOrDisconnectedCall` makes room, the request is settled iff no two turns conflict. -/
theorem settled_makeRoomForDsda_iff (hcall : w.getOneCallObject call.callId = some call)
    (hring : call.callRunningState = .ringing) {slotId : ℤ} :
    Settled w call.callId videoState
        (makeRoomForDsda env (setAnswerVideoState w call.callId videoState) flagForDsda call.callId
          slotId videoState).world ↔
      NoConflict w { call with autoAnswerState := true } slotId := by
  let marked : LiveCall :=
    { call with answerVideoState := videoState, autoAnswerState := true }
  let w' := mark w call.callId videoState true
  have hmarked : w'.getOneCallObject marked.callId = some marked := getOneCallObject_mark hcall true
  let r := holdOrDisconnectedCall w' slotId marked.callId videoState flagForDsda
  have hworld : (makeRoomForDsda env (setAnswerVideoState w call.callId videoState) flagForDsda
      call.callId slotId videoState).world =
      { mark w call.callId videoState r.autoAnswerState with
        commands := w.commands ++ r.commands } := by
    unfold makeRoomForDsda
    dsimp only
    rw [setAutoAnswerState_eq_mark, setAutoAnswerState_mark]
    rfl
  have hsendsOnce : SendsOnce marked.callId r.commands ↔ NoConflict w' marked slotId := by
    show SendsOnce marked.callId
      (holdOrDisconnectedCall w' slotId marked.callId videoState flagForDsda).commands ↔ _
    rw [holdOrDisconnectedCall_eq hmarked]
    dsimp only
    split_ifs with hslot
    · exact iff_of_true (sendsOnce_answer _ _) (.inl ((isExistCallOtherSlot_iff slotId).mp hslot))
    · refine (runTurns_sendsOnce_iff videoState flagForDsda (getOneCallObject_spec hmarked).1
        hring).trans ?_
      exact (or_iff_right fun h => hslot ((isExistCallOtherSlot_iff slotId).mpr h)).symm
  rw [hworld, settled_iff hcall]
  have hflags : NoConflict w' marked slotId ↔ NoConflict w marked slotId :=
    noConflict_setFlag (f := fun it =>
      { it with answerVideoState := videoState, autoAnswerState := true }) (fun _ => rfl) marked
      slotId
  refine Iff.trans ?_ (hsendsOnce.trans hflags)
  exact and_iff_left_of_imp fun hsends =>
    @holdOrDisconnectedCall_auto w' flagForDsda videoState marked slotId hmarked rfl hsends

/-- The calls in the way of video are hung up. -/
theorem settled_disconnectOtherCallForVideoCall
    (hcall : w.getOneCallObject call.callId = some call) :
    Settled w call.callId videoState
      ((disconnectOtherCallForVideoCall (setAnswerVideoState w call.callId videoState)
        call.callId).setAutoAnswerState call.callId true) := by
  have hmark : ∀ commands, LiveWorld.setAutoAnswerState
      { setAnswerVideoState w call.callId videoState with commands := commands } call.callId
        true = { mark w call.callId videoState true with commands := commands } := by
    intro commands
    rw [← setAutoAnswerState_eq_mark]
    rfl
  rw [disconnectOtherCallForVideoCall, getCarrierCallList,
    videoCallLoop_eq _ fun c hc => (mem_carrierCalls.mp hc).1, hmark]
  refine settled_hangUps hcall (nodup_carrierCalls.sublist (List.filter_sublist.map _)) ?_
  intro c hc
  exact (of_decide_eq_true (List.mem_filter.mp hc).2).1

/-- With one slot at a time the calls of the other slot are hung up, or the call is
    answered at once. -/
theorem settled_disconnectOtherSubIdCall_iff
    (hcall : w.getOneCallObject call.callId = some call) :
    Settled w call.callId videoState
        (disconnectOtherSubIdCall env (setAnswerVideoState w call.callId videoState) flagForDsda
          call.callId call.slotId videoState).world ↔
      (OnOneSlot w call.slotId → call.autoAnswerState = false) := by
  have honSlot : OnOneSlot (setAnswerVideoState w call.callId videoState) call.slotId ↔
      OnOneSlot w call.slotId := 
    onOneSlot_setFlag (f := fun it => { it with answerVideoState := videoState }) (fun _ => rfl)
      call.slotId
  rw [← honSlot]
  generalize hw : setAnswerVideoState w call.callId videoState = w'
  have hloop := subIdLoop_eq (w := w') call.callId call.slotId true (l := w'.carrierCalls)
    fun c hc => ⟨c, getOneCallObject_of_mem (mem_carrierCalls.mp hc).1, rfl⟩
  have hanswer : Settled w call.callId videoState
      (answerNow env w' flagForDsda call.callId videoState).world ↔
        call.autoAnswerState = false := hw ▸ settled_answerNow_iff hcall
  unfold disconnectOtherSubIdCall
  dsimp only
  rw [getCarrierCallList, hloop, List.length_map]
  by_cases hone : OnOneSlot w' call.slotId
  · rw [imp_iff_right hone, ← hanswer]
    rcases hone with hshort | hall
    · rw [if_neg (Nat.not_lt.mpr hshort)]
      rfl
    · have hevery : w'.carrierCalls.all (·.slotId = call.slotId) = true := by simpa using hall
      rw [hevery, if_pos rfl, ite_self]
      rfl
  · have hmany : 1 < w'.carrierCalls.length := Nat.not_le.mp fun h => hone (.inl h)
    have hother : w'.carrierCalls.all (·.slotId = call.slotId) = false :=
      Bool.eq_false_iff.mpr fun h => hone (.inr (by simpa using h))
    rw [if_pos hmany, hother]
    refine iff_of_true ?_ fun h => absurd h hone
    subst hw
    dsimp only
    rw [if_neg Bool.false_ne_true, if_neg Bool.false_ne_true, setAutoAnswerState_eq_mark]
    refine settled_hangUps hcall (nodup_carrierCalls.sublist (List.filter_sublist.map _)) ?_
    intro c hc hid
    obtain ⟨hmem, hslot⟩ := List.mem_filter.mp hc
    -- the call itself is on its slot
    have hself : (mark w call.callId videoState call.autoAnswerState).getOneCallObject c.callId =
        some c := by
      rw [← setAnswerVideoState_eq_mark hcall]
      exact getOneCallObject_of_mem (mem_carrierCalls.mp hmem).1
    rw [hid, getOneCallObject_mark hcall] at hself
    have heq := Option.some.inj hself
    subst heq
    exact absurd rfl (of_decide_eq_true hslot)

/-- In DSDA a call that rings with a video ring back tone is hung up, or
    `HoldOrDisconnectedCall` makes room. -/
theorem settled_answerForDsda_iff (hcall : w.getOneCallObject call.callId = some call)
    (hring : call.callRunningState = .ringing) :
    Settled w call.callId videoState
        (answerForDsda env (setAnswerVideoState w call.callId videoState) flagForDsda call.callId
          call.slotId videoState).world ↔
      CrsRings env w call.callId ∨ NoConflict w { call with autoAnswerState := true }
        call.slotId := by
  have hcrs : CrsRings env (setAnswerVideoState w call.callId videoState) call.callId ↔
      CrsRings env w call.callId :=
    crsRings_setFlag (f := fun it => { it with answerVideoState := videoState }) (fun _ => rfl)
      call.callId
  have hroom := @settled_makeRoomForDsda_iff env w flagForDsda videoState call hcall hring
    call.slotId
  rw [← hcrs]
  generalize hw : setAnswerVideoState w call.callId videoState = w' at hroom ⊢
  have hother : getOtherRingingCall w' call.callId = w'.carrierCalls.find? fun it =>
      it.callId ≠ call.callId ∧ it.callRunningState = .ringing :=
    otherRingingLoop_eq call.callId fun c hc => (mem_carrierCalls.mp hc).1
  unfold answerForDsda CrsRings
  rw [hother]
  cases hfind : w'.carrierCalls.find? fun it =>
      it.callId ≠ call.callId ∧ it.callRunningState = .ringing with
  | none =>
    refine hroom.trans (or_iff_right ?_).symm
    rintro ⟨_, hnone, -⟩
    exact nomatch hnone
  | some ringingCall =>
    dsimp only
    split_ifs with hcrs
    · refine iff_of_true ?_ (.inl ⟨ringingCall, rfl, hcrs⟩)
      have hfound := List.find?_some hfind
      have hne : ringingCall.callId ≠ call.callId := (of_decide_eq_true hfound).1
      subst hw
      have hsettled := @settled_hangUps w videoState call hcall [ringingCall]
        (List.nodup_singleton _) fun c hc => List.mem_singleton.mp hc ▸ hne
      rw [← setAutoAnswerState_eq_mark] at hsettled
      exact hsettled
    · refine hroom.trans (or_iff_right ?_).symm
      rintro ⟨it, hit, htype⟩
      exact hcrs (Option.mem_some_iff.mp hit ▸ htype)

/-- A request to answer a ringing call is settled iff no mark is left from an earlier
    request where the answer is sent at once, and no two turns conflict where
    `HoldOrDisconnectedCall` makes room for it. -/
theorem answerRequest_settled_iff (env : AnswerEnv) (w : LiveWorld) (flagForDsda : Bool)
    (videoState : ℤ) (call : LiveCall) (hcall : w.getOneCallObject call.callId = some call)
    (hring : call.callRunningState = .ringing) :
    Settled w call.callId videoState
        (answerRequest env w flagForDsda call.callId videoState).world ↔
      MaySettle env w call videoState := by
  have hvideo : NeedAnswerVTAndEndActiveVO (setAnswerVideoState w call.callId videoState)
        call.callId videoState ∨
      NeedAnswerVOAndEndActiveVT (setAnswerVideoState w call.callId videoState) call.callId
        videoState ↔
      NeedAnswerVTAndEndActiveVO w call.callId videoState ∨
        NeedAnswerVOAndEndActiveVT w call.callId videoState :=
    videoInTheWay_setFlag (f := fun it => { it with answerVideoState := videoState })
      (fun _ => rfl) call.callId videoState
  rw [answerRequest, hcall]
  dsimp only
  unfold MaySettle answerRequestForDsda
  rw [if_congr hvideo rfl rfl]
  split_ifs
  · exact settled_answerNow_iff hcall
  · exact iff_true_intro (settled_disconnectOtherCallForVideoCall hcall)
  · cases env.dsdsMode with
    | v2 => exact settled_answerNow_iff hcall
    | v3 => exact settled_disconnectOtherSubIdCall_iff hcall
    | v5Dsda => exact settled_answerForDsda_iff hcall hring
    | v5Tdm => exact settled_answerForDsda_iff hcall hring

/-- Without DSDA the ringing call is answered beside an active and a held call. -/
theorem answerRequest_besideActiveAndHeld :
    besideActiveAndHeld.getOneCallObject ringingCall.callId = some ringingCall ∧
      ringingCall.callRunningState = .ringing ∧
      (Settled besideActiveAndHeld ringingCall.callId 0
          (answerRequest ⟨.v2, fun _ => 0, .telephonySuccess⟩ besideActiveAndHeld false
            ringingCall.callId 0).world ↔
        MaySettle ⟨.v2, fun _ => 0, .telephonySuccess⟩ besideActiveAndHeld ringingCall 0) :=
  have hcall : besideActiveAndHeld.getOneCallObject ringingCall.callId = some ringingCall := rfl
  have hring : ringingCall.callRunningState = .ringing := rfl
  ⟨hcall, hring, answerRequest_settled_iff _ besideActiveAndHeld false 0 ringingCall hcall hring⟩

end CallRequestProcess

end CallManager
