import CallManager.AnswerArbitration
import CallManager.AutoUnhold
import CallManager.Library.Run

/-!
# Which calls a hang-up releases

`HangUpRequest` looks at the call, its conference and the other calls, and may choose
that the modem releases all active calls, or all held and waiting ones. The choice is
passed in the policy flags of the call object; `CarrierHangUpCall` reads them and sends
the supplement type. The arbitration between calls hangs up calls without a choice.

Specification: the type sent is the one that the situation at that very request calls
for, and the default where there was no choice to make.

`SetPolicyFlag` adds a bit, and no bit is ever taken out. So the flags hold all choices
made for the call object, and the type sent is the strongest of them. A call outlives a
hang-up that fails, and a request of the arbitration finds the choice of an earlier one.
The flags are kept when a call object is replaced; ids are not given twice, so the
flags are kept by id here.

Results:
* `hangUpChoice_iff`: the types of a run are as specified iff no hang-up of a call
  follows an earlier choice for it that is stronger than its own.
* `stale_choice_sent`: a hang-up that fails, and one of the arbitration.
-/

namespace CallManager.HangUpChoice

open AutoUnhold (DsdsMode)
open CallRequestProcess (activeCall otherHeldCall)

/-! ## Model -/

/-- `CallSupplementType` (call_manager_inner_type.h, from line 342), as far as a hang-up sends
    it. -/
inductive CallSupplementType
  | typeDefault | hangUpHoldWait | hangUpActive
  deriving DecidableEq, Repr

/-- The number of a type. -/
def CallSupplementType.number : CallSupplementType → ℕ
  | .typeDefault => 0
  | .hangUpHoldWait => 1
  | .hangUpActive => 2

/-- The bits `POLICY_FLAG_HANG_UP_ACTIVE` and `POLICY_FLAG_HANG_UP_HOLD_WAIT` of `policyFlag_`
    (common_type.h, from line 63). -/
structure PolicyFlag where
  hangUpActive : Bool
  hangUpHoldWait : Bool
  deriving DecidableEq, Repr

/-- What a hang-up sends to the modem. -/
inductive HangUpEvent
  | kickOutFromConference (callId : ℤ)
  | hangUp (callId : ℤ) (type : CallSupplementType)
  deriving DecidableEq, Repr

/-- What a request finds outside the store: the mode of the device, the calls of the
    conference of a call, and whether `cellularCallConnectionPtr_` is there. -/
structure HangUpEnv where
  dsdsMode : DsdsMode
  subCallIdList : ℤ → List ℤ
  connected : Bool

section Model

variable (env : HangUpEnv) (w : LiveWorld) (call : LiveCall)

/-- `SetPolicyFlag` with the flag of a type (call_base.cpp:505-509). -/
def PolicyFlag.set (flag : PolicyFlag) : CallSupplementType → PolicyFlag
  | .typeDefault => flag
  | .hangUpHoldWait => { flag with hangUpHoldWait := true }
  | .hangUpActive => { flag with hangUpActive := true }

/-- The type that `CarrierHangUpCall` reads off the flags. -/
def PolicyFlag.type (flag : PolicyFlag) : CallSupplementType :=
  if flag.hangUpActive then .hangUpActive
  else if flag.hangUpHoldWait then .hangUpHoldWait
  else .typeDefault

/-- The classes whose `HangUpCall` is `CarrierHangUpCall`. -/
def IsCarrierObject : Prop :=
  call.objectType = .cs ∨ call.objectType = .ims ∨ call.objectType = .satellite

instance : Decidable (IsCarrierObject call) := inferInstanceAs (Decidable (_ ∨ _ ∨ _))

/-- `HangUpCall` of a call object, which is `CarrierHangUpCall` in these classes
    (carrier_call.cpp:106-133). -/
def hangUpCall (flag : PolicyFlag) : List HangUpEvent :=
  if IsCarrierObject call ∧ env.connected then [.hangUp call.callId flag.type] else []

/-- The condition of `HangUpRequest` for releasing the active calls
    (call_request_process.cpp:573-575). -/
def ReleasesActive : Prop :=
  ((call.callState = .active ∧ CallRequestProcess.isCallExist w call.callType .holding) ∨
    call.conferenceState = .active) ∧ w.getCallNum .waiting = 0

instance : Decidable (ReleasesActive w call) := inferInstanceAs (Decidable (_ ∧ _))

/-- Its condition for releasing the held and waiting calls. -/
def ReleasesHeld : Prop := call.conferenceState = .holding ∧ w.getCallNum .waiting = 0

instance : Decidable (ReleasesHeld w call) := inferInstanceAs (Decidable (_ ∧ _))

/-- Its condition for taking the calls out of their conference. -/
def KicksOut : Prop :=
  (call.conferenceState = .holding ∨ call.conferenceState = .active) ∧ w.getCallNum .waiting ≠ 0

instance : Decidable (KicksOut w call) := inferInstanceAs (Decidable (_ ∧ _))

/-- The condition of `HangUpForDsdaRequest` (call_request_process.cpp:601-609). -/
def IsForDsda : Prop :=
  (env.dsdsMode = .v5Dsda ∨ env.dsdsMode = .v5Tdm) ∧
    w.isExistCallOtherSlot w.getCarrierCallList call.slotId = false

instance : Decidable (IsForDsda env w call) := inferInstanceAs (Decidable (_ ∧ _))

/-- `KickOutFromConferenceRequest` of each call of a conference. -/
def kickOutAll : List HangUpEvent :=
  (env.subCallIdList call.callId).filterMap fun callId =>
    (w.getOneCallObject callId).map fun _ => .kickOutFromConference callId

/-- What `HangUpRequest` chooses: the type whose flag it sets, and what it sends before the
    hang-up (call_request_process.cpp:563-595). -/
def hangUpChoice : CallSupplementType × List HangUpEvent :=
  if ReleasesActive w call then
    if IsForDsda env w call then (.typeDefault, kickOutAll env w call) else (.hangUpActive, [])
  else if ReleasesHeld w call then (.hangUpHoldWait, [])
  else if KicksOut w call then (.typeDefault, kickOutAll env w call)
  else (.typeDefault, [])

/-- `HangUpRequest` (call_request_process.cpp:563-597): the events and the flags of the call
    after it. -/
def hangUpRequest (flag : PolicyFlag) : List HangUpEvent × PolicyFlag :=
  let (type, sent) := hangUpChoice env w call
  (sent ++ hangUpCall env call (flag.set type), flag.set type)

end Model

/-! ## Runs -/

/-- The calls with their flags, and the choices made so far: the id of the call and the type. -/
structure HangUpWorld where
  live : LiveWorld
  policyFlag : ℤ → PolicyFlag
  choices : List (ℤ × CallSupplementType)

/-- What can happen: a request to hang a call up, a hang-up of a call by the arbitration,
    and anything else that changes the calls. -/
inductive HangUpOp
  | hangUpRequest (env : HangUpEnv) (callId : ℤ)
  | hangUpCall (env : HangUpEnv) (callId : ℤ)
  | change (live : LiveWorld)

namespace HangUpWorld

variable (w : HangUpWorld)

/-- The choice that an operation makes for a call. -/
def choice (call : LiveCall) : HangUpOp → CallSupplementType
  | .hangUpRequest env _ => (hangUpChoice env w.live call).1
  | .hangUpCall _ _ | .change _ => .typeDefault

/-- What an operation sends. -/
def sent : HangUpOp → List HangUpEvent
  | .hangUpRequest env callId =>
    match w.live.getOneCallObject callId with
    | none => []
    | some call => (hangUpRequest env w.live call (w.policyFlag callId)).1
  | .hangUpCall env callId =>
    match w.live.getOneCallObject callId with
    | none => []
    | some call => hangUpCall env call (w.policyFlag callId)
  | .change _ => []

/-- One operation. -/
def step : HangUpOp → HangUpWorld
  | .hangUpRequest env callId =>
    match w.live.getOneCallObject callId with
    | none => w
    | some call =>
      { w with
        policyFlag := Function.update w.policyFlag callId
          (hangUpRequest env w.live call (w.policyFlag callId)).2
        choices := w.choices ++ [(callId, (hangUpChoice env w.live call).1)] }
  | .hangUpCall _ _ => w
  | .change live => { w with live }

/-- The call that an operation hangs up: the one it names, if its hang-up reaches the modem. -/
def hungUp : HangUpOp → Option LiveCall
  | .hangUpRequest env callId | .hangUpCall env callId =>
    (w.live.getOneCallObject callId).filter fun call => IsCarrierObject call ∧ env.connected
  | .change _ => none

/-! ## Specification -/

/-- Every hang-up that is sent has the type that the operation chooses now. -/
def TypeRight (op : HangUpOp) : Prop :=
  ∀ callId type, HangUpEvent.hangUp callId type ∈ w.sent op →
    ∃ call, w.live.getOneCallObject callId = some call ∧ type = w.choice call op

/-- The condition on an operation: no earlier choice for the call it hangs up is stronger
    than its own. -/
def StepOk (op : HangUpOp) : Prop :=
  ∀ call ∈ w.hungUp op, ∀ c ∈ w.choices, c.1 = call.callId → c.2.number ≤ (w.choice call op).number

instance (op : HangUpOp) : Decidable (w.StepOk op) :=
  inferInstanceAs (Decidable (∀ call ∈ w.hungUp op, ∀ c ∈ w.choices, _))

/-- The flags of a call are those of the choices made for it. -/
structure Inv : Prop where
  active : ∀ callId,
    (w.policyFlag callId).hangUpActive = true ↔ (callId, .hangUpActive) ∈ w.choices
  holdWait : ∀ callId,
    (w.policyFlag callId).hangUpHoldWait = true ↔ (callId, .hangUpHoldWait) ∈ w.choices

end HangUpWorld

/-! ## What the flags send -/

namespace PolicyFlag

variable (flag : PolicyFlag) (type : CallSupplementType)

theorem hangUpActive_set :
    (flag.set type).hangUpActive = true ↔ flag.hangUpActive = true ∨ type = .hangUpActive := by
  cases type <;> simp [PolicyFlag.set]

theorem hangUpHoldWait_set :
    (flag.set type).hangUpHoldWait = true ↔
      flag.hangUpHoldWait = true ∨ type = .hangUpHoldWait := by
  cases type <;> simp [PolicyFlag.set]

/-- The flags send the type just set iff none of them is that of a stronger one. -/
theorem type_set_eq_iff :
    (flag.set type).type = type ↔
      (flag.hangUpActive = true → CallSupplementType.hangUpActive.number ≤ type.number) ∧
        (flag.hangUpHoldWait = true → CallSupplementType.hangUpHoldWait.number ≤ type.number) := by
  obtain ⟨active, holdWait⟩ := flag
  cases type <;> cases active <;> cases holdWait <;> decide

end PolicyFlag

namespace HangUpWorld

variable {w : HangUpWorld}

/-- The flags send the type just set iff no choice made for the call is stronger. -/
theorem Inv.type_set_eq_iff (h : w.Inv) (callId : ℤ) (type : CallSupplementType) :
    ((w.policyFlag callId).set type).type = type ↔
      ∀ c ∈ w.choices, c.1 = callId → c.2.number ≤ type.number := by
  rw [PolicyFlag.type_set_eq_iff, h.active callId, h.holdWait callId]
  constructor
  · rintro ⟨hactive, hholdWait⟩ ⟨_, chosen⟩ hmem rfl
    cases chosen with
    | typeDefault => exact Nat.zero_le _
    | hangUpHoldWait => exact hholdWait hmem
    | hangUpActive => exact hactive hmem
  · intro hall
    exact ⟨fun hmem => hall _ hmem rfl, fun hmem => hall _ hmem rfl⟩

theorem hangUp_not_mem_kickOutAll (env : HangUpEnv) (live : LiveWorld) (call : LiveCall)
    (callId : ℤ) (type : CallSupplementType) :
    HangUpEvent.hangUp callId type ∉ kickOutAll env live call := by
  unfold kickOutAll
  rw [List.mem_filterMap]
  rintro ⟨subCallId, -, hkick⟩
  obtain ⟨_, -, hkick⟩ := Option.map_eq_some_iff.mp hkick
  cases hkick

theorem hangUp_not_mem_choice (env : HangUpEnv) (live : LiveWorld) (call : LiveCall)
    (callId : ℤ) (type : CallSupplementType) :
    HangUpEvent.hangUp callId type ∉ (hangUpChoice env live call).2 := by
  have hkick := hangUp_not_mem_kickOutAll env live call callId type
  unfold hangUpChoice
  split_ifs
  · exact hkick
  · exact List.not_mem_nil
  · exact List.not_mem_nil
  · exact hkick
  · exact List.not_mem_nil

theorem hangUpRequest_sent (env : HangUpEnv) (live : LiveWorld) (call : LiveCall)
    (flag : PolicyFlag) :
    (hangUpRequest env live call flag).1 =
      (hangUpChoice env live call).2 ++
        hangUpCall env call (flag.set (hangUpChoice env live call).1) := rfl

theorem mem_hangUpCall_iff {env : HangUpEnv} {call : LiveCall} {flag : PolicyFlag} {callId : ℤ}
    {type : CallSupplementType} :
    .hangUp callId type ∈ hangUpCall env call flag ↔
      (IsCarrierObject call ∧ env.connected = true) ∧ callId = call.callId ∧ type = flag.type := by
  unfold hangUpCall
  by_cases hsent : IsCarrierObject call ∧ env.connected = true
  · rw [if_pos hsent, and_iff_right hsent, List.mem_singleton, HangUpEvent.hangUp.injEq]
  · rw [if_neg hsent]
    exact iff_of_false List.not_mem_nil fun h => hsent h.1

theorem mem_hungUp_iff {env : HangUpEnv} {callId : ℤ} {op : HangUpOp} {call : LiveCall}
    (hop : op = .hangUpRequest env callId ∨ op = .hangUpCall env callId) :
    call ∈ w.hungUp op ↔
      w.live.getOneCallObject callId = some call ∧ IsCarrierObject call ∧ env.connected = true := by
  have hfilter : w.hungUp op = (w.live.getOneCallObject callId).filter fun call =>
      IsCarrierObject call ∧ env.connected := by
    rcases hop with rfl | rfl <;> rfl
  rw [hfilter, Option.mem_def, Option.filter_eq_some_iff, decide_eq_true_iff]

/-- What an operation sends: a hang-up of its call, with the type of the flags after its choice. -/
theorem hangUp_mem_sent_iff (op : HangUpOp) (callId : ℤ) (type : CallSupplementType) :
    .hangUp callId type ∈ w.sent op ↔
      ∃ call ∈ w.hungUp op, callId = call.callId ∧
        type = ((w.policyFlag call.callId).set (w.choice call op)).type := by
  cases op with
  | hangUpRequest env named =>
    simp only [mem_hungUp_iff (.inl rfl)]
    show .hangUp callId type ∈ (match w.live.getOneCallObject named with
      | none => []
      | some call => (hangUpRequest env w.live call (w.policyFlag named)).1) ↔ _
    cases hcall : w.live.getOneCallObject named with
    | none => exact iff_of_false List.not_mem_nil fun ⟨_, h, _⟩ => by cases h.1
    | some call =>
      have hid : call.callId = named := (LiveWorld.getOneCallObject_spec hcall).2
      have hsent : .hangUp callId type ∈ (hangUpRequest env w.live call (w.policyFlag named)).1 ↔
          (IsCarrierObject call ∧ env.connected = true) ∧ callId = call.callId ∧
            type = ((w.policyFlag named).set (hangUpChoice env w.live call).1).type := by
        rw [hangUpRequest_sent, List.mem_append,
          or_iff_right (hangUp_not_mem_choice env w.live call callId type), mem_hangUpCall_iff]
      rw [hsent]
      constructor
      · rintro ⟨hreaches, hsame, htype⟩
        exact ⟨call, ⟨rfl, hreaches⟩, hsame, by rw [htype, hid]; rfl⟩
      · rintro ⟨_, ⟨⟨⟩, hreaches⟩, hsame, htype⟩
        exact ⟨hreaches, hsame, by rw [htype, hid]; rfl⟩
  | hangUpCall env named =>
    simp only [mem_hungUp_iff (.inr rfl)]
    show .hangUp callId type ∈ (match w.live.getOneCallObject named with
      | none => []
      | some call => hangUpCall env call (w.policyFlag named)) ↔ _
    cases hcall : w.live.getOneCallObject named with
    | none => exact iff_of_false List.not_mem_nil fun ⟨_, h, _⟩ => by cases h.1
    | some call =>
      have hid : call.callId = named := (LiveWorld.getOneCallObject_spec hcall).2
      dsimp only
      rw [mem_hangUpCall_iff]
      constructor
      · rintro ⟨hreaches, hsame, htype⟩
        exact ⟨call, ⟨rfl, hreaches⟩, hsame, by rw [htype, hid]; rfl⟩
      · rintro ⟨_, ⟨⟨⟩, hreaches⟩, hsame, htype⟩
        exact ⟨hreaches, hsame, by rw [htype, hid]; rfl⟩
  | change live => exact iff_of_false List.not_mem_nil fun ⟨_, h, _⟩ => by cases h

theorem getOneCallObject_of_mem_hungUp {op : HangUpOp} {call : LiveCall}
    (h : call ∈ w.hungUp op) : w.live.getOneCallObject call.callId = some call := by
  have hfound : ∀ {env : HangUpEnv} {callId : ℤ},
      op = .hangUpRequest env callId ∨ op = .hangUpCall env callId →
        w.live.getOneCallObject call.callId = some call := by
    intro env callId hop
    have hcall := ((mem_hungUp_iff hop).mp h).1
    rw [(LiveWorld.getOneCallObject_spec hcall).2]
    exact hcall
  cases op with
  | hangUpRequest env callId => exact hfound (.inl rfl)
  | hangUpCall env callId => exact hfound (.inr rfl)
  | change live => cases h

/-- An operation sends the right type iff no choice made for its call is stronger. -/
theorem typeRight_iff_stepOk (op : HangUpOp) (h : w.Inv) : w.TypeRight op ↔ w.StepOk op := by
  constructor
  · intro hright call hcall
    obtain ⟨it, hit, htype⟩ := hright call.callId _
      ((hangUp_mem_sent_iff op call.callId _).mpr ⟨call, hcall, rfl, rfl⟩)
    obtain rfl : call = it :=
      Option.some.inj ((getOneCallObject_of_mem_hungUp hcall).symm.trans hit)
    exact (h.type_set_eq_iff call.callId _).mp htype
  · intro hok callId type hmem
    obtain ⟨call, hcall, rfl, rfl⟩ := (hangUp_mem_sent_iff op callId type).mp hmem
    exact ⟨call, getOneCallObject_of_mem_hungUp hcall,
      (h.type_set_eq_iff call.callId _).mpr (hok call hcall)⟩

/-- A bit that a choice of one type sets stays that of the choices of this type. -/
theorem bit_update_iff {bit : PolicyFlag → Bool} {kind : CallSupplementType}
    (hset : ∀ flag type, bit (PolicyFlag.set flag type) = true ↔ bit flag = true ∨ type = kind)
    (h : ∀ callId, bit (w.policyFlag callId) = true ↔ (callId, kind) ∈ w.choices)
    (named : ℤ) (type : CallSupplementType) (callId : ℤ) :
    bit (Function.update w.policyFlag named ((w.policyFlag named).set type) callId) = true ↔
      (callId, kind) ∈ w.choices ++ [(named, type)] := by
  rw [List.mem_append, List.mem_singleton, Prod.mk.injEq, ← h callId]
  by_cases hnamed : callId = named
  · subst hnamed
    rw [Function.update_self, hset, and_iff_right rfl, eq_comm (a := type)]
  · rw [Function.update_of_ne hnamed]
    exact (or_iff_left fun hsame => hnamed hsame.1).symm

/-- The flags stay those of the choices made. -/
theorem inv_step (op : HangUpOp) (h : w.Inv) : (w.step op).Inv := by
  cases op with
  | hangUpRequest env named =>
    unfold step
    dsimp only
    cases w.live.getOneCallObject named with
    | none => exact h
    | some call =>
      exact ⟨bit_update_iff PolicyFlag.hangUpActive_set h.active named _,
        bit_update_iff PolicyFlag.hangUpHoldWait_set h.holdWait named _⟩
  | hangUpCall env named => exact h
  | change live => exact ⟨h.active, h.holdWait⟩

/-- No hang-up was asked for yet. -/
def fresh (live : LiveWorld) : HangUpWorld := ⟨live, fun _ => ⟨false, false⟩, []⟩

theorem inv_fresh (live : LiveWorld) : (fresh live).Inv :=
  ⟨fun _ => iff_of_false Bool.false_ne_true List.not_mem_nil,
    fun _ => iff_of_false Bool.false_ne_true List.not_mem_nil⟩

/-- From calls that were not hung up before, every hang-up of a run is sent with the type
    that the situation at that very request calls for, iff none follows an earlier choice
    for the same call that is stronger than its own. -/
theorem hangUpChoice_iff (live : LiveWorld) (ops : List HangUpOp) :
    Run.StepsMeet step TypeRight (fresh live) ops ↔ Run.StepsMeet step StepOk (fresh live) ops :=
  Run.stepsMeet_iff_of_ops (Q := fun _ => True) (fun _ op _ => inv_step op)
    (fun _ op _ => typeRight_iff_stepOk op) ops (fun _ _ => trivial) (inv_fresh live)

end HangUpWorld

theorem active_and_held_nodup :
    ([activeCall, otherHeldCall].map (·.callId)).Nodup := by decide

/-- An active and a held call on one line. -/
def activeAndHeld : LiveWorld where
  calls := ⟨[activeCall, otherHeldCall], active_and_held_nodup⟩
  imsMainCall := -1
  csMainCall := -1
  commands := []

/-- One line, and the modem is there. -/
def oneLineEnv : HangUpEnv where
  dsdsMode := .v2
  subCallIdList := fun _ => []
  connected := true

/-- The active call is asked to be hung up, which fails, and the arbitration hangs it up for a
    call that is answered: the held call, which the modem takes up then, was not to be touched. -/
theorem stale_choice_sent :
    ¬ ∀ (live : LiveWorld) (ops : List HangUpOp),
      Run.StepsMeet HangUpWorld.step HangUpWorld.TypeRight (HangUpWorld.fresh live) ops := by
  intro hall
  obtain ⟨-, hright, -⟩ := hall activeAndHeld
    [.hangUpRequest oneLineEnv 2, .hangUpCall oneLineEnv 2]
  obtain ⟨call, -, htype⟩ := hright 2 .hangUpActive (by decide +kernel)
  cases htype

end CallManager.HangUpChoice
