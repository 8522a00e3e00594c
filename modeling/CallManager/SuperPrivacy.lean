import CallManager.Library.Run
import CallManager.Types
import CallManager.StoredCalls

/-!
# Super privacy during calls

While super privacy is on, a call needs the user to switch it off.
`CallSuperPrivacyControlManager` does that for the user, keeps the mode in
`oldSuperPrivacyMode_`, sets `isSuperPrivacyModeChanged_`, and restores the mode
at the DISCONNECTED report after which `GetCurrentCallNum` is 0.

The policy is a parameter of the system: the user changes it as well, and the
service is told of every change, its own included, through a callback.

Specification: the flag is set only while the mode is off by the service's own
request, and the mode that is kept is the user's (`Sound`, first part); when no
call is left the flag is clear and the mode is the user's (second part); a
DISCONNECTED report restores nothing while a carrier call is stored
(`RestoresLast`).

The flag is set before the request is made, and over a mode that may be off
already; the result of the restoring request is not looked at; members of a CS
conference do not count; the end of a VoIP call restores nothing; and the callback
of a restored mode may come after the next request.

Results:
* `superPrivacy_restored`: the specification in every run whose operations meet
  the condition.
* `superPrivacy_not_restored`: runs that break it.
-/

namespace CallManager.SuperPrivacy

/-! ## The policy -/

/-- `SuperPrivacyMode` (super_privacy_policy_info.h:24-28). -/
inductive SuperPrivacyMode
  | off
  | onWhenFolded
  | alwaysOn
  deriving DecidableEq, Repr

/-- `PrivacySensorType` (lines 30-34). -/
inductive PrivacySensorType
  | camera
  | microphone
  | location
  deriving DecidableEq, Repr

/-- `PrivacySensorState` (lines 36-40). -/
inductive PrivacySensorState
  | default
  | enabled
  | disabled
  deriving DecidableEq, Repr

/-- `SuperPrivacyPolicyInfo` (lines 51-63): a policy for each of the three sensors. -/
structure SuperPrivacyPolicyInfo where
  superPrivacyMode : SuperPrivacyMode
  camera : PrivacySensorState
  microphone : PrivacySensorState
  location : PrivacySensorState
  deriving DecidableEq, Repr

namespace SuperPrivacyPolicyInfo

/-- The default constructor. -/
def init : SuperPrivacyPolicyInfo := ⟨.off, .default, .default, .default⟩

/-- `superPrivacyPolicies[i].sensorState = sensorState`. -/
def setSensorState (policyInfo : SuperPrivacyPolicyInfo) (sensorState : PrivacySensorState) :
    PrivacySensorType → SuperPrivacyPolicyInfo
  | .camera => { policyInfo with camera := sensorState }
  | .microphone => { policyInfo with microphone := sensorState }
  | .location => { policyInfo with location := sensorState }

end SuperPrivacyPolicyInfo

/-- The mode of a number, of which there are three. -/
def SuperPrivacyMode.ofValue : ℕ → Option SuperPrivacyMode
  | 0 => some .off
  | 1 => some .onWhenFolded
  | 2 => some .alwaysOn
  | _ => none

/-- The sensor state of a number, of which there are three. -/
def PrivacySensorState.ofValue : ℕ → Option PrivacySensorState
  | 0 => some .default
  | 1 => some .enabled
  | 2 => some .disabled
  | _ => none

/-- `(valueNum >> 4 * i) & 0xF`. -/
def nibble (valueNum : BitVec 32) (i : ℕ) : ℕ := ((valueNum.sshiftRight (4 * i)) &&& 0xF#32).toNat

/-- The loop of `ParsePolicyFromParam`, over the sensors from number `i` on. -/
def parseSensors (valueNum : BitVec 32) :
    ℕ → List PrivacySensorType → SuperPrivacyPolicyInfo → SuperPrivacyPolicyInfo
  | _, [], policyInfo => policyInfo
  | i, sensor :: sensors, policyInfo =>
    match PrivacySensorState.ofValue (nibble valueNum (i + 1)) with
    | none => policyInfo
    | some sensorState =>
      parseSensors valueNum (i + 1) sensors (policyInfo.setSensorState sensorState sensor)

/-- `ParsePolicyFromParam` (call_superprivacy_control_manager.cpp:67-84). -/
def parsePolicyFromParam (policyInfo : SuperPrivacyPolicyInfo) (valueNum : BitVec 32) :
    SuperPrivacyPolicyInfo :=
  match SuperPrivacyMode.ofValue (nibble valueNum 0) with
  | none => policyInfo
  | some superPrivacyMode =>
    parseSensors valueNum 0 [.camera, .microphone, .location] { policyInfo with superPrivacyMode }

/-- The value of `persist.super_privacy_policy.sensors`: a number, or a text that is none. -/
abbrev ParamValue := Option (BitVec 32)

/-- `GetCurrentPrivacyPolicy` (lines 193-201), of a value of the parameter. -/
def getCurrentPrivacyPolicy (param : ParamValue) : SuperPrivacyPolicyInfo :=
  let privacyMode := param.getD (-1)
  if privacyMode = -1 then .init else parsePolicyFromParam .init privacyMode

/-- The mode in a value of the parameter. -/
def modeOf (param : ParamValue) : SuperPrivacyMode :=
  (getCurrentPrivacyPolicy param).superPrivacyMode

/-- `CanCallWithSuperPrivacyPolicy` (lines 215-233). -/
def canCallWithSuperPrivacyPolicy (folded : Bool) (policyInfo : SuperPrivacyPolicyInfo) : Bool :=
  if policyInfo.superPrivacyMode = .off then true
  else if policyInfo.superPrivacyMode = .onWhenFolded ∧ folded = false then true
  else if policyInfo.microphone = .disabled ∨ policyInfo.camera = .disabled then false
  else true

/-- How the super privacy service writes a policy to the parameter: as a number that
    is read back as that policy. -/
structure PolicyFormat where
  encode : SuperPrivacyPolicyInfo → BitVec 32
  parse_encode : ∀ policyInfo, parsePolicyFromParam .init (encode policyInfo) = policyInfo

/-- The number that stands for "no parameter" is not the number of a policy either. -/
theorem parse_none : parsePolicyFromParam .init (-1) = .init := by decide

theorem getCurrentPrivacyPolicy_some (valueNum : BitVec 32) :
    getCurrentPrivacyPolicy (some valueNum) = parsePolicyFromParam .init valueNum := by
  unfold getCurrentPrivacyPolicy
  dsimp only [Option.getD_some]
  split_ifs with hnone
  · rw [hnone, parse_none]
  · rfl

theorem modeOf_encode (format : PolicyFormat) (policyInfo : SuperPrivacyPolicyInfo) :
    modeOf (some (format.encode policyInfo)) = policyInfo.superPrivacyMode := by
  rw [modeOf, getCurrentPrivacyPolicy_some, format.parse_encode]

/-! ## The calls -/

/-- What is read of a stored call. `isEcc` is for an emergency number and for an
    emergency contact. -/
structure PrivacyCall where
  callId : ℤ
  callType : CallType
  callState : TelCallState
  isEcc : Bool
  conferenceState : TelConferenceState
  deriving DecidableEq, Repr

/-- Whether `GetCurrentCallNum` counts a carrier call. -/
def PrivacyCall.Counts (mainCallId : ℤ) (c : PrivacyCall) : Prop :=
  CountsAsCurrent c.conferenceState mainCallId c.callId

instance (mainCallId : ℤ) (c : PrivacyCall) : Decidable (c.Counts mainCallId) :=
  inferInstanceAs (Decidable (CountsAsCurrent _ _ _))

/-- The carrier calls in `callObjectPtrList_`. -/
def getCarrierCallList (calls : List PrivacyCall) : List PrivacyCall :=
  StoredCalls.getCarrierCallList PrivacyCall.callType calls

/-- How many of the stored calls count. -/
def getCurrentCallNum (mainCallId : ℤ) (calls : List PrivacyCall) : ℕ :=
  StoredCalls.getCurrentCallNum PrivacyCall.callType PrivacyCall.conferenceState
    PrivacyCall.callId mainCallId calls

/-- The calls that `DisconnectedHandle` leaves (call_status_manager.cpp:1475-1521): without the
    one reported, without the one that `HandleDialWhenHolding` takes down on the way, and with
    the last member of a conference set to IDLE. `members` are the calls that the last report of
    the slot has in a conference. -/
def callsLeft (calls : List PrivacyCall) (callId : ℤ) (pendingHangup : Option ℤ)
    (members : List ℤ) : List PrivacyCall :=
  let calls := calls.filter fun c => c.callId ≠ callId ∧ some c.callId ≠ pendingHangup
  match members.filter fun id => id ∈ calls.map PrivacyCall.callId with
  | [leftOne] =>
    calls.map fun c => if c.callId = leftOne then { c with conferenceState := .idle } else c
  | _ => calls

/-- What `CloseAllCall` requests. -/
inductive CloseRequest
  | rejectCall (callId : ℤ)
  | hangUpCall (callId : ℤ)
  deriving DecidableEq, Repr

/-- `CloseAllCall` (call_superprivacy_control_manager.cpp:112-127). -/
def closeAllCall (calls : List PrivacyCall) : List CloseRequest :=
  (calls.filter fun c => c.callType ≠ .voip ∧ c.isEcc = false).map fun c =>
    if c.callState = .incoming ∨ c.callState = .waiting then .rejectCall c.callId
    else .hangUpCall c.callId

/-! ## Model of the code -/

/-- The members of `CallSuperPrivacyControlManager`, the parameter, its changes of
    which the service has not been told, the calls, and `mainCallId_` of
    `ImsConference`.

    Of what has happened: whether a call has been dialed that is not created yet, the
    mode the user chose last, and whether the mode is off by the service's request. -/
structure PrivacyWorld where
  isSuperPrivacyModeChanged : Bool
  oldSuperPrivacyMode : SuperPrivacyMode
  param : ParamValue
  changes : List ParamValue
  calls : List PrivacyCall
  mainCallId : ℤ
  requests : List CloseRequest
  dialing : Bool
  chosen : SuperPrivacyMode
  switchedOff : Bool
  deriving DecidableEq

/-- What happens. The `…Result` tell whether `SetSuperPrivacyPolicies` and `DialCall`
    succeed, `folded` whether the device is folded. -/
inductive PrivacyOp
  | closeCallSuperPrivacyMode (setResult dialResult restoreResult : Bool)
  | closeAnswerSuperPrivacyMode (setResult : Bool)
  | userChange (folded : Bool) (param : ParamValue)
  | paramChangeCallback (folded : Bool)
  | newCall (call : PrivacyCall)
  | updateCall (callId : ℤ) (callState : TelCallState) (conferenceState : TelConferenceState)
  | setMainCall (callId : ℤ)
  | disconnectedHandle (callId : ℤ) (pendingHangup : Option ℤ) (members : List ℤ)
      (restoreResult : Bool)
  | disconnectedVoipCallHandle (callId : ℤ)
  deriving DecidableEq

namespace PrivacyWorld

/-- The mode that is set. -/
def mode (w : PrivacyWorld) : SuperPrivacyMode := modeOf w.param

/-- `SetSuperPrivacyPolicy` (lines 203-206). -/
def setSuperPrivacyPolicy (format : PolicyFormat) (w : PrivacyWorld)
    (policyInfo : SuperPrivacyPolicyInfo) (setResult : Bool) : PrivacyWorld :=
  if setResult = true then
    { w with
      param := some (format.encode policyInfo)
      changes := w.changes ++ [some (format.encode policyInfo)] }
  else w

/-- `CloseSuperPrivacyMode` (lines 158-166). -/
def closeSuperPrivacyMode (format : PolicyFormat) (w : PrivacyWorld) (setResult : Bool) :
    PrivacyWorld :=
  let policyInfo := getCurrentPrivacyPolicy w.param
  let switchedOff := w.switchedOff || (setResult && policyInfo.superPrivacyMode ≠ .off)
  let w := { w with isSuperPrivacyModeChanged := true }
  let w := { w with oldSuperPrivacyMode := policyInfo.superPrivacyMode, switchedOff }
  w.setSuperPrivacyPolicy format { policyInfo with superPrivacyMode := .off } setResult

/-- `RestorePrivacyPolicy` (lines 180-191). -/
def restorePrivacyPolicy (format : PolicyFormat) (w : PrivacyWorld) (setResult : Bool) :
    PrivacyWorld :=
  if w.isSuperPrivacyModeChanged = false then w
  else
    let policyInfo := getCurrentPrivacyPolicy w.param
    let superPrivacyMode := w.oldSuperPrivacyMode
    let switchedOff := w.switchedOff && !(setResult && superPrivacyMode ≠ .off)
    let w := w.setSuperPrivacyPolicy format { policyInfo with superPrivacyMode } setResult
    { w with isSuperPrivacyModeChanged := false, switchedOff }

/-- `CloseCallSuperPrivacyMode` (lines 136-156). -/
def closeCallSuperPrivacyMode (format : PolicyFormat) (w : PrivacyWorld)
    (setResult dialResult restoreResult : Bool) : PrivacyWorld :=
  let w := w.closeSuperPrivacyMode format setResult
  if setResult = true then
    if dialResult = false then w.restorePrivacyPolicy format restoreResult
    else { w with dialing := true }
  else w

/-- `CloseAnswerSuperPrivacyMode` (lines 168-178), whatever `AnswerCall` returns. -/
def closeAnswerSuperPrivacyMode (format : PolicyFormat) (w : PrivacyWorld) (setResult : Bool) :
    PrivacyWorld := w.closeSuperPrivacyMode format setResult

/-- `ParamChangeCallback` and `CloseCallAccordingPolicy` (lines 41-65 and 86-91). -/
def paramChangeCallback (folded : Bool) (w : PrivacyWorld) : ParamValue → PrivacyWorld
  | none => w
  | some valueNum =>
    let policyInfo := parsePolicyFromParam .init valueNum
    let w :=
      if canCallWithSuperPrivacyPolicy folded policyInfo = false then
        { w with requests := w.requests ++ closeAllCall w.calls }
      else w
    if policyInfo.superPrivacyMode ≠ .off then { w with isSuperPrivacyModeChanged := false } else w

/-- The user changes the parameter, of which the service is told after the changes before it. -/
def userChange (folded : Bool) (w : PrivacyWorld) (param : ParamValue) : PrivacyWorld :=
  let w := w.changes.foldl (paramChangeCallback folded) { w with changes := [] }
  let w := { w with param, chosen := modeOf param, switchedOff := false }
  w.paramChangeCallback folded param

/-- `DisconnectedHandle` for a call that is not a VoIP call (call_status_manager.cpp:1475-1534). -/
def disconnectedHandle (format : PolicyFormat) (w : PrivacyWorld) (callId : ℤ)
    (pendingHangup : Option ℤ) (members : List ℤ) (restoreResult : Bool) : PrivacyWorld :=
  if ∃ c ∈ w.calls, c.callId = callId ∧ c.callType ≠ .voip then
    let w := { w with calls := callsLeft w.calls callId pendingHangup members }
    if getCurrentCallNum w.mainCallId w.calls = 0 then w.restorePrivacyPolicy format restoreResult
    else w
  else w

/-- `DisconnectedVoipCallHandle` (lines 1451-1473). -/
def disconnectedVoipCallHandle (w : PrivacyWorld) (callId : ℤ) : PrivacyWorld :=
  if ∃ c ∈ w.calls, c.callId = callId ∧ c.callType = .voip then
    { w with calls := w.calls.filter fun c => c.callId ≠ callId }
  else w

/-- One operation. -/
def step (format : PolicyFormat) (w : PrivacyWorld) : PrivacyOp → PrivacyWorld
  | .closeCallSuperPrivacyMode setResult dialResult restoreResult =>
    w.closeCallSuperPrivacyMode format setResult dialResult restoreResult
  | .closeAnswerSuperPrivacyMode setResult => w.closeAnswerSuperPrivacyMode format setResult
  | .userChange folded param => w.userChange folded param
  | .paramChangeCallback folded =>
    match w.changes with
    | [] => w
    | param :: changes => { w with changes }.paramChangeCallback folded param
  | .newCall call => { w with calls := w.calls ++ [call], dialing := false }
  | .updateCall callId callState conferenceState =>
    let update (c : PrivacyCall) :=
      if c.callId = callId then { c with callState, conferenceState } else c
    { w with calls := w.calls.map update }
  | .setMainCall callId => { w with mainCallId := callId }
  | .disconnectedHandle callId pendingHangup members restoreResult =>
    w.disconnectedHandle format callId pendingHangup members restoreResult
  | .disconnectedVoipCallHandle callId => w.disconnectedVoipCallHandle callId

/-- The service starts without calls, with the policy that the user has. -/
def init (param : ParamValue) : PrivacyWorld where
  isSuperPrivacyModeChanged := false
  oldSuperPrivacyMode := .off
  param := param
  changes := []
  calls := []
  mainCallId := -1
  requests := []
  dialing := false
  chosen := modeOf param
  switchedOff := false

/-! ## Specification -/

/-- The flag is set only while the mode is off by the service's own request, and the
    user's choice is kept; with neither a call nor a dialed one left, the flag is
    clear and the mode is the user's. -/
structure Sound (w : PrivacyWorld) : Prop where
  changed : w.isSuperPrivacyModeChanged = true →
    w.switchedOff = true ∧ w.oldSuperPrivacyMode = w.chosen
  ended : w.calls = [] → w.dialing = false →
    w.isSuperPrivacyModeChanged = false ∧ w.mode = w.chosen

/-- A DISCONNECTED report that clears the flag leaves no carrier call. -/
def RestoresLast (format : PolicyFormat) (w : PrivacyWorld) : PrivacyOp → Prop
  | .disconnectedHandle callId pendingHangup members restoreResult =>
    let w' := w.step format (.disconnectedHandle callId pendingHangup members restoreResult)
    w.isSuperPrivacyModeChanged = true → w'.isSuperPrivacyModeChanged = false →
      getCarrierCallList w'.calls = []
  | _ => True

/-- The condition on an operation. A request is made while the mode is on, and
    succeeds; so does the restoring one. An answered call is there. While the flag is
    set, the user does not set the mode to off, unless the callback of another mode is
    still to come; no such callback comes by itself; of the carrier calls that remain
    one counts; and the last call is not a VoIP call. -/
def StepOk (w : PrivacyWorld) : PrivacyOp → Prop
  | .closeCallSuperPrivacyMode setResult dialResult restoreResult =>
    setResult = true ∧ w.mode ≠ .off ∧ (dialResult = true ∨ restoreResult = true)
  | .closeAnswerSuperPrivacyMode setResult =>
    setResult = true ∧ w.mode ≠ .off ∧ (w.calls ≠ [] ∨ w.dialing = true)
  | .userChange _ param =>
    w.isSuperPrivacyModeChanged = true →
      modeOf param ≠ .off ∨ ∃ change ∈ w.changes, modeOf change ≠ .off
  | .paramChangeCallback _ =>
    w.isSuperPrivacyModeChanged = true → ∀ change ∈ w.changes.head?, modeOf change = .off
  | .disconnectedHandle callId pendingHangup members restoreResult =>
    w.isSuperPrivacyModeChanged = true → (∃ c ∈ w.calls, c.callId = callId ∧ c.callType ≠ .voip) →
      let carrierCalls := getCarrierCallList (callsLeft w.calls callId pendingHangup members)
      (∃ c ∈ carrierCalls, c.Counts w.mainCallId) ∨ (carrierCalls = [] ∧ restoreResult = true)
  | .disconnectedVoipCallHandle callId =>
    w.isSuperPrivacyModeChanged = true → (∃ c ∈ w.calls, c.callId = callId ∧ c.callType = .voip) →
      (∃ c ∈ w.calls, c.callId ≠ callId) ∨ w.dialing = true
  | .newCall _ | .updateCall _ _ _ | .setMainCall _ => True

/-! ## What the functions change -/

variable {format : PolicyFormat}

/-- What a callback does: it may request that calls be closed, and a mode that is on
    clears the flag. -/
theorem paramChangeCallback_eq (folded : Bool) (w : PrivacyWorld) (param : ParamValue) :
    ∃ requests, w.paramChangeCallback folded param =
      { w with
        isSuperPrivacyModeChanged := w.isSuperPrivacyModeChanged && decide (modeOf param = .off)
        requests } := by
  cases param with
  | none =>
    refine ⟨w.requests, ?_⟩
    have hoff : modeOf none = .off := rfl
    simp [paramChangeCallback, hoff]
  | some valueNum =>
    have hmode : (parsePolicyFromParam .init valueNum).superPrivacyMode =
        modeOf (some valueNum) := by
      rw [modeOf, getCurrentPrivacyPolicy_some]
    obtain ⟨requests, hrequests⟩ : ∃ requests,
        (if canCallWithSuperPrivacyPolicy folded (parsePolicyFromParam .init valueNum) = false
          then { w with requests := w.requests ++ closeAllCall w.calls }
          else w) = { w with requests } := by
      split_ifs
      · exact ⟨_, rfl⟩
      · exact ⟨w.requests, rfl⟩
    refine ⟨requests, ?_⟩
    unfold paramChangeCallback
    dsimp only
    rw [hmode, hrequests]
    by_cases hoff : modeOf (some valueNum) = .off
    · simp [hoff]
    · simp [hoff]

/-- What the callbacks of several changes do. -/
theorem paramChangeCallbacks_eq (folded : Bool) (w : PrivacyWorld) (changes : List ParamValue) :
    ∃ requests, changes.foldl (paramChangeCallback folded) w =
      { w with
        isSuperPrivacyModeChanged :=
          w.isSuperPrivacyModeChanged && changes.all fun change => modeOf change = .off
        requests } := by
  induction changes generalizing w with
  | nil => exact ⟨w.requests, by simp⟩
  | cons change changes ih =>
    obtain ⟨requests, hone⟩ := paramChangeCallback_eq folded w change
    obtain ⟨requests', hrest⟩ := ih (w.paramChangeCallback folded change)
    refine ⟨requests', ?_⟩
    rw [List.foldl_cons, hrest, hone]
    simp [Bool.and_assoc]

/-! ## What admissible operations keep -/

/-- The flag is set exactly while the mode is off by the service's own request; the
    mode is the user's otherwise, and what is kept is the user's mode, which is on. -/
structure Kept (w : PrivacyWorld) : Prop where
  switchedOff : w.switchedOff = w.isSuperPrivacyModeChanged
  mode : w.mode = if w.isSuperPrivacyModeChanged then .off else w.chosen
  old : w.isSuperPrivacyModeChanged = true → w.oldSuperPrivacyMode = w.chosen ∧ w.chosen ≠ .off

/-- The invariant. -/
structure Inv (w : PrivacyWorld) : Prop extends Kept w where
  ended : w.calls = [] → w.dialing = false → w.isSuperPrivacyModeChanged = false

variable {w : PrivacyWorld}

theorem Inv.sound (h : w.Inv) : w.Sound where
  changed := fun hchanged => ⟨h.switchedOff.trans hchanged, (h.old hchanged).1⟩
  ended := fun hcalls hdialing => by
    have hchanged := h.ended hcalls hdialing
    have hmode := h.mode
    rw [hchanged] at hmode
    exact ⟨hchanged, hmode⟩

theorem inv_init (param : ParamValue) : (init param).Inv where
  switchedOff := rfl
  mode := rfl
  old := fun hchanged => Bool.noConfusion hchanged
  ended := fun _ _ => rfl

theorem Kept.inv (h : w.Kept) (hchanged : w.isSuperPrivacyModeChanged = false) : w.Inv :=
  ⟨h, fun _ _ => hchanged⟩

theorem Kept.mode_of_clear (h : w.Kept) (hchanged : w.isSuperPrivacyModeChanged = false) :
    w.mode = w.chosen := by
  have hmode := h.mode
  rwa [hchanged] at hmode

/-- While the mode is on, the flag is clear. -/
theorem Kept.changed_of_mode (h : w.Kept) (hmode : w.mode ≠ .off) :
    w.isSuperPrivacyModeChanged = false := by
  by_contra hchanged
  rw [Bool.not_eq_false] at hchanged
  have hoff := h.mode
  rw [hchanged] at hoff
  exact hmode hoff

/-- A request that succeeds while the mode is on. -/
theorem Kept.closeSuperPrivacyMode (h : w.Kept) (hmode : w.mode ≠ .off) :
    (w.closeSuperPrivacyMode format true).Kept := by
  have hchosen := h.mode_of_clear (h.changed_of_mode hmode)
  constructor
  · show (w.switchedOff || (true && decide (w.mode ≠ .off))) = true
    simp [hmode]
  · exact modeOf_encode format _
  · intro _
    show w.mode = w.chosen ∧ w.chosen ≠ .off
    exact ⟨hchosen, hchosen ▸ hmode⟩

theorem restorePrivacyPolicy_of_clear (hchanged : w.isSuperPrivacyModeChanged = false)
    (setResult : Bool) : w.restorePrivacyPolicy format setResult = w := if_pos hchanged

theorem restorePrivacyPolicy_calls (w : PrivacyWorld) (setResult : Bool) :
    (w.restorePrivacyPolicy format setResult).calls = w.calls := by
  unfold restorePrivacyPolicy setSuperPrivacyPolicy
  dsimp only
  split_ifs <;> rfl

/-- A restoring request that succeeds brings the user's mode back. -/
theorem Kept.restorePrivacyPolicy (h : w.Kept) :
    (w.restorePrivacyPolicy format true).Inv := by
  cases hchanged : w.isSuperPrivacyModeChanged with
  | false =>
    rw [restorePrivacyPolicy_of_clear hchanged]
    exact h.inv hchanged
  | true =>
    obtain ⟨hold, hon⟩ := h.old hchanged
    have heq : w.restorePrivacyPolicy format true =
        { w.setSuperPrivacyPolicy format
            { getCurrentPrivacyPolicy w.param with superPrivacyMode := w.oldSuperPrivacyMode } true
          with
          isSuperPrivacyModeChanged := false
          switchedOff := w.switchedOff && !(true && decide (w.oldSuperPrivacyMode ≠ .off)) } :=
      if_neg (by rw [hchanged]; exact Bool.noConfusion)
    rw [heq]
    refine Kept.inv ⟨?_, ?_, fun hset => Bool.noConfusion hset⟩ rfl
    · show (w.switchedOff && !(true && decide (w.oldSuperPrivacyMode ≠ .off))) = false
      simp [hold, hon]
    · exact (modeOf_encode format _).trans hold

/-- An operation on the calls alone. -/
theorem Kept.calls (h : w.Kept) (calls : List PrivacyCall) (mainCallId : ℤ) (dialing : Bool) :
    { w with calls, mainCallId, dialing }.Kept := ⟨h.switchedOff, h.mode, h.old⟩

/-- The user's choice leaves the flag clear. -/
theorem inv_userChange (folded : Bool) {param : ParamValue}
    (hok : w.StepOk (.userChange folded param)) : (w.userChange folded param).Inv := by
  obtain ⟨requests, hbefore⟩ :=
    paramChangeCallbacks_eq folded { w with changes := [] } w.changes
  have hclear : ((w.isSuperPrivacyModeChanged &&
      (w.changes.all fun change => modeOf change = .off)) && decide (modeOf param = .off)) =
        false := by
    cases hchanged : w.isSuperPrivacyModeChanged with
    | false => rfl
    | true =>
      rcases hok hchanged with hparam | ⟨change, hmem, hchange⟩
      · simp [hparam]
      · have hall : (w.changes.all fun change => modeOf change = .off) = false :=
          List.all_eq_false.mpr ⟨change, hmem, by simpa using hchange⟩
        simp [hall]
  unfold userChange
  rw [hbefore]
  dsimp only
  obtain ⟨requests', hafter⟩ := paramChangeCallback_eq folded
    { w with
      isSuperPrivacyModeChanged :=
        w.isSuperPrivacyModeChanged && w.changes.all fun change => modeOf change = .off
      param, changes := [], requests, chosen := modeOf param, switchedOff := false } param
  rw [hafter]
  dsimp only
  rw [hclear]
  exact Kept.inv ⟨rfl, rfl, fun hset => Bool.noConfusion hset⟩ rfl

/-- The callback of a change that is not the user's. -/
theorem Inv.paramChangeCallback (h : w.Inv) (folded : Bool)
    (hok : w.StepOk (.paramChangeCallback folded)) :
    (w.step format (.paramChangeCallback folded)).Inv := by
  unfold step
  cases hchanges : w.changes with
  | nil => exact h
  | cons change changes =>
    obtain ⟨requests, hafter⟩ := paramChangeCallback_eq folded { w with changes } change
    have hkeep : (w.isSuperPrivacyModeChanged && decide (modeOf change = .off)) =
        w.isSuperPrivacyModeChanged := by
      cases hchanged : w.isSuperPrivacyModeChanged with
      | false => rfl
      | true =>
        have hoff : modeOf change = .off := hok hchanged change (by rw [hchanges]; rfl)
        simp [hoff]
    dsimp only
    rw [hafter]
    dsimp only
    rw [hkeep]
    exact ⟨⟨h.switchedOff, h.mode, h.old⟩, h.ended⟩

theorem Inv.closeCallSuperPrivacyMode (h : w.Inv) {setResult dialResult restoreResult : Bool}
    (hok : w.StepOk (.closeCallSuperPrivacyMode setResult dialResult restoreResult)) :
    (w.closeCallSuperPrivacyMode format setResult dialResult restoreResult).Inv := by
  obtain ⟨hset, hmode, hdial⟩ := hok
  subst hset
  have hclosed : (w.closeSuperPrivacyMode format true).Kept :=
    h.toKept.closeSuperPrivacyMode hmode
  unfold PrivacyWorld.closeCallSuperPrivacyMode
  dsimp only
  rw [if_pos rfl]
  cases dialResult with
  | false =>
    rw [if_pos rfl, hdial.resolve_left Bool.noConfusion]
    exact hclosed.restorePrivacyPolicy
  | true =>
    rw [if_neg Bool.noConfusion]
    exact ⟨hclosed.calls _ _ _, fun _ hdialing => Bool.noConfusion hdialing⟩

theorem Inv.closeAnswerSuperPrivacyMode (h : w.Inv) {setResult : Bool}
    (hok : w.StepOk (.closeAnswerSuperPrivacyMode setResult)) :
    (w.closeAnswerSuperPrivacyMode format setResult).Inv := by
  obtain ⟨hset, hmode, hcalls⟩ := hok
  subst hset
  refine ⟨h.toKept.closeSuperPrivacyMode hmode, fun hnone hdialing => ?_⟩
  rcases hcalls with hcalls | hcalls
  · exact absurd hnone hcalls
  · exact absurd (hcalls.symm.trans hdialing) Bool.noConfusion

/-- A call that counts, or none that might. -/
theorem getCurrentCallNum_eq_zero {mainCallId : ℤ} {calls : List PrivacyCall} :
    getCurrentCallNum mainCallId calls = 0 ↔
      ∀ c ∈ getCarrierCallList calls, ¬ c.Counts mainCallId := by
  unfold getCurrentCallNum StoredCalls.getCurrentCallNum
  rw [List.countP_eq_zero]
  simp [getCarrierCallList, PrivacyCall.Counts]

theorem getCurrentCallNum_nil {mainCallId : ℤ} {calls : List PrivacyCall}
    (h : getCarrierCallList calls = []) : getCurrentCallNum mainCallId calls = 0 := by
  exact getCurrentCallNum_eq_zero.mpr (h ▸ fun _ hc => absurd hc List.not_mem_nil)

theorem Inv.disconnectedHandle (h : w.Inv) {callId : ℤ} {pendingHangup : Option ℤ}
    {members : List ℤ} {restoreResult : Bool}
    (hok : w.StepOk (.disconnectedHandle callId pendingHangup members restoreResult)) :
    let w' := w.disconnectedHandle format callId pendingHangup members restoreResult
    w'.Inv ∧ (w.isSuperPrivacyModeChanged = true → w'.isSuperPrivacyModeChanged = false →
      getCarrierCallList w'.calls = []) := by
  unfold PrivacyWorld.disconnectedHandle
  dsimp only
  have hkept : { w with calls := callsLeft w.calls callId pendingHangup members }.Kept :=
    h.toKept.calls _ _ _
  split_ifs with hstored hzero
  · cases hchanged : w.isSuperPrivacyModeChanged with
    | false =>
      rw [restorePrivacyPolicy_of_clear rfl]
      rw [hchanged] at hkept
      exact ⟨hkept.inv rfl, fun hset => Bool.noConfusion hset⟩
    | true =>
      rw [hchanged] at hkept
      obtain ⟨c, hc, hcounts⟩ | ⟨hnone, hset⟩ := hok hchanged hstored
      · exact absurd hcounts (getCurrentCallNum_eq_zero.mp hzero c hc)
      · subst hset
        refine ⟨hkept.restorePrivacyPolicy, fun _ _ => ?_⟩
        rw [restorePrivacyPolicy_calls]
        exact hnone
  · refine ⟨⟨hkept, fun hnone _ => ?_⟩, fun hset hclear => ?_⟩
    · refine absurd (getCurrentCallNum_nil ?_) hzero
      replace hnone : callsLeft w.calls callId pendingHangup members = [] := hnone
      rw [hnone]
      rfl
    · exact absurd (hset.symm.trans hclear) Bool.noConfusion
  · exact ⟨h, fun hset hclear => absurd (hset.symm.trans hclear) Bool.noConfusion⟩

theorem Inv.disconnectedVoipCallHandle (h : w.Inv) {callId : ℤ}
    (hok : w.StepOk (.disconnectedVoipCallHandle callId)) :
    (w.disconnectedVoipCallHandle callId).Inv := by
  unfold PrivacyWorld.disconnectedVoipCallHandle
  split_ifs with hstored
  · refine ⟨h.toKept.calls _ _ _, fun hnone hdialing => ?_⟩
    by_contra hchanged
    rw [Bool.not_eq_false] at hchanged
    rcases hok hchanged hstored with ⟨c, hc, hne⟩ | hdialed
    · exact absurd (List.filter_eq_nil_iff.mp hnone c hc) (by simpa using hne)
    · exact absurd (hdialed.symm.trans hdialing) Bool.noConfusion
  · exact h

/-- **Step lemma.** -/
theorem Inv.step (h : w.Inv) (op : PrivacyOp) (hok : w.StepOk op) :
    (w.step format op).Inv ∧ w.RestoresLast format op := by
  cases op with
  | closeCallSuperPrivacyMode setResult dialResult restoreResult =>
    exact ⟨h.closeCallSuperPrivacyMode hok, trivial⟩
  | closeAnswerSuperPrivacyMode setResult => exact ⟨h.closeAnswerSuperPrivacyMode hok, trivial⟩
  | userChange folded param => exact ⟨inv_userChange folded hok, trivial⟩
  | paramChangeCallback folded => exact ⟨h.paramChangeCallback folded hok, trivial⟩
  | newCall call =>
    refine ⟨⟨h.toKept.calls _ _ _, fun hnone _ => ?_⟩, trivial⟩
    exact absurd hnone (List.concat_ne_nil call w.calls)
  | updateCall callId callState conferenceState =>
    refine ⟨⟨h.toKept.calls _ _ _, fun hnone hdialing => ?_⟩, trivial⟩
    exact h.ended (List.map_eq_nil_iff.mp hnone) hdialing
  | setMainCall callId => exact ⟨⟨h.toKept.calls _ _ _, h.ended⟩, trivial⟩
  | disconnectedHandle callId pendingHangup members restoreResult =>
    exact h.disconnectedHandle hok
  | disconnectedVoipCallHandle callId => exact ⟨h.disconnectedVoipCallHandle hok, trivial⟩

instance (w : PrivacyWorld) : (op : PrivacyOp) → Decidable (w.StepOk op)
  | .closeCallSuperPrivacyMode _ _ _ | .closeAnswerSuperPrivacyMode _ =>
    inferInstanceAs (Decidable (_ ∧ _ ∧ (_ ∨ _)))
  | .userChange _ param =>
    -- the values of the parameter are a finite type as well, which is not to be searched
    have : Decidable (∃ change ∈ w.changes, modeOf change ≠ .off) := List.decidableBEx _ _
    inferInstanceAs (Decidable (w.isSuperPrivacyModeChanged = true →
      modeOf param ≠ .off ∨ ∃ change ∈ w.changes, modeOf change ≠ .off))
  | .paramChangeCallback _ =>
    have : Decidable (∀ change ∈ w.changes.head?, modeOf change = .off) :=
      Option.decidableForallMem _
    inferInstanceAs (Decidable (w.isSuperPrivacyModeChanged = true →
      ∀ change ∈ w.changes.head?, modeOf change = .off))
  | .disconnectedHandle callId pendingHangup members _ =>
    inferInstanceAs (Decidable (_ → (∃ c ∈ w.calls, _ ∧ _) →
      (∃ c ∈ getCarrierCallList (callsLeft w.calls callId pendingHangup members), c.Counts _) ∨
        (_ ∧ _)))
  | .disconnectedVoipCallHandle _ =>
    inferInstanceAs (Decidable (_ → (∃ c ∈ w.calls, _ ∧ _) → (∃ c ∈ w.calls, _ ≠ _) ∨ _))
  | .newCall _ | .updateCall _ _ _ | .setMainCall _ => .isTrue trivial

end PrivacyWorld

/-! ## Main result -/

open PrivacyWorld (step init)

/-- **Main theorem.** In a run of operations that meet the condition, the flag and
    the kept mode are right in every state, and no DISCONNECTED report restores the
    mode while a carrier call is stored. -/
theorem superPrivacy_restored (format : PolicyFormat) (param : ParamValue) (ops : List PrivacyOp)
    (hops : Run.StepsMeet (step format) PrivacyWorld.StepOk (init param) ops) :
    Run.StatesMeet (step format) PrivacyWorld.Sound (init param) ops ∧
      Run.StepsMeet (step format) (PrivacyWorld.RestoresLast format) (init param) ops := by
  have hinit := PrivacyWorld.inv_init param
  have hstep : ∀ (w : PrivacyWorld) (op : PrivacyOp), w.Inv → w.StepOk op →
      (w.step format op).Inv ∧ w.RestoresLast format op := fun _ op h hok => h.step op hok
  constructor
  · have hinv := Run.statesMeet_of_stepsMeet (fun w op h hok => (hstep w op h hok).1) hinit hops
    exact hinv.mono fun _ h => h.sound
  · exact Run.StepsMeet.of_invariant hstep hinit hops

/-- The number of a policy: four bits for the mode, the camera, the microphone and the location. -/
def policyNumber (policyInfo : SuperPrivacyPolicyInfo) : BitVec 32 :=
  BitVec.ofNat 32 (policyInfo.superPrivacyMode.ctorIdx + 16 * policyInfo.camera.ctorIdx +
    256 * policyInfo.microphone.ctorIdx + 4096 * policyInfo.location.ctorIdx)

theorem parse_policyNumber (policyInfo : SuperPrivacyPolicyInfo) :
    parsePolicyFromParam .init (policyNumber policyInfo) = policyInfo := by
  obtain ⟨superPrivacyMode, camera, microphone, location⟩ := policyInfo
  cases superPrivacyMode <;> cases camera <;> cases microphone <;> cases location <;> rfl

/-- The format that the comment of `ParsePolicyFromParam` gives. -/
def nibbles : PolicyFormat := ⟨policyNumber, parse_policyNumber⟩

/-- The user has super privacy always on, and the camera enabled. -/
def alwaysOn : ParamValue := some 18

/-- A CS call that is under way. -/
def csCall (callId : ℤ) : PrivacyCall := ⟨callId, .cs, .active, false, .idle⟩

/-- The user dials, and the call ends. -/
def dialAndEnd : List PrivacyOp :=
  [.closeCallSuperPrivacyMode true true true, .newCall (csCall 1), .paramChangeCallback false,
    .disconnectedHandle 1 none [] true, .paramChangeCallback false]

/-- One call, for which the mode is switched off and restored. -/
theorem superPrivacy_restored_dialAndEnd :
    Run.StatesMeet (step nibbles) PrivacyWorld.Sound (init alwaysOn) dialAndEnd ∧
      Run.StepsMeet (step nibbles) (PrivacyWorld.RestoresLast nibbles) (init alwaysOn)
        dialAndEnd :=
  superPrivacy_restored nibbles alwaysOn dialAndEnd (by decide +kernel)

/-- A VoIP call that the user answers, and its end. -/
def voipAnswered : List PrivacyOp :=
  [.newCall ⟨1, .voip, .incoming, false, .idle⟩, .closeAnswerSuperPrivacyMode true,
    .disconnectedVoipCallHandle 1]

/-- Two members of a CS conference, and the end of a third call. -/
def conferenceLives : List PrivacyOp :=
  [.closeCallSuperPrivacyMode true true true, .newCall (csCall 1), .newCall (csCall 2),
    .newCall (csCall 3), .updateCall 1 .active .active, .updateCall 2 .active .active,
    .disconnectedHandle 3 none [1, 2] true]

/-- A dial that fails, a second one, and the callbacks of the first one during the call. -/
def lateCallback : List PrivacyOp :=
  [.closeCallSuperPrivacyMode true false true, .closeCallSuperPrivacyMode true true true,
    .newCall (csCall 1), .paramChangeCallback false, .paramChangeCallback false,
    .disconnectedHandle 1 none [] true]

/-- A refused request sets the flag; after an answered VoIP call, and after a late callback, the
    mode stays off; and with two members of a conference left the mode is restored. -/
theorem superPrivacy_not_restored :
    ¬ Run.StatesMeet (step nibbles) PrivacyWorld.Sound (init alwaysOn)
        [.closeAnswerSuperPrivacyMode false] ∧
      ¬ Run.StatesMeet (step nibbles) PrivacyWorld.Sound (init alwaysOn) voipAnswered ∧
      ¬ Run.StepsMeet (step nibbles) (PrivacyWorld.RestoresLast nibbles) (init alwaysOn)
        conferenceLives ∧
      ¬ Run.StatesMeet (step nibbles) PrivacyWorld.Sound (init alwaysOn) lateCallback := by
  refine ⟨fun h => ?_, fun h => ?_, ?_, fun h => ?_⟩
  · have hoff := (h.last.changed (by decide)).1
    revert hoff
    decide
  · have hclear := (h.last.ended (by decide) (by decide)).1
    revert hclear
    decide
  · rintro ⟨-, -, -, -, -, -, hlast, -⟩
    have hnone := hlast (by decide) (by decide)
    revert hnone
    decide
  · have hmode := (h.last.ended (by decide) (by decide)).2
    revert hmode
    decide

end CallManager.SuperPrivacy
