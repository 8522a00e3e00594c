import CallManager.Types

/-!
# Call objects

The state of a call object and the transition `SetTelCallState` that every
status report goes through. Call objects are held by reference (`sptr`), so a
`Ref` names an object and a heap gives its fields.

The fields are those the modelled functions read or write; times, contact data
and the texts of a call are left out.
-/

namespace CallManager

/-- A non-null `sptr<CallBase>`: the identity of a call object. -/
abbrev Ref := ℕ

/-- The fields of `CallBase` and of its subclasses `CarrierCall`, `BluetoothCall` and `VoIPCall`
    (call_base.h:179-240, carrier_call.h:56-61, bluetooth_call.h:75-84, voip_call.h:62-75).
    `objectType` is the class of the object, which `SetCallType` does not change. -/
structure CallBase where
  callId : ℤ
  objectType : CallType
  callType : CallType
  accountNumber : String
  callState : TelCallState
  callRunningState : CallRunningState
  conferenceState : TelConferenceState
  slotId : ℤ
  index : ℤ
  phoneIndex : ℤ
  phoneOrWatch : ℤ
  videoState : VideoStateType
  voipCallInfo : VoipCallReportInfo
  isNonVirtualCall : Bool
  deriving DecidableEq, Repr, Inhabited

namespace CallBase

/-- The `StateChangesTo…` function of each state (call_base.cpp:295-364): the running state that
    belongs to it, and what it does to the conference state. -/
def stateChangesTo (c : CallBase) : TelCallState → CallBase
  | .dialing => { c with callRunningState := .dialing }
  | .incoming => { c with callRunningState := .ringing }
  | .waiting => { c with callRunningState := .ringing }
  | .active => { c with callRunningState := .active }
  | .holding =>
    { c with
      callRunningState := .hold
      conferenceState :=
        if c.conferenceState = .active then .disconnected else c.conferenceState }
  | .disconnected =>
    { c with
      callRunningState := .ended
      conferenceState :=
        if c.conferenceState = .disconnecting ∨ c.conferenceState = .active then .disconnected
        else c.conferenceState }
  | .disconnecting =>
    { c with
      callRunningState := .ending
      conferenceState :=
        if c.conferenceState = .active then .disconnecting else c.conferenceState }
  | .alerting => { c with callRunningState := .dialing }
  | .unknown | .idle | .answered => c

/-- `CallBase::SetTelCallState` (call_base.cpp:252-293). Only a call that is still being created
    may be given the state it has already, except DIALING. -/
def setTelCallState (c : CallBase) (nextState : TelCallState) : ErrorCode × CallBase :=
  if c.callRunningState ≠ .create ∧ c.callState = nextState ∧ nextState ≠ .dialing then
    (.callErrNotNewState, c)
  else (.telephonySuccess, { c with callState := nextState }.stateChangesTo nextState)

/-! ## What a state change keeps -/

@[simp] theorem stateChangesTo_callId (c : CallBase) (s : TelCallState) :
    (c.stateChangesTo s).callId = c.callId := by
  cases s <;> rfl

@[simp] theorem stateChangesTo_objectType (c : CallBase) (s : TelCallState) :
    (c.stateChangesTo s).objectType = c.objectType := by
  cases s <;> rfl

@[simp] theorem stateChangesTo_callType (c : CallBase) (s : TelCallState) :
    (c.stateChangesTo s).callType = c.callType := by
  cases s <;> rfl

@[simp] theorem stateChangesTo_callState (c : CallBase) (s : TelCallState) :
    (c.stateChangesTo s).callState = c.callState := by
  cases s <;> rfl

@[simp] theorem setTelCallState_callId (c : CallBase) (s : TelCallState) :
    (c.setTelCallState s).2.callId = c.callId := by
  unfold setTelCallState
  split_ifs <;> simp

theorem setTelCallState_objectType (c : CallBase) (s : TelCallState) :
    (c.setTelCallState s).2.objectType = c.objectType := by
  unfold setTelCallState
  split_ifs <;> simp

@[simp] theorem setTelCallState_callType (c : CallBase) (s : TelCallState) :
    (c.setTelCallState s).2.callType = c.callType := by
  unfold setTelCallState
  split_ifs <;> simp

/-- Whether it is refused as a duplicate or not, `SetTelCallState` leaves the
    call in the state it was asked for. -/
@[simp] theorem setTelCallState_callState (c : CallBase) (s : TelCallState) :
    (c.setTelCallState s).2.callState = s := by
  unfold setTelCallState
  split_ifs with h
  · exact h.2.1
  · simp

/-! ## Running state and call state

Only `SetTelCallState` makes a call active or held; the other writers of the
running state write CREATE, CONNECTING and RINGING
(call_base.cpp:38, 57, 80 and 120). -/

/-- An active or held call is in the call state of that name. -/
structure InStep (c : CallBase) : Prop where
  active : c.callRunningState = .active → c.callState = .active
  hold : c.callRunningState = .hold → c.callState = .holding

/-- The states that calls are given keep the two in step. -/
theorem InStep.setTelCallState {c : CallBase} {s : TelCallState} (h : c.InStep)
    (hs : s ∉ [TelCallState.unknown, .idle, .answered]) : (c.setTelCallState s).2.InStep := by
  unfold CallBase.setTelCallState
  split_ifs
  · exact h
  · cases s <;> simp at hs <;> constructor <;> intro hrun <;>
      first | rfl | exact nomatch hrun

end CallBase

end CallManager
