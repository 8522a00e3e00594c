import CallManager.Types

/-!
# What is read off the list of the calls

`CallObjectManager` keeps one list of call objects, and each module keeps of them the
fields that its functions read. What several modules ask of the list is stated here, over
any record of a call.
-/

namespace CallManager

/-- The types of the calls that `GetCarrierCallList` lists. -/
def carrierTypes : List CallType := [.cs, .ims, .satellite, .bluetooth]

/-- `GetCurrentCallNum` counts the call: it is in no conference, or is the main call of the
    IMS one. -/
def CountsAsCurrent {κ : Type*} (conferenceState : TelConferenceState) (mainCallId callId : κ) :
    Prop :=
  (conferenceState ≠ .idle ∧ mainCallId = callId) ∨ conferenceState = .idle

instance {κ : Type*} [DecidableEq κ] (conferenceState : TelConferenceState)
    (mainCallId callId : κ) : Decidable (CountsAsCurrent conferenceState mainCallId callId) :=
  inferInstanceAs (Decidable (_ ∨ _))

/-- `RemovePostDialPhoneNumber` (call_number_utils.cpp:193-209): the digits and `*`, `#`, `+`,
    `N`, up to a pause. -/
def removePostDialPhoneNumber (phoneString : ByteString) : ByteString :=
  (phoneString.takeWhile fun c => c ≠ 44 ∧ c ≠ 59).filter fun c =>
    48 ≤ c ∧ c ≤ 57 ∨ c = 42 ∨ c = 35 ∨ c = 43 ∨ c = 78

namespace StoredCalls

variable {α κ : Type*}

/-- `GetCarrierCallList` (call_object_manager.cpp:374-387). -/
def getCarrierCallList (callType : α → CallType) (calls : List α) : List α :=
  calls.filter fun it => callType it ∈ carrierTypes

/-- `GetCurrentCallNum` (call_object_manager.cpp:352-372). -/
def getCurrentCallNum [DecidableEq κ] (callType : α → CallType)
    (conferenceState : α → TelConferenceState) (callId : α → κ) (mainCallId : κ)
    (calls : List α) : ℕ :=
  (getCarrierCallList callType calls).countP fun it =>
    CountsAsCurrent (conferenceState it) mainCallId (callId it)

/-- `GetOneCallObject(callState)`: the last call in the running state
    (call_object_manager.cpp:683-693). -/
def getOneCallObject (callRunningState : α → CallRunningState) (calls : List α)
    (callState : CallRunningState) : Option α :=
  calls.reverse.find? fun it => callRunningState it = callState

section Lemmas

variable [DecidableEq κ] {callType : α → CallType} {conferenceState : α → TelConferenceState}
  {callId : α → κ} {mainCallId : κ} {l : List α}

omit [DecidableEq κ] in
@[simp] theorem mem_getCarrierCallList {it : α} :
    it ∈ getCarrierCallList callType l ↔ it ∈ l ∧ callType it ∈ carrierTypes := by
  simp [getCarrierCallList]

/-- Whether `GetCurrentCallNum` counts an entry of the list. -/
def IsCurrent (callType : α → CallType) (conferenceState : α → TelConferenceState)
    (callId : α → κ) (mainCallId : κ) (it : α) : Prop :=
  callType it ∈ carrierTypes ∧ CountsAsCurrent (conferenceState it) mainCallId (callId it)

instance (it : α) : Decidable (IsCurrent callType conferenceState callId mainCallId it) :=
  inferInstanceAs (Decidable (_ ∧ _))

theorem getCurrentCallNum_eq_countP :
    getCurrentCallNum callType conferenceState callId mainCallId l =
      l.countP fun it => IsCurrent callType conferenceState callId mainCallId it := by
  rw [getCurrentCallNum, getCarrierCallList, List.countP_filter]
  refine List.countP_congr fun it _ => ?_
  simp [IsCurrent, and_comm]

/-- A change of what the entries count for in nothing leaves their number alone. -/
theorem getCurrentCallNum_map {f : α → α}
    (hf : ∀ it ∈ l, IsCurrent callType conferenceState callId mainCallId (f it) ↔
      IsCurrent callType conferenceState callId mainCallId it) :
    getCurrentCallNum callType conferenceState callId mainCallId (l.map f) =
      getCurrentCallNum callType conferenceState callId mainCallId l := by
  rw [getCurrentCallNum_eq_countP, getCurrentCallNum_eq_countP, List.countP_map]
  exact List.countP_congr fun it hmem => by simp [hf it hmem]

variable {callRunningState : α → CallRunningState} {callState : CallRunningState}

omit [DecidableEq κ] in
theorem getOneCallObject_spec {call : α}
    (h : getOneCallObject callRunningState l callState = some call) :
    call ∈ l ∧ callRunningState call = callState :=
  ⟨List.mem_reverse.mp (List.mem_of_find?_eq_some h), by simpa using List.find?_some h⟩

omit [DecidableEq κ] in
theorem isSome_getOneCallObject :
    (getOneCallObject callRunningState l callState).isSome ↔
      ∃ it ∈ l, callRunningState it = callState := by
  simp [getOneCallObject, List.find?_isSome]

end Lemmas

end StoredCalls

end CallManager
