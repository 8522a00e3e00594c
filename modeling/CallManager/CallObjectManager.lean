import CallManager.CallBase
import CallManager.Library.OrderedMap
import CallManager.Library.Run

/-!
# The call store against an insertion-ordered map

`CallObjectManager` holds the live calls in `callObjectPtrList_`, a list of
references scanned from the front. Its purpose is an insertion-ordered map
keyed by call id; here the list and its operations are compared with that map,
operation by operation and over whole runs.

Deletion and the three lookups are those of the map. `AddOneCallObject` is
not: it tests for a duplicate, does what belongs to a new call (the wired
headset, the dialing wait, the foldable listener), reports success and returns
without putting the call on the list.

Results:
* `contract_iff`: on a store with distinct ids, an operation does what the map
  does iff it does not add a call with a fresh id.
* `callStore_contract_iff`: a run from the empty list does what the map does
  iff it adds no call.
-/

namespace CallManager

/-! ## Model -/

/-- What the store asks the device while it adds or deletes a call:
    `FoldStatusManager::IsSmallFoldDevice` and `CallControlManager::ShouldDisconnectService`. -/
structure StoreEnv where
  isSmallFoldDevice : Bool
  shouldDisconnectService : Bool
  deriving DecidableEq, Repr

/-- The static state of `CallObjectManager` (call_object_manager.h:122-133), with the effects of
    adding and deleting on the wired headset and on the foldable listener, and the number of
    delayed disconnections it has submitted. -/
structure CallObjectManager where
  callObjectPtrList : List Ref
  callId : ℤ
  isFirstDialCallAdded : Bool
  wiredHeadSet : Bool
  foldableListener : Bool
  delayedDisconnects : ℕ
  deriving DecidableEq, Repr

namespace CallObjectManager

/-- The state the process starts with (call_object_manager.cpp:37-43). -/
def init : CallObjectManager where
  callObjectPtrList := []
  callId := 0
  isFirstDialCallAdded := false
  wiredHeadSet := false
  foldableListener := false
  delayedDisconnects := 0

variable (objects : Ref → CallBase)

/-- `GetNewCallId` (call_object_manager.cpp:462-469). -/
def getNewCallId (m : CallObjectManager) : ℤ × CallObjectManager :=
  (m.callId + 1, { m with callId := m.callId + 1 })

/-- `AddOneCallObject` (call_object_manager.cpp:56-83), after its test for a null pointer. The
    list is scanned for the id, its size is tested, and it is not changed. -/
def addOneCallObject (env : StoreEnv) (m : CallObjectManager) (call : Ref) :
    ErrorCode × CallObjectManager :=
  if ∃ it ∈ m.callObjectPtrList, (objects it).callId = (objects call).callId then
    (.callErrPhoneCallAlreadyExists, m)
  else
    let m :=
      match m.callObjectPtrList with
      | [front] =>
        { m with
          wiredHeadSet := true
          isFirstDialCallAdded :=
            m.isFirstDialCallAdded || (objects front).callState = .dialing }
      | _ => m
    let m := if env.isSmallFoldDevice then { m with foldableListener := true } else m
    (.telephonySuccess, m)

/-- `DeleteOneCallObject(callId)` (call_object_manager.cpp:211-236): erase the first entry with
    that id. -/
def deleteOneCallObject (env : StoreEnv) (m : CallObjectManager) (callId : ℤ) :
    ErrorCode × CallObjectManager :=
  let list := m.callObjectPtrList.eraseP fun it => (objects it).callId = callId
  let m := { m with callObjectPtrList := list }
  if list = [] then
    let m := { m with wiredHeadSet := false }
    let m := if env.isSmallFoldDevice then { m with foldableListener := false } else m
    let m :=
      if env.shouldDisconnectService then { m with delayedDisconnects := m.delayedDisconnects + 1 }
      else m
    (.telephonySuccess, m)
  else (.telephonySuccess, m)

/-- `GetOneCallObject(callId)` (call_object_manager.cpp:257-269). -/
def getOneCallObject (m : CallObjectManager) (callId : ℤ) : Option Ref :=
  m.callObjectPtrList.find? fun it => (objects it).callId = callId

/-- `GetOneCallObject(phoneNumber)` (call_object_manager.cpp:271-290); `removePostDial` is
    `CallNumberUtils::RemovePostDialPhoneNumber`. -/
def getOneCallObjectByNumber (removePostDial : String → String) (m : CallObjectManager)
    (phoneNumber : String) : Option Ref :=
  if phoneNumber = "" then none
  else m.callObjectPtrList.find? fun it =>
    removePostDial (objects it).accountNumber = phoneNumber

/-- `IsCallExist(callId)` (call_object_manager.cpp:471-482). -/
def isCallExist (m : CallObjectManager) (callId : ℤ) : Bool :=
  m.callObjectPtrList.any fun it => (objects it).callId = callId

/-- `PhoneOrWatchDial::WATCH_DIAL` (call_manager_base.h:852-861). -/
def watchDial : ℤ := 1

/-- The call an entry of the list has to be for `GetOneCallObjectByIndexSlotIdAndCallType`: a
    Bluetooth call by index and phone index, on the slot or dialed by a watch; any other call
    but a VoIP one by index and slot. -/
def MatchesKey (index slotId : ℤ) (callType : CallType) (phoneIndex : ℤ) (c : CallBase) : Prop :=
  if callType = .bluetooth then
    c.callType = .bluetooth ∧ c.index = index ∧
      (c.slotId = slotId ∨ c.phoneOrWatch = watchDial) ∧ c.phoneIndex = phoneIndex
  else
    c.callType ≠ .bluetooth ∧ c.index = index ∧ c.slotId = slotId ∧ c.callType ≠ .voip

instance (index slotId : ℤ) (callType : CallType) (phoneIndex : ℤ) (c : CallBase) :
    Decidable (MatchesKey index slotId callType phoneIndex c) := by
  unfold MatchesKey
  infer_instance

/-- `GetOneCallObjectByIndexSlotIdAndCallType` (call_object_manager.cpp:745-771). -/
def getOneCallObjectByIndexSlotIdAndCallType (m : CallObjectManager) (index slotId : ℤ)
    (callType : CallType) (phoneIndex : ℤ) : Option Ref :=
  m.callObjectPtrList.find? fun it =>
    MatchesKey index slotId callType phoneIndex (objects it)

/-! ## Operations as steps -/

/-- The operations of a run of the store. -/
inductive StoreOp
  | add (env : StoreEnv) (call : Ref)
  | delete (env : StoreEnv) (callId : ℤ)
  | get (callId : ℤ)
  | getByNumber (phoneNumber : String)
  | exist (callId : ℤ)
  deriving DecidableEq

/-- What an operation returns. -/
inductive StoreResult
  | code (code : ErrorCode)
  | object (call : Option Ref)
  | found (found : Bool)
  deriving DecidableEq

/-- One operation on the store: what it returns and the store after it. -/
def storeOp (removePostDial : String → String) (m : CallObjectManager) :
    StoreOp → StoreResult × CallObjectManager
  | .add env call =>
    (.code (addOneCallObject objects env m call).1, (addOneCallObject objects env m call).2)
  | .delete env callId =>
    (.code (deleteOneCallObject objects env m callId).1, (deleteOneCallObject objects env m callId).2)
  | .get callId => (.object (getOneCallObject objects m callId), m)
  | .getByNumber phoneNumber =>
    (.object (getOneCallObjectByNumber objects removePostDial m phoneNumber), m)
  | .exist callId => (.found (isCallExist objects m callId), m)

/-- The store after one operation. -/
def storeStep (removePostDial : String → String) (m : CallObjectManager) (op : StoreOp) :
    CallObjectManager :=
  (storeOp objects removePostDial m op).2

/-! ## Specification -/

/-- The key of a call in the map the store stands for. -/
def callIdOf (r : Ref) : ℤ := (objects r).callId

/-- The same operations on an insertion-ordered map keyed by call id. -/
def mapOp (removePostDial : String → String) (m : OrderedMap (callIdOf objects)) :
    StoreOp → StoreResult × OrderedMap (callIdOf objects)
  | .add _ call =>
    (.code (if m.Mem (callIdOf objects call) then .callErrPhoneCallAlreadyExists
      else .telephonySuccess), m.insert call)
  | .delete _ callId => (.code .telephonySuccess, m.erase callId)
  | .get callId => (.object (m.lookup callId), m)
  | .getByNumber phoneNumber =>
    (.object (if phoneNumber = "" then none
      else m.entries.find? fun it => removePostDial (objects it).accountNumber = phoneNumber), m)
  | .exist callId => (.found (decide (m.Mem callId)), m)

/-- One operation of the store does what the map does: the list holds a map,
    and the operation returns what the map returns and leaves its entries. -/
def Refines (removePostDial : String → String) (s : CallObjectManager) (op : StoreOp) : Prop :=
  ∃ m : OrderedMap (callIdOf objects), m.entries = s.callObjectPtrList ∧
    (storeOp objects removePostDial s op).1 = (mapOp objects removePostDial m op).1 ∧
    (storeOp objects removePostDial s op).2.callObjectPtrList =
      (mapOp objects removePostDial m op).2.entries

/-- The stored ids are pairwise distinct. -/
def Distinct (s : CallObjectManager) : Prop :=
  (s.callObjectPtrList.map fun it => (objects it).callId).Nodup

/-- `callId` is the id of a stored call. -/
def Stored (s : CallObjectManager) (callId : ℤ) : Prop :=
  ∃ it ∈ s.callObjectPtrList, (objects it).callId = callId

instance (s : CallObjectManager) (callId : ℤ) : Decidable (Stored objects s callId) :=
  inferInstanceAs (Decidable (∃ it ∈ s.callObjectPtrList, (objects it).callId = callId))

/-- What an operation has to do, in the words of the store's callers: a call with a stored id is
    refused and a fresh one is appended, and found from then on; a deletion removes the entry of
    its id and keeps the order of the others; a lookup finds the stored call. -/
def Contract (removePostDial : String → String) (s : CallObjectManager) : StoreOp → Prop
  | .add env call =>
    if Stored objects s (objects call).callId then
      addOneCallObject objects env s call = (.callErrPhoneCallAlreadyExists, s)
    else
      (addOneCallObject objects env s call).1 = .telephonySuccess ∧
      (addOneCallObject objects env s call).2.callObjectPtrList = s.callObjectPtrList ++ [call] ∧
      getOneCallObject objects (addOneCallObject objects env s call).2 (objects call).callId =
        some call ∧
      isCallExist objects (addOneCallObject objects env s call).2 (objects call).callId = true
  | .delete env callId =>
    (deleteOneCallObject objects env s callId).1 = .telephonySuccess ∧
    (deleteOneCallObject objects env s callId).2.callObjectPtrList =
      s.callObjectPtrList.filter fun it => (objects it).callId ≠ callId
  | .get callId =>
    ∀ call, getOneCallObject objects s callId = some call ↔
      call ∈ s.callObjectPtrList ∧ (objects call).callId = callId
  | .getByNumber phoneNumber =>
    ∀ call, getOneCallObjectByNumber objects removePostDial s phoneNumber = some call →
      call ∈ s.callObjectPtrList ∧ removePostDial (objects call).accountNumber = phoneNumber
  | .exist callId => isCallExist objects s callId = true ↔ Stored objects s callId

/-! ## Refinement -/

variable {objects} {removePostDial : String → String} {s : CallObjectManager}

/-- The map a store with distinct ids holds. -/
def Distinct.toMap (h : Distinct objects s) : OrderedMap (callIdOf objects) :=
  ⟨s.callObjectPtrList, h⟩

@[simp] theorem Distinct.entries_toMap (h : Distinct objects s) :
    h.toMap.entries = s.callObjectPtrList := rfl

theorem Distinct.mem_toMap (h : Distinct objects s) (callId : ℤ) :
    h.toMap.Mem callId ↔ Stored objects s callId := Iff.rfl

theorem addOneCallObject_stored {env : StoreEnv} {call : Ref}
    (h : Stored objects s (objects call).callId) :
    addOneCallObject objects env s call = (.callErrPhoneCallAlreadyExists, s) :=
  if_pos h

/-- Adding never changes the list. -/
theorem addOneCallObject_list (env : StoreEnv) (call : Ref) :
    (addOneCallObject objects env s call).2.callObjectPtrList = s.callObjectPtrList := by
  unfold addOneCallObject
  split_ifs with hstored hfold
  · rfl
  · split <;> rfl
  · split <;> rfl

theorem addOneCallObject_callId (env : StoreEnv) (call : Ref) :
    (addOneCallObject objects env s call).2.callId = s.callId := by
  unfold addOneCallObject
  split_ifs with hstored hfold
  · rfl
  · split <;> rfl
  · split <;> rfl

theorem deleteOneCallObject_code (env : StoreEnv) (callId : ℤ) :
    (deleteOneCallObject objects env s callId).1 = .telephonySuccess := by
  unfold deleteOneCallObject
  dsimp only
  split_ifs <;> rfl

theorem deleteOneCallObject_list (env : StoreEnv) (callId : ℤ) :
    (deleteOneCallObject objects env s callId).2.callObjectPtrList =
      s.callObjectPtrList.eraseP fun it => (objects it).callId = callId := by
  unfold deleteOneCallObject
  dsimp only
  split_ifs <;> rfl

theorem deleteOneCallObject_callId (env : StoreEnv) (callId : ℤ) :
    (deleteOneCallObject objects env s callId).2.callId = s.callId := by
  unfold deleteOneCallObject
  dsimp only
  split_ifs <;> rfl

/-- On distinct ids, deleting removes the entry of the id and nothing else. -/
theorem deleteOneCallObject_filter (h : Distinct objects s) (env : StoreEnv) (callId : ℤ) :
    (deleteOneCallObject objects env s callId).2.callObjectPtrList =
      s.callObjectPtrList.filter fun it => (objects it).callId ≠ callId := by
  rw [deleteOneCallObject_list]
  exact h.toMap.eraseP_eq_erase callId

/-- On distinct ids, the lookup finds exactly the stored call of the id. -/
theorem getOneCallObject_eq_some (h : Distinct objects s) {callId : ℤ} {call : Ref} :
    getOneCallObject objects s callId = some call ↔
      call ∈ s.callObjectPtrList ∧ (objects call).callId = callId := by
  constructor
  · intro hget
    exact ⟨List.mem_of_find?_eq_some hget, by simpa using List.find?_some hget⟩
  · rintro ⟨hmem, rfl⟩
    exact h.toMap.lookup_key hmem

theorem isCallExist_iff {callId : ℤ} :
    isCallExist objects s callId = true ↔ Stored objects s callId := by
  simp [isCallExist, Stored]

/-- No operation breaks the distinctness of the stored ids. -/
theorem Distinct.step (h : Distinct objects s) (op : StoreOp) :
    Distinct objects (storeStep objects removePostDial s op) := by
  cases op with
  | add env call =>
    unfold Distinct
    rw [storeStep, storeOp, addOneCallObject_list]
    exact h
  | delete env callId =>
    unfold Distinct
    rw [storeStep, storeOp, deleteOneCallObject_list]
    exact h.sublist (List.eraseP_sublist.map _)
  | get callId => exact h
  | getByNumber phoneNumber => exact h
  | exist callId => exact h

/-- A store with distinct ids meets the contract in a step iff the step does
    not add a call whose id is fresh. -/
theorem contract_iff (h : Distinct objects s) (op : StoreOp) :
    Contract objects removePostDial s op ↔
      ∀ env call, op = .add env call → Stored objects s (objects call).callId := by
  cases op with
  | add env call =>
    by_cases hstored : Stored objects s (objects call).callId
    · simp [Contract, hstored, addOneCallObject_stored hstored]
    · -- the fresh call is not on the list that the contract asks for
      have hlist : (addOneCallObject objects env s call).2.callObjectPtrList ≠
          s.callObjectPtrList ++ [call] := by
        rw [addOneCallObject_list]
        simp
      constructor
      · intro hc
        simp only [Contract, if_neg hstored] at hc
        exact absurd hc.2.1 hlist
      · intro hall
        exact absurd (hall env call rfl) hstored
  | delete env callId =>
    simp [Contract, deleteOneCallObject_code, deleteOneCallObject_filter h]
  | get callId =>
    simp [Contract, getOneCallObject_eq_some h]
  | getByNumber phoneNumber =>
    simp only [Contract, reduceCtorEq, IsEmpty.forall_iff, implies_true, iff_true]
    intro call hget
    unfold getOneCallObjectByNumber at hget
    split_ifs at hget
    exact ⟨List.mem_of_find?_eq_some hget, by simpa using List.find?_some hget⟩
  | exist callId =>
    simp [Contract, isCallExist_iff]

/-- The contract is the refinement of the map: an operation meets it iff it
    returns what the map's operation returns and leaves the map's entries. -/
theorem contract_iff_refines (h : Distinct objects s) (op : StoreOp) :
    Contract objects removePostDial s op ↔ Refines objects removePostDial s op := by
  rw [contract_iff h]
  -- the list determines the map it holds
  have hmap : ∀ m : OrderedMap (callIdOf objects), m.entries = s.callObjectPtrList →
      m = h.toMap := fun m hm => OrderedMap.ext hm
  constructor
  · intro hall
    refine ⟨h.toMap, rfl, ?_⟩
    cases op with
    | add env call =>
      have hstored := hall env call rfl
      have hmem : h.toMap.Mem (callIdOf objects call) := (h.mem_toMap _).mpr hstored
      simp [storeOp, mapOp, addOneCallObject_stored hstored, hmem,
        OrderedMap.entries_insert_of_mem hmem]
    | delete env callId =>
      refine ⟨?_, deleteOneCallObject_filter h env callId⟩
      simp [storeOp, mapOp, deleteOneCallObject_code]
    | get callId => exact ⟨rfl, rfl⟩
    | getByNumber phoneNumber => exact ⟨rfl, rfl⟩
    | exist callId =>
      refine ⟨congrArg StoreResult.found ?_, rfl⟩
      rw [Bool.eq_iff_iff, isCallExist_iff, decide_eq_true_iff, h.mem_toMap]
  · rintro ⟨m, hm, -, hlist⟩ env call rfl
    obtain rfl := hmap m hm
    by_contra hstored
    have hmem : ¬ h.toMap.Mem (callIdOf objects call) := hstored
    simp [storeOp, mapOp, addOneCallObject_list,
      OrderedMap.entries_insert_of_not_mem hmem] at hlist

/-! ## Runs -/

/-- In a run from a store with distinct ids, every step keeps the ids distinct
    and meets the contract iff no step adds a call with a fresh id. -/
theorem steps_contract_iff (ops : List StoreOp) (h : Distinct objects s) :
    Run.StepsMeet (storeStep objects removePostDial)
      (fun s op => Distinct objects s ∧ Contract objects removePostDial s op) s ops ↔
    Run.StepsMeet (storeStep objects removePostDial)
      (fun s op => ∀ env call, op = .add env call → Stored objects s (objects call).callId)
      s ops := by
  induction ops generalizing s with
  | nil => simp [Run.StepsMeet]
  | cons op ops ih =>
    simp only [Run.StepsMeet]
    rw [ih (h.step op), contract_iff h op]
    exact and_congr_left' (and_iff_right h)

/-- No operation lengthens the list, so a run from the empty list stays there. -/
theorem storeStep_list_nil (h : s.callObjectPtrList = []) (op : StoreOp) :
    (storeStep objects removePostDial s op).callObjectPtrList = [] := by
  cases op with
  | add env call => rw [storeStep, storeOp, addOneCallObject_list, h]
  | delete env callId => rw [storeStep, storeOp, deleteOneCallObject_list, h]; rfl
  | get callId => exact h
  | getByNumber phoneNumber => exact h
  | exist callId => exact h

theorem steps_stored_nil_iff (ops : List StoreOp) (h : s.callObjectPtrList = []) :
    Run.StepsMeet (storeStep objects removePostDial)
      (fun s op => ∀ env call, op = .add env call → Stored objects s (objects call).callId)
      s ops ↔ ∀ env call, StoreOp.add env call ∉ ops := by
  induction ops generalizing s with
  | nil => simp [Run.StepsMeet]
  | cons op ops ih =>
    have hnone : ∀ callId, ¬ Stored objects s callId := by
      intro callId
      simp [Stored, h]
    simp only [Run.StepsMeet, ih (storeStep_list_nil h op), hnone, imp_false, List.mem_cons,
      not_or, ← forall_and, eq_comm]

variable (objects removePostDial)

/-- **Main theorem.** A run from the empty list keeps the ids distinct and does what an
    insertion-ordered map keyed by call id does, in all its steps, iff it adds no call: every
    `AddOneCallObject` of such a run reports success and stores nothing. -/
theorem callStore_contract_iff (ops : List StoreOp) :
    Run.StepsMeet (storeStep objects removePostDial)
      (fun s op => Distinct objects s ∧ Contract objects removePostDial s op) init ops ↔
    ∀ env call, StoreOp.add env call ∉ ops := by
  have hinit : Distinct objects init := List.nodup_nil
  rw [steps_contract_iff ops hinit]
  exact steps_stored_nil_iff ops rfl

/-- A call object as a dial creates it. -/
def dialedCall : CallBase where
  callId := 1
  objectType := .ims
  callType := .ims
  accountNumber := "10086"
  callState := .dialing
  callRunningState := .create
  conferenceState := .idle
  slotId := 0
  index := 0
  phoneIndex := 0
  phoneOrWatch := 0
  videoState := .voice
  voipCallInfo := {}
  isNonVirtualCall := false

/-- A call that is added to the empty list is reported as added, and no lookup
    finds it afterwards. -/
theorem addOneCallObject_loses_call :
    ¬ Run.StepsMeet (storeStep (fun _ => dialedCall) id)
        (fun s op => Distinct (fun _ => dialedCall) s ∧ Contract (fun _ => dialedCall) id s op)
        init [.add ⟨false, false⟩ 0] ∧
    (addOneCallObject (fun _ => dialedCall) ⟨false, false⟩ init 0).1 = .telephonySuccess ∧
    getOneCallObject (fun _ => dialedCall)
      (storeStep (fun _ => dialedCall) id init (.add ⟨false, false⟩ 0)) 1 = none ∧
    isCallExist (fun _ => dialedCall)
      (storeStep (fun _ => dialedCall) id init (.add ⟨false, false⟩ 0)) 1 = false := by
  refine ⟨?_, by decide, by decide, by decide⟩
  rintro ⟨⟨hdistinct, hcontract⟩, -⟩
  rw [contract_iff hdistinct] at hcontract
  obtain ⟨it, hit, -⟩ := hcontract ⟨false, false⟩ 0 rfl
  simp [init] at hit

end CallObjectManager

end CallManager
