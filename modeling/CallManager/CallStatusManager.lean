import CallManager.CallObjectManager
import CallManager.Conference
import CallManager.StoredCalls
import CallManager.Library.Program

/-!
# The status reports of calls

`CallStatusManager::HandleCallReportInfo` takes one reported call, finds or
creates the call object it is about and moves it to the reported state. Its
handlers are programs here: they read the state of the service, perform the
actions listed in `StatusAction` and return the code that the source returns.

What the handlers ask the modem, the settings and the other services is in
`StatusEnv`. Requests that are only sent (hanging up, answering, holding,
dialing), notifications other than that of `UpdateCallState`, times, contact
data, ring tones and the anti-fraud detection are left out: they write nothing
that is modelled.

`AddOneCallObject` comes in two forms, the one in the source, which puts
nothing on the list, and one with the insertion that its name, its log and its
callers ask for.
-/

namespace CallManager

/-- The two forms of `AddOneCallObject`: as it is written, and with the call
    appended to the list before the list's size is tested. -/
inductive Insertion
  | asWritten | restored
  deriving DecidableEq, Repr

/-- `AddOneCallObject` in the given form. -/
def Insertion.addOneCallObject (ins : Insertion) (objects : Ref → CallBase) (env : StoreEnv)
    (m : CallObjectManager) (call : Ref) : ErrorCode × CallObjectManager :=
  match ins with
  | .asWritten => CallObjectManager.addOneCallObject objects env m call
  | .restored =>
    if ∃ it ∈ m.callObjectPtrList, (objects it).callId = (objects call).callId then
      (.callErrPhoneCallAlreadyExists, m)
    else
      let m := { m with callObjectPtrList := m.callObjectPtrList ++ [call] }
      let m :=
        match m.callObjectPtrList with
        | [front] =>
          { m with
            wiredHeadSet := true
            isFirstDialCallAdded :=
              m.isFirstDialCallAdded || (objects front).callState = .dialing }
        | _ => m
      let m := if env.isSmallFoldDevice then { m with foldableListener := true } else m
      (.telephonySuccess, m)

section Insertion

variable {ins : Insertion} {objects : Ref → CallBase} {env : StoreEnv} {m : CallObjectManager}
  {call : Ref}

theorem Insertion.addOneCallObject_callId :
    (ins.addOneCallObject objects env m call).2.callId = m.callId := by
  cases ins with
  | asWritten => exact CallObjectManager.addOneCallObject_callId env call
  | restored =>
    unfold Insertion.addOneCallObject
    dsimp only
    split_ifs
    · rfl
    · split <;> rfl
    · split <;> rfl

/-- As it is written it leaves the list alone, restored it appends a call with a new id. -/
theorem Insertion.addOneCallObject_list :
    (ins.addOneCallObject objects env m call).2.callObjectPtrList =
      if ins = .asWritten ∨ CallObjectManager.Stored objects m (objects call).callId then
        m.callObjectPtrList
      else m.callObjectPtrList ++ [call] := by
  cases ins with
  | asWritten =>
    rw [if_pos (.inl rfl)]
    exact CallObjectManager.addOneCallObject_list env call
  | restored =>
    unfold Insertion.addOneCallObject
    dsimp only
    by_cases hstored : ∃ it ∈ m.callObjectPtrList, (objects it).callId = (objects call).callId
    · rw [if_pos hstored, if_pos (.inr hstored)]
    · have hnot : ¬ (Insertion.restored = .asWritten ∨
          CallObjectManager.Stored objects m (objects call).callId) := by
        rintro (heq | hmem)
        · cases heq
        · exact hstored hmem
      rw [if_neg hstored, if_neg hnot]
      split_ifs
      · split <;> rfl
      · split <;> rfl

end Insertion

/-! ## The state of the service -/

/-- What `UpdateCallState` passes to `NotifyCallStateUpdated`. -/
structure Notification where
  callId : ℤ
  priorState : TelCallState
  nextState : TelCallState
  deriving DecidableEq, Repr

/-- The state that the handlers read and write: the call objects, by reference, the store, the
    reports of `HandleCallsReportInfo` (call_status_manager.h:201), the three conferences, the
    fields of `CallRequestEventHandlerHelper` (call_request_event_handler_helper.h), the flag
    `needWaitHold_`, and the notifications, the latest first. -/
structure StatusWorld where
  heap : Ref → Option CallBase
  nextRef : Ref
  store : CallObjectManager
  tmpCallDetailsInfo : ℤ → List CallDetailInfo
  imsConference : Conference
  csConference : Conference
  ottConference : Conference
  pendingMo : Bool
  pendingMoCallId : ℤ
  pendingHangup : Bool
  pendingHangupCallId : ℤ
  needWaitHold : Bool
  notifications : List Notification

/-- What the handlers of one report are told by others: the device, as the store asks for it,
    the state of the distributed modem, whether the listener of `NotifyCallStateUpdated` is
    there, the filters of incoming calls and their results, the requests' results, the state of
    a VoIP app, the DSDS mode, and the number of `CALL_ERR_ILLEGAL_CALL_OPERATION`, which
    `OTTCall::GetSlotId` returns. `junk` is what the read of the first element of an empty set
    yields. -/
structure StatusEnv where
  store : StoreEnv
  isDcCallConneceted : Bool
  hasCallStateListener : Bool
  incomingFilterPolicy : ErrorCode
  isRejectCall : Bool
  isRingOnceCall : Bool
  rejectCall : ErrorCode
  hangUpCall : ErrorCode
  addCallLog : ErrorCode
  isVoipCallRinging : Bool
  isVirtualCall : Bool
  isDsdaMode : Bool
  illegalCallOperation : ℤ
  junk : ℤ
  deriving DecidableEq, Repr

namespace StatusWorld

/-- The state the process starts with. -/
def init : StatusWorld where
  heap _ := none
  nextRef := 0
  store := CallObjectManager.init
  tmpCallDetailsInfo _ := []
  imsConference := Conference.init
  csConference := Conference.init
  ottConference := Conference.init
  pendingMo := false
  pendingMoCallId := -1
  pendingHangup := false
  pendingHangupCallId := -1
  needWaitHold := false
  notifications := []

/-- The fields of the object a reference stands for. -/
def object (w : StatusWorld) (call : Ref) : CallBase := (w.heap call).getD default

/-- A new object. -/
def alloc (w : StatusWorld) (c : CallBase) : StatusWorld :=
  { w with heap := Function.update w.heap w.nextRef (some c), nextRef := w.nextRef + 1 }

/-- The object of a reference that nothing holds any more is destroyed. -/
def destroy (w : StatusWorld) (call : Ref) : StatusWorld :=
  { w with heap := Function.update w.heap call none }

/-- Write to the object of a reference, if there is one. -/
def modify (w : StatusWorld) (call : Ref) (f : CallBase → CallBase) : StatusWorld :=
  { w with heap := Function.update w.heap call ((w.heap call).map f) }

/-! ## What reads and writes of the objects do -/

theorem object_eq {w : StatusWorld} {call : Ref} {c : CallBase} (h : w.heap call = some c) :
    w.object call = c := by
  rw [object, h, Option.getD_some]

@[simp] theorem modify_heap_self (w : StatusWorld) (call : Ref) (f : CallBase → CallBase) :
    (w.modify call f).heap call = (w.heap call).map f :=
  Function.update_self ..

theorem modify_heap_of_ne (w : StatusWorld) {call r : Ref} (f : CallBase → CallBase) (h : r ≠ call) :
    (w.modify call f).heap r = w.heap r :=
  Function.update_of_ne h ..

theorem modify_modify (w : StatusWorld) (call : Ref) (f g : CallBase → CallBase) :
    (w.modify call f).modify call g = w.modify call (g ∘ f) := by
  simp only [modify, Function.update_self, Function.update_idem, Option.map_map]

/-- Writes that keep ids do not change the id read through a reference. -/
theorem modify_object_callId (w : StatusWorld) (call r : Ref) {f : CallBase → CallBase}
    (hf : ∀ c, (f c).callId = c.callId) : ((w.modify call f).object r).callId = (w.object r).callId := by
  unfold object
  by_cases hr : r = call
  · rw [hr, modify_heap_self]
    cases w.heap call with
    | none => rfl
    | some c => exact hf c
  · rw [modify_heap_of_ne w f hr]

@[simp] theorem destroy_heap_self (w : StatusWorld) (call : Ref) : (w.destroy call).heap call = none :=
  Function.update_self ..

theorem destroy_heap_of_ne (w : StatusWorld) {call r : Ref} (h : r ≠ call) :
    (w.destroy call).heap r = w.heap r :=
  Function.update_of_ne h ..

@[simp] theorem alloc_heap_self (w : StatusWorld) (c : CallBase) :
    (w.alloc c).heap w.nextRef = some c :=
  Function.update_self ..

theorem alloc_heap_of_ne (w : StatusWorld) {r : Ref} (c : CallBase) (h : r ≠ w.nextRef) :
    (w.alloc c).heap r = w.heap r :=
  Function.update_of_ne h ..

/-! ## Lookups -/

/-- `INIT_INDEX`, the index of a call that the modem has not reported yet
    (call_status_manager.cpp:73). -/
def initIndex : ℤ := 0

/-- `SLOT_NUM` (call_status_manager.h:45). -/
def slotNum : ℤ := 2

/-- `GetOneCallObject(callId)`. -/
def getOneCallObject (w : StatusWorld) (callId : ℤ) : Option Ref :=
  w.store.getOneCallObject w.object callId

/-- `GetOneCallObjectByIndexSlotIdAndCallType`, for the key of a report with the given index. -/
def getOneCallObjectByKey (w : StatusWorld) (index : ℤ) (info : CallDetailInfo) : Option Ref :=
  w.store.getOneCallObjectByIndexSlotIdAndCallType w.object index info.accountId info.callType
    info.phoneIndex

/-- `GetOneCallObjectByIndex` (call_object_manager.cpp:707-717). -/
def getOneCallObjectByIndex (w : StatusWorld) (index : ℤ) : Option Ref :=
  w.store.callObjectPtrList.find? fun it =>
    (w.object it).index = index ∧ (w.object it).callType ≠ .voip

/-- `GetOneCallObjectByIndexAndSlotId` (call_object_manager.cpp:731-743). -/
def getOneCallObjectByIndexAndSlotId (w : StatusWorld) (index slotId : ℤ) : Option Ref :=
  w.store.callObjectPtrList.find? fun it =>
    (w.object it).index = index ∧ (w.object it).slotId = slotId ∧ (w.object it).callType ≠ .voip

/-- `GetOneCallObjectByVoipCallId` (call_object_manager.cpp:773-789). -/
def getOneCallObjectByVoipCallId (w : StatusWorld) (voipCallInfo : VoipCallReportInfo) :
    Option Ref :=
  w.store.callObjectPtrList.find? fun it =>
    (w.object it).callType = .voip ∧ (w.object it).voipCallInfo = voipCallInfo

/-- `GetCallNum` with its default argument (call_object_manager.cpp:864-880): a VoIP call counts
    if it is not a virtual one. -/
def getCallNum (w : StatusWorld) (callState : TelCallState) : ℕ :=
  w.store.callObjectPtrList.countP fun it =>
    (w.object it).callState = callState ∧
      ((w.object it).callType = .voip → (w.object it).isNonVirtualCall = true)

/-- `RINGING_CALL_NUMBER_LEN` and `DIALING_CALL_NUMBER_LEN` (common_type.h:27-28). -/
def callNumberLen : ℕ := 30

/-- `HasRingingMaximum` and `HasDialingMaximum` (call_object_manager.cpp:416-448): too many
    calls in the running state. -/
def hasMaximum (w : StatusWorld) (callRunningState : CallRunningState) : Bool :=
  callNumberLen ≤
    w.store.callObjectPtrList.countP fun it => (w.object it).callRunningState = callRunningState

/-- `GetConferenceCallList` (call_status_manager.cpp:1556-1573): the stored calls that the last
    report of the slot has in a conference. -/
def getConferenceCallList (w : StatusWorld) (slotId : ℤ) : List Ref :=
  if slotNum ≤ slotId ∨ slotId < 0 then []
  else
    (w.tmpCallDetailsInfo slotId).filterMap fun it =>
      if it.mpty = 1 then w.getOneCallObjectByIndexAndSlotId it.index it.accountId else none

/-- The ids that `GetCarrierCallList` leaves in the list. -/
def getCarrierCallList (w : StatusWorld) : List ℤ :=
  (StoredCalls.getCarrierCallList (fun it => (w.object it).callType)
    w.store.callObjectPtrList).map fun it => (w.object it).callId

/-- `GetCurrentCallNum` (call_object_manager.cpp:352-372). -/
def getCurrentCallNum (w : StatusWorld) : ℕ :=
  w.getCarrierCallList.countP fun otherCallId =>
    match w.getOneCallObject otherCallId with
    | none => false
    | some call =>
      CountsAsCurrent (w.object call).conferenceState w.imsConference.mainCallId otherCallId

end StatusWorld

/-! ## Writes to one call object -/

namespace CallBase

/-- What `CreateNewCall` makes of a report (call_status_manager.cpp:2007-2027, 2072-2160, and
    the constructors): nothing for a type that has no class. An OTT call has neither an index
    nor a slot of its own, and the constructor of a VoIP call is not given the fields that tell
    VoIP calls apart, since `PackVoipCallInfo` is never called. -/
def newCall (env : StatusEnv) (info : CallDetailInfo) (callId : ℤ) : Option CallBase :=
  if info.callType = .errCall then none
  else some
    { callId := callId
      objectType := info.callType
      callType := info.callType
      accountNumber := info.phoneNum
      callState := info.state
      callRunningState := .create
      conferenceState := .idle
      slotId := if info.callType = .ott then env.illegalCallOperation else info.accountId
      index := if info.callType = .ott then 0 else info.index
      phoneIndex := info.phoneIndex
      phoneOrWatch := info.phoneOrWatch
      videoState := info.callMode
      voipCallInfo := {}
      isNonVirtualCall := false }

/-- What `UpdateDialingCallInfo` writes to the pending call it adopts
    (call_status_manager.cpp:947-954). -/
def adopt (c : CallBase) (info : CallDetailInfo) (oriNum : String) : CallBase :=
  let c := if c.objectType = .ott then c else { c with index := info.index, slotId := info.accountId }
  let c := (c.setTelCallState info.state).2
  { c with videoState := info.callMode, callType := info.callType, accountNumber := oriNum }

/-- The video state that `RefreshCallIfNecessary` gives an IMS call
    (call_status_manager.cpp:1863-1867). -/
def refreshVideoState (c : CallBase) (info : CallDetailInfo) : CallBase :=
  if c.callType = .ims ∧ c.videoState ≠ info.callMode then { c with videoState := info.callMode }
  else c

/-- Nothing but the video state changes. -/
theorem refreshVideoState_eq (c : CallBase) (info : CallDetailInfo) :
    ∃ videoState, c.refreshVideoState info = { c with videoState := videoState } := by
  unfold refreshVideoState
  split_ifs
  · exact ⟨_, rfl⟩
  · exact ⟨c.videoState, rfl⟩

@[simp] theorem refreshVideoState_callId (c : CallBase) (info : CallDetailInfo) :
    (c.refreshVideoState info).callId = c.callId := by
  obtain ⟨_, h⟩ := c.refreshVideoState_eq info
  rw [h]

@[simp] theorem refreshVideoState_callType (c : CallBase) (info : CallDetailInfo) :
    (c.refreshVideoState info).callType = c.callType := by
  obtain ⟨_, h⟩ := c.refreshVideoState_eq info
  rw [h]

@[simp] theorem refreshVideoState_callState (c : CallBase) (info : CallDetailInfo) :
    (c.refreshVideoState info).callState = c.callState := by
  obtain ⟨_, h⟩ := c.refreshVideoState_eq info
  rw [h]

theorem adopt_callId (c : CallBase) (info : CallDetailInfo) (oriNum : String) :
    (c.adopt info oriNum).callId = c.callId := by
  unfold adopt
  dsimp only
  split_ifs <;> simp

theorem adopt_callState (c : CallBase) (info : CallDetailInfo) (oriNum : String) :
    (c.adopt info oriNum).callState = info.state := by
  unfold adopt
  dsimp only
  split_ifs <;> simp

end CallBase

/-! ## Actions -/

namespace StatusWorld

variable (ins : Insertion) (env : StatusEnv)

/-- `CreateNewCall`: the id is taken before the type is looked at. -/
def createNewCall (w : StatusWorld) (info : CallDetailInfo) : Option Ref × StatusWorld :=
  let (callId, store) := w.store.getNewCallId
  let w := { w with store := store }
  match CallBase.newCall env info callId with
  | none => (none, w)
  | some c => (some w.nextRef, w.alloc c)

/-- `AddOneCallObject`, with its test for a null pointer. -/
def addOneCallObject (w : StatusWorld) (call : Ref) : StatusWorld :=
  { w with
    store :=
      if (w.heap call).isNone then w.store
      else (ins.addOneCallObject w.object env.store w.store call).2 }

/-- `DeleteOneCallObject(callId)`. -/
def deleteOneCallObject (w : StatusWorld) (callId : ℤ) : StatusWorld :=
  { w with store := (w.store.deleteOneCallObject w.object env.store callId).2 }

/-- `SetTelCallState` of a call object. -/
def setTelCallState (w : StatusWorld) (call : Ref) (nextState : TelCallState) : StatusWorld :=
  w.modify call fun c => (c.setTelCallState nextState).2

/-- `UpdateOneCallObjectByCallId` (call_object_manager.cpp:944-953). -/
def updateOneCallObjectByCallId (w : StatusWorld) (callId : ℤ) (nextCallState : TelCallState) :
    StatusWorld :=
  w.store.callObjectPtrList.foldl
    (fun w it => if (w.object it).callId = callId then w.setTelCallState it nextCallState else w) w

/-- `UpdateCallState` (call_status_manager.cpp:1788-1826) up to the notification.
    `SetTelCallState` returns nothing but the two codes that let it go on. -/
def updateCallState (w : StatusWorld) (call : Ref) (nextState : TelCallState) : StatusWorld :=
  match w.heap call with
  | none => w
  | some c =>
    let priorState := c.callState
    let w := w.setTelCallState call nextState
    let w := w.updateOneCallObjectByCallId c.callId nextState
    { w with notifications := ⟨c.callId, priorState, nextState⟩ :: w.notifications }

/-- The part of `RefreshCall` in which the new object takes the place of the old one, `c`, in
    the list and in the CS conference (call_status_manager.cpp:1894-1912). -/
def exchangeCall (w : StatusWorld) (newCall : Ref) (c : CallBase) (info : CallDetailInfo) :
    StatusWorld :=
  let w := w.addOneCallObject ins env newCall
  let w := w.modify newCall fun n =>
    { n with callRunningState := c.callRunningState, conferenceState := c.conferenceState }
  let w := w.deleteOneCallObject env c.callId
  if c.callType = .ims ∧ info.callType = .cs ∧ info.mpty = 1 then
    { w with csConference := CsConference.updateConferenceId w.csConference c.callId }
  else w

/-- `RefreshCall` (call_status_manager.cpp:1884-1925): a new object of the reported type takes
    over the id, the states and the place of the old one, which nothing holds any more. -/
def refreshCall (w : StatusWorld) (call : Ref) (info : CallDetailInfo) : Ref × StatusWorld :=
  match w.heap call with
  | none => (call, w)
  | some c =>
    match w.createNewCall env info with
    | (none, w) => (call, w)
    | (some newCall, w) =>
      let w := w.exchangeCall ins env newCall c info
      let w := w.modify newCall fun n => { n with callId := c.callId }
      let w := w.setTelCallState newCall c.callState
      (newCall, w.destroy call)

section RefreshCall

variable {ins : Insertion} {env : StatusEnv} {w w' : StatusWorld}

/-- The list after `AddOneCallObject`: the call is appended, or nothing changes. -/
theorem list_addOneCallObject (ins : Insertion) (env : StatusEnv) {call : Ref} {c : CallBase}
    (hc : w.heap call = some c) :
    (w.addOneCallObject ins env call).store.callObjectPtrList =
      if ins = .asWritten ∨ CallObjectManager.Stored w.object w.store c.callId then
        w.store.callObjectPtrList
      else w.store.callObjectPtrList ++ [call] := by
  rw [addOneCallObject, hc]
  dsimp only
  rw [if_neg (by simp), Insertion.addOneCallObject_list, object_eq hc]

/-- A new call has the id it is given and the reported type, and is in no conference. -/
theorem newCall_some {info : CallDetailInfo} {callId : ℤ} {c : CallBase}
    (h : CallBase.newCall env info callId = some c) :
    c.callId = callId ∧ c.objectType = info.callType ∧ c.callType = info.callType ∧
      c.conferenceState = .idle := by
  unfold CallBase.newCall at h
  by_cases hinfo : info.callType = .errCall
  · rw [if_pos hinfo] at h
    cases h
  · rw [if_neg hinfo] at h
    rw [← Option.some.inj h]
    exact ⟨rfl, rfl, rfl, rfl⟩

theorem newCall_none {info : CallDetailInfo} {callId : ℤ}
    (h : CallBase.newCall env info callId = none) : info.callType = .errCall := by
  unfold CallBase.newCall at h
  by_cases hinfo : info.callType = .errCall
  · exact hinfo
  · rw [if_neg hinfo] at h
    cases h

theorem createNewCall_eq_some {info : CallDetailInfo} {newCall : Ref}
    (h : w.createNewCall env info = (some newCall, w')) :
    newCall = w.nextRef ∧ ∃ c, CallBase.newCall env info (w.store.callId + 1) = some c ∧
      w' = { w with store := w.store.getNewCallId.2 }.alloc c := by
  unfold StatusWorld.createNewCall at h
  dsimp only at h
  split at h
  · cases h
  · rename_i c hc
    obtain ⟨hnew, rfl⟩ := Prod.mk.inj h
    exact ⟨(Option.some.inj hnew).symm, c, hc, rfl⟩

theorem createNewCall_eq_none {info : CallDetailInfo} (h : w.createNewCall env info = (none, w')) :
    info.callType = .errCall ∧ w' = { w with store := w.store.getNewCallId.2 } := by
  unfold StatusWorld.createNewCall at h
  dsimp only at h
  split at h
  · rename_i hnone
    exact ⟨newCall_none hnone, (Prod.mk.inj h).2.symm⟩
  · cases h

/-- The object that `CreateNewCall` makes is at the next reference, and the
    others are as they were. -/
theorem createNewCall_some {info : CallDetailInfo} {newCall : Ref}
    (h : w.createNewCall env info = (some newCall, w')) :
    newCall = w.nextRef ∧ w'.nextRef = w.nextRef + 1 ∧ w'.notifications = w.notifications ∧
      (w'.heap newCall).isSome ∧ ∀ r, r ≠ newCall → w'.heap r = w.heap r := by
  obtain ⟨rfl, c, -, rfl⟩ := createNewCall_eq_some h
  refine ⟨rfl, rfl, rfl, ?_, fun r hr => alloc_heap_of_ne _ c hr⟩
  exact Option.isSome_of_eq_some (alloc_heap_self _ c)

theorem createNewCall_none {info : CallDetailInfo} (h : w.createNewCall env info = (none, w')) :
    w'.notifications = w.notifications ∧ w'.heap = w.heap := by
  rw [(createNewCall_eq_none h).2]
  exact ⟨rfl, rfl⟩

/-- What `RefreshCall` writes last: the id and the state of the old object. -/
def takeOver (c n : CallBase) : CallBase := ({ n with callId := c.callId }.setTelCallState c.callState).2

theorem takeOver_keeps (c n : CallBase) :
    (takeOver c n).callId = c.callId ∧ (takeOver c n).callState = c.callState := by
  simp [takeOver]

theorem exchangeCall_heap {call newCall : Ref} (h : call ≠ newCall) (c : CallBase)
    (info : CallDetailInfo) : (w.exchangeCall ins env newCall c info).heap call = w.heap call := by
  unfold StatusWorld.exchangeCall
  dsimp only
  split_ifs <;> exact modify_heap_of_ne _ _ h

theorem exchangeCall_heap_self (newCall : Ref) (c : CallBase) (info : CallDetailInfo) :
    (w.exchangeCall ins env newCall c info).heap newCall =
      (w.heap newCall).map fun n =>
        { n with callRunningState := c.callRunningState, conferenceState := c.conferenceState } := by
  unfold StatusWorld.exchangeCall
  dsimp only
  split_ifs <;> exact modify_heap_self ..

theorem refreshCall_none {call : Ref} {c : CallBase} {info : CallDetailInfo}
    (hc : w.heap call = some c) (hnew : w.createNewCall env info = (none, w')) :
    w.refreshCall ins env call info = (call, w') := by
  rw [StatusWorld.refreshCall, hc]
  dsimp only
  rw [hnew]

/-- `RefreshCall` with a new object: it takes the place of the old one, and
    then its id and its state. -/
theorem refreshCall_some {call newCall : Ref} {c : CallBase} {info : CallDetailInfo}
    (hc : w.heap call = some c) (hnew : w.createNewCall env info = (some newCall, w')) :
    w.refreshCall ins env call info =
      (newCall,
        ((w'.exchangeCall ins env newCall c info).modify newCall (takeOver c)).destroy call) := by
  rw [StatusWorld.refreshCall, hc]
  dsimp only
  rw [hnew]
  dsimp only
  rw [StatusWorld.setTelCallState, modify_modify]
  rfl

/-- The object that `RefreshCall` returns. -/
theorem refreshCall_heap_new (ins : Insertion) {call newCall : Ref} {c : CallBase}
    {info : CallDetailInfo} (hc : w.heap call = some c)
    (hnew : w.createNewCall env info = (some newCall, w'))
    (hne : newCall ≠ call) :
    ∃ n, CallBase.newCall env info (w.store.callId + 1) = some n ∧
      (w.refreshCall ins env call info).2.heap newCall = some (takeOver c
        { n with callRunningState := c.callRunningState, conferenceState := c.conferenceState }) := by
  obtain ⟨href, n, hn, hw'⟩ := createNewCall_eq_some hnew
  have hheap : w'.heap newCall = some n := by
    rw [hw', href]
    exact alloc_heap_self _ n
  refine ⟨n, hn, ?_⟩
  rw [refreshCall_some hc hnew, destroy_heap_of_ne _ hne, modify_heap_self, exchangeCall_heap_self,
    hheap, Option.map_some, Option.map_some]

end RefreshCall

/-- `RefreshCallIfNecessary` (call_status_manager.cpp:1860-1882). -/
def refreshCallIfNecessary (w : StatusWorld) (call : Ref) (info : CallDetailInfo) :
    Ref × StatusWorld :=
  let w := w.modify call fun c => c.refreshVideoState info
  if (w.object call).callType = info.callType then (call, w) else w.refreshCall ins env call info

/-- `ClearPendingState` (call_status_manager.cpp:2625-2643). -/
def clearPendingState (w : StatusWorld) (call : Ref) : StatusWorld :=
  let callId := (w.object call).callId
  let w :=
    if w.pendingMo = true ∧ w.pendingMoCallId = callId then
      { w with pendingMo := false, pendingMoCallId := -1 }
    else w
  if w.pendingHangup = true ∧ w.pendingHangupCallId = callId then
    { w with pendingHangup := false, pendingHangupCallId := -1 }
  else w

/-- `UpdateDialingCallInfo` (call_status_manager.cpp:928-957). -/
def updateDialingCallInfo (w : StatusWorld) (info : CallDetailInfo) : ErrorCode × StatusWorld :=
  match w.getOneCallObjectByKey info.index info with
  | some call => (.telephonySuccess, (w.refreshCallIfNecessary ins env call info).2)
  | none =>
    match w.getOneCallObjectByIndex initIndex with
    | none => (.telephonyErrLocalPtrNull, w)
    | some call =>
      let oriNum := (w.object call).accountNumber
      let (call, w) := w.refreshCallIfNecessary ins env call info
      let w := w.modify call fun c => c.adopt info oriNum
      (.telephonySuccess, w.clearPendingState call)

theorem clearPendingState_heap (w : StatusWorld) (call : Ref) :
    (w.clearPendingState call).heap = w.heap := by
  unfold StatusWorld.clearPendingState
  dsimp only
  split_ifs <;> rfl

/-- `SetPhoneOrWatchDial`. -/
def setPhoneOrWatchDial (w : StatusWorld) (call : Ref) (phoneOrWatch : ℤ) : StatusWorld :=
  w.modify call fun c => { c with phoneOrWatch := phoneOrWatch }

/-- `BtCallDialingHandleFirst` (call_status_manager.cpp:2590-2603). -/
def btCallDialingHandleFirst (w : StatusWorld) (call : Ref) (info : CallDetailInfo) :
    StatusWorld :=
  if (w.heap call).isNone then w
  else
    let w := w.setPhoneOrWatchDial call CallObjectManager.watchDial
    if info.state = .alerting then
      let w := (w.updateDialingCallInfo ins env info).2
      if (w.object call).callState = .alerting then w.setTelCallState call .dialing else w
    else w

/-- `SetTelConferenceState`. -/
def setTelConferenceState (w : StatusWorld) (call : Ref) (state : TelConferenceState) :
    StatusWorld :=
  w.modify call fun c => { c with conferenceState := state }

/-- `DialingProcess` (carrier_call.cpp:38-46, call_base.cpp:72-80): nothing for VoIP and
    Bluetooth calls. It always succeeds. -/
def dialingProcess (w : StatusWorld) (call : Ref) : StatusWorld :=
  w.modify call fun c =>
    if c.objectType = .voip ∨ c.objectType = .bluetooth then c
    else { c with callRunningState := .connecting }

/-- `IncomingCallBase` (call_base.cpp:112-117). -/
def incomingCallBase (w : StatusWorld) (call : Ref) : StatusWorld :=
  w.modify call fun c => { c with callRunningState := .ringing }

/-- `SetNonVirtualCall`. -/
def setNonVirtualCall (w : StatusWorld) (call : Ref) (isNonVirtualCall : Bool) : StatusWorld :=
  w.modify call fun c => { c with isNonVirtualCall := isNonVirtualCall }

/-! ### Conferences -/

/-- `LaunchConference` of the object's class: `CSCall` sets its conference to IDLE first
    (cs_call.cpp:130-138, ims_call.cpp:216-223, ott_call.cpp:292-299, and the classes without
    conferences). -/
def launchConference (w : StatusWorld) (call : Ref) : ErrorCode × StatusWorld :=
  let callId := (w.object call).callId
  match (w.object call).objectType with
  | .cs =>
    let c := w.csConference.setConferenceState .idle
    let (ret, c) := CsConference.joinToConference c callId
    let w := { w with csConference := c }
    (ret, if ret = .telephonySuccess then w.setTelConferenceState call .active else w)
  | .ims =>
    let (ret, c) := ImsConference.joinToConference w.imsConference callId
    let w := { w with imsConference := c }
    (ret, if ret = .telephonySuccess then w.setTelConferenceState call .active else w)
  | .ott =>
    let (ret, c) := OttConference.joinToConference w.ottConference callId
    let w := { w with ottConference := c }
    (ret, if ret = .telephonySuccess then w.setTelConferenceState call .active else w)
  | .satellite => (.telephonyError, w)
  | .voip | .bluetooth | .errCall => (.telephonySuccess, w)

/-- `ExitConference` of the object's class (cs_call.cpp:140-147, ims_call.cpp:225-232,
    ott_call.cpp:301-308). -/
def exitConference (w : StatusWorld) (call : Ref) : ErrorCode × StatusWorld :=
  let callId := (w.object call).callId
  match (w.object call).objectType with
  | .cs =>
    let (ret, c) := CsConference.leaveFromConference env.junk w.csConference callId
    let w := { w with csConference := c }
    (ret, if ret = .telephonySuccess then w.setTelConferenceState call .idle else w)
  | .ims =>
    let (ret, c) := ImsConference.leaveFromConference env.junk w.imsConference callId
    let w := { w with imsConference := c }
    (ret, if ret = .telephonySuccess then w.setTelConferenceState call .idle else w)
  | .ott =>
    let (ret, c) := OttConference.leaveFromConference w.ottConference callId
    let w := { w with ottConference := c }
    (ret, if ret = .telephonySuccess then w.setTelConferenceState call .idle else w)
  | .satellite => (.telephonyError, w)
  | .voip | .bluetooth | .errCall => (.telephonySuccess, w)

/-- `HoldConference` of the object's class (cs_call.cpp:149-156, ims_call.cpp:234-241,
    ott_call.cpp:310-317). -/
def holdConference (w : StatusWorld) (call : Ref) : ErrorCode × StatusWorld :=
  let callId := (w.object call).callId
  match (w.object call).objectType with
  | .cs =>
    let (ret, c) := CsConference.holdConference w.csConference callId
    let w := { w with csConference := c }
    (ret, if ret = .telephonySuccess then w.setTelConferenceState call .holding else w)
  | .ims =>
    let (ret, c) := ImsConference.holdConference w.imsConference callId
    let w := { w with imsConference := c }
    (ret, if ret = .telephonySuccess then w.setTelConferenceState call .holding else w)
  | .ott =>
    let (ret, c) := OttConference.holdConference w.ottConference callId
    let w := { w with ottConference := c }
    (ret, if ret = .telephonySuccess then w.setTelConferenceState call .holding else w)
  | .satellite => (.telephonyError, w)
  | .voip | .bluetooth | .errCall => (.telephonySuccess, w)

/-- `SetConferenceCall` (call_status_manager.cpp:1322-1333), on the slot's conference calls. The
    test for a call that is not ACTIVE in a conference comes right after the state is set to
    IDLE. -/
def setConferenceCall (w : StatusWorld) (slotId : ℤ) : StatusWorld :=
  (w.getConferenceCallList slotId).foldl
    (fun w conferenceCall =>
      let w := w.setTelConferenceState conferenceCall .idle
      let w := (w.launchConference conferenceCall).2
      w.updateCallState conferenceCall (w.object conferenceCall).callState) w

/-- The end of `DisconnectedHandle` for a slot that has one conference call left
    (call_status_manager.cpp:1512-1521). -/
def endConferenceOfOne (w : StatusWorld) (slotId : ℤ) : StatusWorld :=
  match w.getConferenceCallList slotId with
  | [leftOneConferenceCall] =>
    if (w.object leftOneConferenceCall).conferenceState ≠ .idle then
      let w := w.setTelConferenceState leftOneConferenceCall .idle
      w.updateCallState leftOneConferenceCall (w.object leftOneConferenceCall).callState
    else w
  | _ => w

end StatusWorld

/-- The actions of the handlers. -/
inductive StatusAction
  | createNewCall (info : CallDetailInfo)
  | addOneCallObject (call : Ref)
  | deleteOneCallObject (callId : ℤ)
  | setTelCallState (call : Ref) (nextState : TelCallState)
  | updateCallState (call : Ref) (nextState : TelCallState)
  | refreshCallIfNecessary (call : Ref) (info : CallDetailInfo)
  | updateDialingCallInfo (info : CallDetailInfo)
  | btCallDialingHandleFirst (call : Ref) (info : CallDetailInfo)
  | setPhoneOrWatchDial (call : Ref) (phoneOrWatch : ℤ)
  | dialingProcess (call : Ref)
  | incomingCallBase (call : Ref)
  | setNonVirtualCall (call : Ref) (isNonVirtualCall : Bool)
  | clearPendingState (call : Ref)
  | setPendingMo (callId : ℤ)
  | clearPendingHangup
  | clearNeedWaitHold
  | setConferenceCall (slotId : ℤ)
  | exitConference (call : Ref)
  | holdConference (call : Ref)
  | endConferenceOfOne (slotId : ℤ)

/-- What an action does to the state. -/
def statusAction (ins : Insertion) (env : StatusEnv) (w : StatusWorld) :
    StatusAction → StatusWorld
  | .createNewCall info => (w.createNewCall env info).2
  | .addOneCallObject call => w.addOneCallObject ins env call
  | .deleteOneCallObject callId => w.deleteOneCallObject env callId
  | .setTelCallState call nextState => w.setTelCallState call nextState
  | .updateCallState call nextState => w.updateCallState call nextState
  | .refreshCallIfNecessary call info => (w.refreshCallIfNecessary ins env call info).2
  | .updateDialingCallInfo info => (w.updateDialingCallInfo ins env info).2
  | .btCallDialingHandleFirst call info => w.btCallDialingHandleFirst ins env call info
  | .setPhoneOrWatchDial call phoneOrWatch => w.setPhoneOrWatchDial call phoneOrWatch
  | .dialingProcess call => w.dialingProcess call
  | .incomingCallBase call => w.incomingCallBase call
  | .setNonVirtualCall call isNonVirtualCall => w.setNonVirtualCall call isNonVirtualCall
  | .clearPendingState call => w.clearPendingState call
  | .setPendingMo callId => { w with pendingMo := true, pendingMoCallId := callId }
  | .clearPendingHangup => { w with pendingHangup := false, pendingHangupCallId := -1 }
  | .clearNeedWaitHold => { w with needWaitHold := false }
  | .setConferenceCall slotId => w.setConferenceCall slotId
  | .exitConference call => (w.exitConference env call).2
  | .holdConference call => (w.holdConference call).2
  | .endConferenceOfOne slotId => w.endConferenceOfOne slotId

/-- A handler or a part of one. -/
abbrev StatusProgram := Program StatusWorld StatusAction

/-! ## The handlers -/

namespace CallStatusManager

open Program StatusWorld

variable (ins : Insertion) (env : StatusEnv)

/-- `CreateNewCall`. -/
def createNewCall (info : CallDetailInfo) : StatusProgram (Option Ref) := do
  let w ← get
  perform (.createNewCall info)
  return (w.createNewCall env info).1

/-- `UpdateCallState` (call_status_manager.cpp:1788-1826). -/
def updateCallState (call : Ref) (nextState : TelCallState) : StatusProgram ErrorCode := do
  perform (.updateCallState call nextState)
  if env.hasCallStateListener = false then return .callErrPhoneCallstateNotifyFailed
  return .telephonySuccess

/-- `RefreshCallIfNecessary`. -/
def refreshCallIfNecessary (call : Ref) (info : CallDetailInfo) : StatusProgram Ref := do
  let w ← get
  perform (.refreshCallIfNecessary call info)
  return (w.refreshCallIfNecessary ins env call info).1

/-- `UpdateDialingCallInfo`. -/
def updateDialingCallInfo (info : CallDetailInfo) : StatusProgram ErrorCode := do
  let w ← get
  perform (.updateDialingCallInfo info)
  return (w.updateDialingCallInfo ins env info).1

/-- `BtCallDialingHandle` (call_status_manager.cpp:2564-2576): the call it leaves in its
    argument. -/
def btCallDialingHandle (call : Option Ref) (info : CallDetailInfo) :
    StatusProgram (Option Ref) := do
  match call with
  | some call => do
    perform (.setPhoneOrWatchDial call CallObjectManager.watchDial)
    return some call
  | none => do
    let w ← get
    match w.getOneCallObjectByKey info.index info with
    | some call => do
      perform (.setPhoneOrWatchDial call 0)
      return some call
    | none => return none

/-- `UpdateDialingHandle` (call_status_manager.cpp:1001-1018). -/
def updateDialingHandle (info : CallDetailInfo) : StatusProgram Bool := do
  let w ← get
  let call := w.getOneCallObjectByKey initIndex info
  if info.callType = .bluetooth then do
    let call ← btCallDialingHandle call info
    return call.isSome
  else
    return (call.or (w.getOneCallObjectByKey info.index info)).isSome

/-- The part of `DialingHandle` that creates a call (call_status_manager.cpp:968-998). -/
def dialingNewCall (info : CallDetailInfo) : StatusProgram ErrorCode := do
  match ← createNewCall env info with
  | none => return .telephonyErrLocalPtrNull
  | some call => do
    perform (.addOneCallObject call)
    let w ← get
    if info.index = initIndex then do
      perform (.setPendingMo (w.object call).callId)
      perform (.setPhoneOrWatchDial call CallObjectManager.watchDial)
    perform (.dialingProcess call)
    updateCallState env call .dialing

/-- `DialingHandle` (call_status_manager.cpp:959-999). -/
def dialingHandle (info : CallDetailInfo) : StatusProgram ErrorCode := do
  if info.index > 0 then do
    let update ← updateDialingHandle info
    if update = true then updateDialingCallInfo ins env info
    else dialingNewCall env info
  else dialingNewCall env info

/-- `CreateAndSaveNewCall` (call_status_manager.cpp:2442-2457). -/
def createAndSaveNewCall (info : CallDetailInfo) : StatusProgram PUnit := do
  let w ← get
  if (w.getOneCallObjectByIndex initIndex).isSome then do
    let _ ← updateDialingCallInfo ins env info
  else
    match ← createNewCall env info with
    | none => return
    | some call => perform (.addOneCallObject call)

/-- `RefreshDialingStateByOtherState` (call_status_manager.cpp:2887-2905): the call object for
    the report, if there is one after the pending call was treated as dialing. -/
def refreshDialingStateByOtherState (info : CallDetailInfo) : StatusProgram (Option Ref) := do
  let w ← get
  if (w.getOneCallObjectByIndex initIndex).isNone then return none
  else do
    let _ ← dialingHandle ins env { info with state := .dialing }
    let w ← get
    return w.getOneCallObjectByKey info.index info

/-- How `ActiveHandle` and `AlertHandle` find the call object for a report
    (call_status_manager.cpp:1026-1037, 1398-1409). -/
def findOrCreate (info : CallDetailInfo) : StatusProgram (Option Ref) := do
  let w ← get
  let call := w.getOneCallObjectByKey info.index info
  if call.isNone ∧ env.isDcCallConneceted = true then do
    createAndSaveNewCall ins env info
    let w ← get
    match w.getOneCallObjectByKey info.index info with
    | some call => return some call
    | none => refreshDialingStateByOtherState ins env info
  else if call.isNone then refreshDialingStateByOtherState ins env info
  else return call

/-- `ActiveHandle` (call_status_manager.cpp:1020-1066). -/
def activeHandle (info : CallDetailInfo) : StatusProgram ErrorCode := do
  match ← findOrCreate ins env info with
  | none => return .telephonyErrLocalPtrNull
  | some call => do
    perform (.clearPendingState call)
    let call ← refreshCallIfNecessary ins env call info
    let w ← get
    let slotId := (w.object call).slotId
    if info.mpty = 1 ∧ (w.getConferenceCallList slotId).length > 1 then
      perform (.setConferenceCall slotId)
    else
      perform (.exitConference call)
    updateCallState env call .active

/-- `HandleDialWhenHolding` (call_status_manager.cpp:2494-2521). Without a pending hang-up it
    dials, and a failed dial is reported as a call of its own. -/
def handleDialWhenHolding : StatusProgram PUnit := do
  let w ← get
  if w.pendingHangup = true ∧ w.pendingHangupCallId ≠ -1 then do
    match w.getOneCallObject w.pendingHangupCallId with
    | some pendingHangupCall => do
      let _ ← updateCallState env pendingHangupCall .disconnected
      perform (.deleteOneCallObject w.pendingHangupCallId)
    | none => pure ⟨⟩
    perform .clearPendingHangup

/-- `UpdateCallStateAndHandleDsdsMode` (call_status_manager.cpp:2459-2492). -/
def updateCallStateAndHandleDsdsMode (call : Ref) : StatusProgram ErrorCode := do
  let ret ← updateCallState env call .holding
  let w ← get
  if env.isDsdaMode = true ∧ w.needWaitHold = true ∧ w.getCallNum .active = 0 then do
    perform .clearNeedWaitHold
    handleDialWhenHolding env
  return ret

/-- `HoldingHandle` (call_status_manager.cpp:1359-1384). -/
def holdingHandle (info : CallDetailInfo) : StatusProgram ErrorCode := do
  let w ← get
  let call := w.getOneCallObjectByKey info.index info
  if call.isNone ∧ env.isDcCallConneceted = true then
    createAndSaveNewCall ins env info
  let w ← get
  match w.getOneCallObjectByKey info.index info with
  | none => return .telephonyErrLocalPtrNull
  | some call => do
    let call ← refreshCallIfNecessary ins env call info
    if info.mpty = 1 then
      perform (.holdConference call)
    updateCallStateAndHandleDsdsMode env call

/-- `AlertHandle` (call_status_manager.cpp:1394-1427). -/
def alertHandle (info : CallDetailInfo) : StatusProgram ErrorCode := do
  match ← findOrCreate ins env info with
  | none => return .telephonyErrLocalPtrNull
  | some call => do
    perform (.clearPendingState call)
    let w ← get
    if (w.object call).callState = .disconnecting then
      return .callErrCallStateMismatchOperation
    else do
      let call ← refreshCallIfNecessary ins env call info
      updateCallState env call .alerting

/-- `DisconnectingHandle` (call_status_manager.cpp:1429-1449). -/
def disconnectingHandle (info : CallDetailInfo) : StatusProgram ErrorCode := do
  let w ← get
  match w.getOneCallObjectByKey info.index info with
  | none => return .telephonyErrLocalPtrNull
  | some call => do
    let call ← refreshCallIfNecessary ins env call info
    updateCallState env call .disconnecting

/-- The part of `DisconnectedHandle` that follows the lookup
    (call_status_manager.cpp:1493-1533). `HandleHoldCallOrAutoAnswerCall` deletes the call. -/
def disconnectCall (call : Ref) (info : CallDetailInfo) : StatusProgram ErrorCode := do
  let call ← refreshCallIfNecessary ins env call info
  perform (.clearPendingState call)
  perform (.exitConference call)
  let _ ← updateCallState env call .disconnected
  let w ← get
  if w.needWaitHold = true ∧ w.getCallNum .active = 0 then do
    perform .clearNeedWaitHold
    handleDialWhenHolding env
  perform (.deleteOneCallObject (w.object call).callId)
  perform (.endConferenceOfOne (w.object call).slotId)
  return .telephonySuccess

/-- `DisconnectedHandle` (call_status_manager.cpp:1475-1534). -/
def disconnectedHandle (info : CallDetailInfo) : StatusProgram ErrorCode := do
  let w ← get
  match w.getOneCallObjectByKey info.index info with
  | some call => disconnectCall ins env call info
  | none => do
    match ← refreshDialingStateByOtherState ins env info with
    | some call => disconnectCall ins env call info
    | none => return .telephonyErrLocalPtrNull

/-- `FilterResultsDispose` (call_status_policy.cpp:42-79). -/
def filterResultsDispose (call : Ref) : StatusProgram ErrorCode := do
  let w ← get
  if w.hasMaximum .ringing = true ∨ w.hasMaximum .active = true then
    return env.hangUpCall
  else if env.isVoipCallRinging = true then
    return env.rejectCall
  else do
    perform (.incomingCallBase call)
    return .telephonySuccess

/-- `RefreshOldCall` (call_status_manager.cpp:2793-2818) for the stored call it finds. A pending
    call is reported as failed, which is a report of its own. -/
def refreshOldCall (call : Ref) (info : CallDetailInfo) : StatusProgram ErrorCode := do
  let w ← get
  let oldCallType := (w.object call).callType
  let videoState := (w.object call).videoState
  if oldCallType ≠ info.callType ∨ (w.object call).callState ≠ info.state ∨
      videoState ≠ info.callMode then do
    let call ← refreshCallIfNecessary ins env call info
    if oldCallType ≠ info.callType ∨ videoState ≠ info.callMode then
      updateCallState env call info.state
    else return .telephonySuccess
  else return .telephonySuccess

/-- The part of `IncomingHandle` for a call that is not stored yet
    (call_status_manager.cpp:511-562, with `HandleRejectCall`, lines 719-740, and
    `HandleRingOnceCall`, lines 2313-2325). -/
def incomingNewCall (info : CallDetailInfo) : StatusProgram ErrorCode := do
  match ← createNewCall env info with
  | none => return .callErrCallObjectIsNull
  | some call =>
    if env.isRejectCall = true then do
      perform (.setTelCallState call .incoming)
      if env.rejectCall ≠ .telephonySuccess then return env.rejectCall
      return env.addCallLog
    else if info.callType ≠ .voip ∧ info.callType ≠ .bluetooth ∧ env.isRingOnceCall = true then do
      perform (.setTelCallState call .incoming)
      return env.addCallLog
    else do
      perform (.addOneCallObject call)
      let ret ← updateCallState env call info.state
      if ret ≠ .telephonySuccess then return ret
      filterResultsDispose env call

/-- `IncomingHandle` with `PrepareIncomingCall` (call_status_manager.cpp:502-547, 564-576). -/
def incomingHandle (info : CallDetailInfo) : StatusProgram ErrorCode := do
  let w ← get
  match w.getOneCallObjectByKey info.index info with
  | some call => refreshOldCall ins env call info
  | none =>
    if (info.callType = .cs ∨ info.callType = .ims ∨ info.callType = .satellite) ∧
        env.incomingFilterPolicy ≠ .telephonySuccess then
      return env.incomingFilterPolicy
    else incomingNewCall env info

/-- `HandleBluetoothCallReportInfo` (call_status_manager.cpp:189-221). -/
def handleBluetoothCallReportInfo (info : CallDetailInfo) : StatusProgram PUnit := do
  if info.state = .waiting ∨ info.state = .incoming ∨ info.index ≤ 0 then return
  else do
    let w ← get
    let first :=
      if info.state = .dialing ∨ info.state = .alerting then w.getOneCallObjectByKey initIndex info
      else none
    match first with
    | some call => perform (.btCallDialingHandleFirst call info)
    | none =>
      if (w.getOneCallObjectByKey info.index info).isSome ∨ info.state = .disconnected then return
      else
        match ← createNewCall env info with
        | none => return
        | some call => perform (.addOneCallObject call)

/-! ### VoIP calls -/

/-- `ActiveVoipCallHandle` (call_status_manager.cpp:1335-1357). -/
def activeVoipCallHandle (info : CallDetailInfo) : StatusProgram ErrorCode := do
  let w ← get
  match w.getOneCallObjectByVoipCallId info.voipCallInfo with
  | none => return .telephonyErrLocalPtrNull
  | some call => do
    -- the result goes through a `bool`
    let ret ← updateCallState env call info.state
    if ret ≠ .telephonySuccess then return .other 1
    return .telephonySuccess

/-- `IncomingVoipCallHandle` (call_status_manager.cpp:742-784). -/
def incomingVoipCallHandle (info : CallDetailInfo) : StatusProgram ErrorCode := do
  let w ← get
  match w.getOneCallObjectByVoipCallId info.voipCallInfo with
  | some _ => return .telephonySuccess
  | none => do
    match ← createNewCall env info with
    | none => return .callErrCallObjectIsNull
    | some call => do
      perform (.setNonVirtualCall call (!env.isVirtualCall))
      perform (.setTelCallState call .incoming)
      perform (.addOneCallObject call)
      updateCallState env call info.state

/-- `DisconnectedVoipCallHandle` (call_status_manager.cpp:1451-1473). -/
def disconnectedVoipCallHandle (info : CallDetailInfo) : StatusProgram ErrorCode := do
  let w ← get
  match w.getOneCallObjectByVoipCallId info.voipCallInfo with
  | none => return .telephonyErrLocalPtrNull
  | some call => do
    let ret ← updateCallState env call .disconnected
    if ret ≠ .telephonySuccess then return ret
    perform (.setNonVirtualCall call false)
    perform (.deleteOneCallObject (w.object call).callId)
    return ret

/-- `OutgoingVoipCallHandle` (call_status_manager.cpp:786-812). -/
def outgoingVoipCallHandle (info : CallDetailInfo) : StatusProgram ErrorCode := do
  let w ← get
  match w.getOneCallObjectByVoipCallId info.voipCallInfo with
  | some call => updateCallState env call info.state
  | none => do
    match ← createNewCall env info with
    | none => return .callErrCallObjectIsNull
    | some call => do
      perform (.setNonVirtualCall call (!env.isVirtualCall))
      perform (.addOneCallObject call)
      updateCallState env call info.state

/-- `AnsweredVoipCallHandle` (call_status_manager.cpp:814-831): it notifies INCOMING → ANSWERED
    itself and writes no state. -/
def answeredVoipCallHandle (info : CallDetailInfo) : StatusProgram ErrorCode := do
  let w ← get
  match w.getOneCallObjectByVoipCallId info.voipCallInfo with
  | none => return .telephonyError
  | some _ =>
    if env.hasCallStateListener = true then return .telephonySuccess else return .telephonyError

/-- `DisconnectingVoipCallHandle` (call_status_manager.cpp:846-859). -/
def disconnectingVoipCallHandle (info : CallDetailInfo) : StatusProgram ErrorCode := do
  let w ← get
  match w.getOneCallObjectByVoipCallId info.voipCallInfo with
  | none => return .telephonyError
  | some call => do
    perform (.setNonVirtualCall call false)
    updateCallState env call .disconnecting

/-- `HandleVoipCallReportInfo` (call_status_manager.cpp:355-386). -/
def handleVoipCallReportInfo (info : CallDetailInfo) : StatusProgram ErrorCode :=
  match info.state with
  | .active => activeVoipCallHandle env info
  | .incoming => incomingVoipCallHandle env info
  | .disconnected => disconnectedVoipCallHandle env info
  | .dialing => outgoingVoipCallHandle env info
  | .answered => answeredVoipCallHandle env info
  | .disconnecting => disconnectingVoipCallHandle env info
  | _ => return .telephonyErrFail

/-- `HandleCallReportInfo` (call_status_manager.cpp:137-187) with `HandleCallReportInfoEx`
    (lines 2605-2623) and `WaitingHandle` (lines 1386-1392). -/
def handleCallReportInfo (info : CallDetailInfo) : StatusProgram ErrorCode := do
  if info.callType = .voip then handleVoipCallReportInfo env info
  else do
    if info.callType = .bluetooth then
      handleBluetoothCallReportInfo env info
    match info.state with
    | .active => activeHandle ins env info
    | .holding => holdingHandle ins env info
    | .dialing => dialingHandle ins env info
    | .alerting => alertHandle ins env info
    | .incoming | .waiting => incomingHandle ins env info
    | .disconnected => disconnectedHandle ins env info
    | .disconnecting => disconnectingHandle ins env info
    | .unknown | .idle | .answered => return .telephonyErrFail

end CallStatusManager

/-! ## Runs -/

namespace Conference

/-- `CombineConference` of a call on its conference, before the request (cs_call.cpp:74-87,
    ims_call.cpp:153-167). -/
def combine (c : Conference) (callId : ℤ) : Conference :=
  let (ret, c) := c.setMainCall callId
  if ret ≠ .telephonySuccess ∨ c.state = .creating then c else c.setConferenceState .creating

/-- `HandleCombineConferenceFailEvent` of a call on its conference (cs_call.cpp:89-99,
    ims_call.cpp:169-179, ott_call.cpp:230-240). -/
def combineFailed (c : Conference) : Conference :=
  let c := (c.setMainCall (begin c.subCallIdSet errId)).2
  c.setConferenceState c.oldState

end Conference

namespace StatusWorld

/-- `CombineConferenceRequest` for a call (call_request_process.cpp:686-697). An OTT call packs
    its request in between, with the result `packOttCallRequestInfo` (ott_call.cpp:204-228). -/
def combineConference (w : StatusWorld) (callId : ℤ) (packOttCallRequestInfo : ErrorCode) :
    StatusWorld :=
  match w.getOneCallObject callId with
  | none => w
  | some call =>
    match (w.object call).objectType with
    | .cs => { w with csConference := w.csConference.combine callId }
    | .ims => { w with imsConference := w.imsConference.combine callId }
    | .ott =>
      if packOttCallRequestInfo = .telephonySuccess then
        { w with ottConference := w.ottConference.combine callId }
      else { w with ottConference := (w.ottConference.setMainCall callId).2 }
    | .voip | .satellite | .bluetooth | .errCall => w

/-- The part of `HandleEventResultReportInfo` for a failed request to combine calls
    (call_status_manager.cpp:427-430): it goes to the last active call. -/
def combineConferenceFailed (w : StatusWorld) : StatusWorld :=
  match w.store.callObjectPtrList.reverse.find? fun it =>
      (w.object it).callRunningState = .active with
  | none => w
  | some activeCall =>
    match (w.object activeCall).objectType with
    | .cs => { w with csConference := w.csConference.combineFailed }
    | .ims => { w with imsConference := w.imsConference.combineFailed }
    | .ott => { w with ottConference := w.ottConference.combineFailed }
    | .voip | .satellite | .bluetooth | .errCall => w

/-- The hang-up of a call that waits for its first report (call_control_manager.cpp:486-493). -/
def hangUpPendingCall (w : StatusWorld) (callId : ℤ) : StatusWorld :=
  if w.pendingMo = true ∧ w.pendingMoCallId = callId then
    { w with
      pendingMo := false
      pendingMoCallId := -1
      pendingHangup := true
      pendingHangupCallId := callId }
  else w

end StatusWorld

/-- The operations of a run: a report of one call, and what reaches the state between two
    reports: the list that `HandleCallsReportInfo` keeps, the deferred dial's flag, the hang-up
    of a pending call, and the combination of calls into a conference and its failure. -/
inductive StatusOp
  | report (env : StatusEnv) (info : CallDetailInfo)
  | callsReport (slotId : ℤ) (callVec : List CallDetailInfo)
  | waitHold (needWaitHold : Bool)
  | hangUpPendingCall (callId : ℤ)
  | combineConference (callId : ℤ) (packOttCallRequestInfo : ErrorCode)
  | combineConferenceFailed

/-- The state after one operation. -/
def statusStep (ins : Insertion) (w : StatusWorld) : StatusOp → StatusWorld
  | .report env info =>
    ((CallStatusManager.handleCallReportInfo ins env info).run (statusAction ins env) w).2
  | .callsReport slotId callVec =>
    { w with tmpCallDetailsInfo := Function.update w.tmpCallDetailsInfo slotId callVec }
  | .waitHold needWaitHold => { w with needWaitHold := needWaitHold }
  | .hangUpPendingCall callId => w.hangUpPendingCall callId
  | .combineConference callId packOttCallRequestInfo =>
    w.combineConference callId packOttCallRequestInfo
  | .combineConferenceFailed => w.combineConferenceFailed

/-! ## Reports for the examples -/

/-- Nothing is out of the ordinary. -/
def modemEnv : StatusEnv where
  store := ⟨false, false⟩
  isDcCallConneceted := false
  hasCallStateListener := true
  incomingFilterPolicy := .telephonySuccess
  isRejectCall := false
  isRingOnceCall := false
  rejectCall := .telephonySuccess
  hangUpCall := .telephonySuccess
  addCallLog := .telephonySuccess
  isVoipCallRinging := false
  isVirtualCall := true
  isDsdaMode := false
  illegalCallOperation := 99
  junk := 0

/-- A call of slot 0 as it is reported. -/
def slotCall (callType : CallType) (index : ℤ) (state : TelCallState) (mpty : ℤ) : CallDetailInfo where
  index := index
  phoneNum := "10086"
  accountId := 0
  callType := callType
  callMode := .voice
  state := state
  mpty := mpty
  phoneOrWatch := 0
  antiFraudState := 0
  phoneIndex := 0
  voipCallInfo := {}

end CallManager
