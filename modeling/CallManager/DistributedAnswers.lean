import CallManager.DistributedQuery
import CallManager.InteroperableSlots
import CallManager.VoipList

/-!
# The answers to the query of a distributed call

The sink asks the source for the name, the location and the direction of its calls,
and names a call by its account number. The answer has that number again, and the
sink looks the call up with it: `GetOneCallObject` compares it with the numbers of
the calls without their post-dial parts and separators, and takes the first that
fits.

The messages are those of the query, with the request for the current data of a CS
or IMS call and its answer, and what is in a message is what was put there. The calls
are the entries of the list in their order.

Specification (`Reaches`): the number in an answer to a request for a call finds
that call, and what the answer brings is stored in it and in no other.

Results:
* `SentFor.num_eq`: the number in a request for a call is its account number, as it
  is.
* `dataRsp_num`, `currentDataRsp_num`: the source answers with the number it is asked
  for.
* `reaches_iff`: the answers for a call reach it iff its number is not empty and has
  no character that `RemovePostDialPhoneNumber` drops, and no call before it has
  that number as what is left of its own.
* `post_dial_not_found`: the answers for "10086,1" find no call.
-/

namespace CallManager.DistributedAnswers

open DistributedQuery MaskTable

/-! ## Model -/

/-- A stored call. -/
structure Call extends DistributedCall where
  callType : CallType
  callDirection : CallDirection

/-- The number of a direction (call_manager_base.h:283-296). -/
def directionCode : CallDirection → ℤ
  | .callDirectionIn => 0
  | .callDirectionOut => 1
  | .callDirectionUnknow => 2

/-- The requests of the sink. -/
inductive Request
  | dataReq (itemType : ℕ) (num : ByteString)
  | currentDataReq (num : ByteString)
  deriving DecidableEq, Repr

/-- The answers of the source. -/
inductive Response
  | dataRsp (itemType : ℕ) (num value : ByteString)
  | currentDataRsp (isMuted : Bool) (num : ByteString) (direction : ℤ)
  deriving DecidableEq, Repr

/-- The number in a request. -/
def Request.num : Request → ByteString
  | dataReq _ num | currentDataReq num => num

/-- The number in an answer. -/
def Response.num : Response → ByteString
  | dataRsp _ num _ | currentDataRsp _ num _ => num

/-- `CallObjectManager::GetOneCallObject(phoneNumber)`, the place of the call in the list
    (call_object_manager.cpp:270-289). -/
def getOneCallObject (callObjectPtrList : List Call) (phoneNumber : ByteString) : Option ℕ :=
  if phoneNumber = [] then none
  else callObjectPtrList.findIdx? fun it =>
    removePostDialPhoneNumber it.accountNumber = phoneNumber

namespace Call

/-- `SetCallerInfo` with another name. -/
def setCallerName (c : Call) (name : ByteString) : Call :=
  { c with callerName := cString name, name_text := zero_notMem_cString name }

/-- `SetNumberLocation`. -/
def setNumberLocation (c : Call) (location : ByteString) : Call :=
  { c with numberLocation := cString location, location_text := zero_notMem_cString location }

/-- `SetCallDirection` of a number that is IN or OUT. -/
def setCallDirection (c : Call) (direction : ℤ) : Call :=
  { c with
    callDirection := if direction = 0 then .callDirectionIn else .callDirectionOut }

end Call

/-- The sink: what it asks for, its calls, whether it is muted, and the places of the calls
    that it reported. -/
structure Sink where
  controller : SinkController
  callObjectPtrList : List Call
  isMuted : Bool
  reported : List ℕ

namespace Sink

/-- `CreateCurrentDataReqMsg` for a CS or IMS call
    (distributed_data_sink_controller.cpp:252-279). -/
def currentDataReq (call : Call) : Option Request :=
  if call.callType = .ims ∨ call.callType = .cs then some (.currentDataReq call.accountNumber)
  else none

/-- `SendCurrentDataQueryReq` (distributed_data_sink_controller.cpp:281-307). -/
def sendCurrentDataQueryReq (s : Sink) : List Request :=
  if s.controller.session = .null then [] else s.callObjectPtrList.filterMap currentDataReq

/-- `UpdateCallName` (distributed_data_sink_controller.cpp:215-228). -/
def updateCallName (s : Sink) (call : ℕ) (name : ByteString) : Sink :=
  if cString name = [] then s
  else
    { s with
      callObjectPtrList := s.callObjectPtrList.modify call fun c => c.setCallerName name
      reported := s.reported ++ [call] }

/-- `UpdateCallLocation` (distributed_data_sink_controller.cpp:230-240). -/
def updateCallLocation (s : Sink) (call : ℕ) (location : ByteString) : Sink :=
  if cString location = [] then s
  else
    { s with
      callObjectPtrList := s.callObjectPtrList.modify call fun c => c.setNumberLocation location
      reported := s.reported ++ [call] }

/-- `HandleDataQueryRsp` (distributed_data_sink_controller.cpp:193-213). -/
def handleDataQueryRsp (s : Sink) (type : ℕ) (num value : ByteString) : Sink :=
  match getOneCallObject s.callObjectPtrList num with
  | none => s
  | some call =>
    if type = DistributedDataType.name.code then s.updateCallName call value
    else if type = DistributedDataType.location.code then s.updateCallLocation call value
    else s

/-- `HandleCurrentDataQueryRsp` (distributed_data_sink_controller.cpp:309-329). -/
def handleCurrentDataQueryRsp (s : Sink) (isMuted : Bool) (num : ByteString) (direction : ℤ) :
    Sink :=
  let s := { s with isMuted }
  if direction < 0 ∨ 1 < direction then s
  else
    match getOneCallObject s.callObjectPtrList num with
    | none => s
    | some call =>
      { s with
        callObjectPtrList :=
          s.callObjectPtrList.modify call fun c => c.setCallDirection direction }

/-- `HandleRecvMsg` (distributed_data_sink_controller.cpp:67-82). -/
def handleRecvMsg (s : Sink) : Response → Sink
  | .dataRsp itemType num value => s.handleDataQueryRsp itemType num value
  | .currentDataRsp isMuted num direction => s.handleCurrentDataQueryRsp isMuted num direction

end Sink

/-- `HandleCurrentDataQueryMsg` of the source with the calls, on a session
    (distributed_data_source_controller.cpp:298-325). -/
def handleCurrentDataQueryMsg (callObjectPtrList : List Call) (isMuted : Bool) (num : ByteString) :
    Option Response := do
  let call ← getOneCallObject callObjectPtrList num
  let call ← callObjectPtrList[call]?
  return .currentDataRsp isMuted num (directionCode call.callDirection)

/-! ## Specification -/

/-- A request that is sent for the call: one that there is with what `CheckLocalData` notes
    for it, and was not there before, or that for its current data. -/
inductive SentFor (c : Call) : Request → Prop
  | data {controller : SinkController} {type : DistributedDataType} {itemType : ℕ}
    {num : ByteString} (hold : .dataReq itemType num ∉ controller.sendDataQueryReq.2)
    (h : .dataReq itemType num ∈
      (controller.checkLocalData c.toDistributedCall type).sendDataQueryReq.2) :
    SentFor c (.dataReq itemType num)
  | current {q : Request} (h : Sink.currentDataReq c = some q) : SentFor c q

/-- An answer to a request has its number, and its type; it has something to store. -/
inductive Answers : Request → Response → Prop
  | data {itemType : ℕ} {num value : ByteString} (h : cString value ≠ []) :
    Answers (.dataReq itemType num) (.dataRsp itemType num value)
  | current {isMuted : Bool} {num : ByteString} {direction : ℤ}
    (h : direction = 0 ∨ direction = 1) :
    Answers (.currentDataReq num) (.currentDataRsp isMuted num direction)

/-- What the answer brings, stored in a call. -/
def Response.store (r : Response) (c : Call) : Call :=
  match r with
  | dataRsp itemType _ value =>
    if itemType = DistributedDataType.name.code then c.setCallerName value
    else if itemType = DistributedDataType.location.code then c.setNumberLocation value
    else c
  | currentDataRsp _ _ direction => c.setCallDirection direction

/-- Every answer for the call `c` at place `i` finds it, and is stored in it alone. -/
def Reaches (calls : List Call) (i : ℕ) (c : Call) : Prop :=
  ∀ q r, SentFor c q → Answers q r →
    getOneCallObject calls r.num = some i ∧
      ∀ s : Sink, s.callObjectPtrList = calls →
        (s.handleRecvMsg r).callObjectPtrList = calls.modify i r.store

/-- The characters that `RemovePostDialPhoneNumber` keeps: digits, `*`, `#`, `+` and `N`. -/
def IsKept (ch : UInt8) : Prop := 48 ≤ ch ∧ ch ≤ 57 ∨ ch = 42 ∨ ch = 35 ∨ ch = 43 ∨ ch = 78

instance (ch : UInt8) : Decidable (IsKept ch) := inferInstanceAs (Decidable (_ ∨ _))

instance (number : ByteString) : Decidable (∀ ch ∈ number, IsKept ch) :=
  List.decidableBAll _ number

/-- The number of the call finds it: it is what is left of it, and of none before. -/
structure Findable (calls : List Call) (i : ℕ) (c : Call) : Prop where
  nonempty : c.accountNumber ≠ []
  kept : ∀ ch ∈ c.accountNumber, IsKept ch
  first : ∀ d ∈ calls.take i, removePostDialPhoneNumber d.accountNumber ≠ c.accountNumber

/-! ## The numbers -/

/-- What is sent for a call has its account number. -/
theorem SentFor.num_eq {c : Call} {q : Request} (h : SentFor c q) : q.num = c.accountNumber := by
  cases h with
  | @data controller type itemType num hold h =>
    unfold SinkController.checkLocalData at h
    split_ifs at h with hempty
    · exact absurd h hold
    unfold SinkController.sendDataQueryReq at h hold
    dsimp only at h hold
    split_ifs at h hold with hsession
    · simp at h
    dsimp only at h hold
    rcases mem_serve_record h with hbefore | ⟨type', -, -, hans⟩
    · exact absurd hbefore hold
    · simp only [Option.some.injEq, DataMsg.dataReq.injEq] at hans
      exact hans.2.symm
  | current h =>
    unfold Sink.currentDataReq at h
    split_ifs at h
    rw [Option.some.injEq] at h
    rw [← h]
    rfl

/-- A CS or IMS call is asked for by its number. -/
theorem sentFor_current {c : Call} (h : c.callType = .cs ∨ c.callType = .ims) :
    SentFor c (.currentDataReq c.accountNumber) :=
  .current (if_pos h.symm)

theorem sendDataQueryReq_bound (queryInfo : MaskTable ByteString) :
    (SinkController.mk .bound queryInfo).sendDataQueryReq.2 =
      (serve dataTypes (fun num type => some (.dataReq type num)) queryInfo).2 :=
  rfl

/-- The name of a call is asked for by its number, if it is not known. -/
theorem sentFor_name {c : Call} (hnum : c.accountNumber ≠ []) (hname : c.callerName = []) :
    SentFor c (.dataReq DistributedDataType.name.code c.accountNumber) := by
  have hold : .dataReq DistributedDataType.name.code c.accountNumber ∉
      (SinkController.mk .bound ∅).sendDataQueryReq.2 := by
    rw [sendDataQueryReq_bound, mem_serve]
    rintro ⟨key, type, -, hask, -⟩
    rw [asks_empty] at hask
    exact absurd hask (by decide)
  have hlacks : SinkController.lacks c.toDistributedCall .name = 1 <<< 0 := if_pos hname
  have hasks : asks (record ∅ c.accountNumber (1 <<< 0)) c.accountNumber
      DistributedDataType.name.code = true := by
    rw [asks_record]
    simp [DistributedDataType.code]
  have hnew : .dataReq DistributedDataType.name.code c.accountNumber ∈
      ((SinkController.mk .bound ∅).checkLocalData c.toDistributedCall
        .name).sendDataQueryReq.2 := by
    unfold SinkController.checkLocalData
    rw [if_neg hnum, hlacks, sendDataQueryReq_bound, mem_serve]
    exact ⟨_, _, by decide, hasks, rfl⟩
  exact .data hold hnew

/-- The number of an answer to what was asked for is the number that was asked for. -/
theorem dataRsp_num {controller : SourceController} {itemType : ℕ} {num : ByteString}
    {itemType' : ℕ} {num' value : ByteString}
    (hold : .dataRsp itemType' num' value ∉ controller.sendLocalDataRsp.2)
    (h : .dataRsp itemType' num' value ∈
      (controller.handleDataQueryMsg itemType num).sendLocalDataRsp.2) : num' = num := by
  unfold SourceController.handleDataQueryMsg at h
  by_cases htype : itemType ∉ dataTypes
  · rw [if_pos htype] at h
    exact absurd h hold
  rw [if_neg htype] at h
  split_ifs at h with hempty
  · exact absurd h hold
  unfold SourceController.sendLocalDataRsp at h hold
  dsimp only at h hold
  split_ifs at h hold with hsession
  · simp at h
  dsimp only at h hold
  rcases mem_serve_record h with hbefore | ⟨type', -, -, hans⟩
  · exact absurd hbefore hold
  · obtain ⟨value', -, heq⟩ := Option.map_eq_some_iff.mp hans
    rw [DataMsg.dataRsp.injEq] at heq
    exact heq.2.1.symm

/-- The current data is answered with the number, and only if that number finds a call of the
    source. -/
theorem currentDataRsp_num {callObjectPtrList : List Call} {isMuted : Bool} {num : ByteString}
    {r : Response} (h : handleCurrentDataQueryMsg callObjectPtrList isMuted num = some r) :
    r.num = num ∧ (getOneCallObject callObjectPtrList num).isSome := by
  unfold handleCurrentDataQueryMsg at h
  obtain ⟨call, hcall, h⟩ := Option.bind_eq_some_iff.mp h
  obtain ⟨c, -, h⟩ := Option.bind_eq_some_iff.mp h
  obtain rfl := Option.some.inj h
  exact ⟨rfl, by rw [hcall]; rfl⟩

/-- A number that keeps all its characters has no post-dial part. -/
theorem removePostDialPhoneNumber_eq_self_iff (number : ByteString) :
    removePostDialPhoneNumber number = number ↔ ∀ ch ∈ number, IsKept ch := by
  unfold removePostDialPhoneNumber
  constructor
  · intro h ch hch
    rw [← h] at hch
    exact of_decide_eq_true (List.mem_filter.mp hch).2
  · intro h
    have hwhole : (number.takeWhile fun c => c ≠ 44 ∧ c ≠ 59) = number := by
      rw [List.takeWhile_eq_self_iff]
      intro ch hch
      have hkept := h ch hch
      have hcomma : ch ≠ 44 := by rintro rfl; revert hkept; decide
      have hsemicolon : ch ≠ 59 := by rintro rfl; revert hkept; decide
      exact decide_eq_true ⟨hcomma, hsemicolon⟩
    rw [hwhole, List.filter_eq_self]
    exact fun ch hch => decide_eq_true (h ch hch)

/-! ## The lookup -/

variable {calls : List Call} {i : ℕ} {c : Call}

/-- The number of a call finds it iff the call is `Findable`. -/
theorem getOneCallObject_iff (hc : calls[i]? = some c) :
    getOneCallObject calls c.accountNumber = some i ↔ Findable calls i c := by
  obtain ⟨hi, hget⟩ := List.getElem?_eq_some_iff.mp hc
  unfold getOneCallObject
  split_ifs with hempty
  · exact iff_of_false (by simp) fun h => h.nonempty hempty
  rw [List.findIdx?_eq_some_iff_getElem]
  constructor
  · rintro ⟨_, hfound, hbefore⟩
    refine ⟨hempty, ?_, ?_⟩
    · rw [hget, decide_eq_true_eq] at hfound
      exact (removePostDialPhoneNumber_eq_self_iff _).mp hfound
    · intro d hd
      obtain ⟨j, hj, rfl⟩ := List.mem_take_iff_getElem.mp hd
      simpa using hbefore j (by omega)
  · intro h
    refine ⟨hi, ?_, ?_⟩
    · rw [hget, decide_eq_true_eq]
      exact (removePostDialPhoneNumber_eq_self_iff _).mpr h.kept
    · intro j hj
      have hmem : calls[j] ∈ calls.take i := List.mem_take_iff_getElem.mpr ⟨j, by omega, rfl⟩
      simpa using h.first _ hmem

/-- An answer whose number finds a call is stored in that call. -/
theorem handleRecvMsg_of_found {q : Request} {r : Response} (h : Answers q r)
    (hfound : getOneCallObject calls r.num = some i) {s : Sink} (hs : s.callObjectPtrList = calls) :
    (s.handleRecvMsg r).callObjectPtrList = calls.modify i r.store := by
  subst hs
  cases h with
  | @data itemType num value hvalue =>
    have hfound' : getOneCallObject s.callObjectPtrList num = some i := hfound
    unfold Sink.handleRecvMsg Sink.handleDataQueryRsp
    dsimp only
    rw [hfound']
    dsimp only
    split_ifs with hname hlocation
    · have hstore : (Response.dataRsp itemType num value).store = fun c => c.setCallerName value :=
        funext fun c => if_pos hname
      rw [hstore, Sink.updateCallName, if_neg hvalue]
    · have hstore : (Response.dataRsp itemType num value).store =
          fun c => c.setNumberLocation value :=
        funext fun c => (if_neg hname).trans (if_pos hlocation)
      rw [hstore, Sink.updateCallLocation, if_neg hvalue]
    · have hstore : (Response.dataRsp itemType num value).store = id :=
        funext fun c => (if_neg hname).trans (if_neg hlocation)
      rw [hstore, List.modify_id]
  | @current isMuted num direction hdirection =>
    have hfound' : getOneCallObject s.callObjectPtrList num = some i := hfound
    have hrange : ¬ (direction < 0 ∨ 1 < direction) := by omega
    unfold Sink.handleRecvMsg Sink.handleCurrentDataQueryRsp
    dsimp only
    rw [if_neg hrange, hfound']
    rfl

/-! ## Main results -/

/-- **Distributed answers.** The answers for a CS or IMS call reach it iff its number is not
    empty and has no character that the lookup drops, and no call before it has that number
    without its post-dial part. -/
theorem reaches_iff (calls : List Call) (i : ℕ) (c : Call) (hc : calls[i]? = some c)
    (htype : c.callType = .cs ∨ c.callType = .ims) : Reaches calls i c ↔ Findable calls i c := by
  rw [← getOneCallObject_iff hc]
  constructor
  · intro h
    have hanswer : Answers (.currentDataReq c.accountNumber)
        (.currentDataRsp false c.accountNumber 0) := .current (.inl rfl)
    exact (h _ _ (sentFor_current htype) hanswer).1
  · intro hfound q r hq hr
    have hnum : r.num = c.accountNumber := by
      rw [← hq.num_eq]
      cases hr <;> rfl
    rw [hnum]
    exact ⟨hfound, fun s hs => handleRecvMsg_of_found hr (hnum ▸ hfound) hs⟩

/-- A dialed IMS call to a number, of which nothing is known. -/
def dialedCall (accountNumber : ByteString) (length_le : accountNumber.length ≤ maxNumberLen)
    (number_text : 0 ∉ accountNumber) : Call where
  accountNumber
  callerName := []
  numberLocation := []
  length_le
  number_text
  name_text := List.not_mem_nil
  location_text := List.not_mem_nil
  callType := .ims
  callDirection := .callDirectionOut

/-- The answers for "10086" reach it. -/
theorem plain_number_found :
    Reaches [dialedCall [0x31, 0x30, 0x30, 0x38, 0x36] (by decide) (by decide)] 0
      (dialedCall [0x31, 0x30, 0x30, 0x38, 0x36] (by decide) (by decide)) :=
  (reaches_iff _ 0 _ rfl (.inr rfl)).mpr ⟨by decide, by decide, by simp⟩

/-- "10086,1" -/
def postDialCall : Call :=
  dialedCall [0x31, 0x30, 0x30, 0x38, 0x36, 0x2C, 0x31] (by decide) (by decide)

/-- The answers for "10086,1" find no call. -/
theorem post_dial_not_found :
    ¬ ∀ (calls : List Call) (i : ℕ) (c : Call), (calls.map fun c => c.accountNumber).Nodup →
      calls[i]? = some c → c.callType = .cs ∨ c.callType = .ims → Reaches calls i c := by
  intro h
  have hreaches := h [postDialCall] 0 postDialCall (by decide) rfl (.inr rfl)
  have hnone : getOneCallObject [postDialCall] postDialCall.accountNumber = none := by decide
  have hanswer : Answers (.dataReq DistributedDataType.name.code postDialCall.accountNumber)
      (.dataRsp DistributedDataType.name.code postDialCall.accountNumber [0x41]) :=
    .data (by decide)
  have hfound := (hreaches _ _ (sentFor_name (by decide) rfl) hanswer).1
  exact absurd (hnone.symm.trans hfound) (by simp)

end CallManager.DistributedAnswers
