import CallManager.RttSession
import CallManager.VideoCall

/-!
# The routing of IMS reports to their calls

Three handlers of `ReportCallInfoHandler` look an IMS call up by the index of a
report: `ReceiveImsCallModeRequest` by the index alone, `ReceiveImsCallModeResponse`
by the slot too with a fallback to the index alone, `BuildCallDetailsInfo` by the
index alone for the RTT state. The first two test the type of the object they find,
the last one that of the report. An index is the modem's own: calls on two slots, or
a CS or Bluetooth call and an IMS call, can have the same.

The calls are the entries of the list in their order. An object is an `IMSCall` or of
another class; a handler that uses one of another class as an `IMSCall` has no outcome
(`none`). What the task of a handler does is run on the calls that it finds.

Specification (`Routed`): a report acts on an IMS call with its slot and index and on
no other, if there is one, and changes nothing otherwise. A report of a mode that has
no slot (`slotId = -1`) goes by the index; an entry of `BuildCallDetailsInfo` that is
not one of an IMS call acts on none.

Results:
* `routed_iff`: the specification holds of a report iff the calls that come first under
  its index, or its slot and index, are the ones it means (`Identifies`).
* `request_on_other_slot`: a request for the call of the second slot is handed to
  that of the first.
-/

namespace CallManager.ImsRouting

/-! ## Model -/

/-- An `IMSCall`, with its RTT state. -/
structure ImsCallObject extends IMSCall where
  rttState : RttCallState

/-- A call object: an `IMSCall`, or one of another class, of which the type is read. -/
inductive CallObject
  | imsCall (object : ImsCallObject)
  | other (callType : CallType) (h : callType ≠ .ims)

/-- `GetCallType`. -/
def CallObject.getCallType : CallObject → CallType
  | imsCall _ => .ims
  | other callType _ => callType

/-- `reinterpret_cast<IMSCall *>`: an object of another class has no `IMSCall`. -/
def CallObject.reinterpretCast : CallObject → Option ImsCallObject
  | imsCall object => some object
  | other _ _ => none

/-- An entry of `callObjectPtrList_`. -/
structure RoutedCall where
  callIndex : ℤ
  slotId : ℤ
  object : CallObject

/-- `CallObjectManager::GetOneCallObjectByIndex`, the place of the call in the list
    (call_object_manager.cpp:707-717). -/
def getOneCallObjectByIndex (callObjectPtrList : List RoutedCall) (index : ℤ) : Option ℕ :=
  callObjectPtrList.findIdx? fun it => it.callIndex = index ∧ it.object.getCallType ≠ .voip

/-- `CallObjectManager::GetOneCallObjectByIndexAndSlotId` (call_object_manager.cpp:731-743). -/
def getOneCallObjectByIndexAndSlotId (callObjectPtrList : List RoutedCall) (index slotId : ℤ) :
    Option ℕ :=
  callObjectPtrList.findIdx? fun it =>
    it.callIndex = index ∧ it.slotId = slotId ∧ it.object.getCallType ≠ .voip

/-- The calls after a report, what was sent to the network and the applications, and the
    places of the calls that it acted on. -/
structure Outcome where
  callObjectPtrList : List RoutedCall
  sent : List Dispatch
  acted : List ℕ

/-- A report that acts on no call. -/
def Outcome.ignored (callObjectPtrList : List RoutedCall) : Outcome :=
  ⟨callObjectPtrList, [], []⟩

/-- What a function of an `IMSCall` does. -/
abbrev ImsAction := ImsCallObject → ImsCallObject × List Dispatch

/-- `CallModeReportInfo` (call_manager_inner_type.h:495-510). -/
structure CallModeReport extends CallModeReportInfo where
  callIndex : ℤ
  slotId : ℤ
  deriving DecidableEq, Repr

/-- `RecieveUpdateCallMediaModeRequest` on the call. -/
def CallModeReport.request (net : Network) (response : CallModeReport) : ImsAction := fun call =>
  let out := call.toIMSCall.recieveUpdateCallMediaModeRequest net response.toCallModeReportInfo
  ({ call with toIMSCall := out.call }, out.sent)

/-- `ReceiveUpdateCallMediaModeResponse` on the call. -/
def CallModeReport.response (net : Network) (response : CallModeReport) : ImsAction := fun call =>
  let out := call.toIMSCall.receiveUpdateCallMediaModeResponse net response.toCallModeReportInfo
  ({ call with toIMSCall := out.call }, out.sent)

/-- The fields of a `CallDetailInfo` that the RTT state is set with. -/
structure RttDetailInfo where
  callType : CallType
  accountId : ℤ
  index : ℤ
  rttState : RttCallState
  deriving DecidableEq, Repr

/-- `IMSCall::SetRttState` (ims_call.cpp:519-522). -/
def setRttState (rttState : RttCallState) : ImsAction := fun call =>
  ({ call with rttState }, [])

/-- The function of an `IMSCall` on the object at the place `call`. -/
def actOn (act : ImsAction) (callObjectPtrList : List RoutedCall) (call : ℕ) : Option Outcome := do
  let it ← callObjectPtrList[call]?
  let imsCall ← it.object.reinterpretCast
  return {
    callObjectPtrList :=
      callObjectPtrList.set call { it with object := .imsCall (act imsCall).1 }
    sent := (act imsCall).2
    acted := [call] }

/-- The end of the two handlers of a mode: the test for a null pointer and that of the type. -/
def actOnImsCall (act : ImsAction) (callObjectPtrList : List RoutedCall) (call : Option ℕ) :
    Option Outcome :=
  match call with
  | none => some (.ignored callObjectPtrList)
  | some call =>
    if callObjectPtrList[call]?.map (·.object.getCallType) = some .ims then
      actOn act callObjectPtrList call
    else some (.ignored callObjectPtrList)

/-- The task of `ReceiveImsCallModeRequest` (report_call_info_handler.cpp:398-414). -/
def receiveImsCallModeRequest (net : Network) (response : CallModeReport)
    (callObjectPtrList : List RoutedCall) : Option Outcome :=
  actOnImsCall (response.request net) callObjectPtrList
    (getOneCallObjectByIndex callObjectPtrList response.callIndex)

/-- The call of a response: by the slot and the index, or else by the index alone
    (report_call_info_handler.cpp:421-427). -/
def CallModeReport.responseCall (response : CallModeReport) (callObjectPtrList : List RoutedCall) :
    Option ℕ :=
  (if response.slotId ≠ -1 then
    getOneCallObjectByIndexAndSlotId callObjectPtrList response.callIndex response.slotId
  else none).or
    (getOneCallObjectByIndex callObjectPtrList response.callIndex)

/-- The task of `ReceiveImsCallModeResponse` (report_call_info_handler.cpp:416-438). -/
def receiveImsCallModeResponse (net : Network) (response : CallModeReport)
    (callObjectPtrList : List RoutedCall) : Option Outcome :=
  actOnImsCall (response.response net) callObjectPtrList
    (response.responseCall callObjectPtrList)

/-- The RTT state of one entry, with the type of the entry for that of the call
    (report_call_info_handler.cpp:257-263). -/
def updateRttState (callObjectPtrList : List RoutedCall) (info : RttDetailInfo) :
    Option Outcome :=
  match getOneCallObjectByIndex callObjectPtrList info.index with
  | none => some (.ignored callObjectPtrList)
  | some call =>
    if info.callType = .ims then actOn (setRttState info.rttState) callObjectPtrList call
    else some (.ignored callObjectPtrList)

/-- `BuildCallDetailsInfo`, without the copy of the report: what each entry does
    (report_call_info_handler.cpp:232-265). -/
def buildCallDetailsInfo (callObjectPtrList : List RoutedCall) :
    List RttDetailInfo → Option (List Outcome)
  | [] => some []
  | info :: callVec => do
    let first ← updateRttState callObjectPtrList info
    let rest ← buildCallDetailsInfo first.callObjectPtrList callVec
    return first :: rest

/-- The reports of the three handlers. -/
inductive Report
  | modeRequest (response : CallModeReport)
  | modeResponse (response : CallModeReport)
  | callDetails (callVec : List RttDetailInfo)

/-! ## Specification -/

namespace RoutedCall

/-- An IMS call with the index, and with the slot if one is given. -/
structure IsMeant (index : ℤ) (slot : Option ℤ) (c : RoutedCall) : Prop where
  ims : c.object.getCallType = .ims
  index_eq : c.callIndex = index
  slot_eq : ∀ slotId ∈ slot, c.slotId = slotId

/-- A call with the index, and with the slot if one is given, that is not one of VoIP: these
    have indices of their own. -/
structure Shares (index : ℤ) (slot : Option ℤ) (c : RoutedCall) : Prop where
  index_eq : c.callIndex = index
  slot_eq : ∀ slotId ∈ slot, c.slotId = slotId
  not_voip : c.object.getCallType ≠ .voip

end RoutedCall

/-- The slot of a report of a mode; `-1` is none. -/
def CallModeReport.slot (response : CallModeReport) : Option ℤ :=
  if response.slotId = -1 then none else some response.slotId

/-- The action is done on one call that is meant, and nothing else is done; or no call is
    meant, and nothing is done. -/
def RoutedTo (meant : RoutedCall → Prop) (act : ImsAction) (calls : List RoutedCall)
    (out : Option Outcome) : Prop :=
  (∃ i c object, calls[i]? = some c ∧ meant c ∧ c.object = .imsCall object ∧
    out = some ⟨calls.set i { c with object := .imsCall (act object).1 }, (act object).2, [i]⟩) ∨
  (∀ c ∈ calls, ¬ meant c) ∧ out = some (.ignored calls)

/-- The RTT state of one entry is set in the IMS call with its slot and index. -/
def RttRouted (calls : List RoutedCall) (info : RttDetailInfo) (out : Option Outcome) : Prop :=
  if info.callType = .ims then
    RoutedTo (RoutedCall.IsMeant info.index (some info.accountId)) (setRttState info.rttState)
      calls out
  else out = some (.ignored calls)

/-- The entries are routed one after the other. -/
inductive DetailsRouted : List RoutedCall → List RttDetailInfo → List Outcome → Prop
  | nil {calls : List RoutedCall} : DetailsRouted calls [] []
  | cons {calls : List RoutedCall} {info : RttDetailInfo} {callVec : List RttDetailInfo}
    {first : Outcome} {rest : List Outcome} (hfirst : RttRouted calls info (some first))
    (hrest : DetailsRouted first.callObjectPtrList callVec rest) :
    DetailsRouted calls (info :: callVec) (first :: rest)

/-- The handler of the report acts on the calls that are meant and on no other. -/
def Report.Routed (net : Network) (calls : List RoutedCall) : Report → Prop
  | modeRequest response =>
    RoutedTo (RoutedCall.IsMeant response.callIndex response.slot) (response.request net) calls
      (receiveImsCallModeRequest net response calls)
  | modeResponse response =>
    RoutedTo (RoutedCall.IsMeant response.callIndex response.slot) (response.response net) calls
      (receiveImsCallModeResponse net response calls)
  | callDetails callVec =>
    ∃ outs, buildCallDetailsInfo calls callVec = some outs ∧ DetailsRouted calls callVec outs

/-- The first call with a property. -/
def IsFirst (p : RoutedCall → Prop) (calls : List RoutedCall) (c : RoutedCall) : Prop :=
  ∃ before after, calls = before ++ c :: after ∧ p c ∧ ∀ d ∈ before, ¬ p d

/-- The first call with the index is meant by the entry. -/
def RttDetailInfo.Identifies (calls : List RoutedCall) (info : RttDetailInfo) : Prop :=
  info.callType = .ims → ∀ c, IsFirst (RoutedCall.Shares info.index none) calls c →
    c.IsMeant info.index (some info.accountId)

/-- The first call with the index is meant by the request, or it is no IMS call and none is
    meant. -/
def CallModeReport.IdentifiesRequest (calls : List RoutedCall) (response : CallModeReport) :
    Prop :=
  ∀ c, IsFirst (RoutedCall.Shares response.callIndex none) calls c →
    c.IsMeant response.callIndex response.slot ∨
      c.object.getCallType ≠ .ims ∧ ∀ d ∈ calls, ¬ d.IsMeant response.callIndex response.slot

/-- The first call with the slot and index of the response is an IMS call, or none is meant;
    where no call has them, the first with the index is no IMS call. -/
def CallModeReport.IdentifiesResponse (calls : List RoutedCall) (response : CallModeReport) :
    Prop :=
  (∀ c, IsFirst (RoutedCall.Shares response.callIndex response.slot) calls c →
    c.object.getCallType = .ims ∨
      ∀ d ∈ calls, ¬ d.IsMeant response.callIndex response.slot) ∧
  ((∀ d ∈ calls, ¬ d.Shares response.callIndex response.slot) →
    ∀ c, IsFirst (RoutedCall.Shares response.callIndex none) calls c →
      c.object.getCallType ≠ .ims)

/-- The report identifies its calls; one of the calls' details does so entry by entry. -/
def Report.Identifies (calls : List RoutedCall) : Report → Prop
  | modeRequest response => response.IdentifiesRequest calls
  | modeResponse response => response.IdentifiesResponse calls
  | callDetails callVec => ∀ info ∈ callVec, info.Identifies calls

/-! ## The lookups -/

variable {calls calls' : List RoutedCall} {c d : RoutedCall} {index : ℤ} {slot : Option ℤ}

theorem RoutedCall.IsMeant.shares (h : c.IsMeant index slot) : c.Shares index slot :=
  ⟨h.index_eq, h.slot_eq, by rw [h.ims]; decide⟩

theorem RoutedCall.IsMeant.shares_index (h : c.IsMeant index slot) : c.Shares index none :=
  ⟨h.index_eq, fun _ h => (nomatch h), by rw [h.ims]; decide⟩

/-- There is one first call with a property. -/
theorem IsFirst.unique {p : RoutedCall → Prop} (hc : IsFirst p calls c) (hd : IsFirst p calls d) :
    c = d := by
  obtain ⟨before, after, rfl, hpc, hbefore⟩ := hc
  obtain ⟨before', after', heq, hpd, hbefore'⟩ := hd
  rcases List.append_eq_append_iff.mp heq with ⟨mid, hmid, htail⟩ | ⟨mid, hmid, htail⟩
  · cases mid with
    | nil => exact (List.cons.inj htail).1
    | cons e mid =>
      obtain ⟨rfl, -⟩ := List.cons.inj htail
      exact absurd hpc (hbefore' c (by simp [hmid]))
  · cases mid with
    | nil => exact (List.cons.inj htail).1.symm
    | cons e mid =>
      obtain ⟨rfl, -⟩ := List.cons.inj htail
      exact absurd hpd (hbefore d (by simp [hmid]))

/-- A lookup finds the first call with its property, or there is none with it. -/
theorem findIdx?_spec {p : RoutedCall → Prop} [DecidablePred p] (calls : List RoutedCall) :
    (calls.findIdx? (fun it => p it) = none ∧ ∀ c ∈ calls, ¬ p c) ∨
      ∃ i c, calls.findIdx? (fun it => p it) = some i ∧ calls[i]? = some c ∧
        IsFirst p calls c := by
  cases hfind : calls.findIdx? (fun it => p it) with
  | none =>
    rw [List.findIdx?_eq_none_iff] at hfind
    exact .inl ⟨rfl, fun c hc => of_decide_eq_false (hfind c hc)⟩
  | some i =>
    obtain ⟨hi, hp, hbefore⟩ := List.findIdx?_eq_some_iff_getElem.mp hfind
    refine .inr ⟨i, calls[i], rfl, List.getElem?_eq_getElem hi, ?_⟩
    refine ⟨calls.take i, calls.drop (i + 1), ?_, of_decide_eq_true hp, ?_⟩
    · rw [List.getElem_cons_drop, List.take_append_drop]
    · intro d hd
      obtain ⟨j, hj, rfl⟩ := List.mem_take_iff_getElem.mp hd
      simpa using hbefore j (by omega)

theorem getOneCallObjectByIndex_spec (calls : List RoutedCall) (index : ℤ) :
    (getOneCallObjectByIndex calls index = none ∧
      ∀ c ∈ calls, ¬ RoutedCall.Shares index none c) ∨
      ∃ i c, getOneCallObjectByIndex calls index = some i ∧ calls[i]? = some c ∧
        IsFirst (RoutedCall.Shares index none) calls c := by
  have hiff : ∀ c : RoutedCall, (c.callIndex = index ∧ c.object.getCallType ≠ .voip) ↔
      c.Shares index none := by
    intro c
    exact ⟨fun h => ⟨h.1, fun _ hs => (nomatch hs), h.2⟩, fun h => ⟨h.index_eq, h.not_voip⟩⟩
  have h := findIdx?_spec
    (p := fun it => it.callIndex = index ∧ it.object.getCallType ≠ .voip) calls
  simpa only [getOneCallObjectByIndex, hiff] using h

theorem getOneCallObjectByIndexAndSlotId_spec (calls : List RoutedCall) (index slotId : ℤ) :
    (getOneCallObjectByIndexAndSlotId calls index slotId = none ∧
      ∀ c ∈ calls, ¬ RoutedCall.Shares index (some slotId) c) ∨
      ∃ i c, getOneCallObjectByIndexAndSlotId calls index slotId = some i ∧
        calls[i]? = some c ∧ IsFirst (RoutedCall.Shares index (some slotId)) calls c := by
  have hiff : ∀ c : RoutedCall,
      (c.callIndex = index ∧ c.slotId = slotId ∧ c.object.getCallType ≠ .voip) ↔
        c.Shares index (some slotId) := by
    intro c
    constructor
    · exact fun h => ⟨h.1, fun _ hs => Option.some.inj hs ▸ h.2.1, h.2.2⟩
    · exact fun h => ⟨h.index_eq, h.slot_eq slotId rfl, h.not_voip⟩
  have h := findIdx?_spec
    (p := fun it => it.callIndex = index ∧ it.slotId = slotId ∧ it.object.getCallType ≠ .voip)
    calls
  simpa only [getOneCallObjectByIndexAndSlotId, hiff] using h

/-! ## The handlers -/

variable {act : ImsAction} {i : ℕ} {meant : RoutedCall → Prop}

theorem actOn_of_imsCall {object : ImsCallObject} (hi : calls[i]? = some c)
    (hobject : c.object = .imsCall object) :
    actOn act calls i =
      some ⟨calls.set i { c with object := .imsCall (act object).1 }, (act object).2, [i]⟩ := by
  simp [actOn, hi, hobject, CallObject.reinterpretCast]

/-- An `IMSCall` is what has the type. -/
theorem CallObject.exists_imsCall {object : CallObject} (h : object.getCallType = .ims) :
    ∃ imsCall, object = .imsCall imsCall := by
  cases object with
  | imsCall imsCall => exact ⟨imsCall, rfl⟩
  | other callType hne => exact absurd h hne

/-- A report that acts on the call at a place is routed iff it means that call. -/
theorem routedTo_actOn_iff (hims : ∀ c, meant c → c.object.getCallType = .ims)
    (hi : calls[i]? = some c) : RoutedTo meant act calls (actOn act calls i) ↔ meant c := by
  constructor
  · rintro (⟨i', c', object, hi', hmeant, hobject, hout⟩ | ⟨-, hout⟩)
    · unfold actOn at hout
      obtain ⟨it, -, hout⟩ := Option.bind_eq_some_iff.mp hout
      obtain ⟨imsCall, -, hout⟩ := Option.bind_eq_some_iff.mp hout
      have hplace : i = i' := List.singleton_inj.mp (congrArg Outcome.acted (Option.some.inj hout))
      rw [hplace, hi'] at hi
      rwa [← Option.some.inj hi]
    · unfold actOn at hout
      obtain ⟨it, -, hout⟩ := Option.bind_eq_some_iff.mp hout
      obtain ⟨imsCall, -, hout⟩ := Option.bind_eq_some_iff.mp hout
      exact nomatch congrArg Outcome.acted (Option.some.inj hout)
  · intro hmeant
    obtain ⟨object, hobject⟩ := CallObject.exists_imsCall (hims c hmeant)
    exact .inl ⟨i, c, object, hi, hmeant, hobject, actOn_of_imsCall hi hobject⟩

/-- A report that acts on no call is routed iff it means none. -/
theorem routedTo_ignored_iff :
    RoutedTo meant act calls (some (.ignored calls)) ↔ ∀ c ∈ calls, ¬ meant c := by
  constructor
  · rintro (⟨i, c, object, -, -, -, hout⟩ | ⟨hnone, -⟩)
    · exact nomatch congrArg Outcome.acted (Option.some.inj hout)
    · exact hnone
  · exact fun hnone => .inr ⟨hnone, rfl⟩

theorem actOnImsCall_of_ims (hi : calls[i]? = some c) (h : c.object.getCallType = .ims) :
    actOnImsCall act calls (some i) = actOn act calls i := by
  refine if_pos ?_
  rw [hi, Option.map_some, h]

theorem actOnImsCall_of_ne (hi : calls[i]? = some c) (h : c.object.getCallType ≠ .ims) :
    actOnImsCall act calls (some i) = some (.ignored calls) := by
  refine if_neg ?_
  rw [hi, Option.map_some, Option.some.injEq]
  exact h

/-- A handler of a mode acts on the call it found if that is an IMS call. -/
theorem routedTo_actOnImsCall_iff (hims : ∀ c, meant c → c.object.getCallType = .ims)
    (hi : calls[i]? = some c) :
    RoutedTo meant act calls (actOnImsCall act calls (some i)) ↔
      meant c ∨ c.object.getCallType ≠ .ims ∧ ∀ d ∈ calls, ¬ meant d := by
  by_cases h : c.object.getCallType = .ims
  · rw [actOnImsCall_of_ims hi h, routedTo_actOn_iff hims hi]
    exact ⟨.inl, fun hm => hm.resolve_right fun hne => hne.1 h⟩
  · rw [actOnImsCall_of_ne hi h, routedTo_ignored_iff]
    exact ⟨fun hnone => .inr ⟨h, hnone⟩, fun hm => (hm.resolve_left fun hm => h (hims c hm)).2⟩

/-- With one first call, what holds of the first calls is what holds of it. -/
theorem IsFirst.forall_iff {p q : RoutedCall → Prop} (hc : IsFirst p calls c) :
    (∀ d, IsFirst p calls d → q d) ↔ q c :=
  ⟨fun h => h c hc, fun hq _ hd => hd.unique hc ▸ hq⟩

theorem IsFirst.mem {p : RoutedCall → Prop} (hc : IsFirst p calls c) : c ∈ calls := by
  obtain ⟨before, after, rfl, -⟩ := hc
  simp

theorem IsFirst.holds {p : RoutedCall → Prop} (hc : IsFirst p calls c) : p c := by
  obtain ⟨before, after, -, hp, -⟩ := hc
  exact hp

theorem routed_receiveImsCallModeRequest_iff (net : Network) (response : CallModeReport) :
    RoutedTo (RoutedCall.IsMeant response.callIndex response.slot) (response.request net) calls
        (receiveImsCallModeRequest net response calls) ↔
      response.IdentifiesRequest calls := by
  unfold receiveImsCallModeRequest CallModeReport.IdentifiesRequest
  rcases getOneCallObjectByIndex_spec calls response.callIndex with
    ⟨hfind, hnone⟩ | ⟨i, c, hfind, hi, hfirst⟩
  · rw [hfind]
    refine iff_of_true ?_ fun c hc => absurd hc.holds (hnone c hc.mem)
    exact routedTo_ignored_iff.mpr fun c hc hm => hnone c hc hm.shares_index
  · rw [hfind, routedTo_actOnImsCall_iff (fun _ hm => hm.ims) hi, hfirst.forall_iff]

/-- The call of a response is the first with its slot and index, if there is one. -/
theorem responseCall_spec (calls : List RoutedCall) (response : CallModeReport) :
    (response.responseCall calls = getOneCallObjectByIndex calls response.callIndex ∧
      ∀ c ∈ calls, ¬ RoutedCall.Shares response.callIndex response.slot c) ∨
      ∃ i c, response.responseCall calls = some i ∧ calls[i]? = some c ∧
        IsFirst (RoutedCall.Shares response.callIndex response.slot) calls c := by
  unfold CallModeReport.responseCall CallModeReport.slot
  by_cases hslot : response.slotId = -1
  · rw [if_neg (not_not.mpr hslot), if_pos hslot, Option.none_or]
    rcases getOneCallObjectByIndex_spec calls response.callIndex with
      ⟨hfind, hnone⟩ | ⟨i, c, hfind, hi, hfirst⟩
    · exact .inl ⟨rfl, hnone⟩
    · exact .inr ⟨i, c, hfind, hi, hfirst⟩
  · rw [if_pos hslot, if_neg hslot]
    rcases getOneCallObjectByIndexAndSlotId_spec calls response.callIndex response.slotId with
      ⟨hfind, hnone⟩ | ⟨i, c, hfind, hi, hfirst⟩
    · exact .inl ⟨by rw [hfind, Option.none_or], hnone⟩
    · exact .inr ⟨i, c, by rw [hfind, Option.some_or], hi, hfirst⟩

theorem routed_receiveImsCallModeResponse_iff (net : Network) (response : CallModeReport) :
    RoutedTo (RoutedCall.IsMeant response.callIndex response.slot) (response.response net) calls
        (receiveImsCallModeResponse net response calls) ↔
      response.IdentifiesResponse calls := by
  unfold receiveImsCallModeResponse CallModeReport.IdentifiesResponse
  rcases responseCall_spec calls response with ⟨hlookup, hnone⟩ | ⟨i, c, hlookup, hi, hfirst⟩
  · have hmeant : ∀ c ∈ calls, ¬ RoutedCall.IsMeant response.callIndex response.slot c :=
      fun c hc hm => hnone c hc hm.shares
    rw [hlookup, and_iff_right fun c hc => absurd hc.holds (hnone c hc.mem), imp_iff_right hnone]
    rcases getOneCallObjectByIndex_spec calls response.callIndex with
      ⟨hfind, hnone⟩ | ⟨i, c, hfind, hi, hfirst⟩
    · rw [hfind]
      refine iff_of_true ?_ fun c hc => absurd hc.holds (hnone c hc.mem)
      exact routedTo_ignored_iff.mpr hmeant
    · rw [hfind, routedTo_actOnImsCall_iff (fun _ hm => hm.ims) hi, hfirst.forall_iff]
      have hc : ¬ RoutedCall.IsMeant response.callIndex response.slot c :=
        hmeant c (List.mem_of_getElem? hi)
      rw [or_iff_right hc, and_iff_left hmeant]
  · have hsome : ¬ ∀ d ∈ calls, ¬ RoutedCall.Shares response.callIndex response.slot d :=
      fun hnone => hnone c hfirst.mem hfirst.holds
    rw [hlookup, routedTo_actOnImsCall_iff (fun _ hm => hm.ims) hi, hfirst.forall_iff,
      and_iff_left fun hnone => absurd hnone hsome]
    by_cases h : c.object.getCallType = .ims
    · have hc : RoutedCall.IsMeant response.callIndex response.slot c :=
        ⟨h, hfirst.holds.index_eq, hfirst.holds.slot_eq⟩
      exact iff_of_true (.inl hc) (.inl h)
    · rw [or_iff_right fun hm : c.IsMeant _ _ => h hm.ims, and_iff_right h, or_iff_right h]

/-! ## The RTT states -/

/-- What the lookups read of a call. -/
def RoutedCall.key (c : RoutedCall) : ℤ × ℤ × CallType :=
  (c.callIndex, c.slotId, c.object.getCallType)

theorem RoutedCall.Shares.congr (hkey : c.key = d.key) (h : c.Shares index slot) :
    d.Shares index slot := by
  simp only [RoutedCall.key, Prod.mk.injEq] at hkey
  obtain ⟨hindex, hslot, htype⟩ := hkey
  exact ⟨hindex ▸ h.index_eq, hslot ▸ h.slot_eq, htype ▸ h.not_voip⟩

theorem RoutedCall.IsMeant.congr (hkey : c.key = d.key) (h : c.IsMeant index slot) :
    d.IsMeant index slot := by
  simp only [RoutedCall.key, Prod.mk.injEq] at hkey
  obtain ⟨hindex, hslot, htype⟩ := hkey
  exact ⟨htype ▸ h.ims, hindex ▸ h.index_eq, hslot ▸ h.slot_eq⟩

/-- Where the keys are the same, so is the place of the first call. -/
theorem IsFirst.congr (hkeys : calls.map RoutedCall.key = calls'.map RoutedCall.key)
    (h : IsFirst (RoutedCall.Shares index slot) calls c) :
    ∃ d, c.key = d.key ∧ IsFirst (RoutedCall.Shares index slot) calls' d := by
  obtain ⟨before, after, rfl, hshares, hbefore⟩ := h
  rw [List.map_append, List.map_cons] at hkeys
  obtain ⟨before', tail, rfl, hmap, htail⟩ := List.map_eq_append_iff.mp hkeys.symm
  obtain ⟨d, after', rfl, hd, -⟩ := List.map_eq_cons_iff.mp htail
  refine ⟨d, hd.symm, before', after', rfl, hshares.congr hd.symm, ?_⟩
  intro e he hshares
  have hmem : e.key ∈ before.map RoutedCall.key := hmap ▸ List.mem_map_of_mem he
  obtain ⟨e', he', hkey⟩ := List.mem_map.mp hmem
  exact hbefore e' he' (hshares.congr hkey.symm)

theorem RttDetailInfo.Identifies.congr {info : RttDetailInfo}
    (hkeys : calls.map RoutedCall.key = calls'.map RoutedCall.key) (h : info.Identifies calls) :
    info.Identifies calls' := by
  intro hims c hc
  obtain ⟨d, hkey, hd⟩ := hc.congr hkeys.symm
  exact (h hims d hd).congr hkey.symm

/-- The RTT state of an entry is routed iff the entry identifies its call. -/
theorem rttRouted_updateRttState_iff (calls : List RoutedCall) (info : RttDetailInfo) :
    RttRouted calls info (updateRttState calls info) ↔ info.Identifies calls := by
  unfold RttRouted updateRttState RttDetailInfo.Identifies
  by_cases hims : info.callType = .ims
  · rw [if_pos hims, imp_iff_right hims]
    rcases getOneCallObjectByIndex_spec calls info.index with
      ⟨hfind, hnone⟩ | ⟨i, c, hfind, hi, hfirst⟩
    · rw [hfind]
      refine iff_of_true ?_ fun c hc => absurd hc.holds (hnone c hc.mem)
      exact routedTo_ignored_iff.mpr fun c hc hm => hnone c hc hm.shares_index
    · rw [hfind, hfirst.forall_iff]
      dsimp only
      rw [if_pos hims, routedTo_actOn_iff (fun _ hm => hm.ims) hi]
  · rw [if_neg hims]
    refine iff_of_true ?_ fun h => absurd h hims
    cases getOneCallObjectByIndex calls info.index with
    | none => rfl
    | some call => exact if_neg hims

theorem RttRouted.exists_outcome {info : RttDetailInfo} {out : Option Outcome}
    (h : RttRouted calls info out) : ∃ first, out = some first := by
  unfold RttRouted at h
  split_ifs at h with hims
  · rcases h with ⟨i, c, object, -, -, -, hout⟩ | ⟨-, hout⟩
    · exact ⟨_, hout⟩
    · exact ⟨_, hout⟩
  · exact ⟨_, h⟩

/-- What is routed leaves the keys. -/
theorem RttRouted.keys_eq {info : RttDetailInfo} {out : Outcome}
    (h : RttRouted calls info (some out)) :
    calls.map RoutedCall.key = out.callObjectPtrList.map RoutedCall.key := by
  unfold RttRouted at h
  split_ifs at h with hims
  · rcases h with ⟨i, c, object, hi, -, hobject, hout⟩ | ⟨-, hout⟩
    · obtain ⟨hlt, rfl⟩ := List.getElem?_eq_some_iff.mp hi
      have hlt' : i < (calls.map RoutedCall.key).length := by rwa [List.length_map]
      have hkey : ({ calls[i] with object := .imsCall (setRttState info.rttState object).1 } :
          RoutedCall).key = (calls.map RoutedCall.key)[i] := by
        rw [List.getElem_map, RoutedCall.key, RoutedCall.key, hobject]
        rfl
      rw [Option.some.inj hout, List.map_set, hkey, List.set_getElem_self]
    · rw [Option.some.inj hout]
      rfl
  · rw [Option.some.inj h]
    rfl

/-- The RTT states of a report are routed iff each entry identifies its call: no entry changes
    what another one looks up. -/
theorem routed_callDetails_iff (calls : List RoutedCall) (callVec : List RttDetailInfo) :
    (∃ outs, buildCallDetailsInfo calls callVec = some outs ∧ DetailsRouted calls callVec outs) ↔
      ∀ info ∈ callVec, info.Identifies calls := by
  induction callVec generalizing calls with
  | nil => exact iff_of_true ⟨[], rfl, .nil⟩ fun _ h => (nomatch h)
  | cons info callVec ih =>
    rw [List.forall_mem_cons, ← rttRouted_updateRttState_iff]
    constructor
    · rintro ⟨outs, hbuild, hrouted⟩
      obtain ⟨first, hfirst, hbuild⟩ := Option.bind_eq_some_iff.mp hbuild
      obtain ⟨rest, hrest, hbuild⟩ := Option.bind_eq_some_iff.mp hbuild
      obtain rfl := Option.some.inj hbuild
      cases hrouted with
      | cons hrouted hrouted' =>
        refine ⟨hfirst ▸ hrouted, fun e he => ?_⟩
        exact ((ih _).mp ⟨rest, hrest, hrouted'⟩ e he).congr hrouted.keys_eq.symm
    · rintro ⟨hrouted, hcallVec⟩
      obtain ⟨first, hfirst⟩ := hrouted.exists_outcome
      rw [hfirst] at hrouted
      obtain ⟨rest, hrest, hrouted'⟩ := (ih first.callObjectPtrList).mpr fun e he =>
        (hcallVec e he).congr hrouted.keys_eq
      refine ⟨first :: rest, ?_, .cons hrouted hrouted'⟩
      rw [buildCallDetailsInfo, hfirst, Option.bind_eq_bind, Option.bind_some, hrest]
      rfl

/-! ## Main results -/

/-- **Reports act on the calls they mean.** Whatever calls are stored, in whatever order, the
    handler of a report acts on the IMS call with its slot and index and on no other, and on
    none if there is none, iff the report identifies its calls. -/
theorem routed_iff (net : Network) (calls : List RoutedCall) (report : Report) :
    report.Routed net calls ↔ report.Identifies calls := by
  cases report with
  | modeRequest response => exact routed_receiveImsCallModeRequest_iff net response
  | modeResponse response => exact routed_receiveImsCallModeResponse_iff net response
  | callDetails callVec => exact routed_callDetails_iff calls callVec

/-- An IMS call with the index 1 on a slot. -/
def imsCallOn (slotId : ℤ) : RoutedCall where
  callIndex := 1
  slotId := slotId
  object := .imsCall ⟨IMSCall.create (slotId + 1) .active .voice, .no⟩

/-- The call on the second slot is asked for video. -/
def upgradeOfSecondSlot : CallModeReport where
  result := .success
  callMode := .sendReceive
  callIndex := 1
  slotId := 1

/-- A request for the call of the second slot is handed to that of the first, though both are
    stored; and an entry of an IMS call whose index a Bluetooth call has uses this as an
    `IMSCall`. -/
theorem request_on_other_slot :
    ¬ (Report.modeRequest upgradeOfSecondSlot).Routed Negotiation.reachable
        [imsCallOn 0, imsCallOn 1] ∧
      (receiveImsCallModeRequest Negotiation.reachable upgradeOfSecondSlot
        [imsCallOn 0, imsCallOn 1]).map Outcome.acted = some [0] ∧
      ∀ h, buildCallDetailsInfo [⟨1, 0, .other .bluetooth h⟩, imsCallOn 0] [⟨.ims, 0, 1, .yes⟩] =
        none := by
  refine ⟨fun h => ?_, rfl, fun h => rfl⟩
  have hfirst : IsFirst (RoutedCall.Shares 1 none) [imsCallOn 0, imsCallOn 1] (imsCallOn 0) := by
    refine ⟨[], [imsCallOn 1], rfl, ⟨rfl, fun _ hs => (nomatch hs), by decide⟩, ?_⟩
    exact fun _ h => (nomatch h)
  rcases (routed_receiveImsCallModeRequest_iff _ _).mp h _ hfirst with hmeant | ⟨hne, -⟩
  · exact absurd (hmeant.slot_eq 1 rfl) (by decide)
  · exact hne rfl

end CallManager.ImsRouting
