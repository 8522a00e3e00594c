import CallManager.CallBase
import CallManager.Library.OrderedMap
import CallManager.StoredCalls

/-!
# What two requests send to the calls

The request process answers a request by going through the carrier calls and by
sending commands to some of them: `AnswerCall`, `RejectCall`, `HangUpCall`,
`HoldCall` and `UnHoldCall`. A command goes to the modem; the states of the calls
change with its later reports only. So the state here is the store with the flags
of its calls, and the log of the commands.

`EccDialPolicy` clears the line for an emergency dial. `UnHoldRequest` serves a
request to unhold a call: it looks for an active call to be held first, and
unholds the call itself only if all carrier calls are on its slot.

Results:
* `eccDialPolicy_clears`: `EccDialPolicy` refuses without a command, or it sends
  each call of the line one command, the hang-ups first.
* `unHoldCall_served_iff`: an accepted request to unhold a call is served iff all
  carrier calls are on its slot or, in DSDA mode, there is an active call to swap
  out, or one that must not be.
-/

namespace CallManager

/-! ## Calls, flags and commands -/

/-- A stored call with the flags that the request process and the status manager read
    (call_base.h:202-205, ims_call.h:74). Its running state and its call state are in step. -/
structure LiveCall extends CallBase where
  emergencyState : Bool
  autoAnswerState : Bool
  canUnHoldState : Bool
  canSwitchCallState : Bool
  answerVideoState : ℤ
  isVoiceModifyToVideo : Bool
  inStep : toCallBase.InStep
  deriving DecidableEq

/-- The number of a video state (call_manager_base.h:243-260). -/
def VideoStateType.number : VideoStateType → ℤ
  | .voice => 0
  | .sendOnly => 1
  | .receiveOnly => 2
  | .video => 3

/-- What is sent to a call object. -/
inductive CallCommand
  | answerCall (callId videoState : ℤ)
  | rejectCall (callId : ℤ)
  | hangUpCall (callId : ℤ)
  | holdCall (callId : ℤ)
  | unHoldCall (callId : ℤ)
  deriving DecidableEq, Repr

/-- The store, the main calls of the two conferences, and the commands sent. -/
structure LiveWorld where
  calls : OrderedMap (fun it : LiveCall => it.callId)
  imsMainCall : ℤ
  csMainCall : ℤ
  commands : List CallCommand

namespace LiveWorld

/-- `ERR_ID` (call_manager_base.h:62). -/
def errId : ℤ := -1

/-- A command is sent. -/
def send (w : LiveWorld) (command : CallCommand) : LiveWorld :=
  { w with commands := w.commands ++ [command] }

@[simp] theorem calls_send (w : LiveWorld) (command : CallCommand) :
    (w.send command).calls = w.calls := rfl

@[simp] theorem commands_send (w : LiveWorld) (command : CallCommand) :
    (w.send command).commands = w.commands ++ [command] := rfl

/-- A flag of a stored call is set: a field that is not one of `CallBase`. -/
def setFlag (w : LiveWorld) (callId : ℤ) (f : LiveCall → LiveCall)
    (hf : ∀ it, (f it).toCallBase = it.toCallBase) : LiveWorld :=
  { w with calls := w.calls.modify callId f fun it => congrArg CallBase.callId (hf it) }

/-- `SetAutoAnswerState` of a stored call. -/
def setAutoAnswerState (w : LiveWorld) (callId : ℤ) (flag : Bool) : LiveWorld :=
  w.setFlag callId (fun it => { it with autoAnswerState := flag }) fun _ => rfl

/-- `SetCanUnHoldState` of a stored call. -/
def setCanUnHoldState (w : LiveWorld) (callId : ℤ) (flag : Bool) : LiveWorld :=
  w.setFlag callId (fun it => { it with canUnHoldState := flag }) fun _ => rfl

/-- `SetCanSwitchCallState` of a stored call. -/
def setCanSwitchCallState (w : LiveWorld) (callId : ℤ) (flag : Bool) : LiveWorld :=
  w.setFlag callId (fun it => { it with canSwitchCallState := flag }) fun _ => rfl

/-! ### The lookups -/

/-- `GetOneCallObject(callId)` (call_object_manager.cpp:257-269). -/
def getOneCallObject (w : LiveWorld) (callId : ℤ) : Option LiveCall := w.calls.lookup callId

/-- `GetOneCallObject(callState)`. -/
def getOneCallObjectByState (w : LiveWorld) : CallRunningState → Option LiveCall :=
  StoredCalls.getOneCallObject (·.callRunningState) w.calls.entries

/-- The calls that `GetCarrierCallList` takes. -/
def IsCarrier (it : LiveCall) : Prop :=
  it.callType ∈ carrierTypes

instance (it : LiveCall) : Decidable (IsCarrier it) := inferInstanceAs (Decidable (_ ∈ _))

/-- The carrier calls of the store, in its order. -/
def carrierCalls (w : LiveWorld) : List LiveCall :=
  StoredCalls.getCarrierCallList (·.callType) w.calls.entries

/-- `GetCarrierCallList` (call_object_manager.cpp:374-387). -/
def getCarrierCallList (w : LiveWorld) : List ℤ := w.carrierCalls.map (·.callId)

/-- `GetCallNum` with its default `isIncludeVoipCall = true`: of the VoIP calls the virtual ones
    are not counted (call_object_manager.cpp:864-880). -/
def getCallNum (w : LiveWorld) (callState : TelCallState) : ℕ :=
  (w.calls.entries.filter fun it =>
    it.callState = callState ∧ ¬ (it.callType = .voip ∧ it.isNonVirtualCall = false)).length

/-- `GetMainCallId` of a call object (ims_call.cpp:211-215, cs_call.cpp:159-163,
    satellite_call.cpp:121-124, bluetooth_call.cpp:202-205). -/
def getMainCallId (w : LiveWorld) (it : LiveCall) : ℤ :=
  match it.objectType with
  | .ims => w.imsMainCall
  | .cs => w.csMainCall
  | .ott | .errCall | .voip | .satellite | .bluetooth => errId

/-- The test that a call stands for itself: it is in no conference or is the main call of one. -/
def StandsAlone (w : LiveWorld) (it : LiveCall) : Prop :=
  CountsAsCurrent it.conferenceState (w.getMainCallId it) it.callId

instance (w : LiveWorld) (it : LiveCall) : Decidable (w.StandsAlone it) :=
  inferInstanceAs (Decidable (CountsAsCurrent _ _ _))

/-- `GetCurrentCallNum`, where the main call is always that of the IMS conference. -/
def getCurrentCallNum (w : LiveWorld) : ℕ :=
  StoredCalls.getCurrentCallNum (·.callType) (·.conferenceState) (·.callId)
    w.imsMainCall w.calls.entries

/-- `IsExistCallOtherSlot`: the value it leaves in `noOtherCall`, which is true before
    (call_request_process.cpp:341-352). -/
def isExistCallOtherSlot (w : LiveWorld) (list : List ℤ) (slotId : ℤ) : Bool :=
  if 1 < list.length then
    list.all fun otherCallId =>
      match w.getOneCallObject otherCallId with
      | some call => call.slotId = slotId
      | none => true
  else true

/-! ### What the lookups return -/

variable {w : LiveWorld}

theorem mem_carrierCalls {it : LiveCall} :
    it ∈ w.carrierCalls ↔ it ∈ w.calls.entries ∧ IsCarrier it := by
  simp [carrierCalls, IsCarrier]

/-- An entry is found by its id. -/
theorem getOneCallObject_of_mem {it : LiveCall} (h : it ∈ w.calls.entries) :
    w.getOneCallObject it.callId = some it :=
  OrderedMap.lookup_key h

/-- What is found by an id has the id. -/
theorem getOneCallObject_spec {callId : ℤ} {it : LiveCall}
    (h : w.getOneCallObject callId = some it) : it ∈ w.calls.entries ∧ it.callId = callId :=
  OrderedMap.lookup_spec h

theorem nodup_carrierCalls : (w.carrierCalls.map (·.callId)).Nodup :=
  w.calls.nodup.sublist (List.filter_sublist.map _)

/-- A state that no call is counted in is the state of VoIP calls only. -/
theorem ne_of_getCallNum_eq_zero {callState : TelCallState} (h : w.getCallNum callState = 0)
    {it : LiveCall} (hmem : it ∈ w.calls.entries) (hvoip : it.callType ≠ .voip) :
    it.callState ≠ callState := by
  intro hstate
  have hnone := List.eq_nil_of_length_eq_zero h
  have hcounted := List.filter_eq_nil_iff.mp hnone it hmem
  simp [hstate, hvoip] at hcounted

theorem IsCarrier.ne_voip {it : LiveCall} (h : IsCarrier it) : it.callType ≠ .voip := by
  intro hvoip
  unfold IsCarrier at h
  rw [hvoip] at h
  exact absurd h (by decide)

/-! ### What a flag leaves alone -/

section SetFlag

variable (callId : ℤ) (f : LiveCall → LiveCall) (hf : ∀ it, (f it).toCallBase = it.toCallBase)

theorem isCarrier_congr {it it' : LiveCall} (h : it'.toCallBase = it.toCallBase) :
    IsCarrier it' ↔ IsCarrier it := by
  unfold IsCarrier
  rw [h]

/-- As many calls have a property that does not depend on the flag. -/
theorem length_filter_setFlag {p : LiveCall → Prop} [DecidablePred p]
    (hp : ∀ it, p (f it) ↔ p it) :
    ((w.setFlag callId f hf).calls.entries.filter (p ·)).length =
      (w.calls.entries.filter (p ·)).length := by
  show ((w.calls.entries.map fun it => if it.callId = callId then f it else it).filter
    (p ·)).length = _
  rw [List.filter_map, List.length_map]
  congr 1
  refine List.filter_congr fun it _ => ?_
  rw [Function.comp_apply]
  split_ifs
  · exact decide_eq_decide.mpr (hp it)
  · rfl

/-- There is a carrier call with such a property iff there was one. -/
theorem exists_carrierCalls_setFlag {P : LiveCall → Prop} (hP : ∀ it, P (f it) ↔ P it) :
    (∃ it ∈ (w.setFlag callId f hf).carrierCalls, P it) ↔ ∃ it ∈ w.carrierCalls, P it := by
  have hentry : ∀ it : LiveCall, ∃ it' : LiveCall,
      (if it.callId = callId then f it else it) = it' ∧
        (IsCarrier it' ↔ IsCarrier it) ∧ (P it' ↔ P it) := by
    intro it
    refine ⟨_, rfl, ?_⟩
    split_ifs
    · exact ⟨isCarrier_congr (hf it), hP it⟩
    · exact ⟨Iff.rfl, Iff.rfl⟩
  constructor
  · rintro ⟨it', hmem', hit'⟩
    obtain ⟨hentries, hcarrier⟩ := mem_carrierCalls.mp hmem'
    obtain ⟨it, hit, rfl⟩ := List.mem_map.mp hentries
    obtain ⟨_, rfl, hc, hp⟩ := hentry it
    exact ⟨it, mem_carrierCalls.mpr ⟨hit, hc.mp hcarrier⟩, hp.mp hit'⟩
  · rintro ⟨it, hmem, hit⟩
    obtain ⟨hentries, hcarrier⟩ := mem_carrierCalls.mp hmem
    obtain ⟨it', rfl, hc, hp⟩ := hentry it
    exact ⟨_, mem_carrierCalls.mpr ⟨List.mem_map.mpr ⟨it, hentries, rfl⟩, hc.mpr hcarrier⟩,
      hp.mpr hit⟩

theorem getCallNum_setFlag (callState : TelCallState) :
    (w.setFlag callId f hf).getCallNum callState = w.getCallNum callState :=
  length_filter_setFlag callId f hf
    (p := fun it => it.callState = callState ∧
      ¬ (it.callType = .voip ∧ it.isNonVirtualCall = false))
    fun it => by rw [hf it]

theorem getCurrentCallNum_setFlag :
    (w.setFlag callId f hf).getCurrentCallNum = w.getCurrentCallNum := by
  refine StoredCalls.getCurrentCallNum_map fun it _ => ?_
  split_ifs
  · simp only [StoredCalls.IsCurrent, hf it]
  · rfl

end SetFlag

end LiveWorld

/-! ## An emergency dial clears the line -/

namespace CallRequestProcess

open LiveWorld

/-- A call that is being set up. -/
def IsBeingSetUp (call : LiveCall) : Prop :=
  call.callRunningState = .create ∨ call.callRunningState = .connecting ∨
    call.callRunningState = .dialing

instance (call : LiveCall) : Decidable (IsBeingSetUp call) := inferInstanceAs (Decidable (_ ∨ _))

/-- The first loop of `EccDialPolicy`, which sorts the calls into `hangupList` and
    `rejectList`; nothing if it gives up. -/
def eccLoop (w : LiveWorld) (hangupList rejectList : List LiveCall) :
    List ℤ → Option (List LiveCall × List LiveCall)
  | [] => some (hangupList, rejectList)
  | callId :: rest =>
    match w.getOneCallObject callId with
    | none => eccLoop w hangupList rejectList rest
    | some call =>
      if call.callType = .satellite then eccLoop w (hangupList ++ [call]) rejectList rest
      else if IsBeingSetUp call then
        if call.emergencyState then none
        else eccLoop w (hangupList ++ [call]) rejectList rest
      else if call.callRunningState = .ringing then
        eccLoop w hangupList (rejectList ++ [call]) rest
      else if call.callRunningState = .active ∨ call.callRunningState = .hold then
        eccLoop w (hangupList ++ [call]) rejectList rest
      else eccLoop w hangupList rejectList rest

/-- The two loops that send. -/
def hangUpAll (w : LiveWorld) (hangupList : List LiveCall) : LiveWorld :=
  hangupList.foldl (fun w call => w.send (.hangUpCall call.callId)) w

@[inherit_doc hangUpAll] def rejectAll (w : LiveWorld) (rejectList : List LiveCall) : LiveWorld :=
  rejectList.foldl (fun w call => w.send (.rejectCall call.callId)) w

/-- `EccDialPolicy` (call_request_process.cpp:1006-1051). -/
def eccDialPolicy (w : LiveWorld) : ErrorCode × LiveWorld :=
  match eccLoop w [] [] w.getCarrierCallList with
  | none => (.callErrCallCountsExceedLimit, w)
  | some (hangupList, rejectList) =>
    (.telephonySuccess, rejectAll (hangUpAll w hangupList) rejectList)

/-! ### Specification -/

/-- An emergency call is being set up, not by satellite. -/
def BlocksEccDial (call : LiveCall) : Prop :=
  call.callType ≠ .satellite ∧ IsBeingSetUp call ∧ call.emergencyState = true

instance (call : LiveCall) : Decidable (BlocksEccDial call) := inferInstanceAs (Decidable (_ ∧ _))

/-- The calls to hang up. -/
def IsHungUp (call : LiveCall) : Prop :=
  call.callType = .satellite ∨ IsBeingSetUp call ∨ call.callRunningState = .active ∨
    call.callRunningState = .hold

instance (call : LiveCall) : Decidable (IsHungUp call) := inferInstanceAs (Decidable (_ ∨ _))

/-- The calls to reject. -/
def IsRejected (call : LiveCall) : Prop :=
  call.callType ≠ .satellite ∧ call.callRunningState = .ringing

instance (call : LiveCall) : Decidable (IsRejected call) := inferInstanceAs (Decidable (_ ∧ _))

/-- The commands that clear the line, the hang-ups before the rejections, each in
    the order of the list. -/
def clearingCommands (w : LiveWorld) : List CallCommand :=
  (w.carrierCalls.filter (IsHungUp ·)).map (.hangUpCall ·.callId) ++
    (w.carrierCalls.filter (IsRejected ·)).map (.rejectCall ·.callId)

/-- The line is cleared, all or nothing. -/
structure ClearsTheLine (w : LiveWorld) (r : ErrorCode × LiveWorld) : Prop where
  refused : (∃ call ∈ w.carrierCalls, BlocksEccDial call) →
    r = (.callErrCallCountsExceedLimit, w)
  cleared : (¬ ∃ call ∈ w.carrierCalls, BlocksEccDial call) →
    r = (.telephonySuccess, { w with commands := w.commands ++ clearingCommands w })
  /-- Each call of the list has its one command in `clearingCommands`. -/
  once : ∀ call ∈ w.carrierCalls,
    (clearingCommands w).count (.hangUpCall call.callId) = (if IsHungUp call then 1 else 0) ∧
      (clearingCommands w).count (.rejectCall call.callId) = if IsRejected call then 1 else 0
  /-- There is no command for any other call. -/
  others : ∀ command ∈ clearingCommands w, ∃ call ∈ w.carrierCalls,
    (IsHungUp call ∧ command = .hangUpCall call.callId) ∨
      (IsRejected call ∧ command = .rejectCall call.callId)

/-! ### The two lists -/

variable {w : LiveWorld}

theorem IsBeingSetUp.not_ringing {call : LiveCall} (h : IsBeingSetUp call) :
    call.callRunningState ≠ .ringing := by
  intro hring
  unfold IsBeingSetUp at h
  rw [hring] at h
  simp at h

/-- What one call does to the two lists. -/
theorem eccLoop_cons {call : LiveCall} (hmem : call ∈ w.calls.entries)
    (hangupList rejectList : List LiveCall) (rest : List ℤ) :
    eccLoop w hangupList rejectList (call.callId :: rest) =
      if BlocksEccDial call then none
      else eccLoop w (hangupList ++ if IsHungUp call then [call] else [])
        (rejectList ++ if IsRejected call then [call] else []) rest := by
  rw [eccLoop, getOneCallObject_of_mem hmem]
  dsimp only
  by_cases hsat : call.callType = .satellite
  · rw [if_pos hsat, if_neg fun h : BlocksEccDial call => h.1 hsat,
      if_pos (show IsHungUp call from .inl hsat), if_neg fun h : IsRejected call => h.1 hsat,
      List.append_nil]
  · rw [if_neg hsat]
    by_cases hset : IsBeingSetUp call
    · have hreject : ¬ IsRejected call := fun h => hset.not_ringing h.2
      rw [if_pos hset]
      by_cases hecc : call.emergencyState = true
      · rw [if_pos hecc, if_pos (show BlocksEccDial call from ⟨hsat, hset, hecc⟩)]
      · rw [if_neg hecc, if_neg fun h : BlocksEccDial call => hecc h.2.2,
          if_pos (show IsHungUp call from .inr (.inl hset)), if_neg hreject, List.append_nil]
    · rw [if_neg hset, if_neg fun h : BlocksEccDial call => hset h.2.1]
      by_cases hring : call.callRunningState = .ringing
      · have hhang : ¬ IsHungUp call := by
          rintro (h | h | h | h)
          · exact hsat h
          · exact hset h
          · exact nomatch hring.symm.trans h
          · exact nomatch hring.symm.trans h
        rw [if_pos hring, if_neg hhang, if_pos (show IsRejected call from ⟨hsat, hring⟩),
          List.append_nil]
      · rw [if_neg hring, if_neg fun h : IsRejected call => hring h.2, List.append_nil]
        have hhang : IsHungUp call ↔
            call.callRunningState = .active ∨ call.callRunningState = .hold :=
          ⟨fun h => (h.resolve_left hsat).resolve_left hset, fun h => .inr (.inr h)⟩
        by_cases hlive : call.callRunningState = .active ∨ call.callRunningState = .hold
        · rw [if_pos hlive, if_pos (hhang.mpr hlive)]
        · rw [if_neg hlive, if_neg fun h => hlive (hhang.mp h), List.append_nil]

/-- Over a list of stored calls the loop gives up at an emergency call that is
    being set up, or sorts the calls. -/
theorem eccLoop_eq (l : List LiveCall) (hl : ∀ call ∈ l, call ∈ w.calls.entries)
    (hangupList rejectList : List LiveCall) :
    eccLoop w hangupList rejectList (l.map (·.callId)) =
      if ∃ call ∈ l, BlocksEccDial call then none
      else some (hangupList ++ l.filter (IsHungUp ·), rejectList ++ l.filter (IsRejected ·)) := by
  induction l generalizing hangupList rejectList with
  | nil => simp [eccLoop]
  | cons call rest ih =>
    rw [List.map_cons, eccLoop_cons (hl call List.mem_cons_self)]
    by_cases hblocks : BlocksEccDial call
    · rw [if_pos hblocks, if_pos ⟨call, List.mem_cons_self, hblocks⟩]
    · rw [if_neg hblocks, ih fun c hc => hl c (List.mem_cons_of_mem _ hc)]
      have hany : (∃ c ∈ call :: rest, BlocksEccDial c) ↔ ∃ c ∈ rest, BlocksEccDial c := by
        simp [hblocks]
      rw [if_congr hany rfl rfl]
      congr 3 <;> rw [List.filter_cons, List.append_assoc] <;> split_ifs <;> simp_all

theorem hangUpAll_eq (l : List LiveCall) (w : LiveWorld) :
    hangUpAll w l = { w with commands := w.commands ++ l.map (.hangUpCall ·.callId) } := by
  unfold hangUpAll
  induction l generalizing w with
  | nil => simp
  | cons call rest ih => rw [List.foldl_cons, ih]; simp [send]

theorem rejectAll_eq (l : List LiveCall) (w : LiveWorld) :
    rejectAll w l = { w with commands := w.commands ++ l.map (.rejectCall ·.callId) } := by
  unfold rejectAll
  induction l generalizing w with
  | nil => simp
  | cons call rest ih => rw [List.foldl_cons, ih]; simp [send]

/-- In a list with distinct ids, a command is sent to each call of a kind once. -/
theorem count_map_filter {l : List LiveCall} (hl : (l.map (·.callId)).Nodup)
    {p : LiveCall → Prop} [DecidablePred p] {command : ℤ → CallCommand}
    (hinj : Function.Injective command) {call : LiveCall} (hmem : call ∈ l) :
    ((l.filter (p ·)).map (command ·.callId)).count (command call.callId) =
      if p call then 1 else 0 := by
  have hnodup : ((l.filter (p ·)).map (command ·.callId)).Nodup := by
    have hids : ((l.filter (p ·)).map (·.callId)).Nodup :=
      hl.sublist (List.filter_sublist.map _)
    have := hids.map hinj
    rwa [List.map_map] at this
  split_ifs with hp
  · refine List.count_eq_one_of_mem hnodup ?_
    exact List.mem_map.mpr ⟨call, List.mem_filter.mpr ⟨hmem, by simpa using hp⟩, rfl⟩
  · refine List.count_eq_zero.mpr fun hin => ?_
    obtain ⟨other, hother, heq⟩ := List.mem_map.mp hin
    obtain ⟨hmem', hp'⟩ := List.mem_filter.mp hother
    have hsame : other = call := List.inj_on_of_nodup_map hl hmem' hmem (hinj heq)
    rw [hsame] at hp'
    exact hp (by simpa using hp')

/-- No command of one kind is one of the other kind. -/
theorem count_other_kind {l : List LiveCall} (command command' : ℤ → CallCommand)
    (hne : ∀ callId callId', command callId ≠ command' callId') (callId : ℤ) :
    (l.map (command ·.callId)).count (command' callId) = 0 := by
  refine List.count_eq_zero.mpr fun hin => ?_
  obtain ⟨call, -, heq⟩ := List.mem_map.mp hin
  exact hne _ _ heq

/-- `EccDialPolicy` clears the line, all or nothing. -/
theorem eccDialPolicy_clears (w : LiveWorld) : ClearsTheLine w (eccDialPolicy w) := by
  have hloop := eccLoop_eq w.carrierCalls (fun call h => (mem_carrierCalls.mp h).1) [] []
  refine ⟨fun hblocks => ?_, fun hblocks => ?_, fun call hmem => ?_, fun command hin => ?_⟩
  · rw [if_pos hblocks] at hloop
    rw [eccDialPolicy, getCarrierCallList, hloop]
  · rw [if_neg hblocks] at hloop
    rw [eccDialPolicy, getCarrierCallList, hloop]
    dsimp only
    rw [hangUpAll_eq, rejectAll_eq, List.append_assoc]
    rfl
  · have hhang : Function.Injective CallCommand.hangUpCall := fun _ _ h => by injection h
    have hreject : Function.Injective CallCommand.rejectCall := fun _ _ h => by injection h
    unfold clearingCommands
    rw [List.count_append, List.count_append, count_map_filter nodup_carrierCalls hhang hmem,
      count_map_filter nodup_carrierCalls hreject hmem,
      count_other_kind .rejectCall .hangUpCall nofun,
      count_other_kind .hangUpCall .rejectCall nofun]
    exact ⟨rfl, Nat.zero_add _⟩
  · rcases List.mem_append.mp hin with hin | hin
    · obtain ⟨call, hcall, rfl⟩ := List.mem_map.mp hin
      obtain ⟨hmem, hhung⟩ := List.mem_filter.mp hcall
      exact ⟨call, hmem, .inl ⟨by simpa using hhung, rfl⟩⟩
    · obtain ⟨call, hcall, rfl⟩ := List.mem_map.mp hin
      obtain ⟨hmem, hrejected⟩ := List.mem_filter.mp hcall
      exact ⟨call, hmem, .inr ⟨by simpa using hrejected, rfl⟩⟩

end CallRequestProcess

/-! ## A request to unhold a call -/

/-- `UnHoldCallPolicy` (call_policy.cpp:376-388). -/
def CallPolicy.unHoldCallPolicy (w : LiveWorld) (callId : ℤ) : ErrorCode :=
  match w.getOneCallObject callId with
  | none => .telephonyErrArgumentInvalid
  | some call =>
    if call.callRunningState ≠ .hold then .callErrCallIsNotOnHolding else .telephonySuccess

namespace CallRequestProcess

open LiveWorld

/-- An active call that `UnHoldRequest` would swap out. -/
def IsSwappable (w : LiveWorld) (otherCall : LiveCall) : Prop :=
  otherCall.callState = .active ∧ w.StandsAlone otherCall

instance (w : LiveWorld) (otherCall : LiveCall) : Decidable (IsSwappable w otherCall) :=
  inferInstanceAs (Decidable (_ ∧ _))

/-- The loop of `UnHoldRequest`: the state it returns in, nothing if it comes to
    the end of the list. -/
def unHoldLoop (isDsdsMode5 noOtherCall : Bool) (w : LiveWorld) : List ℤ → Option LiveWorld
  | [] => none
  | otherCallId :: rest =>
    match w.getOneCallObject otherCallId with
    | none => some w
    | some otherCall =>
      if isDsdsMode5 = true ∧ noOtherCall = false ∧ IsSwappable w otherCall then
        if otherCall.canSwitchCallState then
          some ((w.setCanSwitchCallState otherCallId false).send (.holdCall otherCallId))
        else some w
      else unHoldLoop isDsdsMode5 noOtherCall w rest

/-- `UnHoldRequest` after `SetCanUnHoldState`. -/
def swapOrUnHold (isDsdsMode5 : Bool) (w : LiveWorld) (callId slotId : ℤ) : LiveWorld :=
  let noOtherCall := w.isExistCallOtherSlot w.getCarrierCallList slotId
  match unHoldLoop isDsdsMode5 noOtherCall w w.getCarrierCallList with
  | some w' => w'
  | none => if noOtherCall then w.send (.unHoldCall callId) else w

/-- `UnHoldRequest` (call_request_process.cpp:633-674). -/
def unHoldRequest (isDsdsMode5 : Bool) (w : LiveWorld) (callId : ℤ) : LiveWorld :=
  match w.getOneCallObject callId with
  | none => w
  | some call =>
    swapOrUnHold isDsdsMode5 (w.setCanUnHoldState callId true) callId call.slotId

/-- `CallControlManager::UnHoldCall`, with the request carried out
    (call_control_manager.cpp:585-601). -/
def unHoldCall (isDsdsMode5 : Bool) (w : LiveWorld) (callId : ℤ) : ErrorCode × LiveWorld :=
  let ret := CallPolicy.unHoldCallPolicy w callId
  if ret ≠ .telephonySuccess then (ret, w)
  else (.telephonySuccess, unHoldRequest isDsdsMode5 w callId)

/-! ### Specification -/

/-- The request is served in `w'`: the call is unheld, or one active call is held,
    or in DSDA mode there is an active call that must not be switched. -/
def UnHoldServed (isDsdsMode5 : Bool) (w : LiveWorld) (callId : ℤ) (w' : LiveWorld) : Prop :=
  w'.commands = w.commands ++ [.unHoldCall callId] ∨
    (∃ it ∈ w.carrierCalls, it.callState = .active ∧
      w'.commands = w.commands ++ [.holdCall it.callId]) ∨
    (isDsdsMode5 = true ∧ w'.commands = w.commands ∧
      ∃ it ∈ w.carrierCalls, it.callState = .active ∧ it.canSwitchCallState = false)

/-- There is at most one carrier call, or all are on the slot. -/
def OnOneSlot (w : LiveWorld) (slotId : ℤ) : Prop :=
  w.carrierCalls.length ≤ 1 ∨ ∀ it ∈ w.carrierCalls, it.slotId = slotId

/-- All carrier calls are on the slot of the call; or, in DSDA mode, there is an
    active call to swap out or one that must not be switched. -/
def CanUnHold (isDsdsMode5 : Bool) (w : LiveWorld) (call : LiveCall) : Prop :=
  OnOneSlot w call.slotId ∨
    (isDsdsMode5 = true ∧ ∃ it ∈ w.carrierCalls, it.callState = .active ∧
      (w.StandsAlone it ∨ it.canSwitchCallState = false))

/-! ### What the loop finds -/

variable {w : LiveWorld} {isDsdsMode5 : Bool}

/-- The loop returns at the first call to swap out. -/
theorem unHoldLoop_eq (isDsdsMode5 noOtherCall : Bool) (l : List LiveCall)
    (hl : ∀ call ∈ l, call ∈ w.calls.entries) :
    unHoldLoop isDsdsMode5 noOtherCall w (l.map (·.callId)) =
      if isDsdsMode5 = true ∧ noOtherCall = false then
        (l.find? (IsSwappable w ·)).map fun it =>
          if it.canSwitchCallState then
            (w.setCanSwitchCallState it.callId false).send (.holdCall it.callId)
          else w
      else none := by
  induction l with
  | nil => simp [unHoldLoop]
  | cons call rest ih =>
    rw [List.map_cons, unHoldLoop, getOneCallObject_of_mem (hl call List.mem_cons_self)]
    dsimp only
    rw [ih fun c hc => hl c (List.mem_cons_of_mem _ hc)]
    by_cases hmode : isDsdsMode5 = true ∧ noOtherCall = false
    · by_cases hswap : IsSwappable w call
      · rw [if_pos ⟨hmode.1, hmode.2, hswap⟩, if_pos hmode,
          List.find?_cons_of_pos (by simpa using hswap), Option.map_some]
        split_ifs <;> rfl
      · rw [if_neg fun h => hswap h.2.2, if_pos hmode, if_pos hmode,
          List.find?_cons_of_neg (by simpa using hswap)]
    · rw [if_neg fun h => hmode ⟨h.1, h.2.1⟩, if_neg hmode, if_neg hmode]

/-- `noOtherCall` says that the calls are on one slot. -/
theorem isExistCallOtherSlot_iff (slotId : ℤ) :
    w.isExistCallOtherSlot w.getCarrierCallList slotId = true ↔ OnOneSlot w slotId := by
  unfold isExistCallOtherSlot OnOneSlot getCarrierCallList
  rw [List.length_map]
  split_ifs with hmany
  · rw [or_iff_right (Nat.not_le.mpr hmany), List.all_map, List.all_eq_true]
    refine forall₂_congr fun it hit => ?_
    rw [Function.comp_apply, getOneCallObject_of_mem (mem_carrierCalls.mp hit).1]
    simp
  · exact iff_of_true rfl (.inl (Nat.not_lt.mp hmany))

/-- `SetCanUnHoldState` changes no other field of the carrier calls. -/
theorem exists_carrierCalls_setCanUnHoldState (callId : ℤ) (flag : Bool) {P : LiveCall → Prop}
    (hP : ∀ it : LiveCall, P { it with canUnHoldState := flag } ↔ P it) :
    (∃ it ∈ (w.setCanUnHoldState callId flag).carrierCalls, P it) ↔
      ∃ it ∈ w.carrierCalls, P it :=
  exists_carrierCalls_setFlag callId (fun it => { it with canUnHoldState := flag })
    (fun _ => rfl) hP

theorem onOneSlot_setCanUnHoldState {callId slotId : ℤ} {flag : Bool} :
    OnOneSlot (w.setCanUnHoldState callId flag) slotId ↔ OnOneSlot w slotId := by
  have hlength := length_filter_setFlag (w := w) callId
    (fun it => { it with canUnHoldState := flag }) (fun _ => rfl) (p := (IsCarrier ·))
    fun _ => Iff.rfl
  have hslot := exists_carrierCalls_setCanUnHoldState (w := w) callId flag
    (P := fun it => it.slotId ≠ slotId) fun _ => Iff.rfl
  refine or_congr (iff_of_eq (congrArg (· ≤ 1) hlength)) ?_
  rw [← not_iff_not]
  push Not
  exact hslot

/-- Whether a request is served and whether the call can be unheld does not
    depend on the can-unhold flags. -/
theorem served_setCanUnHoldState {callId : ℤ} {w' : LiveWorld} (id : ℤ) (flag : Bool) :
    UnHoldServed isDsdsMode5 (w.setCanUnHoldState id flag) callId w' ↔
      UnHoldServed isDsdsMode5 w callId w' := by
  unfold UnHoldServed
  refine or_congr Iff.rfl (or_congr ?_ (and_congr_right fun _ => and_congr_right fun _ => ?_))
  · exact exists_carrierCalls_setCanUnHoldState id flag (P := fun it => it.callState = .active ∧
      w'.commands = w.commands ++ [.holdCall it.callId]) fun _ => Iff.rfl
  · exact exists_carrierCalls_setCanUnHoldState id flag (P := fun it => it.callState = .active ∧
      it.canSwitchCallState = false) fun _ => Iff.rfl

@[inherit_doc served_setCanUnHoldState] theorem canUnHold_setCanUnHoldState {id : ℤ} {flag : Bool}
    {call : LiveCall} :
    CanUnHold isDsdsMode5 (w.setCanUnHoldState id flag) call ↔ CanUnHold isDsdsMode5 w call := by
  unfold CanUnHold
  refine or_congr onOneSlot_setCanUnHoldState (and_congr_right fun _ => ?_)
  exact exists_carrierCalls_setCanUnHoldState id flag (P := fun it => it.callState = .active ∧
    (w.StandsAlone it ∨ it.canSwitchCallState = false)) fun _ => Iff.rfl

/-- What was sent decides how the request was served. -/
theorem served_of_nothing_sent {callId : ℤ} {w' : LiveWorld} (h : w'.commands = w.commands) :
    UnHoldServed isDsdsMode5 w callId w' ↔ isDsdsMode5 = true ∧
      ∃ it ∈ w.carrierCalls, it.callState = .active ∧ it.canSwitchCallState = false := by
  unfold UnHoldServed
  rw [h]
  constructor
  · rintro (hsent | ⟨it, -, -, hsent⟩ | ⟨hmode, -, hblocked⟩)
    · exact absurd hsent (by simp)
    · exact absurd hsent (by simp)
    · exact ⟨hmode, hblocked⟩
  · exact fun ⟨hmode, hblocked⟩ => .inr (.inr ⟨hmode, rfl, hblocked⟩)

/-- The request is served iff the call can be unheld. -/
theorem swapOrUnHold_served_iff {callId : ℤ} {call : LiveCall} :
    UnHoldServed isDsdsMode5 w callId (swapOrUnHold isDsdsMode5 w callId call.slotId) ↔
      CanUnHold isDsdsMode5 w call := by
  have hloop := fun noOtherCall => unHoldLoop_eq isDsdsMode5 noOtherCall w.carrierCalls
    fun it hit => (mem_carrierCalls.mp hit).1
  unfold swapOrUnHold
  dsimp only
  by_cases hslot : OnOneSlot w call.slotId
  · -- the call itself is unheld
    rw [(isExistCallOtherSlot_iff _).mpr hslot, getCarrierCallList, hloop,
      if_neg fun h => nomatch h.2]
    exact iff_of_true (.inl rfl) (.inl hslot)
  · have hno : w.isExistCallOtherSlot w.getCarrierCallList call.slotId = false :=
      Bool.eq_false_iff.mpr fun h => hslot ((isExistCallOtherSlot_iff _).mp h)
    have hcan : CanUnHold isDsdsMode5 w call ↔ isDsdsMode5 = true ∧
        ∃ it ∈ w.carrierCalls, it.callState = .active ∧
          (w.StandsAlone it ∨ it.canSwitchCallState = false) :=
      or_iff_right hslot
    rw [hno, getCarrierCallList, hloop, hcan]
    by_cases hmode : isDsdsMode5 = true
    · rw [if_pos ⟨hmode, rfl⟩]
      cases hfind : w.carrierCalls.find? (IsSwappable w ·) with
      | none =>
        have hnone : ∀ it ∈ w.carrierCalls, it.callState = .active → ¬ w.StandsAlone it := by
          intro it hit hactive halone
          exact List.find?_eq_none.mp hfind it hit (by simpa using ⟨hactive, halone⟩)
        refine (served_of_nothing_sent rfl).trans (and_congr_right fun _ => ?_)
        refine exists_congr fun it => and_congr_right fun hit => and_congr_right fun hactive => ?_
        exact (or_iff_right (hnone it hit hactive)).symm
      | some it =>
        have hit : it ∈ w.carrierCalls := List.mem_of_find?_eq_some hfind
        have hswap : IsSwappable w it := by simpa using List.find?_some hfind
        refine iff_of_true ?_ ⟨hmode, it, hit, hswap.1, .inl hswap.2⟩
        rw [Option.map_some]
        dsimp only
        split_ifs with hswitch
        · exact .inr (.inl ⟨it, hit, hswap.1, rfl⟩)
        · exact .inr (.inr ⟨hmode, rfl, it, hit, hswap.1, by simpa using hswitch⟩)
    · rw [if_neg fun h => hmode h.1]
      refine (served_of_nothing_sent rfl).trans (iff_of_false ?_ ?_)
      · exact fun h => hmode h.1
      · exact fun h => hmode h.1

/-- An accepted request to unhold a call is served iff all carrier calls are on the call's slot
    or, in DSDA mode, there is an active call to swap out or one that must not be switched. -/
theorem unHoldCall_served_iff (isDsdsMode5 : Bool) (w : LiveWorld) (callId : ℤ) (call : LiveCall)
    (hcall : w.getOneCallObject callId = some call)
    (hpolicy : CallPolicy.unHoldCallPolicy w callId = .telephonySuccess) :
    UnHoldServed isDsdsMode5 w callId (unHoldCall isDsdsMode5 w callId).2 ↔
      CanUnHold isDsdsMode5 w call := by
  rw [unHoldCall, if_neg (by simpa using hpolicy), unHoldRequest, hcall,
    ← served_setCanUnHoldState callId true, swapOrUnHold_served_iff, canUnHold_setCanUnHoldState]

/-- A call with its flags as they are at first. -/
def liveCall (c : CallBase) (h : c.InStep) : LiveCall where
  toCallBase := c
  emergencyState := false
  autoAnswerState := false
  canUnHoldState := true
  canSwitchCallState := true
  answerVideoState := 0
  isVoiceModifyToVideo := false
  inStep := h

/-- An IMS call in the given state. -/
def imsCall (callId slotId : ℤ) (callState : TelCallState) (running : CallRunningState) :
    CallBase :=
  { (default : CallBase) with
    callId := callId, slotId := slotId, objectType := .ims, callType := .ims
    callState := callState, callRunningState := running }

theorem imsCall_held_inStep (callId slotId : ℤ) :
    (imsCall callId slotId .holding .hold).InStep :=
  ⟨(fun h => nomatch h), fun _ => rfl⟩

theorem imsCall_ringing_inStep (callId slotId : ℤ) :
    (imsCall callId slotId .incoming .ringing).InStep :=
  ⟨(fun h => nomatch h), (fun h => nomatch h)⟩

/-- A held call on slot 0. -/
def heldCall : LiveCall := liveCall (imsCall 1 0 .holding .hold) (imsCall_held_inStep 1 0)

/-- A ringing call on slot 1. -/
def waitingCall : LiveCall := liveCall (imsCall 2 1 .incoming .ringing) (imsCall_ringing_inStep 2 1)

theorem heldCall_waitingCall_nodup : ([heldCall, waitingCall].map (·.callId)).Nodup := by decide

/-- The two calls, no conference and nothing sent. -/
def heldAndRinging : LiveWorld where
  calls := ⟨[heldCall, waitingCall], heldCall_waitingCall_nodup⟩
  imsMainCall := -1
  csMainCall := -1
  commands := []

/-- The request to unhold the held call, while a call rings on the other slot. -/
theorem unHoldCall_served_ringing :
    heldAndRinging.getOneCallObject 1 = some heldCall ∧
      CallPolicy.unHoldCallPolicy heldAndRinging 1 = .telephonySuccess ∧
      (UnHoldServed true heldAndRinging 1 (unHoldCall true heldAndRinging 1).2 ↔
        CanUnHold true heldAndRinging heldCall) :=
  have hcall : heldAndRinging.getOneCallObject 1 = some heldCall := rfl
  have hpolicy : CallPolicy.unHoldCallPolicy heldAndRinging 1 = .telephonySuccess := rfl
  ⟨hcall, hpolicy, unHoldCall_served_iff true heldAndRinging 1 heldCall hcall hpolicy⟩

/-- It is accepted and dropped, although no call is active. -/
theorem unhold_dropped_beside_ringing :
    (unHoldCall true heldAndRinging 1).1 = .telephonySuccess ∧
      ¬ UnHoldServed true heldAndRinging 1 (unHoldCall true heldAndRinging 1).2 := by
  have hnothing : (unHoldCall true heldAndRinging 1).2.commands = [] := rfl
  have hactive : ∀ it ∈ heldAndRinging.carrierCalls, it.callState ≠ .active := by
    intro it hit
    rcases List.mem_cons.mp hit with rfl | hit
    · exact fun h => nomatch h
    · obtain rfl := List.mem_singleton.mp hit
      exact fun h => nomatch h
  refine ⟨rfl, ?_⟩
  rintro (hsent | ⟨it, hit, hstate, -⟩ | ⟨-, -, it, hit, hstate, -⟩)
  · exact absurd (hnothing.symm.trans hsent) (by decide)
  · exact hactive it hit hstate
  · exact hactive it hit hstate

end CallRequestProcess

end CallManager
