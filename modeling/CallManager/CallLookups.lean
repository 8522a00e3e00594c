import CallManager.CallBase
import CallManager.Library.OrderedMap
import CallManager.StoredCalls

/-!
# Which call a lookup picks

Several calls of the store may fit a request, and each lookup has its own way to
pick one.

`GetForegroundCall` tests each call for the four classes in the order of their
priority, but it goes on after all classes except the first, so that a later
call of a lower class takes the place of an earlier one of a higher class.

`EndCall` goes through five running states and asks `GetOneCallObject` for a call
of each, which returns the call added last. If that is a VoIP call the whole
state is passed over; `GetOneCarrierCallObject` would have passed over the call.

Results:
* `foreground_iff`: `GetForegroundCall` respects the priority, whatever the order of
  the list, iff there is a ringing call or all calls that count are of one class.
* `endCall_iff`: `EndCall` ends a carrier call of the first state that has one iff
  the call of that state which was added last is itself a carrier call.
-/

namespace CallManager

namespace CallLookups

/-! ## The foreground call -/

/-- The classes of calls that `GetForegroundCall` looks for, highest first. -/
inductive CallClass
  | ringing | outgoing | active | holding
  deriving DecidableEq, Repr

/-- The place of a class in the order of priority. -/
def CallClass.rank : CallClass → ℕ
  | .ringing => 0
  | .outgoing => 1
  | .active => 2
  | .holding => 3

/-- The class of a state. -/
def classOf : TelCallState → Option CallClass
  | .incoming | .waiting => some .ringing
  | .dialing | .alerting => some .outgoing
  | .active => some .active
  | .holding => some .holding
  | .unknown | .disconnected | .disconnecting | .idle | .answered => none

/-- The calls that are not passed over. -/
def Considered (isIncludeVoipCall : Bool) (it : CallBase) : Prop :=
  isIncludeVoipCall = true ∨ it.callType ≠ .voip

instance (isIncludeVoipCall : Bool) (it : CallBase) :
    Decidable (Considered isIncludeVoipCall it) :=
  inferInstanceAs (Decidable (_ ∨ _))

/-- The loop of `GetForegroundCall`, from the candidate `liveCall` on. -/
def foregroundLoop (isIncludeVoipCall : Bool) (liveCall : Option CallBase) :
    List CallBase → Option CallBase
  | [] => liveCall
  | it :: rest =>
    if ¬ Considered isIncludeVoipCall it then foregroundLoop isIncludeVoipCall liveCall rest
    else if it.callState = .waiting ∨ it.callState = .incoming then some it
    else if it.callState = .alerting ∨ it.callState = .dialing then
      foregroundLoop isIncludeVoipCall (some it) rest
    else if it.callState = .active then foregroundLoop isIncludeVoipCall (some it) rest
    else if it.callState = .holding then foregroundLoop isIncludeVoipCall (some it) rest
    else foregroundLoop isIncludeVoipCall liveCall rest

/-- `GetForegroundCall` (call_object_manager.cpp:955-984). -/
def getForegroundCall (isIncludeVoipCall : Bool) (callObjectPtrList : List CallBase) :
    Option CallBase :=
  foregroundLoop isIncludeVoipCall none callObjectPtrList

/-! ### Specification -/

/-- `it` is a call of the list that counts, and its class is `k`. -/
structure OfClass (isIncludeVoipCall : Bool) (l : List CallBase) (it : CallBase) (k : CallClass) :
    Prop where
  mem : it ∈ l
  considered : Considered isIncludeVoipCall it
  class_eq : classOf it.callState = some k

/-- The class of what `GetForegroundCall` returns. -/
def foregroundClass (isIncludeVoipCall : Bool) (l : List CallBase) : Option CallClass :=
  (getForegroundCall isIncludeVoipCall l).bind fun it => classOf it.callState

/-- `GetForegroundCall` respects the priority: it returns a call of the highest class there is,
    null only if there is none, and the order of the list has no influence on the class. -/
structure RespectsPriority (isIncludeVoipCall : Bool) (l : List CallBase) : Prop where
  highest : ∀ it, getForegroundCall isIncludeVoipCall l = some it →
    ∃ k, OfClass isIncludeVoipCall l it k ∧
      ∀ other k', OfClass isIncludeVoipCall l other k' → k.rank ≤ k'.rank
  null : getForegroundCall isIncludeVoipCall l = none →
    ∀ it k, ¬ OfClass isIncludeVoipCall l it k
  order : ∀ l', l'.Perm l → foregroundClass isIncludeVoipCall l' =
    foregroundClass isIncludeVoipCall l

/-- There is a ringing call, or all calls that count are of one class. -/
def OneClass (isIncludeVoipCall : Bool) (l : List CallBase) : Prop :=
  (∃ it, OfClass isIncludeVoipCall l it .ringing) ∨
    ∀ it k other k', OfClass isIncludeVoipCall l it k → OfClass isIncludeVoipCall l other k' →
      k = k'

/-! ### What the loop returns -/

variable {isIncludeVoipCall : Bool} {l : List CallBase}

theorem CallClass.rank_injective {k k' : CallClass} (h : k.rank = k'.rank) : k = k' := by
  cases k <;> cases k' <;> first | rfl | exact absurd h (by decide)

theorem OfClass.perm {l' : List CallBase} {it : CallBase} {k : CallClass} (hperm : l'.Perm l)
    (h : OfClass isIncludeVoipCall l it k) : OfClass isIncludeVoipCall l' it k :=
  ⟨hperm.mem_iff.mpr h.mem, h.considered, h.class_eq⟩

/-- One call decides in three ways: it is returned, it becomes the candidate, or
    it is passed over. -/
theorem foregroundLoop_cons (liveCall : Option CallBase) (it : CallBase) :
    foregroundLoop isIncludeVoipCall liveCall (it :: l) =
      if Considered isIncludeVoipCall it then
        match classOf it.callState with
        | some .ringing => some it
        | some _ => foregroundLoop isIncludeVoipCall (some it) l
        | none => foregroundLoop isIncludeVoipCall liveCall l
      else foregroundLoop isIncludeVoipCall liveCall l := by
  rw [foregroundLoop]
  by_cases hc : Considered isIncludeVoipCall it
  · rw [if_neg (not_not.mpr hc), if_pos hc]
    cases hs : it.callState <;> simp [classOf]
  · rw [if_pos hc, if_neg hc]

/-- The loop returns a call of the list that has a class, or its candidate. -/
theorem foregroundLoop_mem {liveCall : Option CallBase} {it : CallBase}
    (h : foregroundLoop isIncludeVoipCall liveCall l = some it) :
    (∃ k, OfClass isIncludeVoipCall l it k) ∨ liveCall = some it := by
  induction l generalizing liveCall with
  | nil => exact .inr h
  | cons a rest ih =>
    have hlater : ∀ {c : Option CallBase}, foregroundLoop isIncludeVoipCall c rest = some it →
        (∃ k, OfClass isIncludeVoipCall (a :: rest) it k) ∨ c = some it := by
      intro c hc
      refine (ih hc).imp_left ?_
      rintro ⟨k, hk⟩
      exact ⟨k, List.mem_cons_of_mem _ hk.mem, hk.considered, hk.class_eq⟩
    rw [foregroundLoop_cons] at h
    split_ifs at h with hc
    · cases hk : classOf a.callState with
      | none =>
        simp only [hk] at h
        exact hlater h
      | some k =>
        have hhere : ∀ b, some a = some b → ∃ k, OfClass isIncludeVoipCall (a :: rest) b k := by
          intro b hb
          obtain rfl := Option.some.inj hb
          exact ⟨k, List.mem_cons_self, hc, hk⟩
        cases k with
        | ringing =>
          simp only [hk] at h
          exact .inl (hhere it h)
        | outgoing | active | holding =>
          simp only [hk] at h
          exact .inl ((hlater h).elim id (hhere it))
    · exact hlater h

/-- With a candidate the loop returns a call. -/
theorem foregroundLoop_some (c : CallBase) :
    (foregroundLoop isIncludeVoipCall (some c) l).isSome := by
  induction l generalizing c with
  | nil => rfl
  | cons a rest ih =>
    rw [foregroundLoop_cons]
    split_ifs with hc
    · rcases hk : classOf a.callState with _ | ⟨_ | _ | _ | _⟩
      · exact ih c
      · rfl
      · exact ih a
      · exact ih a
      · exact ih a
    · exact ih c

/-- If there is a call of a class, the loop returns a call. -/
theorem foregroundLoop_isSome {it : CallBase} {k : CallClass} (liveCall : Option CallBase)
    (h : OfClass isIncludeVoipCall l it k) :
    (foregroundLoop isIncludeVoipCall liveCall l).isSome := by
  induction l generalizing liveCall with
  | nil => exact absurd h.mem List.not_mem_nil
  | cons a rest ih =>
    rw [foregroundLoop_cons]
    rcases List.mem_cons.mp h.mem with rfl | hrest
    · rw [if_pos h.considered, h.class_eq]
      cases k with
      | ringing => rfl
      | outgoing | active | holding => exact foregroundLoop_some it
    · have hlater := fun c => ih c ⟨hrest, h.considered, h.class_eq⟩
      split_ifs with hc
      · rcases hk : classOf a.callState with _ | ⟨_ | _ | _ | _⟩
        · exact hlater liveCall
        · rfl
        · exact hlater (some a)
        · exact hlater (some a)
        · exact hlater (some a)
      · exact hlater liveCall

/-- A ringing call is not overwritten: if there is one, a ringing call is returned. -/
theorem foregroundLoop_ringing {it : CallBase} (liveCall : Option CallBase)
    (h : OfClass isIncludeVoipCall l it .ringing) :
    ∃ r, foregroundLoop isIncludeVoipCall liveCall l = some r ∧
      OfClass isIncludeVoipCall l r .ringing := by
  induction l generalizing liveCall with
  | nil => exact absurd h.mem List.not_mem_nil
  | cons a rest ih =>
    by_cases ha : OfClass isIncludeVoipCall (a :: rest) a .ringing
    · refine ⟨a, ?_, ha⟩
      rw [foregroundLoop_cons, if_pos ha.considered, ha.class_eq]
    · have hrest : it ∈ rest := by
        rcases List.mem_cons.mp h.mem with rfl | hrest
        · exact absurd h ha
        · exact hrest
      have hlater : ∀ c, ∃ r, foregroundLoop isIncludeVoipCall c rest = some r ∧
          OfClass isIncludeVoipCall (a :: rest) r .ringing := by
        intro c
        obtain ⟨r, hr, hclass⟩ := ih c ⟨hrest, h.considered, h.class_eq⟩
        exact ⟨r, hr, List.mem_cons_of_mem _ hclass.mem, hclass.considered, hclass.class_eq⟩
      rw [foregroundLoop_cons]
      split_ifs with hc
      · rcases hk : classOf a.callState with _ | ⟨_ | _ | _ | _⟩
        · exact hlater liveCall
        · exact absurd ⟨List.mem_cons_self, hc, hk⟩ ha
        · exact hlater (some a)
        · exact hlater (some a)
        · exact hlater (some a)
      · exact hlater liveCall

/-- Without a ringing call, the last call of any class is returned. -/
theorem foregroundLoop_append {it : CallBase} {k : CallClass} (liveCall : Option CallBase)
    (hringing : ∀ other, ¬ OfClass isIncludeVoipCall l other .ringing)
    (hc : Considered isIncludeVoipCall it) (hk : classOf it.callState = some k) :
    foregroundLoop isIncludeVoipCall liveCall (l ++ [it]) = some it := by
  induction l generalizing liveCall with
  | nil =>
    rw [List.nil_append, foregroundLoop_cons, if_pos hc, hk]
    cases k <;> rfl
  | cons a rest ih =>
    have hlater := fun c => ih c fun other ho =>
      hringing other ⟨List.mem_cons_of_mem _ ho.mem, ho.considered, ho.class_eq⟩
    rw [List.cons_append, foregroundLoop_cons]
    split_ifs with hca
    · rcases hka : classOf a.callState with _ | ⟨_ | _ | _ | _⟩
      · exact hlater liveCall
      · exact absurd ⟨List.mem_cons_self, hca, hka⟩ (hringing a)
      · exact hlater (some a)
      · exact hlater (some a)
      · exact hlater (some a)
    · exact hlater liveCall

/-- What is returned has a class and is in the list. -/
theorem getForegroundCall_ofClass {it : CallBase}
    (h : getForegroundCall isIncludeVoipCall l = some it) :
    ∃ k, OfClass isIncludeVoipCall l it k := by
  rcases foregroundLoop_mem h with hclass | hnone
  · exact hclass
  · exact nomatch hnone

/-- The class returned under `OneClass`. -/
theorem OneClass.highest {it : CallBase} {k : CallClass} (h : OneClass isIncludeVoipCall l)
    (hit : getForegroundCall isIncludeVoipCall l = some it)
    (hk : OfClass isIncludeVoipCall l it k) {other : CallBase} {k' : CallClass}
    (hother : OfClass isIncludeVoipCall l other k') : k.rank ≤ k'.rank := by
  rcases h with ⟨r, hr⟩ | hone
  · obtain ⟨r', hr', hclass⟩ := foregroundLoop_ringing none hr
    have heq : some r' = some it := hr'.symm.trans hit
    obtain rfl := Option.some.inj heq
    have hk0 : k = .ringing := Option.some.inj (hk.class_eq.symm.trans hclass.class_eq)
    rw [hk0]
    exact Nat.zero_le _
  · exact Nat.le_of_eq (congrArg CallClass.rank (hone it k other k' hk hother))

/-- `OneClass` does not depend on the order of the list. -/
theorem OneClass.perm {l' : List CallBase} (hperm : l'.Perm l) (h : OneClass isIncludeVoipCall l) :
    OneClass isIncludeVoipCall l' := by
  rcases h with ⟨r, hr⟩ | hone
  · exact .inl ⟨r, hr.perm hperm⟩
  · exact .inr fun it k other k' hit hother =>
      hone it k other k' (hit.perm hperm.symm) (hother.perm hperm.symm)

/-- `GetForegroundCall` respects the priority iff there is a ringing call, or all
    calls that count are of one class. -/
theorem foreground_iff (isIncludeVoipCall : Bool) (l : List CallBase) :
    RespectsPriority isIncludeVoipCall l ↔ OneClass isIncludeVoipCall l := by
  constructor
  · intro h
    by_contra hnot
    unfold OneClass at hnot
    push Not at hnot
    obtain ⟨hringing, a, k, b, k', ha, hb, hne⟩ := hnot
    -- one of the two classes is the lower one; its call is put at the end
    obtain ⟨high, low, kHigh, kLow, hHigh, hLow, hlt⟩ : ∃ high low kHigh kLow,
        OfClass isIncludeVoipCall l high kHigh ∧ OfClass isIncludeVoipCall l low kLow ∧
          kHigh.rank < kLow.rank := by
      rcases Nat.lt_trichotomy k.rank k'.rank with hlt | heq | hlt
      · exact ⟨a, b, k, k', ha, hb, hlt⟩
      · exact absurd (CallClass.rank_injective heq) hne
      · exact ⟨b, a, k', k, hb, ha, hlt⟩
    have hperm : (l.erase low ++ [low]).Perm l :=
      (List.perm_append_singleton low _).trans (List.perm_cons_erase hLow.mem).symm
    have hlast : foregroundClass isIncludeVoipCall (l.erase low ++ [low]) = some kLow := by
      have hcall : getForegroundCall isIncludeVoipCall (l.erase low ++ [low]) = some low := by
        refine foregroundLoop_append none (fun other ho => hringing other ?_) hLow.considered
          hLow.class_eq
        exact ⟨List.mem_of_mem_erase ho.mem, ho.considered, ho.class_eq⟩
      rw [foregroundClass, hcall, Option.bind_some, hLow.class_eq]
    rw [h.order _ hperm, foregroundClass, Option.bind_eq_some_iff] at hlast
    obtain ⟨it, hit, hclass⟩ := hlast
    obtain ⟨kIt, hkIt, hmin⟩ := h.highest it hit
    have heq : kIt = kLow := Option.some.inj (hkIt.class_eq.symm.trans hclass)
    have := hmin high kHigh hHigh
    rw [heq] at this
    omega
  · intro h
    have hclass : ∀ l', l'.Perm l → ∀ it, getForegroundCall isIncludeVoipCall l' = some it →
        ∃ k, OfClass isIncludeVoipCall l it k ∧
          ∀ other k', OfClass isIncludeVoipCall l other k' → k.rank ≤ k'.rank := by
      intro l' hperm it hit
      obtain ⟨k, hk⟩ := getForegroundCall_ofClass hit
      refine ⟨k, hk.perm hperm.symm, fun other k' hother => ?_⟩
      exact (h.perm hperm).highest hit hk (hother.perm hperm)
    have hnull : ∀ l', l'.Perm l → getForegroundCall isIncludeVoipCall l' = none →
        ∀ it k, ¬ OfClass isIncludeVoipCall l it k := by
      intro l' hperm hnone it k hk
      have hsome : (getForegroundCall isIncludeVoipCall l').isSome :=
        foregroundLoop_isSome none (hk.perm hperm)
      rw [hnone] at hsome
      exact nomatch hsome
    refine ⟨hclass l (.refl l), hnull l (.refl l), fun l' hperm => ?_⟩
    unfold foregroundClass
    rcases hl : getForegroundCall isIncludeVoipCall l with _ | it
    · rcases hl' : getForegroundCall isIncludeVoipCall l' with _ | it'
      · rfl
      · obtain ⟨k, hk, -⟩ := hclass l' hperm it' hl'
        exact absurd hk (hnull l (.refl l) hl it' k)
    · rcases hl' : getForegroundCall isIncludeVoipCall l' with _ | it'
      · obtain ⟨k, hk, -⟩ := hclass l (.refl l) it hl
        exact absurd hk (hnull l' hperm hl' it k)
      · obtain ⟨k, hk, hmin⟩ := hclass l (.refl l) it hl
        obtain ⟨k', hk', hmin'⟩ := hclass l' hperm it' hl'
        have heq : k = k' :=
          CallClass.rank_injective (Nat.le_antisymm (hmin it' k' hk') (hmin' it k hk))
        rw [Option.bind_some, Option.bind_some, hk.class_eq, hk'.class_eq, heq]

/-- An active call, added first. -/
def activeCall : CallBase :=
  { (default : CallBase) with
    callId := 1, callType := .ims, callState := .active, callRunningState := .active }

/-- A held call, added after it. -/
def heldCall : CallBase :=
  { (default : CallBase) with
    callId := 2, callType := .ims, callState := .holding, callRunningState := .hold }

/-- With an active call and then a held one, the held call is returned. -/
theorem held_call_hides_active : ¬ RespectsPriority true [activeCall, heldCall] := by
  intro h
  obtain ⟨k, hk, hmin⟩ := h.highest heldCall rfl
  have hholding : k = .holding := Option.some.inj (hk.class_eq.symm.trans rfl)
  have hactive : OfClass true [activeCall, heldCall] activeCall .active :=
    ⟨List.mem_cons_self, .inl rfl, rfl⟩
  have hle := hmin activeCall .active hactive
  rw [hholding] at hle
  exact absurd hle (by decide)

/-! ## Ending a call from outside -/

/-- The calls as the store keeps them, with distinct ids. -/
abbrev CallList := OrderedMap CallBase.callId

/-- `INVALID_CALLID` and `VOIP_CALL_MINIMUM` (call_manager_base.h:66 and 70). -/
def invalidCallId : ℤ := 0

@[inherit_doc invalidCallId] def voipCallMinimum : ℤ := 10000

/-- What `EndCall` asks for. -/
inductive EndCallRequest
  | rejectCall (callId : ℤ)
  | hangUpCall (callId : ℤ)
  deriving DecidableEq, Repr

/-- The id a request names. -/
def EndCallRequest.callId : EndCallRequest → ℤ
  | .rejectCall callId => callId
  | .hangUpCall callId => callId

/-- What `EndCall` issued and what it returned. -/
structure EndCallResult where
  issued : Option EndCallRequest
  ret : Bool
  deriving DecidableEq, Repr

/-- `GetOneCallObject(callState)`. -/
def getOneCallObject (m : CallList) : CallRunningState → Option CallBase :=
  StoredCalls.getOneCallObject CallBase.callRunningState m.entries

/-- `callRunningStateVec` (call_control_manager.cpp:2405-2410). -/
def callRunningStateVec : List CallRunningState := [.active, .ringing, .dialing, .connecting, .hold]

/-- The calls that `EndCall` does not skip. -/
def Ends (call : CallBase) : Prop :=
  ¬ (call.callId = invalidCallId ∨ voipCallMinimum ≤ call.callId ∨ call.callType = .voip)

instance (call : CallBase) : Decidable (Ends call) := inferInstanceAs (Decidable (¬ _))

/-- What `EndCall` asks for in the state `state`. -/
def endRequest (state : CallRunningState) (call : CallBase) : EndCallRequest :=
  if state = .ringing then .rejectCall call.callId else .hangUpCall call.callId

/-- The loop of `EndCall`; `answer` is what `RejectCall` and `HangUpCall` return. -/
def endCallLoop (answer : EndCallRequest → ErrorCode) (m : CallList) :
    List CallRunningState → EndCallResult
  | [] => ⟨none, true⟩
  | state :: rest =>
    match getOneCallObject m state with
    | none => endCallLoop answer m rest
    | some call =>
      if Ends call then
        ⟨some (endRequest state call), answer (endRequest state call) = .telephonySuccess⟩
      else endCallLoop answer m rest

/-- `EndCall` (call_control_manager.cpp:2403-2432). -/
def endCall (answer : EndCallRequest → ErrorCode) (m : CallList) : EndCallResult :=
  endCallLoop answer m callRunningStateVec

/-! ### Specification -/

/-- A carrier call in the running state `state`. -/
structure CarrierIn (m : CallList) (state : CallRunningState) (it : CallBase) : Prop where
  mem : it ∈ m.entries
  carrier : it.callType ≠ .voip
  running : it.callRunningState = state

/-- `state` is the first of `states` with a carrier call. -/
def FirstWithCarrier (m : CallList) (states : List CallRunningState) (state : CallRunningState) :
    Prop :=
  ∃ before after, states = before ++ state :: after ∧ (∃ it, CarrierIn m state it) ∧
    ∀ earlier ∈ before, ∀ it, ¬ CarrierIn m earlier it

/-- `EndCall` ends a carrier call of the first state that has one, and returns
    true without a request only if there is none in any of the states. -/
structure EndsACall (m : CallList) (r : EndCallResult) : Prop where
  ends : ∀ state, FirstWithCarrier m callRunningStateVec state →
    ∃ request it, r.issued = some request ∧ CarrierIn m state it ∧ request.callId = it.callId
  idle : r.issued = none → r.ret = true →
    ∀ state ∈ callRunningStateVec, ∀ it, ¬ CarrierIn m state it

/-- In the first state with a carrier call, the call added last is a carrier call
    with an id in the range of their ids. -/
def LastIsCarrier (m : CallList) : Prop :=
  ∀ state, FirstWithCarrier m callRunningStateVec state →
    ∀ call, getOneCallObject m state = some call → Ends call

/-! ### What is ended -/

variable {m : CallList} {state : CallRunningState}

theorem getOneCallObject_spec {call : CallBase} (h : getOneCallObject m state = some call) :
    call ∈ m.entries ∧ call.callRunningState = state :=
  StoredCalls.getOneCallObject_spec h

theorem getOneCallObject_none (h : getOneCallObject m state = none) (it : CallBase) :
    ¬ CarrierIn m state it := by
  intro hit
  have hsome := StoredCalls.isSome_getOneCallObject.mpr ⟨it, hit.mem, hit.running⟩
  rw [← getOneCallObject, h] at hsome
  exact Bool.noConfusion hsome

/-- What is not skipped is a carrier call. -/
theorem Ends.carrierIn {call : CallBase} (h : Ends call)
    (hcall : getOneCallObject m state = some call) : CarrierIn m state call :=
  have hspec := getOneCallObject_spec hcall
  ⟨hspec.1, fun hvoip => h (.inr (.inr hvoip)), hspec.2⟩

/-- The request is for the call it is made of. -/
@[simp] theorem endRequest_callId (call : CallBase) :
    (endRequest state call).callId = call.callId := by
  unfold endRequest
  split_ifs <;> rfl

/-- What the loop asks for is for a carrier call in one of the states. -/
theorem endCallLoop_issued {answer : EndCallRequest → ErrorCode} {states : List CallRunningState}
    {request : EndCallRequest} (h : (endCallLoop answer m states).issued = some request) :
    ∃ before state after call, states = before ++ state :: after ∧
      getOneCallObject m state = some call ∧ Ends call ∧ request = endRequest state call ∧
      ∀ earlier ∈ before, ∀ call, getOneCallObject m earlier = some call → ¬ Ends call := by
  induction states with
  | nil => exact nomatch h
  | cons s rest ih =>
    have hlater : (∀ call, getOneCallObject m s = some call → ¬ Ends call) →
        (endCallLoop answer m rest).issued = some request →
        ∃ before state after call, s :: rest = before ++ state :: after ∧
          getOneCallObject m state = some call ∧ Ends call ∧ request = endRequest state call ∧
          ∀ earlier ∈ before, ∀ call, getOneCallObject m earlier = some call → ¬ Ends call := by
      intro hskip hrest
      obtain ⟨before, state, after, call, hsplit, hcall, hends, hrequest, hbefore⟩ := ih hrest
      refine ⟨s :: before, state, after, call, by rw [hsplit]; rfl, hcall, hends, hrequest, ?_⟩
      intro earlier hearlier
      rcases List.mem_cons.mp hearlier with rfl | hmem
      · exact hskip
      · exact hbefore earlier hmem
    rw [endCallLoop] at h
    cases hcall : getOneCallObject m s with
    | none =>
      simp only [hcall] at h
      exact hlater (by simp [hcall]) h
    | some call =>
      simp only [hcall] at h
      split_ifs at h with hends
      · exact ⟨[], s, rest, call, rfl, hcall, hends, (Option.some.inj h).symm, by simp⟩
      · refine hlater (fun c hc => ?_) h
        obtain rfl := Option.some.inj (hcall.symm.trans hc)
        exact hends

/-- Without a request all calls found were skipped, and the loop returns true. -/
theorem endCallLoop_none {answer : EndCallRequest → ErrorCode} {states : List CallRunningState}
    (h : (endCallLoop answer m states).issued = none) :
    ∀ state ∈ states, ∀ call, getOneCallObject m state = some call → ¬ Ends call := by
  induction states with
  | nil => exact fun _ hmem => absurd hmem List.not_mem_nil
  | cons s rest ih =>
    rw [endCallLoop] at h
    intro state hmem call hcall
    cases hs : getOneCallObject m s with
    | none =>
      simp only [hs] at h
      rcases List.mem_cons.mp hmem with rfl | hrest
      · exact nomatch hs.symm.trans hcall
      · exact ih h state hrest call hcall
    | some c =>
      simp only [hs] at h
      split_ifs at h with hends
      rcases List.mem_cons.mp hmem with rfl | hrest
      · obtain rfl := Option.some.inj (hs.symm.trans hcall)
        exact hends
      · exact ih h state hrest call hcall

/-- Among states one of which has a carrier call, there is a first one. -/
theorem exists_firstWithCarrier {states : List CallRunningState} (hmem : state ∈ states)
    {it : CallBase} (hit : CarrierIn m state it) : ∃ first, FirstWithCarrier m states first := by
  induction states with
  | nil => exact absurd hmem List.not_mem_nil
  | cons s rest ih =>
    by_cases hs : ∃ it, CarrierIn m s it
    · exact ⟨s, [], rest, rfl, hs, by simp⟩
    · have hrest : state ∈ rest := by
        rcases List.mem_cons.mp hmem with rfl | hrest
        · exact absurd ⟨it, hit⟩ hs
        · exact hrest
      obtain ⟨first, before, after, hsplit, hfirst, hbefore⟩ := ih hrest
      refine ⟨first, s :: before, after, by rw [hsplit]; rfl, hfirst, ?_⟩
      intro earlier hearlier
      rcases List.mem_cons.mp hearlier with rfl | hmem'
      · exact fun other hother => hs ⟨other, hother⟩
      · exact hbefore earlier hmem'

/-- Two places of a list, each not among what stands before the other, are one place. -/
theorem eq_of_splits {α : Type*} {before before' after after' : List α} {a a' : α}
    (h : before ++ a :: after = before' ++ a' :: after') (ha : a ∉ before') (ha' : a' ∉ before) :
    a = a' := by
  rcases List.append_eq_append_iff.mp h with ⟨mid, hbefore', hmid⟩ | ⟨mid, hbefore, hmid⟩
  · cases mid with
    | nil => exact (List.cons.inj hmid).1
    | cons b mid =>
      obtain ⟨rfl, -⟩ := List.cons.inj hmid
      exact absurd (by simp [hbefore']) ha
  · cases mid with
    | nil => exact (List.cons.inj hmid).1.symm
    | cons b mid =>
      obtain ⟨rfl, -⟩ := List.cons.inj hmid
      exact absurd (by simp [hbefore]) ha'

/-- `EndCall` ends a carrier call of the first state that has one iff the call of
    that state which was added last can be ended. -/
theorem endCall_iff (answer : EndCallRequest → ErrorCode) (m : CallList) :
    EndsACall m (endCall answer m) ↔ LastIsCarrier m := by
  constructor
  · intro h state hfirst call hcall
    obtain ⟨request, it, hissued, hit, hid⟩ := h.ends state hfirst
    obtain ⟨-, state', -, call', -, hcall', hends, rfl, -⟩ := endCallLoop_issued hissued
    -- the id tells that the call ended is the carrier call of `state`
    have heq : call' = it := by
      refine OrderedMap.eq_of_key_eq (getOneCallObject_spec hcall').1 hit.mem ?_
      rw [← hid, endRequest_callId]
    have hstate : state' = state := by
      rw [← (getOneCallObject_spec hcall').2, heq, hit.running]
    rw [hstate] at hcall'
    obtain rfl := Option.some.inj (hcall.symm.trans hcall')
    exact hends
  · intro h
    have hends : ∀ state, FirstWithCarrier m callRunningStateVec state →
        ∃ request it, (endCall answer m).issued = some request ∧ CarrierIn m state it ∧
          request.callId = it.callId := by
      intro state hfirst
      obtain ⟨before, after, hsplit, ⟨it, hit⟩, hbefore⟩ := id hfirst
      obtain ⟨call, hcall⟩ : ∃ call, getOneCallObject m state = some call := by
        rw [← Option.ne_none_iff_exists']
        exact fun hnone => getOneCallObject_none hnone it hit
      have hendsCall : Ends call := h state hfirst call hcall
      have hmem : state ∈ callRunningStateVec := by simp [hsplit]
      cases hissued : (endCall answer m).issued with
      | none => exact absurd hendsCall (endCallLoop_none hissued state hmem call hcall)
      | some request =>
        obtain ⟨before', state', after', call', hsplit', hcall', hends', rfl, hskipped⟩ :=
          endCallLoop_issued hissued
        have hstate : state = state' := by
          refine eq_of_splits (hsplit.symm.trans hsplit') ?_ ?_
          · exact fun hin => hskipped state hin call hcall hendsCall
          · exact fun hin => hbefore state' hin call' (hends'.carrierIn hcall')
        refine ⟨endRequest state' call', call', rfl, ?_, endRequest_callId call'⟩
        rw [hstate]
        exact hends'.carrierIn hcall'
    refine ⟨hends, fun hnone _ state hmem it hit => ?_⟩
    obtain ⟨first, hfirst⟩ := exists_firstWithCarrier hmem hit
    obtain ⟨request, -, hissued, -⟩ := hends first hfirst
    exact nomatch hnone.symm.trans hissued

/-- An active VoIP call. -/
def voipCall : CallBase :=
  { activeCall with callId := 10001, callType := .voip, objectType := .voip }

theorem activeCall_voipCall_nodup : ([activeCall, voipCall].map CallBase.callId).Nodup := by
  decide

/-- An active carrier call, with an active VoIP call added after it. -/
def voipOverCarrier : CallList := ⟨[activeCall, voipCall], activeCall_voipCall_nodup⟩

/-- With an active carrier call and a VoIP call added later, nothing is ended and
    the answer is true. -/
theorem voip_call_shields_carrier :
    ¬ EndsACall voipOverCarrier (endCall (fun _ => .telephonySuccess) voipOverCarrier) := by
  intro h
  have hactive : CarrierIn voipOverCarrier .active activeCall :=
    ⟨List.mem_cons_self, by decide, rfl⟩
  exact h.idle rfl rfl .active (by decide) activeCall hactive

end CallLookups

end CallManager
