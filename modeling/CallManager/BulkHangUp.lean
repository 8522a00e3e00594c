import CallManager.CallControl

/-!
# Ending all calls that conflict

When a VoIP app reports that it has answered, all stored calls are hung up; when it
reports off hook, or when a carrier call is answered, the VoIP calls that are not
active are rejected or hung up. Each is a loop over a list of the calls, made before;
other threads may change the calls and the store between two turns.

Specification: each call that is to be ended gets exactly one request, whatever became
of the requests before it, and no null call is dereferenced. A call is to be ended
only if the policy lets it: not one that is disconnecting already.

All three loops return at the first request that is not successful, though a policy
refuses a call that is merely on its way out. The loop of a carrier call that is
answered looks each call up again, and reads it without a test; and of the calls that
are not active it takes those only that ring or are being dialed. `HangUpVoipCall` of
the call objects, which does the same for a dial, tests the call, goes on, and takes
every call that is not active.

Results:
* `bulkHangUp_iff`: a loop is as specified iff it passes over no call that is to be
  ended, no call that fails stands in the list before one that is to be ended, and none
  that is gone is reached.
* `disconnecting_first`: a call that is disconnecting, before an active one.
-/

namespace CallManager.CallControl

open CallLookups (voipCallMinimum)
open StopLoop (Clear Served Apart)

/-! ## Specification -/

/-- What makes the calls be ended: the VoIP app has answered or is off hook, or a
    carrier call is answered. -/
inductive Occasion
  | voipAnswered | voipOffHook | carrierAnswered
  deriving DecidableEq

/-- The event asks for the end of the call. -/
def ControlEvent.ends (callId : ℤ) : ControlEvent → Bool
  | .request (.rejectCall id) | .request (.hangUpCall id) | .setPendingHangup id => id = callId
  | _ => false

/-- The policy lets a call in this state be ended: one that comes in is rejected, and
    any other hung up. -/
def MayBeEnded (calls : CallStore) (callId : ℤ) (callState : TelCallState) : Prop :=
  if callState = .incoming then rejectCallPolicy calls callId = .telephonySuccess
  else hangUpPolicy calls callId = .telephonySuccess

instance (calls : CallStore) (callId : ℤ) (callState : TelCallState) :
    Decidable (MayBeEnded calls callId callState) := inferInstanceAs (Decidable (ite _ _ _))

/-- The call of the turn is to be ended: any that may be hung up if the VoIP app has
    answered, else the VoIP calls that are not active and may be ended. The calls of a
    carrier call's answer are VoIP calls, and their state is the one that is stored. -/
def Due (t : Turn) : Occasion → Prop
  | .voipAnswered => hangUpPolicy t.calls t.call.callId = .telephonySuccess
  | .voipOffHook =>
    t.call.callType = .voip ∧ t.call.callState ≠ .active ∧
      MayBeEnded t.calls t.call.callId t.call.callState
  | .carrierAnswered =>
    ∃ it ∈ t.calls.lookup t.call.callId,
      it.callState ≠ .active ∧ MayBeEnded t.calls t.call.callId it.callState

/-- Each call that is to be ended gets exactly one request, and no null call is dereferenced. -/
def EndsEach (occasion : Occasion) (turns : List Turn) (r : TurnResult) : Prop :=
  r.1 ≠ none ∧ Served (fun t => ControlEvent.ends t.call.callId) (Due · occasion) turns r.2

/-- What the functions of the three occasions come to. -/
def Occasion.run (env : ControlEnv) (w : ControlWorld) (carrierId : ℤ) (turns : List Turn) :
    Occasion → TurnResult
  | .voipAnswered =>
    let r := setVoIPCallState env w .answered turns
    (r.1, r.2.1)
  | .voipOffHook =>
    let r := setVoIPCallState env w .offhook turns
    (r.1, r.2.1)
  | .carrierAnswered => carrierAndVoipConflictProcess env w.calls carrierId .answered turns

/-! ## The condition -/

section Condition

variable (env : ControlEnv) (t : Turn)

/-- A request that the policy refuses goes to the VoIP app. -/
def GoesToVoip : Prop := voipCallMinimum ≤ t.call.callId ∧ env.isVoipCallExist

instance : Decidable (GoesToVoip env t) := inferInstanceAs (Decidable (_ ∧ _))

/-- `HangUpCall` fails: the policy refuses the call, which is not one of the VoIP app,
    or the handler does. -/
def HangUpFails : Prop :=
  if hangUpPolicy t.calls t.call.callId = .telephonySuccess then
    env.hasPendingMo t.call.callId = false ∧
      env.handler (.hangUpCall t.call.callId) ≠ .telephonySuccess
  else ¬ GoesToVoip env t

instance : Decidable (HangUpFails env t) := inferInstanceAs (Decidable (ite _ _ _))

/-- `RejectCall` fails: no call rings, or the policy or the handler refuses. -/
def RejectFails : Prop :=
  CallStore.getOneCallObject t.calls .ringing = none ∨
    if rejectCallPolicy t.calls t.call.callId = .telephonySuccess then
      env.handler (.rejectCall t.call.callId) ≠ .telephonySuccess
    else ¬ GoesToVoip env t

instance : Decidable (RejectFails env t) := inferInstanceAs (Decidable (_ ∨ ite _ _ _))

/-- The call is gone from the store, and the loop reads it. -/
def Gone : Occasion → Prop
  | .carrierAnswered => t.calls.lookup t.call.callId = none
  | _ => False

/-- The answer of a carrier call passes over a VoIP call that may be hung up but neither
    comes in nor is being dialed. -/
def PassedOver : Occasion → Prop
  | .carrierAnswered =>
    ∃ it ∈ t.calls.lookup t.call.callId,
      it.callState ∉ [TelCallState.active, .incoming, .dialing] ∧
        hangUpPolicy t.calls t.call.callId = .telephonySuccess
  | _ => False

/-- The request of the turn fails. -/
def Fails : Occasion → Prop
  | .voipAnswered => HangUpFails env t
  | .voipOffHook =>
    t.call.callType = .voip ∧ t.call.callState ≠ .active ∧
      if t.call.callState = .incoming then RejectFails env t else HangUpFails env t
  | .carrierAnswered =>
    match t.calls.lookup t.call.callId with
    | none => True
    | some it =>
      (it.callState = .incoming ∧ RejectFails env t) ∨
        (it.callState = .dialing ∧ HangUpFails env t)

instance (occasion : Occasion) : Decidable (Fails env t occasion) := by
  cases occasion <;> unfold Fails
  · infer_instance
  · infer_instance
  · generalize t.calls.lookup t.call.callId = found
    cases found <;> infer_instance

instance (occasion : Occasion) : Decidable (Gone t occasion) := by
  cases occasion <;> unfold Gone <;> infer_instance

instance (occasion : Occasion) : Decidable (Due t occasion) := by
  cases occasion <;> unfold Due <;> infer_instance

instance (occasion : Occasion) : Decidable (PassedOver t occasion) := by
  cases occasion <;> unfold PassedOver <;> infer_instance

end Condition

/-! ## One turn -/

/-- A turn of the loop of an occasion. -/
def Occasion.turn (env : ControlEnv) : Occasion → Turn → TurnResult
  | .voipAnswered => hangUpTurn env
  | .voipOffHook => hangUpVoipTurn env
  | .carrierAnswered => conflictTurn env

/-- What a request for the call of a turn comes to: it is a success unless `fails`, it
    ends the call once if `due`, and it ends no other call. -/
structure Asks (t : Turn) (due fails : Prop) (r : TurnResult) : Prop where
  goesOn : fails ↔ ¬ GoesOn r.1
  nonNull : r.1 ≠ none
  own : due → r.2.countP (ControlEvent.ends t.call.callId) = 1
  other : ∀ callId ≠ t.call.callId, r.2.countP (ControlEvent.ends callId) = 0

variable {env : ControlEnv} {t : Turn}

/-- A turn that asks for the end of no call. -/
theorem asks_of_silent {due fails : Prop} {ret : ErrorCode} {sent : List ControlEvent}
    (hdue : ¬ due) (hfails : fails ↔ ret ≠ .telephonySuccess)
    (hsent : ∀ callId, sent.countP (ControlEvent.ends callId) = 0) :
    Asks t due fails (some ret, sent) :=
  ⟨hfails.trans (by simp [GoesOn]), nofun, fun h => absurd h hdue, fun callId _ => hsent callId⟩

/-- A turn that sends one event, which asks for the end of its own call. -/
theorem asks_of_sends {due fails : Prop} {ret : ErrorCode} {event : ControlEvent}
    (hfails : fails ↔ ret ≠ .telephonySuccess)
    (hends : ∀ callId, event.ends callId = decide (t.call.callId = callId)) :
    Asks t due fails (some ret, [event]) := by
  refine ⟨hfails.trans (by simp [GoesOn]), nofun, fun _ => ?_, fun callId hne => ?_⟩
  · simp [hends]
  · simp [hends, hne.symm]

theorem Asks.congr {due due' fails fails' : Prop} {r : TurnResult} (h : Asks t due fails r)
    (hdue : due' → due) (hfails : fails' ↔ fails) : Asks t due' fails' r :=
  ⟨hfails.trans h.goesOn, h.nonNull, fun hd => h.own (hdue hd), h.other⟩

/-- A call that is being dialed may be hung up. -/
theorem hangUpPolicy_of_dialing {calls : CallStore} {callId : ℤ} {it : ControlCall}
    (hit : calls.lookup callId = some it) (hstate : it.callState = .dialing) :
    hangUpPolicy calls callId = .telephonySuccess := by
  have hmem : calls.Mem callId := (OrderedMap.mem_iff_lookup calls callId).mpr (by rw [hit]; rfl)
  have hcalled : CallStore.getCallState calls callId = .dialing := by
    unfold CallStore.getCallState
    rw [hit]
    exact hstate
  unfold hangUpPolicy
  rw [if_neg (not_not.mpr hmem), hcalled]
  exact if_neg (by decide)

theorem hungUpId_eq (calls : CallStore) (call : ControlCall) :
    hungUpId calls call.callId = call.callId := if_neg call.numbered

/-- A turn of `SetVoIPCallState`. -/
theorem asks_hangUpTurn (env : ControlEnv) (t : Turn) :
    Asks t (hangUpPolicy t.calls t.call.callId = .telephonySuccess) (HangUpFails env t)
      (hangUpTurn env t) := by
  unfold hangUpTurn hangUpCall Requested.turn HangUpFails
  rw [hungUpId_eq]
  dsimp only
  rw [if_neg t.call.numbered]
  by_cases hpolicy : hangUpPolicy t.calls t.call.callId = .telephonySuccess
  · rw [if_neg (not_not.mpr hpolicy), if_pos hpolicy]
    by_cases hpending : env.hasPendingMo t.call.callId = true
    · rw [if_pos hpending, hpending]
      exact asks_of_sends (iff_of_false (fun h => nomatch h.1) (not_not.mpr rfl)) fun _ => rfl
    · rw [if_neg hpending]
      exact asks_of_sends (and_iff_right (Bool.eq_false_iff.mpr hpending)) fun _ => rfl
  · rw [if_pos hpolicy, if_neg hpolicy]
    by_cases hvoip : voipCallMinimum ≤ t.call.callId ∧ env.isVoipCallExist = true
    · rw [if_pos hvoip]
      exact asks_of_silent hpolicy (iff_of_false (not_not.mpr hvoip) (not_not.mpr rfl))
        fun _ => rfl
    · rw [if_neg hvoip]
      exact asks_of_silent hpolicy (iff_of_true hvoip hpolicy) fun _ => rfl

/-- A turn that rejects its call. -/
theorem asks_rejectConflict (env : ControlEnv) (t : Turn) :
    Asks t (rejectCallPolicy t.calls t.call.callId = .telephonySuccess) (RejectFails env t)
      (rejectConflict env t.calls t.call.callId) := by
  unfold rejectConflict rejectCall Requested.turn RejectFails
  cases hringing : CallStore.getOneCallObject t.calls .ringing with
  | none =>
    refine asks_of_silent (fun hpolicy => ?_) (iff_of_true (.inl rfl) nofun) fun _ => rfl
    obtain ⟨-, call, hcall⟩ := exists_ringing hpolicy
    exact absurd (hcall.symm.trans hringing) nofun
  | some call =>
    dsimp only
    rw [if_neg t.call.numbered]
    by_cases hpolicy : rejectCallPolicy t.calls t.call.callId = .telephonySuccess
    · rw [if_neg (not_not.mpr hpolicy), if_pos hpolicy, or_iff_right nofun]
      by_cases htaken : env.handler (.rejectCall t.call.callId) = .telephonySuccess
      · rw [if_neg (not_not.mpr htaken), if_neg nofun]
        exact asks_of_sends (iff_of_false (not_not.mpr htaken) (not_not.mpr rfl)) fun _ => rfl
      · rw [if_pos htaken]
        exact asks_of_sends Iff.rfl fun _ => rfl
    · rw [if_pos hpolicy, if_neg hpolicy, or_iff_right nofun]
      by_cases hvoip : voipCallMinimum ≤ t.call.callId ∧ env.isVoipCallExist = true
      · rw [if_pos hvoip]
        exact asks_of_silent hpolicy (iff_of_false (not_not.mpr hvoip) (not_not.mpr rfl))
          fun _ => rfl
      · rw [if_neg hvoip]
        exact asks_of_silent hpolicy (iff_of_true hvoip hpolicy) fun _ => rfl

/-- A turn of each of the three loops. -/
theorem asks_turn (env : ControlEnv) (t : Turn) (occasion : Occasion) (hgone : ¬ Gone t occasion) :
    Asks t (Due t occasion ∧ ¬ PassedOver t occasion) (Fails env t occasion)
      (occasion.turn env t) := by
  cases occasion with
  | voipAnswered => exact (asks_hangUpTurn env t).congr And.left Iff.rfl
  | voipOffHook =>
    suffices h : Asks t (Due t .voipOffHook) (Fails env t .voipOffHook) (hangUpVoipTurn env t) from
      h.congr And.left Iff.rfl
    unfold hangUpVoipTurn Due Fails MayBeEnded
    by_cases hvoip : t.call.callType ≠ .voip
    · rw [if_pos hvoip]
      exact asks_of_silent (fun h => hvoip h.1)
        (iff_of_false (fun h => hvoip h.1) (not_not.mpr rfl)) fun _ => rfl
    rw [if_neg hvoip, and_iff_right (not_not.mp hvoip), and_iff_right (not_not.mp hvoip)]
    by_cases hactive : t.call.callState = .active
    · rw [if_pos hactive]
      exact asks_of_silent (fun h => h.1 hactive)
        (iff_of_false (fun h => h.1 hactive) (not_not.mpr rfl)) fun _ => rfl
    rw [if_neg hactive, and_iff_right hactive, and_iff_right hactive]
    by_cases hincoming : t.call.callState = .incoming
    · rw [if_pos hincoming, if_pos hincoming, if_pos hincoming]
      exact asks_rejectConflict env t
    · rw [if_neg hincoming, if_neg hincoming, if_neg hincoming]
      exact asks_hangUpTurn env t
  | carrierAnswered =>
    show Asks t (Due t .carrierAnswered ∧ ¬ PassedOver t .carrierAnswered)
      (Fails env t .carrierAnswered) (conflictTurn env t)
    unfold conflictTurn Due Fails PassedOver
    cases hfound : t.calls.lookup t.call.callId with
    | none => exact absurd hfound hgone
    | some it =>
      dsimp only
      by_cases hincoming : it.callState = .incoming
      · rw [if_pos hincoming]
        have hpolicy : rejectCallPolicy t.calls t.call.callId = .telephonySuccess :=
          rejectCallPolicy_success_iff.mpr ⟨it, hfound, .inl hincoming⟩
        refine (asks_rejectConflict env t).congr (fun _ => hpolicy) ?_
        rw [hincoming]
        exact ⟨fun h => h.elim And.right nofun, fun h => .inl ⟨rfl, h⟩⟩
      rw [if_neg hincoming]
      by_cases hdialing : it.callState = .dialing
      · rw [if_pos hdialing]
        refine (asks_hangUpTurn env t).congr (fun _ => hangUpPolicy_of_dialing hfound hdialing) ?_
        exact ⟨fun h => h.elim (fun h => absurd h.1 hincoming) And.right, fun h =>
          .inr ⟨hdialing, h⟩⟩
      · rw [if_neg hdialing]
        refine asks_of_silent ?_ (iff_of_false ?_ (not_not.mpr rfl)) fun _ => rfl
        · rintro ⟨⟨_, hit, hactive, hmay⟩, hpassed⟩
          cases hit
          have hpolicy := (if_neg hincoming).mp hmay
          exact hpassed ⟨it, rfl, by simp [hactive, hincoming, hdialing], hpolicy⟩
        · exact fun h => h.elim (fun h => hincoming h.1) fun h => hdialing h.1

/-- The turn of a call that is gone: nothing is sent, and the null call is dereferenced. -/
theorem turn_of_gone {occasion : Occasion} (hgone : Gone t occasion) :
    occasion.turn env t = (none, []) := by
  cases occasion with
  | carrierAnswered =>
    show conflictTurn env t = (none, [])
    unfold conflictTurn
    rw [show t.calls.lookup t.call.callId = none from hgone]
  | _ => exact hgone.elim

/-- A call that is passed over is to be ended, and its turn sends nothing. -/
theorem due_of_passedOver {occasion : Occasion} (hpassed : PassedOver t occasion) :
    Due t occasion ∧ (occasion.turn env t).2 = [] := by
  cases occasion with
  | carrierAnswered =>
    obtain ⟨it, hit, hstate, hpolicy⟩ := hpassed
    rw [List.mem_cons, List.mem_cons, List.mem_singleton, not_or, not_or] at hstate
    obtain ⟨hactive, hincoming, hdialing⟩ := hstate
    refine ⟨⟨it, hit, hactive, (if_neg hincoming).mpr hpolicy⟩, ?_⟩
    show (conflictTurn env t).2 = []
    unfold conflictTurn
    rw [show t.calls.lookup t.call.callId = some it from hit]
    dsimp only
    rw [if_neg hincoming, if_neg hdialing]
  | _ => exact hpassed.elim

/-- What a turn comes to, whether its call is gone or not. -/
theorem turn_spec (env : ControlEnv) (t : Turn) (occasion : Occasion) :
    (Fails env t occasion ↔ ¬ GoesOn (occasion.turn env t).1) ∧
      (Gone t occasion ↔ (occasion.turn env t).1 = none) ∧
      (Due t occasion → ¬ PassedOver t occasion →
        (occasion.turn env t).2.countP (ControlEvent.ends t.call.callId) = 1) ∧
      ∀ callId ≠ t.call.callId,
        (occasion.turn env t).2.countP (ControlEvent.ends callId) = 0 := by
  by_cases hgone : Gone t occasion
  · rw [turn_of_gone hgone]
    have hfails : Fails env t occasion ∧ ¬ Due t occasion := by
      cases occasion with
      | carrierAnswered =>
        have hnone : t.calls.lookup t.call.callId = none := hgone
        unfold Fails Due
        rw [hnone]
        refine ⟨trivial, ?_⟩
        rintro ⟨_, h, -⟩
        cases h
      | _ => exact hgone.elim
    exact ⟨iff_of_true hfails.1 nofun, iff_of_true hgone rfl, fun h => absurd h hfails.2,
      fun _ _ => rfl⟩
  · have h := asks_turn env t occasion hgone
    exact ⟨h.goesOn, iff_of_false hgone h.nonNull, fun hdue hpassed => h.own ⟨hdue, hpassed⟩,
      h.other⟩

/-! ## The loops -/

/-- The turns of calls with distinct ids do not end each other's calls. -/
theorem apart_turns {occasion : Occasion} {turns : List Turn}
    (hids : (turns.map (·.call.callId)).Nodup) :
    Apart (fun t : Turn => ControlEvent.ends t.call.callId) (occasion.turn env) turns := by
  refine (List.pairwise_map.mp hids).imp fun {s t} hne => ⟨?_, ?_⟩
  · exact (turn_spec env t occasion).2.2.2 s.call.callId hne
  · exact (turn_spec env s occasion).2.2.2 t.call.callId hne.symm

/-- A loop is as specified iff it passes over no call and its list is clear. -/
theorem endsEach_loop_iff (env : ControlEnv) (occasion : Occasion) (turns : List Turn)
    (hids : (turns.map (·.call.callId)).Nodup) :
    EndsEach occasion turns (requestLoop (occasion.turn env) turns) ↔
      (∀ t ∈ turns, ¬ PassedOver t occasion) ∧
        Clear (Gone · occasion) (Fails env · occasion) (Due · occasion) turns := by
  have hskips : ∀ t ∈ turns, PassedOver t occasion →
      Due t occasion ∧
        (occasion.turn env t).2.countP (ControlEvent.ends t.call.callId) = 0 := by
    intro t _ hpassed
    obtain ⟨hdue, hsent⟩ := @due_of_passedOver env t occasion hpassed
    exact ⟨hdue, by rw [hsent]; rfl⟩
  have hloop := @StopLoop.served_iff_of_skips _ _ _ GoesOn _ (occasion.turn env)
    (some ErrorCode.telephonySuccess) (fun t => ControlEvent.ends t.call.callId) (· = none)
    (Fails env · occasion) (Due · occasion) (PassedOver · occasion) _ turns nofun
    (fun r hnone hgo => by rw [hnone] at hgo; cases hgo) (fun t _ => (turn_spec env t occasion).1)
    (fun t _ => (turn_spec env t occasion).2.2.1) hskips (apart_turns hids)
  refine hloop.trans (and_congr_right fun _ =>
    StopLoop.clear_congr (fun t _ => ?_) (fun _ _ => Iff.rfl) fun _ _ => Iff.rfl)
  exact (turn_spec env t occasion).2.1.symm

/-- **Ending all calls that conflict.** Whatever the calls, what the handler returns and what
    becomes of the store meanwhile: each call that is to be ended gets exactly one request, and
    no null call is dereferenced, iff none is passed over and the list is clear. -/
theorem bulkHangUp_iff (env : ControlEnv) (w : ControlWorld) (occasion : Occasion)
    (carrierId : ℤ) (turns : List Turn) (hids : (turns.map (·.call.callId)).Nodup)
    (hcarrier : occasion = .carrierAnswered →
      ∃ call, w.calls.lookup carrierId = some call ∧ IsCarrier call) :
    EndsEach occasion turns (occasion.run env w carrierId turns) ↔
      (∀ t ∈ turns, ¬ PassedOver t occasion) ∧
        Clear (Gone · occasion) (Fails env · occasion) (Due · occasion) turns := by
  rw [← endsEach_loop_iff env occasion turns hids]
  cases occasion with
  | voipAnswered => exact Iff.rfl
  | voipOffHook =>
    -- `SetVoIPCallState` drops the result of `HangUpVoipCall`
    have hnonNull : (requestLoop (Occasion.voipOffHook.turn env) turns).1 ≠ none :=
      StopLoop.stopLoop_result (P := (· ≠ none)) nofun fun t _ =>
        mt (turn_spec env t .voipOffHook).2.1.mpr id
    exact and_congr_left' (iff_of_true nofun hnonNull)
  | carrierAnswered =>
    obtain ⟨call, hcall, htype⟩ := hcarrier rfl
    have hrun : Occasion.carrierAnswered.run env w carrierId turns =
        requestLoop (Occasion.carrierAnswered.turn env) turns := by
      unfold Occasion.run carrierAndVoipConflictProcess
      rw [hcall]
      exact if_pos htype
    rw [hrun]

/-- A VoIP call that is being dialed, and one that is disconnecting. -/
def dialingThenDisconnecting : CallStore := twoCalls (.voip, .dialing) (.voip, .disconnecting)

theorem dialing_call_ended :
    EndsEach .voipOffHook (turnsOf dialingThenDisconnecting dialingThenDisconnecting.entries)
      (Occasion.voipOffHook.run takingEnv heldBesideRinging 0
        (turnsOf dialingThenDisconnecting dialingThenDisconnecting.entries)) :=
  (bulkHangUp_iff takingEnv heldBesideRinging .voipOffHook 0 _ (by decide) nofun).mpr (by decide)

/-- A call that is disconnecting, and one that is active. -/
def disconnectingThenActive : CallStore := twoCalls (.ims, .disconnecting) (.ims, .active)

/-- The loop stops at the first call, and the second one is not hung up. -/
theorem disconnecting_first :
    ¬ ∀ (env : ControlEnv) (w : ControlWorld) (carrierId : ℤ) (turns : List Turn),
      (turns.map (·.call.callId)).Nodup →
        EndsEach .voipAnswered turns (Occasion.voipAnswered.run env w carrierId turns) := by
  intro hall
  obtain ⟨-, hserved⟩ := hall takingEnv heldBesideRinging 0
    (turnsOf disconnectingThenActive disconnectingThenActive.entries) (by decide)
  have hone := hserved ⟨callIn .ims 1 .active, disconnectingThenActive⟩
    (List.mem_cons_of_mem _ List.mem_cons_self) (by decide)
  exact absurd hone (by decide)

end CallManager.CallControl
