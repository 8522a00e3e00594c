import CallManager.InteroperableSlots
import CallManager.Library.Run

/-!
# The tokens of recorded calls

An application that is to record a call asks for a token with `MakeCallWithToken`,
which leaves the token with the number in a list of at most three, one for each
application, and opens the dialer of the user. `DialCall` takes the first token for
its number out of the list and hands it on to the outgoing call;
`CheckCallRecordingPermission` asks for the token of an active call. A token is good
for ten minutes. When the dialer does not open, the request takes its token back: it
takes out the first token for the number.

The list is guarded by a mutex, but a request is two sections of it, before and after
the dialer is opened. The requests are numbered here in the order in which their
tokens are stored; the numbers and the lists of what happened are not part of the
code.

Results:
* `tokens_sound`: over every run, at most three tokens are kept, one for each
  application; each dial takes a token that was asked for with its own number less
  than ten minutes before, and no token serves two dials; a recording is permitted
  only by such a token.
* `ticketsKept_iff`: over every run, the list is what it should be, where a request
  that fails takes its own token back and no other, iff no request that fails finds
  a token of another request first.

**Deviation.** `MakeCallWithToken` takes its token back by the number, not by the token.
-/

namespace CallManager

namespace ChallengeTokens

/-! ## Model -/

/-- `ACCOUNT_NUMBER_MAX_LENGTH` (call_manager_base.h:54). -/
def accountNumberMaxLength : ℕ := 255

/-- `MAX_CHALLENGE_TOKEN_COUNT` (challenge_token_manager.h:48). -/
def maxChallengeTokenCount : ℕ := 3

/-- `CHALLENGE_TOKEN_EXPIRE_MINUTES` (challenge_token_manager.h:49). -/
def challengeTokenExpireMinutes : ℕ := 10

/-- `ChallengeToken` (challenge_token_manager.h:29-35), with the number of its request. The time
    is in milliseconds of the steady clock. -/
structure ChallengeToken where
  request : ℕ
  token : ByteString
  phoneNumber : ByteString
  uid : ℤ
  isCustomAccessibility : Bool
  createTime : ℕ
  deriving DecidableEq, Repr

/-- The test of `CleanupExpiredChallengeTokensUnsafe`: the age in whole minutes. -/
def IsExpired (now : ℕ) (tc : ChallengeToken) : Prop :=
  challengeTokenExpireMinutes ≤ (now - tc.createTime) / 60000

instance (now : ℕ) (tc : ChallengeToken) : Decidable (IsExpired now tc) :=
  inferInstanceAs (Decidable (_ ≤ _))

/-- `CleanupExpiredChallengeTokensUnsafe` (challenge_token_manager.cpp:66-73). -/
def cleanupExpired (now : ℕ) (challengeTokenList : List ChallengeToken) : List ChallengeToken :=
  challengeTokenList.filter fun tc => ¬ IsExpired now tc

/-- The first entry of the application is written over. -/
def updateUid (challenge : ChallengeToken) : List ChallengeToken → List ChallengeToken
  | [] => []
  | tc :: rest =>
    if tc.uid = challenge.uid then challenge :: rest else tc :: updateUid challenge rest

/-- `TryUpdateChallengeTokenList` (challenge_token_manager.cpp:28-50). -/
def tryUpdateChallengeTokenList (now : ℕ) (challenge : ChallengeToken)
    (challengeTokenList : List ChallengeToken) : Bool × List ChallengeToken :=
  let l := cleanupExpired now challengeTokenList
  if ∃ tc ∈ l, tc.uid = challenge.uid then (true, updateUid challenge l)
  else if maxChallengeTokenCount ≤ l.length then (false, l)
  else (true, l ++ [challenge])

/-- `PopChallengeTokenByPhone` (challenge_token_manager.cpp:52-64). -/
def popChallengeTokenByPhone (now : ℕ) (phoneNumber : ByteString)
    (challengeTokenList : List ChallengeToken) : Option ChallengeToken × List ChallengeToken :=
  let l := cleanupExpired now challengeTokenList
  (l.find? fun tc => tc.phoneNumber = phoneNumber,
    l.eraseP fun tc => tc.phoneNumber = phoneNumber)

/-- A `DialCall`: its number, its time, and the token that `FillExtrasFromChallengeToken` found. -/
structure Dial where
  number : ByteString
  time : ℕ
  challenge : Option ChallengeToken

/-- The extras `isCustomAccessibility` and `token` of a dial, as `FillExtrasFromChallengeToken`
    leaves them (challenge_token_manager.cpp:75-83). -/
def Dial.extras (d : Dial) : Bool × ByteString :=
  match d.challenge with
  | none => (false, [])
  | some challenge => (challenge.isCustomAccessibility, challenge.token)

/-- An outgoing call: `accountNumber_`, whether it is active, and `token_`. -/
structure TokenCall where
  accountNumber : ByteString
  isActive : Bool
  token : ByteString

/-- The service: the time, the list, the requests that wait for the dialer, the token in
    `dialSrcInfo_`, and the calls; with all requests, and all dials, so far. -/
structure TokenWorld where
  now : ℕ
  challengeTokenList : List ChallengeToken
  waiting : List ChallengeToken
  dialSrcToken : ByteString
  calls : List TokenCall
  requests : List ChallengeToken
  dials : List Dial

/-- What happens next. The token is what `GenerateToken` returns; `packaged` says that a
    dial passes the permission and the policies; the index chooses the thread or call. -/
inductive TokenOp
  | tick (ms : ℕ)
  | makeCallWithToken (number : ByteString) (uid : ℤ) (isCustomAccessibility : Bool)
      (hexToken : ByteString)
  | startAbilityReturned (thread : ℕ) (ok : Bool)
  | dialCall (number : ByteString) (packaged : Bool)
  | outgoingCall (accountNumber : ByteString)
  | callState (call : ℕ) (isActive : Bool)
  | callEnded (call : ℕ)

namespace TokenWorld

variable (w : TokenWorld)

/-- `MakeCallWithToken` up to the dialer (call_manager_service.cpp:2083-2106). -/
def makeCallWithToken (number : ByteString) (uid : ℤ) (isCustomAccessibility : Bool)
    (hexToken : ByteString) : TokenWorld :=
  if hexToken = [] then w
  else if number = [] ∨ accountNumberMaxLength < number.length then w
  else
    let challenge : ChallengeToken :=
      ⟨w.requests.length, hexToken, number, uid, isCustomAccessibility, w.now⟩
    match tryUpdateChallengeTokenList w.now challenge w.challengeTokenList with
    | (false, l) => { w with challengeTokenList := l }
    | (true, l) =>
      { w with
        challengeTokenList := l
        waiting := w.waiting ++ [challenge]
        requests := w.requests ++ [challenge] }

/-- `MakeCallWithToken` from the answer of the dialer on (call_manager_service.cpp:2107-2125). -/
def startAbilityReturned (thread : ℕ) (ok : Bool) : TokenWorld :=
  match w.waiting[thread]? with
  | none => w
  | some challenge =>
    { w with
      waiting := w.waiting.eraseIdx thread
      challengeTokenList :=
        if ok then w.challengeTokenList
        else (popChallengeTokenByPhone w.now challenge.phoneNumber w.challengeTokenList).2 }

/-- `DialCall` (call_manager_service.cpp:304-352): the token is taken before the permission is
    checked, and `PackageDialInformation` writes it into `dialSrcInfo_`
    (call_control_manager.cpp:247). -/
def dialCall (number : ByteString) (packaged : Bool) : TokenWorld :=
  let popped := popChallengeTokenByPhone w.now number w.challengeTokenList
  let dial : Dial := ⟨number, w.now, popped.1⟩
  { w with
    challengeTokenList := popped.2
    dialSrcToken := if packaged then dial.extras.2 else w.dialSrcToken
    dials := w.dials ++ [dial] }

/-- `GetOneCallObject(phoneNumber)` (call_object_manager.cpp:270-289). -/
def getOneCallObject (phoneNumber : ByteString) : Option TokenCall :=
  if phoneNumber = [] then none
  else w.calls.find? fun it => removePostDialPhoneNumber it.accountNumber = phoneNumber

/-- `CheckCallRecordingPermission` for a caller that may ask
    (call_manager_service.cpp:2127-2166). -/
def checkCallRecordingPermission (cellularRecordPhoneNum cellularRecordToken : ByteString) : Bool :=
  match w.getOneCallObject cellularRecordPhoneNum with
  | none => false
  | some call => call.isActive && call.token != [] && call.token == cellularRecordToken

/-- One step: a section of the mutex, or what happens to a call. An outgoing call is created
    with the token in `dialSrcInfo_` (call_status_manager.cpp:2327-2337). -/
def step : TokenOp → TokenWorld
  | .tick ms => { w with now := w.now + ms }
  | .makeCallWithToken number uid isCustomAccessibility hexToken =>
    w.makeCallWithToken number uid isCustomAccessibility hexToken
  | .startAbilityReturned thread ok => w.startAbilityReturned thread ok
  | .dialCall number packaged => w.dialCall number packaged
  | .outgoingCall accountNumber =>
    { w with calls := w.calls ++ [⟨accountNumber, false, w.dialSrcToken⟩] }
  | .callState call isActive =>
    { w with calls := w.calls.modify call fun it => { it with isActive := isActive } }
  | .callEnded call => { w with calls := w.calls.eraseIdx call }

end TokenWorld

/-- The start of the service. -/
def TokenWorld.start : TokenWorld := ⟨0, [], [], [], [], [], []⟩

/-! ## Specification -/

/-- A dial took this token: asked for with its number less than ten minutes before. -/
structure Dial.Takes (requests : List ChallengeToken) (d : Dial) (c : ChallengeToken) : Prop where
  taken : d.challenge = some c
  asked : requests[c.request]? = some c
  sameNumber : c.phoneNumber = d.number
  made : c.createTime ≤ d.time
  fresh : d.time < c.createTime + 600000

/-- What the tokens of a service must be. -/
structure Sound (w : TokenWorld) : Prop where
  atMostThree : w.challengeTokenList.length ≤ maxChallengeTokenCount
  onePerApplication : (w.challengeTokenList.map (·.uid)).Nodup
  dialsTake : ∀ d ∈ w.dials, ∀ c, d.challenge = some c → d.Takes w.requests c
  usedOnce : (w.dials.filterMap (·.challenge)).Nodup
  permitted : ∀ phone token, w.checkCallRecordingPermission phone token = true →
    ∃ d ∈ w.dials, ∃ c, d.Takes w.requests c ∧ c.token = token

/-- The list as it should be after a step: a request that fails takes back its own token. -/
def ticketsAfter (w : TokenWorld) (tickets : List ChallengeToken) : TokenOp → List ChallengeToken
  | .tick _ | .outgoingCall _ | .callState _ _ | .callEnded _ => tickets
  | .makeCallWithToken number uid isCustomAccessibility hexToken =>
    if hexToken = [] ∨ number = [] ∨ accountNumberMaxLength < number.length then tickets
    else
      (tryUpdateChallengeTokenList w.now
        ⟨w.requests.length, hexToken, number, uid, isCustomAccessibility, w.now⟩ tickets).2
  | .dialCall number _ => (popChallengeTokenByPhone w.now number tickets).2
  | .startAbilityReturned thread ok =>
    match w.waiting[thread]? with
    | none => tickets
    | some challenge =>
      if ok then tickets
      else (cleanupExpired w.now tickets).eraseP fun tc => tc.request = challenge.request

/-- The service beside the list as it should be. -/
def ticketStep (s : TokenWorld × List ChallengeToken) (op : TokenOp) :
    TokenWorld × List ChallengeToken := (s.1.step op, ticketsAfter s.1 s.2 op)

/-- A request that fails finds its own token first, or none for its number. -/
def TakesOwnBack (w : TokenWorld) : TokenOp → Prop
  | .startAbilityReturned thread false =>
    ∀ challenge ∈ w.waiting[thread]?,
      ∀ tc ∈ (popChallengeTokenByPhone w.now challenge.phoneNumber w.challengeTokenList).1,
        tc.request = challenge.request
  | _ => True

/-! ## Lemmas -/

/-- Two tests of which one implies the other erase the same from a list without
    repetitions iff what the weaker one finds first passes the stronger one. -/
theorem eraseP_eq_iff {α : Type*} {p q : α → Bool} {l : List α} (hnodup : l.Nodup)
    (himp : ∀ x ∈ l, p x → q x) :
    l.eraseP p = l.eraseP q ↔ ∀ x ∈ l.find? q, p x = true := by
  induction l with
  | nil => simp
  | cons x rest ih =>
    obtain ⟨hx, hrest⟩ := List.nodup_cons.mp hnodup
    have hrec := ih hrest fun y hy => himp y (List.mem_cons_of_mem x hy)
    by_cases hq : q x
    · by_cases hp : p x
      · simp [hp, hq]
      · have hne : x :: rest.eraseP p ≠ rest := by
          intro h
          rw [← h] at hx
          simp at hx
        simp [hp, hq, hne]
    · have hp : ¬ p x := fun h => hq (himp x List.mem_cons_self h)
      simpa [hp, hq] using hrec

/-- What a list finds first, and the list without it. -/
theorem find?_cons_eraseP_perm {α : Type*} {p : α → Bool} {l : List α} {x : α}
    (h : l.find? p = some x) : (x :: l.eraseP p).Perm l := by
  induction l with
  | nil => simp at h
  | cons y rest ih =>
    by_cases hy : p y
    · simp only [List.find?_cons_of_pos hy, Option.some.injEq] at h
      subst h
      simp [hy]
    · rw [List.find?_cons_of_neg hy] at h
      rw [List.eraseP_cons_of_neg hy]
      exact (List.Perm.swap y x _).trans ((ih h).cons y)

/-! ### The list -/

theorem cleanupExpired_sublist (now : ℕ) (l : List ChallengeToken) :
    (cleanupExpired now l).Sublist l := List.filter_sublist

theorem not_expired_of_mem {now : ℕ} {l : List ChallengeToken} {tc : ChallengeToken}
    (h : tc ∈ cleanupExpired now l) : now < tc.createTime + 600000 := by
  have hexp := (List.mem_filter.mp h).2
  simp only [IsExpired, challengeTokenExpireMinutes, decide_eq_true_eq, not_le] at hexp
  omega

theorem updateUid_perm {challenge : ChallengeToken} {l : List ChallengeToken}
    (h : ∃ tc ∈ l, tc.uid = challenge.uid) :
    (updateUid challenge l).Perm (challenge :: l.eraseP fun tc => tc.uid = challenge.uid) := by
  induction l with
  | nil => simp at h
  | cons tc rest ih =>
    by_cases htc : tc.uid = challenge.uid
    · simp [updateUid, htc]
    · have hrest : ∃ tc ∈ rest, tc.uid = challenge.uid := by simpa [htc] using h
      simp only [updateUid, htc, if_false, decide_false, Bool.false_eq_true, not_false_eq_true,
        List.eraseP_cons_of_neg]
      exact ((ih hrest).cons tc).trans (List.Perm.swap challenge tc _)

/-- After the erasing of one entry of an application none is left. -/
theorem uid_ne_of_mem_eraseP {uid : ℤ} {l : List ChallengeToken}
    (hnodup : (l.map (·.uid)).Nodup) {tc : ChallengeToken}
    (h : tc ∈ l.eraseP fun tc => tc.uid = uid) : tc.uid ≠ uid := by
  induction l with
  | nil => simp at h
  | cons x rest ih =>
    rw [List.map_cons, List.nodup_cons] at hnodup
    by_cases hx : x.uid = uid
    · simp only [hx, decide_true, List.eraseP_cons_of_pos] at h
      intro heq
      apply hnodup.1
      rw [hx, ← heq]
      exact List.mem_map_of_mem h
    · simp only [hx, decide_false, Bool.false_eq_true, not_false_eq_true,
        List.eraseP_cons_of_neg, List.mem_cons] at h
      rcases h with rfl | h
      · exact hx
      · exact ih hnodup.2 h

/-- A token is stored beside entries of other applications, of which there are at most
    two, or is refused. -/
theorem tryUpdate_spec (now : ℕ) (challenge : ChallengeToken) {l : List ChallengeToken}
    (hlength : l.length ≤ maxChallengeTokenCount) (hnodup : (l.map (·.uid)).Nodup) :
    tryUpdateChallengeTokenList now challenge l = (false, cleanupExpired now l) ∨
      ∃ l' kept, tryUpdateChallengeTokenList now challenge l = (true, l') ∧
        l'.Perm (challenge :: kept) ∧ kept.Sublist l ∧ kept.length < maxChallengeTokenCount ∧
        ∀ tc ∈ kept, tc.uid ≠ challenge.uid := by
  have hsub := cleanupExpired_sublist now l
  have hclean : ((cleanupExpired now l).map (·.uid)).Nodup := hnodup.sublist (hsub.map _)
  unfold tryUpdateChallengeTokenList
  dsimp only
  split_ifs with hown hfull
  · refine .inr ⟨_, _, rfl, updateUid_perm hown, List.eraseP_sublist.trans hsub, ?_,
      fun tc => uid_ne_of_mem_eraseP hclean⟩
    obtain ⟨tc, htc, huid⟩ := hown
    have herase := List.length_eraseP_of_mem (p := fun tc => decide (tc.uid = challenge.uid)) htc
      (by simpa using huid)
    have hpos := List.length_pos_of_mem htc
    have hle := hsub.length_le
    omega
  · exact .inl rfl
  · refine .inr ⟨_, cleanupExpired now l, rfl, List.perm_append_singleton _ _, hsub, by omega, ?_⟩
    intro tc htc huid
    exact hown ⟨tc, htc, huid⟩

/-- What a dial takes is fresh and has its number, and is not in the list any more. -/
theorem pop_spec {now : ℕ} {phoneNumber : ByteString} {l : List ChallengeToken}
    {tc : ChallengeToken} (h : (popChallengeTokenByPhone now phoneNumber l).1 = some tc) :
    tc ∈ l ∧ tc.phoneNumber = phoneNumber ∧ now < tc.createTime + 600000 ∧
      (tc :: (popChallengeTokenByPhone now phoneNumber l).2).Perm (cleanupExpired now l) := by
  have hmem := List.mem_of_find?_eq_some h
  refine ⟨(cleanupExpired_sublist now l).subset hmem, ?_, not_expired_of_mem hmem,
    find?_cons_eraseP_perm h⟩
  simpa using List.find?_some h

theorem pop_sublist (now : ℕ) (phoneNumber : ByteString) (l : List ChallengeToken) :
    (popChallengeTokenByPhone now phoneNumber l).2.Sublist l :=
  List.eraseP_sublist.trans (cleanupExpired_sublist now l)

/-! ### The invariant -/

/-- The tokens that dials have taken. -/
def taken (w : TokenWorld) : List ChallengeToken := w.dials.filterMap (·.challenge)

/-- A token comes from a dial that took it. -/
def Taken (w : TokenWorld) (token : ByteString) : Prop :=
  ∃ d ∈ w.dials, ∃ c, d.Takes w.requests c ∧ c.token = token

/-- What every step keeps: a token is in one place, as it was asked for, and whatever token
    is in `dialSrcInfo_` or on a call was taken by a dial. -/
structure Inv (w : TokenWorld) : Prop where
  atMostThree : w.challengeTokenList.length ≤ maxChallengeTokenCount
  onePerApplication : (w.challengeTokenList.map (·.uid)).Nodup
  listed : ∀ tc ∈ w.challengeTokenList, w.requests[tc.request]? = some tc ∧ tc.createTime ≤ w.now
  waitingAsked : ∀ tc ∈ w.waiting, w.requests[tc.request]? = some tc
  dialsTake : ∀ d ∈ w.dials, ∀ c, d.challenge = some c → d.Takes w.requests c
  oncePlaced : (w.challengeTokenList ++ taken w).Nodup
  slot : w.dialSrcToken ≠ [] → Taken w w.dialSrcToken
  onCalls : ∀ call ∈ w.calls, call.token ≠ [] → Taken w call.token

theorem inv_start : Inv .start := by
  constructor <;> simp [TokenWorld.start, taken]

/-- A request keeps its number when further requests come. -/
theorem Dial.Takes.append {requests : List ChallengeToken} {d : Dial} {c : ChallengeToken}
    (h : d.Takes requests c) (more : List ChallengeToken) : d.Takes (requests ++ more) c := by
  obtain ⟨hlt, -⟩ := List.getElem?_eq_some_iff.mp h.asked
  have hasked : (requests ++ more)[c.request]? = some c := by
    rw [List.getElem?_append_left hlt]
    exact h.asked
  exact { h with asked := hasked }

/-- Fewer tokens in the list, and other things that no token depends on. -/
theorem Inv.of_sublist {w w' : TokenWorld} (hw : Inv w)
    (hlist : w'.challengeTokenList.Sublist w.challengeTokenList) (hnow : w.now ≤ w'.now)
    (hwaiting : w'.waiting ⊆ w.waiting) (hrequests : w'.requests = w.requests)
    (hdials : w'.dials = w.dials) (hslot : w'.dialSrcToken = w.dialSrcToken)
    (hcalls : ∀ call ∈ w'.calls, call.token = w.dialSrcToken ∨
      ∃ it ∈ w.calls, call.token = it.token) : Inv w' where
  atMostThree := hlist.length_le.trans hw.atMostThree
  onePerApplication := hw.onePerApplication.sublist (hlist.map _)
  listed := by
    intro tc htc
    obtain ⟨hasked, hmade⟩ := hw.listed tc (hlist.subset htc)
    exact ⟨hrequests ▸ hasked, hmade.trans hnow⟩
  waitingAsked := fun tc htc => hrequests ▸ hw.waitingAsked tc (hwaiting htc)
  dialsTake := by
    rw [hdials, hrequests]
    exact hw.dialsTake
  oncePlaced := by
    rw [taken, hdials]
    exact hw.oncePlaced.sublist (hlist.append_right _)
  slot := by
    rw [Taken, hdials, hrequests, hslot]
    exact hw.slot
  onCalls := by
    intro call hcall htoken
    rw [Taken, hdials, hrequests]
    rcases hcalls call hcall with heq | ⟨it, hit, heq⟩
    · rw [heq] at htoken ⊢
      exact hw.slot htoken
    · rw [heq] at htoken ⊢
      exact hw.onCalls it hit htoken

theorem inv_makeCallWithToken {w : TokenWorld} (hw : Inv w) (number : ByteString) (uid : ℤ)
    (isCustomAccessibility : Bool) (hexToken : ByteString) :
    Inv (w.makeCallWithToken number uid isCustomAccessibility hexToken) := by
  unfold TokenWorld.makeCallWithToken
  split_ifs
  · exact hw
  · exact hw
  dsimp only
  set challenge : ChallengeToken :=
    ⟨w.requests.length, hexToken, number, uid, isCustomAccessibility, w.now⟩
  rcases tryUpdate_spec w.now challenge hw.atMostThree hw.onePerApplication with
    hfull | ⟨l', kept, hstored, hperm, hkept, hroom, huid⟩
  · rw [hfull]
    exact hw.of_sublist (cleanupExpired_sublist _ _) le_rfl (List.Subset.refl _) rfl rfl rfl
      fun call hcall => .inr ⟨call, hcall, rfl⟩
  · rw [hstored]
    dsimp only
    have hnew : (w.requests ++ [challenge])[challenge.request]? = some challenge := by
      simp [challenge]
    have hold : ∀ tc : ChallengeToken, w.requests[tc.request]? = some tc →
        (w.requests ++ [challenge])[tc.request]? = some tc := by
      intro tc htc
      obtain ⟨hlt, -⟩ := List.getElem?_eq_some_iff.mp htc
      rw [List.getElem?_append_left hlt, htc]
    have hnotAsked : ∀ tc : ChallengeToken, w.requests[tc.request]? = some tc → tc ≠ challenge := by
      rintro tc htc rfl
      obtain ⟨hlt, -⟩ := List.getElem?_eq_some_iff.mp htc
      simp [challenge] at hlt
    have htaken : ∀ {token}, Taken w token → ∃ d ∈ w.dials, ∃ c,
        d.Takes (w.requests ++ [challenge]) c ∧ c.token = token := by
      rintro token ⟨d, hd, c, hc, htoken⟩
      exact ⟨d, hd, c, hc.append _, htoken⟩
    constructor
    · show l'.length ≤ _
      rw [hperm.length_eq, List.length_cons]
      omega
    · show (l'.map _).Nodup
      rw [(hperm.map _).nodup_iff, List.map_cons, List.nodup_cons]
      refine ⟨?_, hw.onePerApplication.sublist (hkept.map _)⟩
      intro hmem
      obtain ⟨tc, htc, heq⟩ := List.mem_map.mp hmem
      exact huid tc htc heq
    · intro tc htc
      rcases List.mem_cons.mp (hperm.subset htc) with rfl | htc
      · exact ⟨hnew, le_rfl⟩
      · obtain ⟨hasked, hmade⟩ := hw.listed tc (hkept.subset htc)
        exact ⟨hold tc hasked, hmade⟩
    · intro tc htc
      rcases List.mem_append.mp htc with htc | htc
      · exact hold tc (hw.waitingAsked tc htc)
      · rw [List.mem_singleton.mp htc]
        exact hnew
    · intro d hd c hc
      exact (hw.dialsTake d hd c hc).append _
    · show (l' ++ taken w).Nodup
      rw [(hperm.append_right _).nodup_iff, List.cons_append, List.nodup_cons]
      refine ⟨?_, hw.oncePlaced.sublist (hkept.append_right _)⟩
      intro hmem
      rcases List.mem_append.mp hmem with hmem | hmem
      · exact hnotAsked _ (hw.listed _ (hkept.subset hmem)).1 rfl
      · obtain ⟨d, hd, hc⟩ := List.mem_filterMap.mp hmem
        exact hnotAsked _ (hw.dialsTake d hd _ hc).asked rfl
    · intro h
      exact htaken (hw.slot h)
    · intro call hcall h
      exact htaken (hw.onCalls call hcall h)

theorem inv_dialCall {w : TokenWorld} (hw : Inv w) (number : ByteString) (packaged : Bool) :
    Inv (w.dialCall number packaged) := by
  have hsub := pop_sublist w.now number w.challengeTokenList
  set popped := popChallengeTokenByPhone w.now number w.challengeTokenList with hpopped
  have htakes : ∀ c, popped.1 = some c →
      (⟨number, w.now, popped.1⟩ : Dial).Takes w.requests c := by
    intro c hc
    obtain ⟨hmem, hnumber, hfresh, -⟩ := pop_spec (hpopped ▸ hc)
    obtain ⟨hasked, hmade⟩ := hw.listed c hmem
    exact ⟨hc, hasked, hnumber, hmade, hfresh⟩
  have hold : ∀ {token}, Taken w token → Taken (w.dialCall number packaged) token := by
    rintro token ⟨d, hd, hrest⟩
    exact ⟨d, List.mem_append_left _ hd, hrest⟩
  constructor
  · exact hsub.length_le.trans hw.atMostThree
  · exact hw.onePerApplication.sublist (hsub.map _)
  · exact fun tc htc => hw.listed tc (hsub.subset htc)
  · exact hw.waitingAsked
  · intro d hd c hc
    rcases List.mem_append.mp hd with hd | hd
    · exact hw.dialsTake d hd c hc
    · rw [List.mem_singleton.mp hd] at hc ⊢
      exact htakes c hc
  · show (popped.2 ++ (w.dials ++ [_]).filterMap _).Nodup
    rw [List.filterMap_append]
    cases hc : popped.1 with
    | none => simpa [taken] using hw.oncePlaced.sublist (hsub.append_right _)
    | some c =>
      have hperm := (pop_spec (hpopped ▸ hc)).2.2.2
      have hmove : (popped.2 ++ (taken w ++ [c])).Perm (c :: popped.2 ++ taken w) := by
        rw [← List.append_assoc]
        exact List.perm_append_singleton c _
      show (popped.2 ++ (taken w ++ [c])).Nodup
      rw [hmove.nodup_iff, (hperm.append_right _).nodup_iff]
      exact hw.oncePlaced.sublist ((cleanupExpired_sublist _ _).append_right _)
  · intro htoken
    cases packaged with
    | false => exact hold (hw.slot htoken)
    | true =>
      cases hc : popped.1 with
      | none =>
        exfalso
        apply htoken
        show (Dial.extras ⟨number, w.now, popped.1⟩).2 = []
        rw [hc]
        rfl
      | some c =>
        refine ⟨_, List.mem_append_right _ List.mem_cons_self, c, htakes c hc, ?_⟩
        show _ = (Dial.extras ⟨number, w.now, popped.1⟩).2
        rw [hc]
        rfl
  · exact fun call hcall h => hold (hw.onCalls call hcall h)

/-- Every step keeps the invariant. -/
theorem Inv.step {w : TokenWorld} (hw : Inv w) (op : TokenOp) : Inv (w.step op) := by
  have hsame : ∀ call ∈ w.calls, call.token = w.dialSrcToken ∨
      ∃ it ∈ w.calls, call.token = it.token := fun call hcall => .inr ⟨call, hcall, rfl⟩
  cases op with
  | tick ms =>
    exact hw.of_sublist (List.Sublist.refl _) (Nat.le_add_right _ _) (List.Subset.refl _) rfl rfl
      rfl hsame
  | makeCallWithToken number uid isCustomAccessibility hexToken =>
    exact inv_makeCallWithToken hw number uid isCustomAccessibility hexToken
  | startAbilityReturned thread ok =>
    simp only [TokenWorld.step, TokenWorld.startAbilityReturned]
    split
    · exact hw
    · refine hw.of_sublist ?_ le_rfl (List.eraseIdx_subset) rfl rfl rfl hsame
      cases ok
      · exact pop_sublist _ _ _
      · exact List.Sublist.refl _
  | dialCall number packaged => exact inv_dialCall hw number packaged
  | outgoingCall accountNumber =>
    refine hw.of_sublist (List.Sublist.refl _) le_rfl (List.Subset.refl _) rfl rfl rfl ?_
    intro call hcall
    rcases List.mem_append.mp hcall with hcall | hcall
    · exact hsame call hcall
    · rw [List.mem_singleton.mp hcall]
      exact .inl rfl
  | callState index isActive =>
    refine hw.of_sublist (List.Sublist.refl _) le_rfl (List.Subset.refl _) rfl rfl rfl ?_
    intro call hcall
    obtain ⟨i, hi, rfl⟩ := List.mem_iff_getElem.mp hcall
    simp only [TokenWorld.step, List.length_modify] at hi
    refine .inr ⟨w.calls[i], List.getElem_mem hi, ?_⟩
    simp only [TokenWorld.step, List.getElem_modify]
    split <;> rfl
  | callEnded index =>
    refine hw.of_sublist (List.Sublist.refl _) le_rfl (List.Subset.refl _) rfl rfl rfl ?_
    intro call hcall
    exact hsame call (List.eraseIdx_subset hcall)

/-- A recording is permitted only by the token of a call. -/
theorem mem_of_permitted {w : TokenWorld} {phone token : ByteString}
    (h : w.checkCallRecordingPermission phone token = true) :
    ∃ call ∈ w.calls, call.token ≠ [] ∧ call.token = token := by
  unfold TokenWorld.checkCallRecordingPermission at h
  cases hcall : w.getOneCallObject phone with
  | none => simp [hcall] at h
  | some call =>
    simp only [hcall, Bool.and_eq_true, bne_iff_ne, beq_iff_eq] at h
    refine ⟨call, ?_, h.1.2, h.2⟩
    unfold TokenWorld.getOneCallObject at hcall
    split_ifs at hcall
    exact List.mem_of_find?_eq_some hcall

theorem Inv.sound {w : TokenWorld} (hw : Inv w) : Sound w where
  atMostThree := hw.atMostThree
  onePerApplication := hw.onePerApplication
  dialsTake := hw.dialsTake
  usedOnce := hw.oncePlaced.sublist (List.sublist_append_right _ _)
  permitted := by
    intro phone token h
    obtain ⟨call, hcall, hne, rfl⟩ := mem_of_permitted h
    exact hw.onCalls call hcall hne

/-! ### The list as it should be -/

/-- From a list as it should be, a step leads to one iff it takes no other token back. -/
theorem ticketsAfter_eq_iff {w : TokenWorld} (hw : Inv w) (op : TokenOp) :
    ticketsAfter w w.challengeTokenList op = (w.step op).challengeTokenList ↔
      TakesOwnBack w op := by
  cases op with
  | tick | outgoingCall | callState | callEnded => exact iff_of_true rfl trivial
  | dialCall number packaged => exact iff_of_true rfl trivial
  | makeCallWithToken number uid isCustomAccessibility hexToken =>
    refine iff_of_true ?_ trivial
    simp only [ticketsAfter, TokenWorld.step, TokenWorld.makeCallWithToken]
    split_ifs with h h₁ h₂ <;> try rfl
    · simp_all
    · simp_all
    · simp_all
    · split <;> simp_all
  | startAbilityReturned thread ok =>
    simp only [ticketsAfter, TokenWorld.step, TokenWorld.startAbilityReturned]
    cases hthread : w.waiting[thread]? with
    | none => cases ok <;> simp [TakesOwnBack, hthread]
    | some challenge =>
      cases ok with
      | true => simp [TakesOwnBack]
      | false =>
        have hnodup : (cleanupExpired w.now w.challengeTokenList).Nodup :=
          (hw.oncePlaced.sublist (List.sublist_append_left _ _)).sublist
            (cleanupExpired_sublist _ _)
        have hown : ∀ tc ∈ cleanupExpired w.now w.challengeTokenList,
            decide (tc.request = challenge.request) = true →
              decide (tc.phoneNumber = challenge.phoneNumber) = true := by
          intro tc htc hreq
          have hasked := (hw.listed tc ((cleanupExpired_sublist _ _).subset htc)).1
          have hwaits := hw.waitingAsked challenge (List.mem_of_getElem? hthread)
          rw [of_decide_eq_true hreq, hwaits, Option.some.injEq] at hasked
          simp [hasked]
        have hiff := eraseP_eq_iff hnodup hown
        simpa [TakesOwnBack, hthread, popChallengeTokenByPhone] using hiff

/-! ## Main results -/

/-- **The tokens are sound** in every run of requests, dials and calls, whatever the
    order of their sections. -/
theorem tokens_sound (ops : List TokenOp) : Sound (Run.run TokenWorld.step .start ops) :=
  (Run.run_invariant (P := Inv) (fun _ op hw => hw.step op) ops inv_start).sound

/-- **A request that fails takes its own token back**, throughout a run, iff each such
    request finds no token of another request first. -/
theorem ticketsKept_iff (ops : List TokenOp) :
    Run.StatesMeet ticketStep (fun s => s.2 = s.1.challengeTokenList) (.start, []) ops ↔
      Run.StepsMeet ticketStep (fun s op => TakesOwnBack s.1 op) (.start, []) ops := by
  refine Run.statesMeet_iff_stepsMeet_of_invariant (I := fun s => Inv s.1)
    (fun s op hs => hs.step op) ?_ ops inv_start rfl
  intro s op hs htickets
  show ticketsAfter s.1 s.2 op = (s.1.step op).challengeTokenList ↔ _
  rw [htickets]
  exact ticketsAfter_eq_iff hs op

end ChallengeTokens

end CallManager
