import CallManager.CallAttributeCodec
import CallManager.CallBase
import CallManager.Library.Run

/-!
# The detection of spam calls

For an incoming call `ShouldBlockIncomingCall` makes a `SpamCallAdapter`, which connects
to the ability that detects spam calls and waits for its result, up to five seconds; the
call takes the verdict that the adapter has then. Each adapter has a `TimeWaitHelper` of
its own to wait with. The connection is `connection_`, one variable for all adapters:
connecting puts a new connection there, whatever it held, and after its wait an adapter
disconnects what it finds there.

`WaitForResult` looks at `isNotified_` before it takes its mutex, and returns false if it
is set already. `OnResult` parses into a block reason without an initial value, and
the parser leaves without one if the text is no JSON or has no detection result or no
reason; the adapter keeps what is there.

Specification (`DetectionOk`): a wait returns true iff the result of its detection was
delivered before it ended; the verdict that a call takes is the default or was parsed
from a result of its own detection, and its block reason has been assigned; a connection
that was opened is disconnected once, when the wait of its detection is over, and by it.

Any number of detections go on at a time. A wait goes in the steps that its mutex leaves
to others; `wait_until` may report a time-out at any time. The JSON parser and the query
of the yellow pages are parameters. The reminder that a mark may ask for is left out.

Results:
* `detections_ok_iff`: a run is as specified iff no wait begins with the result already
  there or times out with it, each adapter finds its own connection when it disconnects,
  and each call takes its verdict from a result that has a reason.
* `early_result_lost`: a result that is there when the wait begins.
-/

namespace CallManager.SpamDetection

open CallAttributeCodec (NumberMarkInfo)

/-! ## Model -/

/-- The names in the text of a result (spam_call_adapter.cpp:38-48). -/
inductive DetectKey
  | detectResult | decisionReason | markType | markCount | markSource | markContent | isCloud
  | markDetails | detectDetails
  deriving DecidableEq, Repr

/-- What is read from a text that is JSON: its numbers, its texts, and what is true. -/
structure DetectRoot where
  number : DetectKey → Option Int32
  string : DetectKey → Option ByteString
  isTrue : DetectKey → Bool

/-- What is known of a call: whether to block it, its mark, the block reason, which may be
    unassigned, and the details. -/
structure Verdict where
  isBlock : Bool
  info : NumberMarkInfo
  blockReason : Option Int32
  detectDetails : ByteString
  deriving DecidableEq, Repr

/-- What an adapter has at first (spam_call_adapter.h). -/
def Verdict.initial : Verdict := ⟨false, {}, some 0, []⟩

/-- What `OnResult` has at first. -/
def Verdict.unassigned : Verdict := ⟨false, {}, none, []⟩

/-- `JsonGetStringValue`. -/
def DetectRoot.getString (root : DetectRoot) (key : DetectKey) : ByteString :=
  (root.string key).getD []

/-- `ParseMarkResults` (lines 371-405), without the reminder. -/
def parseMarkResults (root : DetectRoot) (v : Verdict) : Verdict :=
  let info := v.info
  let info := { info with markType := (root.number .markType).getD info.markType }
  let info := { info with markCount := (root.number .markCount).getD info.markCount }
  let info :=
    { info with markSource := info.markSource.strncpyS (cString (root.getString .markSource)) }
  let info :=
    { info with markContent := info.markContent.strncpyS (cString (root.getString .markContent)) }
  let info := { info with isCloud := root.isTrue .isCloud }
  let info :=
    { info with markDetails := info.markDetails.strncpyS (cString (root.getString .markDetails)) }
  { v with info := info, detectDetails := root.getString .detectDetails }

/-- `ParseDetectResult` (lines 342-369). -/
def parseDetectResult (parse : ByteString → Option DetectRoot) (jsonData : ByteString)
    (v : Verdict) : Verdict :=
  if jsonData.length = 0 then v
  else
    match parse (cString jsonData) with
    | none => v
    | some root =>
      match root.number .detectResult with
      | none => v
      | some numberValue =>
        let v := { v with isBlock := decide (numberValue = 1) }
        match root.number .decisionReason with
        | none => v
        | some numberValue => parseMarkResults root { v with blockReason := some numberValue }

/-- `DECISION_REASON_TRUSTLIST`. -/
def decisionReasonTrustlist : Int32 := 2

/-- A result that is delivered: its code and text, what stands in the block reason if it
    is not assigned, and the query of the yellow pages then. -/
structure DetectResult where
  errCode : Int32
  result : ByteString
  garbage : Int32
  queryYellowPageAndMarkInfo : ByteString → NumberMarkInfo → NumberMarkInfo

/-- The verdict that `OnResult` sets for a result without error
    (callback_stub_helper.cpp:43-54). -/
def parsedResult (parse : ByteString → Option DetectRoot) (phoneNumber : ByteString)
    (res : DetectResult) : Verdict :=
  let v := parseDetectResult parse res.result .unassigned
  if v.blockReason.getD res.garbage = decisionReasonTrustlist then
    { v with info := res.queryYellowPageAndMarkInfo phoneNumber v.info }
  else v

/-- Where a detection is. -/
inductive Phase
  | idle
  /-- The connection failed, and the call is not detected. -/
  | failed
  | connected
  /-- `WaitForResult` found that it is not notified, and has not its mutex yet. -/
  | checked
  | waiting
  /-- `WaitForResult` returned. -/
  | returned (result : Bool)
  /-- `WaitForDetectResult` returned. -/
  | disconnected (result : Bool)
  | finished
  deriving DecidableEq, Repr

/-- A detection: its adapter, and where it is. `results` are the results delivered to it,
    `waitEnd` is what its wait returned and whether a result was there then, and `used`
    is the verdict that the call took; no step reads these three. -/
structure Detection where
  phoneNumber : ByteString
  isNotified : Bool
  stored : Verdict
  phase : Phase
  results : List DetectResult
  waitEnd : Option (Bool × Bool)
  used : Option Verdict

namespace Detection

/-- An adapter that is made for a number. -/
def init (phoneNumber : ByteString) (phase : Phase) : Detection :=
  ⟨phoneNumber, false, .initial, phase, [], none, none⟩

/-- `CallbackStubHelper::OnResult` (callback_stub_helper.cpp:35-60). -/
def onResult (parse : ByteString → Option DetectRoot) (d : Detection) (res : DetectResult) :
    Detection :=
  let d := { d with results := d.results ++ [res] }
  let d := if res.errCode = 0 then { d with stored := parsedResult parse d.phoneNumber res } else d
  { d with isNotified := true }

/-- `WaitForResult` returns. -/
def endWait (d : Detection) (result : Bool) : Detection :=
  { d with phase := .returned result, waitEnd := some (result, d.isNotified) }

/-- The connection was opened. -/
def opened (d : Detection) : Bool :=
  match d.phase with
  | .idle | .failed => false
  | _ => true

/-- The wait is over, and so is `DisconnectSpamCallAbility`. -/
def pastDisconnect (d : Detection) : Bool :=
  match d.phase with
  | .disconnected _ | .finished => true
  | _ => false

end Detection

/-- What connecting comes to: no connection object, a connection that fails, or one. -/
inductive ConnectOutcome
  | noObject | refused | opened
  deriving DecidableEq, Repr

/-- The detections, `connection_`, and the connections that were disconnected, each with
    the detection that did it. A connection has the number of its detection. -/
structure SpamWorld where
  detections : Ref → Detection
  nextRef : Ref
  connection : Option Ref
  disconnects : List (Ref × Ref)

namespace SpamWorld

/-- The state the process starts with. -/
def init : SpamWorld := ⟨fun _ => .init [] .idle, 0, none, []⟩

/-- A detection changes. -/
def modify (w : SpamWorld) (i : Ref) (f : Detection → Detection) : SpamWorld :=
  { w with detections := Function.update w.detections i (f (w.detections i)) }

/-- A new adapter and `ConnectSpamCallAbility` (spam_call_adapter.cpp:231-250). -/
def connectSpamCallAbility (w : SpamWorld) (phoneNumber : ByteString)
    (outcome : ConnectOutcome) : SpamWorld :=
  let phase := if outcome = .opened then Phase.connected else .failed
  { w.modify w.nextRef fun _ => .init phoneNumber phase with
    nextRef := w.nextRef + 1
    connection := if outcome = .noObject then none else some w.nextRef }

/-- `OnResult`, for a connection that was opened. -/
def onResult (parse : ByteString → Option DetectRoot) (w : SpamWorld) (i : Ref)
    (res : DetectResult) : SpamWorld :=
  if (w.detections i).opened then w.modify i fun d => d.onResult parse res else w

/-- `DisconnectSpamCallAbility` (lines 252-265). -/
def disconnectSpamCallAbility (w : SpamWorld) (i : Ref) : SpamWorld :=
  match w.connection with
  | none => w
  | some connection =>
    { w with connection := none, disconnects := w.disconnects ++ [(connection, i)] }

/-- A detection takes its next step: `WaitForResult` (time_wait_helper.cpp:41-56), which
    `wait_until` may tell that it `timesOut`, `WaitForDetectResult` (lines 450-462) and the end
    of `ShouldBlockIncomingCall` (call_status_manager.cpp:2206-2225). -/
def advance (w : SpamWorld) (i : Ref) (timesOut : Bool) : SpamWorld :=
  let d := w.detections i
  match d.phase with
  | .idle | .failed | .finished => w
  | .connected =>
    if d.isNotified = false then w.modify i fun d => { d with phase := .checked }
    else w.modify i fun d => d.endWait false
  | .checked =>
    if d.isNotified then w.modify i fun d => d.endWait true
    else w.modify i fun d => { d with phase := .waiting }
  | .waiting =>
    if timesOut then w.modify i fun d => d.endWait false
    else if d.isNotified then w.modify i fun d => d.endWait true
    else w
  | .returned result =>
    (w.disconnectSpamCallAbility i).modify i fun d => { d with phase := .disconnected result }
  | .disconnected result =>
    w.modify i fun d =>
      { d with phase := .finished, used := if result then some d.stored else none }

end SpamWorld

/-- What happens: a call comes in, a result is delivered, a detection goes on. -/
inductive SpamOp
  | connectSpamCallAbility (phoneNumber : ByteString) (outcome : ConnectOutcome)
  | onResult (i : Ref) (res : DetectResult)
  | advance (i : Ref) (timesOut : Bool)

/-- The state after one event. -/
def step (parse : ByteString → Option DetectRoot) (w : SpamWorld) : SpamOp → SpamWorld
  | .connectSpamCallAbility phoneNumber outcome => w.connectSpamCallAbility phoneNumber outcome
  | .onResult i res => w.onResult parse i res
  | .advance i timesOut => w.advance i timesOut

/-! ## Specification -/

/-- What the detection `i` owes, with the connections that were disconnected. -/
structure DetectionOk (parse : ByteString → Option DetectRoot) (disconnects : List (Ref × Ref))
    (i : Ref) (d : Detection) : Prop where
  waitEnd : ∀ result inTime, d.waitEnd = some (result, inTime) → result = inTime
  used : ∀ v, d.used = some v → v.blockReason ≠ none ∧ (v = .initial ∨
    ∃ res ∈ d.results, res.errCode = 0 ∧ v = parsedResult parse d.phoneNumber res)
  disconnected : d.opened = true → ∀ j,
    disconnects.count (i, j) = if j = i ∧ d.pastDisconnect = true then 1 else 0

/-- Every detection is as specified. -/
def SpamWorld.Ok (parse : ByteString → Option DetectRoot) (w : SpamWorld) : Prop :=
  ∀ i, DetectionOk parse w.disconnects i (w.detections i)

/-- The text of the result has a detection result and a reason. -/
def HasReason (parse : ByteString → Option DetectRoot) (res : DetectResult) : Prop :=
  res.result.length ≠ 0 ∧ ∃ root ∈ parse (cString res.result),
    (root.number .detectResult).isSome ∧ (root.number .decisionReason).isSome

/-- The last result without error. -/
def lastResult (results : List DetectResult) : Option DetectResult :=
  (results.filter fun res => res.errCode = 0).getLast?

/-- The condition on an event. -/
def StepOk (parse : ByteString → Option DetectRoot) (w : SpamWorld) : SpamOp → Prop
  | .advance i timesOut =>
    match (w.detections i).phase with
    | .connected => (w.detections i).isNotified = false
    | .waiting => timesOut = true → (w.detections i).isNotified = false
    | .returned _ => w.connection = some i
    | .disconnected true => ∀ res ∈ lastResult (w.detections i).results, HasReason parse res
    | _ => True
  | _ => True

/-! ## What is parsed -/

theorem parseMarkResults_blockReason (root : DetectRoot) (v : Verdict) :
    (parseMarkResults root v).blockReason = v.blockReason := rfl

/-- A block reason is assigned iff the text has a detection result and a reason. -/
theorem parsedResult_blockReason (parse : ByteString → Option DetectRoot)
    (phoneNumber : ByteString) (res : DetectResult) :
    (parsedResult parse phoneNumber res).blockReason ≠ none ↔ HasReason parse res := by
  have hquery : (parsedResult parse phoneNumber res).blockReason =
      (parseDetectResult parse res.result .unassigned).blockReason := by
    unfold parsedResult
    dsimp only
    split_ifs
    · rfl
    · rfl
  rw [hquery, parseDetectResult, HasReason]
  by_cases hlen : res.result.length = 0
  · rw [if_pos hlen]
    exact iff_of_false (fun h => h rfl) fun h => h.1 hlen
  rw [if_neg hlen]
  cases hroot : parse (cString res.result) with
  | none => simp [Verdict.unassigned]
  | some root =>
    dsimp only
    cases hn : root.number .detectResult with
    | none => simp [Verdict.unassigned, hn]
    | some n =>
      dsimp only
      cases hr : root.number .decisionReason with
      | none => simp [Verdict.unassigned, hr]
      | some r =>
        refine iff_of_true ?_ ⟨hlen, root, rfl, by simp [hn], by simp [hr]⟩
        rw [parseMarkResults_blockReason]
        simp

theorem lastResult_append (results : List DetectResult) (res : DetectResult) :
    lastResult (results ++ [res]) =
      if res.errCode = 0 then some res else lastResult results := by
  unfold lastResult
  rw [List.filter_append]
  by_cases h : res.errCode = 0
  · rw [if_pos h]
    simp [h]
  · rw [if_neg h]
    simp [h]

/-- What the adapter keeps after its results. -/
def storedAfter (parse : ByteString → Option DetectRoot) (phoneNumber : ByteString)
    (results : List DetectResult) : Verdict :=
  match lastResult results with
  | none => .initial
  | some res => parsedResult parse phoneNumber res

/-- It comes from its own results. -/
theorem storedAfter_own (parse : ByteString → Option DetectRoot) (phoneNumber : ByteString)
    (results : List DetectResult) :
    storedAfter parse phoneNumber results = .initial ∨ ∃ res ∈ results, res.errCode = 0 ∧
      storedAfter parse phoneNumber results = parsedResult parse phoneNumber res := by
  unfold storedAfter
  cases hlast : lastResult results with
  | none => exact .inl rfl
  | some res =>
    obtain ⟨hmem, herr⟩ := List.mem_filter.mp (List.mem_of_getLast? hlast)
    exact .inr ⟨res, hmem, by simpa using herr, rfl⟩

theorem storedAfter_blockReason (parse : ByteString → Option DetectRoot)
    (phoneNumber : ByteString) (results : List DetectResult) :
    (storedAfter parse phoneNumber results).blockReason ≠ none ↔
      ∀ res ∈ lastResult results, HasReason parse res := by
  unfold storedAfter
  cases lastResult results with
  | none => exact iff_of_true (by simp [Verdict.initial]) fun _ h => nomatch h
  | some res =>
    refine (parsedResult_blockReason parse phoneNumber res).trans ⟨?_, fun h => h res rfl⟩
    rintro h res' hres'
    cases hres'
    exact h

/-! ## The detections -/

/-- What the steps keep: what an adapter has stored follows from its results, and no
    connection has the number of a detection to come. -/
structure Sound (parse : ByteString → Option DetectRoot) (w : SpamWorld) : Prop where
  fresh : ∀ i, w.nextRef ≤ i → (w.detections i).phase = .idle
  stored : ∀ i, (w.detections i).stored =
    storedAfter parse (w.detections i).phoneNumber (w.detections i).results
  connection : ∀ c ∈ w.connection, c < w.nextRef
  disconnects : ∀ p ∈ w.disconnects, p.1 < w.nextRef

variable {parse : ByteString → Option DetectRoot} {w : SpamWorld}

theorem sound_init : Sound parse .init where
  fresh _ _ := rfl
  stored _ := rfl
  connection _ h := nomatch h
  disconnects _ h := nomatch h

/-- A detection that is on its way has been made. -/
theorem Sound.lt (h : Sound parse w) {i : Ref} (hi : (w.detections i).phase ≠ .idle) :
    i < w.nextRef := by
  by_contra hlt
  exact hi (h.fresh i (Nat.le_of_not_lt hlt))

/-- A detection goes on. -/
theorem Sound.modify (h : Sound parse w) {i : Ref} (hi : (w.detections i).phase ≠ .idle)
    {f : Detection → Detection} (hf : (f (w.detections i)).stored =
      storedAfter parse (f (w.detections i)).phoneNumber (f (w.detections i)).results) :
    Sound parse (w.modify i f) where
  fresh j hj := by
    have hne : j ≠ i := fun heq => absurd (h.lt hi) (by rw [← heq]; exact Nat.not_lt.mpr hj)
    show (Function.update w.detections i _ j).phase = .idle
    rw [Function.update_of_ne hne]
    exact h.fresh j hj
  stored j := by
    show (Function.update w.detections i _ j).stored = storedAfter parse
      (Function.update w.detections i _ j).phoneNumber (Function.update w.detections i _ j).results
    by_cases hj : j = i
    · subst hj
      rw [Function.update_self]
      exact hf
    · rw [Function.update_of_ne hj]
      exact h.stored j
  connection := h.connection
  disconnects := h.disconnects

theorem Sound.connectSpamCallAbility (h : Sound parse w) (phoneNumber : ByteString)
    (outcome : ConnectOutcome) :
    Sound parse (w.connectSpamCallAbility phoneNumber outcome) where
  fresh i hi := by
    have hlt : w.nextRef < i := hi
    show (Function.update w.detections w.nextRef _ i).phase = .idle
    rw [Function.update_of_ne (Nat.ne_of_gt hlt)]
    exact h.fresh i (Nat.le_of_lt hlt)
  stored i := by
    show (Function.update w.detections w.nextRef _ i).stored = storedAfter parse
      (Function.update w.detections w.nextRef _ i).phoneNumber
      (Function.update w.detections w.nextRef _ i).results
    by_cases hi : i = w.nextRef
    · subst hi
      rw [Function.update_self]
      rfl
    · rw [Function.update_of_ne hi]
      exact h.stored i
  connection c hc := by
    have hmem : c ∈ (if outcome = .noObject then none else some w.nextRef : Option Ref) := hc
    show c < w.nextRef + 1
    split_ifs at hmem
    · cases hmem
    · cases hmem
      exact Nat.lt_succ_self _
  disconnects p hp := Nat.lt_succ_of_lt (h.disconnects p hp)

theorem Sound.disconnectSpamCallAbility (h : Sound parse w) (i : Ref) :
    Sound parse (w.disconnectSpamCallAbility i) := by
  unfold SpamWorld.disconnectSpamCallAbility
  cases hc : w.connection with
  | none => exact h
  | some c =>
    refine ⟨h.fresh, h.stored, (fun _ hmem => nomatch hmem), fun p hp => ?_⟩
    rcases List.mem_append.mp hp with hp | hp
    · exact h.disconnects p hp
    · rw [List.mem_singleton] at hp
      rw [hp]
      exact h.connection c hc

theorem Sound.onResult (h : Sound parse w) (i : Ref) (res : DetectResult) :
    Sound parse (w.onResult parse i res) := by
  unfold SpamWorld.onResult
  by_cases hopen : (w.detections i).opened = true
  · rw [if_pos hopen]
    refine h.modify (fun hidle => by simp [Detection.opened, hidle] at hopen) ?_
    unfold Detection.onResult
    dsimp only
    rw [storedAfter]
    split_ifs with herr
    · simp only [lastResult_append, if_pos herr]
    · simp only [lastResult_append, if_neg herr]
      exact h.stored i
  · rw [if_neg hopen]
    exact h

theorem disconnectSpamCallAbility_detections (w : SpamWorld) (i : Ref) :
    (w.disconnectSpamCallAbility i).detections = w.detections := by
  unfold SpamWorld.disconnectSpamCallAbility
  cases w.connection <;> rfl

theorem Sound.advance (h : Sound parse w) (i : Ref) (timesOut : Bool) :
    Sound parse (w.advance i timesOut) := by
  unfold SpamWorld.advance
  dsimp only
  cases hphase : (w.detections i).phase with
  | idle => exact h
  | failed => exact h
  | finished => exact h
  | connected =>
    have hi : (w.detections i).phase ≠ .idle := by simp [hphase]
    dsimp only
    split_ifs
    · exact h.modify hi (h.stored i)
    · exact h.modify hi (h.stored i)
  | checked =>
    have hi : (w.detections i).phase ≠ .idle := by simp [hphase]
    dsimp only
    split_ifs
    · exact h.modify hi (h.stored i)
    · exact h.modify hi (h.stored i)
  | waiting =>
    have hi : (w.detections i).phase ≠ .idle := by simp [hphase]
    dsimp only
    split_ifs
    · exact h.modify hi (h.stored i)
    · exact h.modify hi (h.stored i)
    · exact h
  | returned result =>
    have hdet := disconnectSpamCallAbility_detections w i
    refine (h.disconnectSpamCallAbility i).modify ?_ ?_
    · rw [hdet]
      simp [hphase]
    · rw [hdet]
      exact h.stored i
  | disconnected result =>
    have hi : (w.detections i).phase ≠ .idle := by simp [hphase]
    exact h.modify hi (h.stored i)

theorem Sound.step (h : Sound parse w) (op : SpamOp) : Sound parse (step parse w op) := by
  cases op with
  | connectSpamCallAbility phoneNumber outcome =>
    exact h.connectSpamCallAbility phoneNumber outcome
  | onResult i res => exact h.onResult i res
  | advance i timesOut => exact h.advance i timesOut

/-! ## What one step keeps -/

/-- A change of one detection is about that detection. -/
theorem ok_modify_iff (hok : w.Ok parse) (i : Ref) (f : Detection → Detection) :
    (w.modify i f).Ok parse ↔ DetectionOk parse w.disconnects i (f (w.detections i)) := by
  constructor
  · intro h
    have hi := h i
    have hself : (w.modify i f).detections i = f (w.detections i) := Function.update_self ..
    rwa [hself] at hi
  · intro h j
    show DetectionOk parse w.disconnects j (Function.update w.detections i _ j)
    by_cases hj : j = i
    · subst hj
      rw [Function.update_self]
      exact h
    · rw [Function.update_of_ne hj]
      exact hok j

/-- A detection goes on before it disconnects. -/
theorem DetectionOk.move {disconnects : List (Ref × Ref)} {i : Ref} {d : Detection}
    (h : DetectionOk parse disconnects i d) (hopened : d.opened = true)
    (hpast : d.pastDisconnect = false) {phase : Phase}
    (hphase : ({ d with phase := phase } : Detection).pastDisconnect = false) :
    DetectionOk parse disconnects i { d with phase := phase } where
  waitEnd := h.waitEnd
  used := h.used
  disconnected _ j := by
    rw [h.disconnected hopened j, hpast, hphase]

/-- A wait ends as specified iff it returns whether the result is there. -/
theorem DetectionOk.endWait_iff {disconnects : List (Ref × Ref)} {i : Ref} {d : Detection}
    (h : DetectionOk parse disconnects i d) (hopened : d.opened = true)
    (hpast : d.pastDisconnect = false) (result : Bool) :
    DetectionOk parse disconnects i (d.endWait result) ↔ result = d.isNotified := by
  constructor
  · intro h'
    exact h'.waitEnd _ _ rfl
  · intro heq
    have hmove : DetectionOk parse disconnects i { d with phase := .returned result } :=
      h.move hopened hpast rfl
    refine ⟨fun r t hrt => ?_, hmove.used, hmove.disconnected⟩
    cases hrt
    exact heq

/-- A call takes its verdict as specified iff the result it is from has a reason. -/
theorem DetectionOk.finish_iff {disconnects : List (Ref × Ref)} {i : Ref} {d : Detection}
    (h : DetectionOk parse disconnects i d)
    (hstored : d.stored = storedAfter parse d.phoneNumber d.results) {result : Bool}
    (hphase : d.phase = .disconnected result) :
    DetectionOk parse disconnects i
        { d with phase := .finished, used := if result then some d.stored else none } ↔
      (result = true → ∀ res ∈ lastResult d.results, HasReason parse res) := by
  have hopened : d.opened = true := by simp [Detection.opened, hphase]
  have hpast : d.pastDisconnect = true := by simp [Detection.pastDisconnect, hphase]
  rw [← storedAfter_blockReason parse d.phoneNumber, ← hstored]
  constructor
  · rintro h' rfl
    exact (h'.used d.stored rfl).1
  · intro hreason
    refine ⟨h.waitEnd, fun v hv => ?_, fun _ j => ?_⟩
    · cases result with
      | false => cases hv
      | true =>
        cases hv
        rw [hstored] at hreason ⊢
        exact ⟨hreason rfl, storedAfter_own parse d.phoneNumber d.results⟩
    · have hcount := h.disconnected hopened j
      rw [hpast] at hcount
      exact hcount

/-- A result changes what is stored, and nothing that the specification is about. -/
theorem DetectionOk.onResult {disconnects : List (Ref × Ref)} {i : Ref} {d : Detection}
    (h : DetectionOk parse disconnects i d) (res : DetectResult) :
    DetectionOk parse disconnects i (d.onResult parse res) := by
  have hend : (d.onResult parse res).waitEnd = d.waitEnd := by
    unfold Detection.onResult
    dsimp only
    split_ifs <;> rfl
  have hused : (d.onResult parse res).used = d.used := by
    unfold Detection.onResult
    dsimp only
    split_ifs <;> rfl
  have hphase : (d.onResult parse res).phase = d.phase := by
    unfold Detection.onResult
    dsimp only
    split_ifs <;> rfl
  have hnumber : (d.onResult parse res).phoneNumber = d.phoneNumber := by
    unfold Detection.onResult
    dsimp only
    split_ifs <;> rfl
  have hresults : (d.onResult parse res).results = d.results ++ [res] := by
    unfold Detection.onResult
    dsimp only
    split_ifs <;> rfl
  refine ⟨?_, ?_, ?_⟩
  · rw [hend]
    exact h.waitEnd
  · rw [hused, hnumber, hresults]
    intro v hv
    obtain ⟨hreason, hown⟩ := h.used v hv
    refine ⟨hreason, hown.imp id ?_⟩
    rintro ⟨r, hr, herr, rfl⟩
    exact ⟨r, List.mem_append_left _ hr, herr, rfl⟩
  · unfold Detection.opened Detection.pastDisconnect
    rw [hphase]
    exact h.disconnected

/-- What is disconnected, and by whom, is right iff it is the detection's own. -/
theorem ok_disconnect_iff (hok : w.Ok parse) {i : Ref} {result : Bool}
    (hphase : (w.detections i).phase = .returned result) :
    ((w.disconnectSpamCallAbility i).modify i
        fun d => { d with phase := .disconnected result }).Ok parse ↔ w.connection = some i := by
  have hopened : (w.detections i).opened = true := by simp [Detection.opened, hphase]
  have hpast : (w.detections i).pastDisconnect = false := by
    simp [Detection.pastDisconnect, hphase]
  have hbefore : ∀ j, w.disconnects.count (i, j) = 0 := by
    intro j
    rw [(hok i).disconnected hopened j, hpast]
    simp
  have hself : ((w.disconnectSpamCallAbility i).modify i
      fun d => { d with phase := .disconnected result }).detections i =
        { w.detections i with phase := .disconnected result } := by
    show Function.update (w.disconnectSpamCallAbility i).detections i _ i = _
    rw [Function.update_self, disconnectSpamCallAbility_detections]
  constructor
  · intro h
    -- the detection's own connection was disconnected in this step
    have hown := (h i).disconnected (by rw [hself]; rfl) i
    rw [hself, if_pos ⟨rfl, rfl⟩] at hown
    unfold SpamWorld.disconnectSpamCallAbility at hown
    cases hc : w.connection with
    | none =>
      rw [hc] at hown
      exact absurd ((hbefore i).symm.trans hown) (by decide)
    | some c =>
      rw [hc] at hown
      by_cases hci : c = i
      · rw [hci]
      · have hcount : (w.disconnects ++ [(c, i)]).count (i, i) = 1 := hown
        rw [List.count_append, hbefore, List.count_singleton] at hcount
        simp [hci] at hcount
  · intro hc
    have hlog : (w.disconnectSpamCallAbility i).disconnects = w.disconnects ++ [(i, i)] := by
      unfold SpamWorld.disconnectSpamCallAbility
      rw [hc]
    intro j
    show DetectionOk parse (w.disconnectSpamCallAbility i).disconnects j _
    rw [hlog]
    by_cases hj : j = i
    · subst hj
      rw [hself]
      refine ⟨(hok j).waitEnd, (hok j).used, fun _ k => ?_⟩
      rw [List.count_append, hbefore, List.count_singleton]
      by_cases hk : k = j
      · simp [Detection.pastDisconnect, hk]
      · simp [hk, Ne.symm hk]
    · have hother : ((w.disconnectSpamCallAbility i).modify i
          fun d => { d with phase := .disconnected result }).detections j = w.detections j := by
        show Function.update (w.disconnectSpamCallAbility i).detections i _ j = _
        rw [Function.update_of_ne hj, disconnectSpamCallAbility_detections]
      rw [hother]
      refine ⟨(hok j).waitEnd, (hok j).used, fun hopen k => ?_⟩
      rw [List.count_append, (hok j).disconnected hopen k, List.count_singleton]
      simp [Ne.symm hj]

/-- One event keeps the specification iff it meets the condition. -/
theorem ok_step_iff (h : Sound parse w) (hok : w.Ok parse) (op : SpamOp) :
    (step parse w op).Ok parse ↔ StepOk parse w op := by
  cases op with
  | connectSpamCallAbility phoneNumber outcome =>
    refine iff_of_true (fun i => ?_) trivial
    show DetectionOk parse w.disconnects i (Function.update w.detections w.nextRef _ i)
    by_cases hi : i = w.nextRef
    · rw [hi, Function.update_self]
      refine ⟨(fun _ _ h => nomatch h), (fun _ h => nomatch h), fun _ j => ?_⟩
      have hpast : (Detection.init phoneNumber (if outcome = .opened then Phase.connected
          else .failed)).pastDisconnect = false := by cases outcome <;> rfl
      have hnone : w.disconnects.count (w.nextRef, j) = 0 := by
        refine List.count_eq_zero_of_not_mem fun hmem => ?_
        exact Nat.lt_irrefl _ (h.disconnects _ hmem)
      rw [hnone, hpast]
      simp
    · rw [Function.update_of_ne hi]
      exact hok i
  | onResult i res =>
    refine iff_of_true ?_ trivial
    show (w.onResult parse i res).Ok parse
    unfold SpamWorld.onResult
    split_ifs
    · exact (ok_modify_iff hok i _).mpr ((hok i).onResult res)
    · exact hok
  | advance i timesOut =>
    show (w.advance i timesOut).Ok parse ↔ _
    unfold SpamWorld.advance StepOk
    dsimp only
    cases hphase : (w.detections i).phase with
    | idle => exact iff_of_true hok trivial
    | failed => exact iff_of_true hok trivial
    | finished => exact iff_of_true hok trivial
    | connected =>
      have hopened : (w.detections i).opened = true := by simp [Detection.opened, hphase]
      have hpast : (w.detections i).pastDisconnect = false := by
        simp [Detection.pastDisconnect, hphase]
      dsimp only
      by_cases hn : (w.detections i).isNotified = false
      · rw [if_pos hn]
        exact iff_of_true ((ok_modify_iff hok i _).mpr ((hok i).move hopened hpast rfl)) hn
      · rw [if_neg hn, ok_modify_iff hok, (hok i).endWait_iff hopened hpast]
        exact eq_comm
    | checked =>
      have hopened : (w.detections i).opened = true := by simp [Detection.opened, hphase]
      have hpast : (w.detections i).pastDisconnect = false := by
        simp [Detection.pastDisconnect, hphase]
      dsimp only
      refine iff_of_true ?_ trivial
      by_cases hn : (w.detections i).isNotified = true
      · rw [if_pos hn, ok_modify_iff hok, (hok i).endWait_iff hopened hpast]
        exact hn.symm
      · rw [if_neg hn]
        exact (ok_modify_iff hok i _).mpr ((hok i).move hopened hpast rfl)
    | waiting =>
      have hopened : (w.detections i).opened = true := by simp [Detection.opened, hphase]
      have hpast : (w.detections i).pastDisconnect = false := by
        simp [Detection.pastDisconnect, hphase]
      dsimp only
      by_cases ht : timesOut = true
      · rw [if_pos ht, ok_modify_iff hok, (hok i).endWait_iff hopened hpast]
        exact ⟨fun heq _ => heq.symm, fun hn => (hn ht).symm⟩
      · rw [if_neg ht]
        refine iff_of_true ?_ fun htrue => absurd htrue ht
        by_cases hn : (w.detections i).isNotified = true
        · rw [if_pos hn, ok_modify_iff hok, (hok i).endWait_iff hopened hpast]
          exact hn.symm
        · rw [if_neg hn]
          exact hok
    | returned result => exact ok_disconnect_iff hok hphase
    | disconnected result =>
      dsimp only
      rw [ok_modify_iff hok, (hok i).finish_iff (h.stored i) hphase]
      cases result with
      | false => exact iff_of_true (fun hf => nomatch hf) trivial
      | true => exact ⟨fun h => h rfl, fun h _ => h⟩

/-! ## Runs -/

theorem ok_init : SpamWorld.init.Ok parse := fun _ =>
  ⟨(fun _ _ h => nomatch h), (fun _ h => nomatch h),
    fun h => absurd (show false = true from h) (by decide)⟩

/-- **Spam detection.** Every state of a run is as specified iff every event of it meets
    the condition. -/
theorem detections_ok_iff (parse : ByteString → Option DetectRoot) (ops : List SpamOp) :
    Run.StatesMeet (step parse) (SpamWorld.Ok parse) .init ops ↔
      Run.StepsMeet (step parse) (StepOk parse) .init ops :=
  Run.statesMeet_iff_stepsMeet_of_invariant (fun _ op h => h.step op)
    (fun _ op h hok => ok_step_iff h hok op) ops sound_init ok_init

/-! ### A result that comes early -/

/-- A result without error, and without text. -/
def emptyResult : DetectResult := ⟨0, [], 0, fun _ info => info⟩

/-- A call is detected; its result is there before its wait begins. -/
def earlyOps : List SpamOp :=
  [.connectSpamCallAbility [0x31] .opened, .onResult 0 emptyResult, .advance 0 false]

/-- The wait returns false at once. -/
theorem early_result_lost :
    ¬ Run.StatesMeet (step fun _ => none) (SpamWorld.Ok fun _ => none) .init earlyOps := by
  intro hall
  have hend : ((Run.run (step fun _ => none) .init earlyOps).detections 0).waitEnd =
      some (false, true) := rfl
  exact absurd ((hall.last 0).waitEnd _ _ hend) (by decide)

end CallManager.SpamDetection
