import CallManager.AntiFraud

/-!
# The results of the anti-fraud detections

`AntiFraudService` starts a detection for a slot and an index, and is called back
with its result. A detection that is stopped may deliver its result still; so
`StopAntiFraudService` writes down the slot and the index, and the next result for
them is dropped. There is one such marker: a second stop overwrites it, it stays
if the result does not come, and then meets the result of a later detection with
the same slot and index.

The text of a result is kept in `fraudDetectText_`, unless it is empty or too long,
and what is kept there is what is anonymised and uploaded.

Specification (`Own`): a result is recorded for a call iff its detection was started
for this call and has not been stopped; and the text that is uploaded with it is
its own text, anonymised, or empty.

`CallStatusManager` takes a result for the call of its own slot and index, whatever
detection delivers it; each start and each result meets any state of it. The rules of
the anonymiser and the requests to the cloud are left out.

Results:
* `results_own_iff`: a run is as specified iff each result meets the marker exactly
  if its detection was stopped, is taken for its own call, and finds no text of
  another result.
* `results_own_of_orderly`: so is a run in which no detection starts with the key of
  one that still owes its result or of the marker, no stop comes while a stopped
  detection owes its result, and no detection delivers twice.
* `stopped_result_recorded`: two detections are stopped, and the first one delivers; one
  is stopped and does not deliver.
-/

namespace CallManager

/-- The parts of a `StartDetectionResult` that are read
    (anti_fraud_service_client_type.h:38-90); of the probability, which is only copied, the
    bits. -/
structure StartDetectionResult where
  isVoiceFraud : Bool
  voiceText : String
  isSpeechFraud : Bool
  speechPvalue : UInt32
  isVoipFraud : Bool
  deriving DecidableEq, Repr

/-- `AntiFraudResultExt`. -/
structure AntiFraudResultExt where
  isVoiceSemanticFraud : Bool
  isSpeechSynthesisFraud : Bool
  speechSynthesisProb : UInt32
  isXoipFraud : Bool
  deriving DecidableEq, Repr

/-- `AntiFraudStartDetectResListenerImpl`, what a detection is started with
    (antifraud_service.h:66-79), with a number of its own and the id of its call. -/
structure DetectListener where
  number : ℕ
  callId : ℤ
  phoneNum : String
  slotId : ℤ
  index : ℤ
  deriving DecidableEq, Repr

/-- The fields of `AntiFraudService` (antifraud_service.h:82-94), and a record of what has
    happened: the detections, the numbers of those that were stopped and of those that have
    delivered, the results recorded for a call, and the texts uploaded with a result, the latest
    first. -/
structure DetectService where
  fraudDetectText : String
  antiFraudState : AntiFraudState
  stoppedSlotId : ℤ
  stoppedIndex : ℤ
  antiFraudResultExt : AntiFraudResultExt
  detections : List DetectListener
  stopped : List ℕ
  delivered : List ℕ
  recorded : List (ℤ × ℕ)
  uploads : List (ℕ × String)

/-- What a start meets: the results of `CheckAntiFraudService` and of
    `AntiFraudStartDetect`, and `callStatusManagerPtr_`. -/
structure DetectStartEnv where
  checkErrCode : ℤ
  startErrCode : ℤ
  callStatusManager : Option FraudWorld

/-- What a result meets: `callStatusManagerPtr_`, the user's switch, and the results
    of the anonymiser. -/
structure DetectResultEnv where
  callStatusManager : Option FraudWorld
  isUserImprovementPlanSwitchOn : Bool
  initConfig : ℤ
  createAnonymize : ℤ
  identifyAnonymize : ℤ

/-- The call that `TriggerAntiFraud` reports a result to. -/
def FraudWorld.reportedCall (f : FraudWorld) : Option Ref :=
  if StatusWorld.slotNum ≤ f.antiFraudSlotId ∨ f.antiFraudSlotId < 0 then none
  else f.triggeredCall

namespace DetectService

/-- The state the process starts with. -/
def init : DetectService where
  fraudDetectText := ""
  antiFraudState := .default
  stoppedSlotId := -1
  stoppedIndex := -1
  antiFraudResultExt := ⟨false, false, 0, false⟩
  detections := []
  stopped := []
  delivered := []
  recorded := []
  uploads := []

/-- `MAX_VOICE_TEXT_LENGTH` (antifraud_service.cpp:29). -/
def maxVoiceTextLength : ℕ := 1000

/-- `InitParams` (antifraud_service.cpp:121-125). -/
def initParams (w : DetectService) : DetectService :=
  { w with fraudDetectText := "", antiFraudState := .default }

/-- `StartAntiFraudService` (antifraud_service.cpp:209-245), for the call `callId`. -/
def startAntiFraudService (env : DetectStartEnv) (w : DetectService) (callId : ℤ)
    (phoneNum : String) (slotId index : ℤ) : ℤ × DetectService :=
  if env.checkErrCode ≠ 0 then (env.checkErrCode, w)
  else if (env.callStatusManager.any fun f => ¬ f.HasSlot slotId index) = true then (-1, w)
  else if env.startErrCode ≠ 0 then (env.startErrCode, w)
  else
    let listener : DetectListener := ⟨w.detections.length, callId, phoneNum, slotId, index⟩
    (0, { w with detections := listener :: w.detections, antiFraudState := .started }.initParams)

/-- The slot and the index of the detection. -/
def HasKey (d : DetectListener) (slotId index : ℤ) : Prop := d.slotId = slotId ∧ d.index = index

instance (d : DetectListener) (slotId index : ℤ) : Decidable (HasKey d slotId index) :=
  inferInstanceAs (Decidable (_ ∧ _))

/-- `StopAntiFraudService` (antifraud_service.cpp:257-269). -/
def stopAntiFraudService (antiFraudErrCode : ℤ) (w : DetectService) (slotId index : ℤ) :
    ℤ × DetectService :=
  if antiFraudErrCode ≠ 0 then (antiFraudErrCode, w)
  else
    let stopped := (w.detections.filter fun d => HasKey d slotId index).map fun d => d.number
    (0, { w with
      stoppedSlotId := slotId
      stoppedIndex := index
      stopped := stopped ++ w.stopped })

/-- The result is that of the detection that was stopped last. -/
def Marked (w : DetectService) (d : DetectListener) : Prop :=
  HasKey d w.stoppedSlotId w.stoppedIndex

instance (w : DetectService) (d : DetectListener) : Decidable (w.Marked d) :=
  inferInstanceAs (Decidable (HasKey d _ _))

/-- The text takes the place of the one that is kept. -/
def Fits (result : StartDetectionResult) : Prop :=
  result.voiceText ≠ "" ∧ result.voiceText.utf8ByteSize ≤ maxVoiceTextLength

instance (result : StartDetectionResult) : Decidable (Fits result) :=
  inferInstanceAs (Decidable (_ ∧ _))

/-- The text that is kept once the result is recorded. -/
def keptText (w : DetectService) (result : StartDetectionResult) : String :=
  if Fits result then result.voiceText else w.fraudDetectText

/-- The result goes to the cloud: the text is anonymised and nothing fails
    (antifraud_service.cpp:185-190, 319-362). -/
def Uploads (env : DetectResultEnv) (result : StartDetectionResult) : Prop :=
  result.isVoiceFraud = true ∧ env.isUserImprovementPlanSwitchOn = true ∧ env.initConfig = 0 ∧
    env.createAnonymize = 0 ∧ env.identifyAnonymize = 0

instance (env : DetectResultEnv) (result : StartDetectionResult) :
    Decidable (Uploads env result) := by
  unfold Uploads
  infer_instance

/-- The id of the call that the result is recorded for, if it is. -/
def takenFor (env : DetectResultEnv) : Option ℤ :=
  env.callStatusManager.bind fun f =>
    f.reportedCall.map fun call => (f.status.object call).callId

variable (anonymize : String → String)

/-- The upload at the end of `RecordDetectResult`, with `AnonymizeText`
    (antifraud_service.cpp:185-196, 319-362). -/
def upload (env : DetectResultEnv) (w : DetectService) (result : StartDetectionResult)
    (d : DetectListener) : DetectService :=
  if Uploads env result then
    { w with
      fraudDetectText := anonymize w.fraudDetectText
      uploads := (d.number, anonymize w.fraudDetectText) :: w.uploads }
  else w

/-- What `RecordDetectResult` keeps of a result, with the report to the call that
    `TriggerAntiFraud` finds (antifraud_service.cpp:161-183). -/
def keep (env : DetectResultEnv) (w : DetectService) (result : StartDetectionResult)
    (d : DetectListener) : DetectService :=
  { w with
    antiFraudResultExt :=
      { isVoiceSemanticFraud := result.isVoiceFraud
        isSpeechSynthesisFraud := result.isSpeechFraud
        speechSynthesisProb := result.speechPvalue
        isXoipFraud := result.isVoipFraud }
    fraudDetectText := w.keptText result
    antiFraudState :=
      if result.isVoiceFraud || result.isSpeechFraud || result.isVoipFraud then .risk
      else .notRiskOrStopped
    recorded := ((takenFor env).map fun callId => (callId, d.number)).toList ++ w.recorded }

/-- `RecordDetectResult` (antifraud_service.cpp:151-197), for the result of the detection `d`. -/
def recordDetectResult (env : DetectResultEnv) (w : DetectService) (result : StartDetectionResult)
    (d : DetectListener) : DetectService :=
  if w.Marked d then { w with stoppedSlotId := -1, stoppedIndex := -1 }
  else (w.keep env result d).upload anonymize env result d

/-! ### Runs -/

/-- A start, a stop, and the result of a detection that was started. -/
inductive DetectOp
  | start (env : DetectStartEnv) (callId : ℤ) (phoneNum : String) (slotId index : ℤ)
  | stop (antiFraudErrCode : ℤ) (slotId index : ℤ)
  | result (env : DetectResultEnv) (number : ℕ) (result : StartDetectionResult)

/-- The detection with this number. -/
def listener (w : DetectService) (number : ℕ) : Option DetectListener :=
  w.detections.find? fun d => d.number = number

/-- One step. -/
def step (w : DetectService) : DetectOp → DetectService
  | .start env callId phoneNum slotId index =>
    (w.startAntiFraudService env callId phoneNum slotId index).2
  | .stop antiFraudErrCode slotId index => (w.stopAntiFraudService antiFraudErrCode slotId index).2
  | .result env number result =>
    match w.listener number with
    | none => w
    | some d =>
      { w.recordDetectResult anonymize env result d with delivered := number :: w.delivered }

/-! ## Specification -/

/-- A result is recorded for a call iff its detection is this call's and has not
    been stopped, and what is uploaded with it is its own text or nothing. -/
def Own (w : DetectService) : DetectOp → Prop
  | .result env number result =>
    ∀ d ∈ w.listener number,
      (∀ callId, (w.step anonymize (.result env number result)).recorded =
          (callId, number) :: w.recorded ↔ callId = d.callId ∧ number ∉ w.stopped) ∧
      ∀ text, (w.step anonymize (.result env number result)).uploads =
          (number, text) :: w.uploads → text = anonymize result.voiceText ∨ text = ""
  | _ => True

/-- A stopped detection meets the marker, or no call is found; any other one does
    not meet it, and its call is found. -/
def RecordOk (env : DetectResultEnv) (w : DetectService) (d : DetectListener) : Prop :=
  if d.number ∈ w.stopped then w.Marked d ∨ takenFor env = none
  else ¬ w.Marked d ∧ takenFor env = some d.callId

/-- A text that goes to the cloud is the result's, or the one that was kept makes no
    difference once it is anonymised. -/
def TextOk (env : DetectResultEnv) (w : DetectService) (result : StartDetectionResult)
    (d : DetectListener) : Prop :=
  ¬ w.Marked d → Uploads env result → Fits result ∨
    anonymize w.fraudDetectText = anonymize result.voiceText ∨ anonymize w.fraudDetectText = ""

/-- What a step must meet. -/
def StepOk (w : DetectService) : DetectOp → Prop
  | .result env number result =>
    ∀ d ∈ w.listener number, w.RecordOk env d ∧ w.TextOk anonymize env result d
  | _ => True

/-! ### One result -/

variable {anonymize} {env : DetectResultEnv} {w : DetectService} {result : StartDetectionResult}
  {d : DetectListener}

@[simp]
theorem upload_recorded : (w.upload anonymize env result d).recorded = w.recorded := by
  unfold upload
  split_ifs <;> rfl

/-- The result is recorded for the call that is found, unless it meets the marker. -/
theorem recordDetectResult_recorded :
    (w.recordDetectResult anonymize env result d).recorded =
      if w.Marked d then w.recorded
      else ((takenFor env).map fun callId => (callId, d.number)).toList ++ w.recorded := by
  unfold recordDetectResult
  split_ifs
  · rfl
  · rw [upload_recorded]
    rfl

/-- The kept text is uploaded, unless the result meets the marker. -/
theorem recordDetectResult_uploads :
    (w.recordDetectResult anonymize env result d).uploads =
      if ¬ w.Marked d ∧ Uploads env result then
        (d.number, anonymize (w.keptText result)) :: w.uploads
      else w.uploads := by
  unfold recordDetectResult upload
  by_cases hmarked : w.Marked d
  · rw [if_pos hmarked, if_neg fun h => h.1 hmarked]
  · rw [if_neg hmarked]
    by_cases huploads : Uploads env result
    · rw [if_pos huploads, if_pos (And.intro hmarked huploads)]
      rfl
    · rw [if_neg huploads, if_neg fun h => huploads h.2]
      rfl

/-- When a result is recorded for the right call. -/
theorem recorded_own_iff :
    (∀ callId, (w.recordDetectResult anonymize env result d).recorded =
        (callId, d.number) :: w.recorded ↔ callId = d.callId ∧ d.number ∉ w.stopped) ↔
      w.RecordOk env d := by
  rw [recordDetectResult_recorded]
  unfold RecordOk
  by_cases hstopped : d.number ∈ w.stopped
  · rw [if_pos hstopped]
    by_cases hmarked : w.Marked d
    · simp [hmarked, hstopped]
    · cases h : takenFor env <;> simp [hmarked, hstopped]
  · rw [if_neg hstopped]
    by_cases hmarked : w.Marked d
    · simp [hmarked, hstopped]
    · cases takenFor env with
      | none => simp [hmarked, hstopped]
      | some taken =>
        have hhead : ∀ callId, (taken, d.number) :: w.recorded = (callId, d.number) :: w.recorded ↔
            taken = callId := by
          simp
        simp only [hmarked, hstopped, if_false, not_false_iff, and_true, true_and, Option.map_some,
          Option.toList_some, List.singleton_append, hhead, Option.some.injEq]
        constructor
        · intro h
          exact (h taken).mp rfl
        · intro h callId
          rw [h]
          exact eq_comm

/-- When the text of an upload is the result's. -/
theorem uploads_own_iff :
    (∀ text, (w.recordDetectResult anonymize env result d).uploads =
        (d.number, text) :: w.uploads → text = anonymize result.voiceText ∨ text = "") ↔
      w.TextOk anonymize env result d := by
  rw [recordDetectResult_uploads]
  unfold TextOk
  by_cases hmarked : w.Marked d
  · simp [hmarked]
  by_cases huploads : Uploads env result
  · simp only [hmarked, huploads, keptText, not_false_iff, and_self, if_true, List.cons.injEq,
      Prod.mk.injEq, true_and, and_true, forall_eq', true_implies]
    by_cases hfits : Fits result
    · simp [hfits]
    · simp [hfits]
  · simp [hmarked, huploads]

/-- **Step lemma.** -/
theorem own_iff (op : DetectOp) : w.Own anonymize op ↔ w.StepOk anonymize op := by
  cases op with
  | start | stop => exact Iff.rfl
  | result env number result =>
    refine forall₂_congr fun d hd => ?_
    have hnumber : d.number = number := by simpa using List.find?_some hd
    subst hnumber
    have hstep : w.step anonymize (.result env d.number result) =
        { w.recordDetectResult anonymize env result d with
          delivered := d.number :: w.delivered } := by
      show (match w.listener d.number with | none => w | some d => _) = _
      rw [show w.listener d.number = some d from hd]
    rw [hstep]
    exact and_congr recorded_own_iff uploads_own_iff

end DetectService

/-! ## Main result -/

/-- **Main theorem.** From every state, a run records and uploads what it should iff
    each result meets the marker exactly if its detection was stopped, is taken for its
    own call, and finds no text of another result. -/
theorem results_own_iff (anonymize : String → String) (w : DetectService) 
    (ops : List DetectService.DetectOp) :
    Run.StepsMeet (DetectService.step anonymize) (DetectService.Own anonymize) w ops ↔
      Run.StepsMeet (DetectService.step anonymize) (DetectService.StepOk anonymize) w ops :=
  Run.stepsMeet_congr fun _ op => DetectService.own_iff op

/-! ## Orderly runs -/

namespace DetectService

variable {anonymize : String → String} {env : DetectResultEnv} {w : DetectService}
  {result : StartDetectionResult} {d : DetectListener}

/-- The detection has not delivered. -/
def Owes (w : DetectService) (d : DetectListener) : Prop :=
  d ∈ w.detections ∧ d.number ∉ w.delivered

/-- What a step of an orderly run meets: a detection starts with a key that is neither
    the marker's nor that of one that owes its result, a stop comes when no stopped
    detection owes one, and each detection delivers once, for its own call. -/
def OrderlyStep (anonymize : String → String) (w : DetectService) : DetectOp → Prop
  | .start _ _ _ slotId index =>
    ¬ (w.stoppedSlotId = slotId ∧ w.stoppedIndex = index) ∧ ¬ (-1 = slotId ∧ -1 = index) ∧
      ∀ d, w.Owes d → ¬ HasKey d slotId index
  | .stop _ _ _ => ∀ d, w.Owes d → d.number ∉ w.stopped
  | .result env number result =>
    number ∉ w.delivered ∧ ∀ d ∈ w.listener number,
      (number ∉ w.stopped → takenFor env = some d.callId) ∧ w.TextOk anonymize env result d

/-- What an orderly run keeps: the numbers tell the detections apart, those that owe a
    result have different keys, and the marker is the key of the stopped one. -/
structure Orderly (w : DetectService) : Prop where
  number_lt : ∀ d ∈ w.detections, d.number < w.detections.length
  number_inj : ∀ d ∈ w.detections, ∀ e ∈ w.detections, d.number = e.number → d = e
  stopped_lt : ∀ number ∈ w.stopped, number < w.detections.length
  placed : ∀ d, w.Owes d → ¬ HasKey d (-1) (-1)
  apart : ∀ d e, w.Owes d → w.Owes e → HasKey d e.slotId e.index → d = e
  marked_iff : ∀ d, w.Owes d → (w.Marked d ↔ d.number ∈ w.stopped)

theorem Orderly.init : Orderly DetectService.init where
  number_lt _ hd := nomatch hd
  number_inj _ hd := nomatch hd
  stopped_lt _ hn := nomatch hn
  placed _ hd := nomatch hd.1
  apart _ _ hd := nomatch hd.1
  marked_iff _ hd := nomatch hd.1

/-- The number of a detection is not that of an earlier one. -/
theorem Orderly.start (h : Orderly w) {env : DetectStartEnv} {callId : ℤ} {phoneNum : String}
    {slotId index : ℤ}
    (hok : w.OrderlyStep anonymize (.start env callId phoneNum slotId index)) :
    Orderly (w.startAntiFraudService env callId phoneNum slotId index).2 := by
  unfold startAntiFraudService
  split_ifs
  · exact h
  · exact h
  · exact h
  obtain ⟨hmarker, hset, hfree⟩ := hok
  set d : DetectListener := ⟨w.detections.length, callId, phoneNum, slotId, index⟩ with hd
  show Orderly { w with
    detections := d :: w.detections, antiFraudState := .default, fraudDetectText := "" }
  have howes : ∀ e ∈ w.detections, e.number ∉ w.delivered → w.Owes e := fun e he hn => ⟨he, hn⟩
  have hnew : ∀ e ∈ w.detections, e.number ≠ d.number := fun e he => (h.number_lt e he).ne
  constructor
  · intro e he
    rcases List.mem_cons.mp he with rfl | he
    · exact Nat.lt_succ_self _
    · exact (h.number_lt e he).trans (Nat.lt_succ_self _)
  · intro e he e' he' heq
    rcases List.mem_cons.mp he with rfl | he <;> rcases List.mem_cons.mp he' with rfl | he'
    · rfl
    · exact absurd heq.symm (hnew e' he')
    · exact absurd heq (hnew e he)
    · exact h.number_inj e he e' he' heq
  · intro number hn
    exact (h.stopped_lt number hn).trans (Nat.lt_succ_self _)
  · rintro e ⟨he, hn⟩ hkey
    rcases List.mem_cons.mp he with rfl | he
    · exact hset ⟨hkey.1.symm, hkey.2.symm⟩
    · exact h.placed e (howes e he hn) hkey
  · rintro e e' ⟨he, hn⟩ ⟨he', hn'⟩ hkey
    rcases List.mem_cons.mp he with rfl | he <;> rcases List.mem_cons.mp he' with rfl | he'
    · rfl
    · exact absurd ⟨hkey.1.symm, hkey.2.symm⟩ (hfree e' (howes e' he' hn'))
    · exact absurd hkey (hfree e (howes e he hn))
    · exact h.apart e e' (howes e he hn) (howes e' he' hn') hkey
  · rintro e ⟨he, hn⟩
    rcases List.mem_cons.mp he with rfl | he
    · constructor
      · intro hmarked
        exact absurd ⟨hmarked.1.symm, hmarked.2.symm⟩ hmarker
      · intro hstopped
        exact absurd (h.stopped_lt _ hstopped) (lt_irrefl _)
    · exact h.marked_iff e (howes e he hn)

/-- The marker is the key of what has been stopped now. -/
theorem Orderly.stop (h : Orderly w) {antiFraudErrCode slotId index : ℤ}
    (hok : w.OrderlyStep anonymize (.stop antiFraudErrCode slotId index)) :
    Orderly (w.stopAntiFraudService antiFraudErrCode slotId index).2 := by
  unfold stopAntiFraudService
  split_ifs
  · exact h
  constructor
  · exact h.number_lt
  · exact h.number_inj
  · intro number hn
    rcases List.mem_append.mp hn with hn | hn
    · obtain ⟨d, hd, rfl⟩ := List.mem_map.mp hn
      exact h.number_lt d (List.mem_of_mem_filter hd)
    · exact h.stopped_lt number hn
  · exact h.placed
  · exact h.apart
  · intro d hd
    show HasKey d slotId index ↔ d.number ∈ _ ++ w.stopped
    have hold : d.number ∉ w.stopped := hok d hd
    rw [List.mem_append, or_iff_left hold, List.mem_map]
    constructor
    · intro hkey
      exact ⟨d, List.mem_filter.mpr ⟨hd.1, by simpa using hkey⟩, rfl⟩
    · rintro ⟨e, he, hnumber⟩
      obtain ⟨hmem, hkey⟩ := List.mem_filter.mp he
      obtain rfl := h.number_inj e hmem d hd.1 hnumber
      simpa using hkey

@[simp]
theorem recordDetectResult_detections :
    (w.recordDetectResult anonymize env result d).detections = w.detections := by
  unfold recordDetectResult upload
  split_ifs <;> rfl

@[simp]
theorem recordDetectResult_stopped :
    (w.recordDetectResult anonymize env result d).stopped = w.stopped := by
  unfold recordDetectResult upload
  split_ifs <;> rfl

@[simp]
theorem recordDetectResult_delivered :
    (w.recordDetectResult anonymize env result d).delivered = w.delivered := by
  unfold recordDetectResult upload
  split_ifs <;> rfl

/-- The marker meets one result. -/
theorem recordDetectResult_marked (e : DetectListener) :
    (w.recordDetectResult anonymize env result d).Marked e ↔
      if w.Marked d then HasKey e (-1) (-1) else w.Marked e := by
  unfold recordDetectResult upload
  split_ifs <;> exact Iff.rfl

theorem listener_eq_some {number : ℕ} (hd : d ∈ w.listener number) :
    d ∈ w.detections ∧ d.number = number :=
  ⟨List.mem_of_find?_eq_some hd, by simpa using List.find?_some hd⟩

/-- A result takes the marker away only if the marker is its own. -/
theorem Orderly.deliver (h : Orderly w) {number : ℕ}
    (hok : w.OrderlyStep anonymize (.result env number result)) :
    Orderly (w.step anonymize (.result env number result)) := by
  show Orderly (match w.listener number with | none => w | some d => _)
  cases hd : w.listener number with
  | none => exact h
  | some d =>
    obtain ⟨hmem, rfl⟩ := listener_eq_some hd
    have howes : w.Owes d := ⟨hmem, hok.1⟩
    set w' := { w.recordDetectResult anonymize env result d with
      delivered := d.number :: w.delivered } with hw'
    have hdetections : w'.detections = w.detections := recordDetectResult_detections
    have hstopped : w'.stopped = w.stopped := recordDetectResult_stopped
    have howes' : ∀ e, w'.Owes e → w.Owes e ∧ e ≠ d := by
      rintro e ⟨he, hn⟩
      rw [hdetections] at he
      refine ⟨⟨he, fun hdelivered => hn (List.mem_cons_of_mem _ hdelivered)⟩, ?_⟩
      rintro rfl
      exact hn List.mem_cons_self
    constructor
    · rw [hdetections]
      exact h.number_lt
    · rw [hdetections]
      exact h.number_inj
    · rw [hdetections, hstopped]
      exact h.stopped_lt
    · intro e he
      exact h.placed e (howes' e he).1
    · intro e e' he he'
      exact h.apart e e' (howes' e he).1 (howes' e' he').1
    · intro e he
      obtain ⟨he, hne⟩ := howes' e he
      rw [hstopped, ← h.marked_iff e he]
      refine (recordDetectResult_marked e).trans ?_
      split_ifs with hmarked
      · have hnot : ¬ w.Marked e := by
          intro hmarked'
          refine hne (h.apart e d he howes ⟨?_, ?_⟩)
          · exact hmarked'.1.trans hmarked.1.symm
          · exact hmarked'.2.trans hmarked.2.symm
        exact iff_of_false (h.placed e he) hnot
      · exact Iff.rfl

/-- What a step of an orderly run keeps. -/
theorem Orderly.step (h : Orderly w) {op : DetectOp} (hok : w.OrderlyStep anonymize op) :
    Orderly (w.step anonymize op) := by
  cases op with
  | start => exact h.start hok
  | stop => exact h.stop hok
  | result => exact h.deliver hok

/-- In an orderly run the marker is met by the results of stopped detections. -/
theorem Orderly.stepOk (h : Orderly w) {op : DetectOp} (hok : w.OrderlyStep anonymize op) :
    w.StepOk anonymize op := by
  cases op with
  | start | stop => trivial
  | result env number result =>
    intro d hd
    obtain ⟨htaken, htext⟩ := hok.2 d hd
    obtain ⟨hmem, rfl⟩ := listener_eq_some hd
    have hmarked := h.marked_iff d ⟨hmem, hok.1⟩
    refine ⟨?_, htext⟩
    unfold RecordOk
    split_ifs with hstopped
    · exact Or.inl (hmarked.mpr hstopped)
    · exact ⟨fun hm => hstopped (hmarked.mp hm), htaken hstopped⟩

end DetectService

/-- An orderly run records and uploads what it should. -/
theorem results_own_of_orderly (anonymize : String → String) {w : DetectService} (hw : w.Orderly)
    {ops : List DetectService.DetectOp}
    (hops : Run.StepsMeet (DetectService.step anonymize) (DetectService.OrderlyStep anonymize) w
      ops) :
    Run.StepsMeet (DetectService.step anonymize) (DetectService.Own anonymize) w ops := by
  have hstep : ∀ w op, DetectService.Orderly w → w.OrderlyStep anonymize op →
      DetectService.Orderly (w.step anonymize op) ∧ w.Own anonymize op :=
    fun w op h hok => ⟨h.step hok, (DetectService.own_iff op).mpr (h.stepOk hok)⟩
  exact Run.StepsMeet.of_invariant hstep hw hops


namespace DetectService

instance (env : DetectResultEnv) (w : DetectService) (d : DetectListener) :
    Decidable (w.RecordOk env d) := by
  unfold RecordOk
  infer_instance

instance (anonymize : String → String) (env : DetectResultEnv) (w : DetectService)
    (result : StartDetectionResult) (d : DetectListener) :
    Decidable (w.TextOk anonymize env result d) := by
  unfold TextOk
  infer_instance

instance (anonymize : String → String) (w : DetectService) :
    (op : DetectOp) → Decidable (w.StepOk anonymize op)
  | .start .. | .stop .. => inferInstanceAs (Decidable True)
  | .result env number result =>
    inferInstanceAs (Decidable (∀ d ∈ w.listener number,
      w.RecordOk env d ∧ w.TextOk anonymize env result d))

end DetectService

/-- A manager with ended calls of slot 0, and one with the index `index` for which it has
    just started a detection. -/
def detectingManager (ended : List ℤ) (index : ℤ) : FraudWorld :=
  let report (index : ℤ) (state : TelCallState) : FraudOp :=
    .report fraudEnv (slotCall .ims index state 0)
  let endedOps := ended.flatMap fun index =>
    [report index .incoming, report index .active, report index .disconnected]
  Run.run (fraudStep .restored) FraudWorld.init
    (endedOps ++ [report index .incoming, report index .active,
      .updateCallDetailsInfo 0 [slotCall .ims index .active 0]])

/-- The start of its detection. -/
def detectStart (ended : List ℤ) (index : ℤ) : DetectService.DetectOp :=
  .start ⟨0, 0, some (detectingManager ended index)⟩ (ended.length + 1) "10086" 0 index

/-- A result that it gets, with a fraud found in the text. -/
def detectResult (ended : List ℤ) (index : ℤ) (number : ℕ) (voiceText : String) :
    DetectService.DetectOp :=
  .result ⟨some (detectingManager ended index), true, 0, 0, 0⟩ number
    ⟨true, voiceText, false, 0, false⟩

/-- The detections of two calls are stopped, and that of a third one is running. -/
def twoStopsOps : List DetectService.DetectOp :=
  [detectStart [] 1, .stop 0 0 1, detectStart [1] 2, .stop 0 0 2, detectStart [1, 2] 3]

/-- The first of them delivers, and its result is recorded for the third call; its text
    is then uploaded with the result of the third one, which has none. And where a stopped
    detection does not deliver, the next one with its index is dropped. -/
theorem stopped_result_recorded :
    ¬ Run.StepsMeet (DetectService.step id) (DetectService.Own id) DetectService.init
        (twoStopsOps ++ [detectResult [1, 2] 3 0 "first"]) ∧
      ¬ (Run.run (DetectService.step id) DetectService.init
          (twoStopsOps ++ [detectResult [1, 2] 3 0 "first"])).Own id (detectResult [1, 2] 3 2 "") ∧
        ¬ Run.StepsMeet (DetectService.step id) (DetectService.Own id) DetectService.init
          [detectStart [] 1, .stop 0 0 1, detectStart [1] 1, detectResult [1] 1 1 "second"] := by
  refine ⟨fun h => ?_, fun h => ?_, fun h => ?_⟩
  · rw [Run.stepsMeet_congr fun _ op => DetectService.own_iff op] at h
    revert h
    decide +kernel
  · rw [DetectService.own_iff] at h
    revert h
    decide +kernel
  · rw [Run.stepsMeet_congr fun _ op => DetectService.own_iff op] at h
    revert h
    decide +kernel

end CallManager
