import CallManager.DeferredDial
import CallManager.DialPolicy

/-!
# The dial slot

`DialCall` hands its parameters over in one place: `PackageDialInformation`
writes the number and the extras into `dialSrcInfo_` and `extras_` of
`CallControlManager`, `DialRequest` takes them from there, and so does
`PackParaInfo` whenever an outgoing call object is created, be it for the first
report of the call or in place of an object of another type. Requests come on
several threads, so that the three are steps that may interleave.

The requests are numbered here in the order in which they are packaged; the
numbers and what is logged of each step are not part of the code. The dialogs,
the traces and the system events are left out.

Results:
* `parametersKept_iff`: throughout a run each `DialRequest` takes what its own
  request packaged and hands on nothing else, and each outgoing call object is
  created with the emergency flag and the extras of its own request, iff at each
  of these steps the last request packaged has the same.
* `processed_of_onePending`: if no request is packaged while another one
  waits, each `DialRequest` takes what its own request packaged.
* `emergency_dial_replaced`: an application's dial overtakes an emergency dial.
-/

namespace CallManager

/-! ## The parameters -/

/-- The extras of a dial: the integers, and the further keys that are read. -/
structure DialCallExtras extends DialExtras where
  isRTT : Bool
  bundleName : String
  isCustomAccessibility : Bool
  token : String
  phoneIndex : ℤ
  extraParams : String
  deriving DecidableEq, Repr

/-- `DialParaInfo` with the further fields that are packaged or filled from a report
    (common_type.h:36-61). -/
structure DialSrcInfo extends DialParaInfo where
  dialType : DialType
  callState : TelCallState
  isDialing : Bool
  bundleName : String
  originalCallType : ℤ
  extraParams : String
  phoneOrWatch : ℤ
  isCustomAccessibility : Bool
  token : String
  phoneIndex : ℤ
  deriving DecidableEq, Repr

/-- A request as `DialCall` packages it. -/
structure DialCallRequest where
  number : String
  extras : DialCallExtras
  isEcc : Bool
  deriving DecidableEq, Repr

/-- A report, with the further fields an outgoing call is created with. -/
structure OutgoingReport extends CallDetailInfo where
  bundleName : String
  originalCallType : ℤ
  callType_ne : callType ≠ .voip

/-- What `DialCall` asks of others: whether a number is an emergency number, the
    satellite mode, the policy, and what the carrier offers of video. -/
structure DialCallEnv where
  isEmergency : String → ℤ → Bool
  satelliteSwitchEnable : Bool
  allowedSatelliteDialCall : ErrorCode
  policy : PolicyEnv
  carrierVideoCall : Bool
  isCarrierVtConfig : ℤ → Bool

/-- What `DialRequest` asks of others: the emergency and fixed dialing numbers,
    what a carrier dial finds, whether there is a call, and whether the
    application and the headset take the dial. -/
structure DialRequestEnv where
  isEmergency : String → ℤ → Bool
  isCnSimCard : ℤ → Bool
  isFdnEnabled : ℤ → Bool
  fdnNumberList : ℤ → List String
  carrier : DialEnv
  ottCallRequest : ErrorCode
  hasCallExist : Bool
  bluetoothDial : ErrorCode

/-- A `DialRequest` that has been made: its request, what it took from the slot, what it handed
    to the dial of its type, if it came to that, and what it returned, if it did. -/
structure ProcessedDial where
  request : ℕ
  info : DialSrcInfo
  handed : Option DialSrcInfo
  ret : Option ErrorCode
  deriving DecidableEq, Repr

/-- An outgoing call object: the request it was created for, what its constructor
    was given, and whether it is an emergency contact. -/
structure OutgoingCall where
  request : ℕ
  paraInfo : DialSrcInfo
  extras : DialCallExtras
  isEccContact : Bool
  deriving DecidableEq, Repr

/-- The slot of `CallControlManager` (call_control_manager.h:281-282) and the state of the
    carrier dial; with the requests packaged so far, those whose `DialRequest` has not been made
    yet, and what was logged. -/
structure DialWorld where
  dialSrcInfo : DialSrcInfo
  extras : DialCallExtras
  dial : DialState
  requests : List DialCallRequest
  pending : List ℕ
  processed : List ProcessedDial
  created : List OutgoingCall

/-! ## `DialCall` -/

namespace CallControlManager

/-- `NumberLegalityCheck` (call_control_manager.cpp:1826-1842): a number is cut at the first
    comma. -/
def numberLegalityCheck (number : String) : ErrorCode × String :=
  if number = "" then (.callErrPhoneNumberEmpty, number)
  else if number.utf8ByteSize > maxNumberLen then (.callErrNumberOutOfRange, number)
  else (.telephonySuccess, String.ofList (number.toList.takeWhile fun c => c ≠ ','))

/-- `RemoveSeparatorsPhoneNumber` (call_number_utils.cpp:177-191). -/
def removeSeparatorsPhoneNumber (phoneString : String) : String :=
  String.ofList (phoneString.toList.filter fun c =>
    c.isDigit ∨ c = '*' ∨ c = '#' ∨ c = '+' ∨ c = 'N' ∨ c = ',' ∨ c = ';')

/-- `IsSupportVideoCall` (call_policy.cpp:309-327). -/
def isSupportVideoCall (env : DialCallEnv) (extras : DialCallExtras) : Bool :=
  env.carrierVideoCall && env.isCarrierVtConfig extras.accountId &&
    DialScene.ofInt extras.dialScene == some .normal

/-- `SetCallTypeExtras` (call_control_manager.cpp:203-215). -/
def setCallTypeExtras (env : DialCallEnv) (extras : DialCallExtras) : DialCallExtras :=
  if DialType.ofInt extras.dialType = some .carrier ∨
      DialType.ofInt extras.dialType = some .voiceMail then
    let extras := if isSupportVideoCall env extras then extras else { extras with videoState := 0 }
    if VideoStateType.ofInt extras.videoState = some .video then { extras with callType := 1 }
    else extras
  else extras

/-- `DialCall` up to `PackageDialInformation` (call_control_manager.cpp:150-191): the request,
    or why there is none. -/
def dialCallRequest (env : DialCallEnv) (number : String) (extras : DialCallExtras) :
    Except ErrorCode DialCallRequest :=
  let (ret, accountNumber) := numberLegalityCheck number
  if ret ≠ .telephonySuccess then .error ret
  else
    let newPhoneNum := removeSeparatorsPhoneNumber accountNumber
    let isEcc := env.isEmergency newPhoneNum extras.accountId
    let extras := if isEcc then { extras with dialScene := 2 } else extras
    if env.satelliteSwitchEnable ∧ env.allowedSatelliteDialCall ≠ .telephonySuccess then
      .error env.allowedSatelliteDialCall
    else
      let extras := if env.satelliteSwitchEnable then { extras with callType := 5 } else extras
      let extras :=
        if DialType.ofInt extras.dialType = some .bluetooth then { extras with callType := 6 }
        else extras
      let (ret, dialExtras) :=
        CallPolicy.dialPolicy env.policy newPhoneNum extras.toDialExtras isEcc
      let extras := { extras with toDialExtras := dialExtras }
      if ret ≠ .telephonySuccess then .error ret
      else
        let ret := CallPolicy.canDialMulityCall env.policy extras.toDialExtras isEcc
        if ret ≠ .telephonySuccess then .error ret
        else .ok ⟨newPhoneNum, setCallTypeExtras env extras, isEcc⟩

/-- `PackageDialInformation` (call_control_manager.cpp:232-251): what becomes of `dialSrcInfo_`. -/
def packageDialInformation (dialSrcInfo : DialSrcInfo) (r : DialCallRequest) : DialSrcInfo :=
  { dialSrcInfo with
    callId := errId
    number := r.number
    isDialing := true
    isEcc := r.isEcc
    isRTT := r.extras.isRTT
    callType := (CallType.ofInt r.extras.callType).getD .errCall
    accountId := r.extras.accountId
    dialType := (DialType.ofInt r.extras.dialType).getD .carrier
    videoState := (VideoStateType.ofInt r.extras.videoState).getD .voice
    originalCallType := r.extras.videoState
    bundleName := r.extras.bundleName
    isCustomAccessibility := r.extras.isCustomAccessibility
    token := r.extras.token
    phoneIndex := r.extras.phoneIndex }

end CallControlManager

/-! ## `DialRequest` -/

namespace CallRequestProcess

/-- `BluetoothDialProcess` (call_request_process.cpp:1053-1080). -/
def bluetoothDialProcess (env : DialRequestEnv) (info : DialSrcInfo) (s : DialState) :
    ErrorCode × DialState :=
  if env.isEmergency info.number info.accountId = false ∧ env.hasCallExist = true then
    (.callErrCallCountsExceedLimit, s)
  else if s.isDialingCallProcessing then (.callErrCallCountsExceedLimit, s)
  else if env.bluetoothDial ≠ .telephonySuccess then
    (env.bluetoothDial, { s with isDialingCallProcessing := false })
  else (env.carrier.updateCallReportInfo, { s with isDialingCallProcessing := true })

/-- `HandleDialRequest` with `VoiceMailDialProcess` and `OttDialProcess`
    (call_request_process.cpp:94-114, 948-965). -/
def handleDialRequest (env : DialRequestEnv) (info : DialSrcInfo) (s : DialState) :
    Option ErrorCode × DialState :=
  match info.dialType with
  | .carrier | .voiceMail => carrierDialProcess .asWritten env.carrier info.toDialParaInfo s
  | .ott => (some env.ottCallRequest, s)
  | .bluetooth => (some (bluetoothDialProcess env info s).1, (bluetoothDialProcess env info s).2)

/-- `DialRequest` (call_request_process.cpp:45-81) on what it took from the slot, with what it
    handed to `HandleDialRequest`. Where only the fixed dialing numbers may be dialed, a number
    is compared without its blanks. -/
def dialRequest (env : DialRequestEnv) (info : DialSrcInfo) (s : DialState) :
    Option DialSrcInfo × Option ErrorCode × DialState :=
  if info.isDialing = false then (none, some .callErrIllegalCallOperation, s)
  else if info.number.utf8ByteSize > maxNumberLen then (none, some .callErrNumberOutOfRange, s)
  else if env.isEmergency info.number info.accountId = false ∧ info.dialType = .carrier ∧
      env.isCnSimCard info.accountId = false ∧ env.isFdnEnabled info.accountId = true ∧
      String.ofList (info.number.toList.filter fun c => c ≠ ' ') ∉
        env.fdnNumberList info.accountId then
    (none, some .callErrDialFailed, s)
  else (some info, handleDialRequest env info s)

end CallRequestProcess

/-! ## The steps -/

namespace DialWorld

/-- The slot before the first request (call_control_manager.cpp:85-90). -/
def initInfo : DialSrcInfo where
  accountId := 0
  callId := errId
  index := 0
  isRTT := false
  number := ""
  videoState := .voice
  callType := .errCall
  isEcc := false
  dialType := .carrier
  callState := .idle
  isDialing := false
  bundleName := ""
  originalCallType := 0
  extraParams := ""
  phoneOrWatch := 0
  isCustomAccessibility := false
  token := ""
  phoneIndex := 0

/-- The extras before the first request. -/
def initExtras : DialCallExtras where
  dialType := 0
  accountId := 0
  callType := 0
  dialScene := 0
  videoState := 0
  isRTT := false
  bundleName := ""
  isCustomAccessibility := false
  token := ""
  phoneIndex := 0
  extraParams := ""

/-- The state the process starts with. -/
def init : DialWorld where
  dialSrcInfo := initInfo
  extras := initExtras
  dial := DialState.init
  requests := []
  pending := []
  processed := []
  created := []

/-- `PackageDialInformation` and the submission of the `DialRequest`. -/
def package (w : DialWorld) (r : DialCallRequest) : DialWorld :=
  { w with
    dialSrcInfo := CallControlManager.packageDialInformation w.dialSrcInfo r
    extras := r.extras
    requests := w.requests ++ [r]
    pending := w.requests.length :: w.pending }

/-- `DialRequest` of a request, on what it takes from the slot. -/
def process (w : DialWorld) (env : DialRequestEnv) (request : ℕ) : DialWorld :=
  let (handed, ret, dial) := CallRequestProcess.dialRequest env w.dialSrcInfo w.dial
  { w with
    dial := dial
    pending := w.pending.erase request
    processed := ⟨request, w.dialSrcInfo, handed, ret⟩ :: w.processed }

/-- `CreateNewCall` of an outgoing call that is no VoIP call, with `PackParaInfo`
    (call_status_manager.cpp:2007-2027, 2327-2362). -/
def createNewCall (w : DialWorld) (request : ℕ) (callId : ℤ) (info : OutgoingReport) :
    OutgoingCall where
  request := request
  paraInfo :=
    { w.dialSrcInfo with
      number := info.phoneNum
      callId := callId
      index := info.index
      videoState := info.callMode
      accountId := info.accountId
      callType := info.callType
      callState := info.state
      bundleName := info.bundleName
      originalCallType := info.originalCallType
      extraParams := w.extras.extraParams
      phoneOrWatch := info.phoneOrWatch
      phoneIndex := info.phoneIndex }
  extras := w.extras
  isEccContact := DialScene.ofInt w.extras.dialScene == some .emergency

end DialWorld

/-- One step: a call of `DialCall`, the `DialRequest` of a request, the creation of
    a call object for a request whose `DialRequest` has been made, or the end of
    the time in which one dial excludes others. -/
inductive DialSlotOp
  | dialCall (env : DialCallEnv) (number : String) (extras : DialCallExtras)
  | dialRequest (env : DialRequestEnv) (request : ℕ)
  | createNewCall (request : ℕ) (callId : ℤ) (info : OutgoingReport)
  | restoreDialingFlag

/-- The state after a step. -/
def dialSlotStep (w : DialWorld) : DialSlotOp → DialWorld
  | .dialCall env number extras =>
    match CallControlManager.dialCallRequest env number extras with
    | .error _ => w
    | .ok r => w.package r
  | .dialRequest env request =>
    if request ∈ w.pending then w.process env request else w
  | .createNewCall request callId info =>
    if request < w.requests.length ∧ request ∉ w.pending then
      { w with created := w.createNewCall request callId info :: w.created }
    else w
  | .restoreDialingFlag => { w with dial := { w.dial with isDialingCallProcessing := false } }

/-! ## Specification -/

/-- What a request packages. -/
def DialCallRequest.info (r : DialCallRequest) : DialSrcInfo :=
  CallControlManager.packageDialInformation DialWorld.initInfo r

/-- **The parameters are not mixed up**: each `DialRequest` took what its own
    request packaged and handed on nothing else, and each outgoing call has the
    emergency flag and the extras of its own request. -/
structure ParametersKept (w : DialWorld) : Prop where
  processed : ∀ d ∈ w.processed, ∀ r, w.requests[d.request]? = some r →
    d.info = r.info ∧ ∀ handed ∈ d.handed, handed = r.info
  created : ∀ c ∈ w.created, ∀ r, w.requests[c.request]? = some r →
    c.paraInfo.isEcc = r.isEcc ∧ c.extras = r.extras

/-- The condition on a step: where the slot is read for a request, the last
    request packaged has the same parameters. -/
def DialWorld.StepOk (w : DialWorld) : DialSlotOp → Prop
  | .dialRequest _ request =>
    request ∈ w.pending → ∀ last r, w.requests.getLast? = some last →
      w.requests[request]? = some r → last.info = r.info
  | .createNewCall request _ _ =>
    request < w.requests.length → request ∉ w.pending → ∀ last r,
      w.requests.getLast? = some last → w.requests[request]? = some r →
        last.isEcc = r.isEcc ∧ last.extras = r.extras
  | _ => True

/-- No request is packaged while another one waits for its `DialRequest`. -/
def DialWorld.OnePending (w : DialWorld) : DialSlotOp → Prop
  | .dialCall _ _ _ => w.pending = []
  | _ => True

namespace DialWorld

variable {w : DialWorld}

/-! ## The slot -/

/-- The slot holds what the last request packaged, and the logs are about
    requests there have been. -/
structure Tracked (w : DialWorld) : Prop where
  rest : ∀ r, CallControlManager.packageDialInformation w.dialSrcInfo r = r.info
  slot : ∀ last, w.requests.getLast? = some last →
    w.dialSrcInfo = last.info ∧ w.extras = last.extras
  pending : ∀ i ∈ w.pending, i < w.requests.length
  processed : ∀ d ∈ w.processed, d.request < w.requests.length
  created : ∀ c ∈ w.created, c.request < w.requests.length

theorem Tracked.init : Tracked DialWorld.init where
  rest _ := rfl
  slot := by
    intro last hlast
    simp [DialWorld.init] at hlast
  pending := by simp [DialWorld.init]
  processed := by simp [DialWorld.init]
  created := by simp [DialWorld.init]

theorem Tracked.package (h : w.Tracked) (r : DialCallRequest) : (w.package r).Tracked where
  rest r' := by
    have hrest := h.rest r'
    rw [← hrest]
    rfl
  slot := by
    intro last hlast
    have heq : r = last := by simpa [DialWorld.package] using hlast
    subst heq
    exact ⟨h.rest r, rfl⟩
  pending := by
    intro i hi
    have hi : i = w.requests.length ∨ i ∈ w.pending := by simpa [DialWorld.package] using hi
    have hlength : (w.package r).requests.length = w.requests.length + 1 := by
      simp [DialWorld.package]
    rcases hi with rfl | hi
    · omega
    · have := h.pending i hi
      omega
  processed d hd := by
    have hlt := h.processed d hd
    simp only [DialWorld.package, List.length_append, List.length_singleton]
    omega
  created c hc := by
    have hlt := h.created c hc
    simp only [DialWorld.package, List.length_append, List.length_singleton]
    omega

/-- A request keeps its number. -/
theorem package_requests {i : ℕ} (hi : i < w.requests.length) (r : DialCallRequest) :
    (w.package r).requests[i]? = w.requests[i]? :=
  List.getElem?_append_left hi

theorem Tracked.parametersKept_package (h : w.Tracked) (r : DialCallRequest)
    (hkept : ParametersKept w) : ParametersKept (w.package r) where
  processed := by
    intro d hd r' hr'
    rw [package_requests (h.processed d hd)] at hr'
    exact hkept.processed d hd r' hr'
  created := by
    intro c hc r' hr'
    rw [package_requests (h.created c hc)] at hr'
    exact hkept.created c hc r' hr'

/-- A request that waits has been packaged, so that there is a last one. -/
theorem exists_last {i : ℕ} (hi : i < w.requests.length) :
    ∃ last r, w.requests.getLast? = some last ∧ w.requests[i]? = some r := by
  have hne : w.requests ≠ [] := List.ne_nil_of_length_pos (by omega)
  exact ⟨w.requests.getLast hne, w.requests[i], List.getLast?_eq_some_getLast hne,
    List.getElem?_eq_getElem hi⟩

/-- What a step can do. -/
theorem step_cases (w : DialWorld) (op : DialSlotOp) :
    (∃ dial, dialSlotStep w op = { w with dial := dial } ∧ w.StepOk op) ∨
      (∃ env number extras r, op = .dialCall env number extras ∧
        dialSlotStep w op = w.package r) ∨
      (∃ env request, op = .dialRequest env request ∧ request ∈ w.pending ∧
        dialSlotStep w op = w.process env request) ∨
      (∃ request callId info, op = .createNewCall request callId info ∧
        request < w.requests.length ∧ request ∉ w.pending ∧
        dialSlotStep w op =
          { w with created := w.createNewCall request callId info :: w.created }) := by
  cases op with
  | dialCall env number extras =>
    cases hr : CallControlManager.dialCallRequest env number extras with
    | error ret => exact .inl ⟨w.dial, by simp [dialSlotStep, hr], trivial⟩
    | ok r => exact .inr (.inl ⟨env, number, extras, r, rfl, by simp [dialSlotStep, hr]⟩)
  | dialRequest env request =>
    by_cases hpending : request ∈ w.pending
    · exact .inr (.inr (.inl ⟨env, request, rfl, hpending, if_pos hpending⟩))
    · exact .inl ⟨w.dial, if_neg hpending, fun h => absurd h hpending⟩
  | createNewCall request callId info =>
    by_cases hdone : request < w.requests.length ∧ request ∉ w.pending
    · exact .inr (.inr (.inr ⟨request, callId, info, rfl, hdone.1, hdone.2, if_pos hdone⟩))
    · exact .inl ⟨w.dial, if_neg hdone, fun h h' => absurd ⟨h, h'⟩ hdone⟩
  | restoreDialingFlag => exact .inl ⟨_, rfl, trivial⟩

theorem Tracked.process (h : w.Tracked) {request : ℕ} (hpending : request ∈ w.pending)
    (env : DialRequestEnv) : (w.process env request).Tracked where
  rest := h.rest
  slot := h.slot
  pending i hi := h.pending i (List.mem_of_mem_erase hi)
  processed := by
    intro d hd
    rcases List.mem_cons.mp hd with rfl | hd
    · exact h.pending request hpending
    · exact h.processed d hd
  created := h.created

theorem Tracked.step (h : w.Tracked) (op : DialSlotOp) : (dialSlotStep w op).Tracked := by
  obtain ⟨dial, hstep, -⟩ | ⟨_, _, _, r, -, hstep⟩ | ⟨env, request, -, hpending, hstep⟩ |
    ⟨request, callId, info, -, hlt, -, hstep⟩ := step_cases w op
  · rw [hstep]
    exact ⟨h.rest, h.slot, h.pending, h.processed, h.created⟩
  · rw [hstep]
    exact h.package r
  · rw [hstep]
    exact h.process hpending env
  · rw [hstep]
    refine ⟨h.rest, h.slot, h.pending, h.processed, ?_⟩
    intro c hc
    rcases List.mem_cons.mp hc with rfl | hc
    · exact hlt
    · exact h.created c hc

/-! ## The readers -/

/-- `DialRequest` hands on what it took, if anything. -/
theorem dialRequest_handed {env : DialRequestEnv} {info handed : DialSrcInfo} {s : DialState}
    (h : handed ∈ (CallRequestProcess.dialRequest env info s).1) : handed = info := by
  unfold CallRequestProcess.dialRequest at h
  split_ifs at h
  · exact absurd h (by simp)
  · exact absurd h (by simp)
  · exact absurd h (by simp)
  · exact (Option.mem_some_iff.mp h).symm

/-- A `DialRequest` takes what its own request packaged, and hands it on, iff the
    last request packaged the same. -/
theorem Tracked.parametersKept_process (h : w.Tracked) (hkept : ParametersKept w)
    (env : DialRequestEnv) {request : ℕ} (hpending : request ∈ w.pending) :
    ParametersKept (w.process env request) ↔ w.StepOk (.dialRequest env request) := by
  obtain ⟨last, r, hlast, hr⟩ := exists_last (h.pending request hpending)
  have hslot : w.dialSrcInfo = last.info := (h.slot last hlast).1
  constructor
  · intro hkept' _ last' r' hlast' hr'
    have hinfo : w.dialSrcInfo = r'.info := (hkept'.processed _ List.mem_cons_self r' hr').1
    rw [hlast] at hlast'
    obtain rfl := Option.some.inj hlast'
    rw [← hslot, hinfo]
  · intro hok
    refine ⟨?_, hkept.created⟩
    intro d hd r' hr'
    rcases List.mem_cons.mp hd with rfl | hd
    · have hinfo : w.dialSrcInfo = r'.info := by
        rw [hslot]
        exact hok hpending last r' hlast hr'
      exact ⟨hinfo, fun handed hhanded => (dialRequest_handed hhanded).trans hinfo⟩
    · exact hkept.processed d hd r' hr'

/-- A call is created with the parameters of its own request iff the last request
    packaged has the same. -/
theorem Tracked.parametersKept_create (h : w.Tracked) (hkept : ParametersKept w) {request : ℕ}
    (callId : ℤ) (info : OutgoingReport) (hlt : request < w.requests.length)
    (hdone : request ∉ w.pending) :
    ParametersKept { w with created := w.createNewCall request callId info :: w.created } ↔
      w.StepOk (.createNewCall request callId info) := by
  obtain ⟨last, r, hlast, hr⟩ := exists_last hlt
  obtain ⟨hslot, hextras⟩ := h.slot last hlast
  have hecc : w.dialSrcInfo.isEcc = last.isEcc := by
    rw [hslot]
    rfl
  constructor
  · intro hkept' _ _ last' r' hlast' hr'
    have hcall : w.dialSrcInfo.isEcc = r'.isEcc ∧ w.extras = r'.extras :=
      hkept'.created (w.createNewCall request callId info) List.mem_cons_self r' hr'
    rw [hlast] at hlast'
    obtain rfl := Option.some.inj hlast'
    rwa [hecc, hextras] at hcall
  · intro hok
    refine ⟨hkept.processed, ?_⟩
    intro c hc r' hr'
    rcases List.mem_cons.mp hc with rfl | hc
    · show w.dialSrcInfo.isEcc = r'.isEcc ∧ w.extras = r'.extras
      rw [hecc, hextras]
      exact hok hlt hdone last r' hlast hr'
    · exact hkept.created c hc r' hr'

theorem Tracked.parametersKept_step (h : w.Tracked) (hkept : ParametersKept w) (op : DialSlotOp) :
    ParametersKept (dialSlotStep w op) ↔ w.StepOk op := by
  obtain ⟨dial, hstep, hok⟩ | ⟨_, _, _, r, rfl, hstep⟩ |
    ⟨env, request, rfl, hpending, hstep⟩ |
    ⟨request, callId, info, rfl, hlt, hdone, hstep⟩ := step_cases w op
  · rw [hstep]
    exact iff_of_true ⟨hkept.processed, hkept.created⟩ hok
  · rw [hstep]
    exact iff_of_true (h.parametersKept_package r hkept) trivial
  · rw [hstep]
    exact h.parametersKept_process hkept env hpending
  · rw [hstep]
    exact h.parametersKept_create hkept callId info hlt hdone

theorem parametersKept_init : ParametersKept DialWorld.init where
  processed := by simp [DialWorld.init]
  created := by simp [DialWorld.init]

/-- **The dial slot.** In a run of dials, `DialRequest`s and new calls in any order
    the parameters are never mixed up iff at every step that reads the slot the
    last request packaged has the parameters of the request it is read for. -/
theorem parametersKept_iff (ops : List DialSlotOp) :
    Run.StatesMeet dialSlotStep ParametersKept DialWorld.init ops ↔
      Run.StepsMeet dialSlotStep DialWorld.StepOk DialWorld.init ops :=
  Run.statesMeet_iff_stepsMeet_of_invariant (fun _ op h => h.step op)
    (fun _ op h hkept => h.parametersKept_step hkept op) ops Tracked.init parametersKept_init

/-! ## An overtaken dial -/

/-- A phone in service that offers no video, with `112` as emergency number. -/
def dialPhone : DialCallEnv where
  isEmergency number _ := number = "112"
  satelliteSwitchEnable := false
  allowedSatelliteDialCall := .telephonySuccess
  policy :=
    { CallPolicy.phone with
      hasPrivacyManager := false
      hasSimCard := fun _ => true
      airplaneMode := (.telephonySuccess, false)
      networkState := fun _ => some ⟨true, false⟩ }
  carrierVideoCall := false
  isCarrierVtConfig _ := false

/-- The same phone, which takes every dial. -/
def requestPhone : DialRequestEnv where
  isEmergency number _ := number = "112"
  isCnSimCard _ := true
  isFdnEnabled _ := false
  fdnNumberList _ := []
  carrier :=
    { isEccNumber := true
      eccDialPolicy := .telephonySuccess
      settingUp := false
      carrierCallNum := 0
      notSupportMulticall := false
      isDsdsMode5 := false
      activeCallSlot := none
      holdCall := .telephonySuccess
      isMmiCode := false
      updateCallReportInfo := .telephonySuccess
      memsetOk := true
      memcpyOk := true
      dial := .telephonySuccess
      handleDialFail := .telephonySuccess }
  ottCallRequest := .telephonySuccess
  hasCallExist := false
  bluetoothDial := .telephonySuccess

/-- The extras of a dial of a type. -/
def plainExtras (dialType callType : ℤ) : DialCallExtras :=
  { initExtras with dialType := dialType, callType := callType }

/-- A report of the emergency call. -/
def emergencyReport (callType : CallType) (hne : callType ≠ .voip) : OutgoingReport where
  index := 1
  phoneNum := "112"
  accountId := 0
  callType := callType
  callMode := .voice
  state := .dialing
  mpty := 0
  phoneOrWatch := 0
  antiFraudState := 0
  phoneIndex := 0
  voipCallInfo := {}
  bundleName := ""
  originalCallType := 0
  callType_ne := hne

/-- An emergency dial, an application's dial, and the two `DialRequest`s. -/
def overtakenDial : List DialSlotOp :=
  [.dialCall dialPhone "112" (plainExtras 0 0), .dialCall dialPhone "555" (plainExtras 2 2),
    .dialRequest requestPhone 0, .dialRequest requestPhone 1]

/-- An emergency call, a later application's dial, and the hand-over of the call
    to another type. -/
def handedOverCall : List DialSlotOp :=
  [.dialCall dialPhone "112" (plainExtras 0 0), .dialRequest requestPhone 0,
    .createNewCall 0 1 (emergencyReport .ims (by decide)),
    .dialCall dialPhone "555" (plainExtras 2 2), .dialRequest requestPhone 1,
    .createNewCall 0 2 (emergencyReport .cs (by decide))]

/-- **An emergency dial is replaced** by an application's dial, and an emergency call
    that is handed over is no emergency call any more. All requests succeed. -/
theorem emergency_dial_replaced :
    (¬ Run.StatesMeet dialSlotStep ParametersKept DialWorld.init overtakenDial ∧
      (Run.run dialSlotStep DialWorld.init overtakenDial).processed.map ProcessedDial.ret =
        [some .telephonySuccess, some .telephonySuccess]) ∧
    ¬ Run.StatesMeet dialSlotStep ParametersKept DialWorld.init handedOverCall ∧
      (Run.run dialSlotStep DialWorld.init handedOverCall).processed.map ProcessedDial.ret =
        [some .telephonySuccess, some .telephonySuccess] := by
  refine ⟨⟨fun h => ?_, by decide +kernel⟩, fun h => ?_, by decide +kernel⟩
  · have hdialed : ∃ d ∈ (Run.run dialSlotStep DialWorld.init overtakenDial).processed,
        d.request = 0 ∧ d.info.number = "555" := by decide +kernel
    have hasked : ∃ r ∈ (Run.run dialSlotStep DialWorld.init overtakenDial).requests[0]?,
        r.info.number = "112" := by decide +kernel
    obtain ⟨d, hd, hrequest, hnumber⟩ := hdialed
    obtain ⟨r, hr, hnumber'⟩ := hasked
    have hinfo := (h.last.processed d hd r (by rw [hrequest]; exact hr)).1
    rw [hinfo, hnumber'] at hnumber
    contradiction
  · have hcreated : ∃ c ∈ (Run.run dialSlotStep DialWorld.init handedOverCall).created,
        c.request = 0 ∧ c.paraInfo.isEcc = false := by decide +kernel
    have hasked : ∃ r ∈ (Run.run dialSlotStep DialWorld.init handedOverCall).requests[0]?,
        r.isEcc = true := by decide +kernel
    obtain ⟨c, hc, hrequest, hecc⟩ := hcreated
    obtain ⟨r, hr, hecc'⟩ := hasked
    have hflag := (h.last.created c hc r (by rw [hrequest]; exact hr)).1
    rw [hecc, hecc'] at hflag
    contradiction

/-! ## One request at a time -/

/-- The request that waits is the last one, and every `DialRequest` so far took
    what its own request packaged. -/
structure Single (w : DialWorld) : Prop where
  tracked : w.Tracked
  last : ∀ i ∈ w.pending, i + 1 = w.requests.length
  kept : ∀ d ∈ w.processed, ∀ r, w.requests[d.request]? = some r → d.info = r.info

theorem Single.init : Single DialWorld.init where
  tracked := Tracked.init
  last := by simp [DialWorld.init]
  kept := by simp [DialWorld.init]

theorem Single.package (h : w.Single) (hpending : w.pending = []) (r : DialCallRequest) :
    (w.package r).Single where
  tracked := h.tracked.package r
  last := by
    intro i hi
    have heq : i = w.requests.length := by simpa [DialWorld.package, hpending] using hi
    simp [DialWorld.package, heq]
  kept := by
    intro d hd r' hr'
    rw [package_requests (h.tracked.processed d hd)] at hr'
    exact h.kept d hd r' hr'

theorem Single.process (h : w.Single) {request : ℕ} (hpending : request ∈ w.pending)
    (env : DialRequestEnv) : (w.process env request).Single where
  tracked := h.tracked.process hpending env
  last i hi := h.last i (List.mem_of_mem_erase hi)
  kept := by
    intro d hd r hr
    rcases List.mem_cons.mp hd with rfl | hd
    · have hlength : w.requests.length - 1 = request := by
        have := h.last request hpending
        omega
      have hlast : w.requests.getLast? = some r := by
        rw [List.getLast?_eq_getElem?, hlength]
        exact hr
      exact (h.tracked.slot r hlast).1
    · exact h.kept d hd r hr

theorem Single.step (h : w.Single) {op : DialSlotOp} (hone : w.OnePending op) :
    (dialSlotStep w op).Single := by
  have htracked := h.tracked.step op
  obtain ⟨dial, hstep, -⟩ | ⟨_, _, _, r, rfl, hstep⟩ | ⟨env, request, -, hpending, hstep⟩ |
    ⟨request, callId, info, -, -, -, hstep⟩ := step_cases w op
  · rw [hstep] at htracked ⊢
    exact ⟨htracked, h.last, h.kept⟩
  · rw [hstep]
    exact h.package hone r
  · rw [hstep]
    exact h.process hpending env
  · rw [hstep] at htracked ⊢
    exact ⟨htracked, h.last, h.kept⟩

/-- If no request is packaged while another one waits, each `DialRequest` takes
    what its own request packaged. -/
theorem processed_of_onePending {ops : List DialSlotOp}
    (hone : Run.StepsMeet dialSlotStep DialWorld.OnePending DialWorld.init ops) :
    ∀ d ∈ (Run.run dialSlotStep DialWorld.init ops).processed, ∀ r,
      (Run.run dialSlotStep DialWorld.init ops).requests[d.request]? = some r → d.info = r.info :=
  (Run.statesMeet_of_stepsMeet (P := DialWorld.Single) (fun _ _ h hok => h.step hok)
    Single.init hone).last.kept

end DialWorld

end CallManager
