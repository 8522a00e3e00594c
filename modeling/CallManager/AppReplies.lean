import CallManager.AppRequests

/-!
# The replies to the applications

The handler of a request calls the service and writes its result to the reply, with
the output parameters, and returns a code, which is what the proxy's `SendRequest`
returns. If that is an error the proxy does not read the reply.

Each handler returns either the result of the service or `TELEPHONY_SUCCESS`; each
method of the proxy returns either the error of `SendRequest` or
`TELEPHONY_ERR_IPC_CONNECT_STUB_FAIL` for it. So a result that is returned is lost
where the proxy replaces errors. Some handlers write the output parameters before the
result, whatever it is, and from variables without an initial value.

Specification (`Told`): the client gets the result of the service, or the code of the
handler that refuses; and where the service fails the handler writes no output that
the service has not assigned.

`TELEPHONY_SUCCESS`, `TELEPHONY_ERR_SUCCESS` and `ERR_NONE` are zero; the other codes
are any, but not zero. Failures to write the reply are left out.

Results:
* `told_iff`: when the client gets the true result, method by method.
* `answerCall_masked`: the results of `AnswerCall`, `RegisterVoipCallManagerCallback` and
  `IsImsSwitchEnabled`.
-/

namespace CallManager.AppRequests

open MessageParcel hiding queue
open FullMessageParcel

/-! ## Codes and results -/

/-- The codes of both sides (call_manager_errors.h and the platform's own codes). -/
structure IpcCodes where
  ipcConnectStubFail : Int32
  writeReplyFail : Int32
  refusal : Refusal → Int32
  ipcConnectStubFail_ne : ipcConnectStubFail ≠ 0
  writeReplyFail_ne : writeReplyFail ≠ 0
  refusal_ne : ∀ r, refusal r ≠ 0

/-- The output parameters: a flag (`enabled`, `result`), a number (`mainCallId`, `state`),
    `callId`, a text (`token`, `phoneNumber`), `formatNumber` and `callIdList`. -/
inductive Output
  | flag | value | callId | text | formatNumber | callIdList
  deriving DecidableEq, Repr

/-- Values of the output parameters. -/
structure OutputValues where
  flag : Bool
  value : Int32
  callId : Int32
  text : ByteString
  formatNumber : U16String
  callIdList : List U16String
  deriving DecidableEq, Repr

/-- What the service returns, by the type of the method, and the output parameters that it
    assigns. -/
structure ServiceResult where
  result : Int32
  answer : Bool
  object : Option ℕ
  assigned : List Output
  outputs : OutputValues
  deriving DecidableEq, Repr

/-- What the client gets. -/
inductive Returned
  | code (result : Int32)
  | answer (result : Bool)
  | object (object : Option ℕ)
  deriving DecidableEq, Repr

/-! ## The handlers -/

/-- The forms of a reply: the result; the result, and an output if it is zero; outputs and
    then the result; an answer; an object. -/
inductive ReplyForm
  | result
  | resultThen (output : Output)
  | outputsThenResult (outputs : List Output)
  | answer
  | object
  deriving DecidableEq, Repr

/-- What a handler writes one after the other. -/
inductive ReplyEntry
  | result
  | output (o : Output)
  | answer
  | object
  deriving DecidableEq, Repr

/-- What a reply of the form consists of. -/
def ReplyForm.entries (form : ReplyForm) (result : Int32) : List ReplyEntry :=
  match form with
  | .result => [.result]
  | .resultThen o => if result = 0 then [.result, .output o] else [.result]
  | .outputsThenResult outputs => outputs.map .output ++ [.result]
  | .answer => [.answer]
  | .object => [.object]

namespace ServiceCall

/-- The form in which the handler writes the reply (call_manager_service_stub.cpp:308-1799). -/
def form : ServiceCall → ReplyForm
  | makeCallWithToken _ _ => .resultThen .text
  | isNewCallAllowed | isRinging | isInEmergencyCall => .resultThen .flag
  | isEmergencyPhoneNumber _ _ => .resultThen .flag
  | formatPhoneNumber _ _ | formatPhoneNumberToE164 _ _ => .resultThen .formatNumber
  | getMainCallId _ => .resultThen .value
  | getSubCallIdList _ | getCallIdListForConference _ => .resultThen .callIdList
  | canSetCallTransferTime _ _ | isImsSwitchEnabled _ => .outputsThenResult [.flag]
  | getVoNRState _ | getVoIPCallState => .outputsThenResult [.value]
  | getVoIPCallInfo => .outputsThenResult [.callId, .value, .text]
  | hasCall _ | endCall | hasDistributedCommunicationCapability => .answer
  | checkCallRecordingPermission _ _ => .answer
  | getProxyObjectPtr _ | registerBluetoothCallManagerCallbackPtr _ _ => .object
  | _ => .result

/-- The handler returns the service's result, and not `TELEPHONY_SUCCESS`
    (call_manager_service_stub.cpp:308-1799). -/
def ReturnsResult : ServiceCall → Bool
  | registerCallBack _ | unRegisterCallBack | observerOnCallDetailsChange | dialCall _ _
  | makeCall _ | makeCallWithToken _ _ | answerCall _ _ _ | rejectCall _ _ _ | hangUpCall _
  | holdCall _ | unHoldCall _ | switchCall _ | isNewCallAllowed | isRinging | isInEmergencyCall
  | isEmergencyPhoneNumber _ _ | formatPhoneNumber _ _ | formatPhoneNumberToE164 _ _
  | getMainCallId _ | getSubCallIdList _ | getCallIdListForConference _
  | unRegisterVoipCallManagerCallback | sendCallUiEvent _ _ | preloadCallUi _
  | sendUssdResponse _ _ | notifyVoIPAudioStreamStart _ | sendRttMessage _ _
  | updateImsRttCallMode _ _ | setCallAudioMode _ _ | answerCallNoParam | rejectCallNoParam
  | rejectCallWithType _ | hangUpCallNoParam | registerTransferController _
  | unRegisterTransferController | notifyTransferCallContact _ => true
  | _ => false

/-- What the variables of the handler hold before the call; `memory` is what those without
    an initial value hold. -/
def locals (call : ServiceCall) (memory : OutputValues) : OutputValues :=
  match call with
  | canSetCallTransferTime _ result => { memory with flag := result }
  | isImsSwitchEnabled _ | getVoNRState _ | getVoIPCallState => memory
  | getVoIPCallInfo => { memory with text := [] }
  | _ => ⟨false, 0, 0, [], [], []⟩

/-- The codes with which the handler may return before it calls the service. -/
def refusals : ServiceCall → List Refusal
  | registerCallBack _ | registerTransferController _ => [.fail]
  | dialCall _ _ | makeCall _ | makeCallWithToken _ _ => [.numberOutOfRange]
  | setAudioDevice _ | setCallRestriction _ _ | setCallTransferInfo _ _ => [.localPtrNull]
  | reportOttCallDetailsInfo _ => [.argumentInvalid, .localPtrNull]
  | reportOttCallEventInfo _ => [.fail]
  | joinConference _ _ => [.writeDataFail]
  | checkCallRecordingPermission _ _ => [.numberOutOfRange]
  | _ => []

end ServiceCall

/-- How a request goes: the handler refuses it, or the service returns. -/
inductive Outcome (call : ServiceCall)
  | refused (refusal : Refusal) (h : refusal ∈ call.refusals)
  | served (r : ServiceResult)

section Replies

variable (memory : OutputValues) (codes : IpcCodes)

/-- The variables of the handler after the call. -/
def assign (r : ServiceResult) (locals : OutputValues) : OutputValues where
  flag := if .flag ∈ r.assigned then r.outputs.flag else locals.flag
  value := if .value ∈ r.assigned then r.outputs.value else locals.value
  callId := if .callId ∈ r.assigned then r.outputs.callId else locals.callId
  text := if .text ∈ r.assigned then r.outputs.text else locals.text
  formatNumber := if .formatNumber ∈ r.assigned then r.outputs.formatNumber else locals.formatNumber
  callIdList := if .callIdList ∈ r.assigned then r.outputs.callIdList else locals.callIdList

/-- What stands for an output in the reply. -/
def OutputValues.item (values : OutputValues) : Output → ParcelItem
  | .flag => .bool values.flag
  | .value => .int32 values.value
  | .callId => .int32 values.callId
  | .text => .string values.text
  | .formatNumber => .string16 values.formatNumber
  | .callIdList => .string16Vector values.callIdList

/-- What stands for an entry in the reply. -/
def entryItems (r : ServiceResult) (values : OutputValues) : ReplyEntry → List ParcelItem
  | .result => [.int32 r.result]
  | .output o => [values.item o]
  | .answer => [.bool r.answer]
  | .object => ServiceCall.writeRemoteObject r.object

/-- The handler's error when there is no object to write
    (call_manager_service_stub.cpp:1418-1427, 1540-1558). -/
def noObject : ServiceCall → Int32
  | .registerBluetoothCallManagerCallbackPtr _ _ => codes.refusal .fail
  | _ => codes.writeReplyFail

/-- The handler's code and reply once the service has returned. -/
def respond (call : ServiceCall) (r : ServiceResult) : Int32 × List ParcelItem :=
  let values := assign r (call.locals memory)
  let reply := (call.form.entries r.result).flatMap (entryItems r values)
  if call.form = .object ∧ r.object = none then (noObject codes call, reply)
  else if call.ReturnsResult = true then (r.result, reply)
  else (0, reply)

/-- The reply of a handler that refuses. -/
def refusalReply (refusal : Refusal) : ServiceCall → List ParcelItem
  | .registerCallBack _ | .registerTransferController _ => [.int32 (codes.refusal refusal)]
  | _ => []

/-- The handler's code and reply. -/
def handlerReply (call : ServiceCall) : Outcome call → Int32 × List ParcelItem
  | .refused refusal _ => (codes.refusal refusal, refusalReply codes refusal call)
  | .served r => respond memory codes call r

end Replies

/-! ## The proxy -/

namespace ServiceCall

/-- The method of the proxy returns the error of `SendRequest` as it is
    (call_manager_service_proxy.cpp). -/
def PassesError : ServiceCall → Bool
  | registerCallBack _ | getCallWaiting _ | setCallWaiting _ _ | getCallRestriction _ _
  | setCallRestriction _ _ | setCallRestrictionPassword _ _ _ _ | getCallTransferInfo _ _
  | setCallTransferInfo _ _ | setCallPreferenceMode _ _ | controlCamera _ _
  | setPreviewWindow _ _ _ | setDisplayWindow _ _ _ | setCameraZoom _ | setPausePicture _ _
  | setDeviceDirection _ _ | setImsConfig _ _ _ | getImsFeatureValue _ _
  | setImsFeatureValue _ _ _ | reportOttCallDetailsInfo _ | reportOttCallEventInfo _
  | closeUnFinishedUssd _ | inputDialerSpecialCode _ | removeMissedIncomingCallNotification
  | cancelCallUpgrade _ | requestCameraCapabilities _ | setCallPolicyInfo _ _ _ _
  | setCallAudioMode _ _ | getCallTransferInfoByNumber _ _ => true
  | _ => false

/-- The method of the proxy replaces every result but success
    (call_manager_service_proxy.cpp:64-72, 230-238). -/
def ReplacesResult : ServiceCall → Bool
  | observerOnCallDetailsChange | registerVoipCallManagerCallback => true
  | _ => false

/-- What the method returns when `SendRequest` fails. -/
def onError (codes : IpcCodes) (call : ServiceCall) (error : Int32) : Returned :=
  match call.form with
  | .answer => .answer false
  | .object => .object none
  | _ => if call.PassesError then .code error else .code codes.ipcConnectStubFail

end ServiceCall

section Proxy

variable {P : FullMessageParcel}

/-- Read an output parameter. -/
def readOutput (values : OutputValues) : Output → Reader P.toMessageParcel OutputValues
  | .flag => do return { values with flag := ← bool }
  | .value => do return { values with value := ← int32 }
  | .callId => do return { values with callId := ← int32 }
  | .text => do return { values with text := ← string }
  | .formatNumber => do return { values with formatNumber := ← string16 }
  | .callIdList => do
    let callIdList ← string16Vector
    return { values with callIdList := callIdList.getD values.callIdList }

/-- Read the reply: what is returned, and the caller's output parameters. -/
def readReply (form : ReplyForm) (values : OutputValues) :
    Reader P.toMessageParcel (Returned × OutputValues) :=
  match form with
  | .result => do return (.code (← int32), values)
  | .resultThen o => do
    let result ← int32
    if result = 0 then return (.code result, ← readOutput values o)
    else return (.code result, values)
  | .outputsThenResult outputs => do
    let values ← outputs.foldlM readOutput values
    return (.code (← int32), values)
  | .answer => do return (.answer (← bool), values)
  | .object => do return (.object (← remoteObject), values)

/-- What a method of the proxy makes of the code of `SendRequest` and the reply. -/
def receive (codes : IpcCodes) (call : ServiceCall) (values : OutputValues) (error : Int32)
    (reply : P.Parcel) : Returned × OutputValues :=
  if error ≠ 0 then (call.onError codes error, values)
  else
    let (returned, values) := (readReply (P := P) call.form values reply).1
    if call.ReplacesResult = true ∧ returned ≠ .code 0 then
      (.code codes.ipcConnectStubFail, values)
    else (returned, values)

/-- A request from the handler's outcome to what the client gets. -/
def clientResult (P : FullMessageParcel) (codes : IpcCodes) (memory values : OutputValues)
    (call : ServiceCall) (outcome : Outcome call) : Returned × OutputValues :=
  let (code, reply) := handlerReply memory codes call outcome
  receive (P := P) codes call values code (P.writeAll P.empty reply)

end Proxy

/-! ## Specification -/

/-- What the service returns, in a reply of the form. -/
def ReplyForm.returned (form : ReplyForm) (r : ServiceResult) : Returned :=
  match form with
  | .answer => .answer r.answer
  | .object => .object r.object
  | _ => .code r.result

/-- What the code of a handler that refuses is to the client. -/
def ReplyForm.refused (form : ReplyForm) (code : Int32) : Returned :=
  match form with
  | .answer => .answer false
  | .object => .object none
  | _ => .code code

/-- The client gets the code of the handler that refuses, or the service's result; and of a
    service that fails no output is written that it has not assigned. -/
def Told (P : FullMessageParcel) (codes : IpcCodes) (memory values : OutputValues)
    (call : ServiceCall) (outcome : Outcome call) : Prop :=
  let returned := (clientResult P codes memory values call outcome).1
  match outcome with
  | .refused refusal _ => returned = call.form.refused (codes.refusal refusal)
  | .served r =>
    returned = call.form.returned r ∧
      (r.result ≠ 0 → ∀ o, .output o ∈ call.form.entries r.result → o ∈ r.assigned)

/-- A code that the handler returns is not replaced by the proxy. -/
def Survives (codes : IpcCodes) (call : ServiceCall) (code : Int32) : Prop :=
  call.PassesError = true ∨ code = 0 ∨ code = codes.ipcConnectStubFail

/-- The condition. -/
def ToldOk (codes : IpcCodes) (call : ServiceCall) : Outcome call → Prop
  | .refused refusal _ => call.form = .answer ∨ Survives codes call (codes.refusal refusal)
  | .served r =>
    (call.ReturnsResult = true → Survives codes call r.result) ∧
      (call.ReplacesResult = true → r.result = 0 ∨ r.result = codes.ipcConnectStubFail) ∧
      ∀ outputs, call.form = .outputsThenResult outputs →
        r.result = 0 ∨ ∀ o ∈ outputs, o ∈ r.assigned

/-! ## The proxy on what was written -/

namespace ServiceCall

/-- The handlers that return the result write it first. -/
theorem form_of_returnsResult {call : ServiceCall} (h : call.ReturnsResult = true) :
    call.form = .result ∨ ∃ o, call.form = .resultThen o := by
  cases call with
  | makeCallWithToken | isNewCallAllowed | isRinging | isInEmergencyCall | isEmergencyPhoneNumber
  | formatPhoneNumber | formatPhoneNumberToE164 | getMainCallId | getSubCallIdList
  | getCallIdListForConference => exact Or.inr ⟨_, rfl⟩
  | canSetCallTransferTime | isImsSwitchEnabled | getVoNRState | getVoIPCallState | getVoIPCallInfo
  | hasCall | endCall | hasDistributedCommunicationCapability | checkCallRecordingPermission
  | getProxyObjectPtr | registerBluetoothCallManagerCallbackPtr => nomatch h
  | _ => exact Or.inl rfl

theorem form_of_replacesResult {call : ServiceCall} (h : call.ReplacesResult = true) :
    call.form = .result := by
  cases call with
  | observerOnCallDetailsChange | registerVoipCallManagerCallback => rfl
  | _ => nomatch h

theorem passesError_of_replacesResult {call : ServiceCall} (h : call.ReplacesResult = true) :
    call.PassesError = false := by
  cases call with
  | observerOnCallDetailsChange | registerVoipCallManagerCallback => rfl
  | _ => nomatch h

/-- No handler of a method that returns an object refuses. -/
theorem form_of_mem_refusals {call : ServiceCall} {refusal : Refusal}
    (h : refusal ∈ call.refusals) : call.form ≠ .object := by
  cases call with
  | getProxyObjectPtr | registerBluetoothCallManagerCallbackPtr => nomatch h
  | makeCallWithToken | isNewCallAllowed | isRinging | isInEmergencyCall | isEmergencyPhoneNumber
  | formatPhoneNumber | formatPhoneNumberToE164 | getMainCallId | getSubCallIdList
  | getCallIdListForConference | canSetCallTransferTime | isImsSwitchEnabled | getVoNRState
  | getVoIPCallState | getVoIPCallInfo | hasCall | endCall
  | hasDistributedCommunicationCapability | checkCallRecordingPermission =>
    exact fun hform => nomatch hform
  | _ => exact fun hform => nomatch hform

end ServiceCall

section Reading

variable {P : FullMessageParcel}

/-- An output is read as it is written, and the others stay. -/
theorem reads_readOutput (values written : OutputValues) (o : Output) :
    ∃ values', Reads (P := P.toMessageParcel) (readOutput values o) [written.item o] values' := by
  cases o with
  | flag => exact ⟨_, .next (reads_bool _) (.pure _)⟩
  | value | callId => exact ⟨_, .next (reads_int32 _) (.pure _)⟩
  | text => exact ⟨_, .next (reads_string _) (.pure _)⟩
  | formatNumber => exact ⟨_, .next (reads_string16 _) (.pure _)⟩
  | callIdList => exact ⟨_, .next (reads_string16Vector _) (.pure _)⟩

theorem reads_readOutputs (values written : OutputValues) (outputs : List Output) :
    ∃ values', Reads (P := P.toMessageParcel) (outputs.foldlM readOutput values)
      (outputs.map written.item) values' := by
  induction outputs generalizing values with
  | nil => exact ⟨values, .pure _⟩
  | cons o outputs ih =>
    obtain ⟨values₁, h₁⟩ := reads_readOutput (P := P) values written o
    obtain ⟨values₂, h₂⟩ := ih values₁
    rw [List.foldlM_cons]
    exact ⟨values₂, .next h₁ h₂⟩

/-- The reply is read in the form in which it is written. -/
theorem reads_readReply {form : ReplyForm} {r : ServiceResult}
    (hobject : form = .object → r.object ≠ none) (values written : OutputValues) :
    ∃ values', Reads (P := P.toMessageParcel) (readReply form values)
      ((form.entries r.result).flatMap (entryItems r written)) (form.returned r, values') := by
  cases form with
  | result => exact ⟨_, .next (reads_int32 _) (.pure _)⟩
  | answer => exact ⟨_, .next (reads_bool _) (.pure _)⟩
  | object =>
    obtain ⟨object, hr⟩ := Option.ne_none_iff_exists'.mp (hobject rfl)
    refine ⟨values, ?_⟩
    show Reads _ (ServiceCall.writeRemoteObject r.object ++ []) (Returned.object r.object, values)
    rw [hr]
    exact .next (reads_remoteObject object) (.pure _)
  | resultThen o =>
    unfold ReplyForm.entries
    by_cases hzero : r.result = 0
    · obtain ⟨values', h⟩ := reads_readOutput (P := P) values written o
      refine ⟨values', ?_⟩
      simp only [hzero, if_true]
      refine .next (reads_int32 _) ?_
      rw [if_pos hzero]
      exact .next h (.pure _)
    · refine ⟨values, ?_⟩
      simp only [hzero, if_false]
      refine .next (reads_int32 _) ?_
      rw [if_neg hzero]
      exact .pure _
  | outputsThenResult outputs =>
    obtain ⟨values', h⟩ := reads_readOutputs (P := P) values written outputs
    refine ⟨values', ?_⟩
    have hitems : ((ReplyForm.outputsThenResult outputs).entries r.result).flatMap
        (entryItems r written) = outputs.map written.item ++ [.int32 r.result] := by
      unfold ReplyForm.entries
      rw [List.flatMap_append, List.flatMap_map, List.map_eq_flatMap]
      rfl
    rw [hitems]
    exact .bind h (.next (reads_int32 _) (.pure _))

end Reading

/-! ## What the client gets -/

section Client

variable {P : FullMessageParcel} {codes : IpcCodes} {memory values : OutputValues}
  {call : ServiceCall}

/-- An error of the handler, as the client gets it. -/
theorem onError_eq_iff {code : Int32} (hform : call.form ≠ .object) :
    call.onError codes code = call.form.refused code ↔
      call.form = .answer ∨ call.PassesError = true ∨ code = codes.ipcConnectStubFail := by
  unfold ServiceCall.onError ReplyForm.refused
  cases hcall : call.form with
  | object => exact absurd hcall hform
  | answer => simp
  | result | resultThen | outputsThenResult =>
    by_cases hpasses : call.PassesError = true
    · simp [hpasses]
    · simp [hpasses, eq_comm]

/-- A refusal reaches the client. -/
theorem refused_told_iff {refusal : Refusal} (h : refusal ∈ call.refusals) :
    Told P codes memory values call (.refused refusal h) ↔ ToldOk codes call (.refused refusal h) := by
  have hne : codes.refusal refusal ≠ 0 := codes.refusal_ne refusal
  have hclient : (clientResult P codes memory values call (.refused refusal h)).1 =
      call.onError codes (codes.refusal refusal) := by
    show (if codes.refusal refusal ≠ 0 then _ else _ : Returned × OutputValues).1 = _
    rw [if_pos hne]
  show (clientResult P codes memory values call (.refused refusal h)).1 = _ ↔ _
  rw [hclient, onError_eq_iff (ServiceCall.form_of_mem_refusals h)]
  unfold ToldOk Survives
  simp [hne]

/-- The outputs that are written of a service that fails. -/
theorem outputs_assigned_iff {form : ReplyForm} {r : ServiceResult} :
    (r.result ≠ 0 → ∀ o, .output o ∈ form.entries r.result → o ∈ r.assigned) ↔
      ∀ outputs, form = .outputsThenResult outputs →
        r.result = 0 ∨ ∀ o ∈ outputs, o ∈ r.assigned := by
  unfold ReplyForm.entries
  by_cases hzero : r.result = 0
  · simp [hzero]
  · cases form <;> simp [hzero]

/-- The reply of a handler that returns success is read. -/
theorem served_read {r : ServiceResult} (hobject : call.form = .object → r.object ≠ none)
    (hcode : call.ReturnsResult = true → r.result = 0) :
    (clientResult P codes memory values call (.served r)).1 =
      if call.ReplacesResult = true ∧ call.form.returned r ≠ .code 0 then
        .code codes.ipcConnectStubFail
      else call.form.returned r := by
  have hrespond : respond memory codes call r = (0, (call.form.entries r.result).flatMap
      (entryItems r (assign r (call.locals memory)))) := by
    unfold respond
    rw [if_neg fun h => hobject h.1 h.2]
    split_ifs with hreturns
    · rw [hcode hreturns]
    · rfl
  obtain ⟨values', hreads⟩ := reads_readReply (P := P) hobject values
    (assign r (call.locals memory))
  have hclient : clientResult P codes memory values call (.served r) =
      receive codes call values (respond memory codes call r).1
        (P.writeAll P.empty (respond memory codes call r).2) := rfl
  have hcontents := contents_writeAll (P := P.toMessageParcel) P.empty
    ((call.form.entries r.result).flatMap (entryItems r (assign r (call.locals memory))))
  rw [P.contents_empty, List.nil_append] at hcontents
  obtain ⟨hv, -⟩ := hreads.all _ hcontents
  rw [hclient, hrespond]
  unfold receive
  rw [if_neg (not_not.mpr rfl), hv]
  dsimp only
  split_ifs <;> rfl

/-- A result that the handler returns as an error. -/
theorem served_error {r : ServiceResult} (hreturns : call.ReturnsResult = true)
    (hne : r.result ≠ 0) :
    (clientResult P codes memory values call (.served r)).1 = call.onError codes r.result := by
  have hform : ¬ (call.form = .object ∧ r.object = none) := by
    rintro ⟨hobject, -⟩
    rcases ServiceCall.form_of_returnsResult hreturns with h | ⟨o, h⟩ <;> rw [h] at hobject <;>
      nomatch hobject
  have hrespond : (respond memory codes call r).1 = r.result := by
    unfold respond
    rw [if_neg hform, if_pos hreturns]
  show (receive codes call values (respond memory codes call r).1 _).1 = _
  rw [hrespond]
  unfold receive
  rw [if_pos hne]

/-- A method that returns an object gets none if there is none. -/
theorem served_noObject {r : ServiceResult} (hform : call.form = .object) (hr : r.object = none) :
    (clientResult P codes memory values call (.served r)).1 = .object none := by
  have hrespond : (respond memory codes call r).1 = noObject codes call := by
    unfold respond
    rw [if_pos ⟨hform, hr⟩]
  have hne : noObject codes call ≠ 0 := by
    unfold noObject
    split
    · exact codes.refusal_ne _
    · exact codes.writeReplyFail_ne
  show (receive codes call values (respond memory codes call r).1 _).1 = _
  rw [hrespond]
  unfold receive ServiceCall.onError
  rw [if_pos hne, hform]

/-- The result of the service reaches the client. -/
theorem served_returned_iff (r : ServiceResult) :
    (clientResult P codes memory values call (.served r)).1 = call.form.returned r ↔
      (call.ReturnsResult = true → Survives codes call r.result) ∧
        (call.ReplacesResult = true → r.result = 0 ∨ r.result = codes.ipcConnectStubFail) := by
  by_cases herror : call.ReturnsResult = true ∧ r.result ≠ 0
  · obtain ⟨hreturns, hne⟩ := herror
    have hform := ServiceCall.form_of_returnsResult hreturns
    have hobject : call.form ≠ .object := by
      rcases hform with h | ⟨o, h⟩ <;> rw [h] <;> exact fun h => nomatch h
    have hanswer : call.form ≠ .answer := by
      rcases hform with h | ⟨o, h⟩ <;> rw [h] <;> exact fun h => nomatch h
    have hreturned : call.form.returned r = call.form.refused r.result := by
      rcases hform with h | ⟨o, h⟩ <;> rw [h] <;> rfl
    rw [served_error hreturns hne, hreturned, onError_eq_iff hobject, or_iff_right hanswer]
    unfold Survives
    constructor
    · intro h
      refine ⟨fun _ => h.imp_right Or.inr, fun hreplaces => ?_⟩
      rcases h with hpasses | heq
      · rw [ServiceCall.passesError_of_replacesResult hreplaces] at hpasses
        nomatch hpasses
      · exact Or.inr heq
    · intro h
      exact (h.1 hreturns).imp_right fun h => h.resolve_left hne
  · have hcode : call.ReturnsResult = true → r.result = 0 := fun hreturns =>
      not_not.mp fun hne => herror ⟨hreturns, hne⟩
    have hsurvives : call.ReturnsResult = true → Survives codes call r.result :=
      fun hreturns => Or.inr (Or.inl (hcode hreturns))
    rw [and_iff_right hsurvives]
    by_cases hnone : call.form = .object ∧ r.object = none
    · obtain ⟨hform, hr⟩ := hnone
      have hreplaces : call.ReplacesResult ≠ true := fun h => by
        rw [ServiceCall.form_of_replacesResult h] at hform
        nomatch hform
      rw [served_noObject hform hr, hform]
      exact iff_of_true (congrArg Returned.object hr.symm) fun h => absurd h hreplaces
    · rw [served_read (fun hform hr => hnone ⟨hform, hr⟩) hcode]
      by_cases hreplaces : call.ReplacesResult = true
      · rw [ServiceCall.form_of_replacesResult hreplaces]
        show (if _ ∧ Returned.code r.result ≠ .code 0 then _ else _) = Returned.code r.result ↔ _
        by_cases hzero : r.result = 0
        · simp [hzero, ReplyForm.returned]
        · simp [hreplaces, hzero, eq_comm]
      · simp [hreplaces]

end Client

/-! ## Main result -/

/-- **Main theorem.** The client gets the result of the service, or the code of the handler
    that refuses, and no output is written of a service that fails but those it has
    assigned, iff the proxy does not replace what the handler returns, and a handler that
    writes outputs first has them assigned. -/
theorem told_iff (P : FullMessageParcel) (codes : IpcCodes) (memory values : OutputValues)
    (call : ServiceCall) (outcome : Outcome call) :
    Told P codes memory values call outcome ↔ ToldOk codes call outcome := by
  cases outcome with
  | refused refusal h => exact refused_told_iff h
  | served r =>
    show (_ = _ ∧ _) ↔ _
    rw [served_returned_iff, outputs_assigned_iff]
    exact and_assoc

/-- Codes that differ from each other and from the one below. -/
def someCodes : IpcCodes where
  ipcConnectStubFail := 2
  writeReplyFail := 3
  refusal _ := 4
  ipcConnectStubFail_ne := by decide
  writeReplyFail_ne := by decide
  refusal_ne _ := by decide

/-- Nothing in the output parameters. -/
def noOutputs : OutputValues := ⟨false, 0, 0, [], [], []⟩

/-- A service that fails and assigns nothing. -/
def failedResult : ServiceResult := ⟨5, false, none, [], noOutputs⟩

/-- A failing `AnswerCall` and a failing `RegisterVoipCallManagerCallback` are an IPC error
    to the client, a number that is too long for `DialCall` too, and `IsImsSwitchEnabled`
    writes a flag that nobody has set. -/
theorem answerCall_masked :
    ¬ Told FullMessageParcel.queue someCodes noOutputs noOutputs (.answerCall 1 0 false)
        (.served failedResult) ∧
      ¬ Told FullMessageParcel.queue someCodes noOutputs noOutputs .registerVoipCallManagerCallback
          (.served failedResult) ∧
        ¬ Told FullMessageParcel.queue someCodes noOutputs noOutputs
            (.dialCall (List.replicate 256 48) .empty)
            (.refused .numberOutOfRange List.mem_cons_self) ∧
          ¬ Told FullMessageParcel.queue someCodes noOutputs noOutputs (.isImsSwitchEnabled 0)
            (.served failedResult) := by
  refine ⟨fun h => ?_, fun h => ?_, fun h => ?_, fun h => ?_⟩
  · rcases ((served_returned_iff failedResult).mp h.1).1 rfl with hpasses | hresult
    · nomatch hpasses
    · revert hresult
      decide
  · have hresult := ((served_returned_iff failedResult).mp h.1).2 rfl
    revert hresult
    decide
  · rcases (refused_told_iff List.mem_cons_self).mp h with hform | hpasses | hresult
    · nomatch hform
    · nomatch hpasses
    · revert hresult
      decide
  · have hflag := h.2 (by decide) .flag List.mem_cons_self
    nomatch hflag

end CallManager.AppRequests
