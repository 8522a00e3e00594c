import CallManager.CallAttributeCodec
import CallManager.RefreshedCall
import CallManager.VoipList

/-!
# The record of a disconnected call

When a call is disconnected, `CallRecordsManager` makes a `CallRecordInfo` of
its attributes and gives it to the handler, which writes it to the call log. The
applications are told of the same call by `CallAbilityReportProxy`, with the
number cut at its post-dial part.

An array of characters is the C string in it, but for the details of a
detection, which may fill their array. `difftime` gives a `double`, and a
`double` that is not in the range of `uint32_t` has no value there: a duration is
`none` then. The settings, the installed bundles, the Bluetooth devices, the
country and the formatting of numbers are the environment. Attributes that no
record has are left out.

Specification: a disconnected call that is not a VoIP call is recorded once, with
the number before the first ',' or ';', which is the number that the
applications are shown. A duration is the end minus the begin if both are set and
the end is not before the begin, and else 0.

Results:
* `callStateUpdated_eq`: what is stored for a call that is disconnected.
* `recorded_iff`: the specification holds iff the number before the first ',' has
  no ';' and at most 254 characters, the location has at most 254, the
  details do not fill their array, and the times do not go back, nor on by
  2^32 seconds.
* `semicolon_recorded`: "10086;1" is recorded as it is and shown as "10086".
-/

namespace CallManager.CallRecords

open CallAttributeCodec (NumberMarkInfo maxBundleNameLen)

/-! ## The call and its attributes -/

/-- The fields of a `CallBase` that its record is made from (call_base.h:179-240). `name`,
    `simType` and `simIndex` are those read from its extra parameters. -/
structure Call where
  callId : ℤ
  callType : CallType
  accountNumber : ByteString
  callBeginTime : ℤ
  callCreateTime : ℤ
  callEndTime : ℤ
  ringBeginTime : ℤ
  ringEndTime : ℤ
  direction : CallDirection
  answerType : CallAnswerType
  accountId : ℤ
  originalCallType : ℤ
  celiaCallType : ℤ
  name : ByteString
  simType : ℤ
  simIndex : ℤ
  numberLocation : ByteString
  contactName : ByteString
  numberMarkInfo : NumberMarkInfo
  antiFraudRisk : Bool
  blockReason : ℤ
  bundleName : ByteString
  detectDetails : ByteString
  btCallSlotId : ℤ
  phoneIndex : ℤ
  isAiAutoAnswer : Bool
  newCallUseBox : ℤ
  isPrevRtt : Bool

/-- The fields of `CallAttributeInfo` that a record is made from (call_manager_info.h:275-449),
    all zero at first. -/
structure CallAttributeInfo where
  accountNumber : ByteString := []
  callType : CallType := .cs
  callId : ℤ := 0
  callBeginTime : ℤ := 0
  callCreateTime : ℤ := 0
  callEndTime : ℤ := 0
  ringBeginTime : ℤ := 0
  ringEndTime : ℤ := 0
  callDirection : CallDirection := .callDirectionIn
  answerType : CallAnswerType := .missed
  accountId : ℤ := 0
  originalCallType : ℤ := 0
  celiaCallType : ℤ := 0
  name : ByteString := []
  namePresentation : ℤ := 0
  simType : ℤ := 0
  simIndex : ℤ := 0
  numberLocation : ByteString := []
  numberMarkInfo : NumberMarkInfo := { markType := 0, markCount := 0 }
  blockReason : ℤ := 0
  /-- The first characters of the array; the others are zero. -/
  detectDetails : ByteString := []
  newCallUseBox : ℤ := 0
  isPrevRtt : Bool := false
  phoneIndex : ℤ := 0

/-- `MARK_TYPE_DEFAULT` (call_manager_base.h:638). -/
def markTypeDefault : Int32 := -1

/-- `MARK_TYPE_NONE` (call_manager_base.h:642). -/
def markTypeNone : Int32 := 0

/-- `MARK_TYPE_FRAUD_RISK` (call_manager_base.h:690). -/
def markTypeFraudRisk : Int32 := 12

/-- `memcpy_s` to the start of an array of zeros: what is too long leaves the zeros. -/
def memcpyS (destMax : ℕ) (src : ByteString) : ByteString :=
  if src.length ≤ destMax then src else []

/-- `GetCallAttributeBaseInfo` (call_base.cpp:174-240). A number that is too long ends it, and
    so does a location or a bundle name. -/
def getCallAttributeBaseInfo (call : Call) (info : CallAttributeInfo) : CallAttributeInfo :=
  if maxNumberLen < call.accountNumber.length then { info with accountNumber := [] }
  else
    let info :=
      { info with
        accountNumber := cString call.accountNumber
        callType := call.callType
        callId := call.callId
        callBeginTime := call.callBeginTime
        callCreateTime := call.callCreateTime
        callEndTime := call.callEndTime
        ringBeginTime := call.ringBeginTime
        ringEndTime := call.ringEndTime
        callDirection := call.direction
        answerType := call.answerType
        accountId := call.accountId
        originalCallType := call.originalCallType
        celiaCallType := call.celiaCallType
        name := call.name
        simType := call.simType
        simIndex := call.simIndex
        numberLocation := cString (memcpyS maxNumberLen call.numberLocation) }
    if maxNumberLen < call.numberLocation.length then info
    else
      let info :=
        { info with
          numberMarkInfo :=
            if call.antiFraudRisk then { call.numberMarkInfo with markType := markTypeFraudRisk }
            else call.numberMarkInfo
          blockReason := call.blockReason }
      if maxBundleNameLen < call.bundleName.length then info
      else { info with detectDetails := memcpyS (maxNumberLen + 1) call.detectDetails }

/-! ## The number that is shown -/

/-- ',' -/
def comma : UInt8 := 0x2C

/-- ';' -/
def semicolon : UInt8 := 0x3B

/-- The loop of `CallAbilityReportProxy::CallStateUpdated`: the first ',' or ';' becomes
    the end of the string. -/
def endAtSeparator : ByteString → ByteString
  | [] => []
  | c :: s => if c = comma ∨ c = semicolon then 0 :: s else c :: endAtSeparator s

/-- The number that `CallAbilityReportProxy::CallStateUpdated` reports
    (call_ability_report_proxy.cpp:114-138). -/
def shownNumber (call : Call) : ByteString :=
  let number := (getCallAttributeBaseInfo call {}).accountNumber
  let accountLen := min number.length maxNumberLen
  cString (endAtSeparator (number.take accountLen) ++ number.drop accountLen)

/-! ## The record -/

/-- The fields of `CallRecordInfo` that are filled (call_manager_info.h:454-600). -/
structure CallRecordInfo where
  callId : ℤ := 0
  phoneNumber : ByteString := []
  formattedNumber : ByteString := []
  formattedNumberToE164 : ByteString := []
  numberLocation : ByteString := []
  callType : CallType := .cs
  callBeginTime : ℤ := 0
  callCreateTime : ℤ := 0
  callEndTime : ℤ := 0
  ringDuration : Option ℕ := some 0
  callDuration : Option ℕ := some 0
  directionType : CallDirection := .callDirectionIn
  answerType : CallAnswerType := .missed
  countryCode : ℤ := 0
  slotId : ℤ := 0
  features : ℕ := 0
  numberMarkInfo : NumberMarkInfo := { markType := 0, markCount := 0 }
  blockReason : ℤ := 0
  celiaCallType : ℤ := 0
  detectDetails : ByteString := []
  name : ByteString := []
  namePresentation : ℤ := 0
  newCallUseBox : ℤ := 0
  simType : ℤ := 0
  simIndex : ℤ := 0
  phoneIndex : ℤ := 0
  deviceName : ByteString := []

/-- What the manager asks of the rest of the system. -/
structure Environment where
  /-- The hook that hides a call, if it is installed. -/
  isHideViolenceOrEmcNumbersInCallLog : Option (CallAttributeInfo → Bool)
  deviceName : ℤ → ByteString
  networkCountryIso : ByteString
  formatPhoneNumberAsYouType : ByteString → ByteString → ByteString
  formatPhoneNumber : ByteString → ByteString → ByteString
  formatPhoneNumberToE164 : ByteString → ByteString → ByteString
  /-- The settings, if there is a helper for them: the value of a key. -/
  settings : Option (ByteString → Option ByteString)
  foregroundUser : ℤ
  isBundleInstalled : ByteString → ℤ → Bool

/-- `strncpy_s`, none if what is to be copied leaves no place for the end of the string. -/
def strncpyS (destMax : ℕ) (src : ByteString) (count : ℕ) : Option ByteString :=
  if ((cString src).take count).length < destMax then some ((cString src).take count) else none

/-- `strcpy_s` -/
def strcpyS (destMax : ℕ) (src : ByteString) : Option ByteString :=
  if (cString src).length < destMax then some (cString src) else none

/-- A `double` that is given to a `uint32_t`. -/
def toUInt32 (seconds : ℤ) : Option ℕ :=
  if 0 ≤ seconds ∧ seconds < 2 ^ 32 then some seconds.toNat else none

/-- A duration in `CopyCallInfoToRecord`: `DEFAULT_TIME` is 0. -/
def durationField (beginTime endTime : ℤ) : Option ℕ :=
  if beginTime = 0 ∨ endTime = 0 then some 0 else toUInt32 (endTime - beginTime)

/-- `GetCallFeatures` (call_records_manager.cpp:363-385): video is `TYPE_SEND_ONLY` or
    `TYPE_VIDEO`. -/
def getCallFeatures (info : CallAttributeInfo) : ℕ :=
  (if info.originalCallType = 1 ∨ info.originalCallType = 3 then 1 else 0) |||
    (if info.isPrevRtt then 2 else 0)

/-- `MARK_SOURCE_OF_ANTIFRAUT_CENTER`, "5". -/
def markSourceOfAntifrautCenter : ByteString := [0x35]

/-- `MARK_SOURCE_OF_OTHERS`, "3". -/
def markSourceOfOthers : ByteString := [0x33]

/-- `SETTINGS_ANTIFRAUD_CENTER_SWITCH` -/
def settingsAntifraudCenterSwitch : ByteString := []

/-- `SETTINGS_ANTIFRAUD_BESTMIND_SWITCH` -/
def settingsAntifraudBestmindSwitch : ByteString := []

/-- `TELEPHONY_IDENTITY_SWITCH` -/
def telephonyIdentitySwitch : ByteString := []

/-- `ANTIFRAUD_CENTER_BUNDLE_NAME` -/
def antifraudCenterBundleName : ByteString := []

/-- `BEST_MIND_BUNDLE_NAME` -/
def bestMindBundleName : ByteString := []

/-- A setting is "0", as it is if it has no value. -/
def IsOff (settings : ByteString → Option ByteString) (key : ByteString) : Prop :=
  (settings key).getD [0x30] = [0x30]

instance (settings : ByteString → Option ByteString) (key : ByteString) :
    Decidable (IsOff settings key) :=
  inferInstanceAs (Decidable (_ = _))

/-- `GetNumberMarkSource` (call_records_manager.cpp:321-350). -/
def getNumberMarkSource (env : Environment) (userId : ℤ) (mark : NumberMarkInfo) : NumberMarkInfo :=
  let others := { mark with markSource := mark.markSource.strncpyS markSourceOfOthers }
  match env.settings with
  | none => mark
  | some settings =>
    if IsOff settings settingsAntifraudCenterSwitch ∧
        IsOff settings settingsAntifraudBestmindSwitch then others
    else if IsOff settings telephonyIdentitySwitch then others
    else if ¬ env.isBundleInstalled antifraudCenterBundleName userId ∧
        ¬ env.isBundleInstalled bestMindBundleName userId then others
    else mark

/-- `CopyCallInfoToRecord` (call_records_manager.cpp:283-319). -/
def copyCallInfoToRecord (env : Environment) (info : CallAttributeInfo) (data : CallRecordInfo) :
    CallRecordInfo :=
  { data with
    callDuration := durationField info.callBeginTime info.callEndTime
    ringDuration := durationField info.ringBeginTime info.ringEndTime
    callId := info.callId
    callBeginTime := info.callBeginTime
    callCreateTime := info.callCreateTime
    callEndTime := info.callEndTime
    directionType := info.callDirection
    answerType := info.answerType
    countryCode := 0
    slotId := info.accountId
    callType := info.callType
    phoneIndex := info.phoneIndex
    features := getCallFeatures info
    numberMarkInfo :=
      if info.numberMarkInfo.markSource.text = markSourceOfAntifrautCenter then
        getNumberMarkSource env env.foregroundUser info.numberMarkInfo
      else info.numberMarkInfo
    blockReason := info.blockReason
    celiaCallType := info.celiaCallType
    name := info.name
    namePresentation := info.namePresentation
    newCallUseBox := info.newCallUseBox
    simType := info.simType
    simIndex := info.simIndex }

/-- `DEFAULT_NETWORK_COUNTRY`, "CN". -/
def defaultNetworkCountry : ByteString := [0x43, 0x4E]

/-- `GetCountryIso` (call_records_manager.cpp:229-241). -/
def getCountryIso (env : Environment) : ByteString :=
  if env.networkCountryIso = [] then defaultNetworkCountry else env.networkCountryIso

/-- `CopyFormatNumberToRecord` (call_records_manager.cpp:243-265). -/
def copyFormatNumberToRecord (env : Environment) (countryIso : ByteString) (data : CallRecordInfo) :
    Option CallRecordInfo :=
  let tmpStr :=
    if comma ∈ data.phoneNumber ∨ semicolon ∈ data.phoneNumber then
      env.formatPhoneNumberAsYouType data.phoneNumber countryIso
    else env.formatPhoneNumber data.phoneNumber countryIso
  if maxNumberLen < tmpStr.length then none
  else some { data with formattedNumber := cString tmpStr }

/-- `CopyFormatNumberToE164ToRecord` (call_records_manager.cpp:267-281). -/
def copyFormatNumberToE164ToRecord (env : Environment) (countryIso : ByteString)
    (data : CallRecordInfo) : Option CallRecordInfo :=
  let tmpStr := env.formatPhoneNumberToE164 data.phoneNumber countryIso
  if maxNumberLen < tmpStr.length then none
  else some { data with formattedNumberToE164 := cString tmpStr }

/-- `CallRecordsManager`: the records its handler was given, if it has one. -/
structure CallRecordsManager where
  callRecordsHandlerServer : Option (List CallRecordInfo)

/-- The texts that `AddOneCallRecord` copies to a new record (call_records_manager.cpp:196-210).
    Only the main number is to be copied, not the extension. -/
def copyTexts (info : CallAttributeInfo) : Option CallRecordInfo := do
  let commaPos := (info.accountNumber.takeWhile fun c => c ≠ comma).length
  let copyLength :=
    if commaPos < info.accountNumber.length then commaPos else info.accountNumber.length
  let phoneNumber ← strncpyS maxNumberLen info.accountNumber copyLength
  if maxNumberLen < info.numberLocation.length then none
  let numberLocation ← strcpyS maxNumberLen info.numberLocation
  let detectDetails ← strcpyS (maxNumberLen + 1) info.detectDetails
  some { phoneNumber, numberLocation, detectDetails }

/-- What `AddOneCallRecord` adds for a Bluetooth call (call_records_manager.cpp:212-216). -/
def addBluetoothDevice (env : Environment) (call : Call) (info : CallAttributeInfo)
    (data : CallRecordInfo) : CallRecordInfo :=
  if info.callType = .bluetooth then
    { data with phoneIndex := call.phoneIndex, deviceName := env.deviceName call.phoneIndex }
  else data

/-- The record of `AddOneCallRecord` (call_records_manager.cpp:178-227), none if it returns
    before. -/
def oneCallRecord (env : Environment) (call : Call) (info : CallAttributeInfo) :
    Option CallRecordInfo := do
  if maxNumberLen < info.accountNumber.length then none
  if env.isHideViolenceOrEmcNumbersInCallLog.any fun hide => hide info then none
  let data ← copyTexts info
  let data := addBluetoothDevice env call info (copyCallInfoToRecord env info data)
  let data ← copyFormatNumberToRecord env (getCountryIso env) data
  copyFormatNumberToE164ToRecord env (getCountryIso env) data

namespace CallRecordsManager

/-- `AddOneCallRecord`. -/
def addOneCallRecord (manager : CallRecordsManager) (env : Environment) (call : Call)
    (info : CallAttributeInfo) : CallRecordsManager :=
  match manager.callRecordsHandlerServer with
  | none => manager
  | some log => ⟨some (log ++ (oneCallRecord env call info).toList)⟩

end CallRecordsManager

/-- The attributes that `CallStateUpdated` makes a record from
    (call_records_manager.cpp:136-166). -/
def recordedInfo (call : Call) : CallAttributeInfo :=
  let info := getCallAttributeBaseInfo call {}
  let info :=
    if info.callType = .bluetooth ∧ call.btCallSlotId = -1 then { info with accountId := -1 }
    else info
  let info :=
    { info with namePresentation := if call.contactName = [] ∧ info.name ≠ [] then 1 else 0 }
  let info :=
    if info.numberMarkInfo.markType = markTypeDefault then
      { info with numberMarkInfo := { info.numberMarkInfo with markType := markTypeNone } }
    else info
  let info :=
    if call.direction = .callDirectionIn ∧ call.isAiAutoAnswer then
      { info with answerType := .missed }
    else info
  let info := { info with newCallUseBox := if call.newCallUseBox ≠ 0 then 1 else 0 }
  if call.callType = .ims then { info with isPrevRtt := call.isPrevRtt } else info

/-- `CallRecordsManager::CallStateUpdated` (call_records_manager.cpp:126-168). -/
def CallRecordsManager.callStateUpdated (manager : CallRecordsManager) (env : Environment)
    (callObjectPtr : Option Call) (_priorState nextState : TelCallState) : CallRecordsManager :=
  match callObjectPtr with
  | none => manager
  | some call =>
    if call.callType = .voip then manager
    else if nextState ≠ .disconnected then manager
    else manager.addOneCallRecord env call (recordedInfo call)

/-! ## Specification -/

/-- The number without its post-dial part. -/
def mainNumber (number : ByteString) : ByteString :=
  (cString number).takeWhile fun c => c ≠ comma ∧ c ≠ semicolon

/-- The seconds between two times, if both are set and they are in order. -/
def duration (beginTime endTime : ℤ) : ℕ :=
  if beginTime ≠ 0 ∧ endTime ≠ 0 ∧ beginTime ≤ endTime then (endTime - beginTime).toNat else 0

/-- The record has the number that is shown, and the durations of the call. -/
structure Faithful (call : Call) (data : CallRecordInfo) : Prop where
  phoneNumber : data.phoneNumber = mainNumber call.accountNumber
  shown : data.phoneNumber = shownNumber call
  callDuration : data.callDuration = some (duration call.callBeginTime call.callEndTime)
  ringDuration : data.ringDuration = some (duration call.ringBeginTime call.ringEndTime)

/-- To the records `log` one is added, and it is that of the call. -/
def Recorded (call : Call) (log : List CallRecordInfo) (manager : CallRecordsManager) : Prop :=
  ∃ data, Faithful call data ∧ manager = ⟨some (log ++ [data])⟩

/-- A formatted number has at most `kMaxNumberLen` characters. -/
structure Environment.FormatsFit (env : Environment) : Prop where
  asYouType : ∀ number iso, (env.formatPhoneNumberAsYouType number iso).length ≤ maxNumberLen
  format : ∀ number iso, (env.formatPhoneNumber number iso).length ≤ maxNumberLen
  toE164 : ∀ number iso, (env.formatPhoneNumberToE164 number iso).length ≤ maxNumberLen

/-- Two times that are set are in order, and less than 2^32 seconds apart. -/
def InRange (beginTime endTime : ℤ) : Prop :=
  beginTime ≠ 0 → endTime ≠ 0 → 0 ≤ endTime - beginTime ∧ endTime - beginTime < 2 ^ 32

/-- The part of a number that is recorded. -/
def beforeComma (number : ByteString) : ByteString :=
  (cString number).takeWhile fun c => c ≠ comma

/-- What a call has to be for its record to be right. -/
structure Recordable (call : Call) : Prop where
  number_lt : (beforeComma call.accountNumber).length < maxNumberLen
  semicolon_notMem : semicolon ∉ beforeComma call.accountNumber
  location_lt : (cString call.numberLocation).length < maxNumberLen
  details : call.bundleName.length ≤ maxBundleNameLen →
    call.detectDetails.length = maxNumberLen + 1 → 0 ∈ call.detectDetails
  callTimes : InRange call.callBeginTime call.callEndTime
  ringTimes : InRange call.ringBeginTime call.ringEndTime

/-! ## The durations -/

theorem durationField_iff (beginTime endTime : ℤ) :
    durationField beginTime endTime = some (duration beginTime endTime) ↔
      InRange beginTime endTime := by
  unfold durationField duration InRange toUInt32
  by_cases hbegin : beginTime = 0
  · simp [hbegin]
  by_cases hend : endTime = 0
  · simp [hend]
  simp only [hbegin, hend, or_self, if_false, not_false_eq_true, ne_eq, true_and, forall_const]
  by_cases hrange : 0 ≤ endTime - beginTime ∧ endTime - beginTime < 2 ^ 32
  · rw [if_pos hrange, if_pos (by omega)]
    exact iff_of_true rfl hrange
  · rw [if_neg hrange]
    exact iff_of_false (by simp) hrange

/-! ## The number that is shown -/

theorem cString_endAtSeparator (s : ByteString) :
    cString (endAtSeparator s) = (cString s).takeWhile fun c => c ≠ comma ∧ c ≠ semicolon := by
  induction s with
  | nil => rfl
  | cons c s ih =>
    unfold endAtSeparator
    by_cases hsep : c = comma ∨ c = semicolon
    · have hc : c ≠ 0 := by rintro rfl; revert hsep; decide
      rw [if_pos hsep, cString_cons_of_ne hc, List.takeWhile_cons_of_neg (by simp; tauto)]
      rfl
    · rw [if_neg hsep]
      rw [not_or] at hsep
      by_cases hc : c = 0
      · subst hc
        rfl
      · rw [cString_cons_of_ne hc, cString_cons_of_ne hc, ih,
          List.takeWhile_cons_of_pos (by simpa using hsep)]

theorem accountNumber_eq {call : Call} (hnumber : call.accountNumber.length ≤ maxNumberLen)
    (info : CallAttributeInfo) :
    (getCallAttributeBaseInfo call info).accountNumber = cString call.accountNumber := by
  unfold getCallAttributeBaseInfo
  rw [if_neg (by omega)]
  dsimp only
  split_ifs <;> rfl

/-- The number that is shown is the number without its post-dial part. -/
theorem shownNumber_eq {call : Call} (hnumber : call.accountNumber.length ≤ maxNumberLen) :
    shownNumber call = mainNumber call.accountNumber := by
  have hlen := cString_length_le call.accountNumber
  have hself : cString (cString call.accountNumber) = cString call.accountNumber :=
    cString_of_notMem (zero_notMem_cString _)
  simp only [shownNumber, accountNumber_eq hnumber]
  rw [min_eq_left (by omega), List.take_length, List.drop_length, List.append_nil,
    cString_endAtSeparator, hself]
  rfl

/-! ## The record that is stored -/

/-- A number is recorded as it is shown iff there is no ';' before the first ','. -/
theorem beforeComma_eq_mainNumber_iff (number : ByteString) :
    beforeComma number = mainNumber number ↔ semicolon ∉ beforeComma number := by
  have hmain : mainNumber number = (beforeComma number).takeWhile fun c => c ≠ semicolon := by
    unfold mainNumber beforeComma
    rw [List.takeWhile_takeWhile]
    congr 1
    funext c
    simp [and_comm]
  rw [hmain, eq_comm, List.takeWhile_eq_self_iff]
  constructor
  · intro h hmem
    simpa using h _ hmem
  · intro h c hmem
    have hne : c ≠ semicolon := fun heq => h (heq ▸ hmem)
    simpa using hne

/-- `strcspn` and `strncpy_s` copy what is before the first ','. -/
theorem strncpyS_copyLength (number : ByteString) :
    let commaPos := ((cString number).takeWhile fun c => c ≠ comma).length
    strncpyS maxNumberLen (cString number)
        (if commaPos < (cString number).length then commaPos else (cString number).length) =
      if (beforeComma number).length < maxNumberLen then some (beforeComma number) else none := by
  intro commaPos
  have hself : cString (cString number) = cString number :=
    cString_of_notMem (zero_notMem_cString _)
  have hpre : beforeComma number <+: cString number := List.takeWhile_prefix _
  have hmin : (if commaPos < (cString number).length then commaPos
      else (cString number).length) = (beforeComma number).length := by
    have hle := hpre.length_le
    have hpos : commaPos = (beforeComma number).length := rfl
    split_ifs <;> omega
  rw [hmin]
  unfold strncpyS
  rw [hself, ← List.prefix_iff_eq_take.mp hpre]

/-- The details that fit in their array, unless the bundle name is too long. -/
def shortDetails (call : Call) : ByteString :=
  if maxBundleNameLen < call.bundleName.length then []
  else memcpyS (maxNumberLen + 1) call.detectDetails

/-- The attributes that decide on the record are those of the call. -/
structure AttributesOf (call : Call) (info : CallAttributeInfo) : Prop where
  accountNumber : info.accountNumber = cString call.accountNumber
  numberLocation : info.numberLocation = cString call.numberLocation
  detectDetails : info.detectDetails = shortDetails call
  callBeginTime : info.callBeginTime = call.callBeginTime
  callEndTime : info.callEndTime = call.callEndTime
  ringBeginTime : info.ringBeginTime = call.ringBeginTime
  ringEndTime : info.ringEndTime = call.ringEndTime

/-- The copies to the record have room for the end of the string. -/
structure CopiesFit (call : Call) : Prop where
  number_lt : (beforeComma call.accountNumber).length < maxNumberLen
  location_lt : (cString call.numberLocation).length < maxNumberLen
  details_lt : (cString (shortDetails call)).length < maxNumberLen + 1

/-- What is copied. -/
structure CopyOf (call : Call) (data : CallRecordInfo) : Prop where
  phoneNumber : data.phoneNumber = beforeComma call.accountNumber
  callDuration : data.callDuration = durationField call.callBeginTime call.callEndTime
  ringDuration : data.ringDuration = durationField call.ringBeginTime call.ringEndTime

section Record

variable {call : Call} (hnumber : call.accountNumber.length ≤ maxNumberLen)
  (hlocation : call.numberLocation.length ≤ maxNumberLen)

include hnumber hlocation

theorem attributesOf_base : AttributesOf call (getCallAttributeBaseInfo call {}) := by
  unfold getCallAttributeBaseInfo
  rw [if_neg (by omega)]
  dsimp only
  rw [if_neg (by omega)]
  by_cases hbundle : maxBundleNameLen < call.bundleName.length
  · rw [if_pos hbundle]
    constructor <;> simp [shortDetails, memcpyS, hbundle, hlocation]
  · rw [if_neg hbundle]
    constructor <;> simp [shortDetails, memcpyS, hbundle, hlocation]

theorem attributesOf_recordedInfo : AttributesOf call (recordedInfo call) := by
  obtain ⟨h1, h2, h3, h4, h5, h6, h7⟩ := attributesOf_base hnumber hlocation
  unfold recordedInfo
  dsimp only
  split_ifs <;> exact ⟨h1, h2, h3, h4, h5, h6, h7⟩

end Record

section Texts

variable {call : Call} {info : CallAttributeInfo} (h : AttributesOf call info)
  (hlocation : call.numberLocation.length ≤ maxNumberLen)

include h hlocation

omit hlocation in
theorem copyTexts_of_fit (hfit : CopiesFit call) :
    ∃ data, copyTexts info = some data ∧ data.phoneNumber = beforeComma call.accountNumber := by
  have hnumber := strncpyS_copyLength call.accountNumber
  dsimp only at hnumber
  rw [if_pos hfit.number_lt] at hnumber
  have hlt := hfit.location_lt
  have hloc : strcpyS maxNumberLen (cString call.numberLocation) =
      some (cString call.numberLocation) := by
    unfold strcpyS
    rw [cString_of_notMem (zero_notMem_cString _), if_pos hlt]
  have hdetails : strcpyS (maxNumberLen + 1) (shortDetails call) =
      some (cString (shortDetails call)) := if_pos hfit.details_lt
  have hle : ¬ maxNumberLen < (cString call.numberLocation).length := by omega
  refine ⟨{ phoneNumber := beforeComma call.accountNumber
            numberLocation := cString call.numberLocation
            detectDetails := cString (shortDetails call) }, ?_, rfl⟩
  simp only [copyTexts, h.accountNumber, h.numberLocation, h.detectDetails, hnumber, hloc,
    hdetails, hle, if_false, Option.bind_eq_bind, Option.bind_some]

theorem copyTexts_of_not_fit (hfit : ¬ CopiesFit call) : copyTexts info = none := by
  have hnumber := strncpyS_copyLength call.accountNumber
  dsimp only at hnumber
  have hle : ¬ maxNumberLen < (cString call.numberLocation).length := by
    have := cString_length_le call.numberLocation
    omega
  simp only [copyTexts, h.accountNumber, h.numberLocation, h.detectDetails, hnumber, hle]
  by_cases hnum : (beforeComma call.accountNumber).length < maxNumberLen
  · by_cases hloc : (cString call.numberLocation).length < maxNumberLen
    · have hdetails : ¬ (cString (shortDetails call)).length < maxNumberLen + 1 :=
        fun hlt => hfit ⟨hnum, hloc, hlt⟩
      simp [strcpyS, hnum, hdetails]
    · simp [strcpyS, cString_of_notMem (zero_notMem_cString _), hnum, hloc]
  · simp [hnum]

end Texts

theorem copyOf_copyCallInfoToRecord (env : Environment) {call : Call} {info : CallAttributeInfo}
    (h : AttributesOf call info) {data : CallRecordInfo}
    (hphone : data.phoneNumber = beforeComma call.accountNumber) :
    CopyOf call (copyCallInfoToRecord env info data) := by
  refine ⟨hphone, ?_, ?_⟩
  · rw [← h.callBeginTime, ← h.callEndTime]
    rfl
  · rw [← h.ringBeginTime, ← h.ringEndTime]
    rfl

theorem copyOf_addBluetoothDevice (env : Environment) {call : Call} (info : CallAttributeInfo)
    {data : CallRecordInfo} (hcopy : CopyOf call data) :
    CopyOf call (addBluetoothDevice env call info data) := by
  unfold addBluetoothDevice
  split_ifs <;> exact ⟨hcopy.phoneNumber, hcopy.callDuration, hcopy.ringDuration⟩

section Store

variable {env : Environment} (hhook : env.isHideViolenceOrEmcNumbersInCallLog = none)
  (hfits : env.FormatsFit)

include hfits

theorem copyOf_copyFormatNumberToRecord {call : Call} {data : CallRecordInfo}
    (hcopy : CopyOf call data) (countryIso : ByteString) :
    ∃ data', copyFormatNumberToRecord env countryIso data = some data' ∧ CopyOf call data' := by
  have hyou := hfits.asYouType data.phoneNumber countryIso
  have hformat := hfits.format data.phoneNumber countryIso
  unfold copyFormatNumberToRecord
  refine ⟨_, if_neg ?_, ⟨hcopy.phoneNumber, hcopy.callDuration, hcopy.ringDuration⟩⟩
  split_ifs <;> omega

theorem copyOf_copyFormatNumberToE164ToRecord {call : Call} {data : CallRecordInfo}
    (hcopy : CopyOf call data) (countryIso : ByteString) :
    ∃ data', copyFormatNumberToE164ToRecord env countryIso data = some data' ∧
      CopyOf call data' := by
  have hformat := hfits.toE164 data.phoneNumber countryIso
  exact ⟨_, if_neg (by omega), ⟨hcopy.phoneNumber, hcopy.callDuration, hcopy.ringDuration⟩⟩

include hhook

variable {call : Call} {info : CallAttributeInfo} (h : AttributesOf call info)
  (hnumber : call.accountNumber.length ≤ maxNumberLen)
  (hlocation : call.numberLocation.length ≤ maxNumberLen)

include h hnumber hlocation

omit hlocation in
theorem oneCallRecord_of_fit (hfit : CopiesFit call) :
    ∃ data, oneCallRecord env call info = some data ∧ CopyOf call data := by
  have hle : ¬ maxNumberLen < info.accountNumber.length := by
    have := cString_length_le call.accountNumber
    rw [h.accountNumber]
    omega
  obtain ⟨texts, htexts, hphone⟩ := copyTexts_of_fit h hfit
  have hfilled := copyOf_addBluetoothDevice env info (copyOf_copyCallInfoToRecord env h hphone)
  obtain ⟨formatted, hformatted, hcopy⟩ :=
    copyOf_copyFormatNumberToRecord hfits hfilled (getCountryIso env)
  obtain ⟨data, he164, hcopy⟩ :=
    copyOf_copyFormatNumberToE164ToRecord hfits hcopy (getCountryIso env)
  refine ⟨data, ?_, hcopy⟩
  simp only [oneCallRecord, hhook, hle, htexts, hformatted, he164, Option.any_none,
    Bool.false_eq_true, if_false, Option.bind_eq_bind, Option.bind_some]

omit hhook hfits hnumber in
theorem oneCallRecord_of_not_fit (hfit : ¬ CopiesFit call) :
    oneCallRecord env call info = none := by
  simp [oneCallRecord, copyTexts_of_not_fit h hlocation hfit]

end Store

/-! ## Main results -/

theorem cString_length_lt_iff (s : ByteString) : (cString s).length < s.length ↔ 0 ∈ s := by
  have hpre : cString s <+: s := List.takeWhile_prefix _
  constructor
  · intro hlt
    by_contra hzero
    rw [cString_of_notMem hzero] at hlt
    omega
  · intro hzero
    have hne : (cString s).length ≠ s.length := fun heq =>
      zero_notMem_cString s ((hpre.eq_of_length heq).symm ▸ hzero)
    have hle := hpre.length_le
    omega

/-- The details fit unless they fill their array. -/
theorem shortDetails_lt_iff (call : Call) :
    (cString (shortDetails call)).length < maxNumberLen + 1 ↔
      (call.bundleName.length ≤ maxBundleNameLen →
        call.detectDetails.length = maxNumberLen + 1 → 0 ∈ call.detectDetails) := by
  have hlen := cString_length_le call.detectDetails
  unfold shortDetails memcpyS
  by_cases hbundle : maxBundleNameLen < call.bundleName.length
  · rw [if_pos hbundle]
    exact iff_of_true (Nat.succ_pos _) fun hle => by omega
  rw [if_neg hbundle]
  by_cases hlong : call.detectDetails.length ≤ maxNumberLen + 1
  · rw [if_pos hlong, ← cString_length_lt_iff]
    constructor
    · intro hlt _ heq
      omega
    · intro h
      by_cases heq : call.detectDetails.length = maxNumberLen + 1
      · have hlt := h (by omega) heq
        omega
      · omega
  · rw [if_neg hlong]
    exact iff_of_true (Nat.succ_pos _) fun _ heq => by omega

/-- To the records is added what `AddOneCallRecord` makes of the attributes of the call. -/
theorem callStateUpdated_eq (env : Environment) {call : Call} (hvoip : call.callType ≠ .voip)
    (log : List CallRecordInfo) (priorState : TelCallState) :
    (CallRecordsManager.mk (some log)).callStateUpdated env (some call) priorState .disconnected =
      ⟨some (log ++ (oneCallRecord env call (recordedInfo call)).toList)⟩ := by
  simp [CallRecordsManager.callStateUpdated, CallRecordsManager.addOneCallRecord, hvoip]

/-- A record with the copies of a call is right iff its number has no ';' and its times are
    in range. -/
theorem CopyOf.faithful_iff {call : Call} {data : CallRecordInfo} (h : CopyOf call data)
    (hnumber : call.accountNumber.length ≤ maxNumberLen) :
    Faithful call data ↔ semicolon ∉ beforeComma call.accountNumber ∧
      InRange call.callBeginTime call.callEndTime ∧
      InRange call.ringBeginTime call.ringEndTime := by
  rw [← beforeComma_eq_mainNumber_iff, ← durationField_iff, ← durationField_iff,
    ← h.phoneNumber, ← h.callDuration, ← h.ringDuration]
  constructor
  · intro hf
    exact ⟨hf.phoneNumber, hf.callDuration, hf.ringDuration⟩
  · rintro ⟨hphone, hcall, hring⟩
    exact ⟨hphone, hphone.trans (shownNumber_eq hnumber).symm, hcall, hring⟩

/-- **Call records.** A call that is disconnected is recorded once and right iff its number
    and location leave room for the end of the string, the number has no ';' before the
    first ',', the details do not fill their array, and its times are in range. -/
theorem recorded_iff (env : Environment) (call : Call) (log : List CallRecordInfo)
    (priorState : TelCallState) (hvoip : call.callType ≠ .voip)
    (hnumber : call.accountNumber.length ≤ maxNumberLen)
    (hlocation : call.numberLocation.length ≤ maxNumberLen)
    (hhook : env.isHideViolenceOrEmcNumbersInCallLog = none) (hfits : env.FormatsFit) :
    Recorded call log ((CallRecordsManager.mk (some log)).callStateUpdated env (some call)
      priorState .disconnected) ↔ Recordable call := by
  have hattributes := attributesOf_recordedInfo hnumber hlocation
  rw [callStateUpdated_eq env hvoip]
  by_cases hfit : CopiesFit call
  · obtain ⟨data, hdata, hcopy⟩ :=
      oneCallRecord_of_fit hhook hfits hattributes hnumber hfit
    rw [hdata]
    have hfaithful := hcopy.faithful_iff hnumber
    constructor
    · rintro ⟨data', hright, heq⟩
      have hsame : data = data' := by simpa using heq
      obtain ⟨hsemi, hcall, hring⟩ := hfaithful.mp (hsame ▸ hright)
      exact ⟨hfit.number_lt, hsemi, hfit.location_lt,
        (shortDetails_lt_iff call).mp hfit.details_lt, hcall, hring⟩
    · intro h
      exact ⟨data, hfaithful.mpr ⟨h.semicolon_notMem, h.callTimes, h.ringTimes⟩, rfl⟩
  · rw [oneCallRecord_of_not_fit hattributes hlocation hfit]
    constructor
    · rintro ⟨data', _, heq⟩
      simp at heq
    · intro h
      exact absurd ⟨h.number_lt, h.location_lt, (shortDetails_lt_iff call).mpr h.details⟩ hfit

/-- Numbers are not formatted, and nothing is set. -/
def Environment.plain : Environment where
  isHideViolenceOrEmcNumbersInCallLog := none
  deviceName _ := []
  networkCountryIso := []
  formatPhoneNumberAsYouType number _ := number.take maxNumberLen
  formatPhoneNumber number _ := number.take maxNumberLen
  formatPhoneNumberToE164 number _ := number.take maxNumberLen
  settings := none
  foregroundUser := 100
  isBundleInstalled _ _ := false

theorem plain_formatsFit : Environment.plain.FormatsFit := by
  constructor <;> intro number iso <;> simp [Environment.plain]

/-- An outgoing call to a number, answered after five seconds, of a minute. -/
def minuteCall (accountNumber : ByteString) : Call where
  callId := 1
  callType := .ims
  accountNumber
  callBeginTime := 1005
  callCreateTime := 1000
  callEndTime := 1065
  ringBeginTime := 1000
  ringEndTime := 1005
  direction := .callDirectionOut
  answerType := .actived
  accountId := 0
  originalCallType := 0
  celiaCallType := -1
  name := []
  simType := 0
  simIndex := 0
  numberLocation := []
  contactName := []
  numberMarkInfo := {}
  antiFraudRisk := false
  blockReason := 0
  bundleName := []
  detectDetails := []
  btCallSlotId := -1
  phoneIndex := 0
  isAiAutoAnswer := false
  newCallUseBox := 0
  isPrevRtt := false

/-- "10086" -/
def operatorNumber : ByteString := [0x31, 0x30, 0x30, 0x38, 0x36]

/-- "10086,1" is recorded, as "10086". -/
theorem comma_recorded :
    Recorded (minuteCall (operatorNumber ++ [comma, 0x31])) []
      ((CallRecordsManager.mk (some [])).callStateUpdated .plain
        (some (minuteCall (operatorNumber ++ [comma, 0x31]))) .active .disconnected) := by
  refine (recorded_iff .plain _ [] .active (by decide) (by decide) (by decide) rfl
    plain_formatsFit).mpr ⟨by decide, by decide, by decide, by decide, ?_, ?_⟩
  · exact fun _ _ => by decide
  · exact fun _ _ => by decide

/-- "10086;1" is recorded as it is, and shown as "10086". -/
theorem semicolon_recorded :
    ¬ ∀ (env : Environment) (call : Call) (log : List CallRecordInfo) (priorState : TelCallState),
      call.callType ≠ .voip → call.accountNumber.length ≤ maxNumberLen →
      call.numberLocation.length ≤ maxNumberLen →
      env.isHideViolenceOrEmcNumbersInCallLog = none → env.FormatsFit →
      Recorded call log ((CallRecordsManager.mk (some log)).callStateUpdated env (some call)
        priorState .disconnected) := by
  intro h
  obtain ⟨data, hfaithful, heq⟩ := h .plain (minuteCall (operatorNumber ++ [semicolon, 0x31])) []
    .active (by decide) (by decide) (by decide) rfl plain_formatsFit
  rw [callStateUpdated_eq .plain (by decide)] at heq
  have hfit : CopiesFit (minuteCall (operatorNumber ++ [semicolon, 0x31])) :=
    ⟨by decide, by decide, by decide⟩
  have hattributes : AttributesOf (minuteCall (operatorNumber ++ [semicolon, 0x31])) _ :=
    attributesOf_recordedInfo (by decide) (by decide)
  obtain ⟨data', hdata', hcopy⟩ :=
    oneCallRecord_of_fit rfl plain_formatsFit hattributes (by decide) hfit
  rw [hdata'] at heq
  have hsame : data' = data := by simpa using heq
  have hphone := hfaithful.phoneNumber
  rw [← hsame, hcopy.phoneNumber] at hphone
  revert hphone
  decide

end CallManager.CallRecords
