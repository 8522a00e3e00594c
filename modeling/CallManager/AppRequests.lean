import CallManager.Library.Parcel

/-!
# The requests of the applications

An application calls `ICallManagerService` on a proxy, which writes the arguments to
a parcel; the stub of the service finds the handler of the request's code, and the
handler reads the arguments and calls the service. Both sides are written by hand,
and each has checks of its own.

The parcel is abstract (`FullMessageParcel`): what is relied on is that a value at
the front is what the read of its kind returns, and that there is no object where
nothing is left. Structures are sent as their memory, enumerations as the
`int32_t` they are cast to. A `float` is its bits. Timers and logs are left out, and
so are the replies.

Specification: the handler calls the service with the arguments that were given to
the proxy, and takes all that the proxy wrote.

`DialCall` is not read as it is written: the handler reads a bundle name before
`btSlotIdUnknown`.

Results:
* `onRemoteRequest_accepted`: so it is for each request but `DialCall` whose arguments
  pass the checks of both sides; of `DialCall` for what is written before the flag.
* `long_number_refused`: a number that passes the proxy and not the stub.
-/

namespace CallManager.AppRequests

open MessageParcel hiding queue
open FullMessageParcel

/-! ## Arguments -/

/-- `std::u16string`. -/
abbrev U16String := List UInt16

/-- `ACCOUNT_NUMBER_MAX_LENGTH` (call_manager_base.h:54). -/
def accountNumberMaxLength : ℕ := 255

/-- `MAX_CONTACT_NAME_LEN` (call_manager_service_proxy.cpp:24). -/
def maxContactNameLen : ℕ := 255

/-- `MAX_CALLS_NUM` (call_manager_service_stub.cpp:36). -/
def maxCallsNum : Int32 := 5

/-- `PacMap`. -/
structure PacMap where
  intValues : String → Option Int32
  booleanValues : String → Option Bool
  stringValues : String → Option ByteString

namespace PacMap

/-- A map with nothing in it. -/
def empty : PacMap := ⟨fun _ => none, fun _ => none, fun _ => none⟩

/-- `GetIntValue`. -/
def getIntValue (m : PacMap) (key : String) : Int32 := (m.intValues key).getD 0

/-- `GetBooleanValue` with the default `false`. -/
def getBooleanValue (m : PacMap) (key : String) : Bool := (m.booleanValues key).getD false

/-- `GetStringValue`. -/
def getStringValue (m : PacMap) (key : String) : ByteString := (m.stringValues key).getD []

/-- `PutIntValue`. -/
def putIntValue (m : PacMap) (key : String) (value : Int32) : PacMap :=
  { m with intValues := Function.update m.intValues key (some value) }

/-- `PutBooleanValue`. -/
def putBooleanValue (m : PacMap) (key : String) (value : Bool) : PacMap :=
  { m with booleanValues := Function.update m.booleanValues key (some value) }

/-- `PutStringValue`. -/
def putStringValue (m : PacMap) (key : String) (value : ByteString) : PacMap :=
  { m with stringValues := Function.update m.stringValues key (some value) }

end PacMap

/-- A structure of `size` bytes, as `WriteRawData` takes it. -/
structure RawStruct (size : ℕ) where
  bytes : List UInt8
  length_eq : bytes.length = size
  deriving DecidableEq, Repr

/-- The `char` array of `length` characters at an offset. -/
def RawStruct.chars {size : ℕ} (s : RawStruct size) (offset length : ℕ) : ByteString :=
  (s.bytes.drop offset).take length

/-- `strnlen` of an array finds no end in it. -/
def Unterminated (chars : ByteString) : Prop := 0 ∉ chars

instance (chars : ByteString) : Decidable (Unterminated chars) :=
  inferInstanceAs (Decidable (0 ∉ chars))

/-- `AudioDevice`: its type, its address and its name (call_manager_inner_type.h:1011-1024). -/
abbrev AudioDevice := RawStruct 296

/-- `CallRestrictionInfo`: the password, the type and the mode (call_manager_info.h:989-1002). -/
abbrev CallRestrictionInfo := RawStruct 264

/-- `CallTransferInfo`: the number, and six numbers of four bytes (call_manager_info.h:884-913). -/
abbrev CallTransferInfo := RawStruct 280

/-- `OttCallDetailsInfo`: the number, the bundle name, and two numbers of four bytes
    (call_manager_inner_type.h:954-971). -/
abbrev OttCallDetailsInfo := RawStruct 368

/-- `OttCallEventInfo`: the event and the bundle name (call_manager_inner_type.h:983-1006). -/
abbrev OttCallEventInfo := RawStruct 108

/-- `kMaxAddressLen` (call_manager_base.h:38). -/
def maxAddressLen : ℕ := 225

/-- `kMaxDeviceNameLen` (call_manager_base.h:42). -/
def maxDeviceNameLen : ℕ := 64

/-- A callback or the producer of a surface: an interface with its remote object, if it has one. -/
structure RemoteInterface where
  asObject : Option ℕ
  deriving DecidableEq, Repr

/-- `Surface`: its producer, if it has one. -/
structure Surface where
  producer : Option RemoteInterface
  deriving DecidableEq, Repr

/-- The methods of `ICallManagerService` with their arguments (i_call_manager_service.h:47-152).
    Those that share a name are told apart as their codes are. A `const char *` is the text
    before its NUL. -/
inductive ServiceCall
  | registerCallBack (callback : Option RemoteInterface)
  | unRegisterCallBack
  | observerOnCallDetailsChange
  | dialCall (number : U16String) (extras : PacMap)
  | makeCall (number : ByteString)
  | makeCallWithToken (number : ByteString) (options : PacMap)
  | answerCall (callId videoState : Int32) (isRTT : Bool)
  | rejectCall (callId : Int32) (rejectWithMessage : Bool) (textMessage : U16String)
  | hangUpCall (callId : Int32)
  | getCallState
  | holdCall (callId : Int32)
  | unHoldCall (callId : Int32)
  | switchCall (callId : Int32)
  | hasCall (isInCludeVoipCall : Bool)
  | isNewCallAllowed
  | setMuted (isMute : Bool)
  | muteRinger
  | setAudioDevice (audioDevice : AudioDevice)
  | isRinging
  | isInEmergencyCall
  | startDtmf (callId : Int32) (str : Int8)
  | stopDtmf (callId : Int32)
  | postDialProceed (callId : Int32) (proceed : Bool)
  | getCallWaiting (slotId : Int32)
  | setCallWaiting (slotId : Int32) (activate : Bool)
  | getCallRestriction (slotId type : Int32)
  | setCallRestriction (slotId : Int32) (info : CallRestrictionInfo)
  | setCallRestrictionPassword (slotId fac : Int32) (oldPassword newPassword : Option ByteString)
  | getCallTransferInfo (slotId type : Int32)
  | setCallTransferInfo (slotId : Int32) (info : CallTransferInfo)
  | canSetCallTransferTime (slotId : Int32) (result : Bool)
  | combineConference (mainCallId : Int32)
  | separateConference (callId : Int32)
  | kickOutFromConference (callId : Int32)
  | isEmergencyPhoneNumber (number : U16String) (slotId : Int32)
  | formatPhoneNumber (number countryCode : U16String)
  | formatPhoneNumberToE164 (number countryCode : U16String)
  | getMainCallId (callId : Int32)
  | getSubCallIdList (callId : Int32)
  | getCallIdListForConference (callId : Int32)
  | controlCamera (callId : Int32) (cameraId : U16String)
  | setPreviewWindow (callId : Int32) (surfaceId : ByteString) (surface : Option Surface)
  | setDisplayWindow (callId : Int32) (surfaceId : ByteString) (surface : Option Surface)
  | setCameraZoom (zoomRatio : UInt32)
  | setPausePicture (callId : Int32) (path : U16String)
  | setDeviceDirection (callId rotation : Int32)
  | setCallPreferenceMode (slotId mode : Int32)
  | getImsConfig (slotId item : Int32)
  | setImsConfig (slotId item : Int32) (value : U16String)
  | getImsFeatureValue (slotId type : Int32)
  | setImsFeatureValue (slotId type value : Int32)
  | updateImsCallMode (callId : Int32) (mode : UInt32)
  | enableImsSwitch (slotId : Int32)
  | disableImsSwitch (slotId : Int32)
  | isImsSwitchEnabled (slotId : Int32)
  | setVoNRState (slotId state : Int32)
  | getVoNRState (slotId : Int32)
  | joinConference (callId : Int32) (numberList : List U16String)
  | reportOttCallDetailsInfo (ottVec : List OttCallDetailsInfo)
  | reportOttCallEventInfo (eventInfo : OttCallEventInfo)
  | closeUnFinishedUssd (slotId : Int32)
  | inputDialerSpecialCode (specialCode : ByteString)
  | removeMissedIncomingCallNotification
  | setVoIPCallState (state : Int32)
  | getVoIPCallState
  | setVoIPCallInfo (callId state : Int32) (phoneNumber : ByteString)
  | getVoIPCallInfo
  | getProxyObjectPtr (proxyType : Int32)
  | setRegMmiCodeCallbackState (isReg : Bool)
  | reportAudioDeviceInfo
  | cancelCallUpgrade (callId : Int32)
  | requestCameraCapabilities (callId : Int32)
  | registerVoipCallManagerCallback
  | unRegisterVoipCallManagerCallback
  | sendCallUiEvent (callId : Int32) (eventName : ByteString)
  | preloadCallUi (enable : Bool)
  | registerBluetoothCallManagerCallbackPtr (phoneIndex : Int32) (macAddress : ByteString)
  | sendUssdResponse (slotId : Int32) (content : ByteString)
  | setCallPolicyInfo (isDialingTrustlist : Bool) (dialingList : List ByteString)
      (isIncomingTrustlist : Bool) (incomingList : List ByteString)
  | endCall
  | hasDistributedCommunicationCapability
  | notifyVoIPAudioStreamStart (uid : Int32)
  | sendRttMessage (callId : Int32) (rttMessage : ByteString)
  | setRttCapability (slotId : Int32) (enabled : Bool)
  | updateImsRttCallMode (callId mode : Int32)
  | setCallAudioMode (mode scenarios : Int32)
  | answerCallNoParam
  | rejectCallNoParam
  | rejectCallWithType (rejectType : Int32)
  | hangUpCallNoParam
  | getCallTransferInfoByNumber (number : ByteString) (type : Int32)
  | checkCallRecordingPermission (cellularRecordPhoneNum cellularRecordToken : ByteString)
  | registerTransferController (callback : Option RemoteInterface)
  | unRegisterTransferController
  | notifyTransferCallContact (contactName : ByteString)

/-- `CallManagerInterfaceCode` (call_manager_service_ipc_interface_code.h:23-125), but for the
    three codes that no method sends and no handler takes. -/
inductive InterfaceCode
  | dialCall | answerCall | rejectCall | holdCall | unholdCall | disconnectCall | getCallState
  | swapCall | hasCall | isNewCallAllowed | isRinging | isEmergencyCall | isEmergencyNumber
  | isFormatNumber | isFormatNumberE164 | combineConference | separateConference | startDtmf
  | stopDtmf | postDialProceed | getCallWaiting | setCallWaiting | getCallRestriction
  | setCallRestriction | setCallRestrictionPassword | getCallTransfer | setCallTransfer
  | canSetCallTransferTime | getMainid | getSubcallListId | getCallListIdForConference | setMute
  | muteRinger | setAudioDevice | ctrlCamera | setPreviewWindow | setDisplayWindow | setCameraZoom
  | setPauseImage | setDeviceDirection | setcallPreferencemode | getImsConfig | setImsConfig
  | getImsFeatureValue | setImsFeatureValue | updateCallMediaMode | enableVolte | disableVolte
  | isVolteEnabled | joinConference | reportOttCallDetailInfo | reportOttCallEventInfo
  | getProxyObjectPtr | closeUnfinishedUssd | reportAudioDeviceInfo | inputDialerSpecialCode
  | cancelMissedIncomingCallNotification | setVonrState | getVonrState | kickOutConference
  | setVoipCallState | getVoipCallState | setVoipCallInfo | getVoipCallInfo | cancelCallUpgrade
  | requestCameraCapabilities | registerCallback | unregisterCallback | voipRegisterCallback
  | voipUnregisterCallback | observerOnCallDetailsChange | sendCalluiEvent | makeCall
  | makeCallWithToken | bluetoothRegisterCallbackptr | sendUssdResponse | setCallPolicyInfo
  | endCall | hasDistributedCommunicationCapability | notifyVoipAudioStreamStart
  | setRttCapabilitySetting | sendRttMessage | updateRttCallMode | setCallAudioMode
  | answerCallNoParam | rejectCallNoParam | disconnectCallNoParam | preloadCallui
  | getCallTransferByNumber | registerTransferController | unregisterTransferController
  | notifyTransferCallContact | checkCallRecordingPermission | setRegMmiCodeCallbackState
  | rejectCallWithType
  deriving DecidableEq, Repr

/-! ## The proxy -/

/-- The descriptor of `ICallManagerService` (i_call_manager_service.h:155). -/
def descriptor : String := "OHOS.Telephony.ICallManagerService"

namespace ServiceCall

/-- The method of the proxy does not return before it sends: what the methods of
    call_manager_service_proxy.cpp test of their arguments. -/
def ProxyAccepts : ServiceCall → Prop
  | registerCallBack callback => ∃ c ∈ callback, c.asObject.isSome = true
  | dialCall number _ => number ≠ []
  | makeCall number | makeCallWithToken number _ => number ≠ []
  | setCallRestrictionPassword _ _ oldPassword newPassword =>
    ∃ o ∈ oldPassword, ∃ n ∈ newPassword, o ≠ [] ∧ n ≠ []
  | isEmergencyPhoneNumber number _ => number ≠ []
  | formatPhoneNumber number countryCode | formatPhoneNumberToE164 number countryCode =>
    number ≠ [] ∧ countryCode ≠ []
  | reportOttCallDetailsInfo ottVec => ottVec ≠ []
  | getCallTransferInfoByNumber number _ => number ≠ [] ∧ number.length ≤ accountNumberMaxLength
  | registerTransferController callback => callback.isSome = true
  | notifyTransferCallContact contactName =>
    contactName ≠ [] ∧ contactName.length ≤ maxContactNameLen
  | _ => True

/-- The code that the method sends. -/
def code : ServiceCall → InterfaceCode
  | registerCallBack _ => .registerCallback
  | unRegisterCallBack => .unregisterCallback
  | observerOnCallDetailsChange => .observerOnCallDetailsChange
  | dialCall _ _ => .dialCall
  | makeCall _ => .makeCall
  | makeCallWithToken _ _ => .makeCallWithToken
  | answerCall _ _ _ => .answerCall
  | rejectCall _ _ _ => .rejectCall
  | hangUpCall _ => .disconnectCall
  | getCallState => .getCallState
  | holdCall _ => .holdCall
  | unHoldCall _ => .unholdCall
  | switchCall _ => .swapCall
  | hasCall _ => .hasCall
  | isNewCallAllowed => .isNewCallAllowed
  | setMuted _ => .setMute
  | muteRinger => .muteRinger
  | setAudioDevice _ => .setAudioDevice
  | isRinging => .isRinging
  | isInEmergencyCall => .isEmergencyCall
  | startDtmf _ _ => .startDtmf
  | stopDtmf _ => .stopDtmf
  | postDialProceed _ _ => .postDialProceed
  | getCallWaiting _ => .getCallWaiting
  | setCallWaiting _ _ => .setCallWaiting
  | getCallRestriction _ _ => .getCallRestriction
  | setCallRestriction _ _ => .setCallRestriction
  | setCallRestrictionPassword _ _ _ _ => .setCallRestrictionPassword
  | getCallTransferInfo _ _ => .getCallTransfer
  | setCallTransferInfo _ _ => .setCallTransfer
  | canSetCallTransferTime _ _ => .canSetCallTransferTime
  | combineConference _ => .combineConference
  | separateConference _ => .separateConference
  | kickOutFromConference _ => .kickOutConference
  | isEmergencyPhoneNumber _ _ => .isEmergencyNumber
  | formatPhoneNumber _ _ => .isFormatNumber
  | formatPhoneNumberToE164 _ _ => .isFormatNumberE164
  | getMainCallId _ => .getMainid
  | getSubCallIdList _ => .getSubcallListId
  | getCallIdListForConference _ => .getCallListIdForConference
  | controlCamera _ _ => .ctrlCamera
  | setPreviewWindow _ _ _ => .setPreviewWindow
  | setDisplayWindow _ _ _ => .setDisplayWindow
  | setCameraZoom _ => .setCameraZoom
  | setPausePicture _ _ => .setPauseImage
  | setDeviceDirection _ _ => .setDeviceDirection
  | setCallPreferenceMode _ _ => .setcallPreferencemode
  | getImsConfig _ _ => .getImsConfig
  | setImsConfig _ _ _ => .setImsConfig
  | getImsFeatureValue _ _ => .getImsFeatureValue
  | setImsFeatureValue _ _ _ => .setImsFeatureValue
  | updateImsCallMode _ _ => .updateCallMediaMode
  | enableImsSwitch _ => .enableVolte
  | disableImsSwitch _ => .disableVolte
  | isImsSwitchEnabled _ => .isVolteEnabled
  | setVoNRState _ _ => .setVonrState
  | getVoNRState _ => .getVonrState
  | joinConference _ _ => .joinConference
  | reportOttCallDetailsInfo _ => .reportOttCallDetailInfo
  | reportOttCallEventInfo _ => .reportOttCallEventInfo
  | closeUnFinishedUssd _ => .closeUnfinishedUssd
  | inputDialerSpecialCode _ => .inputDialerSpecialCode
  | removeMissedIncomingCallNotification => .cancelMissedIncomingCallNotification
  | setVoIPCallState _ => .setVoipCallState
  | getVoIPCallState => .getVoipCallState
  | setVoIPCallInfo _ _ _ => .setVoipCallInfo
  | getVoIPCallInfo => .getVoipCallInfo
  | getProxyObjectPtr _ => .getProxyObjectPtr
  | setRegMmiCodeCallbackState _ => .setRegMmiCodeCallbackState
  | reportAudioDeviceInfo => .reportAudioDeviceInfo
  | cancelCallUpgrade _ => .cancelCallUpgrade
  | requestCameraCapabilities _ => .requestCameraCapabilities
  | registerVoipCallManagerCallback => .voipRegisterCallback
  | unRegisterVoipCallManagerCallback => .voipUnregisterCallback
  | sendCallUiEvent _ _ => .sendCalluiEvent
  | preloadCallUi _ => .preloadCallui
  | registerBluetoothCallManagerCallbackPtr _ _ => .bluetoothRegisterCallbackptr
  | sendUssdResponse _ _ => .sendUssdResponse
  | setCallPolicyInfo _ _ _ _ => .setCallPolicyInfo
  | endCall => .endCall
  | hasDistributedCommunicationCapability => .hasDistributedCommunicationCapability
  | notifyVoIPAudioStreamStart _ => .notifyVoipAudioStreamStart
  | sendRttMessage _ _ => .sendRttMessage
  | setRttCapability _ _ => .setRttCapabilitySetting
  | updateImsRttCallMode _ _ => .updateRttCallMode
  | setCallAudioMode _ _ => .setCallAudioMode
  | answerCallNoParam => .answerCallNoParam
  | rejectCallNoParam => .rejectCallNoParam
  | rejectCallWithType _ => .rejectCallWithType
  | hangUpCallNoParam => .disconnectCallNoParam
  | getCallTransferInfoByNumber _ _ => .getCallTransferByNumber
  | checkCallRecordingPermission _ _ => .checkCallRecordingPermission
  | registerTransferController _ => .registerTransferController
  | unRegisterTransferController => .unregisterTransferController
  | notifyTransferCallContact _ => .notifyTransferCallContact

/-- `WriteRemoteObject`, which writes nothing without an object. -/
def writeRemoteObject (object : Option ℕ) : List ParcelItem :=
  (object.map ParcelItem.remoteObject).toList

/-- The remote object of a window's surface (call_manager_service_proxy.cpp:734-739, 757-762). -/
def surfaceObject (surface : Option Surface) : Option ℕ :=
  surface.bind fun s => s.producer.bind fun p => p.asObject

/-- What `DialCall` writes before the flag (call_manager_service_proxy.cpp:85-93). -/
def writtenDial (number : U16String) (extras : PacMap) : List ParcelItem :=
  [.string16 number, .int32 (extras.getIntValue "accountId"),
    .int32 (extras.getIntValue "videoState"), .int32 (extras.getIntValue "dialScene"),
    .int32 (extras.getIntValue "dialType"), .int32 (extras.getIntValue "callType"),
    .bool (extras.getBooleanValue "isRTT"), .int32 (extras.getIntValue "phoneIndex"),
    .string (extras.getStringValue "extraParams")]

/-- What the method writes after the interface token. -/
def written : ServiceCall → List ParcelItem
  | registerCallBack callback => writeRemoteObject (callback.bind fun c => c.asObject)
  | dialCall number extras =>
    writtenDial number extras ++ [.bool (extras.getBooleanValue "btSlotIdUnknown")]
  | makeCall number => [.string number]
  | makeCallWithToken number options =>
    [.string number, .bool (options.getBooleanValue "isCustomAccessibility")]
  | answerCall callId videoState isRTT => [.int32 callId, .int32 videoState, .bool isRTT]
  | rejectCall callId rejectWithMessage textMessage =>
    [.int32 callId, .bool rejectWithMessage, .string16 textMessage]
  | hangUpCall callId | holdCall callId | unHoldCall callId | switchCall callId => [.int32 callId]
  | hasCall isInCludeVoipCall => [.bool isInCludeVoipCall]
  | setMuted isMute => [.bool isMute]
  | setAudioDevice audioDevice => [.rawData audioDevice.bytes]
  | startDtmf callId str => [.int32 callId, .int8 str]
  | stopDtmf callId => [.int32 callId]
  | postDialProceed callId proceed => [.int32 callId, .bool proceed]
  | getCallWaiting slotId => [.int32 slotId]
  | setCallWaiting slotId activate => [.int32 slotId, .bool activate]
  | getCallRestriction slotId type => [.int32 slotId, .int32 type]
  | setCallRestriction slotId info => [.int32 slotId, .rawData info.bytes]
  | setCallRestrictionPassword slotId fac oldPassword newPassword =>
    [.int32 slotId, .int32 fac, .cString (oldPassword.getD []), .cString (newPassword.getD [])]
  | getCallTransferInfo slotId type => [.int32 slotId, .int32 type]
  | setCallTransferInfo slotId info => [.int32 slotId, .rawData info.bytes]
  | canSetCallTransferTime slotId result => [.int32 slotId, .bool result]
  | combineConference mainCallId => [.int32 mainCallId]
  | separateConference callId | kickOutFromConference callId => [.int32 callId]
  | isEmergencyPhoneNumber number slotId => [.string16 number, .int32 slotId]
  | formatPhoneNumber number countryCode | formatPhoneNumberToE164 number countryCode =>
    [.string16 number, .string16 countryCode]
  | getMainCallId callId | getSubCallIdList callId | getCallIdListForConference callId =>
    [.int32 callId]
  | controlCamera callId cameraId => [.int32 callId, .string16 cameraId]
  | setPreviewWindow callId surfaceId surface | setDisplayWindow callId surfaceId surface =>
    .int32 callId :: .string surfaceId :: writeRemoteObject (surfaceObject surface)
  | setCameraZoom zoomRatio => [.float zoomRatio]
  | setPausePicture callId path => [.int32 callId, .string16 path]
  | setDeviceDirection callId rotation => [.int32 callId, .int32 rotation]
  | setCallPreferenceMode slotId mode => [.int32 slotId, .int32 mode]
  | getImsConfig slotId item => [.int32 slotId, .int32 item]
  | setImsConfig slotId item value => [.int32 slotId, .int32 item, .string16 value]
  | getImsFeatureValue slotId type => [.int32 slotId, .int32 type]
  | setImsFeatureValue slotId type value => [.int32 slotId, .int32 type, .int32 value]
  | updateImsCallMode callId mode => [.int32 callId, .uint32 mode]
  | enableImsSwitch slotId | disableImsSwitch slotId | isImsSwitchEnabled slotId => [.int32 slotId]
  | setVoNRState slotId state => [.int32 slotId, .int32 state]
  | getVoNRState slotId => [.int32 slotId]
  | joinConference callId numberList => [.int32 callId, .string16Vector numberList]
  | reportOttCallDetailsInfo ottVec =>
    .int32 (.ofNat ottVec.length) :: ottVec.flatMap fun it => [.rawData it.bytes]
  | reportOttCallEventInfo eventInfo => [.rawData eventInfo.bytes]
  | closeUnFinishedUssd slotId => [.int32 slotId]
  | inputDialerSpecialCode specialCode => [.string specialCode]
  | setVoIPCallState state => [.int32 state]
  | setVoIPCallInfo callId state phoneNumber => [.int32 callId, .int32 state, .string phoneNumber]
  | getProxyObjectPtr proxyType => [.int32 proxyType]
  | setRegMmiCodeCallbackState isReg => [.bool isReg]
  | cancelCallUpgrade callId | requestCameraCapabilities callId => [.int32 callId]
  | sendCallUiEvent callId eventName => [.int32 callId, .string eventName]
  | preloadCallUi enable => [.bool enable]
  | registerBluetoothCallManagerCallbackPtr phoneIndex macAddress =>
    [.int32 phoneIndex, .string macAddress]
  | sendUssdResponse slotId content => [.int32 slotId, .string content]
  | setCallPolicyInfo isDialingTrustlist dialingList isIncomingTrustlist incomingList =>
    [.bool isDialingTrustlist, .stringVector dialingList, .bool isIncomingTrustlist,
      .stringVector incomingList]
  | notifyVoIPAudioStreamStart uid => [.int32 uid]
  | sendRttMessage callId rttMessage => [.int32 callId, .string rttMessage]
  | setRttCapability slotId enabled => [.int32 slotId, .bool enabled]
  | updateImsRttCallMode callId mode => [.int32 callId, .int32 mode]
  | setCallAudioMode mode scenarios => [.int32 mode, .int32 scenarios]
  | rejectCallWithType rejectType => [.int32 rejectType]
  | getCallTransferInfoByNumber number type => [.string number, .int32 type]
  | checkCallRecordingPermission cellularRecordPhoneNum cellularRecordToken =>
    [.string cellularRecordPhoneNum, .string cellularRecordToken]
  | registerTransferController callback =>
    writeRemoteObject (callback.bind fun c => c.asObject)
  | notifyTransferCallContact contactName => [.string contactName]
  | unRegisterCallBack | observerOnCallDetailsChange | getCallState | isNewCallAllowed | muteRinger
  | isRinging | isInEmergencyCall | removeMissedIncomingCallNotification | getVoIPCallState
  | getVoIPCallInfo | reportAudioDeviceInfo | registerVoipCallManagerCallback
  | unRegisterVoipCallManagerCallback | endCall | hasDistributedCommunicationCapability
  | answerCallNoParam | rejectCallNoParam | hangUpCallNoParam | unRegisterTransferController => []

/-- What the proxy sends. -/
def request (call : ServiceCall) : List ParcelItem := .interfaceToken descriptor :: call.written

end ServiceCall

/-! ## The stub -/

/-- The codes that a handler returns without a call (call_manager_errors.h and the platform's
    own codes). -/
inductive Refusal
  | fail | writeDataFail | localPtrNull | argumentInvalid | numberOutOfRange | descriptorMismatch
  deriving DecidableEq, Repr

/-- What a handler does with the arguments: it returns, or it calls the service. -/
inductive Handled
  | refused (refusal : Refusal)
  | calls (call : ServiceCall)

section Stub

variable {P : FullMessageParcel}

/-- A handler, up to the call of the service. -/
abbrev Handler (P : FullMessageParcel) := Reader P.toMessageParcel Handled

/-- `OnRegisterCallBack` and `OnRegisterTransferControl` (call_manager_service_stub.cpp:354-368,
    1737-1758). -/
def onRegister (register : Option RemoteInterface → ServiceCall) : Handler P := do
  let remote ← remoteObject
  match remote with
  | none => return .refused .fail
  | some object => return .calls (register (some ⟨some object⟩))

/-- What `OnDialCall` reads before the bundle name (call_manager_service_stub.cpp:395-404). -/
def readDialInfo : Reader P.toMessageParcel (U16String × PacMap) := do
  let callNumber ← string16
  let dialInfo := PacMap.empty.putIntValue "accountId" (← int32)
  let dialInfo := dialInfo.putIntValue "videoState" (← int32)
  let dialInfo := dialInfo.putIntValue "dialScene" (← int32)
  let dialInfo := dialInfo.putIntValue "dialType" (← int32)
  let dialInfo := dialInfo.putIntValue "callType" (← int32)
  let dialInfo := dialInfo.putBooleanValue "isRTT" (← bool)
  let dialInfo := dialInfo.putIntValue "phoneIndex" (← int32)
  let dialInfo := dialInfo.putStringValue "extraParams" (← string)
  return (callNumber, dialInfo)

/-- What `OnDialCall` reads from the bundle name on, and the call
    (call_manager_service_stub.cpp:405-412). -/
def readDialFlag (callNumber : U16String) (dialInfo : PacMap) : Handler P := do
  let dialInfo := dialInfo.putStringValue "bundleName" (← string)
  let dialInfo := dialInfo.putBooleanValue "btSlotIdUnknown" (← bool)
  if accountNumberMaxLength < callNumber.length then return .refused .numberOutOfRange
  else return .calls (.dialCall callNumber dialInfo)

/-- `OnDialCall` (call_manager_service_stub.cpp:392-418). -/
def onDialCall : Handler P := do
  let (callNumber, dialInfo) ← readDialInfo
  readDialFlag callNumber dialInfo

/-- `OnMakeCall` (call_manager_service_stub.cpp:420-436). -/
def onMakeCall : Handler P := do
  let callNumber ← string
  if accountNumberMaxLength < callNumber.length then return .refused .numberOutOfRange
  else return .calls (.makeCall callNumber)

/-- `OnMakeCallWithToken` (call_manager_service_stub.cpp:438-463). -/
def onMakeCallWithToken : Handler P := do
  let callNumber ← string
  if callNumber = [] ∨ accountNumberMaxLength < callNumber.length then
    return .refused .numberOutOfRange
  else
    let isCustomAccessibility ← bool
    let options := PacMap.empty.putBooleanValue "isCustomAccessibility" isCustomAccessibility
    return .calls (.makeCallWithToken callNumber options)

/-- A structure of `size` bytes in the parcel, if it passes the check. -/
def onRawStruct (size : ℕ) (refusal : Refusal) (refuses : RawStruct size → Prop)
    [DecidablePred refuses] (call : RawStruct size → ServiceCall) : Handler P := do
  let data ← rawData size
  match data with
  | none => return .refused refusal
  | some bytes =>
    if h : bytes.length = size then
      if refuses ⟨bytes, h⟩ then return .refused refusal else return .calls (call ⟨bytes, h⟩)
    else return .refused refusal

/-- The check of `OnSetAudioDevice` (call_manager_service_stub.cpp:612-617). -/
def refusesAudioDevice (audioDevice : AudioDevice) : Prop :=
  Unterminated (audioDevice.chars 4 (maxAddressLen + 1)) ∨
    Unterminated (audioDevice.chars (4 + maxAddressLen + 1) (maxDeviceNameLen + 1))

instance : DecidablePred refusesAudioDevice := fun _ => inferInstanceAs (Decidable (_ ∨ _))

/-- `OnSetAudioDevice` (call_manager_service_stub.cpp:606-625). -/
def onSetAudioDevice : Handler P :=
  onRawStruct 296 .localPtrNull refusesAudioDevice fun audioDevice => .setAudioDevice audioDevice

/-- The check of `OnSetCallRestriction` and `OnSetTransferNumber`: their structures begin
    with the password and the number. -/
def refusesChars {size : ℕ} (info : RawStruct size) : Prop :=
  Unterminated (info.chars 0 (maxNumberLen + 1))

instance {size : ℕ} (info : RawStruct size) : Decidable (refusesChars info) :=
  inferInstanceAs (Decidable (Unterminated _))

/-- `OnSetCallRestriction` (call_manager_service_stub.cpp:748-767). -/
def onSetCallRestriction : Handler P := do
  let slotId ← int32
  onRawStruct 264 .localPtrNull refusesChars fun info => .setCallRestriction slotId info

/-- `OnSetTransferNumber` (call_manager_service_stub.cpp:802-822). -/
def onSetTransferNumber : Handler P := do
  let slotId ← int32
  onRawStruct 280 .localPtrNull refusesChars fun info => .setCallTransferInfo slotId info

/-- `OnReportOttCallEventInfo` (call_manager_service_stub.cpp:1295-1312). -/
def onReportOttCallEventInfo : Handler P :=
  onRawStruct 108 .fail (fun _ => False) fun eventInfo => .reportOttCallEventInfo eventInfo

/-- The loop of `OnReportOttCallDetailsInfo`, which ends at a null pointer. -/
def readOttVec : ℕ → Reader P.toMessageParcel (Option (List OttCallDetailsInfo))
  | 0 => return some []
  | n + 1 => do
    let data ← rawData 368
    match data with
    | none => return none
    | some bytes =>
      if h : bytes.length = 368 then
        let ottVec ← readOttVec n
        return ottVec.map fun infos => ⟨bytes, h⟩ :: infos
      else return none

/-- `OnReportOttCallDetailsInfo` (call_manager_service_stub.cpp:1267-1293). -/
def onReportOttCallDetailsInfo : Handler P := do
  let vecCnt ← int32
  if vecCnt ≤ 0 ∨ maxCallsNum < vecCnt then return .refused .argumentInvalid
  else
    let ottVec ← readOttVec vecCnt.toInt.toNat
    match ottVec with
    | none => return .refused .localPtrNull
    | some ottVec => return .calls (.reportOttCallDetailsInfo ottVec)

/-- `OnJoinConference` (call_manager_service_stub.cpp:868-883). -/
def onJoinConference : Handler P := do
  let callId ← int32
  let numberList ← string16Vector
  match numberList with
  | none => return .refused .writeDataFail
  | some numberList => return .calls (.joinConference callId numberList)

/-- `OnSetPreviewWindow` and `OnSetDisplayWindow` (call_manager_service_stub.cpp:924-962): the
    surface is one of the producer. -/
def onSetWindow (call : Int32 → ByteString → Option Surface → ServiceCall) : Handler P := do
  let callId ← int32
  let surfaceId ← string
  let object ← remoteObject
  return .calls (call callId surfaceId (object.map fun producer => ⟨some ⟨some producer⟩⟩))

/-- `OnCheckCallRecordingPermission` (call_manager_service_stub.cpp:1785-1799). -/
def onCheckCallRecordingPermission : Handler P := do
  let cellularRecordPhoneNum ← string
  let cellularRecordToken ← string
  if cellularRecordPhoneNum = [] ∨ accountNumberMaxLength < cellularRecordPhoneNum.length then
    return .refused .numberOutOfRange
  else return .calls (.checkCallRecordingPermission cellularRecordPhoneNum cellularRecordToken)

/-- `memberFuncMap_` (call_manager_service_stub.cpp:38-306) with the handlers that only read and
    call (lines 308-1799). -/
def memberFunc : InterfaceCode → Handler P
  | .registerCallback => onRegister .registerCallBack
  | .unregisterCallback => do return .calls .unRegisterCallBack
  | .dialCall => onDialCall
  | .makeCall => onMakeCall
  | .makeCallWithToken => onMakeCallWithToken
  | .answerCall => do return .calls (.answerCall (← int32) (← int32) (← bool))
  | .rejectCall => do return .calls (.rejectCall (← int32) (← bool) (← string16))
  | .holdCall => do return .calls (.holdCall (← int32))
  | .unholdCall => do return .calls (.unHoldCall (← int32))
  | .disconnectCall => do return .calls (.hangUpCall (← int32))
  | .getCallState => do return .calls .getCallState
  | .swapCall => do return .calls (.switchCall (← int32))
  | .inputDialerSpecialCode => do return .calls (.inputDialerSpecialCode (← string))
  | .sendCalluiEvent => do return .calls (.sendCallUiEvent (← int32) (← string))
  | .preloadCallui => do return .calls (.preloadCallUi (← bool))
  | .endCall => do return .calls .endCall
  | .notifyVoipAudioStreamStart => do return .calls (.notifyVoIPAudioStreamStart (← int32))
  | .setCallAudioMode => do return .calls (.setCallAudioMode (← int32) (← int32))
  | .answerCallNoParam => do return .calls .answerCallNoParam
  | .rejectCallNoParam => do return .calls .rejectCallNoParam
  | .disconnectCallNoParam => do return .calls .hangUpCallNoParam
  | .rejectCallWithType => do return .calls (.rejectCallWithType (← int32))
  | .hasCall => do return .calls (.hasCall (← bool))
  | .isNewCallAllowed => do return .calls .isNewCallAllowed
  | .isRinging => do return .calls .isRinging
  | .isEmergencyCall => do return .calls .isInEmergencyCall
  | .isEmergencyNumber => do return .calls (.isEmergencyPhoneNumber (← string16) (← int32))
  | .isFormatNumber => do return .calls (.formatPhoneNumber (← string16) (← string16))
  | .isFormatNumberE164 => do return .calls (.formatPhoneNumberToE164 (← string16) (← string16))
  | .cancelMissedIncomingCallNotification => do
    return .calls .removeMissedIncomingCallNotification
  | .observerOnCallDetailsChange => do return .calls .observerOnCallDetailsChange
  | .setCallPolicyInfo => do
    return .calls (.setCallPolicyInfo (← bool) (← stringVector) (← bool) (← stringVector))
  | .hasDistributedCommunicationCapability => do
    return .calls .hasDistributedCommunicationCapability
  | .combineConference => do return .calls (.combineConference (← int32))
  | .separateConference => do return .calls (.separateConference (← int32))
  | .joinConference => onJoinConference
  | .kickOutConference => do return .calls (.kickOutFromConference (← int32))
  | .startDtmf => do return .calls (.startDtmf (← int32) (← int8))
  | .stopDtmf => do return .calls (.stopDtmf (← int32))
  | .postDialProceed => do return .calls (.postDialProceed (← int32) (← bool))
  | .getCallWaiting => do return .calls (.getCallWaiting (← int32))
  | .setCallWaiting => do return .calls (.setCallWaiting (← int32) (← bool))
  | .getCallRestriction => do return .calls (.getCallRestriction (← int32) (← int32))
  | .setCallRestriction => onSetCallRestriction
  | .setCallRestrictionPassword => do
    return .calls (.setCallRestrictionPassword (← int32) (← int32) (← chars) (← chars))
  | .getCallTransfer => do return .calls (.getCallTransferInfo (← int32) (← int32))
  | .setCallTransfer => onSetTransferNumber
  | .canSetCallTransferTime => do return .calls (.canSetCallTransferTime (← int32) (← bool))
  | .closeUnfinishedUssd => do return .calls (.closeUnFinishedUssd (← int32))
  | .sendUssdResponse => do return .calls (.sendUssdResponse (← int32) (← string))
  | .getCallTransferByNumber => do
    return .calls (.getCallTransferInfoByNumber (← string) (← int32))
  | .checkCallRecordingPermission => onCheckCallRecordingPermission
  | .getMainid => do return .calls (.getMainCallId (← int32))
  | .getSubcallListId => do return .calls (.getSubCallIdList (← int32))
  | .getCallListIdForConference => do return .calls (.getCallIdListForConference (← int32))
  | .setMute => do return .calls (.setMuted (← bool))
  | .muteRinger => do return .calls .muteRinger
  | .setAudioDevice => onSetAudioDevice
  | .ctrlCamera => do return .calls (.controlCamera (← int32) (← string16))
  | .setPreviewWindow => onSetWindow .setPreviewWindow
  | .setDisplayWindow => onSetWindow .setDisplayWindow
  | .setCameraZoom => do return .calls (.setCameraZoom (← float))
  | .setPauseImage => do return .calls (.setPausePicture (← int32) (← string16))
  | .setDeviceDirection => do return .calls (.setDeviceDirection (← int32) (← int32))
  | .updateCallMediaMode => do return .calls (.updateImsCallMode (← int32) (← uint32))
  | .setRegMmiCodeCallbackState => do return .calls (.setRegMmiCodeCallbackState (← bool))
  | .reportAudioDeviceInfo => do return .calls .reportAudioDeviceInfo
  | .cancelCallUpgrade => do return .calls (.cancelCallUpgrade (← int32))
  | .requestCameraCapabilities => do return .calls (.requestCameraCapabilities (← int32))
  | .setcallPreferencemode => do return .calls (.setCallPreferenceMode (← int32) (← int32))
  | .getImsConfig => do return .calls (.getImsConfig (← int32) (← int32))
  | .setImsConfig => do return .calls (.setImsConfig (← int32) (← int32) (← string16))
  | .getImsFeatureValue => do return .calls (.getImsFeatureValue (← int32) (← int32))
  | .setImsFeatureValue => do
    return .calls (.setImsFeatureValue (← int32) (← int32) (← int32))
  | .enableVolte => do return .calls (.enableImsSwitch (← int32))
  | .disableVolte => do return .calls (.disableImsSwitch (← int32))
  | .isVolteEnabled => do return .calls (.isImsSwitchEnabled (← int32))
  | .setVonrState => do return .calls (.setVoNRState (← int32) (← int32))
  | .getVonrState => do return .calls (.getVoNRState (← int32))
  | .setVoipCallState => do return .calls (.setVoIPCallState (← int32))
  | .getVoipCallState => do return .calls .getVoIPCallState
  | .setVoipCallInfo => do return .calls (.setVoIPCallInfo (← int32) (← int32) (← string))
  | .getVoipCallInfo => do return .calls .getVoIPCallInfo
  | .setRttCapabilitySetting => do return .calls (.setRttCapability (← int32) (← bool))
  | .sendRttMessage => do return .calls (.sendRttMessage (← int32) (← string))
  | .updateRttCallMode => do return .calls (.updateImsRttCallMode (← int32) (← int32))
  | .reportOttCallDetailInfo => onReportOttCallDetailsInfo
  | .reportOttCallEventInfo => onReportOttCallEventInfo
  | .voipRegisterCallback => do return .calls .registerVoipCallManagerCallback
  | .voipUnregisterCallback => do return .calls .unRegisterVoipCallManagerCallback
  | .bluetoothRegisterCallbackptr => do
    return .calls (.registerBluetoothCallManagerCallbackPtr (← int32) (← string))
  | .registerTransferController => onRegister .registerTransferController
  | .unregisterTransferController => do return .calls .unRegisterTransferController
  | .notifyTransferCallContact => do return .calls (.notifyTransferCallContact (← string))
  | .getProxyObjectPtr => do return .calls (.getProxyObjectPtr (← int32))

/-- `OnRemoteRequest` (call_manager_service_stub.cpp:331-352), for a code that has a handler. -/
def onRemoteRequest (code : InterfaceCode) : Handler P := do
  let remoteDescriptor ← interfaceToken
  if descriptor ≠ remoteDescriptor then return .refused .descriptorMismatch
  else memberFunc code

end Stub

/-! ## Specification -/

namespace ServiceCall

/-- The arguments pass the checks of the handler. -/
def StubAccepts : ServiceCall → Prop
  | registerCallBack callback | registerTransferController callback =>
    ∃ c ∈ callback, c.asObject.isSome = true
  | dialCall number _ => number.length ≤ accountNumberMaxLength
  | makeCall number => number.length ≤ accountNumberMaxLength
  | makeCallWithToken number _ => number ≠ [] ∧ number.length ≤ accountNumberMaxLength
  | setAudioDevice audioDevice => ¬ refusesAudioDevice audioDevice
  | setCallRestriction _ info => ¬ refusesChars info
  | setCallTransferInfo _ info => ¬ refusesChars info
  | reportOttCallDetailsInfo ottVec => ottVec ≠ [] ∧ ottVec.length ≤ 5
  | checkCallRecordingPermission number _ =>
    number ≠ [] ∧ number.length ≤ accountNumberMaxLength
  | _ => True

/-- The surface that stands for a surface on the other side. -/
def sentSurface (surface : Option Surface) : Option Surface :=
  (surfaceObject surface).map fun producer => ⟨some ⟨some producer⟩⟩

/-- The service gets the arguments: of the extras of a dial and the options of
    `MakeCallWithToken`, the values that are sent; and a surface without a producer is none. -/
def Passes : ServiceCall → ServiceCall → Prop
  | dialCall number extras, dialCall number' extras' =>
    number' = number ∧
      (∀ key ∈ ["accountId", "videoState", "dialScene", "dialType", "callType", "phoneIndex"],
        extras'.getIntValue key = extras.getIntValue key) ∧
      extras'.getBooleanValue "isRTT" = extras.getBooleanValue "isRTT" ∧
      extras'.getStringValue "extraParams" = extras.getStringValue "extraParams"
  | makeCallWithToken number options, makeCallWithToken number' options' =>
    number' = number ∧
      options'.getBooleanValue "isCustomAccessibility" =
        options.getBooleanValue "isCustomAccessibility"
  | setPreviewWindow callId surfaceId surface, call' =>
    call' = setPreviewWindow callId surfaceId (sentSurface surface)
  | setDisplayWindow callId surfaceId surface, call' =>
    call' = setDisplayWindow callId surfaceId (sentSurface surface)
  | call, call' => call' = call

end ServiceCall

/-! ## The handlers on what was written -/

section Handlers

variable {P : FullMessageParcel}

theorem readsAll_onRegister (register : Option RemoteInterface → ServiceCall) (object : ℕ) :
    ReadsAll (P := P.toMessageParcel) (onRegister register) [.remoteObject object]
      (.calls (register (some ⟨some object⟩))) :=
  .next (reads_remoteObject object) (.pure _)

theorem reads_onRawStruct {size : ℕ} {refusal : Refusal} {refuses : RawStruct size → Prop}
    [DecidablePred refuses] {call : RawStruct size → ServiceCall} {s : RawStruct size}
    (h : ¬ refuses s) :
    Reads (P := P.toMessageParcel) (onRawStruct size refusal refuses call) [.rawData s.bytes]
      (.calls (call s)) := by
  refine .next (reads_rawData s.length_eq) ?_
  dsimp only
  rw [dif_pos s.length_eq, if_neg h]
  exact .pure _

theorem reads_readOttVec (ottVec : List OttCallDetailsInfo) :
    Reads (P := P.toMessageParcel) (readOttVec ottVec.length)
      (ottVec.flatMap fun it => [.rawData it.bytes]) (some ottVec) := by
  induction ottVec with
  | nil => exact .pure _
  | cons it ottVec ih =>
    refine .next (reads_rawData it.length_eq) ?_
    dsimp only
    rw [dif_pos it.length_eq]
    have hrest := Reads.bind ih (f := fun ottVec => Pure.pure (ottVec.map fun infos => it :: infos))
      (.pure _)
    rw [List.append_nil] at hrest
    exact hrest

/-- The count of a vector of one to five is read as it is. -/
theorem vecCnt_spec {n : ℕ} (hpos : n ≠ 0) (hle : n ≤ 5) :
    ¬ (Int32.ofNat n ≤ 0 ∨ maxCallsNum < Int32.ofNat n) ∧ (Int32.ofNat n).toInt.toNat = n := by
  have hn : n = 1 ∨ n = 2 ∨ n = 3 ∨ n = 4 ∨ n = 5 := by omega
  rcases hn with rfl | rfl | rfl | rfl | rfl <;> decide

theorem readsAll_onReportOttCallDetailsInfo {ottVec : List OttCallDetailsInfo} (hne : ottVec ≠ [])
    (hlen : ottVec.length ≤ 5) :
    ReadsAll (P := P.toMessageParcel) onReportOttCallDetailsInfo
      (.int32 (.ofNat ottVec.length) :: ottVec.flatMap fun it => [.rawData it.bytes])
      (.calls (.reportOttCallDetailsInfo ottVec)) := by
  obtain ⟨hcheck, hcount⟩ := vecCnt_spec (mt List.length_eq_zero_iff.mp hne) hlen
  refine .next (reads_int32 _) ?_
  rw [if_neg hcheck, hcount]
  have hrest := Reads.bind (reads_readOttVec (P := P) ottVec) (f := fun
    | none => Pure.pure (Handled.refused .localPtrNull)
    | some ottVec => Pure.pure (.calls (.reportOttCallDetailsInfo ottVec))) (.pure _)
  rw [List.append_nil] at hrest
  exact hrest.all

theorem readsAll_onSetWindow (call : Int32 → ByteString → Option Surface → ServiceCall)
    (callId : Int32) (surfaceId : ByteString) (surface : Option Surface) :
    ReadsAll (P := P.toMessageParcel) (onSetWindow call)
      (.int32 callId :: .string surfaceId ::
        ServiceCall.writeRemoteObject (ServiceCall.surfaceObject surface))
      (.calls (call callId surfaceId (ServiceCall.sentSurface surface))) := by
  refine .next (reads_int32 _) (.next (reads_string _) ?_)
  unfold ServiceCall.sentSurface ServiceCall.writeRemoteObject
  cases ServiceCall.surfaceObject surface with
  | none =>
    intro p hp
    obtain ⟨hv, hc⟩ := readsAll_remoteObject_nil p hp
    refine ⟨?_, hc⟩
    show Handled.calls (call callId surfaceId ((remoteObject p).1.map _)) = _
    rw [hv]
  | some object => exact .next (reads_remoteObject object) (.pure _)

end Handlers

/-- What the handler of a request but `DialCall` makes of the arguments. -/
theorem memberFunc_accepted {P : FullMessageParcel} {call : ServiceCall}
    (hproxy : call.ProxyAccepts) (hstub : call.StubAccepts)
    (hdial : ∀ number extras, call ≠ .dialCall number extras) :
    ∃ call', call.Passes call' ∧
      ReadsAll (P := P.toMessageParcel) (memberFunc call.code) call.written (.calls call') := by
  cases call with
  | dialCall number extras => exact absurd rfl (hdial number extras)
  | registerCallBack callback | registerTransferController callback =>
    obtain ⟨⟨object⟩, hcallback, hobject⟩ := hstub
    obtain ⟨object, rfl⟩ := Option.isSome_iff_exists.mp hobject
    obtain rfl : callback = some ⟨some object⟩ := hcallback
    exact ⟨_, rfl, readsAll_onRegister _ object⟩
  | makeCall number =>
    refine ⟨_, rfl, .next (reads_string _) ?_⟩
    rw [if_neg (Nat.not_lt.mpr hstub)]
    exact .pure _
  | makeCallWithToken number options =>
    have hcheck : ¬ (number = [] ∨ accountNumberMaxLength < number.length) := by
      rintro (hnil | hlong)
      · exact hstub.1 hnil
      · exact absurd hlong (Nat.not_lt.mpr hstub.2)
    refine ⟨.makeCallWithToken number (PacMap.empty.putBooleanValue "isCustomAccessibility"
      (options.getBooleanValue "isCustomAccessibility")), ⟨rfl, rfl⟩, .next (reads_string _) ?_⟩
    rw [if_neg hcheck]
    exact .next (reads_bool _) (.pure _)
  | checkCallRecordingPermission number token =>
    have hcheck : ¬ (number = [] ∨ accountNumberMaxLength < number.length) := by
      rintro (hnil | hlong)
      · exact hstub.1 hnil
      · exact absurd hlong (Nat.not_lt.mpr hstub.2)
    refine ⟨_, rfl, .next (reads_string _) (.next (reads_string _) ?_)⟩
    rw [if_neg hcheck]
    exact .pure _
  | setAudioDevice audioDevice => exact ⟨_, rfl, (reads_onRawStruct hstub).all⟩
  | setCallRestriction slotId info | setCallTransferInfo slotId info =>
    exact ⟨_, rfl, .next (reads_int32 _) (reads_onRawStruct hstub).all⟩
  | reportOttCallEventInfo eventInfo =>
    have hchecked : ¬ (fun _ : OttCallEventInfo => False) eventInfo := not_false
    exact ⟨_, rfl, (reads_onRawStruct hchecked).all⟩
  | reportOttCallDetailsInfo ottVec =>
    exact ⟨_, rfl, readsAll_onReportOttCallDetailsInfo hstub.1 hstub.2⟩
  | setPreviewWindow callId surfaceId surface | setDisplayWindow callId surfaceId surface =>
    exact ⟨_, rfl, readsAll_onSetWindow _ callId surfaceId surface⟩
  | setCallRestrictionPassword slotId fac oldPassword newPassword =>
    obtain ⟨o, rfl, n, rfl, -⟩ := hproxy
    exact ⟨_, rfl, .next (reads_int32 _) (.next (reads_int32 _)
      (.next (reads_chars _) (.next (reads_chars _) (.pure _))))⟩
  | joinConference callId numberList =>
    exact ⟨_, rfl, .next (reads_int32 _) (.next (reads_string16Vector _) (.pure _))⟩
  | setCallPolicyInfo isDialingTrustlist dialingList isIncomingTrustlist incomingList =>
    exact ⟨_, rfl, .next (reads_bool _) (.next (reads_stringVector _)
      (.next (reads_bool _) (.next (reads_stringVector _) (.pure _))))⟩
  | unRegisterCallBack | observerOnCallDetailsChange | getCallState | isNewCallAllowed | muteRinger
  | isRinging | isInEmergencyCall | removeMissedIncomingCallNotification | getVoIPCallState
  | getVoIPCallInfo | reportAudioDeviceInfo | registerVoipCallManagerCallback
  | unRegisterVoipCallManagerCallback | endCall | hasDistributedCommunicationCapability
  | answerCallNoParam | rejectCallNoParam | hangUpCallNoParam | unRegisterTransferController =>
    exact ⟨_, rfl, .pure _⟩
  | hasCall flag | setMuted flag | setRegMmiCodeCallbackState flag | preloadCallUi flag =>
    exact ⟨_, rfl, .next (reads_bool _) (.pure _)⟩
  | hangUpCall value | holdCall value | unHoldCall value | switchCall value | stopDtmf value
  | getCallWaiting value | combineConference value | separateConference value
  | kickOutFromConference value | getMainCallId value | getSubCallIdList value
  | getCallIdListForConference value | enableImsSwitch value | disableImsSwitch value
  | isImsSwitchEnabled value | getVoNRState value | closeUnFinishedUssd value
  | setVoIPCallState value | getProxyObjectPtr value | cancelCallUpgrade value
  | requestCameraCapabilities value | notifyVoIPAudioStreamStart value
  | rejectCallWithType value =>
    exact ⟨_, rfl, .next (reads_int32 _) (.pure _)⟩
  | getCallRestriction value value' | getCallTransferInfo value value'
  | setDeviceDirection value value' | setCallPreferenceMode value value'
  | getImsConfig value value' | getImsFeatureValue value value' | setVoNRState value value'
  | updateImsRttCallMode value value' | setCallAudioMode value value' =>
    exact ⟨_, rfl, .next (reads_int32 _) (.next (reads_int32 _) (.pure _))⟩
  | postDialProceed value flag | setCallWaiting value flag | canSetCallTransferTime value flag
  | setRttCapability value flag =>
    exact ⟨_, rfl, .next (reads_int32 _) (.next (reads_bool _) (.pure _))⟩
  | controlCamera value text | setPausePicture value text =>
    exact ⟨_, rfl, .next (reads_int32 _) (.next (reads_string16 _) (.pure _))⟩
  | sendCallUiEvent value text | registerBluetoothCallManagerCallbackPtr value text
  | sendUssdResponse value text | sendRttMessage value text =>
    exact ⟨_, rfl, .next (reads_int32 _) (.next (reads_string _) (.pure _))⟩
  | inputDialerSpecialCode text | notifyTransferCallContact text =>
    exact ⟨_, rfl, .next (reads_string _) (.pure _)⟩
  | formatPhoneNumber number countryCode | formatPhoneNumberToE164 number countryCode =>
    exact ⟨_, rfl, .next (reads_string16 _) (.next (reads_string16 _) (.pure _))⟩
  | startDtmf callId str =>
    exact ⟨_, rfl, .next (reads_int32 _) (.next (reads_int8 _) (.pure _))⟩
  | updateImsCallMode callId mode =>
    exact ⟨_, rfl, .next (reads_int32 _) (.next (reads_uint32 _) (.pure _))⟩
  | setCameraZoom zoomRatio => exact ⟨_, rfl, .next (reads_float _) (.pure _)⟩
  | isEmergencyPhoneNumber number slotId =>
    exact ⟨_, rfl, .next (reads_string16 _) (.next (reads_int32 _) (.pure _))⟩
  | getCallTransferInfoByNumber number type =>
    exact ⟨_, rfl, .next (reads_string _) (.next (reads_int32 _) (.pure _))⟩
  | setImsFeatureValue value value' value'' =>
    exact ⟨_, rfl, .next (reads_int32 _) (.next (reads_int32 _) (.next (reads_int32 _) (.pure _)))⟩
  | answerCall callId videoState isRTT =>
    exact ⟨_, rfl, .next (reads_int32 _) (.next (reads_int32 _) (.next (reads_bool _) (.pure _)))⟩
  | setImsConfig slotId item value =>
    exact ⟨_, rfl,
      .next (reads_int32 _) (.next (reads_int32 _) (.next (reads_string16 _) (.pure _)))⟩
  | setVoIPCallInfo callId state phoneNumber =>
    exact ⟨_, rfl,
      .next (reads_int32 _) (.next (reads_int32 _) (.next (reads_string _) (.pure _)))⟩
  | rejectCall callId rejectWithMessage textMessage =>
    exact ⟨_, rfl,
      .next (reads_int32 _) (.next (reads_bool _) (.next (reads_string16 _) (.pure _)))⟩

/-- The map of `OnDialCall` before the bundle name. -/
def readDialMap (extras : PacMap) : PacMap :=
  let m := PacMap.empty.putIntValue "accountId" (extras.getIntValue "accountId")
  let m := m.putIntValue "videoState" (extras.getIntValue "videoState")
  let m := m.putIntValue "dialScene" (extras.getIntValue "dialScene")
  let m := m.putIntValue "dialType" (extras.getIntValue "dialType")
  let m := m.putIntValue "callType" (extras.getIntValue "callType")
  let m := m.putBooleanValue "isRTT" (extras.getBooleanValue "isRTT")
  let m := m.putIntValue "phoneIndex" (extras.getIntValue "phoneIndex")
  m.putStringValue "extraParams" (extras.getStringValue "extraParams")

theorem reads_readDialInfo {P : FullMessageParcel} (number : U16String) (extras : PacMap) :
    Reads (P := P.toMessageParcel) readDialInfo (ServiceCall.writtenDial number extras)
      (number, readDialMap extras) := by
  refine .next (reads_string16 _) (.next (reads_int32 _) (.next (reads_int32 _) ?_))
  refine .next (reads_int32 _) (.next (reads_int32 _) (.next (reads_int32 _) ?_))
  exact .next (reads_bool _) (.next (reads_int32 _) (.next (reads_string _) (.pure _)))

theorem readDialFlag_accepted {P : FullMessageParcel} {number : U16String}
    (hnumber : number.length ≤ accountNumberMaxLength) (m : PacMap) (p : P.Parcel) :
    ∃ bundleName flag, (readDialFlag (P := P) number m p).1 = .calls (.dialCall number
      ((m.putStringValue "bundleName" bundleName).putBooleanValue "btSlotIdUnknown" flag)) := by
  refine ⟨(string p).1, (bool (string p).2).1, ?_⟩
  show ((if accountNumberMaxLength < number.length then _ else _ : Handler P) _).1 = _
  rw [if_neg (Nat.not_lt.mpr hnumber)]
  rfl

/-- `OnDialCall` calls the service with all that is written before the flag. -/
theorem onDialCall_accepted {P : FullMessageParcel} {number : U16String} {extras : PacMap}
    (hnumber : number.length ≤ accountNumberMaxLength) {rest : List ParcelItem} {p : P.Parcel}
    (hp : P.contents p = ServiceCall.writtenDial number extras ++ rest) :
    ∃ call', (onDialCall (P := P) p).1 = .calls call' ∧
      (ServiceCall.dialCall number extras).Passes call' := by
  obtain ⟨hv, -⟩ := reads_readDialInfo number extras p rest hp
  obtain ⟨bundleName, flag, hcall⟩ :=
    readDialFlag_accepted hnumber (readDialMap extras) (readDialInfo (P := P) p).2
  have hrun : onDialCall (P := P) p = readDialFlag (readDialInfo (P := P) p).1.1
      (readDialInfo (P := P) p).1.2 (readDialInfo (P := P) p).2 := rfl
  rw [hrun, hv]
  refine ⟨_, hcall, rfl, ?_, rfl, rfl⟩
  intro key hkey
  simp only [List.mem_cons, List.not_mem_nil, or_false] at hkey
  rcases hkey with rfl | rfl | rfl | rfl | rfl | rfl <;> rfl

/-! ## Main result -/

/-- `OnRemoteRequest` takes the token and leaves the rest to the handler. -/
theorem onRemoteRequest_run {P : FullMessageParcel} {call : ServiceCall} {p : P.Parcel}
    (hp : P.contents p = call.request) :
    ∃ p', P.contents p' = call.written ∧
      onRemoteRequest (P := P) call.code p = memberFunc (P := P) call.code p' := by
  obtain ⟨hv, hc⟩ := reads_interfaceToken (P := P.toMessageParcel) descriptor p _ hp
  refine ⟨(interfaceToken (P := P.toMessageParcel) p).2, hc, ?_⟩
  have hrun : onRemoteRequest (P := P) call.code p =
      (if descriptor ≠ (interfaceToken (P := P.toMessageParcel) p).1 then
        Pure.pure (Handled.refused .descriptorMismatch) else memberFunc (P := P) call.code)
        (interfaceToken (P := P.toMessageParcel) p).2 := rfl
  rw [hrun, hv, if_neg (not_not.mpr rfl)]

/-- **Main theorem.** Whatever the parcels are: the handler of a request whose arguments
    pass the checks of both sides calls the service with these arguments, and but for a
    dial it takes all that the proxy wrote. -/
theorem onRemoteRequest_accepted (P : FullMessageParcel) {call : ServiceCall}
    (hproxy : call.ProxyAccepts) (hstub : call.StubAccepts) {p : P.Parcel}
    (hp : P.contents p = call.request) :
    ∃ call', (onRemoteRequest (P := P) call.code p).1 = .calls call' ∧ call.Passes call' ∧
      ((∀ number extras, call ≠ .dialCall number extras) →
        P.contents (onRemoteRequest (P := P) call.code p).2 = []) := by
  obtain ⟨p', hp', hrun⟩ := onRemoteRequest_run hp
  rw [hrun]
  by_cases hdial : ∀ number extras, call ≠ .dialCall number extras
  · obtain ⟨call', hpasses, hreads⟩ := memberFunc_accepted (P := P) hproxy hstub hdial
    obtain ⟨hv, hc⟩ := hreads p' hp'
    exact ⟨call', hv, hpasses, fun _ => hc⟩
  · push Not at hdial
    obtain ⟨number, extras, rfl⟩ := hdial
    obtain ⟨call', hv, hpasses⟩ := onDialCall_accepted (P := P) hstub hp'
    exact ⟨call', hv, hpasses, fun h => absurd rfl (h number extras)⟩

/-- `"10086"`. -/
def serviceNumber : ByteString := [49, 48, 48, 56, 54]

theorem onRemoteRequest_makeCall :
    ∃ call', (onRemoteRequest (P := queue) .makeCall
        (ServiceCall.makeCall serviceNumber).request).1 = .calls call' ∧
      (ServiceCall.makeCall serviceNumber).Passes call' ∧
      ((∀ number extras, ServiceCall.makeCall serviceNumber ≠ .dialCall number extras) →
        queue.contents (onRemoteRequest (P := queue) .makeCall
          (ServiceCall.makeCall serviceNumber).request).2 = []) := by
  have hproxy : (ServiceCall.makeCall serviceNumber).ProxyAccepts := List.cons_ne_nil _ _
  have hstub : (ServiceCall.makeCall serviceNumber).StubAccepts := by
    show serviceNumber.length ≤ accountNumberMaxLength
    decide
  exact onRemoteRequest_accepted queue hproxy hstub rfl

/-- A longer number than the handler takes. -/
theorem makeCall_refused {P : FullMessageParcel} {number : ByteString}
    (hnumber : accountNumberMaxLength < number.length) {p : P.Parcel}
    (hp : P.contents p = (ServiceCall.makeCall number).request) :
    (onRemoteRequest (P := P) .makeCall p).1 = .refused .numberOutOfRange := by
  obtain ⟨p', hp', hrun⟩ := onRemoteRequest_run hp
  have hreads : ReadsAll (P := P.toMessageParcel) onMakeCall [.string number]
      (.refused .numberOutOfRange) := by
    refine .next (reads_string _) ?_
    rw [if_pos hnumber]
    exact .pure _
  exact (congrArg Prod.fst hrun).trans (hreads p' hp').1

/-- A number of 256 digits passes the proxy, and the handler does not call the service;
    nor does it for six calls of an OTT application. -/
theorem long_number_refused :
    (ServiceCall.makeCall (List.replicate 256 48)).ProxyAccepts ∧
      (onRemoteRequest (P := queue) .makeCall
        (ServiceCall.makeCall (List.replicate 256 48)).request).1 = .refused .numberOutOfRange ∧
      ∀ info : OttCallDetailsInfo,
        (ServiceCall.reportOttCallDetailsInfo (List.replicate 6 info)).ProxyAccepts ∧
          (onRemoteRequest (P := queue) .reportOttCallDetailInfo
            (ServiceCall.reportOttCallDetailsInfo (List.replicate 6 info)).request).1 =
              .refused .argumentInvalid := by
  refine ⟨List.cons_ne_nil _ _, ?_, fun info => ⟨List.cons_ne_nil _ _, rfl⟩⟩
  refine makeCall_refused ?_ rfl
  rw [List.length_replicate]
  decide

end CallManager.AppRequests
