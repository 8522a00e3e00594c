import CallManager.CallbackCodec
import CallManager.CallAttributeCodec
import CallManager.ModemReports
import CallManager.Library.Run
import Mathlib.Data.List.Perm.Basic

/-!
# The callbacks of the applications

`CallAbilityReportProxy` keeps the callbacks that applications have registered and
passes every report on to them. All of it happens under one mutex, one lock section
at a time; the sections of several threads come in any order. An application is
known by its bundle and its process, `GetBundleInfo`, and takes its callbacks away
again by that name, or dies.

The result of an MMI code takes a way of its own. As long as no callback for MMI
codes is registered, `SendMmiCodeResult` starts the dialog that will register one
and leaves the result in a cache, in a second lock section; registering takes the
result out of the cache and reports it, in two sections again.

Results:
* `run_viewOf`: over every run, what an application is told is what a book of its
  own would say, into which it alone writes its callbacks and out of which they
  alone are told: each of its live callbacks hears every report once, in the order of
  registration, whatever the other applications do.
* `mmiLedger`: over every run each result of an MMI code is in one place; when no
  thread is under way, each has been reported exactly once iff no step discarded
  one and none is left in the cache.
* `strandedCache_iff`: no result lies in the cache beside a registered callback,
  throughout a run, iff no thread caches one after a registration that came between
  its two sections.
* `ottCallRequest_unheard`: no request to an OTT application ever reaches a callback.

**Deviation.** `OttCallRequest` looks for the bare bundle name of the call service,
but every callback is registered under a name with the process appended.
-/

namespace CallManager

namespace AppCallbacks

open CallAttributeCodec (CallAttributeInfo)
open AppRequests (PacMap)
open ModemReports (MmiCodeInfo)

/-! ## Model -/

/-- `CallEventInfo` (call_manager_info.h:135-148). -/
structure CallEventInfo where
  eventId : Int32
  phoneNum : ReportTransport.CharArray maxNumberLen
  bundleName : ReportTransport.CharArray CallAttributeCodec.maxBundleNameLen

/-- `CallMediaModeInfo` (call_manager_inner_type.h:457-491). -/
structure CallMediaModeInfo where
  callId : Int32
  isRequestInfo : Bool
  result : Int32
  callMode : Int32

/-- `CallSessionEvent` (call_manager_inner_type.h:675-698). -/
structure CallSessionEvent where
  eventId : Int32
  callId : Int32

/-- `PeerDimensionsDetail` and `CameraCapabilities` (call_manager_inner_type.h:714-784). -/
structure DimensionsDetail where
  callId : Int32
  width : Int32
  height : Int32

/-- `RttEvent` (call_manager_inner_type.h:515-545). -/
structure RttEvent where
  callId : Int32
  eventType : Int32
  reason : Int32

/-- `RttError` (call_manager_inner_type.h:569-605). -/
structure RttError where
  callId : Int32
  operationType : Int32
  causeCode : Int32
  reasonText : ByteString

/-- The reports that are passed on as they are. -/
inductive Notice
  | onMeeTimeDetailsChange (info : CallAttributeInfo)
  | onCallEventChange (info : CallEventInfo)
  | onCallDisconnectedCause (reason : Int32) (message : ByteString)
  | onReportAsyncResults (reportId : CallbackCodec.CallResultReportId) (resultInfo : PacMap)
  | onReportAudioDeviceChange (info : CallbackCodec.AudioDeviceInfo)
  | onReportPostDialDelay (str : ByteString)
  | onReportImsCallModeChange (imsCallModeInfo : CallMediaModeInfo)
  | onReportCallSessionEventChange (callSessionEventOptions : CallSessionEvent)
  | onReportPeerDimensionsChange (peerDimensionsDetail : DimensionsDetail)
  | onReportCallDataUsageChange (dataUsage : Int64)
  | onReportCameraCapabilities (cameraCapabilities : DimensionsDetail)
  | onPhoneStateChange (numActive numHeld callState : Int32) (number : ByteString)
  | onReportRttCallEvtChanged (info : RttEvent)
  | onReportRttCallError (info : RttError)
  | onReportRttCallMessage (info : PacMap)

/-- The methods of `ICallAbilityCallback` with their arguments
    (i_call_ability_callback.h:31-51). -/
inductive Report
  | notice (report : Notice)
  | onCallDetailsChange (info : CallAttributeInfo)
  | onOttCallRequest (requestId : CallbackCodec.OttCallRequestId) (info : PacMap)
  | onReportMmiCodeResult (info : MmiCodeInfo)

/-- A registered `ICallAbilityCallback`: its remote object and `bundleInfo_`. -/
structure Callback where
  remote : ℕ
  bundleInfo : String
  deriving DecidableEq, Repr

/-- The application that calls the service: `GetCallingUid`, `GetCallingPid` and the
    name of `GetBundleNameByUid`. -/
structure Caller where
  uid : ℤ
  pid : ℤ
  bundleName : String

/-- `CallManagerService::GetBundleInfo` (call_manager_service.cpp:1546-1560). -/
def getBundleInfo (caller : Caller) : String :=
  let bundleName :=
    if caller.bundleName = "" then toString caller.uid ++ toString caller.pid
    else caller.bundleName
  bundleName ++ ":" ++ toString caller.pid

section Registry

variable (callbackPtrList : List Callback)

/-- `RegisterCallBack` (call_ability_report_proxy.cpp:55-76). -/
def registerCallBack (callAbilityCallbackPtr : Option ℕ) (bundleInfo : String) :
    ErrorCode × List Callback :=
  match callAbilityCallbackPtr with
  | none => (.telephonyErrLocalPtrNull, callbackPtrList)
  | some remote => (.telephonySuccess, callbackPtrList ++ [⟨remote, bundleInfo⟩])

/-- `UnRegisterCallBack(bundleInfo)`: the first callback of the application
    (call_ability_report_proxy.cpp:78-94). -/
def unRegisterCallBack (bundleInfo : String) : ErrorCode × List Callback :=
  if callbackPtrList = [] then (.telephonyErrLocalPtrNull, [])
  else (.telephonySuccess, callbackPtrList.eraseP fun it => it.bundleInfo = bundleInfo)

/-- `UnRegisterCallBack(object)`, which `OnRemoteDied` calls
    (call_ability_report_proxy.cpp:96-112). -/
def unRegisterRemote (object : ℕ) : ErrorCode × List Callback :=
  if callbackPtrList = [] then (.telephonyErrLocalPtrNull, [])
  else (.telephonySuccess, callbackPtrList.eraseP fun it => it.remote = object)

end Registry

section Reports

variable (answer : Callback → Report → ErrorCode)

/-- The loop of a report to everyone: a callback that fails does not end it, and the answer of
    the last one is returned (call_ability_report_proxy.cpp:154-594). -/
def reportLoop (report : Report) (ret : ErrorCode) :
    List Callback → List (Callback × Report) × ErrorCode
  | [] => ([], ret)
  | it :: rest =>
    let (told, ret) := reportLoop report (answer it report) rest
    ((it, report) :: told, ret)

/-- A report to everyone. -/
def reportToAll (report : Report) (callbackPtrList : List Callback) :
    List (Callback × Report) × ErrorCode :=
  reportLoop answer report .telephonyErrFail callbackPtrList

/-- What a section tells that may have a report for everyone. -/
def tellAll (callbackPtrList : List Callback) : Option Report → List (Callback × Report)
  | none => []
  | some report => (reportToAll answer report callbackPtrList).1

/-- The name that `OttCallRequest` looks for. -/
def callService : String := "com.ohos.callservice"

/-- The loop of `OttCallRequest`, which ends at the first callback that fails
    (call_ability_report_proxy.cpp:342-361). -/
def ottLoop (report : Report) (ret : ErrorCode) :
    List Callback → List (Callback × Report) × ErrorCode
  | [] => ([], ret)
  | it :: rest =>
    if it.bundleInfo = callService then
      if answer it report ≠ .telephonySuccess then ([(it, report)], answer it report)
      else
        let (told, ret) := ottLoop report (answer it report) rest
        ((it, report) :: told, ret)
    else ottLoop report ret rest

/-- `OttCallRequest`. -/
def ottCallRequest (requestId : CallbackCodec.OttCallRequestId) (info : PacMap)
    (callbackPtrList : List Callback) : List (Callback × Report) × ErrorCode :=
  ottLoop answer (.onOttCallRequest requestId info) .telephonyErrFail callbackPtrList

/-- `ReportCallStateInfo(info, bundleInfo)`: the first callback of the application
    (call_ability_report_proxy.cpp:232-251). -/
def reportCallStateInfoTo (info : CallAttributeInfo) (bundleInfo : String)
    (callbackPtrList : List Callback) : List (Callback × Report) × ErrorCode :=
  match callbackPtrList.find? fun callback => callback.bundleInfo = bundleInfo with
  | none => ([], .telephonyError)
  | some callback =>
    ([(callback, .onCallDetailsChange info)], answer callback (.onCallDetailsChange info))

end Reports

/-- `BT_CALL_INVALID_SLOT`. -/
def btCallInvalidSlot : Int32 := -1

/-- The call of a report, as `ReportCallStateInfo` asks the store for it. -/
structure ReportedCall where
  callType : CallType
  btCallSlotId : Int32
  isTransferCallAndForbidden : Bool

/-- What `ReportCallStateInfo` reports to everyone: nothing of a forbidden transfer call, and no
    slot of a Bluetooth call that has none to show (call_ability_report_proxy.cpp:171-208 and
    513-527). -/
def shownCallStateInfo (isSlotIdVisible : Bool) (callPtr : Option ReportedCall)
    (info : CallAttributeInfo) : Option CallAttributeInfo :=
  match callPtr with
  | none => some info
  | some call =>
    if call.isTransferCallAndForbidden then none
    else if call.callType = .bluetooth ∧ call.btCallSlotId = btCallInvalidSlot ∧
      ¬ isSlotIdVisible then some { info with accountId := btCallInvalidSlot }
    else some info

/-- One lock section, with what its thread found out before: a registration, a report,
    or a part of the way of an MMI result. The index chooses the thread. -/
inductive Section
  | registerCallBack (callback : Option ℕ) (caller : Caller)
  | unRegisterCallBack (caller : Caller)
  | onRemoteDied (object : ℕ)
  | report (report : Notice)
  | reportCallStateInfo (info : CallAttributeInfo) (callPtr : Option ReportedCall)
      (isSlotIdVisible : Bool)
  | observerOnCallDetailsChange (info : CallAttributeInfo) (caller : Caller)
  | ottCallRequest (requestId : CallbackCodec.OttCallRequestId) (info : PacMap)
  | isMmiCodeCallbackRegistered (info : MmiCodeInfo)
  | cacheMmiCodeInfo (thread : ℕ)
  | reportDelayed (thread : ℕ)
  | setRegMmiCodeCallbackState (isReg : Bool)
  | reportTaken (thread : ℕ)

/-- A lock section with what each callback answers in it. -/
structure Turn where
  lockSection : Section
  answer : Callback → Report → ErrorCode

/-- What `CallAbilityReportProxy` keeps for MMI codes, and the results of threads
    between two sections: those of `SendMmiCodeResult` that found no callback, those
    of the delayed tasks, and those taken out of the cache. The last two lists record
    what was reported and what was dropped. -/
structure MmiDesk where
  isMmiCodeCallbackRegistered : Bool
  cacheInfo : Option MmiCodeInfo
  refused : List MmiCodeInfo
  delayed : List MmiCodeInfo
  taken : List MmiCodeInfo
  reported : List MmiCodeInfo
  discarded : List MmiCodeInfo

namespace MmiDesk

variable (d : MmiDesk)

/-- The first section of `SendMmiCodeResult` (call_status_callback.cpp:247-271). -/
def sendMmiCodeResult (info : MmiCodeInfo) : MmiDesk :=
  if d.isMmiCodeCallbackRegistered then { d with delayed := d.delayed ++ [info] }
  else { d with refused := d.refused ++ [info] }

/-- `CacheMmiCodeInfo`, the second section of `SendMmiCodeResult`
    (call_ability_report_proxy.cpp:294-298). -/
def cacheMmiCodeInfo (thread : ℕ) : MmiDesk :=
  match d.refused[thread]? with
  | none => d
  | some info =>
    { d with
      refused := d.refused.eraseIdx thread
      cacheInfo := some info
      discarded := d.discarded ++ d.cacheInfo.toList }

/-- The task of `SendMmiCodeResult`, in `ReportMmiCodeResult`. -/
def reportDelayed (thread : ℕ) : MmiDesk :=
  match d.delayed[thread]? with
  | none => d
  | some info =>
    { d with delayed := d.delayed.eraseIdx thread, reported := d.reported ++ [info] }

/-- The first section of `SetRegMmiCodeCallbackState` (call_ability_report_proxy.cpp:300-315). -/
def setRegMmiCodeCallbackState : Bool → MmiDesk
  | true =>
    { d with
      isMmiCodeCallbackRegistered := true
      cacheInfo := none
      taken := d.taken ++ d.cacheInfo.toList }
  | false =>
    { d with
      isMmiCodeCallbackRegistered := false
      cacheInfo := none
      discarded := d.discarded ++ d.cacheInfo.toList }

/-- The second section of `SetRegMmiCodeCallbackState`, in `ReportMmiCodeResult`. -/
def reportTaken (thread : ℕ) : MmiDesk :=
  match d.taken[thread]? with
  | none => d
  | some info => { d with taken := d.taken.eraseIdx thread, reported := d.reported ++ [info] }

/-- What a section does to the way of the MMI results. -/
def next : Section → MmiDesk
  | .isMmiCodeCallbackRegistered info => d.sendMmiCodeResult info
  | .cacheMmiCodeInfo thread => d.cacheMmiCodeInfo thread
  | .reportDelayed thread => d.reportDelayed thread
  | .setRegMmiCodeCallbackState isReg => d.setRegMmiCodeCallbackState isReg
  | .reportTaken thread => d.reportTaken thread
  | _ => d

/-- The report that a section makes to everyone. -/
def said : Section → Option Report
  | .report report => some (.notice report)
  | .reportCallStateInfo info callPtr isSlotIdVisible =>
    (shownCallStateInfo isSlotIdVisible callPtr info).map .onCallDetailsChange
  | .reportDelayed thread => d.delayed[thread]?.map .onReportMmiCodeResult
  | .reportTaken thread => d.taken[thread]?.map .onReportMmiCodeResult
  | _ => none

end MmiDesk

/-- The service: the list of callbacks, the way of the MMI results, and every call of
    a callback so far. -/
structure ReportWorld where
  callbackPtrList : List Callback
  mmi : MmiDesk
  told : List (Callback × Report)

namespace ReportWorld

variable (w : ReportWorld)

/-- The list of callbacks after a section. -/
def listAfter : Section → List Callback
  | .registerCallBack callback caller =>
    (AppCallbacks.registerCallBack w.callbackPtrList callback (getBundleInfo caller)).2
  | .unRegisterCallBack caller =>
    (AppCallbacks.unRegisterCallBack w.callbackPtrList (getBundleInfo caller)).2
  | .onRemoteDied object => (unRegisterRemote w.callbackPtrList object).2
  | _ => w.callbackPtrList

/-- The calls of callbacks that a turn makes. -/
def toldIn (turn : Turn) : List (Callback × Report) :=
  match turn.lockSection with
  | .ottCallRequest requestId info =>
    (AppCallbacks.ottCallRequest turn.answer requestId info w.callbackPtrList).1
  | .observerOnCallDetailsChange info caller =>
    (reportCallStateInfoTo turn.answer info (getBundleInfo caller) w.callbackPtrList).1
  | lockSection => tellAll turn.answer w.callbackPtrList (w.mmi.said lockSection)

/-- One turn of any thread. -/
def step (turn : Turn) : ReportWorld where
  callbackPtrList := w.listAfter turn.lockSection
  mmi := w.mmi.next turn.lockSection
  told := w.told ++ w.toldIn turn

end ReportWorld

/-- The desk at the start of the service. -/
def MmiDesk.start : MmiDesk := ⟨false, none, [], [], [], [], []⟩

/-- The start of the service. -/
def ReportWorld.start : ReportWorld := ⟨[], .start, []⟩

/-! ## Specification -/

/-- What concerns one application: its live callbacks, in the order of registration,
    and what they were told. -/
structure AppView where
  mmi : MmiDesk
  live : List ℕ
  received : List (ℕ × Report)

namespace AppView

variable (bundleInfo : String) (v : AppView)

/-- The book of one application: only its own registrations go in, its oldest one goes
    out when it unregisters, and one of an object that died; the reports to everyone
    are told to all that are live, and the calls it observes itself to the oldest. -/
def step (turn : Turn) : AppView :=
  let mmi := v.mmi.next turn.lockSection
  match turn.lockSection with
  | .registerCallBack (some remote) caller =>
    if getBundleInfo caller = bundleInfo then ⟨mmi, v.live ++ [remote], v.received⟩
    else ⟨mmi, v.live, v.received⟩
  | .unRegisterCallBack caller =>
    if getBundleInfo caller = bundleInfo then ⟨mmi, v.live.tail, v.received⟩
    else ⟨mmi, v.live, v.received⟩
  | .onRemoteDied object => ⟨mmi, v.live.erase object, v.received⟩
  | .observerOnCallDetailsChange info caller =>
    if getBundleInfo caller = bundleInfo then
      ⟨mmi, v.live, v.received ++ v.live.head?.toList.map (·, .onCallDetailsChange info)⟩
    else ⟨mmi, v.live, v.received⟩
  | lockSection =>
    ⟨mmi, v.live,
      v.received ++ (v.mmi.said lockSection).toList.flatMap fun report => v.live.map (·, report)⟩

end AppView

/-- The part of the service that concerns one application. -/
def ReportWorld.viewOf (bundleInfo : String) (w : ReportWorld) : AppView where
  mmi := w.mmi
  live := (w.callbackPtrList.filter fun it => it.bundleInfo = bundleInfo).map (·.remote)
  received := (w.told.filter fun it => it.1.bundleInfo = bundleInfo).map fun it =>
    (it.1.remote, it.2)

/-- A remote object is registered by the application it belongs to. -/
def Section.RegistersOwn (owner : ℕ → String) : Section → Prop
  | .registerCallBack (some remote) caller => getBundleInfo caller = owner remote
  | _ => True

/-- The result that the modem sends, if a section is the first of `SendMmiCodeResult`. -/
def Section.sent : Section → List MmiCodeInfo
  | .isMmiCodeCallbackRegistered info => [info]
  | _ => []

/-- The results that the modem sends in a run. -/
def sentResults (turns : List Turn) : List MmiCodeInfo := turns.flatMap (·.lockSection.sent)

namespace MmiDesk

/-- The results of threads under way. -/
def underWay (d : MmiDesk) : List MmiCodeInfo := d.refused ++ d.delayed ++ d.taken

/-- The results wherever they are. -/
def held (d : MmiDesk) : List MmiCodeInfo :=
  d.underWay ++ d.cacheInfo.toList ++ d.reported ++ d.discarded

/-- A section that drops no result: it caches none over another, and does not
    unregister beside one in the cache. -/
def KeepsResults (d : MmiDesk) : Section → Prop
  | .cacheMmiCodeInfo thread => d.refused[thread]?.isSome → d.cacheInfo = none
  | .setRegMmiCodeCallbackState false => d.cacheInfo = none
  | _ => True

/-- A result lies in the cache beside a registered callback. -/
def Stranded (d : MmiDesk) : Prop := d.isMmiCodeCallbackRegistered ∧ d.cacheInfo ≠ none

/-- A thread that caches its result does so while no callback is registered. -/
def CachesInTime (d : MmiDesk) : Section → Prop
  | .cacheMmiCodeInfo thread => d.refused[thread]?.isSome → ¬ d.isMmiCodeCallbackRegistered
  | _ => True

end MmiDesk

/-! ## Lemmas -/

/-- No name that the service gives to an application is that of the call service: it
    has a colon in it. -/
theorem getBundleInfo_ne_callService (caller : Caller) : getBundleInfo caller ≠ callService := by
  intro h
  have hcolon : ':' ∈ (getBundleInfo caller).toList := by simp [getBundleInfo]
  rw [h] at hcolon
  exact absurd hcolon (by decide)

@[simp] theorem tellAll_none (answer : Callback → Report → ErrorCode) (l : List Callback) :
    tellAll answer l none = [] := rfl

theorem reportLoop_told (answer : Callback → Report → ErrorCode) (report : Report)
    (ret : ErrorCode) (l : List Callback) :
    (reportLoop answer report ret l).1 = l.map (·, report) := by
  induction l generalizing ret with
  | nil => rfl
  | cons it rest ih => simp [reportLoop, ih]

/-- A loop over callbacks of which none has the name calls none. -/
theorem ottLoop_unheard (answer : Callback → Report → ErrorCode) (report : Report)
    (ret : ErrorCode) {l : List Callback} (h : ∀ it ∈ l, it.bundleInfo ≠ callService) :
    ottLoop answer report ret l = ([], ret) := by
  induction l with
  | nil => rfl
  | cons it rest ih =>
    rw [ottLoop, if_neg (h it List.mem_cons_self)]
    exact ih fun x hx => h x (List.mem_cons_of_mem it hx)

section Erase

variable {α : Type*} {p q : α → Bool}

/-- Erasing among what a filter keeps. -/
theorem filter_eraseP_of_imp {l : List α} (h : ∀ x ∈ l, q x → p x) :
    (l.eraseP q).filter p = (l.filter p).eraseP q := by
  induction l with
  | nil => rfl
  | cons x rest ih =>
    have hrest := ih fun y hy => h y (List.mem_cons_of_mem x hy)
    by_cases hq : q x
    · simp [hq, h x List.mem_cons_self hq]
    · by_cases hp : p x <;> simp [hq, hp, hrest]

/-- Erasing what a filter drops. -/
theorem filter_eraseP_of_disjoint {l : List α} (h : ∀ x ∈ l, q x → ¬ p x) :
    (l.eraseP q).filter p = l.filter p := by
  induction l with
  | nil => rfl
  | cons x rest ih =>
    have hrest := ih fun y hy => h y (List.mem_cons_of_mem x hy)
    by_cases hq : q x
    · simp [hq, h x List.mem_cons_self hq]
    · by_cases hp : p x <;> simp [hq, hp, hrest]

theorem eraseP_eq_tail {l : List α} (h : ∀ x ∈ l, q x) : l.eraseP q = l.tail := by
  cases l with
  | nil => rfl
  | cons x rest => simp [h x List.mem_cons_self]

end Erase

/-! ### The registry -/

theorem unRegisterCallBack_list (l : List Callback) (bundleInfo : String) :
    (unRegisterCallBack l bundleInfo).2 = l.eraseP fun it => it.bundleInfo = bundleInfo := by
  unfold unRegisterCallBack
  split
  · next h => rw [h]; rfl
  · rfl

theorem unRegisterRemote_list (l : List Callback) (object : ℕ) :
    (unRegisterRemote l object).2 = l.eraseP fun it => it.remote = object := by
  unfold unRegisterRemote
  split
  · next h => rw [h]; rfl
  · rfl

/-- A callback that is in the list after a section was there before, or is registered
    in it under the name of the caller. -/
theorem mem_listAfter {w : ReportWorld} {s : Section} {it : Callback} (h : it ∈ w.listAfter s) :
    it ∈ w.callbackPtrList ∨
      ∃ remote caller, s = .registerCallBack (some remote) caller ∧
        it = ⟨remote, getBundleInfo caller⟩ := by
  cases s with
  | registerCallBack callback caller =>
    cases callback with
    | none => exact .inl h
    | some remote =>
      rcases List.mem_append.mp h with h | h
      · exact .inl h
      · exact .inr ⟨remote, caller, rfl, List.mem_singleton.mp h⟩
  | unRegisterCallBack caller =>
    rw [ReportWorld.listAfter, unRegisterCallBack_list] at h
    exact .inl (List.mem_of_mem_eraseP h)
  | onRemoteDied object =>
    rw [ReportWorld.listAfter, unRegisterRemote_list] at h
    exact .inl (List.mem_of_mem_eraseP h)
  | report | reportCallStateInfo | observerOnCallDetailsChange | ottCallRequest
  | isMmiCodeCallbackRegistered | cacheMmiCodeInfo | reportDelayed | setRegMmiCodeCallbackState
  | reportTaken => exact .inl h

/-- No callback has the name that `OttCallRequest` looks for. -/
def Unheard (w : ReportWorld) : Prop := ∀ it ∈ w.callbackPtrList, it.bundleInfo ≠ callService

theorem Unheard.step {w : ReportWorld} (hw : Unheard w) (turn : Turn) : Unheard (w.step turn) := by
  intro it hit
  rcases mem_listAfter hit with h | ⟨remote, caller, -, rfl⟩
  · exact hw it h
  · exact getBundleInfo_ne_callService caller

/-- The callbacks lie under the names of their owners, and none under that of the call service. -/
structure Owned (owner : ℕ → String) (w : ReportWorld) : Prop where
  bundleInfo_eq : ∀ it ∈ w.callbackPtrList, it.bundleInfo = owner it.remote
  unheard : Unheard w

theorem Owned.step {owner : ℕ → String} {w : ReportWorld} {turn : Turn}
    (hown : turn.lockSection.RegistersOwn owner) (hw : Owned owner w) :
    Owned owner (w.step turn) where
  bundleInfo_eq := by
    intro it hit
    rcases mem_listAfter hit with h | ⟨remote, caller, hturn, rfl⟩
    · exact hw.bundleInfo_eq it h
    · rw [hturn] at hown
      exact hown
  unheard := hw.unheard.step turn

/-! ### The view of one application -/

section View

variable {bundleInfo : String} {owner : ℕ → String} {w : ReportWorld}

theorem received_append (told : List (Callback × Report)) (mmi : MmiDesk) (l : List Callback) :
    ReportWorld.viewOf bundleInfo ⟨l, mmi, w.told ++ told⟩ =
      ⟨mmi, (l.filter fun it => it.bundleInfo = bundleInfo).map (·.remote),
        (w.viewOf bundleInfo).received ++
          (told.filter fun it => it.1.bundleInfo = bundleInfo).map fun it => (it.1.remote, it.2)⟩ := by
  simp [ReportWorld.viewOf]

/-- A report to everyone reaches the live callbacks of the application, in order. -/
theorem received_report (l : List Callback) (report : Report) :
    (((l.map fun it => (it, report)).filter fun it => it.1.bundleInfo = bundleInfo).map fun it =>
        (it.1.remote, it.2)) =
      ((l.filter fun it => it.bundleInfo = bundleInfo).map (·.remote)).map (·, report) := by
  rw [List.filter_map, List.map_map, List.map_map]
  rfl

theorem live_register (remote : ℕ) (caller : Caller) :
    ((w.listAfter (.registerCallBack (some remote) caller)).filter fun it =>
        it.bundleInfo = bundleInfo).map (·.remote) =
      if getBundleInfo caller = bundleInfo then (w.viewOf bundleInfo).live ++ [remote]
      else (w.viewOf bundleInfo).live := by
  by_cases h : getBundleInfo caller = bundleInfo <;>
    simp [ReportWorld.listAfter, registerCallBack, ReportWorld.viewOf, h]

theorem live_unRegister (caller : Caller) :
    ((w.listAfter (.unRegisterCallBack caller)).filter fun it =>
        it.bundleInfo = bundleInfo).map (·.remote) =
      if getBundleInfo caller = bundleInfo then (w.viewOf bundleInfo).live.tail
      else (w.viewOf bundleInfo).live := by
  rw [ReportWorld.listAfter, unRegisterCallBack_list]
  by_cases h : getBundleInfo caller = bundleInfo
  · rw [if_pos h, filter_eraseP_of_imp (by simp [h]), eraseP_eq_tail (by simp [h]), List.map_tail]
    rfl
  · rw [if_neg h, filter_eraseP_of_disjoint]
    · rfl
    · intro it _ hit hb
      simp only [decide_eq_true_eq] at hit hb
      exact h (hit.symm.trans hb)

/-- An object that dies takes a callback of its owner away, and of nobody else. -/
theorem live_died (hw : Owned owner w) (object : ℕ) :
    ((w.listAfter (.onRemoteDied object)).filter fun it =>
        it.bundleInfo = bundleInfo).map (·.remote) =
      (w.viewOf bundleInfo).live.erase object := by
  rw [ReportWorld.listAfter, unRegisterRemote_list]
  by_cases h : owner object = bundleInfo
  · rw [filter_eraseP_of_imp, ReportWorld.viewOf, List.erase_eq_eraseP', List.eraseP_map]
    · rfl
    · intro it hit hobj
      simp only [decide_eq_true_eq] at hobj ⊢
      rw [hw.bundleInfo_eq it hit, hobj, h]
  · rw [filter_eraseP_of_disjoint, List.erase_of_not_mem]
    · rfl
    · intro hmem
      obtain ⟨it, hit, rfl⟩ := List.mem_map.mp hmem
      obtain ⟨hit, hb⟩ := List.mem_filter.mp hit
      rw [← hw.bundleInfo_eq it hit] at h
      exact h (of_decide_eq_true hb)
    · intro it hit hobj hb
      simp only [decide_eq_true_eq] at hobj hb
      exact h (by rw [← hobj, ← hw.bundleInfo_eq it hit, hb])

/-- A call that an application observes is told to its oldest callback. -/
theorem received_observer (answer : Callback → Report → ErrorCode) (info : CallAttributeInfo)
    (caller : Caller) :
    ((reportCallStateInfoTo answer info (getBundleInfo caller) w.callbackPtrList).1.filter fun it =>
        it.1.bundleInfo = bundleInfo).map (fun it => (it.1.remote, it.2)) =
      if getBundleInfo caller = bundleInfo then
        (w.viewOf bundleInfo).live.head?.toList.map (·, .onCallDetailsChange info)
      else [] := by
  have hfind : (w.viewOf (getBundleInfo caller)).live.head? =
      (w.callbackPtrList.find? fun it => it.bundleInfo = getBundleInfo caller).map (·.remote) := by
    rw [ReportWorld.viewOf, List.head?_map, List.head?_filter]
  rw [reportCallStateInfoTo]
  cases hfound : w.callbackPtrList.find? fun it => it.bundleInfo = getBundleInfo caller with
  | none =>
    by_cases h : getBundleInfo caller = bundleInfo
    · rw [if_pos h, ← h, hfind, hfound]
      rfl
    · rw [if_neg h]
      rfl
  | some it =>
    have hit : it.bundleInfo = getBundleInfo caller := by simpa using List.find?_some hfound
    by_cases h : getBundleInfo caller = bundleInfo
    · rw [if_pos h, ← h, hfind, hfound]
      simp [hit]
    · simp [hit, h]

/-- What a turn without a request to an OTT application and without an observer tells. -/
theorem received_said (answer : Callback → Report → ErrorCode) (said : Option Report) :
    ((tellAll answer w.callbackPtrList said).filter fun it => it.1.bundleInfo = bundleInfo).map
        (fun it => (it.1.remote, it.2)) =
      said.toList.flatMap fun report => (w.viewOf bundleInfo).live.map (·, report) := by
  cases said with
  | none => rfl
  | some report =>
    rw [Option.toList_some, List.flatMap_singleton, tellAll, reportToAll, reportLoop_told,
      received_report]
    rfl

/-- One turn is, for each application, a step of its own book. -/
theorem viewOf_step {turn : Turn} (hw : Owned owner w) :
    (w.step turn).viewOf bundleInfo = AppView.step bundleInfo (w.viewOf bundleInfo) turn := by
  obtain ⟨lockSection, answer⟩ := turn
  rw [ReportWorld.step, received_append]
  cases lockSection with
  | registerCallBack callback caller =>
    cases callback with
    | none => simp [ReportWorld.toldIn, MmiDesk.said, AppView.step, ReportWorld.listAfter,
        registerCallBack, ReportWorld.viewOf]
    | some remote =>
      rw [live_register]
      simp only [ReportWorld.toldIn, MmiDesk.said, AppView.step, ReportWorld.viewOf]
      split <;> simp
  | unRegisterCallBack caller =>
    rw [live_unRegister]
    simp only [ReportWorld.toldIn, MmiDesk.said, AppView.step, ReportWorld.viewOf]
    split <;> simp
  | onRemoteDied object =>
    rw [live_died hw]
    simp [ReportWorld.toldIn, MmiDesk.said, AppView.step, ReportWorld.viewOf]
  | observerOnCallDetailsChange info caller =>
    simp only [ReportWorld.toldIn, received_observer, AppView.step]
    split <;> simp [ReportWorld.viewOf, ReportWorld.listAfter]
  | ottCallRequest requestId info =>
    simp [ReportWorld.toldIn, ottCallRequest, ottLoop_unheard _ _ _ hw.unheard, AppView.step,
      MmiDesk.said, ReportWorld.viewOf, ReportWorld.listAfter]
  | report | reportCallStateInfo | isMmiCodeCallbackRegistered | cacheMmiCodeInfo | reportDelayed
  | setRegMmiCodeCallbackState | reportTaken =>
    simp only [ReportWorld.toldIn, received_said, AppView.step]
    rfl

end View

/-! ### The way of the MMI results -/

namespace MmiDesk

/-- A thread takes its result along. -/
theorem count_eraseIdx {l : List MmiCodeInfo} {thread : ℕ} {info : MmiCodeInfo}
    (h : l[thread]? = some info) (a : MmiCodeInfo) :
    l.count a = (l.eraseIdx thread).count a + [info].count a := by
  obtain ⟨hlt, rfl⟩ := List.getElem?_eq_some_iff.mp h
  have hperm := (List.getElem_cons_eraseIdx_perm hlt).count_eq a
  rw [← hperm, List.count_cons, List.count_singleton]

/-- A section moves results from one place to another, and adds the one it sends. -/
theorem next_held (d : MmiDesk) (s : Section) : (d.next s).held.Perm (d.held ++ s.sent) := by
  rw [List.perm_iff_count]
  intro a
  cases s with
  | isMmiCodeCallbackRegistered info =>
    simp only [next, sendMmiCodeResult, Section.sent]
    split <;> simp only [held, underWay, List.count_append] <;> omega
  | cacheMmiCodeInfo thread =>
    simp only [next, cacheMmiCodeInfo, Section.sent]
    split
    · simp [held, underWay]
    · next info h =>
      have hcount := count_eraseIdx h a
      simp only [held, underWay, List.count_append, Option.toList_some, List.count_nil]
      omega
  | reportDelayed thread =>
    simp only [next, reportDelayed, Section.sent]
    split
    · simp [held, underWay]
    · next info h =>
      have hcount := count_eraseIdx h a
      simp only [held, underWay, List.count_append, List.count_nil]
      omega
  | setRegMmiCodeCallbackState isReg =>
    cases isReg <;>
      simp only [next, setRegMmiCodeCallbackState, Section.sent, held, underWay, List.count_append,
        Option.toList_none, List.count_nil] <;> omega
  | reportTaken thread =>
    simp only [next, reportTaken, Section.sent]
    split
    · simp [held, underWay]
    · next info h =>
      have hcount := count_eraseIdx h a
      simp only [held, underWay, List.count_append, List.count_nil]
      omega
  | registerCallBack | unRegisterCallBack | onRemoteDied | report | reportCallStateInfo
  | observerOnCallDetailsChange | ottCallRequest => simp [next, Section.sent]

/-- A section that meets `KeepsResults` is one that drops nothing. -/
theorem next_discarded (d : MmiDesk) (s : Section) :
    (d.next s).discarded = [] ↔ d.discarded = [] ∧ d.KeepsResults s := by
  cases s with
  | isMmiCodeCallbackRegistered info =>
    simp only [next, sendMmiCodeResult, KeepsResults, and_true]
    split <;> rfl
  | cacheMmiCodeInfo thread =>
    simp only [next, cacheMmiCodeInfo, KeepsResults]
    split
    · next h => simp [h]
    · next info h => simp [h]
  | setRegMmiCodeCallbackState isReg =>
    cases isReg <;> simp [next, setRegMmiCodeCallbackState, KeepsResults]
  | reportDelayed thread =>
    simp only [next, reportDelayed, KeepsResults, and_true]
    split <;> rfl
  | reportTaken thread =>
    simp only [next, reportTaken, KeepsResults, and_true]
    split <;> rfl
  | registerCallBack | unRegisterCallBack | onRemoteDied | report | reportCallStateInfo
  | observerOnCallDetailsChange | ottCallRequest => simp [next, KeepsResults]

/-- What one section needs to leave no result in the cache beside a callback. -/
theorem next_stranded {d : MmiDesk} (hd : ¬ d.Stranded) (s : Section) :
    ¬ (d.next s).Stranded ↔ d.CachesInTime s := by
  cases s with
  | isMmiCodeCallbackRegistered info =>
    refine iff_of_true ?_ trivial
    simp only [next, sendMmiCodeResult]
    split <;> exact hd
  | cacheMmiCodeInfo thread =>
    simp only [next, cacheMmiCodeInfo, CachesInTime]
    split
    · next h => simp [h, hd]
    · next info h => simp [h, Stranded]
  | setRegMmiCodeCallbackState isReg =>
    cases isReg <;> simp [next, setRegMmiCodeCallbackState, CachesInTime, Stranded]
  | reportDelayed thread =>
    refine iff_of_true ?_ trivial
    simp only [next, reportDelayed]
    split <;> exact hd
  | reportTaken thread =>
    refine iff_of_true ?_ trivial
    simp only [next, reportTaken]
    split <;> exact hd
  | registerCallBack | unRegisterCallBack | onRemoteDied | report | reportCallStateInfo
  | observerOnCallDetailsChange | ottCallRequest => exact iff_of_true hd trivial

end MmiDesk

/-- A run moves the results and adds those it sends. -/
theorem run_held (w : ReportWorld) (turns : List Turn) :
    (Run.run ReportWorld.step w turns).mmi.held.Perm (w.mmi.held ++ sentResults turns) := by
  induction turns generalizing w with
  | nil => simp [sentResults]
  | cons turn turns ih =>
    refine (ih (w.step turn)).trans ?_
    rw [sentResults, sentResults, List.flatMap_cons, ← List.append_assoc]
    exact (w.mmi.next_held turn.lockSection).append_right _

/-- A run that drops nothing is one of sections that drop nothing. -/
theorem run_discarded (turns : List Turn) :
    (Run.run ReportWorld.step .start turns).mmi.discarded = [] ↔
      Run.StepsMeet ReportWorld.step (fun w turn => w.mmi.KeepsResults turn.lockSection) .start
        turns := by
  have hnext := fun (w : ReportWorld) (turn : Turn) => w.mmi.next_discarded turn.lockSection
  have hback : ∀ (w : ReportWorld) (turn : Turn),
      (w.step turn).mmi.discarded = [] → w.mmi.discarded = [] :=
    fun w turn h => ((hnext w turn).mp h).1
  refine (Run.statesMeet_iff_last (P := fun w : ReportWorld => w.mmi.discarded = []) hback).symm.trans
    ?_
  exact Run.statesMeet_iff_stepsMeet
    (fun w turn hw => (hnext w turn).trans (and_iff_right hw)) turns rfl

/-! ## Main results -/

/-- **One book for each application.** Over every run of lock sections, in any order and
    whatever the callbacks answer, what an application is told and which of its
    callbacks are live is what its own book says. -/
theorem run_viewOf (owner : ℕ → String) (bundleInfo : String) (turns : List Turn)
    (hown : ∀ turn ∈ turns, turn.lockSection.RegistersOwn owner) :
    (Run.run ReportWorld.step .start turns).viewOf bundleInfo =
      Run.run (AppView.step bundleInfo) ⟨.start, [], []⟩ turns := by
  have hstart : Owned owner .start :=
    { bundleInfo_eq := by simp [ReportWorld.start]
      unheard := by simp [Unheard, ReportWorld.start] }
  exact Run.run_simulates (f := ReportWorld.viewOf bundleInfo) (I := Owned owner)
    (Q := fun turn => turn.lockSection.RegistersOwn owner) (fun _ _ hturn hw => hw.step hturn)
    (fun _ _ _ hw => viewOf_step hw) turns hown hstart

/-- Two applications whose callbacks belong to them. -/
def ownerOfTwo (remote : ℕ) : String := if remote = 1 then "com.contacts:70" else "com.callui:80"

/-- The first application registers twice, the second once; the first unregisters, and
    the volume of data of a call is reported. -/
def twoApplications : List Turn :=
  [.registerCallBack (some 1) ⟨100, 70, "com.contacts"⟩,
    .registerCallBack (some 2) ⟨200, 80, "com.callui"⟩,
    .registerCallBack (some 1) ⟨100, 70, "com.contacts"⟩,
    .unRegisterCallBack ⟨100, 70, "com.contacts"⟩,
    .report (.onReportCallDataUsageChange 5)].map fun s => ⟨s, fun _ _ => .telephonyErrFail⟩

theorem run_viewOf_two :
    (Run.run ReportWorld.step .start twoApplications).viewOf "com.contacts:70" =
        Run.run (AppView.step "com.contacts:70") ⟨.start, [], []⟩ twoApplications ∧
      (Run.run (AppView.step "com.contacts:70") ⟨.start, [], []⟩ twoApplications).received =
        [(1, .notice (.onReportCallDataUsageChange 5))] :=
  ⟨run_viewOf ownerOfTwo "com.contacts:70" twoApplications
    (by
      simp only [twoApplications, List.map_cons, List.map_nil, List.forall_mem_cons,
        Section.RegistersOwn]
      exact ⟨by decide, by decide, by decide, trivial, trivial, List.forall_mem_nil _⟩), rfl⟩

/-- **The ledger of the MMI results.** Over every run each result that was sent is in one
    place, none more often than it was sent. When no thread is under way, each has been
    reported as often as it was sent iff no section dropped one and none is cached. -/
theorem mmiLedger (turns : List Turn) :
    (Run.run ReportWorld.step .start turns).mmi.held.Perm (sentResults turns) ∧
      ((Run.run ReportWorld.step .start turns).mmi.underWay = [] →
        ((Run.run ReportWorld.step .start turns).mmi.reported.Perm (sentResults turns) ↔
          (Run.run ReportWorld.step .start turns).mmi.cacheInfo = none ∧
            Run.StepsMeet ReportWorld.step (fun w turn => w.mmi.KeepsResults turn.lockSection)
              .start turns)) := by
  have hheld := run_held .start turns
  rw [← run_discarded]
  generalize (Run.run ReportWorld.step .start turns).mmi = d at hheld ⊢
  replace hheld : d.held.Perm (sentResults turns) := hheld
  refine ⟨hheld, fun hway => ?_⟩
  rw [MmiDesk.held, hway, List.nil_append] at hheld
  have hlength := hheld.length_eq
  simp only [List.length_append] at hlength
  constructor
  · intro hreported
    have hsame := hreported.length_eq
    have hcache : d.cacheInfo.toList.length = 0 := by omega
    exact ⟨by simpa using hcache, List.eq_nil_of_length_eq_zero (by omega)⟩
  · rintro ⟨hcache, hdiscarded⟩
    simpa [hcache, hdiscarded] using hheld

/-- A result without text. -/
def emptyResult : MmiCodeInfo := ⟨List.replicate 788 0, List.length_replicate⟩

/-- A result arrives, is cached, and is reported when a callback registers. -/
def cachedThenReported : List Turn :=
  [.isMmiCodeCallbackRegistered emptyResult, .cacheMmiCodeInfo 0,
    .setRegMmiCodeCallbackState true, .reportTaken 0].map fun s => ⟨s, fun _ _ => .telephonySuccess⟩

theorem mmiLedger_cached :
    (Run.run ReportWorld.step .start cachedThenReported).mmi.reported.Perm
      (sentResults cachedThenReported) :=
  ((mmiLedger cachedThenReported).2 rfl).mpr
    ⟨rfl, trivial, fun _ => rfl, trivial, trivial, trivial⟩

/-- **A result is stranded** beside a registered callback only by a thread that found no
    callback, and caches its result after one was registered: no run of other sections
    strands one, and every run with such a section does. -/
theorem strandedCache_iff (turns : List Turn) :
    Run.StatesMeet ReportWorld.step (fun w => ¬ w.mmi.Stranded) .start turns ↔
      Run.StepsMeet ReportWorld.step (fun w turn => w.mmi.CachesInTime turn.lockSection) .start
        turns :=
  Run.statesMeet_iff_stepsMeet (fun _ turn hw => MmiDesk.next_stranded hw turn.lockSection) turns
    (by simp [ReportWorld.start, MmiDesk.start, MmiDesk.Stranded])

/-- **No OTT application is ever asked.** In every state of every run a request to an OTT
    application calls no callback and fails, whatever the callbacks would answer. -/
theorem ottCallRequest_unheard (turns : List Turn) :
    Run.StatesMeet ReportWorld.step
      (fun w => ∀ answer requestId info,
        ottCallRequest answer requestId info w.callbackPtrList = ([], .telephonyErrFail))
      .start turns :=
  (Run.statesMeet_of_invariant (fun _ turn hw => Unheard.step hw turn) turns
    (by simp [Unheard, ReportWorld.start])).mono fun _ hw _ _ _ => ottLoop_unheard _ _ _ hw

end AppCallbacks

end CallManager
