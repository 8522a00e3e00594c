import CallManager.CallKeys

/-!
# The calls of a Bluetooth link that is lost

When the hands-free link is lost, `HfpDisConnectedEndBtCall` ends the Bluetooth
calls, and when its audio is, `ScoDisconnectedEndTransferCall` those that were
transferred. Both make a DISCONNECTED report of each such call and hand it to
`UpdateCallReportInfo`, as if a phone had sent it. The queue handles the reports as
any others: each is looked up by its key, which for a Bluetooth call is the index, the
phone and the slot.

The handlers of the reports and the store are those of `CallStatusManager`. What the
reports are made of beside a `CallBase` is in `CallFields`. The queue has nothing but
the reports between the list they are made from and the last of them.

Specification (`EndsEach`): each of the calls has one report, with which it is found;
afterwards none of them is stored and every other call is, in the state it was in.

Results:
* `endsEach_iff`: in a sound state, as every reached one is, the specification holds iff
  the reports are taken, each of the calls is one of the first phone, on the slot of its
  account or dialed by the watch, with a number that fits (`Identified`), and a hang-up
  that waits with a deferred dial is that of a call that is ended before the line is free
  (`HangupInTime`).
* `second_phone_not_found`: the call of the second phone is left, though the link
  is lost.
-/

namespace CallManager.LinkLoss

open StatusWorld CallObjectManager

/-! ## Model -/

/-- The fields `accountId_` and `isTransferCall_` of a call object. -/
structure CallFields where
  accountId : ℤ
  isTransferCall : Bool
  deriving DecidableEq, Repr

/-- The fields of `CallAttributeInfo` that the reports are made of. -/
structure CallAttributeInfo where
  accountNumber : String
  callType : CallType
  accountId : ℤ
  deriving DecidableEq, Repr

/-- `CallBase::GetCallAttributeBaseInfo` on zeroed memory: it stays as it is for a number that
    is too long (call_base.cpp:162-230). -/
def getCallAttributeBaseInfo (c : CallBase) (fields : CallFields) : CallAttributeInfo :=
  if maxNumberLen < c.accountNumber.utf8ByteSize then ⟨"", .cs, 0⟩
  else ⟨c.accountNumber, c.callType, fields.accountId⟩

/-- The report that both functions make of a call; `phoneIndex` is among the fields that keep
    their initial values (bluetooth_call_connection.cpp:206-215). -/
def disconnectedReport (c : CallBase) (fields : CallFields) : CallDetailInfo :=
  let info := getCallAttributeBaseInfo c fields
  { index := c.index
    phoneNum := info.accountNumber
    accountId := info.accountId
    callType := info.callType
    callMode := .voice
    state := .disconnected
    mpty := 0
    phoneOrWatch := 0
    antiFraudState := 0
    phoneIndex := 0
    voipCallInfo := {} }

/-- The two functions. -/
inductive LostLink
  | hfpDisConnectedEndBtCall
  | scoDisconnectedEndTransferCall
  deriving DecidableEq, Repr

/-- The calls that the function ends (bluetooth_call_connection.cpp:198-224, 352-383). -/
def LostLink.calls (link : LostLink) (fields : Ref → CallFields) (w : StatusWorld) : List Ref :=
  w.store.callObjectPtrList.filter fun call =>
    (w.object call).callType = .bluetooth ∧
      (link = .scoDisconnectedEndTransferCall → (fields call).isTransferCall = true)

/-- What `ReportCallInfoHandler` has and asks for: the call status manager, whether the device is
    provisioned and whether it is a wearable one, and the last digits of its own numbers. -/
structure HandlerEnv where
  hasCallStatusManager : Bool
  isDevProvisioned : Bool
  isWearableDevice : Bool
  number0 : String
  number1 : String
  deriving DecidableEq, Repr

/-- `PHONE_NUMBER_LEN_DEFAULT` (call_manager_utils.h:28). -/
def phoneNumberLenDefault : ℕ := 11

namespace HandlerEnv

/-- `CallManagerUtils::IsTransferCall` (call_manager_utils.cpp:231-242). -/
def IsTransferCall (env : HandlerEnv) (type : CallType) : Prop :=
  type = .bluetooth ∧ env.isWearableDevice = false

/-- `ReportCallInfoHandler::IsVoipTransferCall` (report_call_info_handler.cpp:105-117). -/
def IsVoipTransferCall (env : HandlerEnv) (info : CallDetailInfo) : Prop :=
  env.IsTransferCall info.callType ∧ info.phoneNum = ""

/-- A number with the last digits of an own one. -/
def IsOwn (env : HandlerEnv) (phoneNum : String) : Prop :=
  phoneNumberLenDefault ≤ phoneNum.utf8ByteSize ∧ ∃ number ∈ [env.number0, env.number1],
    phoneNumberLenDefault ≤ number.utf8ByteSize ∧ number.toList <:+: phoneNum.toList

/-- `ReportCallInfoHandler::IsHostDialMeIgnoreTransferCall`
    (report_call_info_handler.cpp:119-147). -/
def IsHostDialMeIgnoreTransferCall (env : HandlerEnv) (info : CallDetailInfo) : Prop :=
  env.IsTransferCall info.callType ∧ env.IsOwn info.phoneNum

instance (env : HandlerEnv) (type : CallType) : Decidable (env.IsTransferCall type) :=
  inferInstanceAs (Decidable (_ ∧ _))

instance (env : HandlerEnv) (info : CallDetailInfo) : Decidable (env.IsVoipTransferCall info) :=
  inferInstanceAs (Decidable (_ ∧ _))

instance (env : HandlerEnv) (info : CallDetailInfo) :
    Decidable (env.IsHostDialMeIgnoreTransferCall info) :=
  inferInstanceAs (Decidable (_ ∧ _ ∧ ∃ number ∈ _, _))

/-- `ReportCallInfoHandler::UpdateCallReportInfo` of a DISCONNECTED report: what it submits, in
    a build with `CALL_MANAGER_CALL_TRANSFER` (report_call_info_handler.cpp:51-102). The test
    `IsHostAnswerTransferCall` is for ACTIVE and HOLDING reports. -/
def updateCallReportInfo (env : HandlerEnv) (info : CallDetailInfo) : Option CallDetailInfo :=
  if env.hasCallStatusManager = false then none
  else if env.isDevProvisioned = false ∧ info.callType = .bluetooth then none
  else if env.IsVoipTransferCall info ∨ env.IsHostDialMeIgnoreTransferCall info then none
  else some info

end HandlerEnv

/-- The reports that the function submits, each with the call that it is made of. -/
def LostLink.reports (link : LostLink) (handler : HandlerEnv) (fields : Ref → CallFields)
    (w : StatusWorld) : List (Ref × CallDetailInfo) :=
  (link.calls fields w).filterMap fun call =>
    (handler.updateCallReportInfo (disconnectedReport (w.object call) (fields call))).map
      fun info => (call, info)

/-- The queue handles one of the reports; `env` is what its handlers are told. -/
def handleReport (ins : Insertion) (env : Ref → StatusEnv) (w : StatusWorld)
    (report : Ref × CallDetailInfo) : StatusWorld :=
  statusStep ins w (.report (env report.1) report.2)

/-! ## Specification -/

/-- `DisconnectedHandle` finds the call that the report is made of. -/
def Resolves (w : StatusWorld) (report : Ref × CallDetailInfo) : Prop :=
  w.getOneCallObjectByKey report.2.index report.2 = some report.1

/-- The calls that are to be ended have one report each, which finds them; in the end they are
    not stored, and the other calls are, in their states. -/
structure EndsEach (ins : Insertion) (env : Ref → StatusEnv) (handler : HandlerEnv)
    (fields : Ref → CallFields) (link : LostLink) (w : StatusWorld) : Prop where
  submitted : (link.reports handler fields w).map Prod.fst = link.calls fields w
  disconnected : ∀ report ∈ link.reports handler fields w, report.2.state = .disconnected
  resolved : Run.StepsMeet (handleReport ins env) Resolves w (link.reports handler fields w)
  ended : ∀ call ∈ link.calls fields w,
    call ∉ (Run.run (handleReport ins env) w
      (link.reports handler fields w)).store.callObjectPtrList
  kept : ∀ call ∈ w.store.callObjectPtrList, call ∉ link.calls fields w →
    call ∈ (Run.run (handleReport ins env) w
      (link.reports handler fields w)).store.callObjectPtrList ∧
    ((Run.run (handleReport ins env) w (link.reports handler fields w)).object call).callState =
      (w.object call).callState

/-- The Bluetooth calls are told apart by their index and their phone. -/
def DistinctBluetooth (w : StatusWorld) : Prop :=
  ∀ call ∈ w.store.callObjectPtrList, ∀ other ∈ w.store.callObjectPtrList,
    (w.object call).callType = .bluetooth → (w.object other).callType = .bluetooth →
    (w.object call).index = (w.object other).index →
    (w.object call).phoneIndex = (w.object other).phoneIndex → call = other

/-- The report of a call is taken and has the key of the call. -/
structure Identified (handler : HandlerEnv) (c : CallBase) (fields : CallFields) : Prop where
  hasCallStatusManager : handler.hasCallStatusManager = true
  isDevProvisioned : handler.isDevProvisioned = true
  number_fits : c.accountNumber.utf8ByteSize ≤ maxNumberLen
  foreign : handler.isWearableDevice = false →
    c.accountNumber ≠ "" ∧ ¬ handler.IsOwn c.accountNumber
  slot : c.slotId = fields.accountId ∨ c.phoneOrWatch = watchDial
  phone : c.phoneIndex = 0

/-- The call whose hang-up waits, as a dial that waits for the line to be free is deferred. -/
def waitingHangup (w : StatusWorld) : Option Ref :=
  if w.needWaitHold = true ∧ w.pendingHangup = true ∧ w.pendingHangupCallId ≠ -1 then
    w.getOneCallObject w.pendingHangupCallId
  else none

/-- A call that `GetCallNum` counts as active. -/
def IsActive (c : CallBase) : Prop :=
  c.callState = .active ∧ (c.callType = .voip → c.isNonVirtualCall = true)

instance (c : CallBase) : Decidable (IsActive c) := inferInstanceAs (Decidable (_ ∧ _))

/-- A hang-up that waits is that of a call that is ended before the last active call is. -/
def HangupInTime (w : StatusWorld) (calls : List Ref) : Prop :=
  ∀ call, waitingHangup w = some call → ∀ ended rest, calls = ended ++ rest → ended ≠ [] →
    (∀ it ∈ w.store.callObjectPtrList, IsActive (w.object it) → it ∈ ended) → call ∈ ended

/-! ## The report's program -/

variable {ins : Insertion} {env : StatusEnv} {w w' w'' : StatusWorld} {call r : Ref} {c : CallBase}
  {info : CallDetailInfo}

/-- What `HandleDialWhenHolding` does to the state. -/
def dialWhenHolding (env : StatusEnv) (w : StatusWorld) : StatusWorld :=
  if w.pendingHangup = true ∧ w.pendingHangupCallId ≠ -1 then
    let w :=
      match w.getOneCallObject w.pendingHangupCallId with
      | some pendingHangupCall =>
        (w.updateCallState pendingHangupCall .disconnected).deleteOneCallObject env
          w.pendingHangupCallId
      | none => w
    { w with pendingHangup := false, pendingHangupCallId := -1 }
  else w

/-- The state in which `DisconnectedHandle` looks for active calls. -/
def afterDisconnect (env : StatusEnv) (w : StatusWorld) (call : Ref) : StatusWorld :=
  ((w.clearPendingState call).exitConference env call).2.updateCallState call .disconnected

/-- A deferred dial is resumed if no call is active any more. -/
def resumeDial (env : StatusEnv) (w : StatusWorld) : StatusWorld :=
  if w.needWaitHold = true ∧ w.getCallNum .active = 0 then
    dialWhenHolding env { w with needWaitHold := false }
  else w

theorem run_updateCallState (s : TelCallState) :
    ((CallStatusManager.updateCallState env call s).run (statusAction ins env) w).2 =
      w.updateCallState call s := by
  unfold CallStatusManager.updateCallState
  show (Program.run (statusAction ins env) (ite _ _ _) _).2 = _
  split_ifs <;> rfl

theorem run_handleDialWhenHolding :
    ((CallStatusManager.handleDialWhenHolding env).run (statusAction ins env) w).2 =
      dialWhenHolding env w := by
  unfold CallStatusManager.handleDialWhenHolding dialWhenHolding
  show (Program.run (statusAction ins env) (ite _ _ _) w).2 = _
  split_ifs
  · cases w.getOneCallObject w.pendingHangupCallId with
    | none => rfl
    | some pendingHangupCall =>
      rw [Program.run_bind, Program.run_bind, run_updateCallState]
      rfl
  · rfl

/-- The rest of `DisconnectedHandle`, for a call of the reported type. -/
theorem run_disconnectCall (ins : Insertion)
    (hrefresh : w.refreshCallIfNecessary ins env call info = (call, w)) :
    ((CallStatusManager.disconnectCall ins env call info).run (statusAction ins env) w).2 =
      ((resumeDial env (afterDisconnect env w call)).deleteOneCallObject env
        ((afterDisconnect env w call).object call).callId).endConferenceOfOne
          ((afterDisconnect env w call).object call).slotId := by
  have hrun : (CallStatusManager.refreshCallIfNecessary ins env call info).run
      (statusAction ins env) w = (call, w) := by
    show ((w.refreshCallIfNecessary ins env call info).1,
      (w.refreshCallIfNecessary ins env call info).2) = _
    rw [hrefresh]
  unfold CallStatusManager.disconnectCall
  rw [Program.run_bind, hrun]
  dsimp only
  rw [Program.run_bind, Program.run_bind, Program.run_bind, run_updateCallState]
  show (Program.run (statusAction ins env)
    (ite ((afterDisconnect env w call).needWaitHold = true ∧
      (afterDisconnect env w call).getCallNum .active = 0) _ _) (afterDisconnect env w call)).2 = _
  unfold resumeDial
  split_ifs
  · show (Program.run (statusAction ins env) (CallStatusManager.handleDialWhenHolding env >>= _)
      { afterDisconnect env w call with needWaitHold := false }).2 = _
    rw [Program.run_bind, run_handleDialWhenHolding]
    rfl
  · rfl

/-- A Bluetooth call keeps its object under a report of a Bluetooth call. -/
theorem refreshCallIfNecessary_eq_self (hcall : (w.object call).callType = .bluetooth)
    (htype : info.callType = .bluetooth) :
    w.refreshCallIfNecessary ins env call info = (call, w) := by
  have hmodify : (w.modify call fun c => c.refreshVideoState info) = w := by
    have hheap : (w.heap call).map (fun c => c.refreshVideoState info) = w.heap call := by
      cases hc : w.heap call with
      | none => rfl
      | some c =>
        rw [object_eq hc] at hcall
        rw [Option.map_some, CallBase.refreshVideoState, if_neg]
        rw [hcall]
        exact fun h => nomatch h.1
    rw [StatusWorld.modify, hheap, Function.update_eq_self]
  unfold StatusWorld.refreshCallIfNecessary
  dsimp only
  rw [hmodify, if_pos (hcall.trans htype.symm)]

/-- A DISCONNECTED report of a Bluetooth call that is found. -/
theorem statusStep_disconnected (hkey : w.getOneCallObjectByKey info.index info = some call)
    (hcall : (w.object call).callType = .bluetooth) (htype : info.callType = .bluetooth)
    (hstate : info.state = .disconnected) :
    statusStep ins w (.report env info) =
      ((resumeDial env (afterDisconnect env w call)).deleteOneCallObject env
        ((afterDisconnect env w call).object call).callId).endConferenceOfOne
          ((afterDisconnect env w call).object call).slotId := by
  rw [← run_disconnectCall ins (refreshCallIfNecessary_eq_self hcall htype)]
  show ((CallStatusManager.handleCallReportInfo ins env info).run (statusAction ins env) w).2 = _
  have hbluetooth : (CallStatusManager.handleBluetoothCallReportInfo env info).run
      (statusAction ins env) w = (⟨⟩, w) := by
    unfold CallStatusManager.handleBluetoothCallReportInfo
    split_ifs with hreturn hdialing
    · rfl
    · rw [hstate] at hdialing
      exact absurd hdialing (by decide)
    · show Program.run (statusAction ins env) (ite _ _ _) w = _
      rw [if_pos (.inr hstate)]
      rfl
  unfold CallStatusManager.handleCallReportInfo
  rw [if_neg (by rw [htype]; decide), if_pos htype, Program.run_bind, hbluetooth]
  dsimp only
  rw [hstate]
  unfold CallStatusManager.disconnectedHandle
  rw [Program.run_bind]
  dsimp only [Program.get, Program.run]
  rw [hkey]

/-! ## What stays -/

/-- A call object without the states that the end of another call can change. -/
def lasting (c : CallBase) : CallBase :=
  { c with callRunningState := .create, conferenceState := .idle }

/-- The list and the flags of the deferred dial stay, and so does what lasts of the objects but
    for those in `touched`. -/
structure Frame (touched : Ref → Prop) (w w' : StatusWorld) : Prop where
  list : w'.store.callObjectPtrList = w.store.callObjectPtrList
  needWaitHold : w'.needWaitHold = w.needWaitHold
  pendingHangup : w'.pendingHangup = w.pendingHangup
  pendingHangupCallId : w'.pendingHangupCallId = w.pendingHangupCallId
  lasting : ∀ r, ¬ touched r → (w'.heap r).map lasting = (w.heap r).map lasting

variable {touched : Ref → Prop} {s : TelCallState}

theorem Frame.of_heap (hstore : w'.store = w.store) (hneed : w'.needWaitHold = w.needWaitHold)
    (hpending : w'.pendingHangup = w.pendingHangup)
    (hid : w'.pendingHangupCallId = w.pendingHangupCallId)
    (hheap : ∀ r, ¬ touched r → w'.heap r = w.heap r) : Frame touched w w' where
  list := by rw [hstore]
  needWaitHold := hneed
  pendingHangup := hpending
  pendingHangupCallId := hid
  lasting r hr := by rw [hheap r hr]

theorem Frame.refl : Frame touched w w := Frame.of_heap rfl rfl rfl rfl fun _ _ => rfl

theorem Frame.trans (h : Frame touched w w') (h' : Frame touched w' w'') :
    Frame touched w w'' where
  list := h'.list.trans h.list
  needWaitHold := h'.needWaitHold.trans h.needWaitHold
  pendingHangup := h'.pendingHangup.trans h.pendingHangup
  pendingHangupCallId := h'.pendingHangupCallId.trans h.pendingHangupCallId
  lasting r hr := (h'.lasting r hr).trans (h.lasting r hr)

/-- `SetTelCallState` sets the state, be it refused or not. -/
theorem setTelCallState_lasting (c : CallBase) (s : TelCallState) :
    lasting (c.setTelCallState s).2 = lasting { c with callState := s } := by
  unfold CallBase.setTelCallState
  split_ifs with h
  · rw [← h.2.1]
  · cases s <;> rfl

/-- `UpdateCallState` writes to the objects and to the notifications. -/
theorem updateCallState_eq (w : StatusWorld) (call : Ref) (s : TelCallState) :
    ∃ heap notifications, w.updateCallState call s =
      { w with heap := heap, notifications := notifications } := by
  unfold StatusWorld.updateCallState
  cases hc : w.heap call with
  | none => exact ⟨w.heap, w.notifications, rfl⟩
  | some c =>
    have hfold : ∃ heap, (w.setTelCallState call s).updateOneCallObjectByCallId c.callId s =
        { w with heap := heap } := by
      unfold StatusWorld.updateOneCallObjectByCallId
      refine List.foldlRecOn _ _
        (motive := fun w' : StatusWorld => ∃ heap, w' = { w with heap := heap }) ⟨_, rfl⟩ ?_
      rintro w' ⟨heap, rfl⟩ it -
      split_ifs
      · exact ⟨_, rfl⟩
      · exact ⟨_, rfl⟩
    obtain ⟨heap, hfold⟩ := hfold
    dsimp only
    rw [hfold]
    exact ⟨heap, _, rfl⟩

/-- `UpdateCallState` writes to no other object: another one has another id. -/
theorem updateCallState_heap_of_ne (h : w.Numbered) (hr : r ≠ call) :
    (w.updateCallState call s).heap r = w.heap r := by
  unfold StatusWorld.updateCallState
  cases hc : w.heap call with
  | none => rfl
  | some c =>
    show ((w.setTelCallState call s).updateOneCallObjectByCallId c.callId s).heap r = w.heap r
    unfold StatusWorld.updateOneCallObjectByCallId
    refine List.foldlRecOn _ _ (motive := fun w' : StatusWorld => w'.heap r = w.heap r)
      (modify_heap_of_ne w _ hr) ?_
    intro w' hw' it _
    split_ifs with hid
    · by_cases hit : r = it
      · have hnone : w'.heap r = none := by
          cases hd : w'.heap r with
          | none => rfl
          | some d =>
            rw [← hit, object_eq hd] at hid
            exact absurd (h.inj r call d c (hw'.symm.trans hd) hc hid) hr
        rw [← hit, StatusWorld.setTelCallState, modify_heap_self, hnone, Option.map_none, ← hw',
          hnone]
      · exact (modify_heap_of_ne w' _ hit).trans hw'
    · exact hw'

theorem updateCallState_heap_self (hc : w.heap call = some c) :
    ((w.updateCallState call s).heap call).map lasting =
      some (lasting { c with callState := s }) := by
  unfold StatusWorld.updateCallState
  rw [hc]
  show (((w.setTelCallState call s).updateOneCallObjectByCallId c.callId s).heap call).map lasting =
    some (lasting { c with callState := s })
  unfold StatusWorld.updateOneCallObjectByCallId
  refine List.foldlRecOn _ _
    (motive := fun w' : StatusWorld =>
      (w'.heap call).map lasting = some (lasting { c with callState := s })) ?_ ?_
  · rw [StatusWorld.setTelCallState, modify_heap_self, hc, Option.map_some, Option.map_some,
      setTelCallState_lasting]
  · intro w' hw' it _
    split_ifs
    · by_cases hit : call = it
      · obtain ⟨d, hd, hlasting⟩ := Option.map_eq_some_iff.mp hw'
        rw [← hit, StatusWorld.setTelCallState, modify_heap_self, hd, Option.map_some,
          Option.map_some, setTelCallState_lasting]
        have hstate : lasting { d with callState := s } = { lasting d with callState := s } := rfl
        rw [hstate, hlasting]
        rfl
      · rw [StatusWorld.setTelCallState, modify_heap_of_ne w' _ hit]
        exact hw'
    · exact hw'

theorem Frame.updateCallState (h : w.Numbered) (call : Ref) (s : TelCallState) :
    Frame (· = call) w (w.updateCallState call s) := by
  obtain ⟨heap, notifications, heq⟩ := updateCallState_eq w call s
  have hheap : ∀ r, ¬ r = call → (w.updateCallState call s).heap r = w.heap r :=
    fun r hr => updateCallState_heap_of_ne h hr
  rw [heq] at hheap ⊢
  exact Frame.of_heap rfl rfl rfl rfl hheap

theorem Frame.exitConference (w : StatusWorld) (env : StatusEnv) (call : Ref) :
    Frame (· = call) w (w.exitConference env call).2 := by
  have hconference : ∀ (w' : StatusWorld) (ret : ErrorCode), Frame (· = call) w w' →
      Frame (· = call) w
        (if ret = .telephonySuccess then w'.setTelConferenceState call .idle else w') := by
    intro w' ret h
    split_ifs
    · exact h.trans (Frame.of_heap rfl rfl rfl rfl fun r hr => modify_heap_of_ne w' _ hr)
    · exact h
  unfold StatusWorld.exitConference
  dsimp only
  cases (w.object call).objectType with
  | cs | ims | ott => exact hconference _ _ (Frame.of_heap rfl rfl rfl rfl fun _ _ => rfl)
  | satellite | voip | bluetooth | errCall => exact Frame.refl

/-- The last call of a conference keeps its call state. -/
theorem Frame.endConferenceOfOne (h : w.Numbered) (slotId : ℤ) :
    Frame (fun _ => False) w (w.endConferenceOfOne slotId) := by
  unfold StatusWorld.endConferenceOfOne
  split
  · rename_i left hleft
    dsimp only
    split_ifs
    · have hidle : Frame (· = left) w (w.setTelConferenceState left .idle) :=
        Frame.of_heap rfl rfl rfl rfl fun r hr => modify_heap_of_ne w _ hr
      have hnumbered : (w.setTelConferenceState left .idle).Numbered :=
        h.writes (Quiet.modify fun _ => ⟨rfl, rfl⟩)
      have hupdate := hidle.trans (Frame.updateCallState hnumbered left
        ((w.setTelConferenceState left .idle).object left).callState)
      refine { hupdate with lasting := fun r _ => ?_ }
      by_cases hr : r = left
      · rw [hr]
        cases hc : w.heap left with
        | none =>
          have hidle' : (w.setTelConferenceState left .idle).heap left = none := by
            rw [StatusWorld.setTelConferenceState, modify_heap_self, hc, Option.map_none]
          rw [StatusWorld.updateCallState, hidle']
          dsimp only
          rw [hidle']
        | some c =>
          have hidle' : (w.setTelConferenceState left .idle).heap left =
              some { c with conferenceState := .idle } := by
            rw [StatusWorld.setTelConferenceState, modify_heap_self, hc, Option.map_some]
          rw [updateCallState_heap_self hidle', object_eq hidle']
          rfl
      · exact hupdate.lasting r hr
    · exact Frame.refl
  · exact Frame.refl

/-! ## What goes -/

/-- The calls in `gone` go from the list and the others stay, with what lasts of them. -/
structure Removes (gone : Ref → Prop) (w w' : StatusWorld) : Prop where
  sound : w'.Sound
  mem : ∀ r, r ∈ w'.store.callObjectPtrList ↔ r ∈ w.store.callObjectPtrList ∧ ¬ gone r
  lasting : ∀ r, ¬ gone r → (w'.heap r).map lasting = (w.heap r).map lasting

variable {gone gone' : Ref → Prop} {p : Ref}

theorem Removes.trans (h : Removes gone w w') (h' : Removes gone' w' w'') :
    Removes (fun r => gone r ∨ gone' r) w w'' where
  sound := h'.sound
  mem r := by rw [h'.mem, h.mem, not_or, and_assoc]
  lasting r hr := by
    rw [not_or] at hr
    rw [h'.lasting r hr.2, h.lasting r hr.1]

theorem Removes.congr (h : Removes gone w w') (hgone : ∀ r, gone r ↔ gone' r) :
    Removes gone' w w' := by
  obtain rfl : gone = gone' := funext fun r => propext (hgone r)
  exact h

/-- What stays of a call, read through its reference. -/
theorem object_lasting (h : (w'.heap r).map lasting = (w.heap r).map lasting) :
    lasting (w'.object r) = lasting (w.object r) := by
  unfold StatusWorld.object
  cases hc : w.heap r with
  | none =>
    rw [hc, Option.map_none, Option.map_eq_none_iff] at h
    rw [h]
  | some c =>
    rw [hc, Option.map_some] at h
    obtain ⟨c', hc', hlasting⟩ := Option.map_eq_some_iff.mp h
    rw [hc']
    exact hlasting

theorem waitingHangup_eq_some (h : w.Sound) :
    waitingHangup w = some p ↔
      (w.needWaitHold = true ∧ w.pendingHangup = true ∧ w.pendingHangupCallId ≠ -1) ∧
        p ∈ w.store.callObjectPtrList ∧ (w.object p).callId = w.pendingHangupCallId := by
  unfold waitingHangup StatusWorld.getOneCallObject
  split_ifs with hflags
  · rw [and_iff_right hflags]
    exact getOneCallObject_eq_some h.distinct
  · exact iff_of_false (by simp) fun hp => hflags hp.1

/-- Two stored calls with one id are one. -/
theorem eq_of_callId (h : w.Sound) (hr : r ∈ w.store.callObjectPtrList)
    (hp : p ∈ w.store.callObjectPtrList) (hid : (w.object r).callId = (w.object p).callId) :
    r = p :=
  List.inj_on_of_nodup_map h.distinct hr hp hid

/-- The hang-up that waits is not touched where the flags and the ids are not. -/
theorem waitingHangup_congr (h : w.Sound) (h' : w'.Sound) (hneed : w'.needWaitHold = w.needWaitHold)
    (hpending : w'.pendingHangup = w.pendingHangup)
    (hid : w'.pendingHangupCallId = w.pendingHangupCallId) (hkeys : SameKeys w w') :
    waitingHangup w' = waitingHangup w := by
  refine Option.ext fun p => ?_
  have hcallId : (w'.object p).callId = (w.object p).callId :=
    congrArg CallKey.callId (hkeys.object_key p)
  rw [waitingHangup_eq_some h', waitingHangup_eq_some h, hneed, hpending, hid, hkeys.list, hcallId]

/-- The hang-up that waits for the call that is reported is done. -/
theorem waitingHangup_clearPendingState (h : w.Sound) (hcall : call ∈ w.store.callObjectPtrList) :
    waitingHangup (w.clearPendingState call) = some p ↔ waitingHangup w = some p ∧ p ≠ call := by
  have hkeys := SameKeys.clearPendingState w call
  have h' : (w.clearPendingState call).Sound :=
    h.statusAction .asWritten modemEnv (.clearPendingState call)
  by_cases hown : w.pendingHangup = true ∧ w.pendingHangupCallId = (w.object call).callId
  · have hcleared : (w.clearPendingState call).pendingHangup = false := by
      unfold StatusWorld.clearPendingState
      dsimp only
      split_ifs <;> rfl
    refine iff_of_false (fun hp => ?_) fun hp => hp.2 ?_
    · rw [waitingHangup_eq_some h', hcleared] at hp
      exact nomatch hp.1.2.1
    · obtain ⟨-, hmem, hid⟩ := (waitingHangup_eq_some h).mp hp.1
      exact eq_of_callId h hmem hcall (hid.trans hown.2)
  · have hsame : waitingHangup (w.clearPendingState call) = waitingHangup w := by
      refine waitingHangup_congr h h' ?_ ?_ ?_ hkeys <;>
      · unfold StatusWorld.clearPendingState
        dsimp only
        split_ifs <;> rfl
    rw [hsame]
    refine ⟨fun hp => ⟨hp, ?_⟩, fun hp => hp.1⟩
    rintro rfl
    obtain ⟨hflags, -, hid⟩ := (waitingHangup_eq_some h).mp hp
    exact hown ⟨hflags.2.1, hid.symm⟩

theorem afterDisconnect_keys (w : StatusWorld) (env : StatusEnv) (call : Ref) :
    SameKeys w (afterDisconnect env w call) :=
  ((SameKeys.clearPendingState w call).trans (SameKeys.exitConference _ call)).trans
    (SameKeys.updateCallState _ call .disconnected)

theorem afterDisconnect_sound (h : w.Sound) (env : StatusEnv) (call : Ref) :
    (afterDisconnect env w call).Sound :=
  ((h.statusAction .asWritten env (.clearPendingState call)).statusAction .asWritten env
    (.exitConference call)).statusAction .asWritten env (.updateCallState call .disconnected)

theorem afterDisconnect_frame (h : w.Sound) (env : StatusEnv) (call : Ref) :
    Frame (· = call) (w.clearPendingState call) (afterDisconnect env w call) := by
  have hclear := h.statusAction .asWritten env (.clearPendingState call)
  have hexit := hclear.statusAction .asWritten env (.exitConference call)
  exact (Frame.exitConference _ env call).trans
    (Frame.updateCallState hexit.toNumbered call .disconnected)

/-- The other objects, before the calls that go are deleted. -/
theorem afterDisconnect_lasting (h : w.Sound) (hr : r ≠ call) :
    ((afterDisconnect env w call).heap r).map lasting = (w.heap r).map lasting := by
  rw [(afterDisconnect_frame h env call).lasting r hr, clearPendingState_heap]

theorem afterDisconnect_callState (h : w.Sound) (hcall : call ∈ w.store.callObjectPtrList) :
    ((afterDisconnect env w call).object call).callState = .disconnected := by
  have hexit : SameKeys (w.clearPendingState call)
      ((w.clearPendingState call).exitConference env call).2 := SameKeys.exitConference _ call
  have hkeys := (SameKeys.clearPendingState w call).trans hexit
  have hlisted := h.listed call hcall
  rw [← hkeys.keys] at hlisted
  obtain ⟨k, hk⟩ := Option.isSome_iff_exists.mp hlisted
  obtain ⟨c, hc, -⟩ := keys_eq_some.mp hk
  obtain ⟨c', hc', hlasting⟩ := Option.map_eq_some_iff.mp
    (updateCallState_heap_self (s := .disconnected) hc)
  rw [afterDisconnect, object_eq hc']
  exact congrArg CallBase.callState hlasting

theorem waitingHangup_afterDisconnect (h : w.Sound) (hcall : call ∈ w.store.callObjectPtrList) :
    waitingHangup (afterDisconnect env w call) = some p ↔ waitingHangup w = some p ∧ p ≠ call := by
  have hframe := afterDisconnect_frame h env call
  have hsound : (w.clearPendingState call).Sound :=
    h.statusAction .asWritten env (.clearPendingState call)
  rw [waitingHangup_congr hsound (afterDisconnect_sound h env call) hframe.needWaitHold
    hframe.pendingHangup hframe.pendingHangupCallId, waitingHangup_clearPendingState h hcall]
  exact (SameKeys.exitConference _ call).trans (SameKeys.updateCallState _ call .disconnected)

theorem isActive_congr {c d : CallBase} (h : lasting c = lasting d) : IsActive c ↔ IsActive d := by
  have hstate : c.callState = d.callState := (congrArg CallBase.callState h :)
  have htype : c.callType = d.callType := (congrArg CallBase.callType h :)
  have hvirtual : c.isNonVirtualCall = d.isNonVirtualCall :=
    (congrArg CallBase.isNonVirtualCall h :)
  rw [IsActive, IsActive, hstate, htype, hvirtual]

/-- No call is active beside the one that is ended. -/
theorem getCallNum_afterDisconnect (h : w.Sound) (hcall : call ∈ w.store.callObjectPtrList) :
    (afterDisconnect env w call).getCallNum .active = 0 ↔
      ∀ it ∈ w.store.callObjectPtrList, IsActive (w.object it) → it = call := by
  unfold StatusWorld.getCallNum
  rw [(afterDisconnect_keys w env call).list, List.countP_eq_zero]
  refine forall₂_congr fun it hit => ?_
  rw [decide_eq_true_eq]
  show ¬ IsActive ((afterDisconnect env w call).object it) ↔ _
  by_cases heq : it = call
  · rw [heq]
    refine iff_of_true (fun hactive => ?_) fun _ => rfl
    rw [IsActive, afterDisconnect_callState h hcall] at hactive
    exact nomatch hactive.1
  · rw [isActive_congr (object_lasting (afterDisconnect_lasting h heq))]
    exact ⟨fun hnot hactive => absurd hactive hnot, fun himp hactive => heq (himp hactive)⟩

/-! ### The deferred dial -/

/-- The deletion of a stored call. -/
theorem Removes.deleteOneCallObject (h : w.Sound) (hcall : call ∈ w.store.callObjectPtrList)
    (env : StatusEnv) :
    Removes (· = call) w (w.deleteOneCallObject env (w.object call).callId) where
  sound := h.deleteOneCallObject env _
  mem r := by
    rw [list_deleteOneCallObject h, List.mem_filter, decide_eq_true_eq]
    refine and_congr_right fun hr => not_congr ?_
    exact ⟨fun hid => eq_of_callId h hr hcall hid, fun heq => by rw [heq]⟩
  lasting _ _ := rfl

theorem Removes.refl (h : w.Sound) (hgone : ∀ r, ¬ gone r) : Removes gone w w where
  sound := h
  mem r := (and_iff_left (hgone r)).symm
  lasting _ _ := rfl

/-- Fields beside the list and the objects do not matter. -/
theorem Removes.of_eq (h : Removes gone w w') (hstore : w''.store = w'.store)
    (hheap : w''.heap = w'.heap) (hnextRef : w''.nextRef = w'.nextRef)
    (hnotifications : w''.notifications = w'.notifications) : Removes gone w w'' where
  sound := by
    have hkeys : SameKeys w' w'' := SameKeys.of_heap (by rw [hstore]) hheap
    refine hkeys.sound h.sound (h.sound.toNumbered.writes (Quiet.of_heap hheap hnextRef ?_ ?_))
    · rw [hstore]
    · exact hnotifications
  mem r := by rw [hstore, h.mem]
  lasting r hr := by rw [hheap, h.lasting r hr]

/-- `UpdateCallState` of a call that is deleted then. -/
theorem Removes.updateCallState (h : w.Sound) (hp : p ∈ w.store.callObjectPtrList)
    (env : StatusEnv) :
    Removes (· = p) w ((w.updateCallState p .disconnected).deleteOneCallObject env
      (w.object p).callId) := by
  have hkeys := SameKeys.updateCallState w p .disconnected
  have hsound : (w.updateCallState p .disconnected).Sound :=
    h.statusAction .asWritten env (.updateCallState p .disconnected)
  have hid : ((w.updateCallState p .disconnected).object p).callId = (w.object p).callId :=
    (congrArg CallKey.callId (hkeys.object_key p) :)
  have hdelete := Removes.deleteOneCallObject hsound (hkeys.list ▸ hp) env
  rw [hid] at hdelete
  refine ⟨hdelete.sound, fun r => ?_, fun r hr => ?_⟩
  · rw [hdelete.mem, hkeys.list]
  · rw [hdelete.lasting r hr, (Frame.updateCallState h.toNumbered p .disconnected).lasting r hr]

/-- With the dial the hang-up that waits is done. -/
theorem dialWhenHolding_removes (h : w.Sound) (hneed : w.needWaitHold = true) :
    Removes (fun r => waitingHangup w = some r) w
      (dialWhenHolding env { w with needWaitHold := false }) := by
  unfold dialWhenHolding
  dsimp only
  split_ifs with hpending
  · have hwaiting : waitingHangup w = w.getOneCallObject w.pendingHangupCallId :=
      if_pos ⟨hneed, hpending⟩
    have hget : ({ w with needWaitHold := false } : StatusWorld).getOneCallObject
        w.pendingHangupCallId = w.getOneCallObject w.pendingHangupCallId := rfl
    rw [hwaiting, hget]
    cases hfound : w.getOneCallObject w.pendingHangupCallId with
    | none => exact (Removes.refl h fun r => by simp).of_eq rfl rfl rfl rfl
    | some p =>
      obtain ⟨hmem, hid⟩ := (getOneCallObject_eq_some h.distinct).mp hfound
      have hfalse : Removes (fun _ => False) w { w with needWaitHold := false } :=
        (Removes.refl h fun _ => id).of_eq rfl rfl rfl rfl
      have hremoves := Removes.updateCallState hfalse.sound hmem env
      rw [show (({ w with needWaitHold := false } : StatusWorld).object p).callId =
        w.pendingHangupCallId from hid] at hremoves
      have hsome : ∀ r, (False ∨ r = p) ↔ some p = some r := by
        intro r
        rw [false_or, Option.some.injEq, eq_comm]
      exact ((hfalse.trans hremoves).congr hsome).of_eq rfl rfl rfl rfl
  · have hwaiting : waitingHangup w = none := if_neg fun hflags => hpending hflags.2
    rw [hwaiting]
    exact (Removes.refl h fun r => by simp).of_eq rfl rfl rfl rfl

theorem dialWhenHolding_needWaitHold (env : StatusEnv) (w : StatusWorld) :
    (dialWhenHolding env w).needWaitHold = w.needWaitHold := by
  unfold dialWhenHolding
  split_ifs
  · cases w.getOneCallObject w.pendingHangupCallId with
    | none => rfl
    | some p =>
      obtain ⟨heap, notifications, heq⟩ := updateCallState_eq w p .disconnected
      dsimp only
      rw [heq]
      rfl
  · rfl

theorem resumeDial_removes (h : w.Sound) (env : StatusEnv) :
    Removes (fun r => waitingHangup w = some r ∧ w.getCallNum .active = 0) w
      (resumeDial env w) := by
  unfold resumeDial
  split_ifs with hdial
  · exact (dialWhenHolding_removes h hdial.1).congr fun r => (and_iff_left hdial.2).symm
  · refine Removes.refl h fun r hr => hdial ⟨?_, hr.2⟩
    exact ((waitingHangup_eq_some h).mp hr.1).1.1

theorem waitingHangup_resumeDial (env : StatusEnv) (w : StatusWorld) :
    waitingHangup (resumeDial env w) = some p ↔
      waitingHangup w = some p ∧ w.getCallNum .active ≠ 0 := by
  unfold resumeDial
  split_ifs with hdial
  · refine iff_of_false (fun hp => ?_) fun hp => hp.2 hdial.2
    rw [waitingHangup, dialWhenHolding_needWaitHold, if_neg fun h => nomatch h.1] at hp
    exact nomatch hp
  · refine ⟨fun hp => ⟨hp, fun hnone => hdial ⟨?_, hnone⟩⟩, fun hp => hp.1⟩
    by_contra hneed
    rw [waitingHangup, if_neg fun hflags => hneed hflags.1] at hp
    exact nomatch hp

theorem waitingHangup_deleteOneCallObject (h : w.Sound)
    (hcall : call ∈ w.store.callObjectPtrList) (env : StatusEnv) (p : Ref) :
    waitingHangup (w.deleteOneCallObject env (w.object call).callId) = some p ↔
      waitingHangup w = some p ∧ p ≠ call := by
  have hdelete := Removes.deleteOneCallObject h hcall env
  rw [waitingHangup_eq_some hdelete.sound, hdelete.mem, waitingHangup_eq_some h]
  show (w.needWaitHold = true ∧ w.pendingHangup = true ∧ w.pendingHangupCallId ≠ -1) ∧
    (p ∈ w.store.callObjectPtrList ∧ p ≠ call) ∧ (w.object p).callId = w.pendingHangupCallId ↔ _
  tauto

/-! ### One report -/

/-- The call whose waiting hang-up is done when `call` ends: there is no active call beside it. -/
def HungUpWith (w : StatusWorld) (call r : Ref) : Prop :=
  (waitingHangup w = some r ∧ r ≠ call) ∧
    ∀ it ∈ w.store.callObjectPtrList, IsActive (w.object it) → it = call

/-- What the report of a call does that it finds. -/
structure Handled (w w' : StatusWorld) (call : Ref) : Prop
    extends Removes (fun r => r = call ∨ HungUpWith w call r) w w' where
  waiting : ∀ r, waitingHangup w' = some r ↔
    (waitingHangup w = some r ∧ r ≠ call) ∧
      ¬ ∀ it ∈ w.store.callObjectPtrList, IsActive (w.object it) → it = call

theorem handled (h : w.Sound) (hcall : call ∈ w.store.callObjectPtrList) (slotId : ℤ) :
    Handled w (((resumeDial env (afterDisconnect env w call)).deleteOneCallObject env
      ((afterDisconnect env w call).object call).callId).endConferenceOfOne slotId) call := by
  have hsound := afterDisconnect_sound h env call
  have hkeys := afterDisconnect_keys w env call
  have hdial := resumeDial_removes hsound env
  have hwaits : ∀ r, waitingHangup (afterDisconnect env w call) = some r ↔
      waitingHangup w = some r ∧ r ≠ call := fun r => waitingHangup_afterDisconnect h hcall
  have hhung : ∀ r, (waitingHangup (afterDisconnect env w call) = some r ∧
      (afterDisconnect env w call).getCallNum .active = 0) ↔ HungUpWith w call r := fun r => by
    rw [hwaits, getCallNum_afterDisconnect h hcall, HungUpWith]
  have hself : ¬ HungUpWith w call call := fun hcall => hcall.1.2 rfl
  have hcall' : call ∈ (resumeDial env (afterDisconnect env w call)).store.callObjectPtrList := by
    rw [hdial.mem, hhung, hkeys.list]
    exact ⟨hcall, hself⟩
  have hid : ((resumeDial env (afterDisconnect env w call)).object call).callId =
      ((afterDisconnect env w call).object call).callId :=
    (congrArg CallBase.callId (object_lasting (hdial.lasting call ((hhung call).not.mpr hself))) :)
  have hdelete := Removes.deleteOneCallObject hdial.sound hcall' env
  have hwaits' := waitingHangup_deleteOneCallObject hdial.sound hcall' env
  rw [hid] at hdelete hwaits'
  have hframe := Frame.endConferenceOfOne hdelete.sound.toNumbered slotId
  have hconference := SameKeys.endConferenceOfOne (deleteOneCallObject env
    (resumeDial env (afterDisconnect env w call))
    ((afterDisconnect env w call).object call).callId) slotId
  have hsound' : ((deleteOneCallObject env (resumeDial env (afterDisconnect env w call))
      ((afterDisconnect env w call).object call).callId).endConferenceOfOne slotId).Sound :=
    hdelete.sound.statusAction .asWritten env (.endConferenceOfOne slotId)
  have hcount : (afterDisconnect env w call).getCallNum .active ≠ 0 ↔
      ¬ ∀ it ∈ w.store.callObjectPtrList, IsActive (w.object it) → it = call :=
    not_congr (getCallNum_afterDisconnect h hcall)
  refine ⟨⟨hsound', fun r => ?_, fun r hr => ?_⟩, fun r => ?_⟩
  · rw [hconference.list, hdelete.mem, hdial.mem, hhung, hkeys.list]
    tauto
  · rw [not_or] at hr
    rw [hframe.lasting r id, hdelete.lasting r hr.1, hdial.lasting r ((hhung r).not.mpr hr.2),
      afterDisconnect_lasting h hr.1]
  · rw [waitingHangup_congr hdelete.sound hsound' hframe.needWaitHold hframe.pendingHangup
      hframe.pendingHangupCallId hconference, hwaits', waitingHangup_resumeDial, hwaits,
      hcount]
    tauto

/-! ## The lookups -/

/-- The report of a call has the key of the call. -/
structure HasKey (c : CallBase) (fields : CallFields) : Prop where
  number_fits : c.accountNumber.utf8ByteSize ≤ maxNumberLen
  slot : c.slotId = fields.accountId ∨ c.phoneOrWatch = watchDial
  phone : c.phoneIndex = 0

variable {fields : CallFields}

theorem disconnectedReport_congr {c d : CallBase} (h : lasting c = lasting d)
    (fields : CallFields) : disconnectedReport c fields = disconnectedReport d fields := by
  have hnumber : c.accountNumber = d.accountNumber := (congrArg CallBase.accountNumber h :)
  have htype : c.callType = d.callType := (congrArg CallBase.callType h :)
  have hindex : c.index = d.index := (congrArg CallBase.index h :)
  rw [disconnectedReport, disconnectedReport, getCallAttributeBaseInfo, getCallAttributeBaseInfo,
    hnumber, htype, hindex]

theorem HasKey.congr {c d : CallBase} (h : lasting c = lasting d) (hc : HasKey c fields) :
    HasKey d fields where
  number_fits := (congrArg CallBase.accountNumber h :) ▸ hc.number_fits
  slot := (congrArg CallBase.phoneOrWatch h :) ▸ (congrArg CallBase.slotId h :) ▸ hc.slot
  phone := (congrArg CallBase.phoneIndex h :) ▸ hc.phone

theorem disconnectedReport_callType (h : HasKey c fields) (hc : c.callType = .bluetooth) :
    (disconnectedReport c fields).callType = .bluetooth := by
  rw [disconnectedReport, getCallAttributeBaseInfo, if_neg (not_lt.mpr h.number_fits)]
  exact hc

/-- A Bluetooth call matches the key of its report iff the report has that of the call. -/
theorem matchesKey_iff (hc : c.callType = .bluetooth) :
    MatchesKey (disconnectedReport c fields).index (disconnectedReport c fields).accountId
      (disconnectedReport c fields).callType (disconnectedReport c fields).phoneIndex c ↔
      HasKey c fields := by
  unfold MatchesKey disconnectedReport getCallAttributeBaseInfo
  dsimp only
  by_cases hfits : maxNumberLen < c.accountNumber.utf8ByteSize
  · rw [if_pos hfits, if_neg (by decide)]
    exact iff_of_false (fun h => h.1 hc) fun h => absurd hfits (not_lt.mpr h.number_fits)
  · rw [if_neg hfits, if_pos hc]
    exact ⟨fun h => ⟨not_lt.mp hfits, h.2.2.1, h.2.2.2⟩, fun h => ⟨hc, rfl, h.slot, h.phone⟩⟩

theorem Resolves.mem {report : Ref × CallDetailInfo} (h : Resolves w report) :
    report.1 ∈ w.store.callObjectPtrList :=
  getOneCallObjectByKey_mem h

/-- The report of a Bluetooth call finds it iff it has its key: no other call has. -/
theorem resolves_iff (hdistinct : DistinctBluetooth w) (hcall : call ∈ w.store.callObjectPtrList)
    (hbluetooth : (w.object call).callType = .bluetooth) :
    Resolves w (call, disconnectedReport (w.object call) fields) ↔
      HasKey (w.object call) fields := by
  constructor
  · intro h
    exact (matchesKey_iff hbluetooth).mp (getOneCallObjectByKey_matchesKey h)
  · intro h
    have hmatches := (matchesKey_iff hbluetooth).mpr h
    have hsome : (w.getOneCallObjectByKey (disconnectedReport (w.object call) fields).index
        (disconnectedReport (w.object call) fields)).isSome := by
      unfold StatusWorld.getOneCallObjectByKey getOneCallObjectByIndexSlotIdAndCallType
      exact List.find?_isSome.mpr ⟨call, hcall, decide_eq_true hmatches⟩
    obtain ⟨other, hother⟩ := Option.isSome_iff_exists.mp hsome
    have hmatches' := getOneCallObjectByKey_matchesKey hother
    have htype := disconnectedReport_callType h hbluetooth
    rw [MatchesKey, if_pos htype] at hmatches'
    obtain ⟨hbluetooth', hindex, -, hphone⟩ := hmatches'
    rw [Resolves, hother]
    refine congrArg some (hdistinct other (getOneCallObjectByKey_mem hother) call hcall hbluetooth'
      hbluetooth hindex ?_)
    rw [hphone, h.phone]
    rfl

/-! ## All reports -/

variable {fields : Ref → CallFields} {report : Ref → CallDetailInfo} {calls : List Ref}

/-- `report` gives each of `calls` that is stored its report, and these are Bluetooth calls. -/
structure Reported (w : StatusWorld) (fields : Ref → CallFields) (calls : List Ref)
    (report : Ref → CallDetailInfo) : Prop where
  sound : w.Sound
  distinct : DistinctBluetooth w
  nodup : calls.Nodup
  bluetooth : ∀ call ∈ calls, call ∈ w.store.callObjectPtrList →
    (w.object call).callType = .bluetooth
  made : ∀ call ∈ calls, call ∈ w.store.callObjectPtrList →
    report call = disconnectedReport (w.object call) (fields call)

theorem key_of_lasting {c d : CallBase} (h : lasting c = lasting d) :
    c.callType = d.callType ∧ c.index = d.index ∧ c.phoneIndex = d.phoneIndex :=
  ⟨(congrArg CallBase.callType h :), (congrArg CallBase.index h :),
    (congrArg CallBase.phoneIndex h :)⟩

/-- The calls that stay are told apart as before. -/
theorem Removes.distinctBluetooth (h : Removes gone w w') (hdistinct : DistinctBluetooth w) :
    DistinctBluetooth w' := by
  intro call hcall other hother
  obtain ⟨hcall, hstays⟩ := (h.mem call).mp hcall
  obtain ⟨hother, hstays'⟩ := (h.mem other).mp hother
  obtain ⟨htype, hindex, hphone⟩ := key_of_lasting (object_lasting (h.lasting call hstays))
  obtain ⟨htype', hindex', hphone'⟩ := key_of_lasting (object_lasting (h.lasting other hstays'))
  rw [htype, hindex, hphone, htype', hindex', hphone']
  exact hdistinct call hcall other hother

/-- The first report finds its call iff that is stored and the report has its key. -/
theorem Reported.resolves_iff (h : Reported w fields (call :: calls) report) :
    Resolves w (call, report call) ↔
      call ∈ w.store.callObjectPtrList ∧ HasKey (w.object call) (fields call) := by
  have hiff : call ∈ w.store.callObjectPtrList →
      (Resolves w (call, report call) ↔ HasKey (w.object call) (fields call)) := fun hcall => by
    rw [h.made call List.mem_cons_self hcall]
    exact LinkLoss.resolves_iff h.distinct hcall (h.bluetooth call List.mem_cons_self hcall)
  constructor
  · intro hresolves
    exact ⟨hresolves.mem, (hiff hresolves.mem).mp hresolves⟩
  · rintro ⟨hcall, hkey⟩
    exact (hiff hcall).mpr hkey

/-- The first report is handled if it has the key of its call, and the others are as they were. -/
theorem Reported.step (h : Reported w fields (call :: calls) report) (ins : Insertion)
    (env : Ref → StatusEnv) (hcall : call ∈ w.store.callObjectPtrList)
    (hkey : HasKey (w.object call) (fields call)) :
    Handled w (handleReport ins env w (call, report call)) call ∧
      Reported (handleReport ins env w (call, report call)) fields calls report := by
  have hbluetooth := h.bluetooth call List.mem_cons_self hcall
  have hmade := h.made call List.mem_cons_self hcall
  have hresolves := h.resolves_iff.mpr ⟨hcall, hkey⟩
  have hhandled : Handled w (handleReport ins env w (call, report call)) call := by
    rw [Resolves, hmade] at hresolves
    rw [handleReport, hmade]
    dsimp only
    rw [statusStep_disconnected hresolves hbluetooth (disconnectedReport_callType hkey hbluetooth)
      rfl]
    exact handled h.sound hcall _
  obtain ⟨hnotin, hnodup⟩ := List.nodup_cons.mp h.nodup
  have hkept : ∀ it ∈ (handleReport ins env w (call, report call)).store.callObjectPtrList,
      it ∈ w.store.callObjectPtrList ∧
        lasting ((handleReport ins env w (call, report call)).object it) =
          lasting (w.object it) := by
    intro it hit
    obtain ⟨hit, hstays⟩ := (hhandled.mem it).mp hit
    exact ⟨hit, object_lasting (hhandled.lasting it hstays)⟩
  refine ⟨hhandled, hhandled.sound, hhandled.distinctBluetooth h.distinct, hnodup, ?_, ?_⟩
  · intro it hit hstored
    obtain ⟨hstored, hkept⟩ := hkept it hstored
    exact (key_of_lasting hkept).1.trans
      (h.bluetooth it (List.mem_cons_of_mem call hit) hstored)
  · intro it hit hstored
    obtain ⟨hstored, hkept⟩ := hkept it hstored
    rw [h.made it (List.mem_cons_of_mem call hit) hstored, disconnectedReport_congr hkept]

/-- The hang-ups that wait are in time iff the first call's end does none but its own, and the
    rest of the calls are ended in time. -/
theorem hangupInTime_cons (hhandled : Handled w w' call) :
    HangupInTime w (call :: calls) ↔ (∀ r, ¬ HungUpWith w call r) ∧ HangupInTime w' calls := by
  have hactive : ∀ it, it ≠ call → ¬ HungUpWith w call it →
      (IsActive (w'.object it) ↔ IsActive (w.object it)) := fun it hne hnot =>
    isActive_congr (object_lasting (hhandled.lasting it (not_or.mpr ⟨hne, hnot⟩)))
  constructor
  · intro h
    have hnone : ∀ r, ¬ HungUpWith w call r := by
      rintro r ⟨⟨hwaits, hne⟩, honly⟩
      have hmem := h r hwaits [call] calls rfl (by simp) fun it hit hactive =>
        List.mem_singleton.mpr (honly it hit hactive)
      exact hne (List.mem_singleton.mp hmem)
    refine ⟨hnone, fun r hwaits ended rest hsplit hended hactives => ?_⟩
    obtain ⟨⟨hwaits, hne⟩, -⟩ := (hhandled.waiting r).mp hwaits
    have hmem := h r hwaits (call :: ended) rest (by rw [hsplit]; rfl) (by simp) ?_
    · exact (List.mem_cons.mp hmem).resolve_left hne
    · intro it hit hit'
      by_cases heq : it = call
      · exact heq ▸ List.mem_cons_self
      · refine List.mem_cons_of_mem call (hactives it ?_ ?_)
        · exact (hhandled.mem it).mpr ⟨hit, not_or.mpr ⟨heq, hnone it⟩⟩
        · exact (hactive it heq (hnone it)).mpr hit'
  · rintro ⟨hnone, h⟩ r hwaits ended rest hsplit hended hactives
    cases ended with
    | nil => exact absurd rfl hended
    | cons first ended =>
      obtain ⟨rfl, rfl⟩ := List.cons.inj hsplit
      by_cases hr : r = call
      · exact hr ▸ List.mem_cons_self
      have hnot : ¬ ∀ it ∈ w.store.callObjectPtrList, IsActive (w.object it) → it = call :=
        fun honly => hnone r ⟨⟨hwaits, hr⟩, honly⟩
      have hactives' : ∀ it ∈ w'.store.callObjectPtrList, IsActive (w'.object it) →
          it ∈ ended := by
        intro it hit hit'
        obtain ⟨hit, hstays⟩ := (hhandled.mem it).mp hit
        obtain ⟨hne, hstays⟩ := not_or.mp hstays
        have hmem := hactives it hit ((hactive it hne hstays).mp hit')
        exact (List.mem_cons.mp hmem).resolve_left hne
      have hended' : ended ≠ [] := by
        rintro rfl
        refine hnot fun it hit hit' => ?_
        exact List.mem_singleton.mp (hactives it hit hit')
      exact List.mem_cons_of_mem call
        (h r ((hhandled.waiting r).mpr ⟨⟨hwaits, hr⟩, hnot⟩) ended rest rfl hended' hactives')

/-- What is stored in the end was, and so was each call whose report is resolved. -/
theorem run_subset {env : Ref → StatusEnv} (h : Reported w fields calls report)
    (hmeets : Run.StepsMeet (handleReport ins env) Resolves w (calls.map fun c => (c, report c))) :
    (∀ r ∈ (Run.run (handleReport ins env) w
      (calls.map fun c => (c, report c))).store.callObjectPtrList,
        r ∈ w.store.callObjectPtrList) ∧
      ∀ call ∈ calls, call ∈ w.store.callObjectPtrList ∧
        HasKey (w.object call) (fields call) := by
  induction calls generalizing w with
  | nil => exact ⟨fun _ hr => hr, nofun⟩
  | cons call rest ih =>
    obtain ⟨hresolves, hmeets⟩ := hmeets
    obtain ⟨hcall, hkey⟩ := h.resolves_iff.mp hresolves
    obtain ⟨hhandled, hrest⟩ := h.step ins env hcall hkey
    obtain ⟨hsubset, hkeys⟩ := ih hrest hmeets
    refine ⟨fun r hr => ((hhandled.mem r).mp (hsubset r hr)).1, fun it hit => ?_⟩
    obtain rfl | hit := List.mem_cons.mp hit
    · exact ⟨hcall, hkey⟩
    · obtain ⟨hstored, hkey⟩ := hkeys it hit
      obtain ⟨hstored, hstays⟩ := (hhandled.mem it).mp hstored
      exact ⟨hstored, hkey.congr (object_lasting (hhandled.lasting it hstays))⟩

/-- Each of `calls` is gone, and the other calls of `w` are there in their states. -/
structure EndsOnly (w w' : StatusWorld) (calls : List Ref) : Prop where
  ended : ∀ call ∈ calls, call ∉ w'.store.callObjectPtrList
  kept : ∀ call ∈ w.store.callObjectPtrList, call ∉ calls →
    call ∈ w'.store.callObjectPtrList ∧
      (w'.object call).callState = (w.object call).callState

/-- The first call goes, alone if the rest goes alone after it. -/
theorem endsOnly_cons (hhandled : Handled w w' call)
    (hnone : ∀ r, ¬ HungUpWith w call r)
    (hsubset : ∀ r ∈ w''.store.callObjectPtrList, r ∈ w'.store.callObjectPtrList) :
    EndsOnly w w'' (call :: calls) ↔ EndsOnly w' w'' calls := by
  have hmem : ∀ r, r ∈ w'.store.callObjectPtrList ↔ r ∈ w.store.callObjectPtrList ∧ r ≠ call := by
    intro r
    rw [hhandled.mem, not_or]
    exact and_congr_right fun _ => and_iff_left (hnone r)
  have hstate : ∀ r, r ≠ call → (w'.object r).callState = (w.object r).callState := fun r hr =>
    (congrArg CallBase.callState (object_lasting
      (hhandled.lasting r (not_or.mpr ⟨hr, hnone r⟩))) :)
  constructor
  · intro h
    refine ⟨fun it hit => h.ended it (List.mem_cons_of_mem call hit), fun it hit hnot => ?_⟩
    obtain ⟨hit, hne⟩ := (hmem it).mp hit
    rw [hstate it hne]
    exact h.kept it hit (List.not_mem_cons_of_ne_of_not_mem hne hnot)
  · intro h
    refine ⟨fun it hit => ?_, fun it hit hnot => ?_⟩
    · obtain rfl | hit := List.mem_cons.mp hit
      · exact fun hleft => ((hmem it).mp (hsubset it hleft)).2 rfl
      · exact h.ended it hit
    · obtain ⟨hne, hnot⟩ := List.ne_and_not_mem_of_not_mem_cons hnot
      rw [← hstate it hne]
      exact h.kept it ((hmem it).mpr ⟨hit, hne⟩) hnot

/-- A call that is hung up with the first one is missed in the end: it has its own report, or
    it should have stayed. -/
theorem not_hungUpWith (hw : w.Sound) (hhandled : Handled w w' call)
    (hstored : ∀ it ∈ calls, it ∈ w'.store.callObjectPtrList)
    (hsubset : ∀ r ∈ w''.store.callObjectPtrList, r ∈ w'.store.callObjectPtrList)
    (hends : EndsOnly w w'' (call :: calls)) : ∀ r, ¬ HungUpWith w call r := by
  intro r hhung
  have hgone : r ∉ w'.store.callObjectPtrList := fun hr =>
    ((hhandled.mem r).mp hr).2 (.inr hhung)
  by_cases hr : r ∈ calls
  · exact hgone (hstored r hr)
  · have hmem : r ∈ w.store.callObjectPtrList := ((waitingHangup_eq_some hw).mp hhung.1.1).2.1
    have hkept := hends.kept r hmem (List.not_mem_cons_of_ne_of_not_mem hhung.1.2 hr)
    exact hgone (hsubset r hkept.1)

/-- **Run.** The reports are resolved, and end the calls and no other, iff each is of a stored
    call and has its key and the hang-ups that wait are in time. -/
theorem run_iff (ins : Insertion) (env : Ref → StatusEnv) (h : Reported w fields calls report) :
    Run.StepsMeet (handleReport ins env) Resolves w (calls.map fun c => (c, report c)) ∧
        EndsOnly w (Run.run (handleReport ins env) w (calls.map fun c => (c, report c))) calls ↔
      (∀ call ∈ calls, call ∈ w.store.callObjectPtrList ∧ HasKey (w.object call) (fields call)) ∧
        HangupInTime w calls := by
  induction calls generalizing w with
  | nil =>
    refine iff_of_true ⟨trivial, nofun, fun _ hit _ => ⟨hit, rfl⟩⟩ ⟨nofun, ?_⟩
    intro r _ ended rest hsplit hended
    exact absurd (List.append_eq_nil_iff.mp hsplit.symm).1 hended
  | cons call rest ih =>
    by_cases hfound : call ∈ w.store.callObjectPtrList ∧ HasKey (w.object call) (fields call)
    · obtain ⟨hcall, hkey⟩ := hfound
      obtain ⟨hhandled, hrest⟩ := h.step ins env hcall hkey
      have hresolves := h.resolves_iff.mpr ⟨hcall, hkey⟩
      have hne : ∀ it ∈ rest, it ≠ call := fun it hit heq =>
        (List.nodup_cons.mp h.nodup).1 (heq ▸ hit)
      rw [hangupInTime_cons hhandled]
      constructor
      · rintro ⟨⟨-, hmeets⟩, hends⟩
        obtain ⟨hsubset, hkeys⟩ := run_subset hrest hmeets
        have hnone := not_hungUpWith h.sound hhandled (fun it hit => (hkeys it hit).1) hsubset hends
        have hends' := (endsOnly_cons hhandled hnone hsubset).mp hends
        obtain ⟨-, hintime⟩ := (ih hrest).mp ⟨hmeets, hends'⟩
        refine ⟨fun it hit => ?_, hnone, hintime⟩
        exact (run_subset h ⟨hresolves, hmeets⟩).2 it hit
      · rintro ⟨hkeys, hnone, hintime⟩
        have hkeys' : ∀ it ∈ rest,
            it ∈ (handleReport ins env w (call, report call)).store.callObjectPtrList ∧
              HasKey ((handleReport ins env w (call, report call)).object it) (fields it) := by
          intro it hit
          obtain ⟨hstored, hkey⟩ := hkeys it (List.mem_cons_of_mem call hit)
          have hstays := not_or.mpr ⟨hne it hit, hnone it⟩
          exact ⟨(hhandled.mem it).mpr ⟨hstored, hstays⟩,
            hkey.congr (object_lasting (hhandled.lasting it hstays)).symm⟩
        obtain ⟨hmeets, hends⟩ := (ih hrest).mpr ⟨hkeys', hintime⟩
        refine ⟨⟨hresolves, hmeets⟩, ?_⟩
        exact (endsOnly_cons hhandled hnone (run_subset hrest hmeets).1).mpr hends
    · refine iff_of_false (fun hmeets => hfound ?_) fun hkeys => hfound ?_
      · exact (run_subset h hmeets.1).2 call List.mem_cons_self
      · exact hkeys.1 call List.mem_cons_self

/-! ## What is submitted -/

variable {handler : HandlerEnv} {link : LostLink}

theorem updateCallReportInfo_isSome :
    (handler.updateCallReportInfo info).isSome ↔ handler.hasCallStatusManager = true ∧
      (info.callType = .bluetooth → handler.isDevProvisioned = true) ∧
      ¬ handler.IsVoipTransferCall info ∧ ¬ handler.IsHostDialMeIgnoreTransferCall info := by
  unfold HandlerEnv.updateCallReportInfo
  split_ifs with hmanager hprovisioned htransfer
  · simp [hmanager]
  · simp [hprovisioned.1, hprovisioned.2]
  · simp only [Option.isSome_none, Bool.false_eq_true, false_iff]
    tauto
  · simp only [Option.isSome_some, true_iff]
    rw [not_or] at htransfer
    refine ⟨Bool.eq_true_of_not_eq_false hmanager, fun htype => ?_, htransfer⟩
    exact Bool.eq_true_of_not_eq_false fun hnot => hprovisioned ⟨hnot, htype⟩

/-- What is submitted is the report that was made. -/
theorem eq_of_mem_updateCallReportInfo {info' : CallDetailInfo}
    (h : handler.updateCallReportInfo info = some info') : info' = info := by
  unfold HandlerEnv.updateCallReportInfo at h
  split_ifs at h
  exact (Option.some.inj h).symm

/-- Each call has its report iff the handler takes it. -/
theorem submitted_iff : (link.reports handler fields w).map Prod.fst = link.calls fields w ↔
    ∀ call ∈ link.calls fields w,
      (handler.updateCallReportInfo (disconnectedReport (w.object call) (fields call))).isSome := by
  have hfilter : ∀ l : List Ref, (l.filterMap fun call =>
      (handler.updateCallReportInfo (disconnectedReport (w.object call) (fields call))).map
        fun info => (call, info)).map Prod.fst = l.filter fun call =>
      (handler.updateCallReportInfo (disconnectedReport (w.object call) (fields call))).isSome := by
    intro l
    induction l with
    | nil => rfl
    | cons call l ih =>
      rw [List.filterMap_cons, List.filter_cons]
      cases handler.updateCallReportInfo (disconnectedReport (w.object call) (fields call)) with
      | none => exact ih
      | some info => exact congrArg (call :: ·) ih
  rw [LostLink.reports, hfilter, List.filter_eq_self]

/-- The reports, if all are taken. -/
theorem reports_eq (h : ∀ call ∈ link.calls fields w,
    (handler.updateCallReportInfo (disconnectedReport (w.object call) (fields call))).isSome) :
    link.reports handler fields w = (link.calls fields w).map
      fun call => (call, disconnectedReport (w.object call) (fields call)) := by
  rw [LostLink.reports, ← List.filterMap_eq_map]
  refine List.filterMap_congr fun call hcall => ?_
  obtain ⟨info, hinfo⟩ := Option.isSome_iff_exists.mp (h call hcall)
  rw [hinfo, eq_of_mem_updateCallReportInfo hinfo]
  rfl

theorem reports_disconnected :
    ∀ report ∈ link.reports handler fields w, report.2.state = .disconnected := by
  intro report hreport
  obtain ⟨call, -, hmap⟩ := List.mem_filterMap.mp hreport
  obtain ⟨info, hinfo, rfl⟩ := Option.map_eq_some_iff.mp hmap
  rw [eq_of_mem_updateCallReportInfo hinfo]
  rfl

theorem LostLink.calls_bluetooth (hcall : call ∈ link.calls fields w) :
    call ∈ w.store.callObjectPtrList ∧ (w.object call).callType = .bluetooth := by
  obtain ⟨hstored, hends⟩ := List.mem_filter.mp hcall
  exact ⟨hstored, (of_decide_eq_true hends).1⟩

/-- A Bluetooth call is identified iff its report is taken and has its key. -/
theorem identified_iff {fields : CallFields} (hc : c.callType = .bluetooth) :
    Identified handler c fields ↔
      (handler.updateCallReportInfo (disconnectedReport c fields)).isSome ∧ HasKey c fields := by
  by_cases hfits : c.accountNumber.utf8ByteSize ≤ maxNumberLen
  · have hbase : getCallAttributeBaseInfo c fields =
        ⟨c.accountNumber, .bluetooth, fields.accountId⟩ := by
      rw [getCallAttributeBaseInfo, if_neg (not_lt.mpr hfits), hc]
    have htype : (disconnectedReport c fields).callType = .bluetooth := by
      rw [disconnectedReport, hbase]
    have hnumber : (disconnectedReport c fields).phoneNum = c.accountNumber := by
      rw [disconnectedReport, hbase]
    rw [updateCallReportInfo_isSome, HandlerEnv.IsVoipTransferCall,
      HandlerEnv.IsHostDialMeIgnoreTransferCall, HandlerEnv.IsTransferCall, htype, hnumber]
    constructor
    · intro h
      refine ⟨⟨h.hasCallStatusManager, fun _ => h.isDevProvisioned, ?_, ?_⟩, hfits, h.slot, h.phone⟩
      · exact fun hvoip => (h.foreign hvoip.1.2).1 hvoip.2
      · exact fun hhost => (h.foreign hhost.1.2).2 hhost.2
    · rintro ⟨⟨hmanager, hprovisioned, hvoip, hhost⟩, -, hslot, hphone⟩
      refine ⟨hmanager, hprovisioned rfl, hfits, fun hwearable => ?_, hslot, hphone⟩
      exact ⟨fun hempty => hvoip ⟨⟨rfl, hwearable⟩, hempty⟩,
        fun hown => hhost ⟨⟨rfl, hwearable⟩, hown⟩⟩
  · exact iff_of_false (fun h => hfits h.number_fits) fun h => hfits h.2.number_fits

theorem reported_calls (link : LostLink) (fields : Ref → CallFields) (hw : w.Sound)
    (hdistinct : DistinctBluetooth w) :
    Reported w fields (link.calls fields w)
      fun call => disconnectedReport (w.object call) (fields call) where
  sound := hw
  distinct := hdistinct
  nodup := hw.nodup.filter _
  bluetooth _ hcall _ := (LostLink.calls_bluetooth hcall).2
  made _ _ _ := rfl

/-! ## Main results -/

/-- Each call of the link is ended, by a report of its own, iff it is identified by it and no
    hang-up that waits is done with it. -/
theorem endsEach_iff (ins : Insertion) (env : Ref → StatusEnv) (handler : HandlerEnv)
    (fields : Ref → CallFields) (link : LostLink) (w : StatusWorld) (hw : w.Sound)
    (hdistinct : DistinctBluetooth w) :
    EndsEach ins env handler fields link w ↔
      (∀ call ∈ link.calls fields w, Identified handler (w.object call) (fields call)) ∧
        HangupInTime w (link.calls fields w) := by
  have hrun := run_iff ins env (reported_calls link fields hw hdistinct)
  constructor
  · intro h
    have htaken := submitted_iff.mp h.submitted
    have hresolved := h.resolved
    have hends : EndsOnly w _ _ := ⟨h.ended, h.kept⟩
    rw [reports_eq htaken] at hresolved hends
    obtain ⟨hkeys, hintime⟩ := hrun.mp ⟨hresolved, hends⟩
    refine ⟨fun call hcall => ?_, hintime⟩
    rw [identified_iff (LostLink.calls_bluetooth hcall).2]
    exact ⟨htaken call hcall, (hkeys call hcall).2⟩
  · rintro ⟨hidentified, hintime⟩
    have hboth := fun call hcall =>
      (identified_iff (LostLink.calls_bluetooth hcall).2).mp (hidentified call hcall)
    have htaken := fun call hcall => (hboth call hcall).1
    obtain ⟨hresolved, hends⟩ := hrun.mpr ⟨fun call hcall =>
      ⟨(LostLink.calls_bluetooth hcall).1, (hboth call hcall).2⟩, hintime⟩
    rw [← reports_eq htaken] at hresolved hends
    exact ⟨submitted_iff.mpr htaken, reports_disconnected, hresolved, hends.ended, hends.kept⟩

instance (w : StatusWorld) : Decidable (DistinctBluetooth w) :=
  inferInstanceAs (Decidable (∀ call ∈ _, ∀ other ∈ _, _ → _ → _ → _ → _))

/-- A Bluetooth call that a phone reports. -/
private def bluetoothReport (index phoneIndex : ℤ) (state : TelCallState) : StatusOp :=
  .report modemEnv { slotCall .bluetooth index state 0 with phoneIndex := phoneIndex }

/-- Two calls of the first phone, and one of the modem. -/
private def onePhone : StatusWorld :=
  Run.run (statusStep .restored) .init
    [bluetoothReport 1 0 .incoming, bluetoothReport 1 0 .active, bluetoothReport 2 0 .incoming,
      .report modemEnv (slotCall .ims 1 .incoming 0)]

/-- Two phones with a call each. -/
private def twoPhones : StatusWorld :=
  Run.run (statusStep .restored) .init
    [bluetoothReport 1 0 .incoming, bluetoothReport 1 1 .incoming]

/-- A tablet without numbers of its own. -/
private def tablet : HandlerEnv := ⟨true, true, false, "", ""⟩

/-- Calls of account 0. -/
private def ofAccount : Ref → CallFields := fun _ => ⟨0, false⟩

theorem one_phone_ended :
    EndsEach .restored (fun _ => modemEnv) tablet ofAccount .hfpDisConnectedEndBtCall onePhone := by
  have hcalls : LostLink.hfpDisConnectedEndBtCall.calls ofAccount onePhone = [0, 1] := by decide
  refine (endsEach_iff .restored (fun _ => modemEnv) tablet ofAccount .hfpDisConnectedEndBtCall
    onePhone (Sound.reached _ _) (by decide)).mpr ⟨?_, ?_⟩
  · rw [hcalls]
    have hown : ¬ tablet.IsOwn "10086" := fun h => absurd h.1 (by decide)
    intro call hcall
    obtain rfl | rfl : call = 0 ∨ call = 1 := by simpa using hcall
    · exact ⟨rfl, rfl, by decide, fun _ => ⟨by decide, hown⟩, .inl (by decide), by decide⟩
    · exact ⟨rfl, rfl, by decide, fun _ => ⟨by decide, hown⟩, .inl (by decide), by decide⟩
  · have hnone : waitingHangup onePhone = none := by decide
    intro call hwaits
    rw [hnone] at hwaits
    exact nomatch hwaits

/-- **The second phone's call is left.** Its report has the key of the first phone's call, which
    is ended by then. -/
theorem second_phone_not_found :
    twoPhones.Sound ∧ DistinctBluetooth twoPhones ∧
      LostLink.hfpDisConnectedEndBtCall.calls ofAccount twoPhones = [0, 1] ∧
      ¬ EndsEach .restored (fun _ => modemEnv) tablet ofAccount .hfpDisConnectedEndBtCall
        twoPhones := by
  refine ⟨Sound.reached _ _, by decide, by decide, fun h => ?_⟩
  exact h.ended 1 (by decide) (by decide)

end CallManager.LinkLoss
