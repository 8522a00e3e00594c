import CallManager.Library.OrderedMap
import CallManager.Library.Run
import CallManager.StoredCalls

/-!
# The slots of Bluetooth calls

A phone and a watch tell each other the slot of a call in REQUISITES messages,
which name the call by its number. `HandleRequisitesData` gives the slot to the
stored call with that number, or else saves it under the number, for
`GetBtCallSlotId`, with which a dial waits for it.

Specification: the slot that a Bluetooth call is reported with, and the one that a
dial is given, came in a message for that very call, or is
`BT_CALL_INVALID_SLOT`; with no call stored, no slot is saved for a call that is
over (`Sound`); the end of a call leaves the session to the Bluetooth calls that go
on (`KeepsSession`).

A saved slot is deleted when it is asked for, or, on the phone, with the end of any
call; a message that comes after that is saved again. Once one message has come,
every Bluetooth call is reported with the account it was created with; and on the
watch the end of any call disconnects the session.

Results:
* `slots_belong_to_calls`: the runs that keep the specification are those whose
  operations meet the condition.
* `slot_of_another_call`: runs that break it.
-/

namespace CallManager.InteroperableSlots

/-! ## Model of the code -/

/-- `BT_CALL_INVALID_SLOT` (call_manager_base.h:114). -/
def btCallInvalidSlot : ℤ := -1

/-- A slot, and the call of the message that it came in, if it came in one. -/
structure Slot where
  slotId : ℤ
  sentFor : Option ℕ
  deriving DecidableEq, Repr

/-- The slot, if it is one, came in a message for the call. -/
def Slot.Of (s : Slot) (call : ℕ) : Prop := s.slotId = btCallInvalidSlot ∨ s.sentFor = some call

instance (s : Slot) (call : ℕ) : Decidable (s.Of call) := inferInstanceAs (Decidable (_ ∨ _))

/-- No slot yet. -/
def Slot.invalid : Slot := ⟨btCallInvalidSlot, none⟩

/-- An entry of `slotIdMap_`. -/
structure SavedSlot where
  phoneNum : ByteString
  slot : Slot
  deriving DecidableEq, Repr

/-- What is read and written of a stored call: `account` is `accountId_`, and `btCallSlot` is
    `btCallSlotId_`, which is what a Bluetooth call is reported with. -/
structure SlotCall where
  call : ℕ
  accountNumber : ByteString
  isBluetooth : Bool
  ending : Bool
  account : Slot
  btCallSlot : Slot
  deriving DecidableEq, Repr

/-- `UpdateBtCallSlotId` (call_ability_report_proxy.cpp:515-529). -/
def SlotCall.updateBtCallSlotId (isSlotIdVisible : Bool) (c : SlotCall) : SlotCall :=
  if c.isBluetooth = false then c
  else if c.btCallSlot.slotId = btCallInvalidSlot ∧ isSlotIdVisible = false then c
  else { c with btCallSlot := c.account }

/-- Where `GetBtCallSlotId` is. -/
inductive DialPhase
  | getBtSlotId
  | waitForBtSlotId
  | getBtSlotIdAgain
  | deleteBtSlotId (slot : Slot)
  | returned (slot : Slot)
  deriving DecidableEq, Repr

/-- What has been read so far. -/
def DialPhase.slot? : DialPhase → Option Slot
  | .deleteBtSlotId slot | .returned slot => some slot
  | .getBtSlotId | .waitForBtSlotId | .getBtSlotIdAgain => none

/-- A dial that asks for the slot of its call. -/
structure SlotDial where
  call : ℕ
  phoneNum : ByteString
  phase : DialPhase
  deriving DecidableEq, Repr

/-- `InteroperableRole`, once a peer is online (interoperable_communication_manager.h). -/
inductive InteroperableRole
  | phone
  | others
  deriving DecidableEq, Repr

/-- A REQUISITES message, for a call: the items it has. -/
structure RequisitesMsg where
  call : ℕ
  phoneNumber : Option ByteString
  slotId : Option ℤ
  callType : Option Bool
  deriving DecidableEq, Repr

/-- The members of the data controller of the role, the calls, the dials that are in
    `GetBtCallSlotId`, and the calls that are over. `session` says whether `session_`
    is there and ready. -/
structure SlotWorld where
  role : InteroperableRole
  session : Bool
  isSlotIdVisible : Bool
  slotIdMap : OrderedMap SavedSlot.phoneNum
  calls : List SlotCall
  dials : List SlotDial
  gone : List ℕ

/-- What happens. -/
inductive SlotOp
  | handleRequisitesData (msg : RequisitesMsg)
  | getBtCallSlotId (call : ℕ) (phoneNum : ByteString)
  | next (call : ℕ)
  | dialed (call : ℕ) (accountNumber : ByteString) (hasSimCard : Bool) (accountId : ℤ)
  | dialFailed (call : ℕ)
  | newCall (call : ℕ) (accountNumber : ByteString) (isBluetooth : Bool) (accountId : ℤ)
      (connected : Bool)
  | reportCallStateInfo (call : ℕ)
  | callStateUpdated (call : ℕ) (nextState : TelCallState) (connected : Bool)
  | deleteOneCallObject (call : ℕ)
  deriving DecidableEq, Repr

namespace SlotWorld

/-- The call that a message finds by its number (call_object_manager.cpp:270-289). -/
def getOneCallObject (w : SlotWorld) (phoneNumber : ByteString) : Option SlotCall :=
  if phoneNumber = [] then none
  else w.calls.find? fun c => removePostDialPhoneNumber c.accountNumber = phoneNumber

/-- `IsSlotIdVisible` (interoperable_data_controller.cpp:335-342). -/
def slotIdVisible (w : SlotWorld) : Bool := w.session && w.isSlotIdVisible

/-- `SaveBtSlotId` (lines 305-309). -/
def saveBtSlotId (w : SlotWorld) (phoneNum : ByteString) (slot : Slot) : SlotWorld :=
  { w with slotIdMap := (w.slotIdMap.erase phoneNum).insert ⟨phoneNum, slot⟩ }

/-- `GetBtSlotIdByPhoneNumber` (lines 326-333). -/
def getBtSlotIdByPhoneNumber (w : SlotWorld) (phoneNum : ByteString) : Slot :=
  match w.slotIdMap.lookup phoneNum with
  | none => .invalid
  | some saved => saved.slot

/-- `HandleRequisitesData` (lines 201-237), of a message that comes through the session. -/
def handleRequisitesData (w : SlotWorld) (msg : RequisitesMsg) : SlotWorld :=
  match msg.phoneNumber, msg.slotId, msg.callType with
  | some phoneNum, some slotId, some _ =>
    if w.session = false then w
    else
      match w.getOneCallObject phoneNum with
      | none => w.saveBtSlotId phoneNum ⟨slotId, msg.call⟩
      | some callPtr =>
        let account : Slot := ⟨slotId, msg.call⟩
        let update (c : SlotCall) :=
          if c = callPtr then { c with account }.updateBtCallSlotId true else c
        { w with isSlotIdVisible := true, calls := w.calls.map update }
  | _, _, _ => w

/-- What a dial does next: a lookup, the wait, which ends with a slot or with the time, and
    `DeleteBtSlotIdByPhoneNumber` (interoperable_communication_manager.cpp:163-177). -/
def nextPhase (w : SlotWorld) (dial : SlotDial) : DialPhase :=
  match dial.phase with
  | .getBtSlotId =>
    let slot := w.getBtSlotIdByPhoneNumber dial.phoneNum
    if slot.slotId = btCallInvalidSlot then .waitForBtSlotId else .deleteBtSlotId slot
  | .waitForBtSlotId => .getBtSlotIdAgain
  | .getBtSlotIdAgain => .deleteBtSlotId (w.getBtSlotIdByPhoneNumber dial.phoneNum)
  | .deleteBtSlotId slot => .returned slot
  | .returned slot => .returned slot

/-- The map after that. -/
def nextMap (w : SlotWorld) (dial : SlotDial) : OrderedMap SavedSlot.phoneNum :=
  match dial.phase with
  | .deleteBtSlotId _ => w.slotIdMap.erase dial.phoneNum
  | .getBtSlotId | .waitForBtSlotId | .getBtSlotIdAgain | .returned _ => w.slotIdMap

/-- One critical section of the dial of a call. -/
def next (w : SlotWorld) (call : ℕ) : SlotWorld :=
  match w.dials.find? fun d => d.call = call with
  | none => w
  | some dial =>
    let advance (d : SlotDial) := if d = dial then { d with phase := w.nextPhase dial } else d
    { w with slotIdMap := w.nextMap dial, dials := w.dials.map advance }

/-- The slot with which a dial has returned. -/
def returned? (w : SlotWorld) (call : ℕ) : Option Slot :=
  w.dials.findSome? fun d =>
    match d.phase with
    | .returned slot => if d.call = call then some slot else none
    | .getBtSlotId | .waitForBtSlotId | .getBtSlotIdAgain | .deleteBtSlotId _ => none

/-- The dial goes on, with the slot if it has a SIM card (call_manager_service.cpp:355-367). -/
def dialed (w : SlotWorld) (call : ℕ) (accountNumber : ByteString) (hasSimCard : Bool)
    (accountId : ℤ) : SlotWorld :=
  match w.returned? call with
  | none => w
  | some slot =>
    let account : Slot := if hasSimCard = true then slot else ⟨accountId, none⟩
    { w with
      dials := w.dials.filter fun d => d.call ≠ call
      calls := w.calls ++ [⟨call, accountNumber, false, false, account, .invalid⟩] }

/-- The dial comes to nothing. -/
def dialFailed (w : SlotWorld) (call : ℕ) : SlotWorld :=
  match w.returned? call with
  | none => w
  | some _ => { w with dials := w.dials.filter fun d => d.call ≠ call, gone := call :: w.gone }

/-- `ConnectRemote`, of the client (interoperable_client_manager.cpp:42-53). -/
def connectRemote (w : SlotWorld) (connected : Bool) : SlotWorld :=
  match w.role with
  | .phone => w
  | .others => { w with session := w.session || connected }

/-- A call is stored, and `NewCallCreated` (interoperable_communication_manager.cpp:149-161). -/
def newCall (w : SlotWorld) (call : ℕ) (accountNumber : ByteString) (isBluetooth : Bool)
    (accountId : ℤ) (connected : Bool) : SlotWorld :=
  let callPtr : SlotCall :=
    ⟨call, accountNumber, isBluetooth, false, ⟨accountId, none⟩, .invalid⟩
  connectRemote { w with calls := w.calls ++ [callPtr] } connected

/-- A call is reported. -/
def reportCallStateInfo (w : SlotWorld) (call : ℕ) : SlotWorld :=
  let update (c : SlotCall) := if c.call = call then c.updateBtCallSlotId w.slotIdVisible else c
  { w with calls := w.calls.map update }

/-- `OnCallDestroyed` (interoperable_client_manager.cpp:30-40,
    interoperable_server_manager.cpp:84-87). -/
def onCallDestroyed (w : SlotWorld) : SlotWorld :=
  match w.role with
  | .phone => { w with slotIdMap := .empty _ }
  | .others => { w with session := false }

/-- `CallStateUpdated` (interoperable_communication_manager.cpp:121-147). -/
def callStateUpdated (w : SlotWorld) (call : ℕ) (nextState : TelCallState) (connected : Bool) :
    SlotWorld :=
  match nextState with
  | .incoming => w.connectRemote connected
  | .disconnected | .disconnecting =>
    let update (c : SlotCall) := if c.call = call then { c with ending := true } else c
    { w.onCallDestroyed with calls := w.calls.map update }
  | .unknown | .active | .holding | .dialing | .alerting | .waiting | .idle | .answered => w

/-- A call is taken out of the store. -/
def deleteOneCallObject (w : SlotWorld) (call : ℕ) : SlotWorld :=
  if ∃ c ∈ w.calls, c.call = call then
    { w with calls := w.calls.filter fun c => c.call ≠ call, gone := call :: w.gone }
  else w

/-- One operation. -/
def step (w : SlotWorld) : SlotOp → SlotWorld
  | .handleRequisitesData msg => w.handleRequisitesData msg
  | .getBtCallSlotId call phoneNum =>
    { w with dials := w.dials ++ [⟨call, phoneNum, .getBtSlotId⟩] }
  | .next call => w.next call
  | .dialed call accountNumber hasSimCard accountId =>
    w.dialed call accountNumber hasSimCard accountId
  | .dialFailed call => w.dialFailed call
  | .newCall call accountNumber isBluetooth accountId connected =>
    w.newCall call accountNumber isBluetooth accountId connected
  | .reportCallStateInfo call => w.reportCallStateInfo call
  | .callStateUpdated call nextState connected => w.callStateUpdated call nextState connected
  | .deleteOneCallObject call => w.deleteOneCallObject call

/-- A device of each role, its peer online: the phone has its session, the watch
    connects with its first call. -/
def init (role : InteroperableRole) : SlotWorld where
  role := role
  session := role = .phone
  isSlotIdVisible := false
  slotIdMap := .empty _
  calls := []
  dials := []
  gone := []

/-! ## Specification -/

/-- No saved slot is that of a call that is over, with `gone` the calls that are. -/
def NoneLeft (w : SlotWorld) (gone : List ℕ) : Prop :=
  ∀ saved ∈ w.slotIdMap.entries, ∀ call ∈ gone, saved.slot.sentFor ≠ some call

/-- Slots go to the calls they were sent for, and none is left over. -/
structure Sound (w : SlotWorld) : Prop where
  calls : ∀ c ∈ w.calls, c.btCallSlot.Of c.call
  dials : ∀ d ∈ w.dials, ∀ slot, d.phase.slot? = some slot → slot.Of d.call
  saved : w.calls = [] → w.NoneLeft w.gone

/-- The end of a call does not disconnect the session of a Bluetooth call that goes on. -/
def KeepsSession (w : SlotWorld) : SlotOp → Prop
  | .callStateUpdated call nextState connected =>
    let w' := w.step (.callStateUpdated call nextState connected)
    w.session = true → w'.session = false →
      ∀ c ∈ w.calls, c.isBluetooth = true → c.ending = false → c.call = call
  | _ => True

/-- The condition on an operation. A message finds the call it was sent for, or no Bluetooth
    call; while no call is stored, none comes for a call that is over. What a dial finds saved
    under its number was sent for its call. A call is reported once its message has come, or
    before any has. When the watch ends a call, no other Bluetooth call goes on. When the last
    call goes, or a dial fails with no call, nothing is saved for a call that is over. -/
def StepOk (w : SlotWorld) : SlotOp → Prop
  | .handleRequisitesData msg =>
    w.session = true → ∀ phoneNum ∈ msg.phoneNumber, ∀ slotId ∈ msg.slotId,
      msg.callType.isSome = true →
        match w.getOneCallObject phoneNum with
        | none => w.calls = [] → msg.call ∉ w.gone
        | some c => c.isBluetooth = true → slotId = btCallInvalidSlot ∨ msg.call = c.call
  | .next call =>
    ∀ dial ∈ w.dials.find? fun d => d.call = call,
      dial.phase = .getBtSlotId ∨ dial.phase = .getBtSlotIdAgain →
        (w.getBtSlotIdByPhoneNumber dial.phoneNum).Of dial.call
  | .dialFailed call =>
    (w.returned? call).isSome = true → w.calls = [] → w.NoneLeft [call]
  | .reportCallStateInfo call =>
    ∀ c ∈ w.calls, c.call = call → c.isBluetooth = true →
      c.btCallSlot.slotId ≠ btCallInvalidSlot ∨ w.slotIdVisible = true → c.account.Of call
  | .callStateUpdated call nextState _ =>
    nextState = .disconnected ∨ nextState = .disconnecting → w.role = .others →
      w.session = true → ∀ c ∈ w.calls, c.isBluetooth = true → c.ending = false → c.call = call
  | .deleteOneCallObject call =>
    (∃ c ∈ w.calls, c.call = call) → (∀ c ∈ w.calls, c.call = call) →
      w.NoneLeft (call :: w.gone)
  | .getBtCallSlotId _ _ | .dialed _ _ _ _ | .newCall _ _ _ _ _ => True

/-! ## When a step keeps the specification -/

variable {w : SlotWorld}

theorem invalid_of (call : ℕ) : Slot.invalid.Of call := .inl rfl

theorem mem_saveBtSlotId {phoneNum : ByteString} {slot : Slot} {saved : SavedSlot} :
    saved ∈ (w.saveBtSlotId phoneNum slot).slotIdMap.entries ↔
      saved ∈ w.slotIdMap.entries ∧ saved.phoneNum ≠ phoneNum ∨ saved = ⟨phoneNum, slot⟩ := by
  have hnot : ¬ (w.slotIdMap.erase phoneNum).Mem (SavedSlot.phoneNum ⟨phoneNum, slot⟩) :=
    fun hmem => (OrderedMap.mem_erase.mp hmem).1 rfl
  unfold saveBtSlotId
  dsimp only
  rw [OrderedMap.entries_insert_of_not_mem hnot, OrderedMap.entries_erase]
  simp

/-- A Bluetooth call with a new account is reported with it. -/
theorem updateBtCallSlotId_true (c : SlotCall) :
    (c.updateBtCallSlotId true).btCallSlot = if c.isBluetooth = true then c.account
      else c.btCallSlot := by
  unfold SlotCall.updateBtCallSlotId
  cases c.isBluetooth <;> simp

theorem updateBtCallSlotId_call (isSlotIdVisible : Bool) (c : SlotCall) :
    (c.updateBtCallSlotId isSlotIdVisible).call = c.call := by
  unfold SlotCall.updateBtCallSlotId
  split_ifs <;> rfl

/-- The slots of the calls after one of them is changed. -/
theorem calls_map_iff {p : SlotCall → Prop} [DecidablePred p] {f : SlotCall → SlotCall}
    (h : w.Sound) (hf : ∀ c, (f c).call = c.call) :
    (∀ c ∈ w.calls.map fun c => if p c then f c else c, c.btCallSlot.Of c.call) ↔
      ∀ c ∈ w.calls, p c → (f c).btCallSlot.Of c.call := by
  constructor
  · intro hall c hc hp
    have hin := hall (f c) (List.mem_map.mpr ⟨c, hc, if_pos hp⟩)
    rwa [hf] at hin
  · intro hall c hc
    obtain ⟨b, hb, rfl⟩ := List.mem_map.mp hc
    split_ifs with hp
    · rw [hf]
      exact hall b hb hp
    · exact h.calls b hb

theorem getOneCallObject_mem {phoneNumber : ByteString} {c : SlotCall}
    (h : w.getOneCallObject phoneNumber = some c) : c ∈ w.calls := by
  unfold getOneCallObject at h
  split_ifs at h
  exact List.mem_of_find?_eq_some h

theorem sound_handleRequisitesData_iff (h : w.Sound) (msg : RequisitesMsg) :
    (w.handleRequisitesData msg).Sound ↔ w.StepOk (.handleRequisitesData msg) := by
  obtain ⟨call, phoneNumber, slotId, callType⟩ := msg
  unfold handleRequisitesData StepOk
  dsimp only
  cases phoneNumber with
  | none => simpa using h
  | some phoneNum =>
  cases slotId with
  | none => simpa using h
  | some slotId =>
  cases callType with
  | none => simpa using h
  | some callType =>
  simp only [Option.mem_some_iff, forall_eq', Option.isSome_some, forall_const]
  cases hsession : w.session with
  | false => simpa using h
  | true =>
  simp only [Bool.true_eq_false, if_false, forall_const]
  cases hfound : w.getOneCallObject phoneNum with
  | none =>
    constructor
    · intro hsound hnone hover
      refine hsound.saved hnone ⟨phoneNum, slotId, call⟩ ?_ call hover rfl
      exact mem_saveBtSlotId.mpr (.inr rfl)
    · intro hover
      refine ⟨h.calls, h.dials, fun hnone saved hsaved c hc => ?_⟩
      rcases mem_saveBtSlotId.mp hsaved with ⟨hold, -⟩ | rfl
      · exact h.saved hnone saved hold c hc
      · intro heq
        cases heq
        exact hover hnone hc
  | some callPtr =>
    have hmem := getOneCallObject_mem hfound
    have hcalls := calls_map_iff (p := fun c => c = callPtr)
      (f := fun c => { c with account := ⟨slotId, call⟩ }.updateBtCallSlotId true) h
      fun c => updateBtCallSlotId_call true _
    have hone : (∀ c ∈ w.calls, c = callPtr →
        ({ c with account := ⟨slotId, call⟩ }.updateBtCallSlotId true).btCallSlot.Of c.call) ↔
          (callPtr.isBluetooth = true → slotId = btCallInvalidSlot ∨ call = callPtr.call) := by
      have hslot : (⟨slotId, some call⟩ : Slot).Of callPtr.call ↔
          slotId = btCallInvalidSlot ∨ call = callPtr.call := by
        simp [Slot.Of]
      rw [← hslot]
      constructor
      · intro hall hbluetooth
        have hof := hall callPtr hmem rfl
        rwa [updateBtCallSlotId_true, if_pos hbluetooth] at hof
      · rintro hof c - rfl
        rw [updateBtCallSlotId_true]
        split_ifs with hbluetooth
        · exact hof hbluetooth
        · exact h.calls c hmem
    constructor
    · exact fun hsound => hone.mp (hcalls.mp hsound.calls)
    · intro hok
      refine ⟨hcalls.mpr (hone.mpr hok), h.dials, fun hnone => ?_⟩
      have hnil : w.calls = [] := List.map_eq_nil_iff.mp hnone
      rw [hnil] at hmem
      cases hmem

theorem next_none {call : ℕ} (hnone : (w.dials.find? fun d => d.call = call) = none) :
    w.next call = w := by
  unfold next
  rw [hnone]

theorem next_some {call : ℕ} {dial : SlotDial}
    (hdial : (w.dials.find? fun d => d.call = call) = some dial) :
    w.next call =
      { w with
        slotIdMap := w.nextMap dial
        dials := w.dials.map fun d =>
          if d = dial then { d with phase := w.nextPhase dial } else d } := by
  unfold next
  rw [hdial]

/-- A dial reads what is saved, or has read it. -/
theorem nextPhase_slot {dial : SlotDial}
    (hdial : ∀ slot, dial.phase.slot? = some slot → slot.Of dial.call) :
    (∀ slot, (w.nextPhase dial).slot? = some slot → slot.Of dial.call) ↔
      (dial.phase = .getBtSlotId ∨ dial.phase = .getBtSlotIdAgain →
        (w.getBtSlotIdByPhoneNumber dial.phoneNum).Of dial.call) := by
  unfold nextPhase
  cases hphase : dial.phase with
  | getBtSlotId =>
    dsimp only
    split_ifs with hinvalid
    · exact ⟨fun _ _ => .inl hinvalid, fun _ slot hslot => by cases hslot⟩
    · simp [DialPhase.slot?]
  | waitForBtSlotId => simp [DialPhase.slot?]
  | getBtSlotIdAgain => simp [DialPhase.slot?]
  | deleteBtSlotId slot | returned slot =>
    rw [hphase] at hdial
    exact ⟨fun _ hread => (by simp at hread), fun _ => hdial⟩

theorem nextMap_subset (dial : SlotDial) :
    (w.nextMap dial).entries ⊆ w.slotIdMap.entries := by
  unfold nextMap
  cases dial.phase with
  | deleteBtSlotId slot => exact List.filter_subset_self _
  | getBtSlotId | waitForBtSlotId | getBtSlotIdAgain | returned slot => exact List.Subset.refl _

theorem sound_next_iff (h : w.Sound) (call : ℕ) : (w.next call).Sound ↔ w.StepOk (.next call) := by
  unfold StepOk
  dsimp only
  cases hfind : w.dials.find? fun d => d.call = call with
  | none =>
    rw [next_none hfind]
    simpa using h
  | some dial =>
    have hmem := List.mem_of_find?_eq_some hfind
    rw [next_some hfind]
    simp only [Option.mem_some_iff, forall_eq']
    rw [← nextPhase_slot (h.dials dial hmem)]
    constructor
    · intro hsound slot hslot
      refine hsound.dials { dial with phase := w.nextPhase dial } ?_ slot hslot
      exact List.mem_map.mpr ⟨dial, hmem, if_pos rfl⟩
    · intro hread
      refine ⟨h.calls, fun d hd slot hslot => ?_, fun hnone saved hsaved => ?_⟩
      · obtain ⟨b, hb, rfl⟩ := List.mem_map.mp hd
        split_ifs at hslot ⊢ with hdial
        · subst hdial
          exact hread slot hslot
        · exact h.dials b hb slot hslot
      · exact h.saved hnone saved (nextMap_subset dial hsaved)

theorem sound_dialed (h : w.Sound) (call : ℕ) (accountNumber : ByteString) (hasSimCard : Bool)
    (accountId : ℤ) : (w.dialed call accountNumber hasSimCard accountId).Sound := by
  unfold dialed
  cases w.returned? call with
  | none => exact h
  | some slot =>
    refine ⟨fun c hc => ?_, fun d hd => h.dials d (List.mem_of_mem_filter hd), fun hnone => ?_⟩
    · rcases List.mem_append.mp hc with hc | hc
      · exact h.calls c hc
      · rw [List.mem_singleton.mp hc]
        exact invalid_of call
    · exact absurd hnone (List.concat_ne_nil _ _)

theorem sound_dialFailed_iff (h : w.Sound) (call : ℕ) :
    (w.dialFailed call).Sound ↔ w.StepOk (.dialFailed call) := by
  unfold dialFailed StepOk
  dsimp only
  cases w.returned? call with
  | none => simpa using h
  | some slot =>
    simp only [Option.isSome_some, forall_const]
    constructor
    · intro hsound hnone saved hsaved c hc
      exact hsound.saved hnone saved hsaved c (List.mem_singleton.mp hc ▸ List.mem_cons_self)
    · intro hleft
      refine ⟨h.calls, fun d hd => h.dials d (List.mem_of_mem_filter hd), ?_⟩
      intro hnone saved hsaved c hc
      rcases List.mem_cons.mp hc with rfl | hc
      · exact hleft hnone saved hsaved c (List.mem_singleton.mpr rfl)
      · exact h.saved hnone saved hsaved c hc

theorem sound_connectRemote (h : w.Sound) (connected : Bool) :
    (w.connectRemote connected).Sound := by
  unfold connectRemote
  cases w.role with
  | phone => exact h
  | others => exact ⟨h.calls, h.dials, h.saved⟩

theorem sound_newCall (h : w.Sound) (call : ℕ) (accountNumber : ByteString) (isBluetooth : Bool)
    (accountId : ℤ) (connected : Bool) :
    (w.newCall call accountNumber isBluetooth accountId connected).Sound := by
  have hadded : ∀ callPtr : SlotCall, callPtr.btCallSlot = .invalid →
      { w with calls := w.calls ++ [callPtr] }.Sound := by
    intro callPtr hinvalid
    refine ⟨fun c hc => ?_, h.dials, fun hnone => absurd hnone (List.concat_ne_nil _ _)⟩
    rcases List.mem_append.mp hc with hc | hc
    · exact h.calls c hc
    · rw [List.mem_singleton.mp hc, hinvalid]
      exact invalid_of callPtr.call
  exact sound_connectRemote (hadded _ rfl) connected

theorem sound_reportCallStateInfo_iff (h : w.Sound) (call : ℕ) :
    (w.reportCallStateInfo call).Sound ↔ w.StepOk (.reportCallStateInfo call) := by
  have hcalls := calls_map_iff (p := fun c => c.call = call)
    (f := SlotCall.updateBtCallSlotId w.slotIdVisible) h (updateBtCallSlotId_call _)
  have hone : ∀ c ∈ w.calls, c.call = call →
      ((c.updateBtCallSlotId w.slotIdVisible).btCallSlot.Of c.call ↔
        (c.isBluetooth = true →
          c.btCallSlot.slotId ≠ btCallInvalidSlot ∨ w.slotIdVisible = true →
            c.account.Of call)) := by
    rintro c hc rfl
    have hof := h.calls c hc
    unfold SlotCall.updateBtCallSlotId
    cases hbluetooth : c.isBluetooth with
    | false => simpa using hof
    | true =>
      simp only [Bool.true_eq_false, if_false, forall_const]
      split_ifs with hkeep
      · simpa [hkeep] using hof
      · have hset : c.btCallSlot.slotId ≠ btCallInvalidSlot ∨ w.slotIdVisible = true := by
          rw [not_and_or, Bool.not_eq_false] at hkeep
          exact hkeep
        simp [hset]
  unfold StepOk
  constructor
  · intro hsound c hc hcall
    exact (hone c hc hcall).mp (hcalls.mp hsound.calls c hc hcall)
  · intro hok
    refine ⟨hcalls.mpr fun c hc hcall => (hone c hc hcall).mpr (hok c hc hcall), h.dials, ?_⟩
    exact fun hnone => h.saved (List.map_eq_nil_iff.mp hnone)

theorem sound_callStateUpdated (h : w.Sound) (call : ℕ) (nextState : TelCallState)
    (connected : Bool) : (w.callStateUpdated call nextState connected).Sound := by
  have hcalls := (calls_map_iff (p := fun c => c.call = call)
    (f := fun c => { c with ending := true }) h fun _ => rfl).mpr fun c hc _ => h.calls c hc
  cases nextState with
  | incoming => exact sound_connectRemote h connected
  | disconnected | disconnecting =>
    unfold callStateUpdated onCallDestroyed
    cases w.role with
    | phone => exact ⟨hcalls, h.dials, fun _ saved hsaved => by cases hsaved⟩
    | others => exact ⟨hcalls, h.dials, fun hnone => h.saved (List.map_eq_nil_iff.mp hnone)⟩
  | unknown | active | holding | dialing | alerting | waiting | idle | answered => exact h

theorem connectRemote_session (hsession : w.session = true) (connected : Bool) :
    (w.connectRemote connected).session = true := by
  unfold connectRemote
  cases w.role with
  | phone => exact hsession
  | others =>
    show (w.session || connected) = true
    rw [hsession, Bool.true_or]

theorem keepsSession_iff (call : ℕ) (nextState : TelCallState) (connected : Bool) :
    w.KeepsSession (.callStateUpdated call nextState connected) ↔
      w.StepOk (.callStateUpdated call nextState connected) := by
  unfold KeepsSession StepOk step callStateUpdated
  dsimp only
  cases nextState with
  | incoming =>
    refine ⟨fun _ hend => (by simp at hend), fun _ hset hclear => ?_⟩
    exact absurd ((connectRemote_session hset connected).symm.trans hclear) Bool.noConfusion
  | disconnected | disconnecting =>
    unfold onCallDestroyed
    cases hrole : w.role with
    | phone =>
      refine ⟨fun _ _ hothers => (by cases hothers), fun _ hset hclear => ?_⟩
      exact absurd (hset.symm.trans hclear) Bool.noConfusion
    | others => simp
  | unknown | active | holding | dialing | alerting | waiting | idle | answered =>
    refine ⟨fun _ hend => (by simp at hend), fun _ hset hclear => ?_⟩
    exact absurd (hset.symm.trans hclear) Bool.noConfusion

theorem sound_deleteOneCallObject_iff (h : w.Sound) (call : ℕ) :
    (w.deleteOneCallObject call).Sound ↔ w.StepOk (.deleteOneCallObject call) := by
  unfold deleteOneCallObject StepOk
  dsimp only
  split_ifs with hstored
  · have hnil : (w.calls.filter fun c => c.call ≠ call) = [] ↔ ∀ c ∈ w.calls, c.call = call := by
      simp
    constructor
    · exact fun hsound _ hlast => hsound.saved (hnil.mpr hlast)
    · intro hok
      refine ⟨fun c hc => h.calls c (List.mem_of_mem_filter hc), h.dials, fun hnone => ?_⟩
      exact hok hstored (hnil.mp hnone)
  · exact ⟨fun _ hin => absurd hin hstored, fun _ => h⟩

/-- **Step lemma.** -/
theorem step_iff (h : w.Sound) (op : SlotOp) :
    (w.step op).Sound ∧ w.KeepsSession op ↔ w.StepOk op := by
  cases op with
  | handleRequisitesData msg =>
    exact (and_iff_left trivial).trans (sound_handleRequisitesData_iff h msg)
  | getBtCallSlotId call phoneNum =>
    refine ⟨fun _ => trivial, fun _ => ⟨⟨h.calls, fun d hd => ?_, h.saved⟩, trivial⟩⟩
    rcases List.mem_append.mp hd with hd | hd
    · exact h.dials d hd
    · rw [List.mem_singleton.mp hd]
      intro slot hslot
      cases hslot
  | next call => exact (and_iff_left trivial).trans (sound_next_iff h call)
  | dialed call accountNumber hasSimCard accountId =>
    exact ⟨fun _ => trivial, fun _ => ⟨sound_dialed h .., trivial⟩⟩
  | dialFailed call => exact (and_iff_left trivial).trans (sound_dialFailed_iff h call)
  | newCall call accountNumber isBluetooth accountId connected =>
    exact ⟨fun _ => trivial, fun _ => ⟨sound_newCall h .., trivial⟩⟩
  | reportCallStateInfo call =>
    exact (and_iff_left trivial).trans (sound_reportCallStateInfo_iff h call)
  | callStateUpdated call nextState connected =>
    exact (and_iff_right (sound_callStateUpdated h ..)).trans (keepsSession_iff ..)
  | deleteOneCallObject call =>
    exact (and_iff_left trivial).trans (sound_deleteOneCallObject_iff h call)

theorem sound_init (role : InteroperableRole) : (init role).Sound where
  calls := fun c hc => by cases hc
  dials := fun d hd => by cases hd
  saved := fun _ saved hsaved => by cases hsaved

end SlotWorld

/-! ## Main result -/

/-- **Main theorem.** On either device, the runs in which slots go to the calls they
    were sent for, none is left over and no call loses its session are those whose
    operations meet the condition. -/
theorem slots_belong_to_calls (role : InteroperableRole) (ops : List SlotOp) :
    Run.StatesMeet SlotWorld.step SlotWorld.Sound (.init role) ops ∧
        Run.StepsMeet SlotWorld.step SlotWorld.KeepsSession (.init role) ops ↔
      Run.StepsMeet SlotWorld.step SlotWorld.StepOk (.init role) ops :=
  Run.statesMeet_and_stepsMeet_iff (fun _ op h => SlotWorld.step_iff h op) ops
    (SlotWorld.sound_init role)

/-- Two Bluetooth calls on the watch; the message of the first one comes before the
    second one is reported. -/
def twoOnWatch : List SlotOp :=
  [.newCall 1 [49] true 0 true, .handleRequisitesData ⟨1, some [49], some 1, some false⟩,
    .newCall 2 [50] true 0 true, .reportCallStateInfo 2]

/-- A message that comes after the end of its call, and a second call to that number. -/
def redialed : List SlotOp :=
  [.getBtCallSlotId 1 [49], .next 1, .next 1, .next 1, .next 1, .dialed 1 [49] false 0,
    .callStateUpdated 1 .disconnected false, .deleteOneCallObject 1,
    .handleRequisitesData ⟨1, some [49], some 1, some false⟩, .getBtCallSlotId 2 [49], .next 2]

/-- The end of the first of two Bluetooth calls on the watch. -/
def firstEnds : List SlotOp :=
  [.newCall 1 [49] true 0 true, .newCall 2 [50] true 0 true,
    .callStateUpdated 1 .disconnected false]

/-- Call 2 is reported with the account 0, which no message named; a late message is left over,
    and used for a second call; the end of call 1 takes the session of call 2. -/
theorem slot_of_another_call :
    ¬ Run.StatesMeet SlotWorld.step SlotWorld.Sound (.init .others) twoOnWatch ∧
      ¬ Run.StatesMeet SlotWorld.step SlotWorld.Sound (.init .phone) (redialed.take 9) ∧
      ¬ (Run.run SlotWorld.step (.init .phone) redialed).Sound ∧
      ¬ Run.StepsMeet SlotWorld.step SlotWorld.KeepsSession (.init .others) firstEnds := by
  refine ⟨fun h => ?_, fun h => ?_, fun h => ?_, ?_⟩
  · have hof := h.last.calls ⟨2, [50], true, false, ⟨0, none⟩, ⟨0, none⟩⟩ (by decide)
    revert hof
    decide
  · exact h.last.saved (by decide) ⟨[49], 1, some 1⟩ (by decide) 1 (by decide) rfl
  · have hof := h.dials ⟨2, [49], .deleteBtSlotId ⟨1, some 1⟩⟩ (by decide) _ rfl
    revert hof
    decide
  · rintro ⟨-, -, hkeeps, -⟩
    have hone := hkeeps (by decide) (by decide) ⟨2, [50], true, false, ⟨0, none⟩, .invalid⟩
      (by decide) rfl rfl
    cases hone

end CallManager.InteroperableSlots
