import CallManager.CallRecords
import CallManager.Library.FirstRows
import CallManager.Library.Run
import CallManager.Library.SortedMap

/-!
# The call log

A record is stored by a task of its own: `AddCallLogInfo` inserts a row, asks the
database for the rows of its class (blocked calls, or all others) behind the newest
5000, deletes them one by one, and publishes the event of a missed call. Tasks of
several calls run beside each other, and each access of the database may fail. The
user may erase rows meanwhile.

The database is a parameter (`Database`): its numbers of rows grow, so that none is given
twice; a query gives the rows it selects the newest `create_time` first, those of one
time in any order, and leaves out as many as its offset; a deletion takes out the rows
with the number, and an update marks those it selects. Tasks have no order; the one that
made a step stands first. The lists of all rows inserted, cut off and erased are not part
of the code, nor is the number of the first row after the last update of `is_read`.

Results:
* `log_sound`: over every run, a row is deleted for the limit only if 5000 other rows
  of its class that are not older were inserted, and the missed calls are published
  once each, as soon as their rows are stored.
* `log_bounded`: over every run without a failed query or deletion, a class has at most
  5000 rows when no task is under way.
* `log_exact`: if further the order of the database is one and the user erases nothing,
  the log has then exactly the newest 5000 rows of each class.
* `unread_announced`: over every run, `QueryAndNotifyUnReadMissedCall` announces each
  number with the count of its missed calls that were stored after the last update, and
  `RemoveMissedIncomingCallNotification` succeeds iff it updates nothing.

**Deviation.** `RemoveMissedIncomingCallNotification` takes the result of `Update` for
its opposite.
-/

namespace CallManager

namespace CallLog

open CallRecords (Call CallRecordInfo)
open FirstRows (RowOrder)

/-! ## Model -/

/-- `std::string` compares its characters as unsigned. -/
instance charOrder : LinearOrder UInt8 where
  le_refl := UInt8.le_refl
  le_trans _ _ _ := UInt8.le_trans
  le_antisymm _ _ := UInt8.le_antisymm
  le_total := UInt8.le_total
  lt_iff_le_not_ge a b := by
    simp only [UInt8.lt_iff_toNat_lt, UInt8.le_iff_toNat_le]
    omega
  toDecidableLE := inferInstance

/-- `LOG_LIMIT_NUM` (call_data_base_helper.h:66). -/
def logLimitNum : ℕ := 5000

/-- The columns of the call log that are asked for again, but for `is_read`. -/
structure Row where
  id : ℕ
  phoneNumber : ByteString
  callDirection : CallDirection
  answerState : CallAnswerType
  createTime : ℤ
  deriving DecidableEq, Repr

/-- The class of a row. -/
def Row.isBlocked (row : Row) : Bool := row.answerState == .blocked

/-- `OrderByDesc(CALL_CREATE_TIME)`. -/
structure NewestFirst extends RowOrder Row where
  newest : ∀ a b, le a b → b.createTime ≤ a.createTime

/-- The database, as far as the call log relies on it: what `Insert` numbers the next row, and
    what `Query`, `Delete` and `Update` do with the rows. -/
structure Database where
  newId : List Row → ℕ
  newId_gt : ∀ inserted, ∀ row ∈ inserted, row.id < newId inserted
  query : (Row → Bool) → NewestFirst → ℕ → List Row → List Row
  query_eq : ∀ selects order offset rows,
    query selects order offset rows = (order.sort (rows.filter selects)).drop offset
  delete : ℕ → List Row → List Row
  delete_eq : ∀ id rows, delete id rows = rows.filter fun row => row.id ≠ id
  update : (Row → Bool) → List Row → List ℕ → List ℕ
  mem_update : ∀ selects rows readIds id,
    id ∈ update selects rows readIds ↔ id ∈ readIds ∨ ∃ row ∈ rows, selects row ∧ row.id = id

/-- A task after its `Insert`: its call, the class it asks for, and the ids of the result
    set that are left, once there is one. -/
structure Writer where
  call : Call
  isBlocked : Bool
  resultSet : Option (List ℕ)

/-- The log and the tasks. -/
structure LogWorld where
  rows : List Row
  readIds : List ℕ
  writers : List Writer
  published : List ℤ
  stored : List Call
  inserted : List Row
  cut : List Row
  erased : List Row
  unreadFrom : ℕ

/-- What happens next. The index chooses the task; `readable` is the result of `GetInt`,
    and the other flags those of the accesses of the database. -/
inductive LogOp
  | addCallLogInfo (call : Call) (isTransferCall : Bool) (info : CallRecordInfo) (ret : Bool)
  | deleteCallLogForLimit (task : ℕ) (order : NewestFirst) (answered : Bool)
  | deleteNext (task : ℕ) (readable deleted : Bool)
  | queryEnd (task : ℕ)
  | removeMissedNotification (helper updated : Bool)
  | eraseRow (id : ℕ)

/-- `IsMissedCall` (call_records_handler.cpp:160-175). -/
def isMissedCall (call : Call) : Bool :=
  call.direction == .callDirectionIn &&
    (call.answerType == .missed || call.answerType == .actived && call.isAiAutoAnswer)

/-- The predicates of the unread missed calls but for `is_read`. -/
def Row.isMissed (row : Row) : Bool :=
  row.callDirection == .callDirectionIn && row.answerState == .missed

namespace LogWorld

variable (db : Database) (w : LogWorld)

/-- `AddCallLogInfo` up to `Insert` (call_records_handler.cpp:56-90): a missed transfer call has
    no row. -/
def addCallLogInfo (call : Call) (isTransferCall : Bool) (info : CallRecordInfo) (ret : Bool) :
    LogWorld :=
  if isTransferCall && isMissedCall call then w
  else if !ret then w
  else
    let row : Row :=
      ⟨db.newId w.inserted, cString info.phoneNumber, info.directionType, info.answerType,
        info.callCreateTime⟩
    { w with
      rows := w.rows ++ [row]
      writers := ⟨call, info.answerType == .blocked, none⟩ :: w.writers
      stored := w.stored ++ [call]
      inserted := w.inserted ++ [row] }

/-- The rows that `DeleteCallLogForLimit` asks for (call_records_handler.cpp:187-198). -/
def behindLimit (order : NewestFirst) (isBlocked : Bool) : List Row :=
  db.query (fun row => row.isBlocked == isBlocked) order logLimitNum w.rows

/-- `QueryAndDeleteLimitedIds` up to its loop (call_data_base_helper.cpp:263-279). -/
def deleteCallLogForLimit (task : ℕ) (order : NewestFirst) (answered : Bool) : LogWorld :=
  match w.writers[task]? with
  | some ⟨call, isBlocked, none⟩ =>
    let ids := if answered then (w.behindLimit db order isBlocked).map (·.id) else []
    { w with writers := ⟨call, isBlocked, some ids⟩ :: w.writers.eraseIdx task }
  | _ => w

/-- The loop of `QueryAndDeleteLimitedIds` (call_data_base_helper.cpp:280-293), one row. -/
def deleteNext (task : ℕ) (readable deleted : Bool) : LogWorld :=
  match w.writers[task]? with
  | some ⟨call, isBlocked, some (id :: ids)⟩ =>
    let w := { w with writers := ⟨call, isBlocked, some ids⟩ :: w.writers.eraseIdx task }
    if readable && deleted then
      { w with
        rows := db.delete id w.rows
        cut := w.cut ++ w.rows.filter fun row => row.id = id }
    else w
  | _ => w

/-- The end of the loop, where `GoToNextRow` fails, and of `AddCallLogInfo`
    (call_records_handler.cpp:91-96). -/
def queryEnd (task : ℕ) : LogWorld :=
  match w.writers[task]? with
  | some ⟨call, _, some _⟩ =>
    { w with
      writers := w.writers.eraseIdx task
      published := if isMissedCall call then w.published ++ [call.callId] else w.published }
  | _ => w

/-- The predicates of the unread missed calls. -/
def isUnreadMissed (row : Row) : Bool := row.isMissed && row.id ∉ w.readIds

/-- The rows of the unread missed calls. -/
def unreadMissed : List Row := w.rows.filter w.isUnreadMissed

/-- `RemoveMissedIncomingCallNotification` (call_records_handler.cpp:300-322), and `Update`
    (call_data_base_helper.cpp:300-311), which returns true without a helper. -/
def removeMissedIncomingCallNotification (helper updated : Bool) : Bool × LogWorld :=
  if !helper then (false, w)
  else if updated then
    (w.unreadMissed.isEmpty,
      { w with
        readIds := db.update w.isUnreadMissed w.rows w.readIds
        unreadFrom := db.newId w.inserted })
  else (true, w)

/-- One step. -/
def step : LogOp → LogWorld
  | .addCallLogInfo call isTransferCall info ret =>
    w.addCallLogInfo db call isTransferCall info ret
  | .deleteCallLogForLimit task order answered => w.deleteCallLogForLimit db task order answered
  | .deleteNext task readable deleted => w.deleteNext db task readable deleted
  | .queryEnd task => w.queryEnd task
  | .removeMissedNotification helper updated =>
    (w.removeMissedIncomingCallNotification db helper updated).2
  | .eraseRow id =>
    { w with
      rows := db.delete id w.rows
      erased := w.erased ++ w.rows.filter fun row => row.id = id }

/-- The loop of `QueryCallLog` (call_data_base_helper.cpp:241-257); `readable` is the result of
    `GetString`. -/
def countNumber (readable : Row → Bool) (map : SortedMap ByteString ℕ) (row : Row) :
    SortedMap ByteString ℕ :=
  if readable row && row.phoneNumber != [] then
    match map.lookup row.phoneNumber with
    | some count => map.insert row.phoneNumber (count + 1)
    | none => map.insert row.phoneNumber 1
  else map

/-- `QueryAndNotifyUnReadMissedCall` (call_records_handler.cpp:246-276): what is announced. -/
def queryAndNotifyUnReadMissedCall (answered : Bool) (readable : Row → Bool) :
    Option (List ByteString × List ℕ) :=
  if answered then
    let map := w.unreadMissed.foldl (countNumber readable) SortedMap.empty
    if map.entries.isEmpty then none else some (map.entries.map (·.1), map.entries.map (·.2))
  else none

end LogWorld

/-- The log before the first call. -/
def LogWorld.start : LogWorld := ⟨[], [], [], [], [], [], [], [], 0⟩

/-! ## Specification -/

/-- `l` has 5000 other rows of the class of `row` that are not older. -/
def Overtaken (l : List Row) (row : Row) : Prop :=
  logLimitNum ≤ l.countP fun other =>
    other.isBlocked == row.isBlocked && other != row && decide (row.createTime ≤ other.createTime)

/-- The calls whose missed event is published. -/
def missedIds (calls : List Call) : List ℤ := (calls.filter isMissedCall).map (·.callId)

/-- The rows of a class. -/
def classOf (l : List Row) (isBlocked : Bool) : List Row :=
  l.filter fun row => row.isBlocked == isBlocked

/-- The access of the database succeeds, and the loop goes to its last row. -/
def Succeeds (w : LogWorld) : LogOp → Prop
  | .deleteCallLogForLimit _ _ answered => answered = true
  | .deleteNext _ readable deleted => readable = true ∧ deleted = true
  | .queryEnd task => ∀ t ∈ w.writers[task]?, t.resultSet = none ∨ t.resultSet = some []
  | _ => True

/-- The order of the database is `order`, and the user erases nothing. -/
def Undisturbed (order : NewestFirst) : LogOp → Prop
  | .deleteCallLogForLimit _ o _ => o = order
  | .eraseRow _ => False
  | _ => True

/-- The rows of the missed calls that were stored after the last update. -/
def unreadSince (w : LogWorld) : List Row :=
  w.rows.filter fun row => row.isMissed && decide (w.unreadFrom ≤ row.id)

/-- The order that breaks ties by the number of the row, and then by the rest of it. -/
def newestById : NewestFirst where
  toRowOrder := RowOrder.ofKey
    (fun row => toLex (-row.createTime, toLex (row.id, toLex (row.phoneNumber,
      toLex (row.callDirection.ctorIdx, row.answerState.ctorIdx)))))
    (by
      rintro ⟨id, number, direction, state, time⟩ ⟨id', number', direction', state', time'⟩ h
      simp only [EmbeddingLike.apply_eq_iff_eq, Prod.mk.injEq, neg_inj] at h
      obtain ⟨rfl, rfl, rfl, hdirection, hstate⟩ := h
      obtain rfl : direction = direction' := by
        cases direction <;> cases direction' <;> first | rfl | cases hdirection
      obtain rfl : state = state' := by
        cases state <;> cases state' <;> first | rfl | cases hstate
      rfl)
  newest a b h := by
    have hle := Prod.Lex.toLex_le_toLex.mp (of_decide_eq_true h)
    simp only at hle
    omega

/-- What is announced of the rows: each number of theirs once, with their count. -/
def Announces (l : List Row) : Option (List ByteString × List ℕ) → Prop
  | none => ∀ row ∈ l, row.phoneNumber = []
  | some (numbers, counts) =>
    numbers.Nodup ∧
      (∀ number, number ∈ numbers ↔ number ≠ [] ∧ ∃ row ∈ l, row.phoneNumber = number) ∧
      counts = numbers.map fun number => l.countP fun row => row.phoneNumber == number

/-! ## Lemmas -/

namespace LogWorld

variable {db : Database} {w : LogWorld}

/-- Every row has a number of its own, and is in the log or was taken out of it. -/
structure Numbered (w : LogWorld) : Prop where
  distinct : (w.inserted.map (·.id)).Nodup
  ledger : (w.rows ++ w.cut ++ w.erased).Perm w.inserted

theorem Numbered.mem_inserted (h : Numbered w) {row : Row} (hrow : row ∈ w.rows) :
    row ∈ w.inserted :=
  h.ledger.mem_iff.mp (by simp [hrow])

theorem Numbered.eq_of_id (h : Numbered w) {row row' : Row} (hrow : row ∈ w.inserted)
    (hrow' : row' ∈ w.inserted) (hid : row.id = row'.id) : row = row' :=
  List.inj_on_of_nodup_map h.distinct hrow hrow' hid

theorem Numbered.nodup_inserted (h : Numbered w) : w.inserted.Nodup := h.distinct.of_map

theorem Numbered.nodup_rows (h : Numbered w) : w.rows.Nodup := by
  have hall := h.ledger.nodup_iff.mpr h.nodup_inserted
  exact (List.nodup_append.mp (List.nodup_append.mp hall).1).1

/-- A task that takes a step is one of the tasks. -/
theorem perm_cons_eraseIdx {α : Type*} {l : List α} {i : ℕ} {x : α} (h : l[i]? = some x) :
    l.Perm (x :: l.eraseIdx i) := by
  obtain ⟨hi, rfl⟩ := List.getElem?_eq_some_iff.mp h
  exact (List.getElem_cons_eraseIdx_perm hi).symm

/-- The rows with the number are taken out of a list and put behind it. -/
theorem filter_append_perm (l : List Row) (id : ℕ) :
    ((l.filter fun row => row.id ≠ id) ++ l.filter fun row => row.id = id).Perm l := by
  have h := List.filter_append_perm (fun row : Row => decide (row.id ≠ id)) l
  simpa using h

theorem delete_subset {id : ℕ} : db.delete id w.rows ⊆ w.rows := by
  rw [db.delete_eq]
  exact List.filter_subset_self _

/-! ### What a step does -/

theorem addCallLogInfo_cases (db : Database) (w : LogWorld) (call : Call) (isTransferCall : Bool)
    (info : CallRecordInfo) (ret : Bool) :
    w.addCallLogInfo db call isTransferCall info ret = w ∨
      ∃ row : Row, row.id = db.newId w.inserted ∧
        w.addCallLogInfo db call isTransferCall info ret = { w with
          rows := w.rows ++ [row]
          writers := ⟨call, row.isBlocked, none⟩ :: w.writers
          stored := w.stored ++ [call]
          inserted := w.inserted ++ [row] } := by
  unfold addCallLogInfo
  split_ifs
  · exact .inl rfl
  · exact .inl rfl
  · exact .inr ⟨_, rfl, rfl⟩

theorem deleteCallLogForLimit_cases (db : Database) (w : LogWorld) (task : ℕ) (order : NewestFirst)
    (answered : Bool) :
    w.deleteCallLogForLimit db task order answered = w ∨
      ∃ call isBlocked rest ids, w.writers.Perm (⟨call, isBlocked, none⟩ :: rest) ∧
        (ids = [] ∧ answered = false ∨ ids = (w.behindLimit db order isBlocked).map (·.id)) ∧
        w.deleteCallLogForLimit db task order answered =
          { w with writers := ⟨call, isBlocked, some ids⟩ :: rest } := by
  unfold deleteCallLogForLimit
  split
  · rename_i call isBlocked htask
    right
    refine ⟨call, isBlocked, _, _, perm_cons_eraseIdx htask, ?_, rfl⟩
    cases answered <;> simp
  · exact .inl rfl

theorem deleteNext_cases (db : Database) (w : LogWorld) (task : ℕ) (readable deleted : Bool) :
    w.deleteNext db task readable deleted = w ∨
      ∃ call isBlocked id ids rest,
        w.writers.Perm (⟨call, isBlocked, some (id :: ids)⟩ :: rest) ∧
        ((readable && deleted) = false ∧ w.deleteNext db task readable deleted =
            { w with writers := ⟨call, isBlocked, some ids⟩ :: rest } ∨
          w.deleteNext db task readable deleted = { w with
            rows := w.rows.filter fun row => row.id ≠ id
            writers := ⟨call, isBlocked, some ids⟩ :: rest
            cut := w.cut ++ w.rows.filter fun row => row.id = id }) := by
  unfold deleteNext
  split
  · rename_i call isBlocked id ids htask
    right
    refine ⟨call, isBlocked, id, ids, _, perm_cons_eraseIdx htask, ?_⟩
    cases hgone : readable && deleted
    · left
      simp
    · right
      simp [db.delete_eq]
  · exact .inl rfl

theorem queryEnd_cases (w : LogWorld) (task : ℕ) :
    w.queryEnd task = w ∨
      ∃ call isBlocked ids rest, w.writers[task]? = some ⟨call, isBlocked, some ids⟩ ∧
        w.writers.Perm (⟨call, isBlocked, some ids⟩ :: rest) ∧
        w.queryEnd task = { w with
          writers := rest
          published := w.published ++ missedIds [call] } := by
  unfold queryEnd
  split
  · rename_i call isBlocked ids htask
    right
    refine ⟨call, isBlocked, ids, _, htask, perm_cons_eraseIdx htask, ?_⟩
    by_cases hmissed : isMissedCall call <;> simp [missedIds, hmissed]
  · exact .inl rfl

theorem removeMissed_cases (db : Database) (w : LogWorld) (helper updated : Bool) :
    (w.removeMissedIncomingCallNotification db helper updated).2 = w ∨
      (w.removeMissedIncomingCallNotification db helper updated).2 = { w with
        readIds := db.update w.isUnreadMissed w.rows w.readIds
        unreadFrom := db.newId w.inserted } := by
  unfold removeMissedIncomingCallNotification
  split_ifs
  · exact .inl rfl
  · exact .inr rfl
  · exact .inl rfl

/-! ### The numbers of the rows -/

theorem Numbered.step (h : Numbered w) (op : LogOp) : Numbered (w.step db op) := by
  obtain ⟨hdistinct, hledger⟩ := h
  cases op with
  | addCallLogInfo call isTransferCall info ret =>
    show Numbered (w.addCallLogInfo db call isTransferCall info ret)
    obtain heq | ⟨row, hid, heq⟩ := addCallLogInfo_cases db w call isTransferCall info ret
    · rw [heq]
      exact ⟨hdistinct, hledger⟩
    · rw [heq]
      refine ⟨?_, ?_⟩
      · show ((w.inserted ++ [row]).map (·.id)).Nodup
        rw [List.map_append, List.nodup_append]
        refine ⟨hdistinct, by simp, ?_⟩
        intro i hi j hj
        obtain ⟨row', hrow', rfl⟩ := List.mem_map.mp hi
        have := db.newId_gt w.inserted row' hrow'
        simp at hj
        omega
      · show (w.rows ++ [row] ++ w.cut ++ w.erased).Perm (w.inserted ++ [row])
        refine List.Perm.trans ?_ (hledger.append_right [row])
        simp only [List.append_assoc]
        refine List.Perm.append_left w.rows ?_
        simpa using @List.perm_append_comm _ [row] (w.cut ++ w.erased)
  | deleteCallLogForLimit task order answered =>
    show Numbered (w.deleteCallLogForLimit db task order answered)
    obtain heq | ⟨call, isBlocked, rest, ids, -, -, heq⟩ :=
      deleteCallLogForLimit_cases db w task order answered <;> rw [heq] <;>
      exact ⟨hdistinct, hledger⟩
  | deleteNext task readable deleted =>
    show Numbered (w.deleteNext db task readable deleted)
    obtain heq | ⟨call, isBlocked, id, ids, rest, -, ⟨-, heq⟩ | heq⟩ :=
      deleteNext_cases db w task readable deleted <;> rw [heq]
    · exact ⟨hdistinct, hledger⟩
    · exact ⟨hdistinct, hledger⟩
    · refine ⟨hdistinct, List.Perm.trans ?_ hledger⟩
      refine List.Perm.append_right w.erased ?_
      refine List.Perm.trans ?_ ((filter_append_perm w.rows id).append_right w.cut)
      rw [List.append_assoc]
      exact List.Perm.append_left _ List.perm_append_comm
  | queryEnd task =>
    show Numbered (w.queryEnd task)
    obtain heq | ⟨call, isBlocked, ids, rest, -, -, heq⟩ := queryEnd_cases w task <;> rw [heq] <;>
      exact ⟨hdistinct, hledger⟩
  | removeMissedNotification helper updated =>
    show Numbered (w.removeMissedIncomingCallNotification db helper updated).2
    obtain heq | heq := removeMissed_cases db w helper updated <;> rw [heq] <;>
      exact ⟨hdistinct, hledger⟩
  | eraseRow id =>
    refine ⟨hdistinct, List.Perm.trans ?_ hledger⟩
    show (db.delete id w.rows ++ w.cut ++ (w.erased ++ w.rows.filter fun row => row.id = id)).Perm _
    rw [db.delete_eq]
    refine List.Perm.trans ?_
      (((filter_append_perm w.rows id).append_right w.cut).append_right w.erased)
    simp only [List.append_assoc]
    refine List.Perm.append_left _ ?_
    rw [← List.append_assoc]
    exact List.perm_append_comm.trans (by simp)

/-! ### What is deleted for the limit -/

theorem mem_classOf {l : List Row} {isBlocked : Bool} {row : Row} :
    row ∈ classOf l isBlocked ↔ row ∈ l ∧ row.isBlocked = isBlocked := by
  simp [classOf]

/-- The rows that a query gives have as many of their class ahead in the log. -/
theorem mem_behindLimit (h : Numbered w) {order : NewestFirst} {isBlocked : Bool} {row : Row} :
    row ∈ w.behindLimit db order isBlocked ↔
      (row ∈ w.rows ∧ row.isBlocked = isBlocked) ∧
        logLimitNum ≤ order.ahead (classOf w.rows isBlocked) row := by
  have hmem := RowOrder.mem_drop_sort_iff (r := order.toRowOrder) (x := row) (n := logLimitNum)
    (h.nodup_rows.filter fun row => row.isBlocked == isBlocked)
  rw [← mem_classOf, behindLimit, db.query_eq]
  exact hmem

/-- Every row on the list of a task, and every row deleted from one, has the property. -/
structure CutsOnly (P : List Row → Row → Prop) (w : LogWorld) : Prop where
  lists : ∀ t ∈ w.writers, ∀ ids ∈ t.resultSet, ∀ id ∈ ids,
    ∃ row ∈ w.inserted, row.id = id ∧ P w.inserted row
  cut : ∀ row ∈ w.cut, P w.inserted row

variable {P : List Row → Row → Prop}

/-- If a query gives only rows with a property that later rows cannot take away, only such rows
    are deleted. -/
theorem CutsOnly.step (hgrow : ∀ l new row, P l row → P (l ++ [new]) row) (hnum : Numbered w)
    (h : CutsOnly P w) (op : LogOp)
    (hquery : ∀ task order answered, op = .deleteCallLogForLimit task order answered →
      ∀ isBlocked, ∀ row ∈ w.behindLimit db order isBlocked, P w.inserted row) :
    CutsOnly P (w.step db op) := by
  obtain ⟨hlists, hcut⟩ := h
  cases op with
  | addCallLogInfo call isTransferCall info ret =>
    show CutsOnly P (w.addCallLogInfo db call isTransferCall info ret)
    obtain heq | ⟨row, -, heq⟩ := addCallLogInfo_cases db w call isTransferCall info ret
    · rw [heq]
      exact ⟨hlists, hcut⟩
    · rw [heq]
      refine ⟨?_, fun row' hrow' => hgrow _ _ _ (hcut row' hrow')⟩
      intro t ht ids hids id hid
      rcases List.mem_cons.mp ht with rfl | ht
      · simp at hids
      · obtain ⟨row', hrow', hid', hP⟩ := hlists t ht ids hids id hid
        exact ⟨row', List.mem_append_left _ hrow', hid', hgrow _ _ _ hP⟩
  | deleteCallLogForLimit task order answered =>
    show CutsOnly P (w.deleteCallLogForLimit db task order answered)
    obtain heq | ⟨call, isBlocked, rest, ids, hperm, hids, heq⟩ :=
      deleteCallLogForLimit_cases db w task order answered <;> rw [heq]
    · exact ⟨hlists, hcut⟩
    · refine ⟨?_, hcut⟩
      intro t ht ids' hids' id hid
      rcases List.mem_cons.mp ht with rfl | ht
      · obtain rfl : ids = ids' := by simpa using hids'
        obtain ⟨rfl, -⟩ | rfl := hids
        · simp at hid
        · obtain ⟨row, hrow, rfl⟩ := List.mem_map.mp hid
          have hrows : row ∈ w.rows := ((mem_behindLimit hnum).mp hrow).1.1
          exact ⟨row, hnum.mem_inserted hrows, rfl, hquery _ _ _ rfl isBlocked row hrow⟩
      · exact hlists t (hperm.mem_iff.mpr (List.mem_cons_of_mem _ ht)) ids' hids' id hid
  | deleteNext task readable deleted =>
    show CutsOnly P (w.deleteNext db task readable deleted)
    obtain heq | ⟨call, isBlocked, id, ids, rest, hperm, hcases⟩ :=
      deleteNext_cases db w task readable deleted
    · rw [heq]
      exact ⟨hlists, hcut⟩
    · have hlists' : ∀ t ∈ ⟨call, isBlocked, some ids⟩ :: rest, ∀ ids' ∈ t.resultSet, ∀ id' ∈ ids',
          ∃ row ∈ w.inserted, row.id = id' ∧ P w.inserted row := by
        intro t ht ids' hids' id' hid'
        rcases List.mem_cons.mp ht with rfl | ht
        · obtain rfl : ids = ids' := by simpa using hids'
          exact hlists _ (hperm.mem_iff.mpr List.mem_cons_self) (id :: ids) rfl id'
            (List.mem_cons_of_mem _ hid')
        · exact hlists t (hperm.mem_iff.mpr (List.mem_cons_of_mem _ ht)) ids' hids' id' hid'
      obtain ⟨-, heq⟩ | heq := hcases <;> rw [heq]
      · exact ⟨hlists', hcut⟩
      · refine ⟨hlists', ?_⟩
        intro row hrow
        rcases List.mem_append.mp hrow with hrow | hrow
        · exact hcut row hrow
        · obtain ⟨hrows, hid⟩ := List.mem_filter.mp hrow
          obtain ⟨row', hrow', hid', hP⟩ := hlists _ (hperm.mem_iff.mpr List.mem_cons_self)
            (id :: ids) rfl id List.mem_cons_self
          have heq' := hnum.eq_of_id (hnum.mem_inserted hrows) hrow' (by simpa [hid'] using hid)
          rw [heq']
          exact hP
  | queryEnd task =>
    show CutsOnly P (w.queryEnd task)
    obtain heq | ⟨call, isBlocked, ids, rest, -, hperm, heq⟩ := queryEnd_cases w task <;> rw [heq]
    · exact ⟨hlists, hcut⟩
    · exact ⟨fun t ht => hlists t (hperm.mem_iff.mpr (List.mem_cons_of_mem _ ht)), hcut⟩
  | removeMissedNotification helper updated =>
    show CutsOnly P (w.removeMissedIncomingCallNotification db helper updated).2
    obtain heq | heq := removeMissed_cases db w helper updated <;> rw [heq] <;> exact ⟨hlists, hcut⟩
  | eraseRow id => exact ⟨hlists, hcut⟩

theorem Overtaken.append {l : List Row} {row : Row} (h : Overtaken l row) (new : Row) :
    Overtaken (l ++ [new]) row := by
  unfold Overtaken at h ⊢
  rw [List.countP_append]
  omega

/-- What is ahead of a row in the order of the database is another row and not older. -/
theorem overtaken_of_ahead (h : Numbered w) {order : NewestFirst} {row : Row}
    (hrow : logLimitNum ≤ order.ahead (classOf w.rows row.isBlocked) row) :
    Overtaken w.inserted row := by
  refine le_trans hrow ?_
  have hsub : classOf w.rows row.isBlocked ⊆ classOf w.inserted row.isBlocked := by
    intro other hother
    obtain ⟨hmem, hclass⟩ := mem_classOf.mp hother
    exact mem_classOf.mpr ⟨h.mem_inserted hmem, hclass⟩
  refine le_trans (RowOrder.ahead_le_of_subset (h.nodup_rows.filter _) hsub) ?_
  show ((w.inserted.filter _).countP _) ≤ _
  rw [List.countP_filter]
  apply List.countP_mono_left
  intro other _ hother
  simp only [Bool.and_eq_true, Bool.not_eq_true'] at hother
  obtain ⟨hle, hclass⟩ := hother
  have hnewest := order.newest other row (RowOrder.le_of_not_le hle)
  have hne : other ≠ row := by
    rintro rfl
    have := order.total other other
    simp [hle] at this
  simp only [Bool.and_eq_true, decide_eq_true_eq, bne_iff_ne]
  exact ⟨⟨hclass, hne⟩, hnewest⟩

/-! ### The missed calls -/

theorem missedIds_append (l l' : List Call) :
    missedIds (l ++ l') = missedIds l ++ missedIds l' := by
  simp [missedIds]

theorem missedIds_perm {l l' : List Call} (h : l.Perm l') : (missedIds l).Perm (missedIds l') :=
  (h.filter _).map _

/-- The missed calls with a row have been published, or their task is under way. -/
def MissedOnce (w : LogWorld) : Prop :=
  (w.published ++ missedIds (w.writers.map (·.call))).Perm (missedIds w.stored)

theorem MissedOnce.step (h : MissedOnce w) (op : LogOp) : MissedOnce (w.step db op) := by
  have hkeep {writers : List Writer}
      (hcalls : (w.writers.map (·.call)).Perm (writers.map (·.call))) :
      (w.published ++ missedIds (writers.map (·.call))).Perm (missedIds w.stored) :=
    List.Perm.trans ((missedIds_perm hcalls).symm.append_left w.published) h
  cases op with
  | addCallLogInfo call isTransferCall info ret =>
    show MissedOnce (w.addCallLogInfo db call isTransferCall info ret)
    obtain heq | ⟨row, -, heq⟩ := addCallLogInfo_cases db w call isTransferCall info ret <;> rw [heq]
    · exact h
    · show (w.published ++ missedIds ([call] ++ w.writers.map (·.call))).Perm
        (missedIds (w.stored ++ [call]))
      rw [missedIds_append, missedIds_append]
      refine List.Perm.trans ?_ (h.append_right _)
      rw [List.append_assoc]
      exact List.perm_append_comm.append_left _
  | deleteCallLogForLimit task order answered =>
    show MissedOnce (w.deleteCallLogForLimit db task order answered)
    obtain heq | ⟨call, isBlocked, rest, ids, hperm, -, heq⟩ :=
      deleteCallLogForLimit_cases db w task order answered <;> rw [heq]
    · exact h
    · exact hkeep (hperm.map _)
  | deleteNext task readable deleted =>
    show MissedOnce (w.deleteNext db task readable deleted)
    obtain heq | ⟨call, isBlocked, id, ids, rest, hperm, ⟨-, heq⟩ | heq⟩ :=
      deleteNext_cases db w task readable deleted <;> rw [heq]
    · exact h
    · exact hkeep (hperm.map _)
    · exact hkeep (hperm.map _)
  | queryEnd task =>
    show MissedOnce (w.queryEnd task)
    obtain heq | ⟨call, isBlocked, ids, rest, -, hperm, heq⟩ := queryEnd_cases w task <;> rw [heq]
    · exact h
    · show (w.published ++ missedIds [call] ++ missedIds (rest.map (·.call))).Perm _
      rw [List.append_assoc, ← missedIds_append]
      exact hkeep (hperm.map (·.call))
  | removeMissedNotification helper updated =>
    show MissedOnce (w.removeMissedIncomingCallNotification db helper updated).2
    obtain heq | heq := removeMissed_cases db w helper updated <;> rw [heq] <;> exact h
  | eraseRow id => exact h

/-! ### The bound -/

/-- A task is to delete the row. -/
def Listed (writers : List Writer) (row : Row) : Prop :=
  ∃ t ∈ writers, ∃ ids ∈ t.resultSet, row.id ∈ ids

/-- The tasks of a class that have not asked for its rows yet. -/
def toQuery (writers : List Writer) (isBlocked : Bool) : ℕ :=
  writers.countP fun t => t.isBlocked == isBlocked && t.resultSet.isNone

theorem listed_perm {writers writers' : List Writer} (h : writers.Perm writers') {row : Row} :
    Listed writers row ↔ Listed writers' row :=
  exists_congr fun _ => and_congr_left fun _ => h.mem_iff

theorem listed_cons {t : Writer} {writers : List Writer} {row : Row} :
    Listed (t :: writers) row ↔ (∃ ids ∈ t.resultSet, row.id ∈ ids) ∨ Listed writers row := by
  simp [Listed]

theorem toQuery_perm {writers writers' : List Writer} (h : writers.Perm writers')
    (isBlocked : Bool) : toQuery writers isBlocked = toQuery writers' isBlocked := h.countP_eq _

@[simp] theorem toQuery_cons_none (call : Call) (asked isBlocked : Bool) (writers : List Writer) :
    toQuery (⟨call, asked, none⟩ :: writers) isBlocked =
      toQuery writers isBlocked + if asked = isBlocked then 1 else 0 := by
  simp [toQuery, List.countP_cons]

@[simp] theorem toQuery_cons_some (call : Call) (asked isBlocked : Bool) (ids : List ℕ)
    (writers : List Writer) :
    toQuery (⟨call, asked, some ids⟩ :: writers) isBlocked = toQuery writers isBlocked := by
  simp [toQuery]

/-- Among the rows of a class that no task is to delete there are at most 5000, but for one for
    each task that has not asked yet. -/
def Bounded (w : LogWorld) : Prop :=
  ∀ isBlocked, ∀ l : List Row, l.Nodup → l ⊆ classOf w.rows isBlocked →
    (∀ row ∈ l, ¬ Listed w.writers row) → l.length ≤ logLimitNum + toQuery w.writers isBlocked

/-- The rows of a class that a query does not give are at most 5000. -/
theorem length_le_of_not_behind {order : NewestFirst} {isBlocked : Bool}
    {l : List Row} (hnodup : l.Nodup) (hsub : l ⊆ classOf w.rows isBlocked)
    (hnot : ∀ row ∈ l, row ∉ w.behindLimit db order isBlocked) : l.length ≤ logLimitNum := by
  have hsorted := order.sort_perm (classOf w.rows isBlocked)
  have hsub' : l ⊆ (order.sort (classOf w.rows isBlocked)).take logLimitNum := by
    intro row hrow
    have hmem := hsorted.mem_iff.mpr (hsub hrow)
    rw [← List.take_append_drop logLimitNum (order.sort (classOf w.rows isBlocked))] at hmem
    rcases List.mem_append.mp hmem with hmem | hmem
    · exact hmem
    · refine absurd ?_ (hnot row hrow)
      rw [behindLimit, db.query_eq]
      exact hmem
  calc l.length ≤ _ := (List.subperm_of_subset hnodup hsub').length_le
    _ ≤ logLimitNum := List.length_take_le _ _

theorem Bounded.step (h : Bounded w) (op : LogOp) (hop : Succeeds w op) :
    Bounded (w.step db op) := by
  cases op with
  | addCallLogInfo call isTransferCall info ret =>
    show Bounded (w.addCallLogInfo db call isTransferCall info ret)
    obtain heq | ⟨row, -, heq⟩ := addCallLogInfo_cases db w call isTransferCall info ret <;> rw [heq]
    · exact h
    · intro isBlocked l hnodup hsub hnot
      have hnot' : ∀ row' ∈ l, ¬ Listed w.writers row' := by
        intro row' hrow' hlisted
        exact hnot row' hrow' (listed_cons.mpr (.inr hlisted))
      show l.length ≤ _ + toQuery (⟨call, row.isBlocked, none⟩ :: w.writers) isBlocked
      rw [toQuery_cons_none]
      have hsub' : l.erase row ⊆ classOf w.rows isBlocked := by
        intro row' hrow'
        obtain ⟨hne, hmem⟩ := (List.Nodup.mem_erase_iff hnodup).mp hrow'
        obtain ⟨hrows, hclass⟩ := mem_classOf.mp (hsub hmem)
        rcases List.mem_append.mp hrows with hrows | hrows
        · exact mem_classOf.mpr ⟨hrows, hclass⟩
        · exact absurd (List.mem_singleton.mp hrows) hne
      have hle := h isBlocked (l.erase row) (hnodup.erase row) hsub'
        fun row' hrow' => hnot' row' (List.mem_of_mem_erase hrow')
      by_cases hrow : row ∈ l
      · have hclass : row.isBlocked = isBlocked := (mem_classOf.mp (hsub hrow)).2
        rw [List.length_erase_of_mem hrow] at hle
        rw [if_pos hclass]
        omega
      · rw [List.erase_of_not_mem hrow] at hle
        omega
  | deleteCallLogForLimit task order answered =>
    show Bounded (w.deleteCallLogForLimit db task order answered)
    obtain heq | ⟨call, asked, rest, ids, hperm, hids, heq⟩ :=
      deleteCallLogForLimit_cases db w task order answered <;> rw [heq]
    · exact h
    · obtain rfl : answered = true := hop
      obtain rfl : ids = (w.behindLimit db order asked).map (·.id) := by simpa using hids
      intro isBlocked l hnodup hsub hnot
      by_cases hclass : isBlocked = asked
      · subst hclass
        have hle := length_le_of_not_behind (w := w) hnodup hsub fun row hrow hmem =>
          hnot row hrow (listed_cons.mpr (.inl ⟨_, rfl, List.mem_map_of_mem hmem⟩))
        omega
      · have hle := h isBlocked l hnodup hsub fun row hrow hlisted => by
          apply hnot row hrow
          rw [listed_perm hperm, listed_cons] at hlisted
          exact listed_cons.mpr (.inr (by simpa using hlisted))
        rw [toQuery_perm hperm, toQuery_cons_none, if_neg (Ne.symm hclass)] at hle
        show l.length ≤ _ + toQuery (_ :: rest) isBlocked
        rw [toQuery_cons_some]
        exact hle
  | deleteNext task readable deleted =>
    show Bounded (w.deleteNext db task readable deleted)
    obtain heq | ⟨call, asked, id, ids, rest, hperm, ⟨hgone, heq⟩ | heq⟩ :=
      deleteNext_cases db w task readable deleted <;> rw [heq]
    · exact h
    · obtain ⟨rfl, rfl⟩ := hop
      simp at hgone
    · intro isBlocked l hnodup hsub hnot
      have hmem : ∀ row ∈ l, row ∈ classOf w.rows isBlocked ∧ row.id ≠ id := by
        intro row hrow
        obtain ⟨hrows, hclass⟩ := mem_classOf.mp (hsub hrow)
        obtain ⟨hrows, hid⟩ := List.mem_filter.mp hrows
        exact ⟨mem_classOf.mpr ⟨hrows, hclass⟩, by simpa using hid⟩
      have hsub' : l ⊆ classOf w.rows isBlocked := fun row hrow => (hmem row hrow).1
      have hle := h isBlocked l hnodup hsub' fun row hrow hlisted => by
        apply hnot row hrow
        have hne := (hmem row hrow).2
        rw [listed_perm hperm, listed_cons] at hlisted
        refine listed_cons.mpr ?_
        simpa [hne] using hlisted
      rw [toQuery_perm hperm, toQuery_cons_some] at hle
      show l.length ≤ _ + toQuery (_ :: rest) isBlocked
      rw [toQuery_cons_some]
      exact hle
  | queryEnd task =>
    show Bounded (w.queryEnd task)
    obtain heq | ⟨call, asked, ids, rest, htask, hperm, heq⟩ := queryEnd_cases w task <;> rw [heq]
    · exact h
    · obtain rfl : ids = [] := by
        have := hop _ htask
        simpa using this
      intro isBlocked l hnodup hsub hnot
      have hle := h isBlocked l hnodup hsub fun row hrow hlisted => by
        apply hnot row hrow
        rw [listed_perm hperm, listed_cons] at hlisted
        simpa using hlisted
      rw [toQuery_perm hperm, toQuery_cons_some] at hle
      exact hle
  | removeMissedNotification helper updated =>
    show Bounded (w.removeMissedIncomingCallNotification db helper updated).2
    obtain heq | heq := removeMissed_cases db w helper updated <;> rw [heq] <;> exact h
  | eraseRow id =>
    intro isBlocked l hnodup hsub hnot
    refine h isBlocked l hnodup (fun row hrow => ?_) hnot
    obtain ⟨hrows, hclass⟩ := mem_classOf.mp (hsub hrow)
    exact mem_classOf.mpr ⟨delete_subset hrows, hclass⟩

/-! ### The newest rows -/

variable {order : NewestFirst}

/-- At least 5000 rows of its class come before the row. -/
def Behind (order : NewestFirst) (l : List Row) (row : Row) : Prop :=
  logLimitNum ≤ order.ahead (classOf l row.isBlocked) row

theorem Behind.mono {l l' : List Row} {row : Row} (hnodup : l.Nodup) (hsub : l ⊆ l')
    (h : Behind order l row) : Behind order l' row := by
  refine le_trans h (RowOrder.ahead_le_of_subset (hnodup.filter _) ?_)
  intro other hother
  obtain ⟨hmem, hclass⟩ := mem_classOf.mp hother
  exact mem_classOf.mpr ⟨hsub hmem, hclass⟩

theorem Behind.append {l : List Row} {row : Row} (h : Behind order l row) (new : Row) :
    Behind order (l ++ [new]) row := by
  unfold Behind classOf RowOrder.ahead at h ⊢
  rw [List.filter_append, List.countP_append]
  omega

/-- A row of the other class changes nothing. -/
theorem behind_append_iff {l : List Row} {row new : Row} (hne : new.isBlocked ≠ row.isBlocked) :
    Behind order (l ++ [new]) row ↔ Behind order l row := by
  simp [Behind, classOf, List.filter_append, hne]

/-- Every row that is not among the newest of its class is on the list of a task, or a task
    is to ask for it. -/
structure Covered (order : NewestFirst) (w : LogWorld) : Prop where
  cuts : CutsOnly (Behind order) w
  notErased : w.erased = []
  covered : ∀ row ∈ w.rows, Behind order w.inserted row →
    Listed w.writers row ∨ 0 < toQuery w.writers row.isBlocked

/-- The newest rows of each class are in the log. -/
theorem Covered.kept (hnum : Numbered w) (h : Covered order w) {row : Row}
    (hrow : row ∈ w.inserted) (hnot : ¬ Behind order w.inserted row) : row ∈ w.rows := by
  have hmem := hnum.ledger.mem_iff.mpr hrow
  rw [h.notErased, List.append_nil] at hmem
  rcases List.mem_append.mp hmem with hmem | hmem
  · exact hmem
  · exact absurd (h.cuts.cut row hmem) hnot

theorem Covered.behind_rows (hnum : Numbered w) (h : Covered order w) {row : Row}
    (hrow : row ∈ w.rows) (hbehind : Behind order w.inserted row) : Behind order w.rows row := by
  refine RowOrder.le_ahead_of_first (hnum.nodup_inserted.filter _) ?_
    (mem_classOf.mpr ⟨hnum.mem_inserted hrow, rfl⟩) hbehind
  intro other hother hlt
  obtain ⟨hmem, hclass⟩ := mem_classOf.mp hother
  refine mem_classOf.mpr ⟨h.kept hnum hmem ?_, hclass⟩
  intro hle
  unfold Behind at hle
  rw [hclass] at hle
  exact absurd hlt (not_lt.mpr hle)

theorem erased_step {op : LogOp} (horder : Undisturbed order op) :
    (w.step db op).erased = w.erased := by
  cases op with
  | addCallLogInfo call isTransferCall info ret =>
    show (w.addCallLogInfo db call isTransferCall info ret).erased = _
    obtain heq | ⟨new, -, heq⟩ := addCallLogInfo_cases db w call isTransferCall info ret <;> rw [heq]
  | deleteCallLogForLimit task o answered =>
    show (w.deleteCallLogForLimit db task o answered).erased = _
    obtain heq | ⟨call, asked, rest, ids, -, -, heq⟩ :=
      deleteCallLogForLimit_cases db w task o answered <;> rw [heq]
  | deleteNext task readable deleted =>
    show (w.deleteNext db task readable deleted).erased = _
    obtain heq | ⟨call, asked, id, ids, rest, -, ⟨-, heq⟩ | heq⟩ :=
      deleteNext_cases db w task readable deleted <;> rw [heq]
  | queryEnd task =>
    show (w.queryEnd task).erased = _
    obtain heq | ⟨call, asked, ids, rest, -, -, heq⟩ := queryEnd_cases w task <;> rw [heq]
  | removeMissedNotification helper updated =>
    show (w.removeMissedIncomingCallNotification db helper updated).2.erased = _
    obtain heq | heq := removeMissed_cases db w helper updated <;> rw [heq]
  | eraseRow id => exact horder.elim

theorem Covered.step (hnum : Numbered w) (h : Covered order w) (op : LogOp)
    (hop : Succeeds w op) (horder : Undisturbed order op) : Covered order (w.step db op) := by
  have hcuts : CutsOnly (Behind order) (w.step db op) := by
    refine h.cuts.step (fun _ new _ hbehind => hbehind.append new) hnum op ?_
    rintro task o answered rfl isBlocked row hrow
    obtain rfl : o = order := horder
    obtain ⟨⟨hmem, rfl⟩, hbehind⟩ := (mem_behindLimit hnum).mp hrow
    exact Behind.mono hnum.nodup_rows (fun _ => hnum.mem_inserted) hbehind
  refine ⟨hcuts, (erased_step horder).trans h.notErased, ?_⟩
  cases op with
  | addCallLogInfo call isTransferCall info ret =>
    show ∀ row ∈ (w.addCallLogInfo db call isTransferCall info ret).rows, _
    obtain heq | ⟨new, -, heq⟩ := addCallLogInfo_cases db w call isTransferCall info ret
    · simp only [LogWorld.step, heq]
      exact h.covered
    · simp only [LogWorld.step, heq, toQuery_cons_none, listed_cons]
      intro row hrow hbehind
      by_cases hclass : new.isBlocked = row.isBlocked
      · right
        simp [hclass]
      · rw [behind_append_iff hclass] at hbehind
        have hmem : row ∈ w.rows := by
          rcases List.mem_append.mp hrow with hrow | hrow
          · exact hrow
          · obtain rfl := List.mem_singleton.mp hrow
            exact absurd rfl hclass
        rcases h.covered row hmem hbehind with hlisted | htask
        · exact .inl (.inr hlisted)
        · right
          omega
  | deleteCallLogForLimit task o answered =>
    obtain rfl : o = order := horder
    obtain rfl : answered = true := hop
    show ∀ row ∈ (w.deleteCallLogForLimit db task o true).rows, _
    obtain heq | ⟨call, asked, rest, ids, hperm, hids, heq⟩ :=
      deleteCallLogForLimit_cases db w task o true
    · simp only [LogWorld.step, heq]
      exact h.covered
    · obtain rfl : ids = (w.behindLimit db o asked).map (·.id) := by simpa using hids
      simp only [LogWorld.step, heq, toQuery_cons_some, listed_cons]
      intro row hrow hbehind
      by_cases hclass : row.isBlocked = asked
      · have hmem : row ∈ w.behindLimit db o asked := by
          subst hclass
          exact (mem_behindLimit hnum).mpr ⟨⟨hrow, rfl⟩, h.behind_rows hnum hrow hbehind⟩
        exact .inl (.inl ⟨_, rfl, List.mem_map_of_mem hmem⟩)
      · have hold := h.covered row hrow hbehind
        rw [listed_perm hperm, listed_cons, toQuery_perm hperm, toQuery_cons_none,
          if_neg (Ne.symm hclass)] at hold
        rcases hold with (⟨_, hnone, -⟩ | hlisted) | htask
        · simp at hnone
        · exact .inl (.inr hlisted)
        · exact .inr htask
  | deleteNext task readable deleted =>
    obtain ⟨rfl, rfl⟩ := hop
    show ∀ row ∈ (w.deleteNext db task true true).rows, _
    obtain heq | ⟨call, asked, id, ids, rest, hperm, ⟨hgone, -⟩ | heq⟩ :=
      deleteNext_cases db w task true true
    · simp only [LogWorld.step, heq]
      exact h.covered
    · simp at hgone
    · simp only [LogWorld.step, heq, toQuery_cons_some, listed_cons]
      intro row hrow hbehind
      obtain ⟨hmem, hne⟩ := List.mem_filter.mp hrow
      have hold := h.covered row hmem hbehind
      rw [listed_perm hperm, listed_cons, toQuery_perm hperm, toQuery_cons_some] at hold
      have hne : row.id ≠ id := by simpa using hne
      simpa [hne] using hold
  | queryEnd task =>
    show ∀ row ∈ (w.queryEnd task).rows, _
    obtain heq | ⟨call, asked, ids, rest, htask, hperm, heq⟩ := queryEnd_cases w task
    · simp only [LogWorld.step, heq]
      exact h.covered
    · obtain rfl : ids = [] := by
        have := hop _ htask
        simpa using this
      simp only [LogWorld.step, heq]
      intro row hrow hbehind
      have hold := h.covered row hrow hbehind
      rw [listed_perm hperm, listed_cons, toQuery_perm hperm, toQuery_cons_some] at hold
      simpa using hold
  | removeMissedNotification helper updated =>
    show ∀ row ∈ (w.removeMissedIncomingCallNotification db helper updated).2.rows, _
    obtain heq | heq := removeMissed_cases db w helper updated <;>
      simp only [LogWorld.step, heq] <;> exact h.covered
  | eraseRow id => exact horder.elim

/-! ### The unread missed calls -/

/-- The missed calls that are read are those stored before the last update. -/
structure ReadUpTo (db : Database) (w : LogWorld) : Prop where
  read : ∀ row ∈ w.rows, row.isMissed → (row.id ∈ w.readIds ↔ row.id < w.unreadFrom)
  given : ∀ id ∈ w.readIds, id < db.newId w.inserted
  from_le : w.unreadFrom ≤ db.newId w.inserted

theorem ReadUpTo.of_rows (h : ReadUpTo db w) {w' : LogWorld} (hsub : w'.rows ⊆ w.rows)
    (hread : w'.readIds = w.readIds) (hinserted : w'.inserted = w.inserted)
    (hfrom : w'.unreadFrom = w.unreadFrom) : ReadUpTo db w' := by
  refine ⟨?_, ?_, ?_⟩
  · intro row hrow
    rw [hread, hfrom]
    exact h.read row (hsub hrow)
  · rw [hread, hinserted]
    exact h.given
  · rw [hfrom, hinserted]
    exact h.from_le

theorem ReadUpTo.step (hnum : Numbered w) (h : ReadUpTo db w) (op : LogOp) :
    ReadUpTo db (w.step db op) := by
  cases op with
  | addCallLogInfo call isTransferCall info ret =>
    show ReadUpTo db (w.addCallLogInfo db call isTransferCall info ret)
    obtain heq | ⟨new, hid, heq⟩ := addCallLogInfo_cases db w call isTransferCall info ret <;> rw [heq]
    · exact h
    · have hgt : new.id < db.newId (w.inserted ++ [new]) := db.newId_gt _ new (by simp)
      refine ⟨?_, ?_, ?_⟩
      · intro row hrow hmissed
        rcases List.mem_append.mp hrow with hrow | hrow
        · exact h.read row hrow hmissed
        · obtain rfl := List.mem_singleton.mp hrow
          have hle := h.from_le
          have hnot : row.id ∉ w.readIds := fun hmem => absurd (h.given _ hmem) (by omega)
          show row.id ∈ w.readIds ↔ row.id < w.unreadFrom
          simp only [hnot, false_iff]
          omega
      · intro id hid'
        have := h.given id hid'
        show id < db.newId (w.inserted ++ [new])
        omega
      · have := h.from_le
        show w.unreadFrom ≤ db.newId (w.inserted ++ [new])
        omega
  | deleteCallLogForLimit task order answered =>
    show ReadUpTo db (w.deleteCallLogForLimit db task order answered)
    obtain heq | ⟨call, asked, rest, ids, -, -, heq⟩ :=
      deleteCallLogForLimit_cases db w task order answered <;> rw [heq]
    · exact h
    · exact h.of_rows (fun _ hrow => hrow) rfl rfl rfl
  | deleteNext task readable deleted =>
    show ReadUpTo db (w.deleteNext db task readable deleted)
    obtain heq | ⟨call, asked, id, ids, rest, -, ⟨-, heq⟩ | heq⟩ :=
      deleteNext_cases db w task readable deleted <;> rw [heq]
    · exact h
    · exact h.of_rows (fun _ hrow => hrow) rfl rfl rfl
    · exact h.of_rows (List.filter_subset_self _) rfl rfl rfl
  | queryEnd task =>
    show ReadUpTo db (w.queryEnd task)
    obtain heq | ⟨call, asked, ids, rest, -, -, heq⟩ := queryEnd_cases w task <;> rw [heq]
    · exact h
    · exact h.of_rows (fun _ hrow => hrow) rfl rfl rfl
  | removeMissedNotification helper updated =>
    show ReadUpTo db (w.removeMissedIncomingCallNotification db helper updated).2
    obtain heq | heq := removeMissed_cases db w helper updated <;> rw [heq]
    · exact h
    · refine ⟨?_, ?_, le_rfl⟩
      · intro row hrow hmissed
        have hlt := db.newId_gt w.inserted row (hnum.mem_inserted hrow)
        refine iff_of_true ((db.mem_update _ _ _ _).mpr ?_) hlt
        by_cases hread : row.id ∈ w.readIds
        · exact .inl hread
        · exact .inr ⟨row, hrow, by simp [isUnreadMissed, hmissed, hread], rfl⟩
      · intro id hid
        rcases (db.mem_update _ _ _ _).mp hid with hid | ⟨row, hrow, -, rfl⟩
        · exact h.given id hid
        · exact db.newId_gt w.inserted row (hnum.mem_inserted hrow)
  | eraseRow id => exact h.of_rows delete_subset rfl rfl rfl

theorem unreadMissed_eq (h : ReadUpTo db w) : w.unreadMissed = unreadSince w := by
  apply List.filter_congr
  intro row hrow
  unfold isUnreadMissed
  by_cases hmissed : row.isMissed
  · have := h.read row hrow hmissed
    simp [hmissed, this]
  · simp [hmissed]

/-- The numbers that the loop counts. -/
def numbersOf (readable : Row → Bool) (l : List Row) : List ByteString :=
  ((l.filter readable).map (·.phoneNumber)).filter fun number => number != []

theorem foldl_countNumber (readable : Row → Bool) (l : List Row) (map : SortedMap ByteString ℕ) :
    l.foldl (countNumber readable) map = (numbersOf readable l).foldl SortedMap.increment map := by
  induction l generalizing map with
  | nil => rfl
  | cons row l ih =>
    rw [List.foldl_cons, ih]
    by_cases hread : readable row
    · by_cases hne : row.phoneNumber = []
      · simp [numbersOf, countNumber, hread, hne]
      · have hstep : countNumber readable map row = map.increment row.phoneNumber := by
          cases hlook : map.lookup row.phoneNumber <;>
            simp [countNumber, SortedMap.increment, hread, hne, hlook]
        simp [numbersOf, hstep, hread, hne]
    · simp [numbersOf, countNumber, hread]

theorem mem_numbersOf {readable : Row → Bool} {l : List Row} {number : ByteString} :
    number ∈ numbersOf readable l ↔
      number ≠ [] ∧ ∃ row ∈ l.filter readable, row.phoneNumber = number := by
  simp only [numbersOf, List.mem_filter, List.mem_map, bne_iff_ne]
  tauto

theorem count_numbersOf {readable : Row → Bool} {l : List Row} {number : ByteString}
    (hne : number ≠ []) :
    (numbersOf readable l).count number =
      (l.filter readable).countP fun row => row.phoneNumber == number := by
  rw [numbersOf, List.count_filter (by simpa using hne), List.count, List.countP_map]
  rfl

/-- The announcement is that of the unread rows whose number can be read. -/
theorem announces_query (w : LogWorld) (readable : Row → Bool) :
    Announces (w.unreadMissed.filter readable)
      (w.queryAndNotifyUnReadMissedCall true readable) := by
  unfold queryAndNotifyUnReadMissedCall
  simp only [if_true, foldl_countNumber]
  have hkeys {number : ByteString} :
      number ∈ ((numbersOf readable w.unreadMissed).foldl SortedMap.increment
        SortedMap.empty).entries.map (·.1) ↔ _ :=
    SortedMap.mem_keys_counts.trans mem_numbersOf
  split_ifs with hempty
  · intro row hrow
    by_contra hne
    have hmem := hkeys.mpr ⟨hne, row, hrow, rfl⟩
    rw [List.isEmpty_iff.mp hempty] at hmem
    simp at hmem
  · refine ⟨SortedMap.nodup_keys _, fun number => hkeys, ?_⟩
    conv_lhs => rw [SortedMap.entries_counts, List.map_map]
    apply List.map_congr_left
    intro number hnumber
    show (numbersOf readable w.unreadMissed).count number = _
    exact count_numbersOf (hkeys.mp hnumber).1

/-! ### Tasks that overlap -/

/-- A database that takes the next number behind the largest. -/
def autoIncrement : Database where
  newId inserted := inserted.foldr (fun row next => max (row.id + 1) next) 0
  newId_gt inserted row hrow := by
    induction inserted with
    | nil => simp at hrow
    | cons first inserted ih =>
      rw [List.foldr_cons]
      rcases List.mem_cons.mp hrow with rfl | hrow
      · omega
      · have := ih hrow
        omega
  query selects order offset rows := (order.sort (rows.filter selects)).drop offset
  query_eq _ _ _ _ := rfl
  delete id rows := rows.filter fun row => row.id ≠ id
  delete_eq _ _ := rfl
  update selects rows readIds := readIds ++ (rows.filter selects).map (·.id)
  mem_update selects rows readIds id := by simp [and_assoc]

/-- The task of a call that lasted a minute. -/
def minuteTask (resultSet : Option (List ℕ)) : Writer :=
  ⟨CallRecords.minuteCall [], false, resultSet⟩

/-- The row of such a call is stored. -/
def storeMinute : LogOp := .addCallLogInfo (CallRecords.minuteCall []) false {} true

/-- One call more than the limit is stored before a task asks; then two ask. -/
def crowd : List LogOp :=
  List.replicate (logLimitNum + 1) storeMinute ++
    [.deleteCallLogForLimit 0 newestById true, .deleteCallLogForLimit 1 newestById true]

/-- Both delete the row behind the limit, and the other tasks ask one after the other. -/
def crowded : List LogOp :=
  crowd ++ ([.deleteNext 0 true true, .deleteNext 1 true true, .queryEnd 0, .queryEnd 0] ++
    (List.replicate (logLimitNum - 1)
      [.deleteCallLogForLimit 0 newestById true, .queryEnd 0]).flatten)

/-- The tasks have stored the rows and not asked for them yet. -/
structure Stored (n : ℕ) (w : LogWorld) : Prop where
  writers : w.writers = List.replicate n (minuteTask none)
  rows : w.rows = w.inserted
  length : w.inserted.length = n
  unblocked : ∀ row ∈ w.inserted, row.isBlocked = false

theorem Stored.step (db : Database) {n : ℕ} (h : Stored n w) :
    Stored (n + 1) (w.step db storeMinute) := by
  obtain ⟨hwriters, hrows, hlength, hunblocked⟩ := h
  refine ⟨?_, ?_, ?_, ?_⟩
  · show minuteTask none :: w.writers = _
    rw [hwriters]
    rfl
  · show w.rows ++ [_] = w.inserted ++ [_]
    rw [hrows]
  · show (w.inserted ++ [_]).length = n + 1
    rw [List.length_append, hlength]
    rfl
  · intro row hrow
    rcases List.mem_append.mp hrow with hrow | hrow
    · exact hunblocked row hrow
    · obtain rfl := List.mem_singleton.mp hrow
      rfl

/-- The condition on the steps of the run. -/
def Undisturbedly (w : LogWorld) (op : LogOp) : Prop := Succeeds w op ∧ Undisturbed newestById op

theorem stored_run (db : Database) (m : ℕ) {n : ℕ} (h : Stored n w) :
    Stored (n + m) (Run.run (LogWorld.step db) w (List.replicate m storeMinute)) ∧
      Run.StepsMeet (LogWorld.step db) Undisturbedly w (List.replicate m storeMinute) := by
  induction m generalizing n w with
  | zero => exact ⟨h, trivial⟩
  | succ m ih =>
    obtain ⟨hstored, hmeet⟩ := ih (h.step db)
    refine ⟨?_, ⟨trivial, trivial⟩, hmeet⟩
    rw [show n + (m + 1) = n + 1 + m by omega]
    exact hstored

theorem Stored.classOf_rows {n : ℕ} (h : Stored n w) : classOf w.rows false = w.inserted := by
  rw [h.rows]
  refine List.filter_eq_self.mpr fun row hrow => ?_
  rw [h.unblocked row hrow]
  rfl

/-- The database gives what is behind the limit. -/
theorem length_behindLimit (w : LogWorld) :
    (w.behindLimit db newestById false).length = (classOf w.rows false).length - logLimitNum := by
  rw [behindLimit, db.query_eq, List.length_drop, (newestById.sort_perm _).length_eq]
  rfl

/-- The tasks that have not asked yet, once no more rows than the limit are left. -/
structure Draining (n : ℕ) (w : LogWorld) : Prop where
  writers : w.writers = List.replicate n (minuteTask none)
  bounded : (classOf w.rows false).length ≤ logLimitNum
  passed : (classOf w.inserted false).length = logLimitNum + 1

/-- A task that asks then has nothing to delete. -/
theorem Draining.run (db : Database) (n : ℕ) (h : Draining n w) :
    Draining 0 (Run.run (LogWorld.step db) w
        (List.replicate n [.deleteCallLogForLimit 0 newestById true, .queryEnd 0]).flatten) ∧
      Run.StepsMeet (LogWorld.step db) Undisturbedly w
        (List.replicate n [.deleteCallLogForLimit 0 newestById true, .queryEnd 0]).flatten := by
  induction n generalizing w with
  | zero => exact ⟨h, trivial⟩
  | succ n ih =>
    obtain ⟨hwriters, hbounded, hpassed⟩ := h
    have hnone : w.behindLimit db newestById false = [] := by
      rw [← List.length_eq_zero_iff, length_behindLimit]
      omega
    have hask : w.step db (.deleteCallLogForLimit 0 newestById true) =
        { w with writers := minuteTask (some []) :: List.replicate n (minuteTask none) } := by
      show w.deleteCallLogForLimit db 0 newestById true = _
      simp [deleteCallLogForLimit, hwriters, List.replicate_succ, minuteTask, hnone]
    rw [List.replicate_succ, List.flatten_cons]
    show Draining 0 (Run.run _ ((w.step db (.deleteCallLogForLimit 0 newestById true)).step db
      (.queryEnd 0)) _) ∧ _
    rw [Run.stepsMeet_append]
    show _ ∧ ((_ ∧ Undisturbedly (w.step db (.deleteCallLogForLimit 0 newestById true)) _ ∧ _) ∧
      Run.StepsMeet _ _ ((w.step db (.deleteCallLogForLimit 0 newestById true)).step db
        (.queryEnd 0)) _)
    rw [hask]
    obtain ⟨hdone, hmeet⟩ := ih (w := LogWorld.step db
      { w with writers := minuteTask (some []) :: List.replicate n (minuteTask none) } (.queryEnd 0))
      ⟨rfl, hbounded, hpassed⟩
    refine ⟨hdone, ⟨⟨rfl, rfl⟩, ⟨?_, trivial⟩, trivial⟩, hmeet⟩
    intro t ht
    obtain rfl := Option.some.inj ht
    exact .inr rfl

/-- Two tasks are to delete the row `id`, the last one too many. -/
structure Overlapping (id n : ℕ) (w : LogWorld) : Prop where
  writers : w.writers = minuteTask (some [id]) :: minuteTask (some [id]) ::
    List.replicate n (minuteTask none)
  behind : ∃ row ∈ classOf w.rows false, row.id = id
  rows : (classOf w.rows false).length = logLimitNum + 1
  passed : (classOf w.inserted false).length = logLimitNum + 1

/-- Two tasks ask for the rows before one deletes any. -/
theorem Stored.ask_two {n : ℕ} (hn : n + 2 = logLimitNum + 1) (h : Stored (n + 2) w) :
    ∃ id, Overlapping id n ((w.step db (.deleteCallLogForLimit 0 newestById true)).step db
      (.deleteCallLogForLimit 1 newestById true)) := by
  have hclass : (classOf w.rows false).length = logLimitNum + 1 := by
    rw [h.classOf_rows, h.length, hn]
  have hpassed : (classOf w.inserted false).length = logLimitNum + 1 := h.rows ▸ hclass
  have hone : (w.behindLimit db newestById false).length = 1 := by
    rw [length_behindLimit, hclass]
    omega
  obtain ⟨row, hrow⟩ := List.length_eq_one_iff.mp hone
  have hbehind : row ∈ classOf w.rows false := by
    have hmem : row ∈ w.behindLimit db newestById false := by simp [hrow]
    rw [behindLimit, db.query_eq] at hmem
    exact (newestById.sort_perm _).mem_iff.mp (List.mem_of_mem_drop hmem)
  have hask : (w.step db (.deleteCallLogForLimit 0 newestById true)).step db
      (.deleteCallLogForLimit 1 newestById true) =
      { w with writers := minuteTask (some [row.id]) :: minuteTask (some [row.id]) ::
          List.replicate n (minuteTask none) } := by
    have hsame : behindLimit db
        { w with writers := minuteTask (some [row.id]) :: minuteTask none ::
          List.replicate n (minuteTask none) } newestById false = [row] := hrow
    show (w.deleteCallLogForLimit db 0 newestById true).deleteCallLogForLimit db 1 newestById true = _
    simp [deleteCallLogForLimit, h.writers, List.replicate_succ, minuteTask, hrow] at hsame ⊢
    simp [hsame]
  refine ⟨row.id, ?_⟩
  rw [hask]
  exact ⟨rfl, ⟨row, hbehind, rfl⟩, hclass, hpassed⟩

theorem deleteNext_eq (db : Database) (front : List Writer) {back : List Writer} {call : Call}
    {isBlocked : Bool} {id : ℕ} {ids : List ℕ}
    (hwriters : w.writers = front ++ ⟨call, isBlocked, some (id :: ids)⟩ :: back) :
    w.deleteNext db front.length true true = { w with
      rows := w.rows.filter fun row => row.id ≠ id
      writers := ⟨call, isBlocked, some ids⟩ :: (front ++ back)
      cut := w.cut ++ w.rows.filter fun row => row.id = id } := by
  simp [deleteNext, hwriters, db.delete_eq, List.eraseIdx_append_of_length_le]

/-- The second deletion of the row finds nothing. -/
theorem Overlapping.delete (db : Database) {id n : ℕ} (h : Overlapping id n w) :
    Draining n (Run.run (LogWorld.step db) w
        [.deleteNext 0 true true, .deleteNext 1 true true, .queryEnd 0, .queryEnd 0]) ∧
      Run.StepsMeet (LogWorld.step db) Undisturbedly w
        [.deleteNext 0 true true, .deleteNext 1 true true, .queryEnd 0, .queryEnd 0] := by
  obtain ⟨hwriters, ⟨row, hrow, hid⟩, hrows, hpassed⟩ := h
  have hlt : (classOf (w.rows.filter fun row => row.id ≠ id) false).length ≤ logLimitNum := by
    have hcomm : classOf (w.rows.filter fun row => row.id ≠ id) false =
        (classOf w.rows false).filter fun row => row.id ≠ id := List.filter_comm _ _ _
    have hgone := List.length_filter_lt_length_iff_exists
      (p := fun row : Row => decide (row.id ≠ id)) |>.mpr ⟨row, hrow, by simp [hid]⟩
    rw [hcomm]
    omega
  have hfirst := deleteNext_eq db [] hwriters
  have hsecond := deleteNext_eq (w := { w with
      rows := w.rows.filter fun row => row.id ≠ id
      writers := minuteTask (some []) :: minuteTask (some [id]) :: List.replicate n (minuteTask none)
      cut := w.cut ++ w.rows.filter fun row => row.id = id })
    db [minuteTask (some [])] rfl
  simp only [List.filter_filter, Bool.and_self, List.length_nil, List.length_singleton,
    List.nil_append] at hfirst hsecond
  show Draining n ((((w.deleteNext db 0 true true).deleteNext db 1 true true).queryEnd 0).queryEnd 0)
    ∧ _ ∧ _ ∧ Undisturbedly ((w.deleteNext db 0 true true).deleteNext db 1 true true) (.queryEnd 0)
    ∧ Undisturbedly (((w.deleteNext db 0 true true).deleteNext db 1 true true).queryEnd 0)
      (.queryEnd 0) ∧ True
  have hempty (t : Writer) (ht : t ∈ some (minuteTask (some []))) :
      t.resultSet = none ∨ t.resultSet = some [] := by
    obtain rfl := Option.some.inj ht
    exact .inr rfl
  unfold minuteTask at hfirst hsecond
  rw [hfirst, hsecond]
  exact ⟨⟨rfl, hlt, hpassed⟩, ⟨⟨rfl, rfl⟩, trivial⟩, ⟨⟨rfl, rfl⟩, trivial⟩, ⟨hempty, trivial⟩,
    ⟨hempty, trivial⟩, trivial⟩

theorem stored_start : Stored 0 .start := ⟨rfl, rfl, rfl, by simp [LogWorld.start]⟩

/-- The run reaches a log where two tasks are to delete one row. -/
theorem crowd_run (db : Database) :
    (∃ id, Overlapping id (logLimitNum - 1) (Run.run (LogWorld.step db) .start crowd)) ∧
      Run.StepsMeet (LogWorld.step db) Undisturbedly .start crowd := by
  obtain ⟨hstored, hmeet⟩ := stored_run db (logLimitNum + 1) stored_start
  have hn : logLimitNum - 1 + 2 = logLimitNum + 1 := by
    unfold logLimitNum
    omega
  rw [Nat.zero_add] at hstored
  unfold crowd
  rw [Run.run_append, Run.stepsMeet_append, Run.run_cons, Run.run_cons, Run.run_nil]
  generalize Run.run (LogWorld.step db) .start _ = w at hstored ⊢
  refine ⟨?_, hmeet, ⟨rfl, rfl⟩, ⟨rfl, rfl⟩, trivial⟩
  rw [← hn] at hstored
  exact hstored.ask_two hn

theorem crowded_run (db : Database) :
    Draining 0 (Run.run (LogWorld.step db) .start crowded) ∧
      Run.StepsMeet (LogWorld.step db) Undisturbedly .start crowded := by
  obtain ⟨⟨id, hoverlapping⟩, hcrowd⟩ := crowd_run db
  obtain ⟨hdraining, hdelete⟩ := hoverlapping.delete db
  obtain ⟨hdone, hdrain⟩ := Draining.run db _ hdraining
  unfold crowded
  rw [Run.run_append, Run.run_append, Run.stepsMeet_append, Run.stepsMeet_append]
  exact ⟨hdone, hcrowd, hdelete, hdrain⟩

end LogWorld

/-! ## Main results -/

open LogWorld

/-- The rows keep their numbers in every run. -/
theorem numbered_run (db : Database) (ops : List LogOp) :
    Numbered (Run.run (LogWorld.step db) .start ops) :=
  Run.run_invariant (P := Numbered) (fun _ op h => h.step op) ops
    ⟨by simp [LogWorld.start], by simp [LogWorld.start]⟩

/-- **The limit**: when every access succeeds, a class has at most 5000 rows, but for those
    that tasks under way are to delete and one for each task that has not asked yet. -/
theorem log_bounded (db : Database) (ops : List LogOp)
    (hops : Run.StepsMeet (LogWorld.step db) Succeeds .start ops) (isBlocked : Bool) :
    let w := Run.run (LogWorld.step db) .start ops
    (∀ l : List Row, l.Nodup → l ⊆ classOf w.rows isBlocked → (∀ row ∈ l, ¬ Listed w.writers row) →
      l.length ≤ logLimitNum + toQuery w.writers isBlocked) ∧
      (w.writers = [] → (classOf w.rows isBlocked).length ≤ logLimitNum) := by
  have hstart : Bounded .start := by
    intro isBlocked l _ hsub _
    have hnil : l = [] := List.subset_nil.mp (by simpa [LogWorld.start, classOf] using hsub)
    simp [hnil]
  have hbounded : Bounded (Run.run (LogWorld.step db) .start ops) :=
    (Run.statesMeet_of_stepsMeet (P := Bounded) (fun _ op h hop => h.step op hop) hstart hops).last
  refine ⟨hbounded isBlocked, ?_⟩
  intro hidle
  have hle := hbounded isBlocked (classOf _ isBlocked) ((numbered_run db ops).nodup_rows.filter _)
    (List.Subset.refl _) (by simp [hidle, Listed])
  simpa [hidle, toQuery] using hle

/-- Two tasks want to delete the same row on the way. -/
theorem log_bounded_crowded :
    (∃ id, Overlapping id (logLimitNum - 1) (Run.run (LogWorld.step autoIncrement) .start crowd)) ∧
      let w := Run.run (LogWorld.step autoIncrement) .start crowded
      (classOf w.inserted false).length = logLimitNum + 1 ∧
        (classOf w.rows false).length ≤ logLimitNum :=
  ⟨(crowd_run autoIncrement).1, (crowded_run autoIncrement).1.passed,
    (log_bounded autoIncrement crowded ((crowded_run autoIncrement).2.imp fun _ _ h => h.1) false).2
      (crowded_run autoIncrement).1.writers⟩

/-- **The newest rows**: when every access succeeds, the database has one order, and the user
    erases nothing, the log of a class is exactly its newest 5000 rows whenever no task is
    under way. -/
theorem log_exact (db : Database) (order : NewestFirst) (ops : List LogOp)
    (hops : Run.StepsMeet (LogWorld.step db) (fun w op => Succeeds w op ∧ Undisturbed order op)
      .start ops) :
    let w := Run.run (LogWorld.step db) .start ops
    w.writers = [] → ∀ row, row ∈ w.rows ↔ row ∈ w.inserted ∧
      order.ahead (classOf w.inserted row.isBlocked) row < logLimitNum := by
  let Inv (w : LogWorld) := Numbered w ∧ Covered order w
  have hstart : Inv .start := by
    refine ⟨numbered_run db [], ⟨?_, ?_⟩, rfl, ?_⟩ <;> simp [LogWorld.start]
  have hstep : ∀ w op, Inv w → Succeeds w op ∧ Undisturbed order op → Inv (w.step db op) :=
    fun w op h hop => ⟨h.1.step op, h.2.step h.1 op hop.1 hop.2⟩
  obtain ⟨hnum, hcovered⟩ := (Run.statesMeet_of_stepsMeet hstep hstart hops).last
  intro w hidle row
  constructor
  · intro hrow
    refine ⟨hnum.mem_inserted hrow, ?_⟩
    by_contra hle
    have hbusy := hcovered.covered row hrow (not_lt.mp hle)
    rw [hidle] at hbusy
    simp [Listed, toQuery] at hbusy
  · rintro ⟨hrow, hlt⟩
    exact hcovered.kept hnum hrow (not_le.mpr hlt)

theorem log_exact_crowded :
    let w := Run.run (LogWorld.step autoIncrement) .start crowded
    (classOf w.inserted false).length = logLimitNum + 1 ∧
      ∀ row, row ∈ w.rows ↔ row ∈ w.inserted ∧
        newestById.ahead (classOf w.inserted row.isBlocked) row < logLimitNum :=
  ⟨(crowded_run autoIncrement).1.passed, log_exact autoIncrement newestById crowded
    (crowded_run autoIncrement).2 (crowded_run autoIncrement).1.writers⟩

/-- **The unread missed calls**: what is announced is each number with the count of its missed
    calls after the last update, as far as they can be read, and the request that updates
    them reports success iff it changes nothing. -/
theorem unread_announced (db : Database) (ops : List LogOp) :
    let w := Run.run (LogWorld.step db) .start ops
    (∀ readable, Announces ((unreadSince w).filter readable)
      (w.queryAndNotifyUnReadMissedCall true readable)) ∧
      ∀ helper updated, (w.removeMissedIncomingCallNotification db helper updated).1 = true ↔
        helper = true ∧ (updated = false ∨ unreadSince w = []) := by
  let Inv (w : LogWorld) := Numbered w ∧ ReadUpTo db w
  have hstep : ∀ w op, Inv w → Inv (w.step db op) :=
    fun w op h => ⟨h.1.step op, h.2.step h.1 op⟩
  have hstart : Inv .start := ⟨numbered_run db [], by simp [LogWorld.start], by simp [LogWorld.start],
    by simp [LogWorld.start]⟩
  obtain ⟨-, hread⟩ := Run.run_invariant hstep ops hstart
  refine ⟨fun readable => ?_, fun helper updated => ?_⟩
  · rw [← unreadMissed_eq hread]
    exact announces_query _ readable
  · rw [← unreadMissed_eq hread]
    cases helper <;> cases updated <;> simp [removeMissedIncomingCallNotification]

end CallLog

end CallManager
