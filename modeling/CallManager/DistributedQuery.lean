import CallManager.Types
import CallManager.Library.KeyedLog
import CallManager.Library.MaskTable
import CallManager.Library.Run

/-!
# The query for the data of a distributed call

Two devices share a call. The one without the number's name or location, the
sink, notes what it lacks and asks the other one, the source, for it. The
source notes what it is asked for, and answers as soon as it has it. Each end
keeps a mask of the two kinds of data for each number, and clears a flag when it
sends the message.

A step is one handler at one end. A message is in flight from the moment it is
sent until the session hands it over, which it does in order and only to an end
that is bound. JSON is a parameter. The query of the current call, which shares
the session, is left out, and what the sink does with an answer.

Results:
* `query_kept`: throughout every run, what the sink lacks is noted at one of the
  ends or in flight until an answer is handed over, an answer carries what the
  source has stored for that number and kind, and once the ends are bound and
  nothing is in flight, the source has no data it was asked for.
-/

namespace CallManager.DistributedQuery

open MaskTable

/-! ## Model -/

/-- `DistributedDataType` (distributed_data_controller.h:40-44). -/
inductive DistributedDataType
  | name | location
  deriving DecidableEq, Repr

/-- The code of a data type. -/
def DistributedDataType.code : DistributedDataType → ℕ
  | name => 0
  | location => 1

/-- The codes from NAME to MAX. -/
def dataTypes : List ℕ := [0, 1]

/-- `DISTRIBUTED_MAX_RECV_DATA_LEN` (distributed_data_controller.h:37). -/
def maxRecvDataLen : ℕ := 2048

/-- What the controllers read of a call: texts of C arrays, the number one of at
    most `kMaxNumberLen` characters. -/
structure DistributedCall where
  accountNumber : ByteString
  callerName : ByteString
  numberLocation : ByteString
  length_le : accountNumber.length ≤ maxNumberLen
  number_text : 0 ∉ accountNumber
  name_text : 0 ∉ callerName
  location_text : 0 ∉ numberLocation

/-- A DATA_REQ or a DATA_RSP. -/
inductive DataMsg
  | dataReq (itemType : ℕ) (num : ByteString)
  | dataRsp (itemType : ℕ) (num value : ByteString)
  deriving DecidableEq, Repr

/-- What is relied on of cJSON: a printed message of C strings is parsed as it was, and a
    request is its two numbers and its text, in which a character takes at most six. -/
structure JsonCodec where
  print : DataMsg → ByteString
  parse : ByteString → Option DataMsg
  parse_dataReq : ∀ itemType num, itemType ∈ dataTypes → 0 ∉ num →
    parse (print (.dataReq itemType num)) = some (.dataReq itemType num)
  parse_dataRsp : ∀ itemType num value, itemType ∈ dataTypes → 0 ∉ num → 0 ∉ value →
    parse (print (.dataRsp itemType num value)) = some (.dataRsp itemType num value)
  length_dataReq : ∀ itemType num, itemType ∈ dataTypes →
    (print (.dataReq itemType num)).length ≤ 64 + 6 * num.length

/-- A codec that marks the two kinds of message and separates texts by zeros. -/
def plainCodec : JsonCodec where
  print
    | .dataReq itemType num => 0 :: UInt8.ofNat itemType :: num
    | .dataRsp itemType num value => 1 :: UInt8.ofNat itemType :: (num ++ 0 :: value)
  parse
    | 0 :: itemType :: num => some (.dataReq itemType.toNat num)
    | _ :: itemType :: text =>
      some (.dataRsp itemType.toNat (cString text) (text.drop ((cString text).length + 1)))
    | _ => none
  parse_dataReq itemType num htype _ := by
    have hcode : (UInt8.ofNat itemType).toNat = itemType := by
      rcases (by simpa [dataTypes] using htype : itemType = 0 ∨ itemType = 1) with rfl | rfl <;> rfl
    simp [hcode]
  parse_dataRsp itemType num value htype hnum _ := by
    have hcode : (UInt8.ofNat itemType).toNat = itemType := by
      rcases (by simpa [dataTypes] using htype : itemType = 0 ∨ itemType = 1) with rfl | rfl <;> rfl
    simp [hcode, cString_append_zero hnum]
  length_dataReq itemType num _ := by
    simp only [List.length_cons]
    omega

/-- `session_` at one end: none, one without a socket yet, and one that `IsReady`. -/
inductive SessionState
  | null | unbound | bound
  deriving DecidableEq, Repr

/-- `DistributedDataSinkController`. -/
structure SinkController where
  session : SessionState
  queryInfo : MaskTable ByteString

/-- `DistributedDataSourceController`. -/
structure SourceController where
  session : SessionState
  queryInfo : MaskTable ByteString
  localInfo : Std.ExtTreeMap ByteString (Std.ExtTreeMap ℕ ByteString)

/-- What `OnReceiveMsg` passes to `HandleRecvMsg` (distributed_data_controller.cpp:22-50). -/
def onReceiveMsg (codec : JsonCodec) (data : ByteString) : Option DataMsg :=
  if maxRecvDataLen < data.length then none else codec.parse data

namespace SinkController

/-- The `queryInfo` of `CheckLocalData`: what the call lacks. -/
def lacks (call : DistributedCall) : DistributedDataType → BitVec 32
  | .name => if call.callerName = [] then 1 <<< 0 else 0
  | .location =>
    if call.numberLocation = [] ∨ call.numberLocation = "default".toUTF8.toList then 1 <<< 1
    else 0

/-- `CheckLocalData` (distributed_data_sink_controller.cpp:101-128). -/
def checkLocalData (c : SinkController) (call : DistributedCall) (type : DistributedDataType) :
    SinkController :=
  if call.accountNumber = [] then c
  else { c with queryInfo := record c.queryInfo call.accountNumber (lacks call type) }

/-- `ConnectRemote` (distributed_data_sink_controller.cpp:84-99). -/
def connectRemote (c : SinkController) : SinkController :=
  if c.session ≠ .null then c else { c with session := .unbound }

/-- `SendDataQueryReq` (distributed_data_sink_controller.cpp:163-191). -/
def sendDataQueryReq (c : SinkController) : SinkController × List DataMsg :=
  if c.session ≠ .bound then (c, [])
  else
    let (queryInfo, data) := serve dataTypes (fun num type => some (.dataReq type num)) c.queryInfo
    ({ c with queryInfo }, data)

end SinkController

namespace SourceController

/-- What is stored for a number and a type. -/
def localData (c : SourceController) (num : ByteString) (type : ℕ) : Option ByteString :=
  c.localInfo[num]?.bind fun info => info[type]?

/-- `SaveLocalData(num, type, data)` (distributed_data_source_controller.cpp:113-125). -/
def saveData (c : SourceController) (num : ByteString) (type : DistributedDataType)
    (data : ByteString) : SourceController :=
  if num ∈ c.localInfo then
    { c with localInfo := c.localInfo.modify num fun info => info.insert type.code data }
  else
    let info : Std.ExtTreeMap ℕ ByteString := ∅
    { c with localInfo := c.localInfo.insert num (info.insert type.code data) }

/-- `SaveLocalData(call, type)` (distributed_data_source_controller.cpp:127-145). -/
def saveLocalData (c : SourceController) (call : DistributedCall) (type : DistributedDataType) :
    SourceController :=
  let num := call.accountNumber
  if num = [] then c
  else
    let c :=
      if type = .name ∧ call.callerName ≠ [] then c.saveData num type call.callerName else c
    if type = .location ∧ call.numberLocation ≠ [] ∧
        call.numberLocation ≠ "default".toUTF8.toList then
      c.saveData num type call.numberLocation
    else c

/-- `HandleDataQueryMsg` (distributed_data_source_controller.cpp:147-176). -/
def handleDataQueryMsg (c : SourceController) (type : ℕ) (num : ByteString) : SourceController :=
  if type ∉ dataTypes then c
  else if num = [] then c
  else { c with queryInfo := record c.queryInfo num ((1 : BitVec 32) <<< type) }

/-- `SendLocalDataRsp` (distributed_data_source_controller.cpp:215-258). -/
def sendLocalDataRsp (c : SourceController) : SourceController × List DataMsg :=
  if c.session ≠ .bound then (c, [])
  else
    let (queryInfo, data) := serve dataTypes
      (fun num type => (c.localData num type).map fun value => .dataRsp type num (cString value))
      c.queryInfo
    ({ c with queryInfo }, data)

end SourceController

/-- What happens to a kind of data of a number, as far as the query goes. -/
inductive QueryEvent
  /-- The sink notes that it lacks it. -/
  | recorded (num : ByteString) (type : ℕ)
  /-- An answer is handed over. -/
  | answered (num : ByteString) (type : ℕ)
  deriving DecidableEq

/-- The number and the type an event is about. -/
def QueryEvent.key : QueryEvent → ByteString × ℕ
  | recorded num type => (num, type)
  | answered num type => (num, type)

/-- The two ends and the session between them: the messages in flight each way,
    the oldest first, whether the sink's `OnConnected` ran on the bound session,
    and the events so far, the latest first. -/
structure QuerySystem where
  sink : SinkController
  source : SourceController
  requests : List DataMsg
  responses : List DataMsg
  sinkConnected : Bool
  log : List QueryEvent

namespace QuerySystem

/-! ### Parts of the handlers -/

/-- `CheckLocalData`, with its event. -/
def check (s : QuerySystem) (call : DistributedCall) (type : DistributedDataType) : QuerySystem :=
  { s with
    sink := s.sink.checkLocalData call type
    log :=
      if call.accountNumber ≠ [] ∧ (SinkController.lacks call type).getLsbD type.code then
        .recorded call.accountNumber type.code :: s.log
      else s.log }

/-- `SendDataQueryReq`: the requests go to the session. -/
def sendReq (s : QuerySystem) : QuerySystem :=
  { s with
    sink := s.sink.sendDataQueryReq.1
    requests := s.requests ++ s.sink.sendDataQueryReq.2 }

/-- `SaveLocalData`. -/
def save (s : QuerySystem) (call : DistributedCall) (type : DistributedDataType) : QuerySystem :=
  { s with source := s.source.saveLocalData call type }

/-- `SendLocalDataRsp`: the answers go to the session. -/
def sendRsp (s : QuerySystem) : QuerySystem :=
  { s with
    source := s.source.sendLocalDataRsp.1
    responses := s.responses ++ s.source.sendLocalDataRsp.2 }

/-- `HandleDataQueryMsg` on what `OnReceiveMsg` lets through. -/
def handleReq (codec : JsonCodec) (s : QuerySystem) (m : DataMsg) : QuerySystem :=
  match onReceiveMsg codec (codec.print m) with
  | some (.dataReq type num) =>
    { s with source := s.source.handleDataQueryMsg type num }.sendRsp
  | _ => s

/-- The event of a message handed over at the sink. -/
def answerEvents : DataMsg → List QueryEvent
  | .dataRsp type num _ => [.answered num type]
  | .dataReq .. => []

end QuerySystem

/-- A step at one of the ends. -/
inductive QueryOp
  /-- `OnCallCreated` at the sink. -/
  | sinkCallCreated (call : DistributedCall)
  /-- `ProcessCallInfo` at the sink. -/
  | sinkProcessCallInfo (call : DistributedCall) (type : DistributedDataType)
  /-- The session of the sink gets its socket. -/
  | sinkBind
  /-- `OnConnected` at the sink. -/
  | sinkConnected
  /-- `OnCallCreated` at the source. -/
  | sourceCallCreated (call : DistributedCall)
  /-- `ProcessCallInfo` at the source. -/
  | sourceProcessCallInfo (call : DistributedCall) (type : DistributedDataType)
  /-- The session of the source gets its socket. -/
  | sourceBind
  /-- `OnConnected` at the source. -/
  | sourceConnected
  /-- The oldest request is handed to the source. -/
  | deliverReq
  /-- The oldest answer is handed to the sink. -/
  | deliverRsp

/-- The state after a step. -/
def queryStep (codec : JsonCodec) (s : QuerySystem) : QueryOp → QuerySystem
  | .sinkCallCreated call =>
    ({ s with sink := s.sink.connectRemote }.check call .name).check call .location |>.sendReq
  | .sinkProcessCallInfo call type => (s.check call type).sendReq
  | .sinkBind =>
    if s.sink.session = .unbound then { s with sink := { s.sink with session := .bound } } else s
  | .sinkConnected => { s.sendReq with sinkConnected := s.sink.session = .bound }
  | .sourceCallCreated _ => s
  | .sourceProcessCallInfo call type => (s.save call type).sendRsp
  | .sourceBind =>
    if s.source.session = .unbound then { s with source := { s.source with session := .bound } }
    else s
  | .sourceConnected => s.sendRsp
  | .deliverReq =>
    match s.requests with
    | m :: rest =>
      if s.source.session = .bound then { s with requests := rest }.handleReq codec m else s
    | [] => s
  | .deliverRsp =>
    match s.responses with
    | m :: rest =>
      if s.sink.session = .bound then
        { s with responses := rest, log := QuerySystem.answerEvents m ++ s.log }
      else s
    | [] => s

/-- `OnDeviceOnline` at the source: the session is created, and what the current calls have is
    stored (distributed_data_source_controller.cpp:25-55). -/
def SourceController.onDeviceOnline (calls : List DistributedCall) : SourceController :=
  calls.foldl
    (fun c call => (c.saveLocalData call .name).saveLocalData call .location)
    ⟨.unbound, ∅, ∅⟩

/-- The state when the source is online and the sink has no call yet. -/
def QuerySystem.init (calls : List DistributedCall) : QuerySystem where
  sink := ⟨.null, ∅⟩
  source := .onDeviceOnline calls
  requests := []
  responses := []
  sinkConnected := false
  log := []

/-! ## Specification -/

namespace QuerySystem

/-- The sink has noted that it lacks the data, and no answer has been handed over since. -/
def Open (s : QuerySystem) (num : ByteString) (type : DistributedDataType) : Prop :=
  KeyedLog.last? QueryEvent.key s.log (num, type.code) = some (.recorded num type.code)

/-- The flag of the sink is set, a request is in flight, the flag of the source is
    set, or an answer is in flight. -/
def Kept (s : QuerySystem) (num : ByteString) (type : DistributedDataType) : Prop :=
  asks s.sink.queryInfo num type.code = true ∨ .dataReq type.code num ∈ s.requests ∨
    asks s.source.queryInfo num type.code = true ∨
      ∃ value, .dataRsp type.code num value ∈ s.responses

/-- Nothing is in flight, and both ends are bound. -/
def Quiet (s : QuerySystem) : Prop :=
  s.requests = [] ∧ s.responses = [] ∧ s.sink.session = .bound ∧ s.source.session = .bound

/-- What holds in every state. Between the two steps of `OnSessionBind`, the socket
    and `OnConnected`, the sink may still have requests to send; after them a quiet
    state has no open query that the source could answer. -/
structure QueryOk (s : QuerySystem) : Prop where
  kept : ∀ num type, s.Open num type → s.Kept num type
  quiet : s.Quiet → ∀ num (type : DistributedDataType),
    asks s.source.queryInfo num type.code = true → s.source.localData num type.code = none
  answered : s.Quiet → s.sinkConnected = true → ∀ num (type : DistributedDataType),
    s.source.localData num type.code ≠ none → ¬ s.Open num type

/-- What holds of every step: an answer that it sends carries what the source has
    stored for its number and type. -/
def AnswersStored (codec : JsonCodec) (s : QuerySystem) (op : QueryOp) : Prop :=
  ∀ m ∈ (queryStep codec s op).responses, m ∈ s.responses ∨
    ∃ num value, ∃ type : DistributedDataType, m = .dataRsp type.code num value ∧
      (queryStep codec s op).source.localData num type.code = some value

end QuerySystem

/-! ## What the parts change -/

theorem code_mem (type : DistributedDataType) : type.code ∈ dataTypes := by
  cases type <;> simp [DistributedDataType.code, dataTypes]

theorem exists_dataTypes {p : ℕ → Prop} :
    (∃ code ∈ dataTypes, p code) ↔ ∃ type : DistributedDataType, p type.code := by
  constructor
  · rintro ⟨code, hcode, hp⟩
    rcases List.mem_cons.mp hcode with rfl | hcode
    · exact ⟨.name, hp⟩
    · obtain rfl := List.mem_singleton.mp hcode
      exact ⟨.location, hp⟩
  · rintro ⟨type, hp⟩
    exact ⟨type.code, code_mem type, hp⟩

theorem code_injective {type type' : DistributedDataType} (h : type.code = type'.code) :
    type = type' := by
  cases type <;> cases type' <;> simp_all [DistributedDataType.code]

theorem localData_saveData (c : SourceController) (num : ByteString) (type : DistributedDataType)
    (data num' : ByteString) (type' : ℕ) :
    (c.saveData num type data).localData num' type' =
      if num = num' ∧ type.code = type' then some data else c.localData num' type' := by
  unfold SourceController.saveData SourceController.localData
  by_cases hmem : num ∈ c.localInfo
  · rw [if_pos hmem]
    simp only [Std.ExtTreeMap.getElem?_modify, Std.LawfulEqCmp.compare_eq_iff_eq]
    by_cases hnum : num = num'
    · subst hnum
      obtain ⟨info, hinfo⟩ := Option.isSome_iff_exists.mp
        (Std.ExtTreeMap.mem_iff_isSome_getElem?.mp hmem)
      simp [hinfo, Std.ExtTreeMap.getElem?_insert]
    · simp [hnum]
  · rw [if_neg hmem]
    simp only [Std.ExtTreeMap.getElem?_insert, Std.LawfulEqCmp.compare_eq_iff_eq]
    by_cases hnum : num = num'
    · subst hnum
      simp [Std.ExtTreeMap.getElem?_eq_none hmem, Std.ExtTreeMap.getElem?_insert]
    · simp [hnum]

/-- What is stored after `SaveLocalData` was stored before, or is a text of the call. -/
theorem localData_saveLocalData {c : SourceController} {call : DistributedCall}
    {type : DistributedDataType} {num value : ByteString} {type' : ℕ}
    (h : (c.saveLocalData call type).localData num type' = some value) :
    c.localData num type' = some value ∨ value = call.callerName ∨
      value = call.numberLocation := by
  have hsave : ∀ (c : SourceController) (data : ByteString),
      (c.saveData call.accountNumber type data).localData num type' = some value →
        c.localData num type' = some value ∨ value = data := by
    intro c data hd
    rw [localData_saveData] at hd
    split at hd
    · exact .inr (Option.some.inj hd).symm
    · exact .inl hd
  unfold SourceController.saveLocalData at h
  dsimp only at h
  by_cases hnum : call.accountNumber = []
  · rw [if_pos hnum] at h
    exact .inl h
  · rw [if_neg hnum] at h
    have hname : ∀ c' : SourceController,
        c' = (if type = .name ∧ call.callerName ≠ [] then
          c.saveData call.accountNumber type call.callerName else c) →
        c'.localData num type' = some value →
          c.localData num type' = some value ∨ value = call.callerName := by
      rintro c' rfl hc
      split at hc
      · exact hsave c _ hc
      · exact .inl hc
    split at h
    · rcases hsave _ _ h with hc | hv
      · exact (hname _ rfl hc).imp_right .inl
      · exact .inr (.inr hv)
    · exact (hname _ rfl h).imp_right .inl

theorem saveLocalData_queryInfo (c : SourceController) (call : DistributedCall)
    (type : DistributedDataType) : (c.saveLocalData call type).queryInfo = c.queryInfo := by
  unfold SourceController.saveLocalData SourceController.saveData
  dsimp only
  split_ifs <;> rfl

/-- What is stored is a C string. -/
def SourceController.Texts (c : SourceController) : Prop :=
  ∀ num type value, c.localData num type = some value → 0 ∉ value

theorem SourceController.Texts.saveLocalData {c : SourceController} (h : c.Texts)
    (call : DistributedCall) (type : DistributedDataType) : (c.saveLocalData call type).Texts := by
  intro num type' value hvalue
  rcases localData_saveLocalData hvalue with hold | rfl | rfl
  · exact h num type' value hold
  · exact call.name_text
  · exact call.location_text

namespace QuerySystem

theorem asks_sendReq (s : QuerySystem) (num : ByteString) (type : DistributedDataType) :
    asks s.sendReq.sink.queryInfo num type.code =
      (asks s.sink.queryInfo num type.code && decide (s.sink.session ≠ .bound)) := by
  unfold sendReq SinkController.sendDataQueryReq
  by_cases hb : s.sink.session ≠ .bound
  · simp [hb]
  · dsimp only
    rw [if_neg hb]
    simp [asks_serve dataTypes _ _ _ (code_mem type), hb]

theorem mem_sendReq {s : QuerySystem} {m : DataMsg} :
    m ∈ s.sendReq.requests ↔ m ∈ s.requests ∨
      s.sink.session = .bound ∧ ∃ num, ∃ type : DistributedDataType,
        asks s.sink.queryInfo num type.code = true ∧ m = .dataReq type.code num := by
  unfold sendReq SinkController.sendDataQueryReq
  dsimp only
  rw [List.mem_append]
  by_cases hb : s.sink.session ≠ .bound
  · simp [hb]
  · rw [if_neg hb]
    simp only [not_not] at hb
    simp only [hb, true_and, mem_serve, exists_dataTypes, Option.some.injEq]
    simp only [eq_comm]

theorem asks_sendRsp (s : QuerySystem) (num : ByteString) (type : DistributedDataType) :
    asks s.sendRsp.source.queryInfo num type.code =
      (asks s.source.queryInfo num type.code &&
        decide (s.source.session = .bound → s.source.localData num type.code = none)) := by
  unfold sendRsp SourceController.sendLocalDataRsp
  by_cases hb : s.source.session ≠ .bound
  · simp [hb]
  · dsimp only
    rw [if_neg hb]
    simp only [not_not] at hb
    simp only [asks_serve dataTypes _ _ _ (code_mem type), hb, true_imp_iff, Option.isNone_map]
    cases s.source.localData num type.code <;> simp

theorem mem_sendRsp {s : QuerySystem} {m : DataMsg} :
    m ∈ s.sendRsp.responses ↔ m ∈ s.responses ∨
      s.source.session = .bound ∧ ∃ num value, ∃ type : DistributedDataType,
        asks s.source.queryInfo num type.code = true ∧
          s.source.localData num type.code = some value ∧
            m = .dataRsp type.code num (cString value) := by
  unfold sendRsp SourceController.sendLocalDataRsp
  dsimp only
  rw [List.mem_append]
  by_cases hb : s.source.session ≠ .bound
  · simp [hb]
  · rw [if_neg hb]
    simp only [not_not] at hb
    simp only [hb, true_and, mem_serve, exists_dataTypes, Option.map_eq_some_iff]
    refine or_congr Iff.rfl ⟨?_, ?_⟩
    · rintro ⟨num, type, hask, value, hvalue, rfl⟩
      exact ⟨num, value, type, hask, hvalue, rfl⟩
    · rintro ⟨num, value, type, hask, hvalue, rfl⟩
      exact ⟨num, type, hask, value, hvalue, rfl⟩

@[simp] theorem sendRsp_localData (s : QuerySystem) (num : ByteString) (type : ℕ) :
    s.sendRsp.source.localData num type = s.source.localData num type := by
  unfold sendRsp SourceController.sendLocalDataRsp
  split <;> rfl

@[simp] theorem sendRsp_session (s : QuerySystem) :
    s.sendRsp.source.session = s.source.session := by
  unfold sendRsp SourceController.sendLocalDataRsp
  split <;> rfl

@[simp] theorem sendReq_session (s : QuerySystem) : s.sendReq.sink.session = s.sink.session := by
  unfold sendReq SinkController.sendDataQueryReq
  split <;> rfl

@[simp] theorem check_session (s : QuerySystem) (call : DistributedCall)
    (type : DistributedDataType) : (s.check call type).sink.session = s.sink.session := by
  unfold check SinkController.checkLocalData
  dsimp only
  split <;> rfl

@[simp] theorem save_session (s : QuerySystem) (call : DistributedCall)
    (type : DistributedDataType) : (s.save call type).source.session = s.source.session := by
  unfold save SourceController.saveLocalData SourceController.saveData
  dsimp only
  split_ifs <;> rfl

@[simp] theorem save_queryInfo (s : QuerySystem) (call : DistributedCall)
    (type : DistributedDataType) : (s.save call type).source.queryInfo = s.source.queryInfo :=
  saveLocalData_queryInfo s.source call type

/-! ## The invariant -/

/-- A number that a request can carry. -/
def Sendable (num : ByteString) : Prop := num ≠ [] ∧ 0 ∉ num ∧ num.length ≤ maxNumberLen

/-- What every part of a handler keeps. -/
structure Inv (s : QuerySystem) : Prop where
  num : ∀ num (type : DistributedDataType), asks s.sink.queryInfo num type.code = true →
    Sendable num
  req : ∀ m ∈ s.requests, ∃ num, ∃ type : DistributedDataType,
    m = .dataReq type.code num ∧ Sendable num
  srcBound : ∀ num (type : DistributedDataType), asks s.source.queryInfo num type.code = true →
    s.source.session = .bound
  text : s.source.Texts
  kept : ∀ num type, s.Open num type → s.Kept num type

/-- The sink has sent all its requests. -/
def SinkClear (s : QuerySystem) : Prop :=
  ∀ num (type : DistributedDataType), asks s.sink.queryInfo num type.code = false

/-- The source has answered all it can. -/
def SourceClear (s : QuerySystem) : Prop :=
  ∀ num (type : DistributedDataType), asks s.source.queryInfo num type.code = true →
    s.source.localData num type.code = none

theorem asks_check (s : QuerySystem) (call : DistributedCall) (type : DistributedDataType)
    (num : ByteString) (type' : DistributedDataType) :
    asks (s.check call type).sink.queryInfo num type'.code =
      (asks s.sink.queryInfo num type'.code ||
        decide (call.accountNumber ≠ [] ∧ call.accountNumber = num ∧
          (SinkController.lacks call type).getLsbD type'.code = true)) := by
  unfold check SinkController.checkLocalData
  dsimp only
  by_cases hnum : call.accountNumber = []
  · simp [hnum]
  · rw [if_neg hnum, asks_record]
    simp [hnum]

theorem Inv.check {s : QuerySystem} (h : s.Inv) (call : DistributedCall)
    (type : DistributedDataType) : (s.check call type).Inv where
  num num type' hask := by
    rw [asks_check, Bool.or_eq_true, decide_eq_true_iff] at hask
    rcases hask with hask | ⟨hne, rfl, -⟩
    · exact h.num num type' hask
    · exact ⟨hne, call.number_text, call.length_le⟩
  req := h.req
  srcBound := h.srcBound
  text := h.text
  kept num type' hopen := by
    -- the flag that is new is the one of the event that is new
    have hmono : s.Kept num type' → (s.check call type).Kept num type' := by
      rintro (hask | hrest)
      · exact .inl (by rw [asks_check, hask, Bool.true_or])
      · exact .inr hrest
    by_cases hnew : call.accountNumber ≠ [] ∧
        (SinkController.lacks call type).getLsbD type.code = true
    · have hlog : (s.check call type).log = .recorded call.accountNumber type.code :: s.log :=
        if_pos hnew
      by_cases hkey : (call.accountNumber, type.code) = (num, type'.code)
      · obtain ⟨hnum, hcode⟩ := Prod.mk.inj hkey
        obtain rfl := code_injective hcode
        refine .inl ?_
        rw [asks_check, Bool.or_eq_true, decide_eq_true_iff]
        exact .inr ⟨hnew.1, hnum, hnew.2⟩
      · refine hmono (h.kept num type' ?_)
        rw [Open, hlog, KeyedLog.last?_cons_of_ne (by exact hkey)] at hopen
        exact hopen
    · have hlog : (s.check call type).log = s.log := if_neg hnew
      refine hmono (h.kept num type' ?_)
      rw [Open, hlog] at hopen
      exact hopen

theorem Inv.sendReq {s : QuerySystem} (h : s.Inv) : s.sendReq.Inv where
  num num type hask := by
    rw [asks_sendReq, Bool.and_eq_true] at hask
    exact h.num num type hask.1
  req m hm := by
    rcases mem_sendReq.mp hm with hm | ⟨-, num, type, hask, rfl⟩
    · exact h.req m hm
    · exact ⟨num, type, rfl, h.num num type hask⟩
  srcBound := h.srcBound
  text := h.text
  kept num type hopen := by
    rcases h.kept num type hopen with hask | hreq | hrest
    · by_cases hb : s.sink.session = .bound
      · exact .inr (.inl (mem_sendReq.mpr (.inr ⟨hb, num, type, hask, rfl⟩)))
      · refine .inl ?_
        rw [asks_sendReq, hask, Bool.true_and]
        exact decide_eq_true hb
    · exact .inr (.inl (mem_sendReq.mpr (.inl hreq)))
    · exact .inr (.inr hrest)

theorem sinkClear_sendReq {s : QuerySystem} (hb : s.sink.session = .bound) :
    s.sendReq.SinkClear := by
  intro num type
  rw [asks_sendReq, hb]
  simp

theorem Inv.save {s : QuerySystem} (h : s.Inv) (call : DistributedCall)
    (type : DistributedDataType) : (s.save call type).Inv where
  num := h.num
  req := h.req
  srcBound num type' hask := by
    rw [save_queryInfo] at hask
    rw [save_session]
    exact h.srcBound num type' hask
  text := h.text.saveLocalData call type
  kept num type' hopen := by
    rcases h.kept num type' hopen with hask | hreq | hsrc | hrsp
    · exact .inl hask
    · exact .inr (.inl hreq)
    · exact .inr (.inr (.inl (by rw [save_queryInfo]; exact hsrc)))
    · exact .inr (.inr (.inr hrsp))

theorem Inv.sendRsp {s : QuerySystem} (h : s.Inv) : s.sendRsp.Inv where
  num := h.num
  req := h.req
  srcBound num type hask := by
    rw [asks_sendRsp, Bool.and_eq_true] at hask
    rw [sendRsp_session]
    exact h.srcBound num type hask.1
  text num type value hvalue := by
    rw [sendRsp_localData] at hvalue
    exact h.text num type value hvalue
  kept num type hopen := by
    rcases h.kept num type hopen with hask | hreq | hsrc | ⟨value, hrsp⟩
    · exact .inl hask
    · exact .inr (.inl hreq)
    · cases hdata : s.source.localData num type.code with
      | none => exact .inr (.inr (.inl (by rw [asks_sendRsp, hsrc, hdata]; simp)))
      | some value =>
        refine .inr (.inr (.inr ⟨cString value, mem_sendRsp.mpr (.inr ?_)⟩))
        exact ⟨h.srcBound num type hsrc, num, value, type, hsrc, hdata, rfl⟩
    · exact .inr (.inr (.inr ⟨value, mem_sendRsp.mpr (.inl hrsp)⟩))

theorem Inv.sourceClear_sendRsp {s : QuerySystem} (h : s.Inv) : s.sendRsp.SourceClear := by
  intro num type hask
  rw [asks_sendRsp, Bool.and_eq_true, decide_eq_true_iff] at hask
  rw [sendRsp_localData]
  exact hask.2 (h.srcBound num type hask.1)

/-! ## Messages handed over -/

/-- A request with a number of a call gets through to the source. -/
theorem onReceiveMsg_dataReq (codec : JsonCodec) {num : ByteString} (h : Sendable num)
    (type : DistributedDataType) :
    onReceiveMsg codec (codec.print (.dataReq type.code num)) = some (.dataReq type.code num) := by
  have hlen := codec.length_dataReq type.code num (code_mem type)
  have hnum : num.length ≤ 255 := h.2.2
  rw [onReceiveMsg, if_neg]
  · exact codec.parse_dataReq type.code num (code_mem type) h.2.1
  · rw [maxRecvDataLen]
    omega

theorem handleReq_dataReq (codec : JsonCodec) (s : QuerySystem) {num : ByteString}
    (h : Sendable num) (type : DistributedDataType) :
    s.handleReq codec (.dataReq type.code num) =
      ({ s with source := s.source.handleDataQueryMsg type.code num } : QuerySystem).sendRsp := by
  unfold handleReq
  rw [onReceiveMsg_dataReq codec h type]

theorem asks_handleDataQueryMsg (c : SourceController) {num : ByteString} (h : num ≠ [])
    (type : DistributedDataType) (num' : ByteString) (type' : DistributedDataType) :
    asks (c.handleDataQueryMsg type.code num).queryInfo num' type'.code =
      (asks c.queryInfo num' type'.code || decide (num = num' ∧ type = type')) := by
  have hlt : type.code < 32 := by cases type <;> simp [DistributedDataType.code]
  have hcode : type.code = type'.code ↔ type = type' := ⟨code_injective, fun h => h ▸ rfl⟩
  unfold SourceController.handleDataQueryMsg
  rw [if_neg (not_not.mpr (code_mem type)), if_neg h, asks_record, getLsbD_one_shiftLeft hlt]
  simp [hcode]

theorem handleDataQueryMsg_session (c : SourceController) (type : ℕ) (num : ByteString) :
    (c.handleDataQueryMsg type num).session = c.session := by
  unfold SourceController.handleDataQueryMsg
  split_ifs <;> rfl

theorem handleDataQueryMsg_localData (c : SourceController) (type : ℕ) (num num' : ByteString)
    (type' : ℕ) :
    (c.handleDataQueryMsg type num).localData num' type' = c.localData num' type' := by
  unfold SourceController.handleDataQueryMsg
  split_ifs <;> rfl

/-- The request that is handed over leaves the session for the source's mask. -/
theorem Inv.handDown {s : QuerySystem} (h : s.Inv) {num : ByteString} (hnum : Sendable num)
    {type : DistributedDataType} {rest : List DataMsg}
    (hreq : s.requests = .dataReq type.code num :: rest) (hb : s.source.session = .bound) :
    ({ s with
      requests := rest
      source := s.source.handleDataQueryMsg type.code num } : QuerySystem).Inv where
  num := h.num
  req m hm := h.req m (hreq ▸ List.mem_cons_of_mem _ hm)
  srcBound _ _ _ := (handleDataQueryMsg_session ..).trans hb
  text num' type' value hvalue := by
    rw [handleDataQueryMsg_localData] at hvalue
    exact h.text num' type' value hvalue
  kept num' type' hopen := by
    have hasks := asks_handleDataQueryMsg s.source hnum.1 type num' type'
    rcases h.kept num' type' hopen with hask | hmem | hsrc | hrsp
    · exact .inl hask
    · rcases List.mem_cons.mp (hreq ▸ hmem) with heq | hmem
      · injection heq with hcode hnum'
        refine .inr (.inr (.inl ?_))
        rw [hasks, Bool.or_eq_true, decide_eq_true_iff]
        exact .inr ⟨hnum'.symm, (code_injective hcode).symm⟩
      · exact .inr (.inl hmem)
    · exact .inr (.inr (.inl (by rw [hasks, hsrc, Bool.true_or])))
    · exact .inr (.inr (.inr hrsp))

/-- An answer that is handed over closes its query. -/
theorem Inv.handUp {s : QuerySystem} (h : s.Inv) {m : DataMsg} {rest : List DataMsg}
    (hrsp : s.responses = m :: rest) :
    ({ s with responses := rest, log := answerEvents m ++ s.log } : QuerySystem).Inv where
  num := h.num
  req := h.req
  srcBound := h.srcBound
  text := h.text
  kept num type hopen := by
    have hstill : s.Open num type ∧ ∀ value, m ≠ .dataRsp type.code num value := by
      cases m with
      | dataReq type' num' => exact ⟨hopen, fun _ => by simp⟩
      | dataRsp type' num' value' =>
        by_cases hkey : (num', type') = (num, type.code)
        · -- the last event of the query is the answer
          obtain ⟨rfl, rfl⟩ := Prod.mk.inj hkey
          have hlast : KeyedLog.last? QueryEvent.key (.answered num' type.code :: s.log)
              (num', type.code) = some (.answered num' type.code) := KeyedLog.last?_cons_self
          rw [Open, answerEvents, List.singleton_append, hlast] at hopen
          simp at hopen
        · rw [Open, answerEvents, List.singleton_append,
            KeyedLog.last?_cons_of_ne (by exact hkey)] at hopen
          refine ⟨hopen, fun value heq => hkey ?_⟩
          injection heq with htype hnum
          rw [hnum, htype]
    rcases h.kept num type hstill.1 with hask | hreq | hsrc | ⟨value, hmem⟩
    · exact .inl hask
    · exact .inr (.inl hreq)
    · exact .inr (.inr (.inl hsrc))
    · refine .inr (.inr (.inr ⟨value, ?_⟩))
      rcases List.mem_cons.mp (hrsp ▸ hmem) with heq | hmem
      · exact absurd heq.symm (hstill.2 value)
      · exact hmem

/-! ## Steps -/

/-- What every step keeps: between the steps both ends have sent all they can. -/
structure StepInv (s : QuerySystem) : Prop where
  inv : s.Inv
  sinkClear : s.sinkConnected = true → s.sink.session = .bound ∧ s.SinkClear
  sourceClear : s.SourceClear

theorem StepInv.queryStep (codec : JsonCodec) {s : QuerySystem} (h : s.StepInv) (op : QueryOp) :
    (queryStep codec s op).StepInv := by
  cases op with
  | sinkCallCreated call =>
    have hconnect : ({ s with sink := s.sink.connectRemote } : QuerySystem).Inv := by
      unfold SinkController.connectRemote
      split
      · exact h.inv
      · exact ⟨h.inv.num, h.inv.req, h.inv.srcBound, h.inv.text, h.inv.kept⟩
    refine ⟨((hconnect.check call .name).check call .location).sendReq, fun hc => ?_,
      h.sourceClear⟩
    have hb : s.sink.connectRemote.session = .bound := by
      have hbound := (h.sinkClear hc).1
      rw [SinkController.connectRemote, if_pos (by simp [hbound])]
      exact hbound
    refine ⟨?_, sinkClear_sendReq ?_⟩
    · exact (sendReq_session _).trans ((check_session ..).trans ((check_session ..).trans hb))
    · exact (check_session ..).trans ((check_session ..).trans hb)
  | sinkProcessCallInfo call type =>
    refine ⟨(h.inv.check call type).sendReq, fun hc => ?_, h.sourceClear⟩
    have hb : (s.check call type).sink.session = .bound :=
      (check_session ..).trans (h.sinkClear hc).1
    exact ⟨(sendReq_session _).trans hb, sinkClear_sendReq hb⟩
  | sinkBind =>
    unfold DistributedQuery.queryStep
    dsimp only
    split
    · next hunbound =>
      refine ⟨⟨h.inv.num, h.inv.req, h.inv.srcBound, h.inv.text, h.inv.kept⟩, fun hc => ?_,
        h.sourceClear⟩
      exact ⟨rfl, (h.sinkClear hc).2⟩
    · exact h
  | sinkConnected =>
    refine ⟨⟨h.inv.sendReq.num, h.inv.sendReq.req, h.inv.sendReq.srcBound, h.inv.sendReq.text,
      h.inv.sendReq.kept⟩, fun hc => ?_, h.sourceClear⟩
    have hb : s.sink.session = .bound := of_decide_eq_true hc
    exact ⟨(sendReq_session _).trans hb, sinkClear_sendReq hb⟩
  | sourceCallCreated call => exact h
  | sourceProcessCallInfo call type =>
    exact ⟨(h.inv.save call type).sendRsp, h.sinkClear, (h.inv.save call type).sourceClear_sendRsp⟩
  | sourceBind =>
    unfold DistributedQuery.queryStep
    dsimp only
    split
    · exact ⟨⟨h.inv.num, h.inv.req, fun _ _ _ => rfl, h.inv.text, h.inv.kept⟩, h.sinkClear,
        h.sourceClear⟩
    · exact h
  | sourceConnected => exact ⟨h.inv.sendRsp, h.sinkClear, h.inv.sourceClear_sendRsp⟩
  | deliverReq =>
    unfold DistributedQuery.queryStep
    dsimp only
    cases hreq : s.requests with
    | nil => exact h
    | cons m rest =>
      dsimp only
      split
      · next hb =>
        obtain ⟨num, type, rfl, hnum⟩ := h.inv.req m (hreq ▸ List.mem_cons_self)
        rw [handleReq_dataReq codec _ hnum type]
        have hdown := h.inv.handDown hnum hreq hb
        exact ⟨hdown.sendRsp, h.sinkClear, hdown.sourceClear_sendRsp⟩
      · exact h
  | deliverRsp =>
    unfold DistributedQuery.queryStep
    dsimp only
    cases hrsp : s.responses with
    | nil => exact h
    | cons m rest =>
      dsimp only
      split
      · exact ⟨h.inv.handUp hrsp, h.sinkClear, h.sourceClear⟩
      · exact h

theorem StepInv.queryOk {s : QuerySystem} (h : s.StepInv) : s.QueryOk where
  kept := h.inv.kept
  quiet _ := h.sourceClear
  answered := by
    rintro ⟨hreq, hrsp, -, -⟩ hc num type hdata hopen
    rcases h.inv.kept num type hopen with hask | hmem | hsrc | ⟨value, hmem⟩
    · rw [(h.sinkClear hc).2 num type] at hask
      contradiction
    · rw [hreq] at hmem
      contradiction
    · exact hdata (h.sourceClear num type hsrc)
    · rw [hrsp] at hmem
      contradiction

/-- The answers of `SendLocalDataRsp` carry what is stored. -/
theorem Inv.mem_sendRsp {s : QuerySystem} (h : s.Inv) {m : DataMsg}
    (hm : m ∈ s.sendRsp.responses) :
    m ∈ s.responses ∨ ∃ num value, ∃ type : DistributedDataType,
      m = .dataRsp type.code num value ∧
        s.sendRsp.source.localData num type.code = some value := by
  rcases QuerySystem.mem_sendRsp.mp hm with hm | ⟨-, num, value, type, -, hdata, rfl⟩
  · exact .inl hm
  · refine .inr ⟨num, cString value, type, rfl, ?_⟩
    have htext := cString_of_notMem (h.text num type.code value hdata)
    rw [sendRsp_localData, htext, hdata]

theorem StepInv.answersStored (codec : JsonCodec) {s : QuerySystem} (h : s.StepInv)
    (op : QueryOp) : s.AnswersStored codec op := by
  intro m hm
  cases op with
  | sinkCallCreated call => exact .inl hm
  | sinkProcessCallInfo call type => exact .inl hm
  | sinkBind =>
    unfold DistributedQuery.queryStep at hm
    dsimp only at hm
    split at hm <;> exact .inl hm
  | sinkConnected => exact .inl hm
  | sourceCallCreated call => exact .inl hm
  | sourceProcessCallInfo call type => exact (h.inv.save call type).mem_sendRsp hm
  | sourceBind =>
    unfold DistributedQuery.queryStep at hm
    dsimp only at hm
    split at hm <;> exact .inl hm
  | sourceConnected => exact h.inv.mem_sendRsp hm
  | deliverReq =>
    unfold DistributedQuery.queryStep at hm ⊢
    dsimp only at hm ⊢
    cases hreq : s.requests with
    | nil =>
      rw [hreq] at hm
      exact .inl hm
    | cons m' rest =>
      rw [hreq] at hm
      dsimp only at hm ⊢
      by_cases hb : s.source.session = .bound
      · rw [if_pos hb] at hm ⊢
        obtain ⟨num, type, rfl, hnum⟩ := h.inv.req m' (hreq ▸ List.mem_cons_self)
        rw [handleReq_dataReq codec _ hnum type] at hm ⊢
        exact (h.inv.handDown hnum hreq hb).mem_sendRsp hm
      · rw [if_neg hb] at hm ⊢
        exact .inl hm
  | deliverRsp =>
    unfold DistributedQuery.queryStep at hm
    dsimp only at hm
    cases hrsp : s.responses with
    | nil =>
      rw [hrsp] at hm
      exact .inl (hrsp ▸ hm)
    | cons m' rest =>
      rw [hrsp] at hm
      dsimp only at hm
      split at hm
      · exact .inl (hrsp ▸ List.mem_cons_of_mem _ hm)
      · exact .inl (hrsp ▸ hm)

/-! ## Runs -/

theorem stepInv_init (calls : List DistributedCall) : (init calls).StepInv := by
  have hq : (SourceController.onDeviceOnline calls).queryInfo = ∅ ∧
      (SourceController.onDeviceOnline calls).Texts := by
    unfold SourceController.onDeviceOnline
    refine List.foldlRecOn (motive := fun c : SourceController => c.queryInfo = ∅ ∧ c.Texts)
      calls _ ?_ ?_
    · refine ⟨rfl, ?_⟩
      intro num type value hvalue
      simp [SourceController.localData] at hvalue
    · rintro c ⟨hq, ht⟩ call -
      refine ⟨?_, (ht.saveLocalData call .name).saveLocalData call .location⟩
      rw [saveLocalData_queryInfo, saveLocalData_queryInfo, hq]
  have hclear : ∀ num type, asks (SourceController.onDeviceOnline calls).queryInfo num type =
      false := by
    intro num type
    rw [hq.1, asks_empty]
  refine ⟨⟨?_, ?_, ?_, hq.2, ?_⟩, ?_, ?_⟩
  · intro num type hask
    rw [init, asks_empty] at hask
    contradiction
  · simp [init]
  · intro num type hask
    rw [init, hclear] at hask
    contradiction
  · intro num type hopen
    simp [Open, init, KeyedLog.last?_eq_none] at hopen
  · simp [init]
  · intro num type hask
    rw [init, hclear] at hask
    contradiction

/-- **The query.** In every state of every run each open query is kept and a quiet state has
    none that the source could answer, and every step answers with what is stored. -/
theorem query_kept (codec : JsonCodec) (calls : List DistributedCall) (ops : List QueryOp) :
    Run.StatesMeet (queryStep codec) QueryOk (init calls) ops ∧
      Run.StepsMeet (queryStep codec) (AnswersStored codec) (init calls) ops := by
  have hinit := stepInv_init calls
  refine ⟨?_, ?_⟩
  · have hstates : Run.StatesMeet (queryStep codec) StepInv (init calls) ops :=
      Run.statesMeet_of_invariant (fun _ op h => h.queryStep codec op) ops hinit
    exact hstates.mono fun _ h => h.queryOk
  · exact Run.stepsMeet_of_invariant
      (fun _ op h => ⟨StepInv.queryStep codec h op, h.answersStored codec op⟩) ops hinit

/-- The sink asks for the name of the number 9, and the source learns it later. -/
def learnedNameOps : List QueryOp :=
  [.sourceBind, .sinkCallCreated ⟨[57], [], [65], by decide, by decide, by decide, by decide⟩,
    .sinkBind, .sinkConnected, .deliverReq, .sourceProcessCallInfo
      ⟨[57], [66], [], by decide, by decide, by decide, by decide⟩ .name]

theorem query_kept_learnedName :
    Run.StatesMeet (queryStep plainCodec) QueryOk (init []) learnedNameOps ∧
      Run.StepsMeet (queryStep plainCodec) (AnswersStored plainCodec) (init []) learnedNameOps :=
  query_kept plainCodec [] learnedNameOps

example :
    (Run.run (queryStep plainCodec) (init []) learnedNameOps).responses =
      [.dataRsp 0 [57] [66]] := by
  decide +kernel

end QuerySystem

end CallManager.DistributedQuery
