import CallManager.Library.Json
import CallManager.Types

/-!
# What is said to the voice assistant, and what it replies

`GetSendString` puts nine fields of a call into a JSON object and hands it to the
voice assistant; `UpdateReplyData` picks two values out of the object of the reply.
Both work on the bytes: the one puts the values between quotation marks as they are,
and the other takes quotation marks four by four.

Specification: what is sent stands for the nine keys with the values of the call, and
for nothing else. Of a reply, the first value counts that is given for each of the two
keys, and the default if none is. In any string, only whole groups count of a key and
a value between quotation marks.

A name, a number or a location with a quotation mark, a backslash or a control
character makes the object another one, or none.

Results:
* `getSendString_iff`: an object is sent as specified iff every character of its fields
  stands for itself in JSON.
* `updateReplyData_correct`: a reply is read as specified, whatever it is.
* `quote_adds_key`: a caller whose name is chosen to add a key.
-/

namespace CallManager.AssistantText

open Unicode

/-! ## Model of the code: sending -/

/-- `IncomingContactInformation` (call_voice_assistant_manager.h:33-45): what is sent of it. -/
structure IncomingContactInformation (S : Type) where
  dialOrCome : S
  phoneNumber : S
  incomingName : S
  isContact : S
  numberLocation : S
  accountId : ℤ
  callId : ℤ
  stopBroadcasting : ℤ
  callStatus : ℤ

/-- The information whose strings are the UTF-8 forms of these texts. -/
def IncomingContactInformation.encode (info : IncomingContactInformation (List Char)) :
    IncomingContactInformation ByteString where
  dialOrCome := utf8 info.dialOrCome
  phoneNumber := utf8 info.phoneNumber
  incomingName := utf8 info.incomingName
  isContact := utf8 info.isContact
  numberLocation := utf8 info.numberLocation
  accountId := info.accountId
  callId := info.callId
  stopBroadcasting := info.stopBroadcasting
  callStatus := info.callStatus

/-- `Str8ToStr16` of the platform. Well-formed strings are converted; nothing is assumed
    of others. -/
structure Converter where
  str8ToStr16 : ByteString → List UInt16
  str8ToStr16_utf8 : ∀ cs, str8ToStr16 (utf8 cs) = utf16 cs

/-- A string literal. -/
def lit (s : String) : ByteString := utf8 s.toList

/-- `std::to_string`. -/
def toDecimal (n : ℤ) : List Char :=
  if n < 0 then '-' :: Nat.toDigits 10 n.natAbs else Nat.toDigits 10 n.natAbs

/-- What `fun` of `GetSendString` appends (call_voice_assistant_manager.cpp:489-493). -/
def appended (key : String) (value : ByteString) (start isEnd : Bool) : ByteString :=
  let first := if start then lit "\x7b" else lit ""
  let last := if isEnd then lit "\x7d" else lit ","
  first ++ lit "\"" ++ lit key ++ lit "\"" ++ lit ":" ++ lit "\"" ++ value ++ lit "\"" ++ last

/-- A field that cannot be converted is cleared. -/
def checked (conv : Converter) (s : ByteString) : ByteString :=
  if conv.str8ToStr16 s = [] then lit "" else s

/-- `GetSendString` (call_voice_assistant_manager.cpp:470-504). -/
def getSendString (conv : Converter) (nowInfo : Option (IncomingContactInformation ByteString)) :
    List UInt16 :=
  match nowInfo with
  | none => []
  | some nowInfo =>
    let incomingName := checked conv nowInfo.incomingName
    let numberLocation := checked conv nowInfo.numberLocation
    let phoneNumber := checked conv nowInfo.phoneNumber
    let str :=
      appended "dialOrCome" nowInfo.dialOrCome true false ++
      appended "callStatus" (utf8 (toDecimal nowInfo.callStatus)) false false ++
      appended "callId" (utf8 (toDecimal nowInfo.callId)) false false ++
      appended "phoneNumber" phoneNumber false false ++
      appended "isContact" nowInfo.isContact false false ++
      appended "contactName" incomingName false false ++
      appended "sim" (utf8 (toDecimal nowInfo.accountId)) false false ++
      appended "stopBroadcasting" (utf8 (toDecimal nowInfo.stopBroadcasting)) false false ++
      appended "location" numberLocation false true
    conv.str8ToStr16 str

/-! ## What is to be sent -/

/-- The nine members. -/
def members (info : IncomingContactInformation (List Char)) : List (List Char × List Char) :=
  [("dialOrCome".toList, info.dialOrCome), ("callStatus".toList, toDecimal info.callStatus),
    ("callId".toList, toDecimal info.callId), ("phoneNumber".toList, info.phoneNumber),
    ("isContact".toList, info.isContact), ("contactName".toList, info.incomingName),
    ("sim".toList, toDecimal info.accountId),
    ("stopBroadcasting".toList, toDecimal info.stopBroadcasting),
    ("location".toList, info.numberLocation)]

/-- What is sent is a JSON object that stands for these members, and no others. -/
def StandsFor (sent : List UInt16) (ms : List (List Char × List Char)) : Prop :=
  ∀ decoded, Json.Decodes (ofUTF16 sent) decoded ↔ decoded = ms.map Json.encodeMember

/-- Every character of the fields stands for itself in JSON: it is no quotation mark, no
    backslash and no control character. -/
def AllPlain (info : IncomingContactInformation (List Char)) : Prop :=
  ∀ field ∈ [info.dialOrCome, info.phoneNumber, info.isContact, info.incomingName,
    info.numberLocation], ∀ c ∈ field, Json.IsPlain c

instance (info : IncomingContactInformation (List Char)) : Decidable (AllPlain info) :=
  inferInstanceAs (Decidable (∀ _ ∈ _, _))

/-! ## What is sent -/

theorem isPlain_of_isDigit {c : Char} (h : c.isDigit) : Json.IsPlain c := by
  unfold Char.isDigit at h
  rw [Bool.and_eq_true, decide_eq_true_eq, decide_eq_true_eq] at h
  have hlow : 48 ≤ c.toNat := h.1
  refine ⟨by omega, ?_, ?_⟩
  · rintro rfl
    exact absurd h (by decide)
  · rintro rfl
    exact absurd h (by decide)

/-- A number is written in characters that stand for themselves. -/
theorem isPlain_toDecimal (n : ℤ) : ∀ c ∈ toDecimal n, Json.IsPlain c := by
  have hdigits : ∀ c ∈ Nat.toDigits 10 n.natAbs, Json.IsPlain c := fun c hc =>
    isPlain_of_isDigit (Nat.isDigit_of_mem_toDigits (by decide) (by decide) hc)
  unfold toDecimal
  split
  · rw [List.forall_mem_cons]
    exact ⟨by decide, hdigits⟩
  · exact hdigits

/-- A field that is well formed is sent as it is. -/
theorem checked_utf8 (conv : Converter) (cs : List Char) :
    checked conv (utf8 cs) = utf8 cs := by
  unfold checked
  rw [conv.str8ToStr16_utf8]
  by_cases hnil : utf16 cs = []
  · rw [if_pos hnil, utf16_eq_nil hnil]
    rfl
  · rw [if_neg hnil]

/-- What is sent is the object of the members, written without white space and escapes. -/
theorem getSendString_encode (conv : Converter) (info : IncomingContactInformation (List Char)) :
    getSendString conv (some info.encode) = utf16 ((Json.compact (members info)).text id) := by
  rw [← conv.str8ToStr16_utf8]
  unfold getSendString IncomingContactInformation.encode
  dsimp only
  rw [checked_utf8, checked_utf8, checked_utf8]
  unfold appended lit
  simp only [← utf8_append, if_true, if_false, Bool.false_eq_true]
  refine congrArg conv.str8ToStr16 (congrArg utf8 ?_)
  have hquote : "\"".toList = ['"'] := rfl
  have hcolon : ":".toList = [':'] := rfl
  have hcomma : ",".toList = [','] := rfl
  have hopen : "\x7b".toList = ['{'] := rfl
  have hclose : "\x7d".toList = ['}'] := rfl
  have hempty : "".toList = [] := rfl
  rw [hquote, hcolon, hcomma, hopen, hclose, hempty]
  unfold members Json.compact Json.Object.text Json.Object.body
  simp only [List.map_cons, List.map_nil, Json.Member.text, Json.tailText, Json.Blank.none,
    List.flatMap_cons, List.flatMap_nil, List.append_assoc, List.cons_append, List.nil_append,
    List.append_nil, id_eq]

/-- The keys and the numbers are written in characters that stand for themselves. -/
theorem members_plain_iff (info : IncomingContactInformation (List Char)) :
    (∀ m ∈ members info, (∀ c ∈ m.1, Json.IsPlain c) ∧ ∀ c ∈ m.2, Json.IsPlain c) ↔
      AllPlain info := by
  unfold members AllPlain
  simp only [List.forall_mem_cons, List.not_mem_nil, false_imp_iff, implies_true, and_true]
  have hkeys : ∀ key ∈ ["dialOrCome", "callStatus", "callId", "phoneNumber", "isContact",
      "contactName", "sim", "stopBroadcasting", "location"],
      ∀ c ∈ key.toList, Json.IsPlain c := by decide
  simp only [List.forall_mem_cons, List.not_mem_nil, false_imp_iff, implies_true, and_true]
    at hkeys
  obtain ⟨h₁, h₂, h₃, h₄, h₅, h₆, h₇, h₈, h₉⟩ := hkeys
  have hnumber := isPlain_toDecimal
  constructor
  · rintro ⟨⟨-, hdial⟩, -, -, ⟨-, hphone⟩, ⟨-, hcontact⟩, ⟨-, hname⟩, -, -, -, hlocation⟩
    exact ⟨hdial, hphone, hcontact, hname, hlocation⟩
  · rintro ⟨hdial, hphone, hcontact, hname, hlocation⟩
    exact ⟨⟨h₁, hdial⟩, ⟨h₂, hnumber _⟩, ⟨h₃, hnumber _⟩, ⟨h₄, hphone⟩, ⟨h₅, hcontact⟩,
      ⟨h₆, hname⟩, ⟨h₇, hnumber _⟩, ⟨h₈, hnumber _⟩, h₉, hlocation⟩

/-- A text that stands for some members stands for no others. -/
theorem standsFor_iff (cs : List Char) (ms : List (List Char × List Char)) :
    StandsFor (utf16 cs) ms ↔ Json.Decodes cs (ms.map Json.encodeMember) := by
  unfold StandsFor
  rw [ofUTF16_utf16]
  constructor
  · exact fun h => (h _).mpr rfl
  · intro h decoded
    constructor
    · exact fun hdecoded => hdecoded.unique h
    · rintro rfl
      exact h

/-- The object of the members stands for them iff every character stands for itself. -/
theorem standsFor_compact_iff (info : IncomingContactInformation (List Char)) :
    StandsFor (utf16 ((Json.compact (members info)).text id)) (members info) ↔ AllPlain info := by
  rw [standsFor_iff, ← members_plain_iff info]
  exact Json.decodes_compact_iff (List.cons_ne_nil _ _)

/-- **What is sent stands for the fields**, whatever they are, iff every character of
    them stands for itself in JSON. -/
theorem getSendString_iff (conv : Converter) (info : IncomingContactInformation (List Char)) :
    StandsFor (getSendString conv (some info.encode)) (members info) ↔ AllPlain info := by
  rw [getSendString_encode]
  exact standsFor_compact_iff info

/-- A converter that gives up on a malformed string. -/
def Converter.strict : Converter := ⟨strictUTF16, strictUTF16_utf8⟩

/-- A call that rings, of a caller of this name. -/
def callFrom (name : String) : IncomingContactInformation (List Char) where
  dialOrCome := "INCOMING".toList
  phoneNumber := "10086".toList
  incomingName := name.toList
  isContact := "1".toList
  numberLocation := "default".toList
  accountId := 0
  callId := 1
  stopBroadcasting := 0
  callStatus := 5

theorem plain_name_sent :
    StandsFor (getSendString Converter.strict (some (callFrom "Ann").encode))
      (members (callFrom "Ann")) :=
  (getSendString_iff Converter.strict (callFrom "Ann")).mpr (by decide)

/-- A caller whose name closes its string and gives the call another id. -/
theorem quote_adds_key :
    ¬ ∀ (conv : Converter) (info : IncomingContactInformation (List Char)),
      StandsFor (getSendString conv (some info.encode)) (members info) := by
  intro hall
  have hsent := hall Converter.strict (callFrom "Ann\",\"callId\":\"7")
  rw [getSendString_encode, standsFor_compact_iff] at hsent
  exact absurd hsent (by decide)

/-! ## Model of the code: the reply

`none` stands for an exception of `std::string::substr`. -/

/-- The quotation mark. -/
def quote : UInt8 := 0x22

/-- `str.find("\"", pos)`: the first quotation mark from a position on. -/
def find (str : ByteString) (pos : ℕ) : Option ℕ :=
  ((str.drop pos).findIdx? fun c => c = quote).map (pos + ·)

/-- `str.substr(pos, count)`. -/
def substr (str : ByteString) (pos count : ℕ) : Option ByteString :=
  if str.length < pos then none else some ((str.drop pos).take count)

/-- What a search of the loop comes to: a text between quotation marks, and where the
    second of them stands; or the loop ends. -/
def quoted (str : ByteString) (pos2 : ℕ) : Option (Option (ByteString × ℕ)) :=
  match find str (pos2 + 1) with
  | none => some none
  | some pos1 =>
    match find str (pos1 + 1) with
    | none => some none
    | some pos2 =>
      match substr str (pos1 + 1) (pos2 - pos1 - 1) with
      | none => none
      | some text => some (some (text, pos2))

/-- A turn of the loop (call_voice_assistant_manager.cpp:795-814): what it inserts, and the
    position it leaves in `pos2`; or the loop ends. -/
def turn (str : ByteString) (pos2 : ℕ) : Option (Option ((ByteString × ByteString) × ℕ)) :=
  match quoted str pos2 with
  | none => none
  | some none => some none
  | some (some (key, pos2)) =>
    match quoted str pos2 with
    | none => none
    | some none => some none
    | some (some (value, pos2)) => some (some ((key, value), pos2))

/-- `std::map::insert`, which keeps the entry that a key has. -/
def insert (replyData : List (ByteString × ByteString)) (entry : ByteString × ByteString) :
    List (ByteString × ByteString) :=
  if (replyData.lookup entry.1).isSome then replyData else replyData ++ [entry]

theorem find_bounds {str : ByteString} {pos p : ℕ} (h : find str pos = some p) :
    pos ≤ p ∧ p < str.length := by
  unfold find at h
  obtain ⟨i, hi, rfl⟩ := Option.map_eq_some_iff.mp h
  have hlt := (List.findIdx?_eq_some_iff_getElem.mp hi).1
  rw [List.length_drop] at hlt
  omega

theorem quoted_bounds {str text : ByteString} {pos2 p : ℕ}
    (h : quoted str pos2 = some (some (text, p))) : pos2 < p ∧ p < str.length := by
  unfold quoted at h
  cases hpos1 : find str (pos2 + 1) with
  | none =>
    rw [hpos1] at h
    cases h
  | some pos1 =>
    rw [hpos1] at h
    dsimp only at h
    cases hpos2 : find str (pos1 + 1) with
    | none =>
      rw [hpos2] at h
      cases h
    | some pos2' =>
      rw [hpos2] at h
      dsimp only at h
      have h₁ := find_bounds hpos1
      have h₂ := find_bounds hpos2
      cases htext : substr str (pos1 + 1) (pos2' - pos1 - 1) with
      | none =>
        rw [htext] at h
        cases h
      | some text =>
        rw [htext] at h
        cases h
        omega

/-- A turn that inserts an entry goes on, inside the string. -/
theorem turn_bounds {str : ByteString} {pos2 p : ℕ} {entry : ByteString × ByteString}
    (h : turn str pos2 = some (some (entry, p))) : pos2 < p ∧ p < str.length := by
  unfold turn at h
  cases hkey : quoted str pos2 with
  | none =>
    rw [hkey] at h
    cases h
  | some key =>
    cases key with
    | none =>
      rw [hkey] at h
      cases h
    | some key =>
      rw [hkey] at h
      dsimp only at h
      have h₁ := quoted_bounds hkey
      cases hvalue : quoted str key.2 with
      | none =>
        rw [hvalue] at h
        cases h
      | some value =>
        cases value with
        | none =>
          rw [hvalue] at h
          cases h
        | some value =>
          have h₂ := quoted_bounds hvalue
          rw [hvalue] at h
          cases h
          omega

/-- The loop. -/
def scan (str : ByteString) (pos2 : ℕ) (replyData : List (ByteString × ByteString)) :
    Option (List (ByteString × ByteString)) :=
  match h : turn str pos2 with
  | none => none
  | some none => some replyData
  | some (some (entry, p)) =>
    have := turn_bounds h
    scan str p (insert replyData entry)
termination_by str.length - pos2

/-- `controlCheck` and `broadcastCheck`. -/
structure ReplyChecks where
  controlCheck : ByteString
  broadcastCheck : ByteString
  deriving DecidableEq

/-- `CONTROL_CHECK_RESULT`. -/
def controlCheckResult : ByteString := lit "incomingCallVoiceControlCheckResult"

/-- `BROADCAST_CHECK_RESULT`. -/
def broadcastCheckResult : ByteString := lit "incomingCallVoiceBroadcastCheckResult"

/-- What is found for the two keys, `SWITCH_TURN_OFF` and the empty string by default. -/
def checksOf (replyData : List (ByteString × ByteString)) : ReplyChecks where
  controlCheck := (replyData.lookup controlCheckResult).getD (lit "0")
  broadcastCheck := (replyData.lookup broadcastCheckResult).getD (lit "")

/-- `UpdateReplyData` (call_voice_assistant_manager.cpp:789-827). -/
def updateReplyData (str : ByteString) : Option ReplyChecks := (scan str 0 []).map checksOf

/-! ## What a reply says -/

/-- The groups of four quotation marks of a string, one after the other: what stands
    between the first two, and between the last two. -/
inductive Groups : ByteString → List (ByteString × ByteString) → Prop
  | stop {s : ByteString} (few : s.count quote < 4) : Groups s []
  | group {t₀ key t₁ value rest : ByteString} {pairs : List (ByteString × ByteString)}
      (h₀ : quote ∉ t₀) (hkey : quote ∉ key) (h₁ : quote ∉ t₁) (hvalue : quote ∉ value)
      (tail : Groups rest pairs) :
      Groups (t₀ ++ quote :: (key ++ quote :: (t₁ ++ quote :: (value ++ quote :: rest))))
        ((key, value) :: pairs)

/-- A string of a reply: what stands between its quotation marks, none of them in it. -/
abbrev ReplyText := {cs : List Char // '"' ∉ cs}

/-- The members of an object, as strings. -/
def pairsOf (o : Json.Object ReplyText) : List (ByteString × ByteString) :=
  o.members.map fun m => (utf8 m.key.1, utf8 m.value.1)

/-- The string of an object. -/
def replyOf (o : Json.Object ReplyText) : ByteString := utf8 (o.text Subtype.val)

/-! ## The loop -/

theorem scan_eq (str : ByteString) (pos2 : ℕ) (replyData : List (ByteString × ByteString)) :
    scan str pos2 replyData =
      match turn str pos2 with
      | none => none
      | some none => some replyData
      | some (some (entry, p)) => scan str p (insert replyData entry) := by
  rw [scan]
  split <;> simp_all

/-- The first quotation mark from a position on. -/
theorem find_of_append {str t rest : ByteString} {pos : ℕ} (ht : quote ∉ t)
    (h : str.drop pos = t ++ quote :: rest) :
    find str pos = some (pos + t.length) ∧ str.drop (pos + t.length + 1) = rest := by
  constructor
  · have hindex : (t ++ quote :: rest).findIdx? (fun c => c = quote) = some t.length := by
      rw [List.findIdx?_eq_some_iff_getElem]
      refine ⟨by simp, by simp, fun j hj => ?_⟩
      rw [List.getElem_append_left hj, decide_eq_true_eq]
      exact fun heq => ht (heq ▸ List.getElem_mem hj)
    unfold find
    rw [h, hindex]
    rfl
  · rw [Nat.add_assoc, ← List.drop_drop, h, ← List.drop_drop, List.drop_left]
    rfl

theorem find_of_notMem {str : ByteString} {pos : ℕ} (h : quote ∉ str.drop pos) :
    find str pos = none := by
  unfold find
  rw [Option.map_eq_none_iff, List.findIdx?_eq_none_iff]
  exact fun c hc => decide_eq_false fun heq => h (heq ▸ hc)

/-- A list that has an element is cut at the first one. -/
theorem exists_cut {s : ByteString} (h : quote ∈ s) :
    ∃ t rest, s = t ++ quote :: rest ∧ quote ∉ t ∧ s.count quote = rest.count quote + 1 := by
  obtain ⟨t, rest, rfl, ht⟩ := List.eq_append_cons_of_mem h
  refine ⟨t, rest, rfl, ht, ?_⟩
  rw [List.count_append, List.count_eq_zero.mpr ht, List.count_cons_self, Nat.zero_add]

/-- A text between quotation marks is found. -/
theorem quoted_of_append {str t₀ text rest : ByteString} {pos2 : ℕ} (h₀ : quote ∉ t₀)
    (htext : quote ∉ text)
    (h : str.drop (pos2 + 1) = t₀ ++ quote :: (text ++ quote :: rest)) :
    ∃ p, quoted str pos2 = some (some (text, p)) ∧ str.drop (p + 1) = rest := by
  obtain ⟨hpos1, hdrop1⟩ := find_of_append h₀ h
  obtain ⟨hpos2, hdrop2⟩ := find_of_append htext hdrop1
  refine ⟨_, ?_, hdrop2⟩
  have hlength : ¬ str.length < pos2 + 1 + t₀.length + 1 := by
    have hlt := (find_bounds hpos2).1
    have hle := (find_bounds hpos2).2
    omega
  have hcount : pos2 + 1 + t₀.length + 1 + text.length - (pos2 + 1 + t₀.length) - 1 =
      text.length := by omega
  unfold quoted substr
  rw [hpos1]
  dsimp only
  rw [hpos2]
  dsimp only
  rw [if_neg hlength, hdrop1, hcount, List.take_left]

/-- Without two quotation marks the loop ends. -/
theorem quoted_of_few {str : ByteString} {pos2 : ℕ}
    (h : (str.drop (pos2 + 1)).count quote < 2) : quoted str pos2 = some none := by
  unfold quoted
  by_cases hmem : quote ∈ str.drop (pos2 + 1)
  · obtain ⟨t, rest, heq, ht, hcount⟩ := exists_cut hmem
    obtain ⟨hpos1, hdrop⟩ := find_of_append ht heq
    have hnone : quote ∉ str.drop (pos2 + 1 + t.length + 1) := by
      rw [hdrop, ← List.count_eq_zero]
      omega
    rw [hpos1]
    dsimp only
    rw [find_of_notMem hnone]
  · rw [find_of_notMem hmem]

/-- A turn takes the first group. -/
theorem turn_of_group {str t₀ key t₁ value rest : ByteString} {pos2 : ℕ} (h₀ : quote ∉ t₀)
    (hkey : quote ∉ key) (h₁ : quote ∉ t₁) (hvalue : quote ∉ value)
    (h : str.drop (pos2 + 1) =
      t₀ ++ quote :: (key ++ quote :: (t₁ ++ quote :: (value ++ quote :: rest)))) :
    ∃ p, turn str pos2 = some (some ((key, value), p)) ∧ str.drop (p + 1) = rest := by
  obtain ⟨p₁, hquoted₁, hdrop₁⟩ := quoted_of_append h₀ hkey h
  obtain ⟨p₂, hquoted₂, hdrop₂⟩ := quoted_of_append h₁ hvalue hdrop₁
  refine ⟨p₂, ?_, hdrop₂⟩
  unfold turn
  rw [hquoted₁]
  dsimp only
  rw [hquoted₂]

/-- Without four quotation marks the loop ends. -/
theorem turn_of_few {str : ByteString} {pos2 : ℕ}
    (h : (str.drop (pos2 + 1)).count quote < 4) : turn str pos2 = some none := by
  unfold turn
  by_cases hfew : (str.drop (pos2 + 1)).count quote < 2
  · rw [quoted_of_few hfew]
  · obtain ⟨t₀, rest, heq, h₀, hcount⟩ :=
      exists_cut (List.count_pos_iff.mp (by omega : 0 < (str.drop (pos2 + 1)).count quote))
    obtain ⟨key, rest', rfl, hkey, hcount'⟩ :=
      exists_cut (List.count_pos_iff.mp (by omega : 0 < rest.count quote))
    obtain ⟨p, hquoted, hdrop⟩ := quoted_of_append h₀ hkey heq
    rw [hquoted]
    dsimp only
    rw [quoted_of_few (by rw [hdrop]; omega)]

/-- The loop takes the groups one after the other. -/
theorem scan_of_groups {str s : ByteString} {pairs : List (ByteString × ByteString)}
    (h : Groups s pairs) {pos2 : ℕ} (hdrop : str.drop (pos2 + 1) = s)
    (replyData : List (ByteString × ByteString)) :
    scan str pos2 replyData = some (pairs.foldl insert replyData) := by
  induction h generalizing pos2 replyData with
  | stop few =>
    rw [scan_eq, turn_of_few (by rw [hdrop]; exact few)]
    rfl
  | group h₀ hkey h₁ hvalue _ ih =>
    obtain ⟨p, hturn, hnext⟩ := turn_of_group h₀ hkey h₁ hvalue hdrop
    rw [scan_eq, hturn]
    exact ih hnext _

/-- Every string has groups. -/
theorem exists_groups (s : ByteString) : ∃ pairs, Groups s pairs := by
  -- induction on the number of quotation marks
  induction hn : s.count quote using Nat.strong_induction_on generalizing s with
  | _ n ih =>
    by_cases hfew : s.count quote < 4
    · exact ⟨[], .stop hfew⟩
    · obtain ⟨t₀, r₁, rfl, h₀, hc₁⟩ :=
        exists_cut (List.count_pos_iff.mp (by omega : 0 < s.count quote))
      obtain ⟨key, r₂, rfl, hkey, hc₂⟩ :=
        exists_cut (List.count_pos_iff.mp (by omega : 0 < r₁.count quote))
      obtain ⟨t₁, r₃, rfl, h₁, hc₃⟩ :=
        exists_cut (List.count_pos_iff.mp (by omega : 0 < r₂.count quote))
      obtain ⟨value, r₄, rfl, hvalue, hc₄⟩ :=
        exists_cut (List.count_pos_iff.mp (by omega : 0 < r₃.count quote))
      obtain ⟨pairs, htail⟩ := ih (r₄.count quote) (by omega) r₄ rfl
      exact ⟨_, .group h₀ hkey h₁ hvalue htail⟩

/-! ## The entries -/

theorem lookup_insert (replyData : List (ByteString × ByteString))
    (entry : ByteString × ByteString) (key : ByteString) :
    (insert replyData entry).lookup key = (replyData.lookup key).or ([entry].lookup key) := by
  unfold insert
  by_cases hsome : (replyData.lookup entry.1).isSome = true
  · rw [if_pos hsome]
    by_cases hkey : key = entry.1
    · subst hkey
      obtain ⟨value, hvalue⟩ := Option.isSome_iff_exists.mp hsome
      rw [hvalue]
      rfl
    · have hnone : [entry].lookup key = none := by
        rw [List.lookup_eq_none_iff]
        intro e he
        rw [List.mem_singleton.mp he]
        exact bne_iff_ne.mpr hkey
      rw [hnone, Option.or_none]
  · rw [if_neg hsome, List.lookup_append]

/-- The first entry for a key counts. -/
theorem lookup_foldl_insert (pairs replyData : List (ByteString × ByteString))
    (key : ByteString) :
    (pairs.foldl insert replyData).lookup key =
      (replyData.lookup key).or (pairs.lookup key) := by
  induction pairs generalizing replyData with
  | nil => exact (Option.or_none).symm
  | cons entry pairs ih =>
    rw [List.foldl_cons, ih, lookup_insert, Option.or_assoc, ← List.lookup_append]
    rfl

/-- The reply is read from its groups, beginning with the second byte. -/
theorem updateReplyData_of_groups {str : ByteString} {pairs : List (ByteString × ByteString)}
    (h : Groups (str.drop 1) pairs) : updateReplyData str = some (checksOf pairs) := by
  unfold updateReplyData
  rw [scan_of_groups h rfl]
  refine congrArg some ?_
  unfold checksOf
  rw [lookup_foldl_insert, lookup_foldl_insert]
  rfl

/-! ## Objects -/

theorem quote_mem_utf8 (cs : List Char) : quote ∈ utf8 cs ↔ '"' ∈ cs :=
  mem_utf8_iff (by decide) cs

theorem quote_notMem_blank (b : Json.Blank) : quote ∉ utf8 b.text := by
  rw [quote_mem_utf8]
  exact fun h => absurd (b.blank _ h) (by decide)

/-- What stands before the groups is left out. -/
theorem Groups.prepend {t s : ByteString} {pairs : List (ByteString × ByteString)}
    (ht : quote ∉ t) (h : Groups s pairs) : Groups (t ++ s) pairs := by
  cases h with
  | stop few =>
    refine .stop ?_
    rw [List.count_append, List.count_eq_zero.mpr ht, Nat.zero_add]
    exact few
  | @group t₀ _ _ _ _ _ h₀ hkey h₁ hvalue tail =>
    have hpre : quote ∉ t ++ t₀ := by
      rw [List.mem_append]
      exact fun h => h.elim ht h₀
    have hgroup := Groups.group hpre hkey h₁ hvalue tail
    rwa [List.append_assoc] at hgroup

/-- A member is a group. -/
theorem groups_member (m : Json.Member ReplyText) {rest : ByteString}
    {pairs : List (ByteString × ByteString)} (h : Groups rest pairs) :
    Groups (utf8 (m.text Subtype.val) ++ rest)
      ((utf8 m.key.1, utf8 m.value.1) :: pairs) := by
  have hkey : quote ∉ utf8 m.key.1 := (quote_mem_utf8 _).not.mpr m.key.2
  have hvalue : quote ∉ utf8 m.value.1 := (quote_mem_utf8 _).not.mpr m.value.2
  have hbetween : quote ∉ utf8 (m.afterKey.text ++ ':' :: m.beforeValue.text) := by
    have hafter := (quote_mem_utf8 _).not.mp (quote_notMem_blank m.afterKey)
    have hbefore := (quote_mem_utf8 _).not.mp (quote_notMem_blank m.beforeValue)
    rw [quote_mem_utf8, List.mem_append, List.mem_cons]
    exact fun h => h.elim hafter fun h => h.elim (by decide) hbefore
  have hgroup := Groups.group (quote_notMem_blank m.beforeKey) hkey hbetween hvalue
    (h.prepend (quote_notMem_blank m.afterValue))
  have htext : utf8 (m.text Subtype.val) ++ rest =
      utf8 m.beforeKey.text ++ quote :: (utf8 m.key.1 ++ quote ::
        (utf8 (m.afterKey.text ++ ':' :: m.beforeValue.text) ++ quote ::
          (utf8 m.value.1 ++ quote :: (utf8 m.afterValue.text ++ rest)))) := by
    have hquote : String.utf8EncodeChar '"' = [quote] := by decide
    unfold Json.Member.text
    simp only [utf8_append, utf8_cons, hquote, List.append_assoc, List.cons_append,
      List.nil_append]
  rw [htext]
  exact hgroup

/-- The further members of an object, and the end of it. -/
theorem groups_tail (ms : List (Json.Member ReplyText)) {rest : ByteString}
    (h : quote ∉ rest) :
    Groups (utf8 (Json.tailText Subtype.val ms) ++ rest)
      (ms.map fun m => (utf8 m.key.1, utf8 m.value.1)) := by
  induction ms with
  | nil =>
    refine .stop ?_
    rw [show utf8 (Json.tailText Subtype.val ([] : List (Json.Member ReplyText))) ++ rest = rest
      from rfl, List.count_eq_zero.mpr h]
    decide
  | cons m ms ih =>
    rw [Json.tailText_cons, utf8_cons, utf8_append, List.append_assoc, List.append_assoc]
    exact (groups_member m ih).prepend (by decide)

/-- The groups of an object are its members, without the first byte also. -/
theorem groups_replyOf (o : Json.Object ReplyText) :
    Groups ((replyOf o).drop 1) (pairsOf o) := by
  have hend : quote ∉ utf8 ('}' :: o.after.text) := by
    have hafter := (quote_mem_utf8 _).not.mp (quote_notMem_blank o.after)
    rw [quote_mem_utf8, List.mem_cons]
    exact fun h => h.elim (by decide) hafter
  have hbody : Groups (utf8 (o.body Subtype.val) ++ utf8 ('}' :: o.after.text)) (pairsOf o) := by
    unfold Json.Object.body pairsOf
    cases o.members with
    | nil =>
      refine .stop ?_
      rw [List.count_append, List.count_eq_zero.mpr hend,
        List.count_eq_zero.mpr (quote_notMem_blank o.blank)]
      decide
    | cons m ms =>
      dsimp only
      rw [utf8_append, List.append_assoc]
      exact groups_member m (groups_tail ms hend)
  -- the first byte is one of the white space, or the brace
  have hstart : quote ∉ utf8 (o.before.text ++ ['{']) := by
    have hbefore := (quote_mem_utf8 _).not.mp (quote_notMem_blank o.before)
    rw [quote_mem_utf8, List.mem_append, List.mem_singleton]
    exact fun h => h.elim hbefore (by decide)
  have htext : replyOf o = utf8 (o.before.text ++ ['{']) ++
      (utf8 (o.body Subtype.val) ++ utf8 ('}' :: o.after.text)) := by
    unfold replyOf Json.Object.text
    rw [← utf8_append, ← utf8_append, List.append_assoc]
    rfl
  have hne : 1 ≤ (utf8 (o.before.text ++ ['{'])).length := by
    rw [utf8_append, List.length_append]
    exact Nat.le_add_left 1 _
  rw [htext, List.drop_append_of_le_length hne]
  exact hbody.prepend fun h => hstart (List.mem_of_mem_drop h)

/-- **A reply is read as it is meant.** Of an object of strings without quotation marks in
    them, the first value counts that is given for each key; of any other string, the
    whole groups of four quotation marks behind its first byte. The function ends on all
    of them, and takes no part of a string that is not there. -/
theorem updateReplyData_correct :
    (∀ o : Json.Object ReplyText, updateReplyData (replyOf o) = some (checksOf (pairsOf o))) ∧
      ∀ str, ∃ pairs, Groups (str.drop 1) pairs ∧ updateReplyData str = some (checksOf pairs) := by
  refine ⟨fun o => updateReplyData_of_groups (groups_replyOf o), fun str => ?_⟩
  obtain ⟨pairs, hgroups⟩ := exists_groups (str.drop 1)
  exact ⟨pairs, hgroups, updateReplyData_of_groups hgroups⟩

end CallManager.AssistantText
