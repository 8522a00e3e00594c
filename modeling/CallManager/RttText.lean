import CallManager.Library.Run
import CallManager.Library.Unicode
import CallManager.Types

/-!
# The outgoing text of a real-time text call

`SendRttMessage` appends the text to `sendStream_`. The sender thread takes the
stream as a string of UTF-16 units, cuts off 30 units at most, hands them to
`SendDataToProxy` as UTF-8, and removes as many bytes from the stream as that
has.

Specification (`Lossless`): what was handed on, together, is a prefix of what was
given, and all of it when the stream is empty; and each piece is a text of 30
units and 500 bytes at most.

A cut between the two units of a pair leaves the first one at the end of the
piece, which becomes U+FFFD: three bytes in place of the first three of four.

Results:
* `rtt_text_lossless`: the runs that keep the specification are those in which no
  cut comes before the second unit of a pair.
* `pair_split`: 29 letters and a character of two units.
-/

namespace CallManager.RttText

open Unicode

/-! ## Model of the code -/

/-- `icu::UnicodeString(const char *, "UTF-8")`: the UTF-16 units of a string. Well-formed
    strings are converted; nothing is assumed of others. -/
structure Icu where
  fromUTF8 : ByteString → List UInt16
  fromUTF8_utf8 : ∀ cs, fromUTF8 (utf8 cs) = utf16 cs

/-- `MAX_SEND_MSG_LEN`. -/
def maxSendMsgLen : ℕ := 30

/-- `MAX_RTT_DATA_LEN`. -/
def maxRttDataLen : ℕ := 500

/-- `ProxyVoiceRttTxNtf` (ims_rtt_manager.h:44-49). -/
structure ProxyVoiceRttTxNtf where
  msgId : ℕ
  channelId : BitVec 16
  dataLen : ℕ
  data : ByteString
  deriving DecidableEq, Repr

/-- What `SendDataToProxy` writes, if the payload fits (ims_rtt_manager.cpp:161-189). -/
def sendDataToProxy (channelId : BitVec 16) (sendMessage : ByteString) :
    Option ProxyVoiceRttTxNtf :=
  if maxRttDataLen < sendMessage.length then none
  else some ⟨0xDFD1, channelId, sendMessage.length, sendMessage⟩

/-- `ReadStreamData` (lines 149-159): what it reads, and what is left of the stream. -/
def readStreamData (icu : Icu) (sendStream : ByteString) (msgSendLength : ℕ) :
    ByteString × ByteString :=
  let uStr := icu.fromUTF8 (cString sendStream)
  let numToSend := min uStr.length msgSendLength
  if numToSend = 0 then ([], sendStream)
  else
    let sendMessage := utf8 (ofUTF16 (uStr.take numToSend))
    (sendMessage, sendStream.drop sendMessage.length)

/-- The cut does not come before the second unit of a pair. -/
def CutOk (icu : Icu) (sendStream : ByteString) : Prop :=
  ∀ u ∈ (icu.fromUTF8 (cString sendStream))[maxSendMsgLen]?, ¬ IsTrail u

/-- `sendStream_`, with a record of the payloads handed to `SendDataToProxy` and of
    the text given to `SendRttMessage`. -/
structure RttTextWorld where
  sendStream : ByteString
  payloads : List ByteString
  given : List Char
  deriving DecidableEq

/-- A message comes, or the sender loop goes round. -/
inductive RttTextOp
  | sendRttMessage (rttMessage : String)
  | sendThreadLoop
  deriving DecidableEq

namespace RttTextWorld

/-- `SendRttMessage` (lines 276-282). -/
def sendRttMessage (w : RttTextWorld) (rttMessage : String) : RttTextWorld :=
  { w with
    sendStream := w.sendStream ++ utf8 rttMessage.toList
    given := w.given ++ rttMessage.toList }

/-- One round of `SendThreadLoop` (lines 118-147). -/
def sendThreadLoop (icu : Icu) (w : RttTextWorld) : RttTextWorld :=
  let (messageToSend, sendStream) := readStreamData icu w.sendStream maxSendMsgLen
  if messageToSend = [] then { w with sendStream }
  else { w with sendStream, payloads := w.payloads ++ [messageToSend] }

/-- One operation. -/
def step (icu : Icu) (w : RttTextWorld) : RttTextOp → RttTextWorld
  | .sendRttMessage rttMessage => w.sendRttMessage rttMessage
  | .sendThreadLoop => w.sendThreadLoop icu

/-- Nothing to send. -/
def init : RttTextWorld := ⟨[], [], []⟩

/-! ## Specification -/

/-- A text that fits in one message. -/
def Payload (payload : ByteString) : Prop :=
  (∃ cs, payload = utf8 cs ∧ (utf16 cs).length ≤ maxSendMsgLen) ∧ payload.length ≤ maxRttDataLen

/-- Nothing is lost, doubled or changed. -/
structure Lossless (w : RttTextWorld) : Prop where
  isPrefix : w.payloads.flatten <+: utf8 w.given
  all : w.sendStream = [] → w.payloads.flatten = utf8 w.given
  payload : ∀ payload ∈ w.payloads, Payload payload

/-- The condition on an operation. -/
def StepOk (icu : Icu) (w : RttTextWorld) : RttTextOp → Prop
  | .sendRttMessage _ => True
  | .sendThreadLoop => CutOk icu w.sendStream

end RttTextWorld

/-! ## One piece of the stream -/

/-- The C string of a text ends before its first U+0000. -/
theorem cString_utf8 (cs : List Char) :
    cString (utf8 cs) = utf8 (cs.takeWhile fun c => c ≠ Char.ofNat 0) := by
  induction cs with
  | nil => rfl
  | cons c cs ih =>
    by_cases hzero : c = Char.ofNat 0
    · subst hzero
      rfl
    · have hnot : 0 ∉ String.utf8EncodeChar c := mt (zero_mem_utf8EncodeChar c).mp hzero
      rw [utf8_cons, cString_append hnot, ih, List.takeWhile_cons,
        if_pos (decide_eq_true hzero), utf8_cons]

/-- What `ReadStreamData` does when the units it takes are those of a prefix. -/
theorem readStreamData_of_take (icu : Icu) {pre post rest : List Char} (hrest : rest = pre ++ post)
    (htake : (icu.fromUTF8 (cString (utf8 rest))).take
      (min (icu.fromUTF8 (cString (utf8 rest))).length maxSendMsgLen) = utf16 pre) :
    readStreamData icu (utf8 rest) maxSendMsgLen = (utf8 pre, utf8 post) := by
  unfold readStreamData
  dsimp only
  split_ifs with hnum
  · rw [hnum, List.take_zero] at htake
    have hpre : pre = [] := utf16_eq_nil htake.symm
    rw [hrest, hpre, List.nil_append]
    rfl
  · rw [htake, ofUTF16_utf16, hrest, utf8_append, List.drop_left]

/-- What is read of a stream that is a text: a prefix of it, unless the cut comes inside a pair. -/
theorem readStreamData_utf8 (icu : Icu) (rest : List Char) :
    (CutOk icu (utf8 rest) ∧ ∃ pre post, rest = pre ++ post ∧
      (utf16 pre).length ≤ maxSendMsgLen ∧
      readStreamData icu (utf8 rest) maxSendMsgLen = (utf8 pre, utf8 post)) ∨
    (¬ CutOk icu (utf8 rest) ∧ ∃ pre c post, rest = pre ++ c :: post ∧ ¬ c.toNat < 0x10000 ∧
      (readStreamData icu (utf8 rest) maxSendMsgLen).1 = utf8 (pre ++ [replacement])) := by
  obtain ⟨line, after, hline, hunits⟩ : ∃ line after, rest = line ++ after ∧
      icu.fromUTF8 (cString (utf8 rest)) = utf16 line := by
    refine ⟨_, _, (List.takeWhile_append_dropWhile (p := fun c => c ≠ Char.ofNat 0)).symm, ?_⟩
    rw [cString_utf8, icu.fromUTF8_utf8]
  obtain ⟨pre, post, rfl, hcut⟩ := utf16_split line maxSendMsgLen
  rw [utf16_append] at hunits
  have hrest : rest = pre ++ (post ++ after) := by rw [hline, List.append_assoc]
  rcases hcut with hlength | ⟨rfl, hlength⟩ | ⟨c, post, rfl, hpair, hlength⟩
  · -- the cut comes between two characters
    refine .inl ⟨fun u hu => ?_, pre, post ++ after, hrest, Nat.le_of_eq hlength, ?_⟩
    · rw [hunits, List.getElem?_append_right (Nat.le_of_eq hlength), hlength, Nat.sub_self] at hu
      exact not_isTrail_head post u hu
    · refine readStreamData_of_take icu hrest ?_
      have hmin : min (utf16 pre ++ utf16 post).length maxSendMsgLen = (utf16 pre).length := by
        rw [List.length_append]
        omega
      rw [hunits, hmin, List.take_left]
  · -- all of the text is taken
    rw [utf16_nil, List.append_nil] at hunits
    refine .inl ⟨fun u hu => ?_, pre, after, hrest, hlength, ?_⟩
    · rw [hunits, List.getElem?_eq_none hlength] at hu
      cases hu
    · refine readStreamData_of_take icu hrest ?_
      rw [hunits, Nat.min_eq_left hlength, List.take_length]
  · -- the cut comes inside a pair
    obtain ⟨u, v, hchar, hlead, htrail, -⟩ := utf16Char_pair hpair
    rw [utf16_cons, hchar] at hunits
    refine .inr ⟨fun hok => ?_, pre, c, post ++ after, hrest, hpair, ?_⟩
    · refine hok v ?_ htrail
      rw [hunits, List.getElem?_append_right (by omega)]
      have hone : maxSendMsgLen - (utf16 pre).length = 1 := by omega
      rw [hone]
      rfl
    · have hmin : min (utf16 pre ++ ([u, v] ++ utf16 post)).length maxSendMsgLen =
          (utf16 pre).length + 1 := by
        simp only [List.length_append, List.length_cons]
        omega
      have htake : (utf16 pre ++ ([u, v] ++ utf16 post)).take ((utf16 pre).length + 1) =
          utf16 pre ++ [u] := by
        rw [List.take_append, List.take_of_length_le (Nat.le_succ _), Nat.add_sub_cancel_left]
        rfl
      unfold readStreamData
      dsimp only
      rw [hunits, hmin, if_neg (Nat.succ_ne_zero _), htake, ofUTF16_utf16_append,
        ofUTF16_lead hlead]

/-- A text of 30 units is a payload. -/
theorem payload_utf8 {cs : List Char} (h : (utf16 cs).length ≤ maxSendMsgLen) :
    RttTextWorld.Payload (utf8 cs) := by
  refine ⟨⟨cs, rfl, h⟩, ?_⟩
  have hbytes := length_utf8_le cs
  unfold maxSendMsgLen at h
  unfold maxRttDataLen
  omega

namespace RttTextWorld

/-! ## A run -/

/-- The text given is what was handed on and what is in the stream. -/
structure Aligned (w : RttTextWorld) : Prop where
  text : ∃ sent rest, w.given = sent ++ rest ∧ w.payloads.flatten = utf8 sent ∧
    w.sendStream = utf8 rest
  payload : ∀ payload ∈ w.payloads, Payload payload

variable {icu : Icu} {w : RttTextWorld}

theorem Aligned.lossless (h : w.Aligned) : w.Lossless := by
  obtain ⟨sent, rest, hgiven, hsent, hrest⟩ := h.text
  refine ⟨?_, fun hempty => ?_, h.payload⟩
  · rw [hgiven, hsent, utf8_append]
    exact List.prefix_append _ _
  · rw [hrest] at hempty
    rw [hgiven, hsent, utf8_eq_nil hempty, List.append_nil]

theorem Aligned.sendRttMessage (h : w.Aligned) (rttMessage : String) :
    (w.sendRttMessage rttMessage).Aligned := by
  obtain ⟨sent, rest, hgiven, hsent, hrest⟩ := h.text
  refine ⟨⟨sent, rest ++ rttMessage.toList, ?_, hsent, ?_⟩, h.payload⟩
  · show w.given ++ rttMessage.toList = sent ++ (rest ++ rttMessage.toList)
    rw [hgiven, List.append_assoc]
  · show w.sendStream ++ utf8 rttMessage.toList = utf8 (rest ++ rttMessage.toList)
    rw [hrest, utf8_append]

theorem sendThreadLoop_eq (icu : Icu) (w : RttTextWorld) :
    w.sendThreadLoop icu =
      { w with
        sendStream := (readStreamData icu w.sendStream maxSendMsgLen).2
        payloads := w.payloads ++
          if (readStreamData icu w.sendStream maxSendMsgLen).1 = [] then []
          else [(readStreamData icu w.sendStream maxSendMsgLen).1] } := by
  unfold sendThreadLoop
  dsimp only
  split_ifs with hempty
  · rw [List.append_nil]
  · rfl

theorem flatten_payloads (payloads : List ByteString) (messageToSend : ByteString) :
    (payloads ++ if messageToSend = [] then [] else [messageToSend]).flatten =
      payloads.flatten ++ messageToSend := by
  split_ifs with hempty
  · rw [hempty, List.append_nil, List.append_nil]
  · rw [List.flatten_append, List.flatten_singleton]

/-- One round keeps the text together if its cut is not inside a pair. -/
theorem Aligned.sendThreadLoop (h : w.Aligned) (hok : CutOk icu w.sendStream) :
    (w.sendThreadLoop icu).Aligned := by
  obtain ⟨sent, rest, hgiven, hsent, hrest⟩ := h.text
  rw [hrest] at hok
  obtain ⟨-, pre, post, rfl, hlength, hread⟩ | ⟨hnot, -⟩ := readStreamData_utf8 icu rest
  · rw [← hrest] at hread
    rw [sendThreadLoop_eq, hread]
    refine ⟨⟨sent ++ pre, post, ?_, ?_, rfl⟩, fun payload hpayload => ?_⟩
    · rw [hgiven, List.append_assoc]
    · rw [flatten_payloads, hsent, utf8_append]
    · rcases List.mem_append.mp hpayload with hpayload | hpayload
      · exact h.payload payload hpayload
      · split_ifs at hpayload
        · cases hpayload
        · rw [List.mem_singleton.mp hpayload]
          exact payload_utf8 hlength
  · exact absurd hok hnot

/-- A cut inside a pair hands on U+FFFD. -/
theorem Aligned.not_lossless (h : w.Aligned) (hnot : ¬ CutOk icu w.sendStream) :
    ¬ (w.sendThreadLoop icu).Lossless := by
  intro hlossless
  obtain ⟨sent, rest, hgiven, hsent, hrest⟩ := h.text
  rw [hrest] at hnot
  obtain ⟨hok, -⟩ | ⟨-, pre, c, post, rfl, hpair, hread⟩ := readStreamData_utf8 icu rest
  · exact absurd hok hnot
  · have hprefix := hlossless.isPrefix
    rw [sendThreadLoop_eq] at hprefix
    dsimp only at hprefix
    rw [flatten_payloads, hrest, hread, hsent, hgiven, utf8_append sent, utf8_append pre,
      utf8_append pre, List.prefix_append_right_inj, List.prefix_append_right_inj] at hprefix
    exact utf8EncodeChar_pair hpair _ hprefix

theorem aligned_init : init.Aligned where
  text := ⟨[], [], rfl, rfl, rfl⟩
  payload := fun _ hpayload => absurd hpayload List.not_mem_nil

end RttTextWorld

/-! ## Main result -/

/-- **Main theorem.** Nothing of the text is lost in a run iff none of its rounds
    cuts a pair in two. -/
theorem rtt_text_lossless (icu : Icu) (ops : List RttTextOp) :
    Run.StatesMeet (RttTextWorld.step icu) RttTextWorld.Lossless .init ops ↔
      Run.StepsMeet (RttTextWorld.step icu) (RttTextWorld.StepOk icu) .init ops := by
  refine Run.statesMeet_iff_stepsMeet_of_stronger (I := RttTextWorld.Aligned)
    (fun _ h => h.lossless) (fun w op h hok => ?_) (fun w op h hlossless => ?_) ops
    RttTextWorld.aligned_init
  · cases op with
    | sendRttMessage rttMessage => exact h.sendRttMessage rttMessage
    | sendThreadLoop => exact h.sendThreadLoop hok
  · cases op with
    | sendRttMessage rttMessage => exact trivial
    | sendThreadLoop => exact of_not_not fun hnot => h.not_lossless hnot hlossless

/-- A converter that gives up on a malformed string. -/
def Icu.strict : Icu where
  fromUTF8 := fun bytes => ((bytes.toByteArray.utf8Decode?).map fun cs => utf16 cs.toList).getD []
  fromUTF8_utf8 := fun cs => by
    show ((cs.utf8Encode.utf8Decode?).map fun cs => utf16 cs.toList).getD [] = utf16 cs
    rw [List.utf8Decode?_utf8Encode]
    rfl

/-- 29 letters, and U+1F600. -/
def splitText : List Char := List.replicate 29 (Char.ofNat 97) ++ [Char.ofNat 0x1F600]

/-- The first round hands on the letters and U+FFFD. -/
theorem pair_split :
    ¬ Run.StatesMeet (RttTextWorld.step Icu.strict) RttTextWorld.Lossless .init
      [.sendRttMessage (String.ofList splitText), .sendThreadLoop] := by
  intro h
  have haligned := RttTextWorld.aligned_init.sendRttMessage (String.ofList splitText)
  have hunits : Icu.strict.fromUTF8
      (cString (RttTextWorld.init.sendRttMessage (String.ofList splitText)).sendStream) =
        utf16 splitText := by
    have hall : splitText.takeWhile (fun c => c ≠ Char.ofNat 0) = splitText := by decide +kernel
    show Icu.strict.fromUTF8 (cString ([] ++ utf8 (String.ofList splitText).toList)) = _
    rw [String.toList_ofList, List.nil_append, cString_utf8, Icu.strict.fromUTF8_utf8, hall]
  have hnot : ¬ CutOk Icu.strict
      (RttTextWorld.init.sendRttMessage (String.ofList splitText)).sendStream := by
    intro hok
    unfold CutOk at hok
    rw [hunits] at hok
    have htrail : (utf16 splitText)[maxSendMsgLen]? = some 0xDE00 := by decide +kernel
    exact hok 0xDE00 htrail (by decide)
  exact haligned.not_lossless hnot h.last

end CallManager.RttText
