import CallManager.RttText

/-!
# The incoming text of a real-time text call

`RecvDataFromProxy` reads a message from the proxy device and hands its data to
`RttDataStreamToString`, which goes over the bytes once: it puts CR LF for a line
separator, leaves out the bell, ESC `a`, two control characters and the byte order
mark, and keeps every other byte.

Specification: on the UTF-8 form of a text the result is that of the text with these
characters replaced, in one pass from left to right (`charRules`); on any data, each
byte is kept that is not of such a pattern (`byteRules`). Only bytes of the data are
read.

Results:
* `rttDataStreamToString_correct`: both, for data of every length that is admitted.
* `recvDataFromProxy_spec`: what a message from the device comes to.
-/

namespace CallManager.RttReceive

open Unicode
open Substitution (Rule rewriteAll firstRule Rewrites)
open RttText (maxRttDataLen)

/-! ## Specification -/

/-- What is done to the characters of a text: U+2028 becomes CR LF, and BEL, ESC `a`,
    U+0098, U+009C and U+FEFF are left out. -/
def charRules : List (Rule Char) :=
  [⟨[Char.ofNat 0x2028], ['\r', '\n'], by simp⟩, ⟨[Char.ofNat 0x07], [], by simp⟩,
    ⟨[Char.ofNat 0x1B, 'a'], [], by simp⟩, ⟨[Char.ofNat 0x98], [], by simp⟩,
    ⟨[Char.ofNat 0x9C], [], by simp⟩, ⟨[Char.ofNat 0xFEFF], [], by simp⟩]

/-- The same for the bytes of its UTF-8 form. -/
def byteRules : List (Rule UInt8) :=
  [⟨[0xE2, 0x80, 0xA8], [0x0D, 0x0A], by simp⟩, ⟨[0x07], [], by simp⟩,
    ⟨[0x1B, 0x61], [], by simp⟩, ⟨[0xC2, 0x98], [], by simp⟩, ⟨[0xC2, 0x9C], [], by simp⟩,
    ⟨[0xEF, 0xBB, 0xBF], [], by simp⟩]

/-! ## Model of the code

`none` stands for a read outside the data. -/

/-- The comparison of some bytes in turn, up to the first that differs. -/
def bytesAt (input : ByteString) (index : ℕ) : ByteString → Option Bool
  | [] => some true
  | b :: bs => do
    let c ← input[index]?
    if c = b then bytesAt input (index + 1) bs else some false

/-- `ProcEscapeSeq` (ims_rtt_manager.cpp:317-328). -/
def procEscapeSeq (input : ByteString) (dataLen index : ℕ) : Option Bool :=
  if index + 2 < dataLen then bytesAt input index [0xE2, 0x80, 0xA8] else some false

/-- `ProcBellSeq` (ims_rtt_manager.cpp:330-336). -/
def procBellSeq (input : ByteString) (index : ℕ) : Option Bool := bytesAt input index [0x07]

/-- `ProcControlSeq` (ims_rtt_manager.cpp:338-344). -/
def procControlSeq (input : ByteString) (dataLen index : ℕ) : Option Bool :=
  if index + 1 < dataLen then bytesAt input index [0x1B, 0x61] else some false

/-- `ProcOtherControlBytes` (ims_rtt_manager.cpp:346-354). -/
def procOtherControlBytes (input : ByteString) (dataLen index : ℕ) : Option Bool :=
  if index + 1 < dataLen then do
    if ← bytesAt input index [0xC2, 0x98] then some true
    else bytesAt input index [0xC2, 0x9C]
  else some false

/-- `ProcessOrderMark` (ims_rtt_manager.cpp:356-363). -/
def processOrderMark (input : ByteString) (dataLen index : ℕ) : Option Bool :=
  if index + 2 < dataLen then bytesAt input index [0xEF, 0xBB, 0xBF] else some false

/-- What a turn of the loop finds. -/
inductive Found
  | escapeSeq | bellSeq | controlSeq | otherControlBytes | orderMark
  | other (byte : UInt8)
  deriving DecidableEq, Repr

/-- How far the turn goes on: `STEP_ONE`, `STEP_TWO` or `STEP_THREE`. -/
def Found.step : Found → ℕ
  | .escapeSeq | .orderMark => 3
  | .controlSeq | .otherControlBytes => 2
  | .bellSeq | .other _ => 1

/-- What the turn appends to the output. -/
def Found.output : Found → ByteString
  | .escapeSeq => [0x0D, 0x0A]
  | .other byte => [byte]
  | _ => []

theorem Found.step_pos (found : Found) : 0 < found.step := by
  cases found <;> exact Nat.succ_pos _

/-- A turn of the loop (ims_rtt_manager.cpp:292-312). -/
def turn (input : ByteString) (dataLen index : ℕ) : Option Found := do
  if ← procEscapeSeq input dataLen index then some .escapeSeq
  else if ← procBellSeq input index then some .bellSeq
  else if ← procControlSeq input dataLen index then some .controlSeq
  else if ← procOtherControlBytes input dataLen index then some .otherControlBytes
  else if ← processOrderMark input dataLen index then some .orderMark
  else
    let byte ← input[index]?
    some (.other byte)

/-- The loop, from position `i` on. -/
def streamLoop (input : ByteString) (dataLen i : ℕ) (output : ByteString) : Option ByteString :=
  if i < dataLen then
    match turn input dataLen i with
    | none => none
    | some found => streamLoop input dataLen (i + found.step) (output ++ found.output)
  else some output
termination_by dataLen - i
decreasing_by
  have := found.step_pos
  omega

/-- `RttDataStreamToString` (ims_rtt_manager.cpp:284-315). -/
def rttDataStreamToString (rttStreamData : ByteString) (dataLen : ℤ) : Option ByteString :=
  if dataLen ≤ 0 ∨ (maxRttDataLen : ℤ) < dataLen then some []
  else streamLoop rttStreamData dataLen.toNat 0 []

/-- `VoiceProxyRttRxInd` (ims_rtt_manager.h:51-56). -/
structure VoiceProxyRttRxInd where
  msgId : BitVec 16
  channelId : BitVec 16
  dataLen : BitVec 32
  data : ByteString
  deriving DecidableEq, Repr

/-- `PROXY_RTT_RX_MIN_SIZE`, the size of `VoiceProxyRttRxInd`. -/
def proxyRttRxMinSize : ℤ := 8

/-- `PROXY_RTT_RX_MAX_SIZE`. -/
def proxyRttRxMaxSize : ℤ := proxyRttRxMinSize + maxRttDataLen

/-- `RecvDataFromProxy` (ims_rtt_manager.cpp:227-251), where `read` returns `readSize` and
    leaves `rxInd` in the buffer. -/
def recvDataFromProxy (devFd readSize : ℤ) (rxInd : VoiceProxyRttRxInd)
    (recvMessage : ByteString) : Option ByteString :=
  if devFd = -1 then some recvMessage
  else if readSize ≤ proxyRttRxMinSize ∨ proxyRttRxMaxSize < readSize then some recvMessage
  else if rxInd.dataLen.toNat ≤ 0 ∨ maxRttDataLen < rxInd.dataLen.toNat then some recvMessage
  else if readSize ≠ rxInd.dataLen.toNat + proxyRttRxMinSize then some recvMessage
  else rttDataStreamToString rxInd.data rxInd.dataLen.toNat

/-! ## One turn -/

/-- The bytes are compared with the data: true iff they stand there. -/
theorem bytesAt_eq {input : ByteString} {n index : ℕ} (hn : n ≤ input.length) (bs : ByteString)
    (h : index + bs.length ≤ n) :
    bytesAt input index bs = some (decide (bs <+: (input.take n).drop index)) := by
  induction bs generalizing index with
  | nil => simp [bytesAt]
  | cons b bs ih =>
    rw [List.length_cons] at h
    have hindex : index < (input.take n).length := by
      rw [List.length_take]
      omega
    have hread : input[index]? = some (input.take n)[index] := by
      rw [List.getElem_take, List.getElem?_eq_getElem]
    unfold bytesAt
    rw [hread, List.drop_eq_getElem_cons hindex]
    show (if (input.take n)[index] = b then _ else _) = _
    by_cases hb : (input.take n)[index] = b
    · rw [if_pos hb, ih (by omega), hb]
      exact congrArg some (decide_eq_decide.mpr (by rw [List.cons_prefix_cons, and_iff_right rfl]))
    · rw [if_neg hb]
      refine congrArg some (decide_eq_false fun hprefix => hb ?_).symm
      exact (List.cons_prefix_cons.mp hprefix).1.symm

/-- A test that is guarded by the length of the data. -/
theorem guarded_bytesAt {input : ByteString} {n : ℕ} (index k : ℕ) (hn : n ≤ input.length)
    (bs : ByteString) (hlength : bs.length = k + 1) :
    (if index + k < n then bytesAt input index bs else some false) =
      some (decide (bs <+: (input.take n).drop index)) := by
  by_cases hk : index + k < n
  · rw [if_pos hk, bytesAt_eq hn bs (by omega)]
  · rw [if_neg hk]
    refine congrArg some (decide_eq_false fun hprefix => ?_).symm
    have hle := hprefix.length_le
    rw [List.length_drop, List.length_take] at hle
    omega

/-- What a turn finds is what the rules have to be done: its output stands for the bytes
    it steps over. -/
def Follows (rest : ByteString) (found : Found) : Prop :=
  rewriteAll byteRules rest = found.output ++ rewriteAll byteRules (rest.drop found.step)

/-- The first rule whose pattern the rest starts with is the one that is done. -/
theorem follows_of_rule {rest : ByteString} {found : Found} (earlier : List (Rule UInt8))
    {r : Rule UInt8} {later : List (Rule UInt8)} (hrules : byteRules = earlier ++ r :: later)
    (himage : r.image = found.output) (hstep : r.pattern.length = found.step)
    (hpattern : r.pattern <+: rest) (hearlier : ∀ r' ∈ earlier, ¬ r'.pattern <+: rest) :
    Follows rest found := by
  have hrule : firstRule byteRules rest = some r :=
    Substitution.firstRule_eq_some.mpr ⟨hpattern, earlier, later, hrules, hearlier⟩
  obtain ⟨tail, htail⟩ := hpattern
  unfold Follows
  rw [← htail] at hrule ⊢
  rw [Substitution.rewriteAll_replace hrule, himage, ← hstep, List.drop_left]

theorem follows_of_none {rest tail : ByteString} {b : UInt8} (hcons : rest = b :: tail)
    (hnone : ∀ r ∈ byteRules, ¬ r.pattern <+: rest) : Follows rest (.other b) := by
  have hrule := Substitution.firstRule_eq_none.mpr hnone
  unfold Follows
  rw [hcons] at hrule ⊢
  exact Substitution.rewriteAll_keep hrule

/-- The two control bytes are looked for in one test. -/
theorem procOtherControlBytes_eq {input : ByteString} {n : ℕ} (index : ℕ)
    (hn : n ≤ input.length) :
    procOtherControlBytes input n index =
      some (decide ([0xC2, 0x98] <+: (input.take n).drop index) ||
        decide ([0xC2, 0x9C] <+: (input.take n).drop index)) := by
  have h98 := guarded_bytesAt index 1 hn [0xC2, 0x98] rfl
  have h9C := guarded_bytesAt index 1 hn [0xC2, 0x9C] rfl
  unfold procOtherControlBytes
  by_cases hk : index + 1 < n
  · rw [if_pos hk] at h98 h9C ⊢
    rw [h98, h9C]
    cases decide ([0xC2, 0x98] <+: (input.take n).drop index) <;> rfl
  · rw [if_neg hk] at h98 h9C ⊢
    rw [← Option.some.inj h98, ← Option.some.inj h9C]
    rfl

/-- A turn reads inside the data, and does what the rules say. -/
theorem turn_spec {input : ByteString} {n index : ℕ} (hn : n ≤ input.length) (hi : index < n) :
    ∃ found, turn input n index = some found ∧ Follows ((input.take n).drop index) found := by
  have hescape : procEscapeSeq input n index = _ := guarded_bytesAt index _ hn _ rfl
  have hbell : procBellSeq input index = _ := bytesAt_eq hn [0x07] hi
  have hcontrol : procControlSeq input n index = _ := guarded_bytesAt index _ hn _ rfl
  have hmark : processOrderMark input n index = _ := guarded_bytesAt index _ hn _ rfl
  have hindex : index < (input.take n).length := by
    rw [List.length_take]
    omega
  have hread : input[index]? = some (input.take n)[index] := by
    rw [List.getElem_take, List.getElem?_eq_getElem]
  have hcons := List.drop_eq_getElem_cons hindex
  unfold turn
  rw [hescape, hbell, hcontrol, procOtherControlBytes_eq index hn, hmark, hread]
  generalize (input.take n).drop index = rest at hcons ⊢
  -- the turn tries the patterns in the order of the rules
  by_cases h1 : [0xE2, 0x80, 0xA8] <+: rest
  · exact ⟨.escapeSeq, by simp [h1], follows_of_rule [] rfl rfl rfl h1 nofun⟩
  by_cases h2 : [0x07] <+: rest
  · refine ⟨.bellSeq, by simp [h1, h2], follows_of_rule (byteRules.take 1) rfl rfl rfl h2 ?_⟩
    simp [byteRules, h1]
  by_cases h3 : [0x1B, 0x61] <+: rest
  · refine ⟨.controlSeq, by simp [h1, h2, h3],
      follows_of_rule (byteRules.take 2) rfl rfl rfl h3 ?_⟩
    simp [byteRules, h1, h2]
  by_cases h4 : [0xC2, 0x98] <+: rest
  · refine ⟨.otherControlBytes, by simp [h1, h2, h3, h4],
      follows_of_rule (byteRules.take 3) rfl rfl rfl h4 ?_⟩
    simp [byteRules, h1, h2, h3]
  by_cases h5 : [0xC2, 0x9C] <+: rest
  · refine ⟨.otherControlBytes, by simp [h1, h2, h3, h5],
      follows_of_rule (byteRules.take 4) rfl rfl rfl h5 ?_⟩
    simp [byteRules, h1, h2, h3, h4]
  by_cases h6 : [0xEF, 0xBB, 0xBF] <+: rest
  · refine ⟨.orderMark, by simp [h1, h2, h3, h4, h5, h6],
      follows_of_rule (byteRules.take 5) rfl rfl rfl h6 ?_⟩
    simp [byteRules, h1, h2, h3, h4, h5]
  refine ⟨.other (input.take n)[index], by simp [h1, h2, h3, h4, h5, h6],
    follows_of_none hcons ?_⟩
  simp [byteRules, h1, h2, h3, h4, h5, h6]

/-! ## The loop -/

/-- The loop appends to its output what the rules make of the data that is left. -/
theorem streamLoop_eq {input : ByteString} {n : ℕ} (hn : n ≤ input.length) (i : ℕ)
    (output : ByteString) :
    streamLoop input n i output =
      some (output ++ rewriteAll byteRules ((input.take n).drop i)) := by
  -- induction on what is left of the data
  induction hleft : n - i using Nat.strong_induction_on generalizing i output with
  | _ left ih =>
    unfold streamLoop
    by_cases hi : i < n
    · obtain ⟨found, hturn, hfollows⟩ := turn_spec hn hi
      have hpos := found.step_pos
      unfold Follows at hfollows
      rw [if_pos hi, hturn]
      dsimp only
      rw [ih (n - (i + found.step)) (by omega) _ _ rfl, hfollows, List.drop_drop,
        List.append_assoc]
    · have hnil : (input.take n).drop i = [] := by
        rw [List.drop_eq_nil_iff, List.length_take]
        omega
      rw [if_neg hi, hnil, Substitution.rewriteAll_nil, List.append_nil]

/-- The result for data that may stand at the start of a larger buffer. -/
theorem rttDataStreamToString_eq {rttStreamData : ByteString} {dataLen : ℕ}
    (hlength : dataLen ≤ rttStreamData.length) (hmax : dataLen ≤ maxRttDataLen) :
    rttDataStreamToString rttStreamData dataLen =
      some (rewriteAll byteRules (rttStreamData.take dataLen)) := by
  unfold rttDataStreamToString
  by_cases hzero : dataLen = 0
  · subst hzero
    rw [if_pos (.inl (by decide)), List.take_zero, Substitution.rewriteAll_nil]
  · rw [if_neg (by omega), Int.toNat_natCast, streamLoop_eq hlength, List.drop_zero,
      List.nil_append]

/-- The rules for the bytes are those for the characters, encoded. -/
theorem byteRules_eq : byteRules = charRules.map (Rule.encode syncCode_utf8EncodeChar) := by
  decide

/-- **The filter of the incoming text.** On data of every admitted length the function ends,
    having read inside the data only, and has replaced the patterns and kept every other byte;
    on the UTF-8 form of a text, the result is that of the text with its characters replaced. -/
theorem rttDataStreamToString_correct (s : ByteString) (h : s.length ≤ maxRttDataLen) :
    ∃ out, rttDataStreamToString s s.length = some out ∧ Rewrites byteRules s out ∧
      ∀ cs, s = utf8 cs → out = utf8 (rewriteAll charRules cs) := by
  refine ⟨rewriteAll byteRules s, ?_, Substitution.rewrites_rewriteAll s, ?_⟩
  · rw [rttDataStreamToString_eq (le_refl _) h, List.take_length]
  · rintro cs rfl
    rw [byteRules_eq]
    exact Substitution.rewriteAll_flatMap syncCode_utf8EncodeChar cs

/-- A byte order mark, the two bytes of a soft hyphen, and a line separator cut short. -/
theorem mark_before_cut :
    ∃ out, rttDataStreamToString [0xEF, 0xBB, 0xBF, 0xC2, 0xAD, 0xE2, 0x80] 7 = some out ∧
      Rewrites byteRules [0xEF, 0xBB, 0xBF, 0xC2, 0xAD, 0xE2, 0x80] out ∧
      ∀ cs, [0xEF, 0xBB, 0xBF, 0xC2, 0xAD, 0xE2, 0x80] = utf8 cs →
        out = utf8 (rewriteAll charRules cs) :=
  rttDataStreamToString_correct [0xEF, 0xBB, 0xBF, 0xC2, 0xAD, 0xE2, 0x80] (by decide)

/-! ## Messages of the device -/

/-- A message of the device changes the text only if its size is right; the text is then
    that of its data. -/
theorem recvDataFromProxy_spec (devFd readSize : ℤ) (rxInd : VoiceProxyRttRxInd)
    (recvMessage : ByteString) (hdata : rxInd.data.length = maxRttDataLen) :
    recvDataFromProxy devFd readSize rxInd recvMessage = some recvMessage ∨
      readSize = rxInd.dataLen.toNat + proxyRttRxMinSize ∧
        recvDataFromProxy devFd readSize rxInd recvMessage =
          some (rewriteAll byteRules (rxInd.data.take rxInd.dataLen.toNat)) := by
  unfold recvDataFromProxy
  by_cases hfd : devFd = -1
  · exact .inl (if_pos hfd)
  rw [if_neg hfd]
  by_cases hread : readSize ≤ proxyRttRxMinSize ∨ proxyRttRxMaxSize < readSize
  · exact .inl (if_pos hread)
  rw [if_neg hread]
  by_cases hlength : rxInd.dataLen.toNat ≤ 0 ∨ maxRttDataLen < rxInd.dataLen.toNat
  · exact .inl (if_pos hlength)
  rw [if_neg hlength]
  by_cases hsize : readSize = rxInd.dataLen.toNat + proxyRttRxMinSize
  · refine .inr ⟨hsize, ?_⟩
    rw [if_neg (not_not.mpr hsize)]
    exact rttDataStreamToString_eq (by omega) (by omega)
  · exact .inl (if_pos hsize)

end CallManager.RttReceive
