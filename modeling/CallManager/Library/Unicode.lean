import CallManager.Library.Substitution
import Mathlib.Data.List.Basic
import Mathlib.Tactic.SplitIfs

/-!
# The UTF-8 and UTF-16 forms of a text

A text is a list of scalar values. `utf8` and `utf16` are its two encoded forms;
`ofUTF16` reads UTF-16 back in the standard way, an unpaired surrogate as U+FFFD.

Results:
* `ofUTF16_utf16_append`: reading a text back, whatever follows it.
* `length_utf8_le`: three bytes at most for each UTF-16 unit.
* `syncCode_utf8EncodeChar`: no byte that starts a scalar value goes on with another one,
  and none of them is a prefix of another.
* `utf16_split`: a text can be cut after `n` units of its UTF-16 form, unless
  the cut comes inside a pair.
-/

namespace CallManager.Unicode

/-- The UTF-8 form of a text. -/
def utf8 (cs : List Char) : List UInt8 := cs.flatMap String.utf8EncodeChar

/-- The UTF-16 form of a scalar value: one unit, or a pair of surrogates. -/
def utf16Char (c : Char) : List UInt16 :=
  if c.toNat < 0x10000 then [UInt16.ofNat c.toNat]
  else [UInt16.ofNat (0xD800 + (c.toNat - 0x10000) / 0x400),
    UInt16.ofNat (0xDC00 + (c.toNat - 0x10000) % 0x400)]

/-- The UTF-16 form of a text. -/
def utf16 (cs : List Char) : List UInt16 := cs.flatMap utf16Char

/-- The first unit of a pair. -/
def IsLead (u : UInt16) : Prop := 0xD800 ≤ u.toNat ∧ u.toNat < 0xDC00

/-- The second unit of a pair. -/
def IsTrail (u : UInt16) : Prop := 0xDC00 ≤ u.toNat ∧ u.toNat < 0xE000

instance (u : UInt16) : Decidable (IsLead u) := inferInstanceAs (Decidable (_ ∧ _))

instance (u : UInt16) : Decidable (IsTrail u) := inferInstanceAs (Decidable (_ ∧ _))

/-- What an unpaired surrogate is read as. -/
def replacement : Char := Char.ofNat 0xFFFD

/-- The scalar value of a unit that is not in a pair. -/
def ofUnit (u : UInt16) : Char :=
  if IsLead u ∨ IsTrail u then replacement else Char.ofNat u.toNat

/-- The scalar value of a pair. -/
def ofPair (u v : UInt16) : Char :=
  Char.ofNat (0x10000 + (u.toNat - 0xD800) * 0x400 + (v.toNat - 0xDC00))

/-- The text of a sequence of UTF-16 units. -/
def ofUTF16 : List UInt16 → List Char
  | [] => []
  | [u] => [ofUnit u]
  | u :: v :: rest =>
    if IsLead u ∧ IsTrail v then ofPair u v :: ofUTF16 rest else ofUnit u :: ofUTF16 (v :: rest)

/-! ## Both forms of an appended text -/

@[simp] theorem utf8_nil : utf8 [] = [] := rfl

@[simp] theorem utf8_cons (c : Char) (cs : List Char) :
    utf8 (c :: cs) = String.utf8EncodeChar c ++ utf8 cs := rfl

@[simp] theorem utf8_append (cs ds : List Char) : utf8 (cs ++ ds) = utf8 cs ++ utf8 ds :=
  List.flatMap_append

@[simp] theorem utf16_nil : utf16 [] = [] := rfl

@[simp] theorem utf16_cons (c : Char) (cs : List Char) :
    utf16 (c :: cs) = utf16Char c ++ utf16 cs := rfl

@[simp] theorem utf16_append (cs ds : List Char) : utf16 (cs ++ ds) = utf16 cs ++ utf16 ds :=
  List.flatMap_append

theorem utf8_eq_nil {cs : List Char} (h : utf8 cs = []) : cs = [] := by
  cases cs with
  | nil => rfl
  | cons c cs => exact absurd (List.append_eq_nil_iff.mp h).1 String.utf8EncodeChar_ne_nil

/-! ## The units of a scalar value -/

/-- A scalar value is no surrogate. -/
theorem toNat_cases (c : Char) : c.toNat < 0xD800 ∨ 0xDFFF < c.toNat ∧ c.toNat < 0x110000 := c.valid

theorem toNat_ofNat {n : ℕ} (h : n < 0x10000) : (UInt16.ofNat n).toNat = n :=
  UInt16.toNat_ofNat_of_lt' h

/-- A scalar value of one unit: the unit is the value, and no surrogate. -/
theorem utf16Char_unit {c : Char} (h : c.toNat < 0x10000) :
    utf16Char c = [UInt16.ofNat c.toNat] ∧ ¬ IsLead (UInt16.ofNat c.toNat) ∧
      ¬ IsTrail (UInt16.ofNat c.toNat) ∧ ofUnit (UInt16.ofNat c.toNat) = c := by
  have hcases := toNat_cases c
  have hlead : ¬ IsLead (UInt16.ofNat c.toNat) := by
    unfold IsLead
    rw [toNat_ofNat h]
    omega
  have htrail : ¬ IsTrail (UInt16.ofNat c.toNat) := by
    unfold IsTrail
    rw [toNat_ofNat h]
    omega
  refine ⟨if_pos h, hlead, htrail, ?_⟩
  rw [ofUnit, if_neg (not_or_intro hlead htrail), toNat_ofNat h, Char.ofNat_toNat]

/-- A scalar value of two units: a lead and a trail surrogate. -/
theorem utf16Char_pair {c : Char} (h : ¬ c.toNat < 0x10000) :
    ∃ u v, utf16Char c = [u, v] ∧ IsLead u ∧ IsTrail v ∧ ofPair u v = c := by
  have hcases := toNat_cases c
  have hu : (UInt16.ofNat (0xD800 + (c.toNat - 0x10000) / 0x400)).toNat =
      0xD800 + (c.toNat - 0x10000) / 0x400 := toNat_ofNat (by omega)
  have hv : (UInt16.ofNat (0xDC00 + (c.toNat - 0x10000) % 0x400)).toNat =
      0xDC00 + (c.toNat - 0x10000) % 0x400 := toNat_ofNat (by omega)
  refine ⟨_, _, if_neg h, ?_, ?_, ?_⟩
  · unfold IsLead
    rw [hu]
    omega
  · unfold IsTrail
    rw [hv]
    omega
  · have hvalue : 0x10000 + (0xD800 + (c.toNat - 0x10000) / 0x400 - 0xD800) * 0x400 +
        (0xDC00 + (c.toNat - 0x10000) % 0x400 - 0xDC00) = c.toNat := by omega
    rw [ofPair, hu, hv, hvalue, Char.ofNat_toNat]

theorem utf16_eq_nil {cs : List Char} (h : utf16 cs = []) : cs = [] := by
  cases cs with
  | nil => rfl
  | cons c cs =>
    have hchar : utf16Char c = [] := (List.append_eq_nil_iff.mp h).1
    unfold utf16Char at hchar
    split_ifs at hchar

/-- A text does not start with the second unit of a pair. -/
theorem not_isTrail_head (cs : List Char) : ∀ u ∈ (utf16 cs)[0]?, ¬ IsTrail u := by
  intro u hu
  cases cs with
  | nil => cases hu
  | cons c cs =>
    rw [utf16_cons] at hu
    by_cases hunit : c.toNat < 0x10000
    · obtain ⟨hchar, -, htrail, -⟩ := utf16Char_unit hunit
      rw [hchar] at hu
      rwa [← Option.some.inj hu]
    · obtain ⟨v, v', hchar, hlead, -⟩ := utf16Char_pair hunit
      rw [hchar] at hu
      rw [← Option.some.inj hu]
      unfold IsLead at hlead
      unfold IsTrail
      omega

/-! ## Reading a text back -/

theorem ofUTF16_cons_unit {u : UInt16} (h : ¬ IsLead u) (rest : List UInt16) :
    ofUTF16 (u :: rest) = ofUnit u :: ofUTF16 rest := by
  cases rest with
  | nil => rfl
  | cons v rest => rw [ofUTF16, if_neg (mt And.left h)]

theorem ofUTF16_cons_pair {u v : UInt16} (hu : IsLead u) (hv : IsTrail v) (rest : List UInt16) :
    ofUTF16 (u :: v :: rest) = ofPair u v :: ofUTF16 rest := by
  rw [ofUTF16, if_pos ⟨hu, hv⟩]

theorem ofUTF16_lead {u : UInt16} (h : IsLead u) : ofUTF16 [u] = [replacement] := by
  rw [ofUTF16, ofUnit, if_pos (.inl h)]

/-- A text is read back from its UTF-16 form, whatever follows it. -/
theorem ofUTF16_utf16_append (cs : List Char) (rest : List UInt16) :
    ofUTF16 (utf16 cs ++ rest) = cs ++ ofUTF16 rest := by
  induction cs with
  | nil => rfl
  | cons c cs ih =>
    rw [utf16_cons, List.append_assoc]
    by_cases hunit : c.toNat < 0x10000
    · obtain ⟨hchar, hlead, -, hof⟩ := utf16Char_unit hunit
      rw [hchar, List.singleton_append, ofUTF16_cons_unit hlead, hof, ih, List.cons_append]
    · obtain ⟨u, v, hchar, hlead, htrail, hof⟩ := utf16Char_pair hunit
      rw [hchar, List.cons_append, List.singleton_append, ofUTF16_cons_pair hlead htrail, hof, ih,
        List.cons_append]

theorem ofUTF16_utf16 (cs : List Char) : ofUTF16 (utf16 cs) = cs := by
  have h := ofUTF16_utf16_append cs []
  rwa [List.append_nil, ofUTF16, List.append_nil] at h

/-! ## The bytes of a text -/

/-- Three bytes at most for each unit. -/
theorem length_utf8_le (cs : List Char) : (utf8 cs).length ≤ 3 * (utf16 cs).length := by
  induction cs with
  | nil => exact Nat.le_refl 0
  | cons c cs ih =>
    have hchar : (String.utf8EncodeChar c).length ≤ 3 * (utf16Char c).length := by
      by_cases hunit : c.toNat < 0x10000
      · rw [(utf16Char_unit hunit).1]
        have hle : c.val.toNat ≤ 0xffff := Nat.le_of_lt_succ hunit
        unfold String.utf8EncodeChar
        dsimp only
        split_ifs <;> simp
      · obtain ⟨u, v, hpair, -⟩ := utf16Char_pair hunit
        rw [hpair]
        unfold String.utf8EncodeChar
        dsimp only
        split_ifs <;> simp
    rw [utf8_cons, utf16_cons, List.length_append, List.length_append]
    omega

/-- The UTF-8 form of a scalar value has a zero byte iff it is U+0000. -/
theorem zero_mem_utf8EncodeChar (c : Char) :
    0 ∈ String.utf8EncodeChar c ↔ c = Char.ofNat 0 := by
  have hbyte : ∀ n < 256, (0 = UInt8.ofNat n ↔ n = 0) := by
    intro n hn
    rw [← UInt8.toNat_inj, UInt8.toNat_ofNat_of_lt' hn]
    exact eq_comm
  have hzero : c = Char.ofNat 0 ↔ c.val.toNat = 0 := by
    constructor
    · rintro rfl
      rfl
    · intro h
      rw [← Char.ofNat_toNat c]
      exact congrArg Char.ofNat h
  rw [hzero]
  unfold String.utf8EncodeChar
  dsimp only
  split_ifs with h1 h2 h3
  · rw [List.mem_singleton, hbyte _ (by omega)]
  · simp only [List.mem_cons, List.not_mem_nil, or_false]
    rw [hbyte _ (by omega), hbyte _ (by omega)]
    omega
  · simp only [List.mem_cons, List.not_mem_nil, or_false]
    rw [hbyte _ (by omega), hbyte _ (by omega), hbyte _ (by omega)]
    omega
  · simp only [List.mem_cons, List.not_mem_nil, or_false]
    rw [hbyte _ (by omega), hbyte _ (by omega), hbyte _ (by omega), hbyte _ (by omega)]
    omega

/-- The UTF-8 form of a scalar value of two units starts with no byte that U+FFFD starts with. -/
theorem utf8EncodeChar_pair {c : Char} (h : ¬ c.toNat < 0x10000) (rest : List UInt8) :
    ¬ utf8 [replacement] <+: String.utf8EncodeChar c ++ rest := by
  have hlong : ¬ c.val.toNat ≤ 0xffff := fun hle => h (Nat.lt_succ_of_le hle)
  have hhead : ∃ bytes, String.utf8EncodeChar c =
      UInt8.ofNat (c.val.toNat / 262144 % 8 + 240) :: bytes := by
    unfold String.utf8EncodeChar
    dsimp only
    rw [if_neg (by omega), if_neg (by omega), if_neg hlong]
    exact ⟨_, rfl⟩
  obtain ⟨bytes, hbytes⟩ := hhead
  have hreplacement : utf8 [replacement] = [0xEF, 0xBF, 0xBD] := by decide
  rw [hbytes, hreplacement, List.cons_append]
  intro hprefix
  have hfirst := (List.cons_prefix_cons.mp hprefix).1
  have hbyte : c.val.toNat / 262144 % 8 + 240 < 256 := by omega
  rw [← UInt8.toNat_inj, UInt8.toNat_ofNat_of_lt' hbyte] at hfirst
  have hEF : (0xEF : UInt8).toNat = 239 := rfl
  omega

/-- The first byte of a scalar value is told from the others, and no scalar value is a
    prefix of another. -/
theorem syncCode_utf8EncodeChar :
    Substitution.SyncCode String.utf8EncodeChar UInt8.IsUTF8FirstByte where
  shape c := by
    have hlead {i : ℕ} (hi : i < (String.utf8EncodeChar c).length) :
        (String.utf8EncodeChar c)[i].IsUTF8FirstByte ↔ i = 0 :=
      UInt8.isUTF8FirstByte_getElem_utf8EncodeChar
    cases heq : String.utf8EncodeChar c with
    | nil => exact absurd heq String.utf8EncodeChar_ne_nil
    | cons b bs =>
      rw [heq] at hlead
      refine ⟨b, bs, rfl, (hlead (i := 0) (Nat.zero_lt_succ _)).mpr rfl, fun x hx h => ?_⟩
      obtain ⟨i, hi, rfl⟩ := List.getElem_of_mem hx
      exact Nat.succ_ne_zero i ((hlead (i := i + 1) (Nat.succ_lt_succ hi)).mp h)
  eq_of_prefix c d h := by
    obtain ⟨rest, hrest⟩ := h
    have hc : ByteArray.utf8DecodeChar? ((String.utf8EncodeChar d).toByteArray) 0 = some c := by
      rw [← hrest, List.toByteArray_append]
      exact ByteArray.utf8DecodeChar?_utf8EncodeChar_append
    have hd : ByteArray.utf8DecodeChar? ((String.utf8EncodeChar d).toByteArray) 0 = some d := by
      rw [← ByteArray.append_empty (b := (String.utf8EncodeChar d).toByteArray)]
      exact ByteArray.utf8DecodeChar?_utf8EncodeChar_append
    exact Option.some.inj (hc.symm.trans hd)

/-- A byte that is the whole form of a scalar value stands for that one only. -/
theorem mem_utf8_iff {c : Char} {b : UInt8} (hc : String.utf8EncodeChar c = [b]) (cs : List Char) :
    b ∈ utf8 cs ↔ c ∈ cs := by
  unfold utf8
  rw [List.mem_flatMap]
  constructor
  · rintro ⟨d, hd, hb⟩
    obtain ⟨x, xs, hdEq, -, hinner⟩ := syncCode_utf8EncodeChar.shape d
    obtain ⟨y, ys, hcEq, hlead, -⟩ := syncCode_utf8EncodeChar.shape c
    rw [hc] at hcEq
    obtain ⟨rfl, -⟩ := List.cons.inj hcEq
    rw [hdEq] at hb
    rcases List.mem_cons.mp hb with rfl | hb
    · have hprefix : String.utf8EncodeChar c <+: String.utf8EncodeChar d := by
        rw [hc, hdEq]
        exact ⟨xs, rfl⟩
      exact syncCode_utf8EncodeChar.eq_of_prefix c d hprefix ▸ hd
    · exact absurd hlead (hinner b hb)
  · exact fun h => ⟨c, h, by rw [hc]; exact List.mem_singleton_self b⟩

/-- A reader of UTF-8 that gives up on a malformed string. -/
def strictUTF16 (bytes : List UInt8) : List UInt16 :=
  ((bytes.toByteArray.utf8Decode?).map fun cs => utf16 cs.toList).getD []

theorem strictUTF16_utf8 (cs : List Char) : strictUTF16 (utf8 cs) = utf16 cs := by
  show ((cs.utf8Encode.utf8Decode?).map fun cs => utf16 cs.toList).getD [] = utf16 cs
  rw [List.utf8Decode?_utf8Encode]
  rfl

/-! ## Cutting a text -/

/-- After `n` units of a text's UTF-16 form it can be cut; or it is no longer than
    that; or a scalar value of two units has one on each side. -/
theorem utf16_split (cs : List Char) (n : ℕ) :
    ∃ pre post, cs = pre ++ post ∧
      ((utf16 pre).length = n ∨ post = [] ∧ (utf16 pre).length ≤ n ∨
        ∃ c post', post = c :: post' ∧ ¬ c.toNat < 0x10000 ∧ (utf16 pre).length + 1 = n) := by
  induction cs generalizing n with
  | nil => exact ⟨[], [], rfl, .inr (.inl ⟨rfl, Nat.zero_le n⟩)⟩
  | cons c cs ih =>
    have hsize : (utf16Char c).length = 1 ∧ c.toNat < 0x10000 ∨
        (utf16Char c).length = 2 ∧ ¬ c.toNat < 0x10000 := by
      by_cases hunit : c.toNat < 0x10000
      · exact .inl ⟨congrArg List.length (utf16Char_unit hunit).1, hunit⟩
      · obtain ⟨u, v, hpair, -⟩ := utf16Char_pair hunit
        exact .inr ⟨congrArg List.length hpair, hunit⟩
    by_cases hfits : (utf16Char c).length ≤ n
    · obtain ⟨pre, post, rfl, hcut⟩ := ih (n - (utf16Char c).length)
      refine ⟨c :: pre, post, rfl, ?_⟩
      rw [utf16_cons, List.length_append]
      rcases hcut with hlength | ⟨hpost, hlength⟩ | ⟨d, post', hpost, hpair, hlength⟩
      · exact .inl (by omega)
      · exact .inr (.inl ⟨hpost, by omega⟩)
      · exact .inr (.inr ⟨d, post', hpost, hpair, by omega⟩)
    · refine ⟨[], c :: cs, rfl, ?_⟩
      rw [utf16_nil, List.length_nil]
      rcases hsize with ⟨hlength, -⟩ | ⟨hlength, hpair⟩
      · exact .inl (by omega)
      · by_cases hn : n = 0
        · exact .inl hn.symm
        · exact .inr (.inr ⟨c, cs, rfl, hpair, by omega⟩)

end CallManager.Unicode
