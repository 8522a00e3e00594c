import CallManager.Types
import Mathlib.Combinatorics.Enumerative.DyckWord

/-!
# Names that are phone numbers

A contact name that a Bluetooth phone sends may be a mere number.
`IsPurePhoneNumber` decides that: one pass over the bytes counts the digits and the
open brackets, looks one byte back at an opening bracket and one byte ahead at a
closing one, and returns at the first byte that does not fit.

Specification (`PurePhoneNumber`): 5 to 20 bytes, all of them digits, `-`, blanks and
brackets but for one `+` in front; the brackets form a Dyck word; before an opening
bracket and after a closing one stands a digit, a blank or `-`, or nothing; and there
are 5 digits at least, or 8 after a `+`.

Results:
* `isPurePhoneNumber_iff`: the function accepts the strings of the specification.
* `scan_eq_some`: what the pass has counted, whenever it gets to the end.
-/

namespace CallManager.PhoneNumber

/-! ## Bytes -/

/-- `std::isdigit`. -/
def isDigit (c : UInt8) : Bool := 0x30 ≤ c && c ≤ 0x39

/-- The byte `+`. -/
def plus : UInt8 := 0x2B

/-- The byte `-`. -/
def minus : UInt8 := 0x2D

/-- The blank. -/
def space : UInt8 := 0x20

/-- The byte `(`. -/
def openBracket : UInt8 := 0x28

/-- The byte `)`. -/
def closeBracket : UInt8 := 0x29

/-! ## Specification -/

/-- The step of a Dyck word that a byte stands for. -/
def bracket (c : UInt8) : Option DyckStep :=
  if c = openBracket then some .U else if c = closeBracket then some .D else none

/-- The brackets of a string. -/
def brackets (s : ByteString) : List DyckStep := s.filterMap bracket

/-- A byte that may stand beside a group in brackets. -/
def Beside (c : UInt8) : Prop := isDigit c ∨ c = space ∨ c = minus

/-- A phone number and nothing else. -/
structure PurePhoneNumber (s : ByteString) : Prop where
  length : 5 ≤ s.length ∧ s.length ≤ 20
  alphabet : ∀ c ∈ s, isDigit c ∨ c ∈ [plus, minus, space, openBracket, closeBracket]
  plusFirst : ∀ i, s[i]? = some plus → i = 0
  balanced : ∃ w : DyckWord, w.toList = brackets s
  beforeOpen : ∀ i, s[i]? = some openBracket → i = 0 ∨ ∃ c, s[i - 1]? = some c ∧ Beside c
  afterClose : ∀ i, s[i]? = some closeBracket →
    i + 1 = s.length ∨ ∃ c, s[i + 1]? = some c ∧ Beside c
  digits : (if s[0]? = some plus then 8 else 5) ≤ s.countP isDigit

/-! ## Model of the code -/

/-- `IsValidLength` (call_manager_utils.cpp:146-149), with `MIN_LENGTH` and `MAX_LENGTH`. -/
def isValidLength (s : ByteString) : Bool := !s.isEmpty && 5 ≤ s.length && s.length ≤ 20

/-- `IsValidCharBeforeOpenBracket` (call_manager_utils.cpp:151-158). -/
def isValidCharBeforeOpenBracket (s : ByteString) (i : ℕ) : Bool :=
  if i = 0 then true
  else
    let prev := s.getD (i - 1) 0
    isDigit prev || prev == space || prev == minus

/-- `IsValidCharAfterCloseBracket` (call_manager_utils.cpp:160-167). -/
def isValidCharAfterCloseBracket (s : ByteString) (i : ℕ) : Bool :=
  if s.length - 1 ≤ i then true
  else
    let next := s.getD (i + 1) 0
    isDigit next || next == space || next == minus

/-- `HasMinDigits` (call_manager_utils.cpp:169-180). -/
def hasMinDigits (digitCount : ℕ) (hasLeadingPlus : Bool) : Bool :=
  if digitCount < 5 then false
  else if hasLeadingPlus && digitCount < 8 then false
  else true

/-- The locals of the loop of `IsPurePhoneNumber`. -/
structure Scan where
  digitCount : ℕ
  hasLeadingPlus : Bool
  bracketBalance : ℤ
  deriving DecidableEq, Repr

/-- A turn of the loop (call_manager_utils.cpp:191-223): `none` where the function returns
    false. -/
def scanChar (s : ByteString) (i : ℕ) (st : Scan) (c : UInt8) : Option Scan :=
  if isDigit c then some { st with digitCount := st.digitCount + 1 }
  else if c = plus then
    if i ≠ 0 || st.hasLeadingPlus then none else some { st with hasLeadingPlus := true }
  else if c = minus ∨ c = space then some st
  else if c = openBracket then
    if isValidCharBeforeOpenBracket s i then
      some { st with bracketBalance := st.bracketBalance + 1 }
    else none
  else if c = closeBracket then
    if isValidCharAfterCloseBracket s i then
      if st.bracketBalance - 1 < 0 then none
      else some { st with bracketBalance := st.bracketBalance - 1 }
    else none
  else none

/-- The loop, from position `i` on, where `rest` is left of the string. -/
def scan (s : ByteString) : ℕ → Scan → ByteString → Option Scan
  | _, st, [] => some st
  | i, st, c :: rest => (scanChar s i st c).bind fun st => scan s (i + 1) st rest

/-- `IsPurePhoneNumber` (call_manager_utils.cpp:182-229). -/
def isPurePhoneNumber (s : ByteString) : Bool :=
  if isValidLength s then
    match scan s 0 ⟨0, false, 0⟩ s with
    | none => false
    | some st =>
      if st.bracketBalance ≠ 0 then false else hasMinDigits st.digitCount st.hasLeadingPlus
  else false

/-! ## One byte -/

/-- The byte at a position fits, the balance of the brackets apart. -/
def Fits (s : ByteString) (i : ℕ) (c : UInt8) : Prop :=
  isDigit c ∨ c = plus ∧ i = 0 ∨ c = minus ∨ c = space ∨
    c = openBracket ∧ isValidCharBeforeOpenBracket s i ∨
    c = closeBracket ∧ isValidCharAfterCloseBracket s i

/-- How many brackets the byte opens. -/
def weight (c : UInt8) : ℤ := if c = openBracket then 1 else if c = closeBracket then -1 else 0

/-- What a byte adds to the counts. -/
def Scan.count (st : Scan) (c : UInt8) : Scan :=
  ⟨st.digitCount + if isDigit c then 1 else 0, st.hasLeadingPlus || c == plus,
    st.bracketBalance + weight c⟩

theorem ne_of_isDigit {c d : UInt8} (hc : isDigit c) (hd : isDigit d = false) : c ≠ d := by
  rintro rfl
  rw [hd] at hc
  cases hc

/-- A digit is no bracket and no `+`. -/
theorem count_of_digit (st : Scan) {c : UInt8} (h : isDigit c) :
    st.count c = { st with digitCount := st.digitCount + 1 } := by
  have hweight : weight c = 0 := by
    unfold weight
    rw [if_neg (ne_of_isDigit h (by decide)), if_neg (ne_of_isDigit h (by decide))]
  have hplus : (c == plus) = false := beq_false_of_ne (ne_of_isDigit h (by decide))
  unfold Scan.count
  rw [hweight, hplus, if_pos h, Bool.or_false, add_zero]

/-- A byte that is no digit adds its weight. -/
theorem count_of_not_digit (st : Scan) {c : UInt8} (h : isDigit c = false) :
    st.count c = { st with
      hasLeadingPlus := st.hasLeadingPlus || c == plus
      bracketBalance := st.bracketBalance + weight c } := by
  unfold Scan.count
  rw [if_neg (by rw [h]; decide), add_zero]

/-- A turn that goes on. -/
theorem some_eq_some_iff {fits : Prop} {st₁ st₂ st' : Scan} (hfits : fits) (heq : st₁ = st₂)
    (hbalance : 0 ≤ st₁.bracketBalance) :
    some st₁ = some st' ↔ fits ∧ 0 ≤ st₂.bracketBalance ∧ st' = st₂ := by
  subst heq
  rw [and_iff_right hfits, and_iff_right hbalance, Option.some_inj]
  exact eq_comm

/-- A turn that stops. -/
theorem none_eq_some_iff {fits : Prop} {st₂ st' : Scan}
    (h : fits → ¬ 0 ≤ st₂.bracketBalance) :
    none = some st' ↔ fits ∧ 0 ≤ st₂.bracketBalance ∧ st' = st₂ :=
  iff_of_false nofun fun hand => h hand.1 hand.2.1

/-- A turn goes on iff the byte fits and no bracket is closed that is not open. -/
theorem scanChar_eq_some {s : ByteString} {i : ℕ} {st st' : Scan} {c : UInt8}
    (hbalance : 0 ≤ st.bracketBalance) (hlead : i = 0 → st.hasLeadingPlus = false) :
    scanChar s i st c = some st' ↔
      Fits s i c ∧ 0 ≤ (st.count c).bracketBalance ∧ st' = st.count c := by
  unfold scanChar
  by_cases hdigit : isDigit c = true
  · rw [if_pos hdigit]
    exact some_eq_some_iff (.inl hdigit) (count_of_digit st hdigit).symm hbalance
  rw [if_neg hdigit, count_of_not_digit st (Bool.eq_false_iff.mpr hdigit)]
  unfold Fits
  rw [or_iff_right hdigit]
  by_cases hplus : c = plus
  · subst hplus
    rw [if_pos rfl]
    by_cases hi : i = 0
    · rw [if_neg (by simp [hi, hlead hi])]
      refine some_eq_some_iff (.inl ⟨rfl, hi⟩) ?_ hbalance
      rw [beq_self_eq_true, Bool.or_true, show weight plus = 0 from rfl, add_zero]
    · rw [if_pos (by simp [hi])]
      refine none_eq_some_iff fun hfits => absurd hfits ?_
      simp [hi, plus, minus, space, openBracket, closeBracket]
  have hnot : ¬ (c = plus ∧ i = 0) := fun h => hplus h.1
  rw [if_neg hplus, beq_false_of_ne hplus, Bool.or_false, or_iff_right hnot]
  by_cases hblank : c = minus ∨ c = space
  · have hweight : weight c = 0 := by rcases hblank with rfl | rfl <;> rfl
    rw [if_pos hblank, hweight, add_zero, ← or_assoc]
    exact some_eq_some_iff (.inl hblank) rfl hbalance
  rw [if_neg hblank, ← or_assoc, or_iff_right hblank]
  by_cases hopen : c = openBracket
  · subst hopen
    have hnot : ¬ (openBracket = closeBracket ∧ isValidCharAfterCloseBracket s i = true) :=
      fun h => absurd h.1 (by decide)
    rw [if_pos rfl, or_iff_left hnot, and_iff_right rfl]
    by_cases hbefore : isValidCharBeforeOpenBracket s i = true
    · rw [if_pos hbefore]
      exact some_eq_some_iff hbefore rfl (by dsimp only; omega)
    · rw [if_neg hbefore]
      exact none_eq_some_iff fun h => absurd h hbefore
  have hnot : ¬ (c = openBracket ∧ isValidCharBeforeOpenBracket s i = true) := fun h => hopen h.1
  rw [if_neg hopen, or_iff_right hnot]
  by_cases hclose : c = closeBracket
  · subst hclose
    rw [if_pos rfl, and_iff_right rfl, show weight closeBracket = -1 from rfl]
    by_cases hafter : isValidCharAfterCloseBracket s i = true
    · rw [if_pos hafter]
      by_cases hlast : st.bracketBalance - 1 < 0
      · rw [if_pos hlast]
        exact none_eq_some_iff fun _ => by dsimp only; omega
      · rw [if_neg hlast]
        exact some_eq_some_iff hafter (by rw [Int.sub_eq_add_neg]) (not_lt.mp hlast)
    · rw [if_neg hafter]
      exact none_eq_some_iff fun h => absurd h hafter
  · rw [if_neg hclose]
    exact none_eq_some_iff fun h => absurd h.1 hclose

/-! ## The pass -/

/-- The pass gets to the end iff every byte fits and no bracket is closed that is not
    open; it has counted every byte then. -/
theorem scan_eq_some {s rest : ByteString} {i : ℕ} {st st' : Scan}
    (hbalance : 0 ≤ st.bracketBalance) (hlead : i = 0 → st.hasLeadingPlus = false) :
    scan s i st rest = some st' ↔
      (∀ k c, rest[k]? = some c → Fits s (i + k) c) ∧
        (∀ n, 0 ≤ ((rest.take n).foldl Scan.count st).bracketBalance) ∧
          st' = rest.foldl Scan.count st := by
  induction rest generalizing i st with
  | nil =>
    have hfits : ∀ k c, ([] : ByteString)[k]? = some c → Fits s (i + k) c := by
      intro k c h
      rw [List.getElem?_nil] at h
      cases h
    have hpre : ∀ n, 0 ≤ ((([] : ByteString).take n).foldl Scan.count st).bracketBalance := by
      intro n
      rw [List.take_nil]
      exact hbalance
    unfold scan
    rw [and_iff_right hfits, and_iff_right hpre, Option.some_inj]
    exact eq_comm
  | cons c rest ih =>
    have hnext : ∀ k, i + 1 + k = i + (k + 1) := fun k => by omega
    have hfits : (∀ k d, (c :: rest)[k]? = some d → Fits s (i + k) d) ↔
        Fits s i c ∧ ∀ k d, rest[k]? = some d → Fits s (i + 1 + k) d := by
      constructor
      · intro h
        exact ⟨h 0 c rfl, fun k d hd => hnext k ▸ h (k + 1) d hd⟩
      · rintro ⟨hc, h⟩ (_ | k) d hd
        · cases hd
          exact hc
        · exact hnext k ▸ h k d hd
    have hpre : (∀ n, 0 ≤ (((c :: rest).take n).foldl Scan.count st).bracketBalance) ↔
        0 ≤ (st.count c).bracketBalance ∧
          ∀ n, 0 ≤ ((rest.take n).foldl Scan.count (st.count c)).bracketBalance := by
      constructor
      · exact fun h => ⟨h 1, fun n => h (n + 1)⟩
      · rintro ⟨hc, h⟩ (_ | n)
        · exact hbalance
        · exact h n
    have hstart : i + 1 = 0 → (st.count c).hasLeadingPlus = false :=
      fun h => absurd h (Nat.succ_ne_zero i)
    unfold scan
    rw [hfits, hpre, Option.bind_eq_some_iff]
    constructor
    · rintro ⟨st₁, hchar, hrest⟩
      obtain ⟨hc, hpos, rfl⟩ := (scanChar_eq_some hbalance hlead).mp hchar
      obtain ⟨hall, hpre, hst⟩ := (ih hpos hstart).mp hrest
      exact ⟨⟨hc, hall⟩, ⟨hpos, hpre⟩, hst⟩
    · rintro ⟨⟨hc, hall⟩, ⟨hpos, hpre⟩, hst⟩
      exact ⟨_, (scanChar_eq_some hbalance hlead).mpr ⟨hc, hpos, rfl⟩,
        (ih hpos hstart).mpr ⟨hall, hpre, hst⟩⟩

/-- The brackets that a string leaves open. -/
theorem bracketBalance_foldl (st : Scan) (s : ByteString) :
    (s.foldl Scan.count st).bracketBalance =
      st.bracketBalance + (brackets s).count .U - (brackets s).count .D := by
  induction s generalizing st with
  | nil => simp [brackets]
  | cons c s ih =>
    rw [List.foldl_cons, ih]
    unfold brackets Scan.count weight
    rw [List.filterMap_cons]
    unfold bracket
    by_cases hopen : c = openBracket
    · simp only [if_pos hopen, List.count_cons]
      simp
      omega
    by_cases hclose : c = closeBracket
    · simp only [if_neg hopen, if_pos hclose, List.count_cons]
      simp
      omega
    · simp only [if_neg hopen, if_neg hclose]
      omega

/-- The digits of a string. -/
theorem digitCount_foldl (st : Scan) (s : ByteString) :
    (s.foldl Scan.count st).digitCount = st.digitCount + s.countP isDigit := by
  induction s generalizing st with
  | nil => rfl
  | cons c s ih =>
    rw [List.foldl_cons, ih, List.countP_cons]
    unfold Scan.count
    dsimp only
    omega

/-- Whether a string has a `+`. -/
theorem hasLeadingPlus_foldl (st : Scan) (s : ByteString) :
    (s.foldl Scan.count st).hasLeadingPlus = (st.hasLeadingPlus || s.contains plus) := by
  induction s generalizing st with
  | nil => simp
  | cons c s ih =>
    rw [List.foldl_cons, ih, List.contains_cons, ← Bool.or_assoc]
    unfold Scan.count
    rw [Bool.beq_comm]

/-! ## The brackets -/

theorem brackets_cons (c : UInt8) (s : ByteString) :
    brackets (c :: s) = (bracket c).toList ++ brackets s := by
  unfold brackets
  rw [List.filterMap_cons]
  cases bracket c <;> rfl

/-- The first brackets of a string are the brackets of its first bytes. -/
theorem exists_take_brackets (s : ByteString) (j : ℕ) :
    ∃ n, (brackets s).take j = brackets (s.take n) := by
  induction s generalizing j with
  | nil => exact ⟨0, List.take_nil⟩
  | cons c s ih =>
    cases hc : bracket c with
    | none =>
      obtain ⟨n, hn⟩ := ih j
      refine ⟨n + 1, ?_⟩
      rw [List.take_succ_cons, brackets_cons, brackets_cons, hc]
      exact hn
    | some step =>
      cases j with
      | zero => exact ⟨0, List.take_zero⟩
      | succ j =>
        obtain ⟨n, hn⟩ := ih j
        refine ⟨n + 1, ?_⟩
        rw [List.take_succ_cons, brackets_cons, brackets_cons, hc]
        exact congrArg (step :: ·) hn

/-- The brackets form a Dyck word iff no prefix closes more than it opens, and nothing is
    left open. -/
theorem balanced_iff (s : ByteString) :
    (∃ w : DyckWord, w.toList = brackets s) ↔
      (∀ n, (brackets (s.take n)).count .D ≤ (brackets (s.take n)).count .U) ∧
        (brackets s).count .U = (brackets s).count .D := by
  constructor
  · rintro ⟨w, hw⟩
    refine ⟨fun n => ?_, hw ▸ w.count_U_eq_count_D⟩
    have hpre : brackets (s.take n) <+: brackets s := (List.take_prefix n s).filterMap bracket
    rw [List.prefix_iff_eq_take.mp hpre, ← hw]
    exact w.count_D_le_count_U _
  · rintro ⟨hpre, hcount⟩
    refine ⟨⟨brackets s, hcount, fun j => ?_⟩, rfl⟩
    obtain ⟨n, hn⟩ := exists_take_brackets s j
    rw [hn]
    exact hpre n

/-! ## The neighbours of a bracket -/

theorem beside_iff (c : UInt8) :
    (isDigit c || c == space || c == minus) = true ↔ Beside c := by
  unfold Beside
  rw [Bool.or_eq_true, Bool.or_eq_true, beq_iff_eq, beq_iff_eq, or_assoc]

/-- A byte that is read inside the string is the one that stands there. -/
theorem getD_beside_iff {s : ByteString} {i : ℕ} (h : i < s.length) :
    (isDigit (s.getD i 0) || s.getD i 0 == space || s.getD i 0 == minus) = true ↔
      ∃ c, s[i]? = some c ∧ Beside c := by
  rw [beside_iff, List.getD_eq_getElem?_getD, List.getElem?_eq_getElem h, Option.getD_some]
  constructor
  · exact fun hb => ⟨_, rfl, hb⟩
  · rintro ⟨_, heq, hb⟩
    cases heq
    exact hb

theorem isValidCharBeforeOpenBracket_iff {s : ByteString} {i : ℕ} (h : i < s.length) :
    isValidCharBeforeOpenBracket s i = true ↔ i = 0 ∨ ∃ c, s[i - 1]? = some c ∧ Beside c := by
  unfold isValidCharBeforeOpenBracket
  by_cases hi : i = 0
  · rw [if_pos hi]
    exact iff_of_true rfl (.inl hi)
  · rw [if_neg hi, or_iff_right hi]
    exact getD_beside_iff (by omega)

theorem isValidCharAfterCloseBracket_iff {s : ByteString} {i : ℕ} (h : i < s.length) :
    isValidCharAfterCloseBracket s i = true ↔
      i + 1 = s.length ∨ ∃ c, s[i + 1]? = some c ∧ Beside c := by
  unfold isValidCharAfterCloseBracket
  by_cases hi : i + 1 = s.length
  · rw [if_pos (by omega)]
    exact iff_of_true rfl (.inl hi)
  · rw [if_neg (by omega), or_iff_right hi]
    exact getD_beside_iff (by omega)

/-- Every byte fits iff the string keeps to the alphabet and the rules for `+` and for
    the neighbours of brackets. -/
theorem fits_iff (s : ByteString) :
    (∀ i c, s[i]? = some c → Fits s i c) ↔
      (∀ c ∈ s, isDigit c ∨ c ∈ [plus, minus, space, openBracket, closeBracket]) ∧
        (∀ i, s[i]? = some plus → i = 0) ∧
          (∀ i, s[i]? = some openBracket → i = 0 ∨ ∃ c, s[i - 1]? = some c ∧ Beside c) ∧
            ∀ i, s[i]? = some closeBracket →
              i + 1 = s.length ∨ ∃ c, s[i + 1]? = some c ∧ Beside c := by
  have hlt : ∀ {i c}, s[i]? = some c → i < s.length :=
    fun h => (List.getElem?_eq_some_iff.mp h).1
  constructor
  · intro hall
    refine ⟨fun c hc => ?_, fun i hi => ?_, fun i hi => ?_, fun i hi => ?_⟩
    · obtain ⟨i, hi⟩ := List.getElem?_of_mem hc
      rcases hall i c hi with h | ⟨rfl, -⟩ | rfl | rfl | ⟨rfl, -⟩ | ⟨rfl, -⟩
      · exact .inl h
      all_goals exact .inr (by decide)
    · have hfits := hall i plus hi
      unfold Fits at hfits
      simpa [isDigit, plus, minus, space, openBracket, closeBracket] using hfits
    · have hfits := hall i openBracket hi
      rw [← isValidCharBeforeOpenBracket_iff (hlt hi)]
      unfold Fits at hfits
      simpa [isDigit, plus, minus, space, openBracket, closeBracket] using hfits
    · have hfits := hall i closeBracket hi
      rw [← isValidCharAfterCloseBracket_iff (hlt hi)]
      unfold Fits at hfits
      simpa [isDigit, plus, minus, space, openBracket, closeBracket] using hfits
  · rintro ⟨halphabet, hplus, hopen, hclose⟩ i c hi
    have hc := halphabet c (List.mem_of_getElem? hi)
    simp only [List.mem_cons, List.not_mem_nil, or_false] at hc
    rcases hc with h | rfl | rfl | rfl | rfl | rfl
    · exact .inl h
    · exact .inr (.inl ⟨rfl, hplus i hi⟩)
    · exact .inr (.inr (.inl rfl))
    · exact .inr (.inr (.inr (.inl rfl)))
    · exact .inr (.inr (.inr (.inr (.inl
        ⟨rfl, (isValidCharBeforeOpenBracket_iff (hlt hi)).mpr (hopen i hi)⟩))))
    · exact .inr (.inr (.inr (.inr (.inr
        ⟨rfl, (isValidCharAfterCloseBracket_iff (hlt hi)).mpr (hclose i hi)⟩))))

/-! ## The result -/

theorem isValidLength_iff (s : ByteString) :
    isValidLength s = true ↔ 5 ≤ s.length ∧ s.length ≤ 20 := by
  unfold isValidLength
  cases s with
  | nil => decide
  | cons c s => simp

theorem hasMinDigits_iff (digitCount : ℕ) (hasLeadingPlus : Bool) :
    hasMinDigits digitCount hasLeadingPlus = true ↔
      (if hasLeadingPlus then 8 else 5) ≤ digitCount := by
  unfold hasMinDigits
  cases hasLeadingPlus with
  | true =>
    simp
    omega
  | false => simp

/-- A `+` that may only be first is first, if there is one. -/
theorem contains_plus_iff {s : ByteString} (h : ∀ i, s[i]? = some plus → i = 0) :
    s.contains plus = true ↔ s[0]? = some plus := by
  rw [List.contains_iff_mem]
  constructor
  · intro hmem
    obtain ⟨i, hi⟩ := List.getElem?_of_mem hmem
    exact h i hi ▸ hi
  · exact List.mem_of_getElem?

/-- The digits suffice, for what the pass has counted. -/
theorem hasMinDigits_foldl {s : ByteString} (hplus : ∀ i, s[i]? = some plus → i = 0) :
    let st := s.foldl Scan.count ⟨0, false, 0⟩
    hasMinDigits st.digitCount st.hasLeadingPlus = true ↔
      (if s[0]? = some plus then 8 else 5) ≤ s.countP isDigit := by
  dsimp only
  rw [hasMinDigits_iff, digitCount_foldl, hasLeadingPlus_foldl, Bool.false_or, Nat.zero_add,
    if_congr (contains_plus_iff hplus) rfl rfl]

/-- The exits of the function. -/
theorem isPurePhoneNumber_eq_true (s : ByteString) :
    isPurePhoneNumber s = true ↔ isValidLength s = true ∧
      ∃ st, scan s 0 ⟨0, false, 0⟩ s = some st ∧ st.bracketBalance = 0 ∧
        hasMinDigits st.digitCount st.hasLeadingPlus = true := by
  unfold isPurePhoneNumber
  by_cases hlength : isValidLength s = true
  · rw [if_pos hlength, and_iff_right hlength]
    cases scan s 0 ⟨0, false, 0⟩ s with
    | none => simp
    | some st =>
      by_cases hbalance : st.bracketBalance = 0
      · simp [hbalance]
      · simp [hbalance]
  · rw [if_neg hlength]
    exact iff_of_false nofun fun h => hlength h.1

/-- **`IsPurePhoneNumber` accepts its grammar**, whatever the string. -/
theorem isPurePhoneNumber_iff (s : ByteString) :
    isPurePhoneNumber s = true ↔ PurePhoneNumber s := by
  have hbalance (t : ByteString) : (t.foldl Scan.count ⟨0, false, 0⟩).bracketBalance =
      (brackets t).count .U - (brackets t).count .D := by
    rw [bracketBalance_foldl, zero_add]
  have hscan (st : Scan) : scan s 0 ⟨0, false, 0⟩ s = some st ↔
      (∀ i c, s[i]? = some c → Fits s i c) ∧
        (∀ n, (brackets (s.take n)).count .D ≤ (brackets (s.take n)).count .U) ∧
          st = s.foldl Scan.count ⟨0, false, 0⟩ := by
    rw [scan_eq_some (le_refl 0) fun _ => rfl]
    refine and_congr ?_ (and_congr_left' (forall_congr' fun n => ?_))
    · exact forall_congr' fun i => by rw [Nat.zero_add]
    · rw [hbalance]
      omega
  rw [isPurePhoneNumber_eq_true, isValidLength_iff]
  constructor
  · rintro ⟨hlength, st, hst, hzero, hdigits⟩
    obtain ⟨hfits, hpre, rfl⟩ := (hscan st).mp hst
    obtain ⟨halphabet, hplus, hopen, hclose⟩ := (fits_iff s).mp hfits
    rw [hbalance] at hzero
    exact ⟨hlength, halphabet, hplus, (balanced_iff s).mpr ⟨hpre, by omega⟩, hopen, hclose,
      (hasMinDigits_foldl hplus).mp hdigits⟩
  · rintro ⟨hlength, halphabet, hplus, hbalanced, hopen, hclose, hdigits⟩
    obtain ⟨hpre, hcount⟩ := (balanced_iff s).mp hbalanced
    refine ⟨hlength, _, (hscan _).mpr ⟨?_, hpre, rfl⟩, ?_, ?_⟩
    · exact (fits_iff s).mpr ⟨halphabet, hplus, hopen, hclose⟩
    · rw [hbalance, hcount, sub_self]
    · exact (hasMinDigits_foldl hplus).mpr hdigits

end CallManager.PhoneNumber
