import CallManager.Library.Unicode
import Mathlib.Algebra.BigOperators.Group.List.Basic
import Mathlib.Algebra.GroupWithZero.Nat

/-!
# JSON objects of strings

The texts of the JSON objects whose values are all strings. The value of a string is
a sequence of UTF-16 units; a character stands for itself, or an escape for a unit.
`Object` is the syntax, over any kind of string literal, and `Decodes` says which
members a text stands for.

Results:
* `Decodes.unique`: a text stands for one list of members only.
* `decodes_compact_iff`: an object that is written without white space and without
  escapes stands for its members iff every character of them stands for itself.
-/

namespace CallManager.Json

open Unicode

/-! ## Objects -/

/-- The characters that may stand between the parts of an object. -/
def IsBlank (c : Char) : Prop := c = ' ' ∨ c = '\t' ∨ c = '\n' ∨ c = '\r'

instance (c : Char) : Decidable (IsBlank c) := inferInstanceAs (Decidable (_ ∨ _))

/-- White space. -/
structure Blank where
  text : List Char
  blank : ∀ c ∈ text, IsBlank c

/-- No white space. -/
def Blank.none : Blank := ⟨[], nofun⟩

/-- A member of an object, with the white space in it. -/
structure Member (L : Type*) where
  beforeKey : Blank := .none
  key : L
  afterKey : Blank := .none
  beforeValue : Blank := .none
  value : L
  afterValue : Blank := .none

/-- An object, with the white space around it; `blank` stands in an empty one. -/
structure Object (L : Type*) where
  before : Blank := .none
  blank : Blank := .none
  members : List (Member L)
  after : Blank := .none

section Text

variable {L : Type*} (lit : L → List Char)

/-- The text of a member, for the texts of its literals. -/
def Member.text (m : Member L) : List Char :=
  m.beforeKey.text ++ '"' :: (lit m.key ++ '"' :: (m.afterKey.text ++ ':' ::
    (m.beforeValue.text ++ '"' :: (lit m.value ++ '"' :: m.afterValue.text))))

/-- The text of further members. -/
def tailText (ms : List (Member L)) : List Char := ms.flatMap fun m => ',' :: m.text lit

/-- The text between the braces. -/
def Object.body (o : Object L) : List Char :=
  match o.members with
  | [] => o.blank.text
  | m :: ms => m.text lit ++ tailText lit ms

/-- The text of an object. -/
def Object.text (o : Object L) : List Char :=
  o.before.text ++ '{' :: (o.body lit ++ '}' :: o.after.text)

end Text

/-! ## Literals -/

/-- A character that stands for itself in a string. -/
def IsPlain (c : Char) : Prop := 0x20 ≤ c.toNat ∧ c ≠ '"' ∧ c ≠ '\\'

instance (c : Char) : Decidable (IsPlain c) := inferInstanceAs (Decidable (_ ∧ _))

instance (cs : List Char) : Decidable (∀ c ∈ cs, IsPlain c) := List.decidableBAll _ cs

/-- The escapes of two characters. -/
inductive ShortEscape
  | quotationMark | reverseSolidus | solidus | backspace | formFeed | lineFeed
  | carriageReturn | tab
  deriving DecidableEq

/-- The second character of an escape. -/
def ShortEscape.char : ShortEscape → Char
  | quotationMark => '"'
  | reverseSolidus => '\\'
  | solidus => '/'
  | backspace => 'b'
  | formFeed => 'f'
  | lineFeed => 'n'
  | carriageReturn => 'r'
  | tab => 't'

/-- The unit that an escape stands for. -/
def ShortEscape.unit : ShortEscape → UInt16
  | quotationMark => 0x22
  | reverseSolidus => 0x5C
  | solidus => 0x2F
  | backspace => 0x08
  | formFeed => 0x0C
  | lineFeed => 0x0A
  | carriageReturn => 0x0D
  | tab => 0x09

/-- The value of a hexadecimal digit. -/
def hexValue (c : Char) : ℕ :=
  if c.toNat < 0x40 then c.toNat - 0x30 else if c.toNat < 0x60 then c.toNat - 0x37
  else c.toNat - 0x57

/-- A hexadecimal digit. -/
@[ext] structure HexDigit where
  char : Char
  isHex : '0' ≤ char ∧ char ≤ '9' ∨ 'A' ≤ char ∧ char ≤ 'F' ∨ 'a' ≤ char ∧ char ≤ 'f'
  deriving DecidableEq

/-- A piece of a literal. -/
inductive Piece
  | plain (c : Char) (h : IsPlain c)
  | short (e : ShortEscape)
  | unit (d₁ d₂ d₃ d₄ : HexDigit)

/-- How a piece is written. -/
def Piece.text : Piece → List Char
  | plain c _ => [c]
  | short e => ['\\', e.char]
  | unit d₁ d₂ d₃ d₄ => ['\\', 'u', d₁.char, d₂.char, d₃.char, d₄.char]

/-- What a piece stands for. -/
def Piece.units : Piece → List UInt16
  | plain c _ => utf16Char c
  | short e => [e.unit]
  | unit d₁ d₂ d₃ d₄ =>
    [UInt16.ofNat (((hexValue d₁.char * 16 + hexValue d₂.char) * 16 + hexValue d₃.char) * 16 +
      hexValue d₄.char)]

/-- A string literal, without its quotation marks. -/
abbrev Literal := List Piece

/-- How a literal is written. -/
def Literal.text (l : Literal) : List Char := l.flatMap Piece.text

/-- The value of a literal. -/
def Literal.units (l : Literal) : List UInt16 := l.flatMap Piece.units

/-- The key and the value of a member. -/
def Member.units (m : Member Literal) : List UInt16 × List UInt16 :=
  (Literal.units m.key, Literal.units m.value)

/-- The text is an object of strings that has these members. -/
def Decodes (text : List Char) (ms : List (List UInt16 × List UInt16)) : Prop :=
  ∃ o : Object Literal, o.text Literal.text = text ∧ o.members.map Member.units = ms

@[simp] theorem Literal.text_cons (p : Piece) (l : Literal) :
    Literal.text (p :: l) = p.text ++ Literal.text l := rfl

@[simp] theorem Literal.units_cons (p : Piece) (l : Literal) :
    Literal.units (p :: l) = p.units ++ Literal.units l := rfl

@[simp] theorem tailText_cons {L : Type*} (lit : L → List Char) (m : Member L)
    (ms : List (Member L)) :
    tailText lit (m :: ms) = ',' :: (m.text lit ++ tailText lit ms) := rfl

theorem ShortEscape.char_inj : ∀ e e' : ShortEscape, e.char = e'.char → e = e' := by
  intro e e' h
  cases e <;> cases e' <;> first | rfl | exact absurd h (by decide)

theorem ShortEscape.char_ne : ∀ e : ShortEscape, e.char ≠ 'u' := by
  intro e
  cases e <;> decide

/-! ## Characters that stand for themselves -/

/-- The literal that writes every character as itself. -/
def plainLiteral : (cs : List Char) → (∀ c ∈ cs, IsPlain c) → Literal
  | [], _ => []
  | c :: cs, h =>
    .plain c (h c List.mem_cons_self) :: plainLiteral cs fun d hd => h d (List.mem_cons_of_mem c hd)

theorem text_plainLiteral {cs : List Char} (h : ∀ c ∈ cs, IsPlain c) :
    Literal.text (plainLiteral cs h) = cs := by
  induction cs with
  | nil => rfl
  | cons c cs ih => exact congrArg (c :: ·) (ih fun d hd => h d (List.mem_cons_of_mem c hd))

theorem units_plainLiteral {cs : List Char} (h : ∀ c ∈ cs, IsPlain c) :
    Literal.units (plainLiteral cs h) = utf16 cs := by
  induction cs with
  | nil => rfl
  | cons c cs ih =>
    exact congrArg (utf16Char c ++ ·) (ih fun d hd => h d (List.mem_cons_of_mem c hd))

/-- The object of these members that is written without white space. -/
def compact {L : Type*} (ms : List (L × L)) : Object L :=
  { members := ms.map fun m => { key := m.1, value := m.2 } }

/-! ## A text has one reading -/

/-- A list is cut at the first element that a predicate does not hold of. -/
theorem append_cons_inj {α : Type*} {p : α → Prop} {a b r s : List α} {c d : α}
    (ha : ∀ x ∈ a, p x) (hb : ∀ x ∈ b, p x) (hc : ¬ p c) (hd : ¬ p d)
    (h : a ++ c :: r = b ++ d :: s) : a = b ∧ c = d ∧ r = s := by
  induction a generalizing b with
  | nil =>
    cases b with
    | nil => exact ⟨rfl, List.cons.inj h⟩
    | cons y b => exact absurd ((List.cons.inj h).1 ▸ hb y List.mem_cons_self) hc
  | cons x a ih =>
    cases b with
    | nil => exact absurd ((List.cons.inj h).1 ▸ ha x List.mem_cons_self) hd
    | cons y b =>
      obtain ⟨hhead, htail⟩ := List.cons.inj h
      obtain ⟨hab, hrest⟩ := ih (fun z hz => ha z (List.mem_cons_of_mem x hz))
        (fun z hz => hb z (List.mem_cons_of_mem y hz)) htail
      exact ⟨by rw [hhead, hab], hrest⟩

/-- White space ends at the first character that is none. -/
theorem Blank.append_inj {b₁ b₂ : Blank} {c d : Char} {r s : List Char} (hc : ¬ IsBlank c)
    (hd : ¬ IsBlank d) (h : b₁.text ++ c :: r = b₂.text ++ d :: s) : c = d ∧ r = s :=
  (append_cons_inj b₁.blank b₂.blank hc hd h).2

/-- No piece starts with a quotation mark. -/
theorem Piece.text_ne_quote (p : Piece) (r s : List Char) : p.text ++ r ≠ '"' :: s := by
  intro h
  cases p with
  | plain c hc => exact hc.2.1 (List.cons.inj h).1
  | short e => exact absurd (List.cons.inj h).1 (by decide)
  | unit d₁ d₂ d₃ d₄ => exact absurd (List.cons.inj h).1 (by decide)

/-- The first piece of a text is determined. -/
theorem Piece.append_inj {p q : Piece} {r s : List Char} (h : p.text ++ r = q.text ++ s) :
    p = q ∧ r = s := by
  cases p with
  | plain c hc =>
    cases q with
    | plain d hd =>
      obtain ⟨rfl, hrest⟩ := List.cons.inj h
      exact ⟨rfl, hrest⟩
    | short e => exact absurd (List.cons.inj h).1 hc.2.2
    | unit => exact absurd (List.cons.inj h).1 hc.2.2
  | short e =>
    cases q with
    | plain d hd => exact absurd (List.cons.inj h).1.symm hd.2.2
    | short e' =>
      obtain ⟨hchar, hrest⟩ := List.cons.inj (List.cons.inj h).2
      exact ⟨congrArg Piece.short (e.char_inj e' hchar), hrest⟩
    | unit => exact absurd (List.cons.inj (List.cons.inj h).2).1 e.char_ne
  | unit d₁ d₂ d₃ d₄ =>
    cases q with
    | plain d hd => exact absurd (List.cons.inj h).1.symm hd.2.2
    | short e' => exact absurd (List.cons.inj (List.cons.inj h).2).1.symm e'.char_ne
    | unit e₁ e₂ e₃ e₄ =>
      obtain ⟨h₁, ht₁⟩ := List.cons.inj (List.cons.inj (List.cons.inj h).2).2
      obtain ⟨h₂, ht₂⟩ := List.cons.inj ht₁
      obtain ⟨h₃, ht₃⟩ := List.cons.inj ht₂
      obtain ⟨h₄, hrest⟩ := List.cons.inj ht₃
      rw [HexDigit.ext h₁, HexDigit.ext h₂, HexDigit.ext h₃, HexDigit.ext h₄]
      exact ⟨rfl, hrest⟩

/-- A literal ends at the first quotation mark that is not escaped. -/
theorem Literal.append_inj {l₁ l₂ : Literal} {r s : List Char}
    (h : Literal.text l₁ ++ '"' :: r = Literal.text l₂ ++ '"' :: s) : l₁ = l₂ ∧ r = s := by
  induction l₁ generalizing l₂ with
  | nil =>
    cases l₂ with
    | nil => exact ⟨rfl, (List.cons.inj h).2⟩
    | cons q l₂ =>
      rw [Literal.text_cons, List.append_assoc] at h
      exact absurd h.symm (q.text_ne_quote _ _)
  | cons p l₁ ih =>
    cases l₂ with
    | nil =>
      rw [Literal.text_cons, List.append_assoc] at h
      exact absurd h (p.text_ne_quote _ _)
    | cons q l₂ =>
      rw [Literal.text_cons, Literal.text_cons, List.append_assoc, List.append_assoc] at h
      obtain ⟨hpiece, htail⟩ := Piece.append_inj h
      obtain ⟨hl, hrest⟩ := ih htail
      exact ⟨by rw [hpiece, hl], hrest⟩

/-- A member ends at the first character behind it that is no white space. -/
theorem Member.append_inj {m₁ m₂ : Member Literal} {c d : Char} {r s : List Char}
    (hc : ¬ IsBlank c) (hd : ¬ IsBlank d)
    (h : m₁.text Literal.text ++ c :: r = m₂.text Literal.text ++ d :: s) :
    m₁.units = m₂.units ∧ c = d ∧ r = s := by
  have hquote : ¬ IsBlank '"' := by decide
  have hcolon : ¬ IsBlank ':' := by decide
  unfold Member.text at h
  simp only [List.append_assoc, List.cons_append] at h
  obtain ⟨-, h⟩ := Blank.append_inj hquote hquote h
  obtain ⟨hkey, h⟩ := Literal.append_inj h
  obtain ⟨-, h⟩ := Blank.append_inj hcolon hcolon h
  obtain ⟨-, h⟩ := Blank.append_inj hquote hquote h
  obtain ⟨hvalue, h⟩ := Literal.append_inj h
  exact ⟨by rw [Member.units, Member.units, hkey, hvalue], Blank.append_inj hc hd h⟩

/-- What follows a member starts with a comma or with the brace. -/
theorem exists_tailText (ms : List (Member Literal)) (r : List Char) :
    ∃ c s, tailText Literal.text ms ++ '}' :: r = c :: s ∧ ¬ IsBlank c := by
  cases ms with
  | nil => exact ⟨'}', r, rfl, by decide⟩
  | cons m ms => exact ⟨',', _, rfl, by decide⟩

/-- The members up to the brace are determined. -/
theorem tailText_inj {ms₁ ms₂ : List (Member Literal)} {r s : List Char}
    (h : tailText Literal.text ms₁ ++ '}' :: r = tailText Literal.text ms₂ ++ '}' :: s) :
    ms₁.map Member.units = ms₂.map Member.units := by
  induction ms₁ generalizing ms₂ with
  | nil =>
    cases ms₂ with
    | nil => rfl
    | cons m₂ ms₂ => exact absurd (List.cons.inj h).1 (by decide)
  | cons m₁ ms₁ ih =>
    cases ms₂ with
    | nil => exact absurd (List.cons.inj h).1 (by decide)
    | cons m₂ ms₂ =>
      rw [tailText_cons, tailText_cons, List.cons_append, List.cons_append, List.append_assoc,
        List.append_assoc] at h
      obtain ⟨c, r', hr, hc⟩ := exists_tailText ms₁ r
      obtain ⟨d, s', hs, hd⟩ := exists_tailText ms₂ s
      rw [hr, hs] at h
      obtain ⟨hm, hhead, htail⟩ := Member.append_inj hc hd (List.cons.inj h).2
      rw [List.map_cons, List.map_cons, hm, ih (by rw [hr, hs, hhead, htail])]

/-- **A text stands for one list of members only.** -/
theorem Decodes.unique {text : List Char} {ms₁ ms₂ : List (List UInt16 × List UInt16)}
    (h₁ : Decodes text ms₁) (h₂ : Decodes text ms₂) : ms₁ = ms₂ := by
  obtain ⟨o₁, rfl, rfl⟩ := h₁
  obtain ⟨o₂, h, rfl⟩ := h₂
  have hbrace : ¬ IsBlank '{' := by decide
  have hclose : ¬ IsBlank '}' := by decide
  have hquote : ¬ IsBlank '"' := by decide
  obtain ⟨-, h⟩ := Blank.append_inj hbrace hbrace h
  unfold Object.body at h
  cases hms₁ : o₁.members with
  | nil =>
    cases hms₂ : o₂.members with
    | nil => rfl
    | cons m₂ ms₂ =>
      rw [hms₁, hms₂] at h
      dsimp only at h
      unfold Member.text at h
      simp only [List.append_assoc, List.cons_append] at h
      exact absurd (Blank.append_inj hquote hclose h).1 (by decide)
  | cons m₁ ms₁ =>
    cases hms₂ : o₂.members with
    | nil =>
      rw [hms₁, hms₂] at h
      dsimp only at h
      unfold Member.text at h
      simp only [List.append_assoc, List.cons_append] at h
      exact absurd (Blank.append_inj hclose hquote h).1 (by decide)
    | cons m₂ ms₂ =>
      rw [hms₁, hms₂] at h
      dsimp only at h
      rw [List.append_assoc, List.append_assoc] at h
      obtain ⟨d, s, hs, hd⟩ := exists_tailText ms₂ o₂.after.text
      obtain ⟨c, r, hr, hc⟩ := exists_tailText ms₁ o₁.after.text
      rw [hr, hs] at h
      obtain ⟨hm, hhead, htail⟩ := Member.append_inj hd hc h
      rw [hhead, htail, ← hr] at hs
      rw [List.map_cons, List.map_cons, hm, tailText_inj hs]

/-! ## How long a text is -/

/-- The number of UTF-16 units of a text. -/
def size (cs : List Char) : ℕ := (utf16 cs).length

@[simp] theorem size_append (cs ds : List Char) : size (cs ++ ds) = size cs + size ds := by
  rw [size, utf16_append, List.length_append, size, size]

theorem size_cons (c : Char) (cs : List Char) :
    size (c :: cs) = (utf16Char c).length + size cs := by
  rw [size, utf16_cons, List.length_append, size]

/-- A character of one unit. -/
theorem size_cons_of_lt {c : Char} (hc : c.toNat < 0x10000) (cs : List Char) :
    size (c :: cs) = size cs + 1 := by
  rw [size_cons, (utf16Char_unit hc).1, List.length_singleton, Nat.add_comm]

/-- Every character of the literal is written as itself. -/
def Literal.Plain (l : Literal) : Prop :=
  (∀ c ∈ Literal.text l, IsPlain c) ∧ Literal.units l = utf16 (Literal.text l)

/-- A piece is as long as what it stands for only if it is a character that stands for itself. -/
theorem Piece.size_spec (p : Piece) :
    p.units.length < size p.text ∨ ∃ c h, p = .plain c h := by
  have hpos (c : Char) : 1 ≤ (utf16Char c).length := by
    rw [Nat.one_le_iff_ne_zero, Ne, List.length_eq_zero_iff]
    intro h
    have hnil : utf16 [c] = [] := by
      rw [utf16_cons, h]
      rfl
    exact absurd (utf16_eq_nil hnil) (List.cons_ne_nil c [])
  cases p with
  | plain c h => exact .inr ⟨c, h, rfl⟩
  | short e =>
    refine .inl ?_
    unfold Piece.units Piece.text
    rw [size_cons, size_cons, List.length_singleton]
    have h₁ := hpos '\\'
    have h₂ := hpos e.char
    omega
  | unit d₁ d₂ d₃ d₄ =>
    refine .inl ?_
    unfold Piece.units Piece.text
    rw [size_cons, size_cons, List.length_singleton]
    have h₁ := hpos '\\'
    have h₂ := hpos 'u'
    rw [size_cons]
    have h₃ := hpos d₁.char
    omega

/-- A literal is at least as long as its value, and longer if it has an escape. -/
theorem Literal.size_spec (l : Literal) :
    (Literal.units l).length ≤ size (Literal.text l) ∧
      (size (Literal.text l) ≤ (Literal.units l).length → Literal.Plain l) := by
  induction l with
  | nil => exact ⟨Nat.le_refl 0, fun _ => ⟨nofun, rfl⟩⟩
  | cons p l ih =>
    obtain ⟨hle, hplain⟩ := ih
    rw [Literal.text_cons, Literal.units_cons, size_append, List.length_append]
    rcases p.size_spec with hlt | ⟨c, hc, rfl⟩
    · exact ⟨by omega, fun h => by omega⟩
    · have hpiece : (Piece.plain c hc).units.length = size (Piece.plain c hc).text := by
        show (utf16Char c).length = size [c]
        rw [size_cons]
        rfl
      refine ⟨by omega, fun h => ?_⟩
      obtain ⟨hall, hunits⟩ := hplain (by omega)
      refine ⟨fun d hd => ?_, ?_⟩
      · rw [Literal.text_cons] at hd
        rcases List.mem_append.mp hd with hd | hd
        · rw [List.mem_singleton.mp hd]
          exact hc
        · exact hall d hd
      · rw [Literal.text_cons, Literal.units_cons, utf16_append, hunits]
        exact congrArg (· ++ _) (List.append_nil _).symm

/-- What a member needs at least, with a comma before it. -/
def cost (m : List UInt16 × List UInt16) : ℕ := m.1.length + m.2.length + 6

theorem Member.size_spec (m : Member Literal) :
    cost m.units ≤ size (m.text Literal.text) + 1 ∧
      (size (m.text Literal.text) + 1 ≤ cost m.units →
        Literal.Plain m.key ∧ Literal.Plain m.value) := by
  obtain ⟨hkey, hkeyPlain⟩ := Literal.size_spec m.key
  obtain ⟨hvalue, hvaluePlain⟩ := Literal.size_spec m.value
  have hquote : ('"').toNat < 0x10000 := by decide
  have hcolon : (':').toNat < 0x10000 := by decide
  unfold cost Member.units Member.text
  simp only [size_append, size_cons_of_lt hquote, size_cons_of_lt hcolon]
  refine ⟨by omega, fun h => ⟨hkeyPlain (by omega), hvaluePlain (by omega)⟩⟩

theorem tailText_size (ms : List (Member Literal)) :
    (ms.map fun m => cost m.units).sum ≤ size (tailText Literal.text ms) ∧
      (size (tailText Literal.text ms) ≤ (ms.map fun m => cost m.units).sum →
        ∀ m ∈ ms, Literal.Plain m.key ∧ Literal.Plain m.value) := by
  induction ms with
  | nil => exact ⟨Nat.le_refl 0, fun _ => nofun⟩
  | cons m ms ih =>
    obtain ⟨hle, hplain⟩ := ih
    obtain ⟨hmember, hmemberPlain⟩ := m.size_spec
    have hcomma : (',').toNat < 0x10000 := by decide
    rw [tailText_cons, size_cons_of_lt hcomma, size_append, List.map_cons, List.sum_cons]
    refine ⟨by omega, fun h => ?_⟩
    rw [List.forall_mem_cons]
    exact ⟨hmemberPlain (by omega), hplain (by omega)⟩

/-- A text that is no longer than its members need writes every character as itself. -/
theorem plain_of_size_le {o : Object Literal} (hne : o.members ≠ [])
    (h : size (o.text Literal.text) ≤ 1 + (o.members.map fun m => cost m.units).sum) :
    ∀ m ∈ o.members, Literal.Plain m.key ∧ Literal.Plain m.value := by
  have hopen : ('{').toNat < 0x10000 := by decide
  have hclose : ('}').toNat < 0x10000 := by decide
  unfold Object.text Object.body at h
  rw [size_append, size_cons_of_lt hopen, size_append, size_cons_of_lt hclose] at h
  cases hms : o.members with
  | nil => exact absurd hms hne
  | cons m ms =>
    rw [hms] at h
    dsimp only at h
    rw [size_append, List.map_cons, List.sum_cons] at h
    obtain ⟨hmember, hmemberPlain⟩ := m.size_spec
    obtain ⟨htail, htailPlain⟩ := tailText_size ms
    rw [List.forall_mem_cons]
    exact ⟨hmemberPlain (by omega), htailPlain (by omega)⟩

/-! ## Objects that are written without white space -/

/-- The members of texts, as values. -/
def encodeMember (m : List Char × List Char) : List UInt16 × List UInt16 :=
  (utf16 m.1, utf16 m.2)

/-- The members of an object that is written without white space and escapes are as long
    as they need be. -/
theorem size_compact {ms : List (List Char × List Char)} (hne : ms ≠ []) :
    size ((compact ms).text id) = 1 + (ms.map fun m => cost (encodeMember m)).sum := by
  have hquote : ('"').toNat < 0x10000 := by decide
  have hcolon : (':').toNat < 0x10000 := by decide
  have hcomma : (',').toNat < 0x10000 := by decide
  have hopen : ('{').toNat < 0x10000 := by decide
  have hclose : ('}').toNat < 0x10000 := by decide
  have hmember (m : List Char × List Char) :
      size (Member.text id { key := m.1, value := m.2 }) + 1 = cost (encodeMember m) := by
    unfold Member.text cost encodeMember
    have hnone : size Blank.none.text = 0 := rfl
    simp only [size_append, size_cons_of_lt hquote, size_cons_of_lt hcolon, hnone, id_eq]
    unfold size
    omega
  have htail (ms : List (List Char × List Char)) :
      size (tailText id (ms.map fun m => { key := m.1, value := m.2 })) =
        (ms.map fun m => cost (encodeMember m)).sum := by
    induction ms with
    | nil => rfl
    | cons m ms ih =>
      rw [List.map_cons, List.map_cons, List.sum_cons, tailText_cons, size_cons_of_lt hcomma,
        size_append, ih, ← hmember m]
      omega
  cases ms with
  | nil => exact absurd rfl hne
  | cons m ms =>
    have hbody : (compact (m :: ms)).body id =
        Member.text id { key := m.1, value := m.2 } ++
          tailText id (ms.map fun m => { key := m.1, value := m.2 }) := rfl
    unfold Object.text
    rw [hbody, size_append, size_cons_of_lt hopen, size_append, size_append, htail,
      size_cons_of_lt hclose, List.map_cons, List.sum_cons, ← hmember m]
    show 0 + (_ + _ + (0 + 1) + 1) = _
    omega

/-- Members whose characters stand for themselves can be written as literals. -/
theorem exists_literals {ms : List (List Char × List Char)}
    (h : ∀ m ∈ ms, (∀ c ∈ m.1, IsPlain c) ∧ ∀ c ∈ m.2, IsPlain c) :
    ∃ ls : List (Literal × Literal), ls.map (Prod.map Literal.text Literal.text) = ms ∧
      ls.map (Prod.map Literal.units Literal.units) = ms.map encodeMember := by
  induction ms with
  | nil => exact ⟨[], rfl, rfl⟩
  | cons m ms ih =>
    obtain ⟨⟨hkey, hvalue⟩, htail⟩ := List.forall_mem_cons.mp h
    obtain ⟨ls, htext, hunits⟩ := ih htail
    refine ⟨(plainLiteral m.1 hkey, plainLiteral m.2 hvalue) :: ls, ?_, ?_⟩
    · rw [List.map_cons, htext, Prod.map, text_plainLiteral, text_plainLiteral]
    · rw [List.map_cons, List.map_cons, hunits, Prod.map, units_plainLiteral, units_plainLiteral]
      rfl

/-- The text of an object depends on the texts of its literals. -/
theorem text_compact_map (ls : List (Literal × Literal)) :
    (compact ls).text Literal.text =
      (compact (ls.map (Prod.map Literal.text Literal.text))).text id := by
  have htail (ls : List (Literal × Literal)) :
      tailText Literal.text (ls.map fun l => { key := l.1, value := l.2 }) =
        tailText id ((ls.map (Prod.map Literal.text Literal.text)).map
          fun m => { key := m.1, value := m.2 }) := by
    induction ls with
    | nil => rfl
    | cons l ls ih =>
      rw [List.map_cons, List.map_cons, List.map_cons, tailText_cons, tailText_cons, ih]
      rfl
  have hbody : (compact ls).body Literal.text =
      (compact (ls.map (Prod.map Literal.text Literal.text))).body id := by
    cases ls with
    | nil => rfl
    | cons l ls => exact congrArg (_ ++ ·) (htail ls)
  unfold Object.text
  rw [hbody]
  rfl

/-- **Without white space and escapes** an object stands for its members iff every
    character of them stands for itself. -/
theorem decodes_compact_iff {ms : List (List Char × List Char)} (hne : ms ≠ []) :
    Decodes ((compact ms).text id) (ms.map encodeMember) ↔
      ∀ m ∈ ms, (∀ c ∈ m.1, IsPlain c) ∧ ∀ c ∈ m.2, IsPlain c := by
  constructor
  · rintro ⟨o, htext, hmembers⟩
    have hsize : size (o.text Literal.text) ≤ 1 + (o.members.map fun m => cost m.units).sum := by
      have hcost : (o.members.map fun m => cost m.units) = ms.map fun m => cost (encodeMember m) := by
        have h := congrArg (List.map cost) hmembers
        rwa [List.map_map, List.map_map] at h
      rw [htext, size_compact hne, hcost]
    have hnonempty : o.members ≠ [] := by
      rintro h
      rw [h, List.map_nil] at hmembers
      exact hne (List.map_eq_nil_iff.mp hmembers.symm)
    have hplain := plain_of_size_le hnonempty hsize
    intro m hm
    obtain ⟨l, hl, hunits⟩ := List.mem_map.mp (hmembers ▸ List.mem_map_of_mem hm)
    obtain ⟨⟨hkey, hkeyUnits⟩, ⟨hvalue, hvalueUnits⟩⟩ := hplain l hl
    obtain ⟨hfst, hsnd⟩ := Prod.mk.inj hunits
    have hread {l : Literal} {cs : List Char} (hl : Literal.units l = utf16 (Literal.text l))
        (h : Literal.units l = utf16 cs) : Literal.text l = cs := by
      rw [← ofUTF16_utf16 (Literal.text l), ← hl, h, ofUTF16_utf16]
    rw [← hread hkeyUnits hfst, ← hread hvalueUnits hsnd]
    exact ⟨hkey, hvalue⟩
  · intro h
    obtain ⟨ls, htexts, hunits⟩ := exists_literals h
    refine ⟨compact ls, ?_, ?_⟩
    · rw [text_compact_map, htexts]
    · rw [← hunits]
      exact List.map_map

end CallManager.Json
