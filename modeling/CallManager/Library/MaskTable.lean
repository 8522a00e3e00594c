import Mathlib.Data.BitVec
import Std.Data.ExtTreeMap

/-!
# Tables of bit masks

A table keeps a mask of 32 flags for each key. A flag is set by `record`, and
`serve` goes through the table in the order of the keys: every flag of the list
`types` that is set and has an answer is answered and cleared.

Results:
* `asks_record`: recording sets the flags of one key and no other.
* `asks_serve`: serving clears exactly the flags that have an answer.
* `mem_serve`: it gives exactly the answers of the flags that were set, and
  after flags were set no others than before and theirs (`mem_serve_record`).
-/

namespace CallManager

variable {κ μ : Type} [Ord κ] [Std.TransOrd κ] [Std.LawfulEqOrd κ]

/-- A mask for each key. -/
abbrev MaskTable (κ : Type) [Ord κ] := Std.ExtTreeMap κ (BitVec 32)

namespace MaskTable

/-- The flag of the key is set. -/
def asks (q : MaskTable κ) (key : κ) (type : ℕ) : Bool := (q[key]?.getD 0).getLsbD type

/-- Set the flags of the mask. -/
def record (q : MaskTable κ) (key : κ) (mask : BitVec 32) : MaskTable κ :=
  if key ∈ q then q.modify key fun second => second ||| mask else q.insert key mask

/-- The loop over the flags of one entry. They are looked up in the mask at its
    start, and cleared in the table's own. -/
def serveTypes (answer : ℕ → Option μ) (queryInfo : BitVec 32) :
    List ℕ → BitVec 32 → BitVec 32 × List μ
  | [], second => (second, [])
  | type :: types, second =>
    if (queryInfo >>> type) &&& 1 = 1 then
      match answer type with
      | none => serveTypes answer queryInfo types second
      | some m =>
        let second := second &&& ~~~((1 : BitVec 32) <<< type)
        let (second, ms) := serveTypes answer queryInfo types second
        (second, m :: ms)
    else serveTypes answer queryInfo types second

/-- The loop over the table. -/
def serve (types : List ℕ) (answer : κ → ℕ → Option μ) (q : MaskTable κ) :
    MaskTable κ × List μ :=
  (q.map fun key mask => (serveTypes (answer key) mask types mask).1,
    q.toList.flatMap fun entry => (serveTypes (answer entry.1) entry.2 types entry.2).2)

/-! ## Flags of a mask -/

theorem flag_iff (mask : BitVec 32) (type : ℕ) :
    (mask >>> type) &&& 1 = 1 ↔ mask.getLsbD type = true := by
  rw [show (1 : BitVec 32) = 1#32 from rfl, BitVec.and_one_eq_setWidth_ofBool_getLsbD]
  cases h : (mask >>> type).getLsbD 0 <;> simp_all

theorem getLsbD_one_shiftLeft {type : ℕ} (h : type < 32) (type' : ℕ) :
    ((1 : BitVec 32) <<< type).getLsbD type' = decide (type = type') := by
  rw [show (1 : BitVec 32) = 1#32 from rfl]
  simp only [BitVec.getLsbD_shiftLeft, BitVec.getLsbD_one]
  grind

/-! ## The operations -/

omit [Std.LawfulEqOrd κ] in
theorem asks_empty (key : κ) (type : ℕ) : asks (∅ : MaskTable κ) key type = false := by
  simp [asks]

theorem asks_record [DecidableEq κ] (q : MaskTable κ) (key key' : κ) (mask : BitVec 32) (type : ℕ) :
    asks (record q key mask) key' type =
      (asks q key' type || (key = key' && mask.getLsbD type)) := by
  unfold record asks
  by_cases hmem : key ∈ q
  · rw [if_pos hmem]
    simp only [Std.ExtTreeMap.getElem?_modify, Std.LawfulEqCmp.compare_eq_iff_eq]
    by_cases hkey : key = key'
    · subst hkey
      obtain ⟨second, hsecond⟩ := Option.isSome_iff_exists.mp
        (Std.ExtTreeMap.mem_iff_isSome_getElem?.mp hmem)
      simp [hsecond]
    · simp [hkey]
  · rw [if_neg hmem]
    simp only [Std.ExtTreeMap.getElem?_insert, Std.LawfulEqCmp.compare_eq_iff_eq]
    by_cases hkey : key = key'
    · subst hkey
      simp [Std.ExtTreeMap.getElem?_eq_none hmem]
    · simp [hkey]

theorem getLsbD_serveTypes (answer : ℕ → Option μ) (queryInfo : BitVec 32) (types : List ℕ)
    (second : BitVec 32) (type : ℕ) :
    (serveTypes answer queryInfo types second).1.getLsbD type =
      (second.getLsbD type &&
        !(type ∈ types && queryInfo.getLsbD type && (answer type).isSome)) := by
  induction types generalizing second with
  | nil => simp [serveTypes]
  | cons type' types ih =>
    unfold serveTypes
    by_cases hflag : (queryInfo >>> type') &&& 1 = 1
    · rw [if_pos hflag]
      rw [flag_iff] at hflag
      have hlt : type' < 32 := by
        by_contra hge
        rw [BitVec.getLsbD_of_ge _ _ (by omega)] at hflag
        contradiction
      cases hans : answer type' with
      | none =>
        dsimp only
        rw [ih]
        by_cases heq : type = type'
        · subst heq
          simp [hans]
        · simp [heq]
      | some m =>
        dsimp only
        rw [ih, BitVec.getLsbD_and, BitVec.getLsbD_not, getLsbD_one_shiftLeft hlt]
        by_cases heq : type = type'
        · subst heq
          simp [hans, hflag]
        · have hne : type' ≠ type := fun h => heq h.symm
          by_cases h32 : type < 32
          · simp [heq, hne, h32]
          · simp [BitVec.getLsbD_of_ge second type (by omega)]
    · rw [if_neg hflag, ih]
      rw [flag_iff] at hflag
      by_cases heq : type = type'
      · subst heq
        simp [hflag]
      · simp [heq]

theorem mem_serveTypes (answer : ℕ → Option μ) (queryInfo : BitVec 32) (types : List ℕ)
    (second : BitVec 32) (m : μ) :
    m ∈ (serveTypes answer queryInfo types second).2 ↔
      ∃ type ∈ types, queryInfo.getLsbD type = true ∧ answer type = some m := by
  induction types generalizing second with
  | nil => simp [serveTypes]
  | cons type' types ih =>
    unfold serveTypes
    by_cases hflag : (queryInfo >>> type') &&& 1 = 1
    · rw [if_pos hflag]
      rw [flag_iff] at hflag
      cases hans : answer type' with
      | none => simp [ih, hans]
      | some m' =>
        simp only [List.mem_cons, ih, exists_eq_or_imp, hflag, hans, true_and, Option.some.injEq]
        rw [eq_comm]
    · rw [if_neg hflag, ih]
      rw [flag_iff] at hflag
      simp [hflag]

theorem asks_serve (types : List ℕ) (answer : κ → ℕ → Option μ) (q : MaskTable κ) (key : κ)
    {type : ℕ} (h : type ∈ types) :
    asks (serve types answer q).1 key type = (asks q key type && (answer key type).isNone) := by
  unfold asks serve
  rw [Std.ExtTreeMap.getElem?_map]
  cases hq : q[key]? with
  | none => simp
  | some mask =>
    simp only [Option.map_some, Option.getD_some, getLsbD_serveTypes, h, decide_true, Bool.true_and]
    cases mask.getLsbD type <;> cases answer key type <;> rfl

theorem mem_serve (types : List ℕ) (answer : κ → ℕ → Option μ) (q : MaskTable κ) (m : μ) :
    m ∈ (serve types answer q).2 ↔
      ∃ key, ∃ type ∈ types, asks q key type = true ∧ answer key type = some m := by
  unfold serve
  simp only [List.mem_flatMap, mem_serveTypes]
  constructor
  · rintro ⟨⟨key, mask⟩, hmem, type, htype, hflag, hans⟩
    have hq := Std.ExtTreeMap.mem_toList_iff_getElem?_eq_some.mp hmem
    exact ⟨key, type, htype, by simpa [asks, hq] using hflag, hans⟩
  · rintro ⟨key, type, htype, hask, hans⟩
    cases hq : q[key]? with
    | none => simp [asks, hq] at hask
    | some mask =>
      exact ⟨(key, mask), Std.ExtTreeMap.mem_toList_iff_getElem?_eq_some.mpr hq, type, htype,
        by simpa [asks, hq] using hask, hans⟩

/-- What is sent after flags were set was sent before or is sent for them. -/
theorem mem_serve_record [DecidableEq κ] {types : List ℕ} {answer : κ → ℕ → Option μ}
    {q : MaskTable κ} {key : κ} {mask : BitVec 32} {m : μ}
    (h : m ∈ (serve types answer (record q key mask)).2) :
    m ∈ (serve types answer q).2 ∨
      ∃ type ∈ types, mask.getLsbD type = true ∧ answer key type = some m := by
  obtain ⟨key', type, htype, hask, hans⟩ := (mem_serve _ _ _ _).mp h
  by_cases hold : asks q key' type = true
  · exact .inl ((mem_serve _ _ _ _).mpr ⟨key', type, htype, hold, hans⟩)
  · rw [asks_record, Bool.or_eq_true, or_iff_right hold, Bool.and_eq_true, decide_eq_true_eq]
      at hask
    obtain ⟨rfl, hflag⟩ := hask
    exact .inr ⟨type, htype, hflag, hans⟩

end MaskTable

end CallManager
