import Mathlib.Data.List.Infix

/-!
# Replacing patterns in one pass

`rewriteAll rules` reads a list from left to right: where the pattern of a rule
stands, its image is put in its place, by the first such rule, and the pass goes on
behind the pattern; elsewhere the element is kept.

Results:
* `rewrites_iff`: the pass is the only one that keeps to the rules (`Rewrites`).
* `rewriteAll_flatMap`: a pass over an encoded list encodes the pass over the list, for
  a code whose words do not overlap (`SyncCode`).
-/

namespace CallManager.Substitution

variable {α β : Type*}

/-- A pattern, and what is put in its place. -/
structure Rule (α : Type*) where
  pattern : List α
  image : List α
  nonempty : pattern ≠ []
  deriving DecidableEq

/-- The first rule whose pattern starts the list. -/
def firstRule [DecidableEq α] (rules : List (Rule α)) (s : List α) : Option (Rule α) :=
  rules.find? fun r => decide (r.pattern <+: s)

/-- The pass, where so many elements are still to be left out. -/
def rewriteAfter [DecidableEq α] (rules : List (Rule α)) : ℕ → List α → List α
  | _, [] => []
  | skip + 1, _ :: rest => rewriteAfter rules skip rest
  | 0, a :: rest =>
    match firstRule rules (a :: rest) with
    | some r => r.image ++ rewriteAfter rules (r.pattern.length - 1) rest
    | none => a :: rewriteAfter rules 0 rest

/-- The pass over a list. -/
def rewriteAll [DecidableEq α] (rules : List (Rule α)) (s : List α) : List α :=
  rewriteAfter rules 0 s

/-- A pass that keeps to the rules: each element is kept that starts no pattern, and
    nothing but patterns is replaced. -/
inductive Rewrites (rules : List (Rule α)) : List α → List α → Prop
  | nil : Rewrites rules [] []
  | replace {r : Rule α} {rest out : List α}
      (first : ∃ earlier later, rules = earlier ++ r :: later ∧
        ∀ r' ∈ earlier, ¬ r'.pattern <+: r.pattern ++ rest)
      (tail : Rewrites rules rest out) : Rewrites rules (r.pattern ++ rest) (r.image ++ out)
  | keep {a : α} {rest out : List α} (none : ∀ r ∈ rules, ¬ r.pattern <+: a :: rest)
      (tail : Rewrites rules rest out) : Rewrites rules (a :: rest) (a :: out)

variable [DecidableEq α] {rules : List (Rule α)}

/-! ## One turn -/

theorem rewriteAfter_eq (skip : ℕ) (s : List α) :
    rewriteAfter rules skip s = rewriteAll rules (s.drop skip) := by
  induction s generalizing skip with
  | nil => cases skip <;> rfl
  | cons a rest ih =>
    cases skip with
    | zero => rfl
    | succ skip => exact ih skip

@[simp] theorem rewriteAll_nil : rewriteAll rules [] = [] := rfl

theorem firstRule_eq_none {s : List α} :
    firstRule rules s = none ↔ ∀ r ∈ rules, ¬ r.pattern <+: s := by
  unfold firstRule
  rw [List.find?_eq_none]
  exact forall_congr' fun r => by rw [decide_eq_true_eq]

theorem firstRule_eq_some {s : List α} {r : Rule α} :
    firstRule rules s = some r ↔ r.pattern <+: s ∧
      ∃ earlier later, rules = earlier ++ r :: later ∧ ∀ r' ∈ earlier, ¬ r'.pattern <+: s := by
  unfold firstRule
  rw [List.find?_eq_some_iff_append, decide_eq_true_eq]
  refine and_congr_right fun _ => exists_congr fun earlier => exists_congr fun later => ?_
  refine and_congr_right fun _ => forall_congr' fun r' => forall_congr' fun _ => ?_
  simp

theorem rewriteAll_cons (a : α) (rest : List α) :
    rewriteAll rules (a :: rest) =
      match firstRule rules (a :: rest) with
      | some r => r.image ++ rewriteAfter rules (r.pattern.length - 1) rest
      | none => a :: rewriteAll rules rest := rfl

/-- Where no pattern starts, the element is kept. -/
theorem rewriteAll_keep {a : α} {rest : List α} (h : firstRule rules (a :: rest) = none) :
    rewriteAll rules (a :: rest) = a :: rewriteAll rules rest := by
  rw [rewriteAll_cons, h]

/-- A pattern is replaced by the image of the first rule that it is of. -/
theorem rewriteAll_replace {r : Rule α} {rest : List α}
    (h : firstRule rules (r.pattern ++ rest) = some r) :
    rewriteAll rules (r.pattern ++ rest) = r.image ++ rewriteAll rules rest := by
  obtain ⟨pattern, image, hne⟩ := r
  cases pattern with
  | nil => exact absurd rfl hne
  | cons a pattern =>
    dsimp only at h ⊢
    rw [List.cons_append] at h ⊢
    rw [rewriteAll_cons, h]
    dsimp only
    rw [rewriteAfter_eq, List.length_cons, Nat.add_sub_cancel, List.drop_left]

/-- Elements that start no pattern, whatever follows, are kept. -/
theorem rewriteAll_append {s : List α} (h : ∀ a ∈ s, ∀ t, ∀ r ∈ rules, ¬ r.pattern <+: a :: t)
    (rest : List α) : rewriteAll rules (s ++ rest) = s ++ rewriteAll rules rest := by
  induction s with
  | nil => rfl
  | cons a s ih =>
    have hnone := firstRule_eq_none.mpr (h a List.mem_cons_self (s ++ rest))
    rw [List.cons_append, rewriteAll_keep hnone, ih fun b hb => h b (List.mem_cons_of_mem a hb),
      List.cons_append]

/-! ## The pass is determined -/

/-- The pass keeps to the rules. -/
theorem rewrites_rewriteAll (s : List α) : Rewrites rules s (rewriteAll rules s) := by
  induction hn : s.length using Nat.strong_induction_on generalizing s with
  | _ n ih =>
    cases s with
    | nil => exact .nil
    | cons a rest =>
      cases hrule : firstRule rules (a :: rest) with
      | none =>
        rw [rewriteAll_keep hrule]
        exact .keep (firstRule_eq_none.mp hrule)
          (ih rest.length (by rw [← hn]; exact Nat.lt_succ_self _) rest rfl)
      | some r =>
        obtain ⟨⟨tail, htail⟩, hfirst⟩ := firstRule_eq_some.mp hrule
        have hlength : tail.length < n := by
          have hpos := List.length_pos_of_ne_nil r.nonempty
          rw [← hn, ← htail, List.length_append]
          omega
        rw [← htail] at hrule hfirst ⊢
        rw [rewriteAll_replace hrule]
        exact .replace hfirst (ih tail.length hlength tail rfl)

/-- Only the pass keeps to the rules. -/
theorem rewrites_iff {s out : List α} : Rewrites rules s out ↔ out = rewriteAll rules s := by
  constructor
  · intro h
    induction h with
    | nil => rfl
    | replace hfirst _ ih =>
      rw [rewriteAll_replace (firstRule_eq_some.mpr ⟨List.prefix_append _ _, hfirst⟩), ← ih]
    | keep hnone _ ih => rw [rewriteAll_keep (firstRule_eq_none.mpr hnone), ← ih]
  · rintro rfl
    exact rewrites_rewriteAll s

/-! ## Encoded lists -/

/-- A code none of whose words is a prefix of another one, and whose words start, and go
    on, with different symbols. -/
structure SyncCode (f : α → List β) (lead : β → Prop) : Prop where
  shape : ∀ a, ∃ b bs, f a = b :: bs ∧ lead b ∧ ∀ x ∈ bs, ¬ lead x
  eq_of_prefix : ∀ a b, f a <+: f b → a = b

variable {f : α → List β} {lead : β → Prop}

omit [DecidableEq α] in
theorem SyncCode.ne_nil (hf : SyncCode f lead) (a : α) : f a ≠ [] := by
  obtain ⟨b, bs, heq, -⟩ := hf.shape a
  rw [heq]
  exact List.cons_ne_nil b bs

omit [DecidableEq α] in
/-- The code keeps prefixes, and only those. -/
theorem SyncCode.flatMap_prefix (hf : SyncCode f lead) (p s : List α) :
    p.flatMap f <+: s.flatMap f ↔ p <+: s := by
  induction p generalizing s with
  | nil => exact iff_of_true (List.nil_prefix) (List.nil_prefix)
  | cons a p ih =>
    cases s with
    | nil =>
      refine iff_of_false (fun h => ?_) fun h =>
        absurd (List.prefix_nil.mp h) (List.cons_ne_nil a p)
      rw [List.flatMap_nil, List.prefix_nil, List.flatMap_cons] at h
      exact hf.ne_nil a (List.append_eq_nil_iff.mp h).1
    | cons b s =>
      rw [List.flatMap_cons, List.flatMap_cons, List.cons_prefix_cons]
      constructor
      · intro h
        have hab : a = b := by
          have ha : f a <+: f b ++ s.flatMap f := (List.prefix_append _ _).trans h
          rcases List.prefix_or_prefix_of_prefix ha (List.prefix_append _ _) with h | h
          · exact hf.eq_of_prefix a b h
          · exact (hf.eq_of_prefix b a h).symm
        subst hab
        exact ⟨rfl, (ih s).mp ((List.prefix_append_right_inj _).mp h)⟩
      · rintro ⟨rfl, h⟩
        exact (List.prefix_append_right_inj _).mpr ((ih s).mpr h)

/-- The encoded rule. -/
def Rule.encode (hf : SyncCode f lead) (r : Rule α) : Rule β where
  pattern := r.pattern.flatMap f
  image := r.image.flatMap f
  nonempty h := by
    obtain ⟨pattern, image, hne⟩ := r
    cases pattern with
    | nil => exact hne rfl
    | cons a pattern =>
      rw [List.flatMap_cons] at h
      exact hf.ne_nil a (List.append_eq_nil_iff.mp h).1

omit [DecidableEq α] in
/-- No encoded pattern starts inside a word. -/
theorem SyncCode.not_prefix_of_not_lead (hf : SyncCode f lead) (r : Rule α) {b : β}
    (hb : ¬ lead b) (t : List β) : ¬ (r.encode hf).pattern <+: b :: t := by
  obtain ⟨pattern, image, hne⟩ := r
  cases pattern with
  | nil => exact absurd rfl hne
  | cons a pattern =>
    obtain ⟨x, xs, heq, hlead, -⟩ := hf.shape a
    intro h
    have h : x :: (xs ++ pattern.flatMap f) <+: b :: t := by
      have : (a :: pattern).flatMap f = x :: (xs ++ pattern.flatMap f) := by
        rw [List.flatMap_cons, heq, List.cons_append]
      exact this ▸ h
    exact hb ((List.cons_prefix_cons.mp h).1 ▸ hlead)

theorem firstRule_encode [DecidableEq β] (rules : List (Rule α)) (hf : SyncCode f lead)
    (s : List α) :
    firstRule (rules.map (Rule.encode hf)) (s.flatMap f) =
      (firstRule rules s).map (Rule.encode hf) := by
  unfold firstRule
  rw [List.find?_map]
  have hpred : ((fun r : Rule β => decide (r.pattern <+: s.flatMap f)) ∘ Rule.encode hf) =
      fun r : Rule α => decide (r.pattern <+: s) := by
    funext r
    exact decide_eq_decide.mpr (hf.flatMap_prefix r.pattern s)
  rw [hpred]

/-- **A pass over an encoded list** encodes the pass over the list. -/
theorem rewriteAll_flatMap [DecidableEq β] (hf : SyncCode f lead) (s : List α) :
    rewriteAll (rules.map (Rule.encode hf)) (s.flatMap f) = (rewriteAll rules s).flatMap f := by
  have hpass : Rewrites rules s (rewriteAll rules s) := rewrites_rewriteAll s
  generalize rewriteAll rules s = out at hpass
  induction hpass with
  | nil => rfl
  | @replace r rest out hfirst _ ih =>
    have hrule := firstRule_encode rules hf (r.pattern ++ rest)
    rw [firstRule_eq_some.mpr ⟨List.prefix_append _ _, hfirst⟩, List.flatMap_append] at hrule
    rw [List.flatMap_append, List.flatMap_append]
    rw [← ih]
    exact rewriteAll_replace (r := r.encode hf) hrule
  | @keep a rest out hnone _ ih =>
    have hrule := firstRule_encode rules hf (a :: rest)
    rw [firstRule_eq_none.mpr hnone] at hrule
    obtain ⟨b, bs, heq, -, hinner⟩ := hf.shape a
    have hkept : ∀ x ∈ bs, ∀ t, ∀ r ∈ rules.map (Rule.encode hf), ¬ r.pattern <+: x :: t := by
      intro x hx t r hr
      obtain ⟨r, -, rfl⟩ := List.mem_map.mp hr
      exact hf.not_prefix_of_not_lead r (hinner x hx) t
    rw [List.flatMap_cons, heq, List.cons_append] at hrule ⊢
    rw [rewriteAll_keep hrule, rewriteAll_append hkept, ih, List.flatMap_cons, heq,
      List.cons_append]

end CallManager.Substitution
