import Mathlib.Data.List.Count
import Mathlib.Data.List.Pairwise

/-!
# Loops that stop at the first failure

A loop takes the elements of a list in turn. A turn has a result and emits some
events; the loop goes on only after the results that `goesOn` allows, and returns
the result of the turn it stops at.

Specification: each element that is due gets one event of its own, and the loop does
not end with a bad result.

Results:
* `served_iff`: that is so iff no element is bad that is reached, and none that stops
  the loop stands before one that is due (`Clear`).
* `served_iff_of_skips`: the same for turns that skip some of the elements that are due.
-/

namespace CallManager.StopLoop

variable {α β ρ : Type*}

/-- The loop: its result and the events of all turns taken. -/
def stopLoop (goesOn : ρ → Prop) [DecidablePred goesOn] (turn : α → ρ × List β) (last : ρ) :
    List α → ρ × List β
  | [] => (last, [])
  | a :: rest =>
    if goesOn (turn a).1 then
      let r := stopLoop goesOn turn last rest
      (r.1, (turn a).2 ++ r.2)
    else turn a

/-- What the order of the list has to be: the first element is not bad, and either the
    loop goes on after it or nothing that is due follows. -/
def Clear (bad stops due : α → Prop) [DecidablePred stops] : List α → Prop
  | [] => True
  | a :: rest => ¬ bad a ∧ if stops a then ∀ b ∈ rest, ¬ due b else Clear bad stops due rest

instance instDecidableClear (bad stops due : α → Prop) [DecidablePred bad] [DecidablePred stops]
    [DecidablePred due] : (l : List α) → Decidable (Clear bad stops due l)
  | [] => .isTrue trivial
  | a :: rest =>
    have := instDecidableClear bad stops due rest
    inferInstanceAs (Decidable (¬ bad a ∧ if stops a then _ else _))

/-- Each element that is due has exactly one event of its own among `events`. -/
def Served (hits : α → β → Bool) (due : α → Prop) (l : List α) (events : List β) : Prop :=
  ∀ a ∈ l, due a → events.countP (hits a) = 1

/-- The turns of a list do not emit for each other. -/
def Apart (hits : α → β → Bool) (turn : α → ρ × List β) (l : List α) : Prop :=
  l.Pairwise fun a b => (turn b).2.countP (hits a) = 0 ∧ (turn a).2.countP (hits b) = 0

variable {goesOn : ρ → Prop} [DecidablePred goesOn] {turn : α → ρ × List β} {last : ρ}
  {hits : α → β → Bool}

/-- The result is the last one or that of a turn. -/
theorem stopLoop_result {P : ρ → Prop} {l : List α} (hlast : P last)
    (h : ∀ a ∈ l, P (turn a).1) : P (stopLoop goesOn turn last l).1 := by
  induction l with
  | nil => exact hlast
  | cons a rest ih =>
    unfold stopLoop
    by_cases hgo : goesOn (turn a).1
    · rw [if_pos hgo]
      exact ih fun x hx => h x (List.mem_cons_of_mem a hx)
    · rw [if_neg hgo]
      exact h a List.mem_cons_self

/-- Each event is one of a turn. -/
theorem forall_mem_stopLoop {P : β → Prop} {l : List α} (h : ∀ a ∈ l, ∀ e ∈ (turn a).2, P e) :
    ∀ e ∈ (stopLoop goesOn turn last l).2, P e := by
  induction l with
  | nil => nofun
  | cons a rest ih =>
    have ha := h a List.mem_cons_self
    unfold stopLoop
    by_cases hgo : goesOn (turn a).1
    · rw [if_pos hgo]
      intro e he
      rcases List.mem_append.mp he with he | he
      · exact ha e he
      · exact ih (fun x hx => h x (List.mem_cons_of_mem a hx)) e he
    · rw [if_neg hgo]
      exact ha

/-- An element that is not of the list gets nothing. -/
theorem countP_stopLoop_eq_zero {b : α} {l : List α}
    (h : ∀ a ∈ l, (turn a).2.countP (hits b) = 0) :
    (stopLoop goesOn turn last l).2.countP (hits b) = 0 := by
  induction l with
  | nil => rfl
  | cons a rest ih =>
    have ha := h a List.mem_cons_self
    have hrest := ih fun x hx => h x (List.mem_cons_of_mem a hx)
    unfold stopLoop
    by_cases hgo : goesOn (turn a).1
    · rw [if_pos hgo, List.countP_append, ha, hrest]
    · rw [if_neg hgo, ha]

/-- **Exact order.** The loop serves every element that is due, and does not end with a
    bad result, iff the list is clear. -/
theorem served_iff {bad : ρ → Prop} {stops due : α → Prop} [DecidablePred stops] {l : List α}
    (hlast : ¬ bad last) (hbad : ∀ r, bad r → ¬ goesOn r)
    (hstops : ∀ a ∈ l, stops a ↔ ¬ goesOn (turn a).1)
    (hown : ∀ a ∈ l, due a → (turn a).2.countP (hits a) = 1) (hapart : Apart hits turn l) :
    ¬ bad (stopLoop goesOn turn last l).1 ∧ Served hits due l (stopLoop goesOn turn last l).2 ↔
      Clear (fun a => bad (turn a).1) stops due l := by
  induction l with
  | nil => exact iff_of_true ⟨hlast, nofun⟩ trivial
  | cons a rest ih =>
    obtain ⟨hhead, htail⟩ := List.pairwise_cons.mp hapart
    have ih := ih (fun x hx => hstops x (List.mem_cons_of_mem a hx))
      (fun x hx => hown x (List.mem_cons_of_mem a hx)) htail
    have hsilent : ∀ b ∈ rest, (turn a).2.countP (hits b) = 0 := fun b hb => (hhead b hb).2
    unfold stopLoop Clear
    by_cases hgo : goesOn (turn a).1
    · have hnot : ¬ stops a := fun hs => (hstops a List.mem_cons_self).mp hs hgo
      rw [if_pos hgo, if_neg hnot, ← ih]
      have hskip : (stopLoop goesOn turn last rest).2.countP (hits a) = 0 :=
        countP_stopLoop_eq_zero fun b hb => (hhead b hb).1
      have hserved : Served hits due (a :: rest)
          ((turn a).2 ++ (stopLoop goesOn turn last rest).2) ↔
          Served hits due rest (stopLoop goesOn turn last rest).2 := by
        unfold Served
        rw [List.forall_mem_cons, List.countP_append, hskip, Nat.add_zero]
        refine (and_iff_right (hown a List.mem_cons_self)).trans ?_
        refine forall_congr' fun b => forall_congr' fun hb => ?_
        rw [List.countP_append, hsilent b hb, Nat.zero_add]
      rw [hserved, and_iff_right fun hb => hbad _ hb hgo]
    · have hstop : stops a := (hstops a List.mem_cons_self).mpr hgo
      rw [if_neg hgo, if_pos hstop]
      refine and_congr_right fun _ => ⟨fun h b hb hdue => ?_, fun h b hb hdue => ?_⟩
      · have hone := h b (List.mem_cons_of_mem a hb) hdue
        rw [hsilent b hb] at hone
        exact absurd hone Nat.zero_ne_one
      · rcases List.mem_cons.mp hb with rfl | hb
        · exact hown b List.mem_cons_self hdue
        · exact absurd hdue (h b hb)

/-- An element that the turns of a list emit nothing for, its own among them. -/
theorem countP_stopLoop_of_silent {a : α} {l : List α} (ha : a ∈ l)
    (hsilent : (turn a).2.countP (hits a) = 0) (hapart : Apart hits turn l) :
    (stopLoop goesOn turn last l).2.countP (hits a) = 0 := by
  refine countP_stopLoop_eq_zero fun b hb => ?_
  by_cases heq : a = b
  · rw [← heq]
    exact hsilent
  · have : Std.Symm fun a b : α =>
        (turn b).2.countP (hits a) = 0 ∧ (turn a).2.countP (hits b) = 0 := ⟨fun _ _ h => h.symm⟩
    exact (hapart.forall ha hb heq).1

/-- The conditions of a list may be replaced by ones that agree on it. -/
theorem clear_congr {bad bad' stops stops' due due' : α → Prop} [DecidablePred stops]
    [DecidablePred stops'] {l : List α} (hbad : ∀ a ∈ l, bad a ↔ bad' a)
    (hstops : ∀ a ∈ l, stops a ↔ stops' a) (hdue : ∀ a ∈ l, due a ↔ due' a) :
    Clear bad stops due l ↔ Clear bad' stops' due' l := by
  induction l with
  | nil => exact Iff.rfl
  | cons a rest ih =>
    have ih := ih (fun x hx => hbad x (List.mem_cons_of_mem a hx))
      (fun x hx => hstops x (List.mem_cons_of_mem a hx))
      (fun x hx => hdue x (List.mem_cons_of_mem a hx))
    unfold Clear
    refine and_congr (not_congr (hbad a List.mem_cons_self)) ?_
    by_cases hstop : stops a
    · rw [if_pos hstop, if_pos ((hstops a List.mem_cons_self).mp hstop)]
      refine forall_congr' fun b => forall_congr' fun hb => not_congr ?_
      exact hdue b (List.mem_cons_of_mem a hb)
    · rw [if_neg hstop, if_neg fun h => hstop ((hstops a List.mem_cons_self).mpr h)]
      exact ih

/-- **Exact order, with turns that skip.** If the turns of some elements that are due
    emit nothing for them, the loop serves every element that is due iff the list holds
    no such element and is clear. -/
theorem served_iff_of_skips {bad : ρ → Prop} {stops due skips : α → Prop}
    [DecidablePred stops] {l : List α}
    (hlast : ¬ bad last) (hbad : ∀ r, bad r → ¬ goesOn r)
    (hstops : ∀ a ∈ l, stops a ↔ ¬ goesOn (turn a).1)
    (hown : ∀ a ∈ l, due a → ¬ skips a → (turn a).2.countP (hits a) = 1)
    (hskips : ∀ a ∈ l, skips a → due a ∧ (turn a).2.countP (hits a) = 0)
    (hapart : Apart hits turn l) :
    ¬ bad (stopLoop goesOn turn last l).1 ∧ Served hits due l (stopLoop goesOn turn last l).2 ↔
      (∀ a ∈ l, ¬ skips a) ∧ Clear (fun a => bad (turn a).1) stops due l := by
  have hnone (hserved : Served hits due l (stopLoop goesOn turn last l).2) :
      ∀ a ∈ l, ¬ skips a := by
    intro a ha hskip
    obtain ⟨hdue, hsilent⟩ := hskips a ha hskip
    have hone := hserved a ha hdue
    rw [countP_stopLoop_of_silent ha hsilent hapart] at hone
    exact Nat.zero_ne_one hone
  constructor
  · intro h
    have hfree := hnone h.2
    exact ⟨hfree, (served_iff hlast hbad hstops (fun a ha hdue => hown a ha hdue (hfree a ha))
      hapart).mp h⟩
  · rintro ⟨hfree, hclear⟩
    exact (served_iff hlast hbad hstops (fun a ha hdue => hown a ha hdue (hfree a ha))
      hapart).mpr hclear

end CallManager.StopLoop
