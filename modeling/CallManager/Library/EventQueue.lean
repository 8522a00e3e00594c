import Mathlib.Data.List.Basic

/-!
# A mode that queued events change

A machine has a mode and a FIFO queue of events. Some events set the mode when
they are taken (`target`); the others are offered to the mode in force, which
handles some of them (`handles`) and may put a mode-setting event at the end of
the queue.

`settled` is the mode once the mode-setting events already queued have been
taken. `Reacts` says that some queued event will be handled by the mode in
force at its turn, unless something is queued before. A machine is `Settling`
if it does not stop in a mode that has lost its purpose: the mode it settles in
is fine, or some queued event may still change it. It is `Covered` if that event
is offered to the mode it settles in, as no mode-setting event is queued behind
it.

Results:
* `settling_append`, `covered_append`: what further events keep.
* `settling_cons`, `covered_cons`: what taking an event keeps, unless the event
  was the last one that the machine would have reacted to.
-/

namespace CallManager.EventQueue

variable {M E : Type*} (target : E → Option M) (handles : M → E → Prop)

/-- The mode after the mode-setting events of the queue. -/
def settled (m : M) : List E → M
  | [] => m
  | e :: q => settled ((target e).getD m) q

/-- Some event of the queue is handled by the mode in force at its turn. -/
def Reacts (m : M) : List E → Prop
  | [] => False
  | e :: q => handles m e ∨ Reacts ((target e).getD m) q

instance instDecidableReacts [∀ m e, Decidable (handles m e)] (m : M) :
    (q : List E) → Decidable (Reacts target handles m q)
  | [] => .isFalse not_false
  | e :: q =>
    have := instDecidableReacts ((target e).getD m) q
    inferInstanceAs (Decidable (handles m e ∨ Reacts target handles ((target e).getD m) q))

/-- The mode the machine settles in is fine, or the machine reacts before. -/
def Settling (fine : M → Prop) (m : M) (q : List E) : Prop :=
  fine (settled target m q) ∨ Reacts target handles m q

variable {target handles} {fine : M → Prop}

theorem settled_append (m : M) (q r : List E) :
    settled target m (q ++ r) = settled target (settled target m q) r := by
  induction q generalizing m with
  | nil => rfl
  | cons e q ih => exact ih _

theorem reacts_append (m : M) (q r : List E) :
    Reacts target handles m (q ++ r) ↔
      Reacts target handles m q ∨ Reacts target handles (settled target m q) r := by
  induction q generalizing m with
  | nil => simp [Reacts, settled]
  | cons e q ih => simp only [List.cons_append, Reacts, settled, ih, or_assoc]

/-- Events that set no mode do not change the one the machine settles in. -/
theorem settled_of_no_target {m : M} {q : List E} (h : ∀ e ∈ q, target e = none) :
    settled target m q = m := by
  induction q with
  | nil => rfl
  | cons e q ih =>
    have he := h e List.mem_cons_self
    simp only [settled, he, Option.getD_none]
    exact ih fun x hx => h x (List.mem_cons_of_mem e hx)

theorem reacts_iff_mem {m : M} {q : List E} (h : ∀ e ∈ q, target e = none) :
    Reacts target handles m q ↔ ∃ e ∈ q, handles m e := by
  induction q with
  | nil => simp [Reacts]
  | cons x q ih =>
    have hx := h x List.mem_cons_self
    have hq := ih fun y hy => h y (List.mem_cons_of_mem x hy)
    simp only [Reacts, hx, Option.getD_none, hq, List.mem_cons, exists_eq_or_imp]

/-- Events put at the end keep the machine settling if the mode it settles in
    stays fine or handles one of them. -/
theorem settling_append {m : M} {q r : List E} (hr : ∀ e ∈ r, target e = none)
    {fine' : M → Prop} (h : Settling target handles fine m q)
    (hfine : fine (settled target m q) →
      fine' (settled target m q) ∨ ∃ e ∈ r, handles (settled target m q) e) :
    Settling target handles fine' m (q ++ r) := by
  unfold Settling
  rw [settled_append, settled_of_no_target hr, reacts_append]
  rcases h with h | h
  · rcases hfine h with h' | ⟨e, he, hm⟩
    · exact .inl h'
    · exact .inr (.inr ((reacts_iff_mem hr).mpr ⟨e, he, hm⟩))
  · exact .inr (.inl h)

/-- Taking a mode-setting event keeps the machine settling. -/
theorem settling_target {m t : M} {e : E} {q : List E} (ht : target e = some t)
    (hm : ¬ handles m e) (h : Settling target handles fine m (e :: q)) :
    Settling target handles fine t q := by
  unfold Settling at h ⊢
  simp only [settled, Reacts, ht, Option.getD_some] at h
  exact h.imp_right (·.resolve_left hm)

/-- Offering an event to the mode in force keeps the machine settling, unless
    the mode handles it and nothing comes of it. -/
theorem settling_cons {m : M} {e : E} {q : List E} (ht : target e = none)
    (h : Settling target handles fine m (e :: q))
    (hlast : handles m e → Settling target handles fine m q) :
    Settling target handles fine m q := by
  unfold Settling at h
  simp only [settled, Reacts, ht, Option.getD_none] at h
  rcases h with h | h | h
  · exact .inl h
  · exact hlast h
  · exact .inr h

/-- A mode-setting event at the end decides where the machine settles. -/
theorem settling_concat {m t : M} {e : E} {q : List E} (ht : target e = some t) (hfine : fine t) :
    Settling target handles fine m (q ++ [e]) := by
  refine .inl ?_
  rw [settled_append]
  simpa only [settled, ht, Option.getD_some] using hfine

/-! ## The events behind the last mode-setting one -/

section

variable (target handles)

/-- An event is handled by the mode in force at its turn, and no mode-setting
    event is queued behind it. -/
def HandledLast (m : M) : List E → Prop
  | [] => False
  | e :: q =>
    (handles m e ∧ ∀ x ∈ q, target x = none) ∨ HandledLast ((target e).getD m) q

/-- The mode the machine settles in is fine, or is offered an event it handles. -/
def Covered (fine : M → Prop) (m : M) (q : List E) : Prop :=
  fine (settled target m q) ∨ HandledLast target handles m q

end

theorem handledLast_iff_mem {m : M} {q : List E} (h : ∀ e ∈ q, target e = none) :
    HandledLast target handles m q ↔ ∃ e ∈ q, handles m e := by
  induction q with
  | nil => simp [HandledLast]
  | cons x q ih =>
    have hx := h x List.mem_cons_self
    have hq : ∀ y ∈ q, target y = none := fun y hy => h y (List.mem_cons_of_mem x hy)
    have hrest := ih hq
    simp only [HandledLast, hx, Option.getD_none, hrest, List.mem_cons, exists_eq_or_imp]
    exact or_congr_left (and_iff_left hq)

/-- Events that set no mode, put at the end, are offered to the mode the machine settles in. -/
theorem handledLast_append {m : M} {q r : List E} (hr : ∀ e ∈ r, target e = none) :
    HandledLast target handles m (q ++ r) ↔
      HandledLast target handles m q ∨ ∃ e ∈ r, handles (settled target m q) e := by
  induction q generalizing m with
  | nil => simp [HandledLast, settled, handledLast_iff_mem hr]
  | cons x q ih =>
    have hall : (∀ y ∈ q ++ r, target y = none) ↔ ∀ y ∈ q, target y = none := by
      rw [List.forall_mem_append]
      exact and_iff_left hr
    simp only [List.cons_append, HandledLast, settled, ih, hall, or_assoc]

/-- Events put at the end keep the machine covered if the mode it settles in stays
    fine or handles one of them. -/
theorem covered_append {m : M} {q r : List E} (hr : ∀ e ∈ r, target e = none)
    {fine' : M → Prop} (h : Covered target handles fine m q)
    (hfine : fine (settled target m q) →
      fine' (settled target m q) ∨ ∃ e ∈ r, handles (settled target m q) e) :
    Covered target handles fine' m (q ++ r) := by
  unfold Covered
  rw [settled_append, settled_of_no_target hr, handledLast_append hr]
  rcases h with h | h
  · exact (hfine h).imp_right .inr
  · exact .inr (.inl h)

/-- Taking a mode-setting event keeps the machine covered. -/
theorem covered_target {m t : M} {e : E} {q : List E} (ht : target e = some t)
    (hm : ¬ handles m e) (h : Covered target handles fine m (e :: q)) :
    Covered target handles fine t q := by
  unfold Covered at h ⊢
  simp only [settled, HandledLast, ht, Option.getD_some] at h
  exact h.imp_right (·.resolve_left fun hh => hm hh.1)

/-- Offering an event to the mode in force keeps the machine covered, unless that
    mode handles it, nothing comes of it, and no mode-setting event is left. -/
theorem covered_cons {m : M} {e : E} {q : List E} (ht : target e = none)
    (h : Covered target handles fine m (e :: q))
    (hlast : handles m e → (∀ x ∈ q, target x = none) → Covered target handles fine m q) :
    Covered target handles fine m q := by
  unfold Covered at h
  simp only [settled, HandledLast, ht, Option.getD_none] at h
  rcases h with h | ⟨hh, hq⟩ | h
  · exact .inl h
  · exact hlast hh hq
  · exact .inr h

/-- A mode-setting event at the end covers the machine. -/
theorem covered_concat {m t : M} {e : E} {q : List E} (ht : target e = some t) (hfine : fine t) :
    Covered target handles fine m (q ++ [e]) := by
  refine .inl ?_
  rw [settled_append]
  simpa only [settled, ht, Option.getD_some] using hfine

end CallManager.EventQueue
