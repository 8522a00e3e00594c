import Mathlib.Data.List.Basic

/-!
# Runs of a deterministic machine

A machine is a function `step : σ → ο → σ`; whatever its environment decides
is part of the operation `ο`. A run applies the operations of a list in order.
This file names the two ways of speaking about a whole run, `StepsMeet` (every
step, taken from the state it is taken in, meets a condition) and `StatesMeet`
(every state visited has a property), and connects them.

Results:
* `statesMeet_of_stepsMeet`: the invariant rule; what one step preserves, a
  run preserves.
* `StepsMeet.of_invariant`: what an invariant and a condition on the steps
  imply of each step.
* `statesMeet_iff_stepsMeet`: if a condition is exactly what one step needs to
  preserve the property, then it is exactly what a run needs.
* `run_simulates`: a view of the states that one step carries over to another
  machine, a run carries over.
* `visited_spec`: what a loop collects that fills one variable again and again.
* `emit_forall₂`: what each step of a run with outputs emits, given what every
  step keeps.
-/

namespace CallManager.Run

variable {σ ο : Type*} (step : σ → ο → σ)

/-- The state after the operations `ops`, in order, from `s`. -/
def run (s : σ) (ops : List ο) : σ := ops.foldl step s

@[simp] theorem run_nil (s : σ) : run step s [] = s := rfl

@[simp] theorem run_cons (s : σ) (o : ο) (ops : List ο) :
    run step s (o :: ops) = run step (step s o) ops := rfl

theorem run_append (s : σ) (xs ys : List ο) :
    run step s (xs ++ ys) = run step (run step s xs) ys := List.foldl_append

/-- Every step of the run meets `ok` in the state it is taken in. -/
def StepsMeet (ok : σ → ο → Prop) : σ → List ο → Prop
  | _, [] => True
  | s, o :: ops => ok s o ∧ StepsMeet ok (step s o) ops

/-- Every state the run visits, the first and the last included, has `P`. -/
def StatesMeet (P : σ → Prop) : σ → List ο → Prop
  | s, [] => P s
  | s, o :: ops => P s ∧ StatesMeet P (step s o) ops

instance instDecidableStepsMeet (ok : σ → ο → Prop) [∀ s o, Decidable (ok s o)] (s : σ) :
    (ops : List ο) → Decidable (StepsMeet step ok s ops)
  | [] => .isTrue trivial
  | o :: ops =>
    have := instDecidableStepsMeet ok (step s o) ops
    inferInstanceAs (Decidable (ok s o ∧ StepsMeet step ok (step s o) ops))

variable {step} {ok : σ → ο → Prop} {P : σ → Prop}

theorem StatesMeet.head {s : σ} {ops : List ο} (h : StatesMeet step P s ops) : P s := by
  cases ops with
  | nil => exact h
  | cons o ops => exact h.1

theorem StatesMeet.last {s : σ} {ops : List ο} (h : StatesMeet step P s ops) :
    P (run step s ops) := by
  induction ops generalizing s with
  | nil => exact h
  | cons o ops ih => exact ih h.2

/-- A property that a step cannot restore held throughout a run if it holds at its end. -/
theorem statesMeet_iff_last (hback : ∀ s o, P (step s o) → P s) {s : σ} {ops : List ο} :
    StatesMeet step P s ops ↔ P (run step s ops) := by
  refine ⟨StatesMeet.last, fun h => ?_⟩
  induction ops generalizing s with
  | nil => exact h
  | cons o ops ih => exact ⟨hback s o (ih h).head, ih h⟩

theorem StatesMeet.mono {Q : σ → Prop} (hPQ : ∀ s, P s → Q s) {s : σ} {ops : List ο}
    (h : StatesMeet step P s ops) : StatesMeet step Q s ops := by
  induction ops generalizing s with
  | nil => exact hPQ s h
  | cons o ops ih => exact ⟨hPQ s h.1, ih h.2⟩

theorem StatesMeet.and {Q : σ → Prop} {s : σ} {ops : List ο} (hP : StatesMeet step P s ops)
    (hQ : StatesMeet step Q s ops) : StatesMeet step (fun s => P s ∧ Q s) s ops := by
  induction ops generalizing s with
  | nil => exact ⟨hP, hQ⟩
  | cons o ops ih => exact ⟨⟨hP.1, hQ.1⟩, ih hP.2 hQ.2⟩

theorem StepsMeet.and {ok' : σ → ο → Prop} {s : σ} {ops : List ο} (h : StepsMeet step ok s ops)
    (h' : StepsMeet step ok' s ops) : StepsMeet step (fun s o => ok s o ∧ ok' s o) s ops := by
  induction ops generalizing s with
  | nil => exact trivial
  | cons o ops ih => exact ⟨⟨h.1, h'.1⟩, ih h.2 h'.2⟩

theorem StepsMeet.imp {ok' : σ → ο → Prop} (himp : ∀ s o, ok s o → ok' s o) {s : σ}
    {ops : List ο} (h : StepsMeet step ok s ops) : StepsMeet step ok' s ops := by
  induction ops generalizing s with
  | nil => exact trivial
  | cons o ops ih => exact ⟨himp s o h.1, ih h.2⟩

theorem stepsMeet_append {s : σ} {xs ys : List ο} :
    StepsMeet step ok s (xs ++ ys) ↔
      StepsMeet step ok s xs ∧ StepsMeet step ok (run step s xs) ys := by
  induction xs generalizing s with
  | nil => simp [StepsMeet]
  | cons o xs ih =>
    show ok s o ∧ StepsMeet step ok (step s o) (xs ++ ys) ↔ _
    rw [ih, run_cons, StepsMeet, and_assoc]

/-- Conditions that agree on every step agree on every run. -/
theorem stepsMeet_congr {ok' : σ → ο → Prop} (hok : ∀ s o, ok s o ↔ ok' s o) {s : σ}
    {ops : List ο} : StepsMeet step ok s ops ↔ StepsMeet step ok' s ops := by
  induction ops generalizing s with
  | nil => exact Iff.rfl
  | cons o ops ih => exact and_congr (hok s o) ih

/-! ## The invariant rules -/

/-- **Invariant rule.** A property that every admissible step preserves holds
    throughout every run of admissible steps. -/
theorem statesMeet_of_stepsMeet (hstep : ∀ s o, P s → ok s o → P (step s o)) {s : σ}
    {ops : List ο} (hs : P s) (h : StepsMeet step ok s ops) : StatesMeet step P s ops := by
  induction ops generalizing s with
  | nil => exact hs
  | cons o ops ih => exact ⟨hs, ih (hstep s o hs h.1) h.2⟩

/-- Under an invariant that every admissible step preserves, a run of admissible
    steps is one of steps that meet what follows from both. -/
theorem StepsMeet.of_invariant {Q : σ → ο → Prop}
    (hstep : ∀ s o, P s → ok s o → P (step s o) ∧ Q s o) {s : σ} {ops : List ο} (hs : P s)
    (h : StepsMeet step ok s ops) : StepsMeet step Q s ops := by
  induction ops generalizing s with
  | nil => exact trivial
  | cons o ops ih =>
    obtain ⟨hP, hQ⟩ := hstep s o hs h.1
    exact ⟨hQ, ih hP h.2⟩

/-- An invariant of every step holds throughout every run. -/
theorem statesMeet_of_invariant (hstep : ∀ s o, P s → P (step s o)) {s : σ} (ops : List ο)
    (hs : P s) : StatesMeet step P s ops := by
  induction ops generalizing s with
  | nil => exact hs
  | cons o ops ih => exact ⟨hs, ih (hstep s o hs)⟩

/-- What an invariant of every step implies of each step. -/
theorem stepsMeet_of_invariant {Q : σ → ο → Prop} (hstep : ∀ s o, P s → P (step s o) ∧ Q s o)
    {s : σ} (ops : List ο) (hs : P s) : StepsMeet step Q s ops := by
  induction ops generalizing s with
  | nil => exact trivial
  | cons o ops ih =>
    obtain ⟨hP, hQ⟩ := hstep s o hs
    exact ⟨hQ, ih hP⟩

theorem run_invariant (hstep : ∀ s o, P s → P (step s o)) {s : σ} (ops : List ο) (hs : P s) :
    P (run step s ops) :=
  (statesMeet_of_invariant hstep ops hs).last

/-- **Exact invariant rule.** Under an invariant `I` of every operation with `Q`: if, from a
    state with `P`, a step keeps `P` exactly when it meets `ok`, then a run of such operations
    from such a state keeps `P` throughout exactly when all its steps meet `ok`. -/
theorem statesMeet_iff_stepsMeet_of_ops {I : σ → Prop} {Q : ο → Prop}
    (hinv : ∀ s o, Q o → I s → I (step s o))
    (hstep : ∀ s o, Q o → I s → P s → (P (step s o) ↔ ok s o)) {s : σ} (ops : List ο)
    (hQ : ∀ o ∈ ops, Q o) (hI : I s) (hs : P s) :
    StatesMeet step P s ops ↔ StepsMeet step ok s ops := by
  induction ops generalizing s with
  | nil => simpa [StatesMeet, StepsMeet] using hs
  | cons o ops ih =>
    have ho := hQ o List.mem_cons_self
    have hops : ∀ x ∈ ops, Q x := fun x hx => hQ x (List.mem_cons_of_mem o hx)
    simp only [StatesMeet, StepsMeet]
    constructor
    · rintro ⟨-, h⟩
      have h1 := h.head
      exact ⟨(hstep s o ho hI hs).mp h1, (ih hops (hinv s o ho hI) h1).mp h⟩
    · rintro ⟨h1, h⟩
      have h2 := (hstep s o ho hI hs).mpr h1
      exact ⟨hs, (ih hops (hinv s o ho hI) h2).mpr h⟩

theorem statesMeet_iff_stepsMeet_of_invariant {I : σ → Prop} (hinv : ∀ s o, I s → I (step s o))
    (hstep : ∀ s o, I s → P s → (P (step s o) ↔ ok s o)) {s : σ} (ops : List ο) (hI : I s)
    (hs : P s) : StatesMeet step P s ops ↔ StepsMeet step ok s ops :=
  statesMeet_iff_stepsMeet_of_ops (Q := fun _ => True) (fun s o _ => hinv s o)
    (fun s o _ => hstep s o) ops (fun _ _ => trivial) hI hs

theorem statesMeet_iff_stepsMeet (hstep : ∀ s o, P s → (P (step s o) ↔ ok s o)) {s : σ}
    (ops : List ο) (hs : P s) : StatesMeet step P s ops ↔ StepsMeet step ok s ops :=
  statesMeet_iff_stepsMeet_of_invariant (I := fun _ => True) (fun _ _ _ => trivial)
    (fun s o _ => hstep s o) ops trivial hs

/-- The exact rule for a property `P` that an induction needs in a stronger form
    `I`, for operations with `Q`: admissible steps keep `I`, and a step that keeps `P`
    from a state with `I` is admissible. -/
theorem statesMeet_iff_stepsMeet_of_stronger_ops {I : σ → Prop} {Q : ο → Prop}
    (hP : ∀ s, I s → P s) (hkeep : ∀ s o, Q o → I s → ok s o → I (step s o))
    (hok : ∀ s o, Q o → I s → P (step s o) → ok s o) {s : σ} (ops : List ο)
    (hQ : ∀ o ∈ ops, Q o) (hs : I s) : StatesMeet step P s ops ↔ StepsMeet step ok s ops := by
  induction ops generalizing s with
  | nil => exact ⟨fun _ => trivial, fun _ => hP s hs⟩
  | cons o ops ih =>
    have ho := hQ o List.mem_cons_self
    have hops : ∀ x ∈ ops, Q x := fun x hx => hQ x (List.mem_cons_of_mem o hx)
    constructor
    · rintro ⟨-, h⟩
      have hstep := hok s o ho hs h.head
      exact ⟨hstep, (ih hops (hkeep s o ho hs hstep)).mp h⟩
    · rintro ⟨hstep, h⟩
      exact ⟨hP s hs, (ih hops (hkeep s o ho hs hstep)).mpr h⟩

theorem statesMeet_iff_stepsMeet_of_stronger {I : σ → Prop} (hP : ∀ s, I s → P s)
    (hkeep : ∀ s o, I s → ok s o → I (step s o)) (hok : ∀ s o, I s → P (step s o) → ok s o)
    {s : σ} (ops : List ο) (hs : I s) : StatesMeet step P s ops ↔ StepsMeet step ok s ops :=
  statesMeet_iff_stepsMeet_of_stronger_ops (Q := fun _ => True) hP (fun s o _ => hkeep s o)
    (fun s o _ => hok s o) ops (fun _ _ => trivial) hs

/-- The exact rule for a property `P` of the states and a property `Q` of the steps. -/
theorem statesMeet_and_stepsMeet_iff {Q : σ → ο → Prop}
    (hstep : ∀ s o, P s → (P (step s o) ∧ Q s o ↔ ok s o)) {s : σ} (ops : List ο) (hs : P s) :
    StatesMeet step P s ops ∧ StepsMeet step Q s ops ↔ StepsMeet step ok s ops := by
  induction ops generalizing s with
  | nil => exact ⟨fun _ => trivial, fun _ => ⟨hs, trivial⟩⟩
  | cons o ops ih =>
    constructor
    · rintro ⟨⟨-, hP⟩, hQ, hQs⟩
      exact ⟨(hstep s o hs).mp ⟨hP.head, hQ⟩, (ih hP.head).mp ⟨hP, hQs⟩⟩
    · rintro ⟨hok, hoks⟩
      obtain ⟨hP, hQ⟩ := (hstep s o hs).mpr hok
      obtain ⟨hPs, hQs⟩ := (ih hP).mpr hoks
      exact ⟨⟨hs, hPs⟩, hQ, hQs⟩

/-- Under an invariant `I` of every operation with `Q`, conditions that agree on each
    such operation from a state with `I` agree on every run of them. -/
theorem stepsMeet_iff_of_ops {ok' : σ → ο → Prop} {I : σ → Prop} {Q : ο → Prop}
    (hinv : ∀ s o, Q o → I s → I (step s o)) (hok : ∀ s o, Q o → I s → (ok s o ↔ ok' s o)) {s : σ}
    (ops : List ο) (hQ : ∀ o ∈ ops, Q o) (hI : I s) :
    StepsMeet step ok s ops ↔ StepsMeet step ok' s ops := by
  induction ops generalizing s with
  | nil => exact Iff.rfl
  | cons o ops ih =>
    have ho := hQ o List.mem_cons_self
    have hops : ∀ x ∈ ops, Q x := fun x hx => hQ x (List.mem_cons_of_mem o hx)
    exact and_congr (hok s o ho hI) (ih hops (hinv s o ho hI))

/-! ## Simulation -/

/-- If, under an invariant `I` of every operation with `Q`, a view `f` of the states
    commutes with each step of another machine, then it commutes with every run. -/
theorem run_simulates {τ : Type*} {step' : τ → ο → τ} {f : σ → τ} {I : σ → Prop} {Q : ο → Prop}
    (hinv : ∀ s o, Q o → I s → I (step s o))
    (hstep : ∀ s o, Q o → I s → f (step s o) = step' (f s) o) {s : σ} (ops : List ο)
    (hQ : ∀ o ∈ ops, Q o) (hI : I s) : f (run step s ops) = run step' (f s) ops := by
  induction ops generalizing s with
  | nil => rfl
  | cons o ops ih =>
    have ho := hQ o List.mem_cons_self
    rw [run_cons, run_cons, ← hstep s o ho hI]
    exact ih (fun x hx => hQ x (List.mem_cons_of_mem o hx)) (hinv s o ho hI)

/-! ## Runs with outputs -/

variable {ε : Type*}

/-- A run of a machine whose steps emit a list of events each: all events, in
    order, and the last state. -/
def emit (f : σ → ο → List ε × σ) : σ → List ο → List ε × σ
  | s, [] => ([], s)
  | s, o :: ops => ((f s o).1 ++ (emit f (f s o).2 ops).1, (emit f (f s o).2 ops).2)

theorem emit_state (f : σ → ο → List ε × σ) (s : σ) (ops : List ο) :
    (emit f s ops).2 = run (fun s o => (f s o).2) s ops := by
  induction ops generalizing s with
  | nil => rfl
  | cons o ops ih => exact ih _

/-- If every step from a state with `P` keeps `P` and emits exactly one event, related to its
    operation by `R`, then a run emits one event for each of its operations, in order. -/
theorem emit_forall₂ {f : σ → ο → List ε × σ} {P : σ → Prop} {R : ο → ε → Prop}
    (hf : ∀ s o, P s → P (f s o).2 ∧ ∃ e, (f s o).1 = [e] ∧ R o e) {s : σ} (ops : List ο)
    (hs : P s) : P (emit f s ops).2 ∧ List.Forall₂ R ops (emit f s ops).1 := by
  induction ops generalizing s with
  | nil => exact ⟨hs, List.Forall₂.nil⟩
  | cons o ops ih =>
    obtain ⟨hP, e, he, hR⟩ := hf s o hs
    obtain ⟨hP', hrest⟩ := ih hP
    refine ⟨hP', ?_⟩
    simp only [emit, he, List.singleton_append]
    exact List.Forall₂.cons hR hrest

/-! ## Loops that collect their states -/

/-- The states a run visits after the first one: what a loop collects that appends
    the variable it fills for each element. -/
def visited (step : σ → ο → σ) : σ → List ο → List σ
  | _, [] => []
  | s, o :: ops => step s o :: visited step (step s o) ops

/-- If every step keeps `P` and determines `g` of the new state by the operation,
    then so it is for all that is collected. -/
theorem visited_spec {step : σ → ο → σ} {P : σ → Prop} {Q : ο → Prop} {β : Type*} {g : σ → β}
    {h : ο → β} (hstep : ∀ s o, P s → Q o → P (step s o) ∧ g (step s o) = h o) {s : σ}
    {ops : List ο} (hs : P s) (hops : ∀ o ∈ ops, Q o) :
    (∀ x ∈ visited step s ops, P x) ∧ (visited step s ops).map g = ops.map h := by
  induction ops generalizing s with
  | nil => exact ⟨by simp [visited], rfl⟩
  | cons o ops ih =>
    obtain ⟨hP, hg⟩ := hstep s o hs (hops o List.mem_cons_self)
    obtain ⟨hall, hmap⟩ := ih hP fun o' ho' => hops o' (List.mem_cons_of_mem _ ho')
    refine ⟨fun x hx => ?_, ?_⟩
    · rcases List.mem_cons.mp hx with rfl | hx
      · exact hP
      · exact hall x hx
    · rw [visited, List.map_cons, List.map_cons, hg, hmap]

end CallManager.Run
