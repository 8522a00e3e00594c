import CallManager.Library.Run
import Mathlib.Data.Nat.Init
import Mathlib.Tactic.ByContra

/-!
# Endless runs

An endless run of a machine takes an operation at every natural number. An
invariant holds at all times; what must happen is said with `LeadsTo`, and
shown from what the steps keep until it happens and from one helpful step that
the run, being fair, must come to.

Results:
* `stateAt_of_invariant`: the invariant rule.
* `LeadsTo.of_unless`: what stays until something happens, and meets a step
  that makes it happen, leads to it.
-/

namespace CallManager.Run

variable {σ ο : Type*} (step : σ → ο → σ)

/-- The state before the operation `n`. -/
def stateAt (s : σ) (ops : ℕ → ο) : ℕ → σ
  | 0 => s
  | n + 1 => step (stateAt s ops n) (ops n)

variable {step}

theorem stateAt_succ (s : σ) (ops : ℕ → ο) (n : ℕ) :
    stateAt step s ops (n + 1) = step (stateAt step s ops n) (ops n) := rfl

theorem stateAt_of_invariant {P : σ → Prop} {ok : σ → ο → Prop}
    (hstep : ∀ s o, P s → ok s o → P (step s o)) {s : σ} {ops : ℕ → ο} (hs : P s)
    (hops : ∀ n, ok (stateAt step s ops n) (ops n)) (n : ℕ) : P (stateAt step s ops n) := by
  induction n with
  | zero => exact hs
  | succ n ih => exact hstep _ _ ih (hops n)

/-- What a step never lowers is not lowered over time. -/
theorem stateAt_mono {f : σ → ℕ} (hstep : ∀ s o, f s ≤ f (step s o)) (s : σ) (ops : ℕ → ο)
    {n m : ℕ} (hnm : n ≤ m) : f (stateAt step s ops n) ≤ f (stateAt step s ops m) := by
  induction m, hnm using Nat.le_induction with
  | base => exact Nat.le_refl _
  | succ m hnm ih => exact Nat.le_trans ih (hstep _ _)

/-! ## What must happen -/

variable {P Q R : ℕ → Prop}

/-- Whenever `P` holds, `Q` holds then or later. -/
def LeadsTo (P Q : ℕ → Prop) : Prop := ∀ n, P n → ∃ m, n ≤ m ∧ Q m

theorem LeadsTo.of_imp (h : ∀ n, P n → Q n) : LeadsTo P Q := fun n hP => ⟨n, Nat.le_refl n, h n hP⟩

theorem LeadsTo.trans (hPQ : LeadsTo P Q) (hQR : LeadsTo Q R) : LeadsTo P R := by
  intro n hP
  obtain ⟨m, hnm, hQ⟩ := hPQ n hP
  obtain ⟨k, hmk, hR⟩ := hQR m hQ
  exact ⟨k, Nat.le_trans hnm hmk, hR⟩

theorem LeadsTo.or (hP : LeadsTo P R) (hQ : LeadsTo Q R) : LeadsTo (fun n => P n ∨ Q n) R := by
  rintro n (h | h)
  · exact hP n h
  · exact hQ n h

theorem LeadsTo.exists {ι : Type*} {P : ι → ℕ → Prop} (h : ∀ i, LeadsTo (P i) Q) :
    LeadsTo (fun n => ∃ i, P i n) Q := by
  rintro n ⟨i, hi⟩
  exact h i n hi

/-- **Progress rule.** If `P` stays until `Q` holds, and always comes to a
    moment from which it does not go on without `Q`, then it leads to `Q`. -/
theorem LeadsTo.of_unless (hnext : ∀ n, P n → P (n + 1) ∨ Q (n + 1))
    (hhelp : ∀ n, P n → ∃ m, n ≤ m ∧ (P m → Q (m + 1))) : LeadsTo P Q := by
  intro n hP
  by_contra hnot
  have hstay : ∀ m, n ≤ m → P m := by
    intro m hnm
    induction m, hnm using Nat.le_induction with
    | base => exact hP
    | succ m hnm ih =>
      refine (hnext m ih).resolve_right fun hQ => hnot ⟨m + 1, ?_, hQ⟩
      omega
  obtain ⟨m, hnm, hQ⟩ := hhelp n hP
  refine hnot ⟨m + 1, ?_, hQ (hstay m hnm)⟩
  omega

end CallManager.Run
