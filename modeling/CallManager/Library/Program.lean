import Mathlib.Tactic.Common

/-!
# Programs of actions

A program reads a state, performs actions on it and returns a result. What an
action does to the state is given separately, so that a program can be run and
so that one can speak of the actions it performs, each with the state it is
performed in.

Results:
* `run_preserves`: what every action preserves that meets a condition, a
  program preserves whose actions all meet it; `run_invariant` is for no
  condition.
* `Only.bind`, `Only.meets`: a program that performs actions of some kind only.
* `run_comap`: a program that runs on a larger state does to its part of it
  what it does by itself.
* `Refines.bind`, `Refines.embed`, `Refines.silent`, `Refines.bind_ret`: a
  program with further actions, which leave that part alone, refines the one
  without them.
-/

universe u

namespace CallManager

/-- A program over the states `σ` and the actions `A` that returns an `α`. -/
inductive Program (σ A α : Type u) : Type u
  /-- Return a result. -/
  | ret (a : α)
  /-- Read the state. -/
  | read (k : σ → Program σ A α)
  /-- Perform an action. -/
  | act (a : A) (k : Program σ A α)

namespace Program

variable {σ τ A α β ο : Type u}

/-- Run `p`, and then what `f` makes of its result. -/
def bind : Program σ A α → (α → Program σ A β) → Program σ A β
  | ret a, f => f a
  | read k, f => read fun s => (k s).bind f
  | act a k, f => act a (k.bind f)

instance : Monad (Program σ A) where
  pure := ret
  bind := bind

/-- The state. -/
def get : Program σ A σ := read ret

/-- Perform one action. -/
def perform (a : A) : Program σ A PUnit := act a (ret ⟨⟩)

/-- The program on the states `τ`, of which it reads the part `g`. -/
def comap (g : τ → σ) : Program σ A α → Program τ A α
  | ret a => ret a
  | read k => read fun t => (k (g t)).comap g
  | act a k => act a (k.comap g)

/-- The program on the states `τ` with the actions `B`: it reads the part `g`
    and performs its actions as `f` names them. -/
def embed {B : Type u} (g : τ → σ) (f : A → B) : Program σ A α → Program τ B α
  | ret a => ret a
  | read k => read fun t => (k (g t)).embed g f
  | act a k => act (f a) (k.embed g f)

variable (apply : σ → A → σ)

/-- The result of a program and the state after it. -/
def run : Program σ A α → σ → α × σ
  | ret a, s => (a, s)
  | read k, s => (k s).run s
  | act a k, s => k.run (apply s a)

/-- Every action of the program meets `cond` in the state it is performed in. -/
def Meets (cond : σ → A → Prop) : Program σ A α → σ → Prop
  | ret _, _ => True
  | read k, s => (k s).Meets cond s
  | act a k, s => cond s a ∧ k.Meets cond (apply s a)

instance instDecidableMeets (cond : σ → A → Prop) [∀ s a, Decidable (cond s a)] :
    (p : Program σ A α) → (s : σ) → Decidable (p.Meets apply cond s)
  | ret _, _ => .isTrue trivial
  | read k, s => instDecidableMeets cond (k s) s
  | act a k, s =>
    have := instDecidableMeets cond k (apply s a)
    inferInstanceAs (Decidable (cond s a ∧ k.Meets apply cond (apply s a)))

variable {apply} {I : σ → Prop} {cond : σ → A → Prop}

/-- **Invariant rule for programs.** What every admissible action preserves, a
    program of admissible actions preserves. -/
theorem run_preserves (h : ∀ s a, I s → cond s a → I (apply s a)) (p : Program σ A α) {s : σ}
    (hI : I s) (hp : p.Meets apply cond s) : I (p.run apply s).2 := by
  induction p generalizing s with
  | ret a => exact hI
  | read k ih => exact ih s hI hp
  | act a k ih => exact ih (h s a hI hp.1) hp.2

/-- What every action preserves, every program preserves. -/
theorem run_invariant (h : ∀ s a, I s → I (apply s a)) (p : Program σ A α) {s : σ} (hI : I s) :
    I (p.run apply s).2 := by
  induction p generalizing s with
  | ret a => exact hI
  | read k ih => exact ih s hI
  | act a k ih => exact ih (h s a hI)

/-- If each action does to the part of the larger state what it does by itself,
    so does the program, and it returns the same. -/
theorem run_comap {g : τ → σ} {apply' : τ → A → τ} (hg : ∀ t a, g (apply' t a) = apply (g t) a)
    (p : Program σ A α) (t : τ) :
    ((p.comap g).run apply' t).1 = (p.run apply (g t)).1 ∧
      g ((p.comap g).run apply' t).2 = (p.run apply (g t)).2 := by
  induction p generalizing t with
  | ret a => exact ⟨rfl, rfl⟩
  | read k ih => exact ih (g t) t
  | act a k ih =>
    have hrest := ih (apply' t a)
    rw [hg] at hrest
    exact hrest

/-! ## Programs in sequence -/

/-- The second program runs on the state that the first one leaves. -/
theorem run_bind (p : Program σ A α) (f : α → Program σ A β) (s : σ) :
    (p >>= f).run apply s = (f (p.run apply s).1).run apply (p.run apply s).2 := by
  induction p generalizing s with
  | ret a => rfl
  | read k ih => exact ih s s
  | act a k ih => exact ih (apply s a)

theorem meets_bind (p : Program σ A α) (f : α → Program σ A β) (s : σ) :
    (p >>= f).Meets apply cond s ↔
      p.Meets apply cond s ∧ (f (p.run apply s).1).Meets apply cond (p.run apply s).2 := by
  induction p generalizing s with
  | ret a => exact ⟨fun h => ⟨trivial, h⟩, fun h => h.2⟩
  | read k ih => exact ih s s
  | act a k ih =>
    show cond s a ∧ (k >>= f).Meets apply cond (apply s a) ↔ _
    rw [ih]
    exact and_assoc.symm

theorem Meets.and {cond' : σ → A → Prop} {p : Program σ A α} {s : σ} (h : p.Meets apply cond s)
    (h' : p.Meets apply cond' s) : p.Meets apply (fun s a => cond s a ∧ cond' s a) s := by
  induction p generalizing s with
  | ret a => trivial
  | read k ih => exact ih s h h'
  | act a k ih => exact ⟨⟨h.1, h'.1⟩, ih h.2 h'.2⟩

/-! ## Programs of some actions only -/

section Only

variable {P : A → Prop}

/-- Whatever it reads, the program performs actions of the kind `P` only. -/
def Only (P : A → Prop) : Program σ A α → Prop
  | ret _ => True
  | read k => ∀ s, (k s).Only P
  | act a k => P a ∧ k.Only P

theorem Only.pure (a : α) : (Pure.pure a : Program σ A α).Only P := trivial

theorem Only.perform {a : A} (ha : P a) : (perform a : Program σ A PUnit).Only P := ⟨ha, trivial⟩

theorem Only.bind {p : Program σ A α} {f : α → Program σ A β} (h : p.Only P)
    (hf : ∀ a, (f a).Only P) : (p >>= f).Only P := by
  induction p with
  | ret a => exact hf a
  | read k ih => exact fun s => ih s (h s)
  | act a k ih => exact ⟨h.1, ih h.2⟩

/-- Of a program that goes on with the state it reads. -/
theorem Only.get {f : σ → Program σ A α} (h : ∀ s, (f s).Only P) : (get >>= f).Only P := h

theorem Only.meets {p : Program σ A α} (h : p.Only P) (s : σ) :
    p.Meets apply (fun _ a => P a) s := by
  induction p generalizing s with
  | ret a => trivial
  | read k ih => exact ih s (h s) s
  | act a k ih => exact ⟨h.1, ih h.2 (apply s a)⟩

end Only

/-! ## Refinement -/

section Refines

variable {B : Type u} {apply' : τ → B → τ} {g : τ → σ}

/-- A condition that every embedded action meets. -/
theorem meets_embed {cond' : τ → B → Prop} {f : A → B} (h : ∀ t a, cond' t (f a))
    (p : Program σ A α) (t : τ) : (p.embed g f).Meets apply' cond' t := by
  induction p generalizing t with
  | ret a => trivial
  | read k ih => exact ih (g t) t
  | act a k ih => exact ⟨h t a, ih _⟩

variable (apply apply' g) in
/-- On the part `g` of its state, `p` does what `q` does, and it returns the same. -/
def Refines (p : Program τ B α) (q : Program σ A α) : Prop :=
  ∀ t, (p.run apply' t).1 = (q.run apply (g t)).1 ∧
    g (p.run apply' t).2 = (q.run apply (g t)).2

theorem Refines.ret (a : α) : Refines apply apply' g (ret a) (ret a) := fun _ => ⟨rfl, rfl⟩

/-- Two programs that read the state. -/
theorem Refines.read {k : τ → Program τ B α} {k' : σ → Program σ A α}
    (h : ∀ t, Refines apply apply' g (k t) (k' (g t))) :
    Refines apply apply' g (read k) (read k') :=
  fun t => h t t

/-- Two programs that perform one action each. -/
theorem Refines.act {b : B} {a : A} (hact : ∀ t, g (apply' t b) = apply (g t) a)
    {p : Program τ B α} {q : Program σ A α} (h : Refines apply apply' g p q) :
    Refines apply apply' g (act b p) (act a q) := fun t => by
  have hrest := h (apply' t b)
  rw [hact] at hrest
  exact hrest

/-- An action that leaves the part `g` alone. -/
theorem Refines.silent {b : B} (hact : ∀ t, g (apply' t b) = g t) {p : Program τ B α}
    {q : Program σ A α} (h : Refines apply apply' g p q) :
    Refines apply apply' g (.act b p) q := fun t => by
  have hrest := h (apply' t b)
  rw [hact] at hrest
  exact hrest

theorem Refines.embed {f : A → B} (hact : ∀ t a, g (apply' t (f a)) = apply (g t) a)
    (p : Program σ A α) : Refines apply apply' g (p.embed g f) p := by
  induction p with
  | ret a => exact Refines.ret a
  | read k ih => exact Refines.read fun t => ih (g t)
  | act a k ih => exact Refines.act (fun t => hact t a) ih

theorem Refines.bind {p : Program τ B α} {q : Program σ A α} {f : α → Program τ B β}
    {f' : α → Program σ A β} (h : Refines apply apply' g p q)
    (hf : ∀ a, Refines apply apply' g (f a) (f' a)) :
    Refines apply apply' g (p >>= f) (q >>= f') := fun t => by
  obtain ⟨hresult, hstate⟩ := h t
  rw [run_bind, run_bind, ← hresult, ← hstate]
  exact hf _ _

/-- What follows returns the same and leaves the part `g` alone. -/
theorem Refines.bind_ret {p : Program τ B α} {q : Program σ A α} {f : α → Program τ B α}
    (h : Refines apply apply' g p q)
    (hf : ∀ a, Refines apply apply' g (f a) (Program.ret a)) :
    Refines apply apply' g (p >>= f) q := fun t => by
  obtain ⟨hresult, hstate⟩ := h t
  obtain ⟨hresult', hstate'⟩ := hf (p.run apply' t).1 (p.run apply' t).2
  rw [run_bind]
  exact ⟨hresult'.trans hresult, hstate'.trans hstate⟩

end Refines

end Program

end CallManager
