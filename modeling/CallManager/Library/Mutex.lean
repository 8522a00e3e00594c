import Mathlib.Tactic.Common

/-!
# A thread and its non-recursive locks

What a thread does, as a program that acquires and releases locks and reads and
changes the data they guard. A lock is not recursive: to acquire one that the
thread holds itself is to wait for ever.

Results:
* `Returns.bind`, `returns_foldlM`: the parts of a program that each return with
  the locks they were started with make a program that does.
* `ReturnsIff.bind`, `ReturnsIff.lockGuard`, `returnsIff_lockGuard_held`: when a
  program returns and when it blocks.
-/

namespace CallManager.Mutex

/-- A thread: the locks it holds, the latest first, and the data. -/
structure Thread (L σ : Type) where
  held : List L
  data : σ

/-- What a thread does; `none` if it comes to wait for a lock it holds. -/
abbrev Code (L σ α : Type) := StateT (Thread L σ) Option α

variable {L σ α β : Type}

/-- Acquire a lock. -/
def acquire [DecidableEq L] (l : L) : Code L σ Unit := fun t =>
  if l ∈ t.held then none else some ((), { t with held := l :: t.held })

/-- Release a lock. -/
def release [DecidableEq L] (l : L) : Code L σ Unit := fun t =>
  some ((), { t with held := t.held.erase l })

/-- Read the data. -/
def inspect (f : σ → α) : Code L σ α := fun t => some (f t.data, t)

/-- Read and change the data. -/
def update (f : σ → α × σ) : Code L σ α := fun t =>
  some ((f t.data).1, { t with data := (f t.data).2 })

/-- A lock that is held while `p` runs (`std::lock_guard`). -/
def lockGuard [DecidableEq L] (l : L) (p : Code L σ α) : Code L σ α := do
  acquire l
  let a ← p
  release l
  return a

/-- Started with the locks `held`, the program returns, holding the same. -/
def Returns (p : Code L σ α) (held : List L) (s : σ) : Prop :=
  ∃ a s', p ⟨held, s⟩ = some (a, ⟨held, s'⟩)

/-- The program comes to wait for a lock that its thread holds. -/
def Blocks (p : Code L σ α) (held : List L) (s : σ) : Prop :=
  p ⟨held, s⟩ = none

variable {l : L} {held : List L} {s : σ}

theorem Blocks.not_returns {p : Code L σ α} (h : Blocks p held s) : ¬ Returns p held s := by
  rintro ⟨a, s', hp⟩
  rw [Blocks] at h
  rw [h] at hp
  contradiction

/-! ## Programs that return -/

theorem returns_pure (a : α) (held : List L) (s : σ) :
    Returns (pure a : Code L σ α) held s := ⟨a, s, rfl⟩

theorem returns_inspect (f : σ → α) (held : List L) (s : σ) :
    Returns (inspect f : Code L σ α) held s := ⟨f s, s, rfl⟩

theorem returns_update (f : σ → α × σ) (held : List L) (s : σ) :
    Returns (update f : Code L σ α) held s := ⟨(f s).1, (f s).2, rfl⟩

theorem Returns.discard {p : Code L σ α} (hp : Returns p held s) :
    Returns (discard p : Code L σ Unit) held s := by
  obtain ⟨a, s', hp⟩ := hp
  refine ⟨(), s', ?_⟩
  change (p ⟨held, s⟩).bind (fun out => some ((), out.2)) = _
  rw [hp, Option.bind_some]

/-- **Sequence.** What follows is started with the locks the first part was started with. -/
theorem Returns.bind {p : Code L σ α} {f : α → Code L σ β} (hp : Returns p held s)
    (hf : ∀ a s', Returns (f a) held s') : Returns (p >>= f) held s := by
  obtain ⟨a, s', hp⟩ := hp
  obtain ⟨b, s'', hf⟩ := hf a s'
  refine ⟨b, s'', ?_⟩
  change (p ⟨held, s⟩).bind (fun out => f out.1 out.2) = _
  rw [hp]
  exact hf

/-- **Loop.** Each turn is started with the locks the loop was started with. -/
theorem returns_foldlM {f : β → α → Code L σ β} (hf : ∀ b a s', Returns (f b a) held s')
    (list : List α) (b : β) (s : σ) : Returns (list.foldlM f b) held s := by
  induction list generalizing b s with
  | nil => exact returns_pure b held s
  | cons a list ih =>
    rw [List.foldlM_cons]
    exact (hf b a s).bind fun b' s' => ih b' s'

/-- A lock that is free is held in the body, and free after it. -/
theorem lockGuard_eq [DecidableEq L] {p : Code L σ α} (hl : l ∉ held) {a : α} {s' : σ}
    (hp : p ⟨l :: held, s⟩ = some (a, ⟨l :: held, s'⟩)) :
    lockGuard l p ⟨held, s⟩ = some (a, ⟨held, s'⟩) := by
  have hacquire : acquire l ⟨held, s⟩ = some ((), ⟨l :: held, s⟩) := if_neg hl
  have hrelease : release l ⟨l :: held, s'⟩ = some ((), ⟨held, s'⟩) := by
    simp [release]
  change (acquire l ⟨held, s⟩).bind (fun out => (p out.2).bind fun out' =>
    (release l out'.2).bind fun out'' => some (out'.1, out''.2)) = _
  rw [hacquire, Option.bind_some, hp, Option.bind_some, hrelease, Option.bind_some]

/-- **Scoped lock.** -/
theorem returns_lockGuard [DecidableEq L] {p : Code L σ α} (hl : l ∉ held)
    (hp : Returns p (l :: held) s) : Returns (lockGuard l p) held s := by
  obtain ⟨a, s', hp⟩ := hp
  exact ⟨a, s', lockGuard_eq hl hp⟩

/-! ## Programs that return or block -/

/-- A part that returns does not keep what follows from blocking. -/
theorem blocks_bind {p : Code L σ α} {f : α → Code L σ β} {a : α} {s' : σ}
    (hp : p ⟨held, s⟩ = some (a, ⟨held, s'⟩)) (hf : Blocks (f a) held s') :
    Blocks (p >>= f) held s := by
  change (p ⟨held, s⟩).bind (fun out => f out.1 out.2) = none
  rw [hp]
  exact hf

/-- The program returns if `P`, and blocks if not. -/
structure ReturnsIff (p : Code L σ α) (held : List L) (s : σ) (P : Prop) : Prop where
  returns : P → Returns p held s
  blocks : ¬ P → Blocks p held s

theorem ReturnsIff.iff {p : Code L σ α} {P : Prop} (h : ReturnsIff p held s P) :
    Returns p held s ↔ P := by
  constructor
  · intro hreturns
    by_contra hP
    exact (h.blocks hP).not_returns hreturns
  · exact h.returns

theorem ReturnsIff.congr {p : Code L σ α} {P Q : Prop} (h : ReturnsIff p held s P)
    (hPQ : P ↔ Q) : ReturnsIff p held s Q := by
  rwa [← hPQ]

theorem Returns.returnsIff {p : Code L σ α} (h : Returns p held s) : ReturnsIff p held s True where
  returns _ := h
  blocks hfalse := absurd trivial hfalse

theorem ReturnsIff.discard {p : Code L σ α} {P : Prop} (hp : ReturnsIff p held s P) :
    ReturnsIff (discard p : Code L σ Unit) held s P where
  returns := fun hP => (hp.returns hP).discard
  blocks := by
    intro hP
    change (p ⟨held, s⟩).bind (fun out => some ((), out.2)) = none
    have hnone : p ⟨held, s⟩ = none := hp.blocks hP
    rw [hnone, Option.bind_none]

/-- A part that is done only if `c`. -/
theorem returnsIff_ite {p q : Code L σ α} {c P Q : Prop} [Decidable c]
    (hp : c → ReturnsIff p held s P) (hq : ¬ c → ReturnsIff q held s Q) :
    ReturnsIff (if c then p else q) held s ((c → P) ∧ (¬ c → Q)) := by
  by_cases hc : c
  · rw [if_pos hc]
    exact (hp hc).congr (by simp [hc])
  · rw [if_neg hc]
    exact (hq hc).congr (by simp [hc])

theorem returnsIff_inspect_bind {f : σ → α} {g : α → Code L σ β} {P : Prop}
    (h : ReturnsIff (g (f s)) held s P) : ReturnsIff (inspect f >>= g) held s P where
  returns := h.returns
  blocks := h.blocks

/-- The first part that blocks keeps what follows from being done. -/
theorem ReturnsIff.bind {p : Code L σ α} {f : α → Code L σ β} {P Q : Prop}
    (hp : ReturnsIff p held s P) (hf : ∀ a s', ReturnsIff (f a) held s' Q) :
    ReturnsIff (p >>= f) held s (P ∧ Q) where
  returns := by
    rintro ⟨hP, hQ⟩
    exact (hp.returns hP).bind fun a s' => (hf a s').returns hQ
  blocks := by
    intro hPQ
    change (p ⟨held, s⟩).bind (fun out => f out.1 out.2) = none
    by_cases hP : P
    · obtain ⟨a, s', hp'⟩ := hp.returns hP
      rw [hp', Option.bind_some]
      exact (hf a s').blocks fun hQ => hPQ ⟨hP, hQ⟩
    · have hnone : p ⟨held, s⟩ = none := hp.blocks hP
      rw [hnone, Option.bind_none]

/-- What blocks is not followed by anything. -/
theorem ReturnsIff.false_bind {p : Code L σ α} (hp : ReturnsIff p held s False)
    (f : α → Code L σ β) : ReturnsIff (p >>= f) held s False where
  returns := False.elim
  blocks := by
    intro hfalse
    change (p ⟨held, s⟩).bind (fun out => f out.1 out.2) = none
    have hnone : p ⟨held, s⟩ = none := hp.blocks hfalse
    rw [hnone, Option.bind_none]

theorem ReturnsIff.lockGuard [DecidableEq L] {p : Code L σ α} {P : Prop} (hl : l ∉ held)
    (hp : ReturnsIff p (l :: held) s P) : ReturnsIff (lockGuard l p) held s P where
  returns := fun hP => returns_lockGuard hl (hp.returns hP)
  blocks := by
    intro hP
    have hacquire : acquire l ⟨held, s⟩ = some ((), ⟨l :: held, s⟩) := if_neg hl
    have hbody : p ⟨l :: held, s⟩ = none := hp.blocks hP
    change (acquire l ⟨held, s⟩).bind (fun out => (p out.2).bind fun out' =>
      (release l out'.2).bind fun out'' => some (out'.1, out''.2)) = none
    rw [hacquire, Option.bind_some, hbody, Option.bind_none]

/-- A scoped lock that its thread holds already. -/
theorem returnsIff_lockGuard_held [DecidableEq L] (p : Code L σ α) (hl : l ∈ held) (s : σ) :
    ReturnsIff (Mutex.lockGuard l p) held s False where
  returns := False.elim
  blocks := by
    intro _
    have hacquire : acquire l ⟨held, s⟩ = none := if_pos hl
    change (acquire l ⟨held, s⟩).bind (fun out => (p out.2).bind fun out' =>
      (release l out'.2).bind fun out'' => some (out'.1, out''.2)) = none
    rw [hacquire, Option.bind_none]

end CallManager.Mutex
