import Mathlib.Data.List.Basic
import Mathlib.Logic.Function.Basic
import Mathlib.Logic.Relation
import Mathlib.Order.Defs.Unbundled
import Mathlib.Tactic.Common

/-!
# Locks that are taken in one order

A program that takes its locks in scopes, and what it does with them: the list
of its acquisitions and releases. A thread that acquires a lock has to hold only
locks that come before it; threads that all keep to one strict order never wait
for each other in a circle.

Results:
* `Code.balanced`: a program releases what it acquires, by construction.
* `orderly_bind`, `orderly_lockGuard`, `Keeps.bind`, `Keeps.lockGuard`: when the
  parts of a program keep to an order.
* `not_waits_in_circle`: threads that keep to a strict order do not wait for
  each other in a circle, however they run.
-/

namespace CallManager.LockOrder

/-! ## What a thread does with its locks -/

/-- One thing a thread does with its locks. -/
inductive LockEvent (L : Type)
  | acquire (l : L)
  | release (l : L)
  deriving DecidableEq, Repr

section Events

variable {L : Type} [DecidableEq L] {r : L → L → Prop}

/-- The locks that are held after the events, the latest first. -/
def after (held : List L) : List (LockEvent L) → List L
  | [] => held
  | .acquire l :: events => after (l :: held) events
  | .release l :: events => after (held.erase l) events

/-- Each lock is acquired with only locks held that `r` puts before it. -/
def Orderly (r : L → L → Prop) (held : List L) : List (LockEvent L) → Prop
  | [] => True
  | .acquire l :: events => (∀ h ∈ held, r h l) ∧ Orderly r (l :: held) events
  | .release l :: events => Orderly r (held.erase l) events

instance instDecidableOrderly [DecidableRel r] : (held : List L) →
    (events : List (LockEvent L)) → Decidable (Orderly r held events)
  | _, [] => .isTrue trivial
  | held, .acquire l :: events =>
    have := instDecidableOrderly (l :: held) events
    inferInstanceAs (Decidable ((∀ h ∈ held, r h l) ∧ Orderly r (l :: held) events))
  | held, .release l :: events => instDecidableOrderly (held.erase l) events

theorem after_append (held : List L) (events events' : List (LockEvent L)) :
    after held (events ++ events') = after (after held events) events' := by
  induction events generalizing held with
  | nil => rfl
  | cons e events ih => cases e <;> exact ih _

theorem orderly_append {held : List L} {events events' : List (LockEvent L)} :
    Orderly r held (events ++ events') ↔
      Orderly r held events ∧ Orderly r (after held events) events' := by
  induction events generalizing held with
  | nil => exact ⟨fun h => ⟨trivial, h⟩, fun h => h.2⟩
  | cons e events ih =>
    cases e with
    | acquire l =>
      change _ ∧ Orderly r _ (events ++ events') ↔ (_ ∧ Orderly r _ events) ∧ _
      rw [ih, and_assoc]
      rfl
    | release l => exact ih

theorem Orderly.mono {r' : L → L → Prop} {held : List L} {events : List (LockEvent L)}
    (h : Orderly r held events) (hr : ∀ a b, r a b → r' a b) : Orderly r' held events := by
  induction events generalizing held with
  | nil => trivial
  | cons e events ih =>
    cases e with
    | acquire l => exact ⟨fun a ha => hr a l (h.1 a ha), ih h.2⟩
    | release l =>
      have hrest : Orderly r (held.erase l) events := h
      exact ih hrest

end Events

/-! ## Programs with scoped locks -/

/-- What a program returns, the data it leaves, and what it does with the locks. -/
structure Outcome (L σ α : Type) where
  value : α
  data : σ
  events : List (LockEvent L)

/-- A program over the data `σ`, which releases the locks it acquires. -/
structure Code (L σ : Type) [DecidableEq L] (α : Type) where
  run : σ → Outcome L σ α
  balanced : ∀ s held, after held (run s).events = held

section Code

variable {L σ α β : Type} [DecidableEq L] {l : L} {r : L → L → Prop} {held : List L} {s : σ}

theorem balanced_bind (p : Code L σ α) (f : α → Code L σ β) (s : σ) (held : List L) :
    after held ((p.run s).events ++ ((f (p.run s).value).run (p.run s).data).events) = held := by
  rw [after_append, p.balanced, (f _).balanced]

theorem balanced_lockGuard (l : L) (p : Code L σ α) (s : σ) (held : List L) :
    after held (.acquire l :: ((p.run s).events ++ [.release l])) = held := by
  change after (l :: held) _ = held
  rw [after_append, p.balanced]
  exact List.erase_cons_head l held

theorem balanced_nil (held : List L) : after held ([] : List (LockEvent L)) = held := rfl

/-- Run `p`, and then what `f` makes of its result. -/
def Code.bind (p : Code L σ α) (f : α → Code L σ β) : Code L σ β where
  run s :=
    let out := p.run s
    let out' := (f out.value).run out.data
    ⟨out'.value, out'.data, out.events ++ out'.events⟩
  balanced := balanced_bind p f

/-- Return a result. -/
def Code.ret (a : α) : Code L σ α where
  run s := ⟨a, s, []⟩
  balanced _ := balanced_nil

instance : Monad (Code L σ) where
  pure := Code.ret
  bind := Code.bind

/-- Read the data. -/
def get : Code L σ σ where
  run s := ⟨s, s, []⟩
  balanced _ := balanced_nil

/-- Change the data. -/
def modify (f : σ → σ) : Code L σ Unit where
  run s := ⟨(), f s, []⟩
  balanced _ := balanced_nil

/-- A lock that is held while `p` runs (`std::lock_guard`). -/
def lockGuard (l : L) (p : Code L σ α) : Code L σ α where
  run s :=
    let out := p.run s
    ⟨out.value, out.data, .acquire l :: (out.events ++ [.release l])⟩
  balanced := balanced_lockGuard l p

/-- Run `p` if `c` holds. -/
def runIf (c : Prop) [Decidable c] (p : Code L σ Unit) : Code L σ Unit :=
  if c then p else pure ()

/-! ### What a run returns and leaves -/

@[simp] theorem run_pure (a : α) (s : σ) : (pure a : Code L σ α).run s = ⟨a, s, []⟩ := rfl

@[simp] theorem run_get (s : σ) : (get : Code L σ σ).run s = ⟨s, s, []⟩ := rfl

@[simp] theorem run_modify (f : σ → σ) (s : σ) :
    (modify f : Code L σ Unit).run s = ⟨(), f s, []⟩ := rfl

@[simp] theorem value_bind (p : Code L σ α) (f : α → Code L σ β) (s : σ) :
    ((p >>= f).run s).value = ((f (p.run s).value).run (p.run s).data).value := rfl

@[simp] theorem data_bind (p : Code L σ α) (f : α → Code L σ β) (s : σ) :
    ((p >>= f).run s).data = ((f (p.run s).value).run (p.run s).data).data := rfl

@[simp] theorem value_lockGuard (p : Code L σ α) (s : σ) :
    ((lockGuard l p).run s).value = (p.run s).value := rfl

@[simp] theorem data_lockGuard (p : Code L σ α) (s : σ) :
    ((lockGuard l p).run s).data = (p.run s).data := rfl

/-! ### Programs that keep to an order -/

@[simp] theorem orderly_pure (a : α) (s : σ) :
    Orderly r held ((pure a : Code L σ α).run s).events := trivial

@[simp] theorem orderly_get (s : σ) : Orderly r held ((get : Code L σ σ).run s).events := trivial

@[simp] theorem orderly_modify (f : σ → σ) (s : σ) :
    Orderly r held ((modify f : Code L σ Unit).run s).events := trivial

/-- **Sequence.** What follows is started with the locks the first part was started with. -/
@[simp] theorem orderly_bind (p : Code L σ α) (f : α → Code L σ β) (s : σ) :
    Orderly r held ((p >>= f).run s).events ↔
      Orderly r held (p.run s).events ∧
        Orderly r held ((f (p.run s).value).run (p.run s).data).events := by
  change Orderly r held (_ ++ _) ↔ _
  rw [orderly_append, p.balanced]

/-- **Scope.** The lock comes after those that are held, and the body is run with it. -/
@[simp] theorem orderly_lockGuard (p : Code L σ α) (s : σ) :
    Orderly r held ((lockGuard l p).run s).events ↔
      (∀ h ∈ held, r h l) ∧ Orderly r (l :: held) (p.run s).events := by
  change _ ∧ Orderly r _ (_ ++ _) ↔ _
  rw [orderly_append]
  exact and_congr_right fun _ => and_iff_left trivial

theorem orderly_get_bind (f : σ → Code L σ β) (s : σ) :
    Orderly r held ((get >>= f).run s).events ↔ Orderly r held ((f s).run s).events :=
  (orderly_bind get f s).trans (and_iff_right trivial)

theorem orderly_modify_bind (g : σ → σ) (f : Unit → Code L σ β) (s : σ) :
    Orderly r held ((modify g >>= f).run s).events ↔ Orderly r held ((f ()).run (g s)).events :=
  (orderly_bind (modify g) f s).trans (and_iff_right trivial)

@[simp] theorem orderly_discard (p : Code L σ α) (s : σ) :
    Orderly r held ((discard p : Code L σ Unit).run s).events ↔
      Orderly r held (p.run s).events :=
  (orderly_bind p (fun _ => pure ()) s).trans (and_iff_left trivial)

/-- Whatever the data, the program keeps to the order, started with the locks `held`. -/
def Keeps (r : L → L → Prop) (held : List L) (p : Code L σ α) : Prop :=
  ∀ s, Orderly r held (p.run s).events

theorem keeps_pure (a : α) : Keeps r held (pure a : Code L σ α) := fun _ => trivial

theorem keeps_get : Keeps r held (get : Code L σ σ) := fun _ => trivial

theorem keeps_modify (f : σ → σ) : Keeps r held (modify f : Code L σ Unit) := fun _ => trivial

theorem Keeps.bind {p : Code L σ α} {f : α → Code L σ β} (hp : Keeps r held p)
    (hf : ∀ a, Keeps r held (f a)) : Keeps r held (p >>= f) := fun s =>
  (orderly_bind p f s).mpr ⟨hp s, hf _ _⟩

theorem Keeps.lockGuard {p : Code L σ α} (hl : ∀ h ∈ held, r h l) (hp : Keeps r (l :: held) p) :
    Keeps r held (lockGuard l p) := fun s => (orderly_lockGuard p s).mpr ⟨hl, hp s⟩

theorem keeps_ite {p q : Code L σ α} {c : Prop} [Decidable c] (hp : c → Keeps r held p)
    (hq : ¬ c → Keeps r held q) : Keeps r held (if c then p else q) := by
  split_ifs with hc
  · exact hp hc
  · exact hq hc

theorem keeps_runIf {p : Code L σ Unit} {c : Prop} [Decidable c] (hp : c → Keeps r held p) :
    Keeps r held (runIf c p) := keeps_ite hp fun _ => keeps_pure ()

theorem Keeps.discard {p : Code L σ α} (hp : Keeps r held p) :
    Keeps r held (discard p : Code L σ Unit) := hp.bind fun _ => keeps_pure ()

/-! ### Programs that leave a part of the data alone -/

variable {τ : Type} {g : σ → τ}

/-- Whatever the data, the program leaves the part `g` of it as it was. -/
def Preserves (g : σ → τ) (p : Code L σ α) : Prop := ∀ s, g (p.run s).data = g s

theorem preserves_pure (a : α) : Preserves g (pure a : Code L σ α) := fun _ => rfl

theorem preserves_get : Preserves g (get : Code L σ σ) := fun _ => rfl

theorem Preserves.bind {p : Code L σ α} {f : α → Code L σ β} (hp : Preserves g p)
    (hf : ∀ a, Preserves g (f a)) : Preserves g (p >>= f) := fun s =>
  (hf _ _).trans (hp s)

theorem preserves_ite {p q : Code L σ α} {c : Prop} [Decidable c] (hp : c → Preserves g p)
    (hq : ¬ c → Preserves g q) : Preserves g (if c then p else q) := by
  split_ifs with hc
  · exact hp hc
  · exact hq hc

theorem preserves_runIf {p : Code L σ Unit} {c : Prop} [Decidable c]
    (hp : c → Preserves g p) : Preserves g (runIf c p) :=
  preserves_ite hp fun _ => preserves_pure ()

theorem Preserves.discard {p : Code L σ α} (hp : Preserves g p) :
    Preserves g (discard p : Code L σ Unit) := hp.bind fun _ => preserves_pure ()

theorem Preserves.lockGuard {p : Code L σ α} (hp : Preserves g p) :
    Preserves g (lockGuard l p) := hp

/-- What is determined by a part that is left alone is left alone. -/
theorem Preserves.of_determined {υ : Type} {f : σ → υ} {p : Code L σ α} (hp : Preserves g p)
    (hf : ∀ s s', g s = g s' → f s = f s') : Preserves f p := fun s => hf _ _ (hp s)

end Code

/-! ## Threads that run at the same time -/

/-- A thread: the locks it holds, and what it has still to do with locks. -/
structure Thread (L : Type) where
  held : List L
  rest : List (LockEvent L)

section Threads

variable {L ι : Type} [DecidableEq L] [DecidableEq ι] {r : L → L → Prop}
  {c c' : ι → Thread L} {start : ι → List (LockEvent L)}

/-- The threads before any of them has done anything. -/
def started (start : ι → List (LockEvent L)) : ι → Thread L := fun i => ⟨[], start i⟩

/-- One thread goes on. It acquires a lock only if no thread holds it. -/
inductive Step : (ι → Thread L) → (ι → Thread L) → Prop
  | acquire (c : ι → Thread L) (i : ι) (l : L) (events : List (LockEvent L)) :
    (c i).rest = .acquire l :: events → (∀ j, l ∉ (c j).held) →
      Step c (Function.update c i ⟨l :: (c i).held, events⟩)
  | release (c : ι → Thread L) (i : ι) (l : L) (events : List (LockEvent L)) :
    (c i).rest = .release l :: events →
      Step c (Function.update c i ⟨(c i).held.erase l, events⟩)

/-- The threads can come to this state. -/
def Reaches (start : ι → List (LockEvent L)) (c : ι → Thread L) : Prop :=
  Relation.ReflTransGen Step (started start) c

/-- The thread `i` waits for a lock that the thread `j` holds. -/
def Waits (c : ι → Thread L) (i j : ι) : Prop :=
  ∃ l events, (c i).rest = .acquire l :: events ∧ l ∈ (c j).held

theorem Step.orderly (hstep : Step c c') (h : ∀ i, Orderly r (c i).held (c i).rest) (i : ι) :
    Orderly r (c' i).held (c' i).rest := by
  cases hstep with
  | acquire j l events hrest hfree =>
    rcases eq_or_ne i j with rfl | hij
    · have hi := h i
      rw [hrest] at hi
      rw [Function.update_self]
      exact hi.2
    · rw [Function.update_of_ne hij]
      exact h i
  | release j l events hrest =>
    rcases eq_or_ne i j with rfl | hij
    · have hi := h i
      rw [hrest] at hi
      rw [Function.update_self]
      exact hi
    · rw [Function.update_of_ne hij]
      exact h i

/-- What the threads have still to do keeps to the order. -/
theorem Reaches.orderly (hreach : Reaches start c) (h : ∀ i, Orderly r [] (start i)) :
    ∀ i, Orderly r (c i).held (c i).rest := by
  induction hreach with
  | refl => exact h
  | tail _ hstep ih => exact hstep.orderly ih

omit [DecidableEq ι] in
/-- Along a chain of threads that wait for each other, the lock that is waited
    for comes no later than one that the last of them holds. -/
theorem exists_held_of_waits [IsStrictOrder L r] (h : ∀ i, Orderly r (c i).held (c i).rest)
    {i j : ι} (hwaits : Relation.TransGen (Waits c) i j) :
    ∃ l events, (c i).rest = .acquire l :: events ∧ ∃ m ∈ (c j).held, l = m ∨ r l m := by
  induction hwaits with
  | single hij =>
    obtain ⟨l, events, hrest, hheld⟩ := hij
    exact ⟨l, events, hrest, l, hheld, .inl rfl⟩
  | @tail j k _ hjk ih =>
    obtain ⟨l, events, hrest, m, hm, hlm⟩ := ih
    obtain ⟨l', events', hrest', hheld⟩ := hjk
    have hj := h j
    rw [hrest'] at hj
    have hml : r m l' := hj.1 m hm
    refine ⟨l, events, hrest, l', hheld, .inr ?_⟩
    rcases hlm with rfl | hlm
    · exact hml
    · exact trans_of r hlm hml

/-- **No circle.** Threads that acquire their locks in one strict order never
    wait for each other in a circle, and none waits for itself. -/
theorem not_waits_in_circle [IsStrictOrder L r] (hstart : ∀ i, Orderly r [] (start i))
    (hreach : Reaches start c) (i : ι) : ¬ Relation.TransGen (Waits c) i i := by
  intro hwaits
  have h := hreach.orderly hstart
  obtain ⟨l, events, hrest, m, hm, hlm⟩ := exists_held_of_waits h hwaits
  have hi := h i
  rw [hrest] at hi
  have hml : r m l := hi.1 m hm
  rcases hlm with rfl | hlm
  · exact irrefl_of r l hml
  · exact irrefl_of r l (trans_of r hlm hml)

end Threads

end CallManager.LockOrder
