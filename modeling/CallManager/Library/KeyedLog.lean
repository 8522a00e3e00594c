import Mathlib.Data.List.Chain

/-!
# Chains in a log of keyed entries

A log keeps the entries of many sources, the latest first, and each entry has
the key of its source. The log is chained if the entries of each key are: every
entry is related to the one before it with the same key.

Results:
* `chained_cons`: an entry keeps a log chained iff it is related to the last
  entry of its key.
-/

namespace CallManager.KeyedLog

variable {ε κ : Type*} [DecidableEq κ] (key : ε → κ)

/-- The entries of a key, the latest first. -/
def entriesOf (log : List ε) (k : κ) : List ε := log.filter fun e => key e = k

/-- The latest entry of a key. -/
def last? (log : List ε) (k : κ) : Option ε := (entriesOf key log k).head?

/-- The entries of each key form a chain: `R` holds between an entry and the
    next one with its key. -/
def Chained (R : ε → ε → Prop) (log : List ε) : Prop :=
  ∀ k, (entriesOf key log k).IsChain fun later earlier => R earlier later

variable {key} {R : ε → ε → Prop} {log : List ε} {e : ε} {k : κ}

@[simp] theorem entriesOf_cons_self :
    entriesOf key (e :: log) (key e) = e :: entriesOf key log (key e) :=
  List.filter_cons_of_pos (by simp)

theorem entriesOf_cons_of_ne (h : key e ≠ k) : entriesOf key (e :: log) k = entriesOf key log k :=
  List.filter_cons_of_neg (by simpa using h)

@[simp] theorem last?_cons_self : last? key (e :: log) (key e) = some e := by
  rw [last?, entriesOf_cons_self, List.head?_cons]

theorem last?_cons_of_ne (h : key e ≠ k) : last? key (e :: log) k = last? key log k := by
  rw [last?, entriesOf_cons_of_ne h, last?]

theorem last?_eq_none (h : ∀ e ∈ log, key e ≠ k) : last? key log k = none := by
  have hnil : entriesOf key log k = [] := List.filter_eq_nil_iff.mpr (by simpa using h)
  rw [last?, hnil, List.head?_nil]

/-- The latest entry of a key is an entry with that key. -/
theorem mem_of_last? {last : ε} (h : last ∈ last? key log k) : last ∈ log ∧ key last = k := by
  have hmem := List.mem_filter.mp (List.mem_of_mem_head? h)
  exact ⟨hmem.1, by simpa using hmem.2⟩

theorem chained_nil : Chained key R [] := fun _ => List.isChain_nil

/-- An entry keeps a log chained iff it is related to the last entry of its key. -/
theorem chained_cons :
    Chained key R (e :: log) ↔ (∀ last ∈ last? key log (key e), R last e) ∧ Chained key R log := by
  constructor
  · intro h
    have he := h (key e)
    rw [entriesOf_cons_self, List.isChain_cons] at he
    refine ⟨he.1, fun k => ?_⟩
    by_cases hk : key e = k
    · rw [← hk]
      exact he.2
    · rw [← entriesOf_cons_of_ne hk]
      exact h k
  · rintro ⟨hlast, hlog⟩ k
    by_cases hk : key e = k
    · rw [← hk, entriesOf_cons_self, List.isChain_cons]
      exact ⟨hlast, hlog (key e)⟩
    · rw [entriesOf_cons_of_ne hk]
      exact hlog k

end CallManager.KeyedLog
