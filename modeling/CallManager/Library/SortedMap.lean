import Mathlib.Data.List.Basic
import Mathlib.Order.Lattice
import Mathlib.Tactic.Common

/-!
# Maps that are ordered by their keys

A finite map whose entries are a list with increasing keys, so that a loop over
the map meets them in that order. The structure carries the order.

Results:
* `mem_entries`: the entries are what the lookups return.
* `lookup_insert`, `lookup_erase`: each operation changes the lookup of one key.
* `ext_lookup`: maps with the same lookups are equal.
* `lookup_counts`: a map that counts the keys of a list.
-/

namespace CallManager

/-- A list of entries with increasing keys. -/
structure SortedMap (κ β : Type*) [LinearOrder κ] where
  entries : List (κ × β)
  sorted : entries.Pairwise fun a b => a.1 < b.1

namespace SortedMap

variable {κ β : Type*} [LinearOrder κ]

/-- The map without entries. -/
def empty : SortedMap κ β := ⟨[], List.Pairwise.nil⟩

/-- The value stored under `k`. -/
def lookup (m : SortedMap κ β) (k : κ) : Option β :=
  (m.entries.find? fun e => e.1 = k).map Prod.snd

theorem sorted_insert (m : SortedMap κ β) (k : κ) (v : β) :
    ((m.entries.filter fun e => e.1 < k) ++
      (k, v) :: m.entries.filter fun e => k < e.1).Pairwise fun a b => a.1 < b.1 := by
  refine List.pairwise_append.mpr ⟨m.sorted.filter _, ?_, ?_⟩
  · refine List.pairwise_cons.mpr ⟨fun e he => ?_, m.sorted.filter _⟩
    simpa using (List.mem_filter.mp he).2
  · intro a ha b hb
    have hak : a.1 < k := by simpa using (List.mem_filter.mp ha).2
    rcases List.mem_cons.mp hb with rfl | hb
    · exact hak
    · have hkb : k < b.1 := by simpa using (List.mem_filter.mp hb).2
      exact hak.trans hkb

/-- Store `v` under `k`, in place of what was stored there. -/
def insert (m : SortedMap κ β) (k : κ) (v : β) : SortedMap κ β :=
  ⟨_, m.sorted_insert k v⟩

/-- Remove the entry of `k`. -/
def erase (m : SortedMap κ β) (k : κ) : SortedMap κ β :=
  ⟨m.entries.filter fun e => e.1 ≠ k, m.sorted.filter _⟩

variable {m m' : SortedMap κ β} {k k' : κ} {v : β}

@[simp] theorem lookup_empty (k : κ) : (empty : SortedMap κ β).lookup k = none := rfl

@[simp] theorem entries_empty : (empty : SortedMap κ β).entries = [] := rfl

theorem entries_erase (m : SortedMap κ β) (k : κ) :
    (m.erase k).entries = m.entries.filter fun e => e.1 ≠ k := rfl

/-- Of the entries of one key there is one. -/
theorem entries_inj {v' : β} (h : (k, v) ∈ m.entries) (h' : (k, v') ∈ m.entries) : v = v' := by
  obtain ⟨entries, sorted⟩ := m
  induction entries with
  | nil => cases h
  | cons e es ih =>
    have hlt := (List.pairwise_cons.mp sorted).1
    rcases List.mem_cons.mp h with hv | hv
    · rcases List.mem_cons.mp h' with hv' | hv'
      · rw [← hv] at hv'
        exact (congrArg Prod.snd hv').symm
      · subst hv
        exact (lt_irrefl k (hlt (k, v') hv')).elim
    · rcases List.mem_cons.mp h' with hv' | hv'
      · subst hv'
        exact (lt_irrefl k (hlt (k, v) hv)).elim
      · exact ih (List.pairwise_cons.mp sorted).2 hv hv'

theorem mem_entries : (k, v) ∈ m.entries ↔ m.lookup k = some v := by
  constructor
  · intro h
    obtain ⟨e, he⟩ : ∃ e, (m.entries.find? fun e => e.1 = k) = some e := by
      rw [← Option.isSome_iff_exists, List.find?_isSome]
      exact ⟨(k, v), h, by simp⟩
    have hkey : e.1 = k := by simpa using List.find?_some he
    have hmem : (k, e.2) ∈ m.entries := hkey ▸ List.mem_of_find?_eq_some he
    rw [lookup, he, Option.map_some, entries_inj hmem h]
  · intro h
    obtain ⟨e, he, rfl⟩ := Option.map_eq_some_iff.mp h
    have hkey : e.1 = k := by simpa using List.find?_some he
    exact hkey ▸ List.mem_of_find?_eq_some he

theorem mem_insert {e : κ × β} :
    e ∈ (m.insert k v).entries ↔ e = (k, v) ∨ e ∈ m.entries ∧ e.1 ≠ k := by
  show e ∈ (m.entries.filter fun e => e.1 < k) ++ (k, v) :: (m.entries.filter fun e => k < e.1) ↔ _
  have hne : e.1 ≠ k ↔ e.1 < k ∨ k < e.1 := ne_iff_lt_or_gt
  rw [hne]
  simp only [List.mem_append, List.mem_cons, List.mem_filter, decide_eq_true_eq]
  tauto

theorem lookup_insert : (m.insert k v).lookup k' = if k' = k then some v else m.lookup k' := by
  ext u
  rw [← mem_entries, mem_insert]
  split_ifs with hk
  · subst hk
    simp [eq_comm]
  · rw [← mem_entries]
    simp [hk]

theorem lookup_erase : (m.erase k).lookup k' = if k' = k then none else m.lookup k' := by
  ext u
  rw [← mem_entries, entries_erase, List.mem_filter]
  split_ifs with hk
  · simp [hk]
  · rw [← mem_entries]
    simp [hk]

/-- Maps with the same lookups have the same entries in the same order. -/
theorem ext_lookup (h : ∀ k, m.lookup k = m'.lookup k) : m = m' := by
  have hmem : ∀ e, e ∈ m.entries ↔ e ∈ m'.entries := fun e => by
    rw [mem_entries, mem_entries, h]
  obtain ⟨entries, sorted⟩ := m
  obtain ⟨entries', sorted'⟩ := m'
  have hperm : entries.Perm entries' := by
    refine (List.perm_ext_iff_of_nodup ?_ ?_).mpr hmem
    · exact sorted.imp fun hlt heq => absurd (heq ▸ hlt) (lt_irrefl _)
    · exact sorted'.imp fun hlt heq => absurd (heq ▸ hlt) (lt_irrefl _)
  have heq : entries = entries' :=
    hperm.eq_of_pairwise (fun a b _ _ hab hba => (lt_irrefl a.1 (hab.trans hba)).elim) sorted
      sorted'
  subst heq
  rfl

/-- Removing a key that is not there changes nothing. -/
theorem erase_of_lookup_none (h : m.lookup k = none) : m.erase k = m := by
  refine ext_lookup fun k' => ?_
  rw [lookup_erase]
  split_ifs with hk
  · rw [hk, h]
  · rfl

theorem erase_insert (m : SortedMap κ β) (k : κ) (v : β) : (m.insert k v).erase k = m.erase k := by
  refine ext_lookup fun k' => ?_
  rw [lookup_erase, lookup_erase, lookup_insert]
  split_ifs <;> rfl

/-- Storing what is stored already changes nothing. -/
theorem insert_of_lookup (h : m.lookup k = some v) : m.insert k v = m := by
  refine ext_lookup fun k' => ?_
  rw [lookup_insert]
  split_ifs with hk
  · rw [hk, h]
  · rfl

/-- The one entry of a map is what every lookup returns. -/
theorem lookup_of_single (hone : m.entries = [(k, v)]) {v' : β} (h : m.lookup k' = some v') :
    k' = k ∧ v' = v := by
  have hmem := mem_entries.mpr h
  rw [hone, List.mem_singleton] at hmem
  exact Prod.ext_iff.mp hmem

theorem lookup_single (hone : m.entries = [(k, v)]) : m.lookup k = some v :=
  mem_entries.mp (by rw [hone]; exact List.mem_singleton.mpr rfl)

/-- A map without lookups is empty. -/
theorem eq_empty_of_lookup (h : ∀ k, m.lookup k = none) : m = empty :=
  ext_lookup fun k => (h k).trans (lookup_empty k).symm

/-! ### Counting -/

section Counting

variable [BEq κ] [LawfulBEq κ]

/-- Count `k` once more. -/
def increment (m : SortedMap κ ℕ) (k : κ) : SortedMap κ ℕ :=
  m.insert k ((m.lookup k).getD 0 + 1)

/-- The counts of the keys of `l`, on top of those of `m`. -/
theorem lookup_foldl_increment (m : SortedMap κ ℕ) (l : List κ) (k : κ) :
    (l.foldl increment m).lookup k =
      if k ∈ l then some ((m.lookup k).getD 0 + l.count k) else m.lookup k := by
  induction l generalizing m with
  | nil => simp
  | cons x l ih =>
    rw [List.foldl_cons, ih, increment, lookup_insert]
    by_cases hx : k = x
    · subst hx
      by_cases hmem : k ∈ l
      · simp [hmem]
        omega
      · simp [hmem, List.count_eq_zero_of_not_mem hmem]
    · simp [hx, List.count_cons_of_ne (Ne.symm hx)]

theorem lookup_counts (l : List κ) (k : κ) :
    (l.foldl increment empty).lookup k = if k ∈ l then some (l.count k) else none := by
  rw [lookup_foldl_increment]
  simp

/-- The keys that are counted are those of the list, each with its count. -/
theorem entries_counts (l : List κ) :
    (l.foldl increment empty).entries =
      ((l.foldl increment empty).entries.map (·.1)).map fun k => (k, l.count k) := by
  rw [List.map_map]
  refine (List.map_id' _).symm.trans (List.map_congr_left ?_)
  rintro ⟨k, v⟩ he
  have hlookup := mem_entries.mp he
  rw [lookup_counts] at hlookup
  split_ifs at hlookup with hmem
  cases hlookup
  rfl

theorem mem_keys_counts {l : List κ} {k : κ} :
    k ∈ (l.foldl increment empty).entries.map (·.1) ↔ k ∈ l := by
  constructor
  · intro h
    obtain ⟨⟨k', v⟩, he, rfl⟩ := List.mem_map.mp h
    have hlookup := mem_entries.mp he
    rw [lookup_counts] at hlookup
    by_contra hnot
    simp [hnot] at hlookup
  · intro h
    have hlookup := lookup_counts l k
    rw [if_pos h] at hlookup
    exact List.mem_map.mpr ⟨_, mem_entries.mpr hlookup, rfl⟩

end Counting

theorem nodup_keys (m : SortedMap κ β) : (m.entries.map (·.1)).Nodup := by
  rw [List.Nodup, List.pairwise_map]
  exact m.sorted.imp fun h => ne_of_lt h

end SortedMap

end CallManager
