import Mathlib.Data.List.Nodup

/-!
# Insertion-ordered maps

A finite map whose values carry their own key and whose entries keep the order
in which they were inserted. The entries are a list without repeated keys;
the structure carries that fact, so that no operation has to be given it.

Results:
* `lookup_insert`, `lookup_erase`, `lookup_modify`: each operation changes the lookup of one
  key only.
* `mem_entries_erase`, `mem_entries_insert`, `mem_entries_modify`: each operation keeps the
  entries of the other keys.
* `mem_erase`, `mem_insert`, `mem_modify`: the keys after each operation.
* `exists_entry_erase`, `exists_entry_modify`: what is so of the entry of a key.
* `eraseP_eq_erase`: on distinct keys, erasing the first entry found is
  erasing the entry.
-/

namespace CallManager

/-- A list of values with pairwise distinct keys, in insertion order. -/
structure OrderedMap {α κ : Type*} (key : α → κ) where
  entries : List α
  nodup : (entries.map key).Nodup

namespace OrderedMap

variable {α κ : Type*} {key : α → κ}

@[ext] theorem ext {m m' : OrderedMap key} (h : m.entries = m'.entries) : m = m' := by
  cases m; cases m'; simp_all

/-- The map without entries. -/
def empty (key : α → κ) : OrderedMap key := ⟨[], List.nodup_nil⟩

@[simp] theorem entries_empty : (empty key).entries = [] := rfl

variable [DecidableEq κ]

/-- The value stored under `k`. -/
def lookup (m : OrderedMap key) (k : κ) : Option α := m.entries.find? fun a => key a = k

/-- `k` has an entry. -/
def Mem (m : OrderedMap key) (k : κ) : Prop := ∃ a ∈ m.entries, key a = k

instance (m : OrderedMap key) (k : κ) : Decidable (m.Mem k) :=
  inferInstanceAs (Decidable (∃ a ∈ m.entries, key a = k))

/-- Append `a`, unless its key has an entry already. -/
def insert (m : OrderedMap key) (a : α) : OrderedMap key :=
  if h : m.Mem (key a) then m
  else ⟨m.entries ++ [a], by
    simp only [List.map_append, List.map_cons, List.map_nil]
    refine List.Nodup.append m.nodup (List.nodup_singleton _) ?_
    simpa [Mem] using h⟩

/-- Remove the entry of `k` and keep the order of the others. -/
def erase (m : OrderedMap key) (k : κ) : OrderedMap key :=
  ⟨m.entries.filter fun a => key a ≠ k, m.nodup.sublist (List.filter_sublist.map key)⟩

/-- Change the entry of `k`, in its place, by a function that leaves keys alone. -/
def modify (m : OrderedMap key) (k : κ) (f : α → α) (hf : ∀ a, key (f a) = key a) :
    OrderedMap key :=
  ⟨m.entries.map fun a => if key a = k then f a else a, by
    have hkeys : (m.entries.map fun a => if key a = k then f a else a).map key =
        m.entries.map key := by
      rw [List.map_map]
      refine List.map_congr_left fun a _ => ?_
      show key (if key a = k then f a else a) = key a
      split_ifs
      · exact hf a
      · rfl
    rw [hkeys]
    exact m.nodup⟩

@[simp] theorem entries_erase (m : OrderedMap key) (k : κ) :
    (m.erase k).entries = m.entries.filter fun a => key a ≠ k := rfl

theorem entries_insert_of_mem {m : OrderedMap key} {a : α} (h : m.Mem (key a)) :
    (m.insert a).entries = m.entries := by
  rw [insert, dif_pos h]

theorem entries_insert_of_not_mem {m : OrderedMap key} {a : α} (h : ¬ m.Mem (key a)) :
    (m.insert a).entries = m.entries ++ [a] := by
  rw [insert, dif_neg h]

theorem mem_iff_lookup (m : OrderedMap key) (k : κ) : m.Mem k ↔ (m.lookup k).isSome := by
  simp [Mem, lookup, List.find?_isSome]

theorem lookup_eq_none {m : OrderedMap key} {k : κ} (h : ¬ m.Mem k) : m.lookup k = none := by
  simpa [mem_iff_lookup] using h

/-- What a lookup returns is an entry of that key. -/
theorem lookup_spec {m : OrderedMap key} {k : κ} {a : α} (h : m.lookup k = some a) :
    a ∈ m.entries ∧ key a = k :=
  ⟨List.mem_of_find?_eq_some h, by simpa using List.find?_some h⟩

/-- An entry is what the lookup of its key returns. -/
theorem lookup_key {m : OrderedMap key} {a : α} (h : a ∈ m.entries) :
    m.lookup (key a) = some a := by
  obtain ⟨b, hb⟩ : ∃ b, m.lookup (key a) = some b := by
    rw [← Option.isSome_iff_exists, ← mem_iff_lookup]
    exact ⟨a, h, rfl⟩
  obtain ⟨hmem, hkey⟩ := lookup_spec hb
  rw [hb, List.inj_on_of_nodup_map m.nodup hmem h hkey]

/-- The entries of a stored key are the one entry. -/
theorem filter_key {m : OrderedMap key} {a : α} (h : a ∈ m.entries) :
    m.entries.filter (fun b => key b = key a) = [a] := by
  obtain ⟨entries, nodup⟩ := m
  induction entries with
  | nil => simp at h
  | cons c rest ih =>
    simp only [List.map_cons, List.nodup_cons] at nodup
    rcases List.mem_cons.mp h with rfl | hrest
    · have hne : ∀ b ∈ rest, key b ≠ key a := by
        intro b hb hba
        exact nodup.1 (List.mem_map.mpr ⟨b, hb, hba⟩)
      simpa using hne
    · have hca : key c ≠ key a := by
        intro heq
        exact nodup.1 (List.mem_map.mpr ⟨a, hrest, heq.symm⟩)
      simpa [hca] using ih nodup.2 hrest

theorem filter_key_of_not_mem {m : OrderedMap key} {k : κ} (h : ¬ m.Mem k) :
    m.entries.filter (fun b => key b = k) = [] := by
  simpa [Mem] using h

/-- Inserting under a fresh key makes that key's lookup the new value and
    changes no other lookup. -/
theorem lookup_insert {m : OrderedMap key} {a : α} (h : ¬ m.Mem (key a)) (k : κ) :
    (m.insert a).lookup k = if key a = k then some a else m.lookup k := by
  simp only [lookup, entries_insert_of_not_mem h, List.find?_append]
  split_ifs with hk
  · subst hk
    have hnone : m.entries.find? (fun b => key b = key a) = none := lookup_eq_none h
    simp [hnone]
  · simp [hk]

theorem lookup_erase (m : OrderedMap key) (k k' : κ) :
    (m.erase k).lookup k' = if k' = k then none else m.lookup k' := by
  simp only [lookup, entries_erase, List.find?_filter]
  split_ifs with hk
  · subst hk
    simp
  · congr 1
    funext a
    by_cases ha : key a = k'
    · simp [ha, hk]
    · simp [ha]

theorem lookup_modify (m : OrderedMap key) (k : κ) {f : α → α} (hf : ∀ a, key (f a) = key a)
    (k' : κ) :
    (m.modify k f hf).lookup k' = if k' = k then (m.lookup k').map f else m.lookup k' := by
  have hkey : ∀ a, key (if key a = k then f a else a) = key a := fun a => by
    split_ifs
    · exact hf a
    · rfl
  simp only [lookup, modify, List.find?_map, Function.comp_def, hkey]
  cases hfind : m.entries.find? (fun a => key a = k') with
  | none => split_ifs <;> rfl
  | some a =>
    have ha : key a = k' := by simpa using List.find?_some hfind
    subst ha
    rw [Option.map_some, Option.map_some]
    split_ifs <;> rfl

theorem mem_erase {m : OrderedMap key} {k k' : κ} : (m.erase k).Mem k' ↔ k' ≠ k ∧ m.Mem k' := by
  rw [mem_iff_lookup, mem_iff_lookup, lookup_erase]
  split_ifs with hk <;> simp [hk]

omit [DecidableEq κ] in
/-- Two entries with one key are the same entry. -/
theorem eq_of_key_eq {m : OrderedMap key} {a b : α} (ha : a ∈ m.entries) (hb : b ∈ m.entries)
    (h : key a = key b) : a = b :=
  List.inj_on_of_nodup_map m.nodup ha hb h

/-! Each operation keeps the entries of the other keys. -/

theorem mem_entries_erase {m : OrderedMap key} {a : α} {k : κ} (h : a ∈ m.entries)
    (hk : key a ≠ k) : a ∈ (m.erase k).entries := by
  rw [entries_erase, List.mem_filter]
  exact ⟨h, by simpa using hk⟩

theorem mem_entries_insert {m : OrderedMap key} {a : α} (b : α) (h : a ∈ m.entries) :
    a ∈ (m.insert b).entries := by
  by_cases hb : m.Mem (key b)
  · rwa [entries_insert_of_mem hb]
  · rw [entries_insert_of_not_mem hb]
    exact List.mem_append_left _ h

theorem mem_entries_modify {m : OrderedMap key} {a : α} {k : κ} {f : α → α}
    (hf : ∀ a, key (f a) = key a) (h : a ∈ m.entries) (hk : key a ≠ k) :
    a ∈ (m.modify k f hf).entries := by
  show a ∈ m.entries.map fun a => if key a = k then f a else a
  rw [List.mem_map]
  exact ⟨a, h, if_neg hk⟩

/-! The keys after an insertion and a change. -/

theorem mem_insert {m : OrderedMap key} {a : α} {k : κ} :
    (m.insert a).Mem k ↔ k = key a ∨ m.Mem k := by
  by_cases ha : m.Mem (key a)
  · unfold Mem
    rw [entries_insert_of_mem ha]
    show m.Mem k ↔ k = key a ∨ m.Mem k
    constructor
    · exact Or.inr
    · rintro (rfl | hk)
      · exact ha
      · exact hk
  · unfold Mem
    rw [entries_insert_of_not_mem ha]
    simp only [List.mem_append, List.mem_singleton, or_and_right, exists_or, exists_eq_left]
    rw [or_comm, eq_comm]

theorem mem_modify {m : OrderedMap key} {k k' : κ} {f : α → α} (hf : ∀ a, key (f a) = key a) :
    (m.modify k f hf).Mem k' ↔ m.Mem k' := by
  rw [mem_iff_lookup, mem_iff_lookup, lookup_modify]
  split_ifs with hk
  · rw [Option.isSome_map]
  · rfl

/-! The entry of a key, after a deletion and after a change. -/

theorem exists_entry_erase {m : OrderedMap key} {k k' : κ} {P : α → Prop} :
    (∃ a ∈ (m.erase k).entries, key a = k' ∧ P a) ↔ k' ≠ k ∧ ∃ a ∈ m.entries, key a = k' ∧ P a := by
  simp only [entries_erase, List.mem_filter, decide_eq_true_eq]
  constructor
  · rintro ⟨a, ⟨ha, hk⟩, rfl, hP⟩
    exact ⟨hk, a, ha, rfl, hP⟩
  · rintro ⟨hk, a, ha, rfl, hP⟩
    exact ⟨a, ⟨ha, hk⟩, rfl, hP⟩

theorem exists_entry_modify {m : OrderedMap key} {k k' : κ} {f : α → α}
    (hf : ∀ a, key (f a) = key a) {P : α → Prop} :
    (∃ a ∈ (m.modify k f hf).entries, key a = k' ∧ P a) ↔
      ∃ a ∈ m.entries, key a = k' ∧ P (if k' = k then f a else a) := by
  simp only [modify, List.mem_map, exists_exists_and_eq_and]
  refine exists_congr fun a => and_congr_right fun _ => ?_
  by_cases hk : key a = k
  · rw [if_pos hk, hf]
    refine and_congr_right fun ha => ?_
    rw [if_pos (ha.symm.trans hk)]
  · rw [if_neg hk]
    refine and_congr_right fun ha => ?_
    rw [if_neg fun h => hk (ha.trans h)]

/-- Scanning for the first entry of `k` and erasing it is `erase`, because no
    other entry has that key. -/
theorem eraseP_eq_erase (m : OrderedMap key) (k : κ) :
    m.entries.eraseP (fun a => key a = k) = (m.erase k).entries := by
  obtain ⟨entries, nodup⟩ := m
  simp only [entries_erase]
  induction entries with
  | nil => rfl
  | cons a rest ih =>
    simp only [List.map_cons, List.nodup_cons] at nodup
    by_cases ha : key a = k
    · have hrest : ∀ b ∈ rest, key b ≠ k := by
        intro b hb hbk
        exact nodup.1 (List.mem_map.mpr ⟨b, hb, hbk.trans ha.symm⟩)
      simpa [ha] using (List.filter_eq_self.mpr (by simpa using hrest)).symm
    · simpa [ha] using ih nodup.2

end OrderedMap

end CallManager
