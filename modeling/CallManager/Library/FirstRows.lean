import Mathlib.Data.List.Perm.Subperm
import Mathlib.Tactic

/-!
# The first rows of an order

A table is given in an order, and what stands behind its first `n` rows is cut off.
The rows have no repetitions, and the order is total.

Results:
* `mem_drop_sort_iff`: a row stands behind the first `n` iff at least `n` rows are
  ahead of it.
* `le_ahead_of_first`: a table that has the first `n` rows of a larger one has `n` rows
  ahead of all its others.
-/

namespace CallManager.FirstRows

/-- A total order, as a test. -/
structure RowOrder (α : Type*) where
  le : α → α → Bool
  trans : ∀ a b c, le a b → le b c → le a c
  total : ∀ a b, le a b || le b a
  antisymm : ∀ a b, le a b → le b a → a = b

namespace RowOrder

variable {α : Type*} (r : RowOrder α)

/-- The order of a key that tells the rows apart. -/
def ofKey {β : Type*} [LinearOrder β] (key : α → β) (hinj : Function.Injective key) :
    RowOrder α where
  le a b := decide (key a ≤ key b)
  trans a b c hab hbc := by
    simp only [decide_eq_true_eq] at hab hbc ⊢
    exact le_trans hab hbc
  total a b := by simpa using le_total (key a) (key b)
  antisymm a b hab hba := by
    simp only [decide_eq_true_eq] at hab hba
    exact hinj (le_antisymm hab hba)

/-- The rows in order. -/
def sort (l : List α) : List α := l.mergeSort r.le

/-- The number of rows of `l` that come before `x`. -/
def ahead (l : List α) (x : α) : ℕ := l.countP fun y => !r.le x y

theorem sort_perm (l : List α) : (r.sort l).Perm l := List.mergeSort_perm l r.le

theorem pairwise_sort (l : List α) : (r.sort l).Pairwise fun a b => r.le a b :=
  List.pairwise_mergeSort r.trans r.total l

variable {r} {l l' : List α} {x y : α} {n : ℕ}

theorem le_of_not_le (h : r.le x y = false) : r.le y x = true := by
  have := r.total x y
  simpa [h] using this

theorem ahead_perm (h : l.Perm l') : r.ahead l x = r.ahead l' x := h.countP_eq _

/-- More rows have more rows ahead. -/
theorem ahead_le_of_subset (hnodup : l.Nodup) (hsub : l ⊆ l') : r.ahead l x ≤ r.ahead l' x :=
  (List.subperm_of_subset hnodup hsub).countP_le _

/-- Behind the first `n` there is nothing unless there are `n`. -/
theorem length_take_of_mem_drop {s : List α} (h : x ∈ s.drop n) : (s.take n).length = n := by
  have hlen : n ≤ s.length := by
    by_contra hlt
    simp [List.drop_of_length_le (show s.length ≤ n by omega)] at h
  simpa using hlen

/-- In a sorted list all rows in front of the first `n`, and none behind, are ahead. -/
theorem ahead_sorted {front back : List α}
    (hsorted : (front ++ x :: back).Pairwise fun a b => r.le a b)
    (hnodup : (front ++ x :: back).Nodup) : r.ahead (front ++ x :: back) x = front.length := by
  have hfront : front.countP (fun y => !r.le x y) = front.length := by
    rw [List.countP_eq_length]
    intro y hy
    have hyx : r.le y x = true := (List.pairwise_append.mp hsorted).2.2 y hy x (by simp)
    by_contra h
    have hxy : r.le x y = true := by simpa using h
    have heq := r.antisymm x y hxy hyx
    subst heq
    exact (List.nodup_append.mp hnodup).2.2 x hy x (by simp) rfl
  have hback : (x :: back).countP (fun y => !r.le x y) = 0 := by
    rw [List.countP_eq_zero]
    intro y hy
    have hsorted := (List.pairwise_append.mp hsorted).2.1
    rcases List.mem_cons.mp hy with rfl | hy
    · simpa using r.total y y
    · simpa using (List.pairwise_cons.mp hsorted).1 y hy
  show (front ++ x :: back).countP _ = _
  rw [List.countP_append, hfront, hback, Nat.add_zero]

/-- **What is cut off**: the rows that have at least `n` rows ahead of them. -/
theorem mem_drop_sort_iff (hnodup : l.Nodup) :
    x ∈ (r.sort l).drop n ↔ x ∈ l ∧ n ≤ r.ahead l x := by
  have hperm := r.sort_perm l
  have hsorted := r.pairwise_sort l
  have hnodupSort : (r.sort l).Nodup := hperm.nodup_iff.mpr hnodup
  rw [← hperm.mem_iff, ← ahead_perm (r := r) (x := x) hperm]
  generalize r.sort l = s at hsorted hnodupSort
  constructor
  · intro h
    refine ⟨List.mem_of_mem_drop h, ?_⟩
    have hlen := length_take_of_mem_drop h
    obtain ⟨front, back, hdrop⟩ := List.append_of_mem h
    have hs : s = (s.take n ++ front) ++ x :: back := by
      rw [List.append_assoc, ← hdrop, List.take_append_drop]
    rw [hs] at hsorted hnodupSort ⊢
    rw [ahead_sorted hsorted hnodupSort, List.length_append, hlen]
    omega
  · rintro ⟨hx, hn⟩
    obtain ⟨front, back, rfl⟩ := List.append_of_mem hx
    rw [ahead_sorted hsorted hnodupSort] at hn
    rw [List.drop_append_of_le_length hn]
    simp

/-- All of the first `n` are ahead of what stands behind them. -/
theorem ahead_take (hnodup : l.Nodup) (hx : x ∈ (r.sort l).drop n) :
    r.ahead ((r.sort l).take n) x = n := by
  have hsorted := r.pairwise_sort l
  have hnodupSort := (r.sort_perm l).nodup_iff.mpr hnodup
  rw [← List.take_append_drop n (r.sort l)] at hsorted
  show ((r.sort l).take n).countP _ = n
  conv_rhs => rw [← length_take_of_mem_drop hx]
  rw [List.countP_eq_length]
  intro y hy
  have hyx : r.le y x = true := (List.pairwise_append.mp hsorted).2.2 y hy x hx
  by_contra h
  have heq := r.antisymm x y (by simpa using h) hyx
  subst heq
  exact (List.disjoint_take_drop hnodupSort le_rfl) hy hx

/-- A table that has the first `n` rows of a larger one has `n` rows ahead of the others. -/
theorem le_ahead_of_first (hnodup : l.Nodup)
    (hfirst : ∀ y ∈ l, r.ahead l y < n → y ∈ l') (hx : x ∈ l) (hn : n ≤ r.ahead l x) :
    n ≤ r.ahead l' x := by
  have hperm := r.sort_perm l
  have hnodupSort : (r.sort l).Nodup := hperm.nodup_iff.mpr hnodup
  have hsub : (r.sort l).take n ⊆ l' := by
    intro y hy
    have hyl : y ∈ l := hperm.mem_iff.mp (List.mem_of_mem_take hy)
    apply hfirst y hyl
    by_contra hle
    have hy' : y ∈ (r.sort l).drop n := (mem_drop_sort_iff hnodup).mpr ⟨hyl, by omega⟩
    exact (List.disjoint_take_drop hnodupSort le_rfl) hy hy'
  calc n = r.ahead ((r.sort l).take n) x :=
        (ahead_take hnodup ((mem_drop_sort_iff hnodup).mpr ⟨hx, hn⟩)).symm
    _ ≤ r.ahead l' x := ahead_le_of_subset (hnodupSort.sublist (List.take_sublist n _)) hsub

end RowOrder

end CallManager.FirstRows
