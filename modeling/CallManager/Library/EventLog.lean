import Mathlib.Data.List.Basic
import Mathlib.Order.Basic

/-!
# Logs of events with their times

A log is the list of what happened, in order, each event with its time. This file says
when an event of some kind happened: at which times, when first, when last. What was
logged first stays first, and what is logged next is last.

Results:
* `times_append`, `firstTime_append`, `lastTime_append`: the times of two logs, one after
  the other.
* `mem_of_firstTime`, `mem_of_lastTime`: they are times of the log.
* `firstTime_le`, `le_lastTime`: if the log is in the order of its times, they are the least
  and the greatest.
-/

namespace CallManager.EventLog

variable {ε τ : Type*} (p : ε → Bool)

/-- The times of the events of the kind `p`. -/
def times (log : List (ε × τ)) : List τ := (log.filter fun e => p e.1).map (·.2)

/-- The time of the first of them. -/
def firstTime (log : List (ε × τ)) : Option τ := (times p log).head?

/-- The time of the last of them. -/
def lastTime (log : List (ε × τ)) : Option τ := (times p log).getLast?

variable {p} {log log' : List (ε × τ)} {t : τ}

@[simp] theorem times_nil : times p ([] : List (ε × τ)) = [] := rfl

theorem mem_times : t ∈ times p log ↔ ∃ e, (e, t) ∈ log ∧ p e = true := by
  simp [times, and_comm]

theorem times_append : times p (log ++ log') = times p log ++ times p log' := by
  simp [times]

theorem firstTime_append :
    firstTime p (log ++ log') = (firstTime p log).or (firstTime p log') := by
  rw [firstTime, times_append, List.head?_append]
  rfl

theorem lastTime_append : lastTime p (log ++ log') = (lastTime p log').or (lastTime p log) := by
  rw [lastTime, times_append, List.getLast?_append]
  rfl

/-- One event of the kind, or one of another. -/
@[simp] theorem times_singleton (e : ε) : times p [(e, t)] = if p e then [t] else [] := by
  by_cases h : p e = true <;> simp [times, h]

@[simp] theorem firstTime_singleton (e : ε) :
    firstTime p [(e, t)] = if p e then some t else none := by
  by_cases h : p e = true <;> simp [firstTime, h]

@[simp] theorem lastTime_singleton (e : ε) :
    lastTime p [(e, t)] = if p e then some t else none := by
  by_cases h : p e = true <;> simp [lastTime, h]

theorem mem_of_firstTime (h : firstTime p log = some t) : t ∈ log.map (·.2) := by
  obtain ⟨e, he, -⟩ := mem_times.mp (List.mem_of_mem_head? h)
  exact List.mem_map.mpr ⟨(e, t), he, rfl⟩

theorem mem_of_lastTime (h : lastTime p log = some t) : t ∈ log.map (·.2) := by
  obtain ⟨e, he, -⟩ := mem_times.mp (List.mem_of_mem_getLast? h)
  exact List.mem_map.mpr ⟨(e, t), he, rfl⟩

section Ordered

variable [Preorder τ] {x : τ} (hlog : (log.map (·.2)).Pairwise (· ≤ ·))

include hlog

theorem pairwise_times : (times p log).Pairwise (· ≤ ·) :=
  hlog.sublist (List.filter_sublist.map _)

theorem firstTime_le (hx : x ∈ times p log) (h : firstTime p log = some t) : t ≤ x := by
  have hsorted := pairwise_times (p := p) hlog
  cases hl : times p log with
  | nil => simp [hl] at hx
  | cons y l =>
    obtain rfl : y = t := by simpa [firstTime, hl] using h
    rw [hl, List.pairwise_cons] at hsorted
    rw [hl] at hx
    rcases List.mem_cons.mp hx with rfl | hx
    · exact le_refl _
    · exact hsorted.1 x hx

theorem le_lastTime (hx : x ∈ times p log) (h : lastTime p log = some t) : x ≤ t := by
  have hsorted := pairwise_times (p := p) hlog
  obtain ⟨l, hl⟩ := List.getLast?_eq_some_iff.mp h
  rw [hl, List.pairwise_append] at hsorted
  rw [hl] at hx
  rcases List.mem_append.mp hx with hx | hx
  · exact hsorted.2.2 x hx t (List.mem_singleton_self _)
  · rw [List.mem_singleton.mp hx]

end Ordered

end CallManager.EventLog
