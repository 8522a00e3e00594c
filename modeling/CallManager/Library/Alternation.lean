import Mathlib.Data.List.Basic

/-!
# Alternating traces

A trace of events about one thing that is opened and closed: an event may open
it, close it, both, or neither. In an alternating trace only an event that
finds it closed opens it, and only events that find it open do anything else,
so every opening is followed by exactly one closing before the next.

Results:
* `Alternates.closings_between`: from one opening up to the next there is
  exactly one closing.
* `Alternates.append`: alternating traces compose.
-/

namespace CallManager

variable {ε : Type*} (opens closes : ε → Bool)

/-- Whether the thing is open after the trace, if it is `live` before. -/
def liveAfter : Bool → List ε → Bool
  | live, [] => live
  | _, e :: es => liveAfter (!closes e) es

/-- Events open the thing exactly when they find it closed. -/
def Alternates : Bool → List ε → Prop
  | _, [] => True
  | live, e :: es => opens e = !live ∧ Alternates (!closes e) es

variable {opens closes}

theorem Alternates.append {live : Bool} {xs ys : List ε} (hx : Alternates opens closes live xs)
    (hy : Alternates opens closes (liveAfter closes live xs) ys) :
    Alternates opens closes live (xs ++ ys) := by
  induction xs generalizing live with
  | nil => exact hy
  | cons e xs ih => exact ⟨hx.1, ih hx.2 hy⟩

theorem Alternates.right {live : Bool} {xs ys : List ε}
    (h : Alternates opens closes live (xs ++ ys)) : ∃ live', Alternates opens closes live' ys := by
  induction xs generalizing live with
  | nil => exact ⟨live, h⟩
  | cons e xs ih => exact ih h.2

/-- While nothing opens it, an alternating trace up to the next opening closes
    the thing once if it is open and never if it is closed. -/
theorem Alternates.closings_before {live : Bool} {xs ys : List ε} {b : ε}
    (h : Alternates opens closes live (xs ++ b :: ys)) (hb : opens b = true)
    (hxs : ∀ e ∈ xs, opens e = false) : xs.countP closes = live.toNat := by
  induction xs generalizing live with
  | nil =>
    have hlive : live = false := by simpa [hb] using h.1
    simp [hlive]
  | cons e xs ih =>
    have hlive : live = true := by simpa [hxs e List.mem_cons_self] using h.1
    have ih := ih h.2 fun e' he' => hxs e' (List.mem_cons_of_mem _ he')
    rw [List.countP_cons, ih, hlive]
    cases closes e <;> rfl

/-- **From an opening, that event included, up to the next one there is exactly one closing.** -/
theorem Alternates.closings_between {live : Bool} {pre mid post : List ε} {a b : ε}
    (h : Alternates opens closes live (pre ++ a :: (mid ++ b :: post))) (hb : opens b = true)
    (hmid : ∀ e ∈ mid, opens e = false) : (a :: mid).countP closes = 1 := by
  obtain ⟨live', h'⟩ := h.right
  rw [List.countP_cons, h'.2.closings_before hb hmid]
  cases closes a <;> rfl

end CallManager
