import Mathlib.Init

/-!
# Windows that do not overlap

Windows of one length may open at some positions of a stream. Taken from the left, a window is opened
where it may, unless an earlier one is still open there.
-/

namespace Comboard.Lib

variable {opens : Nat → Prop} {n i j : Nat}

/-- A window of length `n` is opened at `i`. -/
def Opened (opens : Nat → Prop) (n i : Nat) : Prop :=
  opens i ∧ ∀ j, (h : j < i) → Opened opens n j → j + n ≤ i
termination_by i

theorem opened_iff : Opened opens n i ↔ opens i ∧ ∀ j < i, Opened opens n j → j + n ≤ i := by
  rw [Opened]

/-- Every window from before is closed at `i`. -/
def Closed (opens : Nat → Prop) (n i : Nat) : Prop := ∀ j < i, Opened opens n j → j + n ≤ i

theorem closed_zero : Closed opens n 0 := fun _ hj => absurd hj (Nat.not_lt_zero _)

theorem Closed.open (h : Closed opens n i) (hopens : opens i) : Opened opens n i :=
  opened_iff.mpr ⟨hopens, h⟩

/-- Nothing is opened at `i`. -/
theorem Closed.skip (h : Closed opens n i) (hopens : ¬ opens i) : Closed opens n (i + 1) := by
  intro j hj hopened
  by_cases hji : j = i
  · subst hji
    exact absurd (opened_iff.mp hopened).1 hopens
  · exact Nat.le_succ_of_le (h j (by omega) hopened)

/-- The window that is opened at `i` is closed behind it. -/
theorem Closed.over (h : Closed opens n i) (hopens : opens i) : Closed opens n (i + n) := by
  intro j hj hopened
  rcases Nat.lt_trichotomy j i with hlt | rfl | hgt
  · exact Nat.le_trans (h j hlt hopened) (Nat.le_add_right i n)
  · exact Nat.le_refl _
  · have := (opened_iff.mp hopened).2 i hgt (h.open hopens)
    omega

/-- A window that reaches behind `i` is not opened before. -/
theorem Closed.le_of_opened (h : Closed opens n i) (hj : Opened opens n j) (hji : i < j + n) :
    i ≤ j := by
  refine Nat.le_of_not_lt fun hlt => ?_
  have := h j hlt hj
  omega

end Comboard.Lib
