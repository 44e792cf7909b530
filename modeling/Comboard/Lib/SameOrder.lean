import Mathlib.Data.List.Basic

/-!
# The same items, in the same order for each key

Items of different keys may pass each other. The keys that are not in `keys` do not count.
-/

namespace Comboard.Lib

variable {α κ : Type} [DecidableEq κ] {key : α → κ} {keys : κ → Prop}

def SameOrder (key : α → κ) (keys : κ → Prop) (l l' : List α) : Prop :=
  ∀ k, keys k → l.filter (key · = k) = l'.filter (key · = k)

namespace SameOrder

theorem refl (l : List α) : SameOrder key keys l l := fun _ _ => rfl

theorem symm {l l' : List α} (h : SameOrder key keys l l') : SameOrder key keys l' l :=
  fun k hk => (h k hk).symm

theorem trans {l l' l'' : List α} (h : SameOrder key keys l l') (h' : SameOrder key keys l' l'') :
    SameOrder key keys l l'' := fun k hk => (h k hk).trans (h' k hk)

instance : Trans (SameOrder key keys) (SameOrder key keys) (SameOrder key keys) := ⟨trans⟩

theorem append {l₁ l₁' l₂ l₂' : List α} (h₁ : SameOrder key keys l₁ l₁')
    (h₂ : SameOrder key keys l₂ l₂') : SameOrder key keys (l₁ ++ l₂) (l₁' ++ l₂') := by
  intro k hk
  rw [List.filter_append, List.filter_append, h₁ k hk, h₂ k hk]

theorem append_left (l : List α) {l₂ l₂' : List α} (h : SameOrder key keys l₂ l₂') :
    SameOrder key keys (l ++ l₂) (l ++ l₂') := (refl l).append h

theorem append_right {l₁ l₁' : List α} (h : SameOrder key keys l₁ l₁') (l : List α) :
    SameOrder key keys (l₁ ++ l) (l₁' ++ l) := h.append (refl l)

/-- An item passes items of other keys. -/
theorem pass {a : α} {l : List α} (h : ∀ b ∈ l, key b ≠ key a) :
    SameOrder key keys (l ++ [a]) (a :: l) := by
  intro k _
  by_cases ha : key a = k
  · have hl : l.filter (key · = k) = [] := by
      rw [List.filter_eq_nil_iff]
      intro b hb
      simpa [← ha] using h b hb
    simp [hl, ha]
  · simp [ha]

/-- An item whose key does not count. -/
theorem ignore {a : α} (h : ¬ keys (key a)) (l : List α) : SameOrder key keys (a :: l) l := by
  intro k hk
  have ha : key a ≠ k := by
    rintro rfl
    exact h hk
  simp [ha]

end SameOrder

end Comboard.Lib
