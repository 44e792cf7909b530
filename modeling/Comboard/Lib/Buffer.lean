import Mathlib.Data.List.GetD
import Mathlib.Data.Vector.Basic

/-!
# Buffers filled from the front

`pad n z l` is a buffer of `n` cells that holds the list `l` and is `z` behind it.
-/

namespace Comboard.Lib

variable {α : Type} {n : Nat} {z : α}

def pad (n : Nat) (z : α) (l : List α) : Vector α n := .ofFn fun i => l.getD i z

theorem getElem_pad (l : List α) (i : Nat) (hi : i < n) : (pad n z l)[i] = l.getD i z := by
  simp [pad]

@[simp]
theorem pad_nil : pad n z [] = Vector.replicate n z := by
  ext i hi
  simp [getElem_pad]

/-- What the buffer holds can be read back. -/
theorem toList_pad_take {l : List α} (h : l.length ≤ n) : (pad n z l).toList.take l.length = l := by
  apply List.ext_getElem
  · simpa using h
  · intro i h₁ h₂
    simp [getElem_pad, List.getElem_take, h₂]

/-- Writing a piece right behind what the buffer holds. -/
theorem pad_append (l piece : List α) (f : Fin n → α)
    (h : ∀ i : Fin n, l.length ≤ i → i < l.length + piece.length → f i = piece.getD (i - l.length) z) :
    (Vector.ofFn fun i : Fin n =>
      if l.length ≤ i.val ∧ i.val < l.length + piece.length then f i else getElem (pad n z l) i i.isLt) =
      pad n z (l ++ piece) := by
  ext i hi
  rw [Vector.getElem_ofFn, getElem_pad]
  split <;> rename_i hcase
  · rw [h ⟨i, hi⟩ hcase.1 hcase.2, List.getD_append_right _ _ _ _ hcase.1]
  · rw [Fin.getElem_fin, getElem_pad]
    by_cases hlt : i < l.length
    · rw [List.getD_append _ _ _ _ hlt]
    · rw [List.getD_eq_default _ _ (Nat.le_of_not_lt hlt), List.getD_eq_default _ _ ?_]
      dsimp only at hcase
      rw [List.length_append]
      omega

end Comboard.Lib
