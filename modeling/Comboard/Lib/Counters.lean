import Mathlib.Data.Vector.Basic
import Mathlib.Data.List.FinRange

/-!
# Cells under distinct keys

A vector of keys, and a vector of cells beside it.
-/

namespace Comboard.Lib

variable {κ α : Type} {n : ℕ}

/-- Where the key stands. -/
def position [DecidableEq κ] (keys : Vector κ n) (key : κ) : Option (Fin n) :=
  (List.finRange n).find? fun index => keys.get index = key

theorem position_eq_some [DecidableEq κ] {keys : Vector κ n}
    (distinct : ∀ i j, keys.get i = keys.get j → i = j) {key : κ} {index : Fin n} :
    position keys key = some index ↔ keys.get index = key := by
  unfold position
  constructor
  · intro h
    simpa using List.find?_some h
  · rintro rfl
    cases hfind : (List.finRange n).find? fun i => keys.get i = keys.get index with
    | none => simpa using List.find?_eq_none.mp hfind index (List.mem_finRange index)
    | some i =>
      have hsame : keys.get i = keys.get index := by simpa using List.find?_some hfind
      rw [distinct _ _ hsame]

theorem position_eq_none [DecidableEq κ] {keys : Vector κ n} {key : κ} :
    position keys key = none ↔ ∀ index, keys.get index ≠ key := by
  simp [position, List.find?_eq_none]

theorem get_set (cells : Vector α n) (index index' : Fin n) (cell : α) :
    (cells.set index cell index.isLt).get index' =
      if index = index' then cell else cells.get index' := by
  have hget : (cells.set index cell index.isLt).get index' =
      if (index : ℕ) = index' then cell else cells.get index' :=
    Vector.getElem_set index.isLt index'.isLt
  simpa only [Fin.ext_iff] using hget

theorem get_ofFn (f : Fin n → α) (index : Fin n) : (Vector.ofFn f).get index = f index :=
  Vector.getElem_ofFn index.isLt

theorem ext_get {cells cells' : Vector α n} (h : ∀ index, cells.get index = cells'.get index) :
    cells = cells' := by
  ext i hi
  exact h ⟨i, hi⟩

end Comboard.Lib
