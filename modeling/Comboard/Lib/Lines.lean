import Mathlib.Data.List.DropRight
import Mathlib.Data.List.Induction

/-!
# The lines of a growing text

`ended n text` are the lines that `n` ends, `unended n text` is what stands behind the last `n`.
-/

namespace Comboard.Lib

variable {α : Type} [DecidableEq α] {n x : α} {text : List α}

def ended (n : α) (text : List α) : List (List α) := (text.splitOn n).dropLast

def unended (n : α) (text : List α) : List α := (text.splitOn n).getLast (List.splitOn_ne_nil n text)

theorem splitOn_eq_ended (n : α) (text : List α) :
    text.splitOn n = ended n text ++ [unended n text] :=
  (List.dropLast_concat_getLast _).symm

/-- The text has only one such splitting. -/
theorem ended_unended_of_splitOn {lines : List (List α)} {rest : List α}
    (h : text.splitOn n = lines ++ [rest]) : ended n text = lines ∧ unended n text = rest := by
  have hsplit := (splitOn_eq_ended n text).symm.trans h
  obtain ⟨hlines, hrest⟩ := List.append_inj' hsplit rfl
  exact ⟨hlines, List.singleton_inj.mp hrest⟩

@[simp]
theorem ended_nil : ended n [] = [] := by simp [ended]

@[simp]
theorem unended_nil : unended n [] = [] := by simp [unended]

/-! ## One item more -/

theorem splitOn_snoc (hx : x ≠ n) {lines : List (List α)} {rest : List α}
    (h : text.splitOn n = lines ++ [rest]) : (text ++ [x]).splitOn n = lines ++ [rest ++ [x]] := by
  induction text generalizing lines rest with
  | nil =>
    obtain ⟨rfl, hrest⟩ : lines = [] ∧ rest = [] := by
      rw [List.splitOn_nil, List.singleton_eq_append_iff] at h
      simpa using h
    rw [hrest, List.nil_append, List.splitOn_eq_singleton (by simpa using hx.symm)]
    rfl
  | cons y text ih =>
    rw [List.cons_append, List.splitOn_cons_eq_if_modifyHead]
    rw [List.splitOn_cons_eq_if_modifyHead] at h
    split at h <;> rename_i hy
    · rw [if_pos hy]
      obtain ⟨first, others, hcons⟩ : ∃ first others, lines = first :: others := by
        cases lines with
        | nil => exact absurd (List.cons.inj h).2 (List.splitOn_ne_nil n text)
        | cons first others => exact ⟨first, others, rfl⟩
      rw [hcons, List.cons_append] at h
      obtain ⟨rfl, htext⟩ := List.cons.inj h
      rw [ih htext, hcons]
      rfl
    · rw [if_neg hy]
      have hsplit := splitOn_eq_ended n text
      rw [ih hsplit]
      rw [hsplit] at h
      cases hlines : ended n text with
      | nil =>
        rw [hlines] at h
        have happend : [] ++ [y :: unended n text] = lines ++ [rest] := h
        obtain ⟨rfl, hrest⟩ := List.append_inj' happend rfl
        rw [← List.singleton_inj.mp hrest]
        rfl
      | cons first others =>
        rw [hlines] at h
        have happend : (y :: first) :: others ++ [unended n text] = lines ++ [rest] := h
        obtain ⟨rfl, hrest⟩ := List.append_inj' happend rfl
        rw [← List.singleton_inj.mp hrest]
        rfl

theorem ended_snoc (hx : x ≠ n) : ended n (text ++ [x]) = ended n text :=
  (ended_unended_of_splitOn (splitOn_snoc hx (splitOn_eq_ended n text))).1

theorem unended_snoc (hx : x ≠ n) : unended n (text ++ [x]) = unended n text ++ [x] :=
  (ended_unended_of_splitOn (splitOn_snoc hx (splitOn_eq_ended n text))).2

theorem splitOn_concat_self (n : α) (text : List α) :
    (text ++ [n]).splitOn n = (ended n text ++ [unended n text]) ++ [[]] := by
  rw [List.splitOn_append_cons_self, List.splitOn_nil, splitOn_eq_ended]

@[simp]
theorem ended_concat_self : ended n (text ++ [n]) = ended n text ++ [unended n text] :=
  (ended_unended_of_splitOn (splitOn_concat_self n text)).1

@[simp]
theorem unended_concat_self : unended n (text ++ [n]) = [] :=
  (ended_unended_of_splitOn (splitOn_concat_self n text)).2

/-- The pieces hold no separator. -/
theorem not_mem_of_mem_splitOn {piece : List α} (h : piece ∈ text.splitOn n) : n ∉ piece := by
  induction text generalizing piece with
  | nil =>
    rw [List.splitOn_nil, List.mem_singleton] at h
    simp [h]
  | cons y text ih =>
    rw [List.splitOn_cons_eq_if_modifyHead] at h
    obtain ⟨first, others, hsplit⟩ := List.exists_cons_of_ne_nil (List.splitOn_ne_nil n text)
    rw [hsplit] at h ih
    split at h <;> rename_i hy
    · rcases List.mem_cons.mp h with rfl | hpiece
      · exact List.not_mem_nil
      · exact ih hpiece
    · rw [List.modifyHead_cons, List.mem_cons] at h
      rcases h with rfl | hpiece
      · rw [List.mem_cons, not_or]
        exact ⟨fun heq => hy (by simp [heq]), ih List.mem_cons_self⟩
      · exact ih (List.mem_cons_of_mem _ hpiece)

/-- A longer text has ended more lines. -/
theorem ended_grows (text more : List α) : ended n text <+: ended n (text ++ more) := by
  induction more using List.reverseRecOn with
  | nil => simp
  | append_singleton more x ih =>
    rw [← List.append_assoc]
    by_cases hx : x = n
    · rw [hx, ended_concat_self]
      exact ih.trans (List.prefix_append _ _)
    · rwa [ended_snoc hx]

end Comboard.Lib
