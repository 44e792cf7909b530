import Mathlib.Data.List.SplitBy

/-!
# What a history tells

A history is a list that grows at its end. Its newest entry of a kind, how many entries in a row it
ends with, and the segments it falls into.
-/

namespace Comboard.Lib

variable {α β : Type}

/-! ## The newest entry -/

/-- What `f` finds in the last entry it finds anything in. -/
def newest (f : α → Option β) (past : List α) : Option β := past.reverse.findSome? f

@[simp]
theorem newest_nil (f : α → Option β) : newest f [] = none := rfl

@[simp]
theorem newest_concat (f : α → Option β) (past : List α) (a : α) :
    newest f (past ++ [a]) = (f a).or (newest f past) := by
  unfold newest
  rw [List.reverse_concat, List.findSome?_cons]
  cases f a <;> rfl

/-! ## Entries in a row -/

/-- How many entries at the end satisfy `p`. -/
def trailing (p : α → Bool) (past : List α) : ℕ := (past.reverse.takeWhile p).length

@[simp]
theorem trailing_nil (p : α → Bool) : trailing p [] = 0 := rfl

@[simp]
theorem trailing_concat (p : α → Bool) (past : List α) (a : α) :
    trailing p (past ++ [a]) = if p a then trailing p past + 1 else 0 := by
  unfold trailing
  rw [List.reverse_concat, List.takeWhile_cons]
  split <;> rfl

/-! ## Neighbours -/

/-- How many neighbours satisfy `p`. -/
def neighbours (p : α → α → Bool) : List α → ℕ
  | a :: b :: rest => (if p a b then 1 else 0) + neighbours p (b :: rest)
  | _ => 0

@[simp]
theorem neighbours_nil (p : α → α → Bool) : neighbours p [] = 0 := rfl

theorem neighbours_concat (p : α → α → Bool) (past : List α) (b : α) :
    neighbours p (past ++ [b]) =
      neighbours p past + if past.getLast?.any (p · b) then 1 else 0 := by
  induction past with
  | nil => rfl
  | cons a rest ih =>
    cases rest with
    | nil => cases h : p a b <;> simp [neighbours, h]
    | cons c rest =>
      have hlast : (a :: c :: rest).getLast? = (c :: rest).getLast? := List.getLast?_cons_cons
      rw [hlast, List.cons_append, List.cons_append, neighbours, neighbours, ← List.cons_append, ih]
      omega

/-! ## Segments -/

/-- The last of the segments whose neighbours satisfy `r`. -/
def last_segment (r : α → α → Bool) (past : List α) : List α := (past.splitBy r).getLast?.getD []

@[simp]
theorem last_segment_nil (r : α → α → Bool) : last_segment r [] = [] := rfl

/-- A new segment. -/
theorem splitBy_concat_new {r : α → α → Bool} {past : List α} {a : α}
    (h : ∀ last ∈ past.getLast?, r last a = false) :
    (past ++ [a]).splitBy r = past.splitBy r ++ [[a]] :=
  List.splitBy_append_cons [] h

/-- The last segment goes on. -/
theorem splitBy_concat_same {r : α → α → Bool} {past : List α} {last a : α}
    (hlast : past.getLast? = some last) (h : r last a = true) :
    ∃ before segment, past.splitBy r = before ++ [segment] ∧
      (past ++ [a]).splitBy r = before ++ [segment ++ [a]] := by
  have hne : past ≠ [] := by rintro rfl; simp at hlast
  obtain ⟨before, segment, hsplit⟩ := (past.splitBy r).eq_nil_or_concat'.resolve_left
    (List.splitBy_ne_nil.mpr hne)
  refine ⟨before, segment, hsplit, ?_⟩
  have hflat := List.flatten_splitBy r past
  have hnil := List.nil_notMem_splitBy r past
  have hchains : ∀ m ∈ past.splitBy r, m.IsChain fun x y => r x y = true :=
    fun _ => List.isChain_of_mem_splitBy
  have hbreaks := List.isChain_getLast_head_splitBy r past
  rw [hsplit] at hflat hnil hchains hbreaks
  have hsegment : segment ≠ [] := fun heq => hnil (by simp [heq])
  have hend : segment.getLast? = some last := by
    rw [← hlast, ← hflat, List.flatten_concat, List.getLast?_append_of_ne_nil _ hsegment]
  refine List.splitBy_eq_iff.mpr ⟨?_, ?_, ?_, ?_⟩
  · rw [← hflat]
    simp
  · simp only [List.mem_append, List.mem_singleton, not_or] at hnil ⊢
    exact ⟨hnil.1, by simp⟩
  · intro m hm
    rcases List.mem_append.mp hm with hm | hm
    · exact hchains m (List.mem_append_left _ hm)
    · rw [List.mem_singleton.mp hm]
      have hchain := hchains segment (by simp)
      refine List.isChain_append.mpr ⟨hchain, List.isChain_singleton a, fun x hx y hy => ?_⟩
      rw [hend] at hx
      simp_all
  · rw [List.isChain_append] at hbreaks ⊢
    refine ⟨hbreaks.1, List.isChain_singleton _, fun x hx y hy => ?_⟩
    obtain ⟨ha, hb, hbreak⟩ := hbreaks.2.2 x hx segment (by simp)
    simp only [List.head?_cons, Option.mem_def, Option.some.injEq] at hy
    subst hy
    exact ⟨ha, by simp, by rwa [List.head_append_of_ne_nil hb]⟩

theorem last_segment_concat (r : α → α → Bool) (past : List α) (a : α) :
    last_segment r (past ++ [a]) =
      if past.getLast?.any (r · a) then last_segment r past ++ [a] else [a] := by
  unfold last_segment
  cases hlast : past.getLast? with
  | none =>
    rw [splitBy_concat_new (by simp [hlast])]
    simp
  | some last =>
    cases h : r last a with
    | false =>
      rw [splitBy_concat_new (by simpa [hlast] using h)]
      simp [h]
    | true =>
      obtain ⟨before, segment, hbefore, hafter⟩ := splitBy_concat_same hlast h
      simp [hbefore, hafter, h]

theorem segments_concat (r : α → α → Bool) (past : List α) (a : α) :
    ((past ++ [a]).splitBy r).length =
      (past.splitBy r).length + if past.getLast?.any (r · a) then 0 else 1 := by
  cases hlast : past.getLast? with
  | none =>
    rw [splitBy_concat_new (by simp [hlast])]
    simp
  | some last =>
    cases h : r last a with
    | false =>
      rw [splitBy_concat_new (by simpa [hlast] using h)]
      simp [h]
    | true =>
      obtain ⟨before, segment, hbefore, hafter⟩ := splitBy_concat_same hlast h
      simp [hbefore, hafter, h]

end Comboard.Lib
