import Mathlib.Data.List.FinRange
import Mathlib.Data.List.Nodup
import Mathlib.Data.Vector.Basic

/-!
# Tables: arrays of `n` optional entries

A fixed array of `Option` cells that is searched from the front. Nothing here
knows what the entries are; `key` is whatever must be unique among them.
-/

namespace Comboard.Lib

abbrev Table (α : Type) (n : Nat) := Vector (Option α) n

namespace Table

variable {α κ : Type} {n : Nat}

def empty : Table α n := Vector.replicate n none

/-- The entries in array order, with the free cells left out. -/
def entries (t : Table α n) : List α := t.toList.filterMap id

/-- The first entry that satisfies `p`, with its cell. -/
def locate (t : Table α n) (p : α → Bool) : Option (Fin n × α) :=
  (List.finRange n).findSome? fun i => (t[i].filter p).map (i, ·)

/-- The first free cell. -/
def vacant (t : Table α n) : Option (Fin n) :=
  (List.finRange n).find? fun i => t[i].isNone

/-- No two cells hold entries with one key. -/
def Keyed (key : α → κ) (t : Table α n) : Prop :=
  ∀ (i j : Fin n) (a b : α), t[i] = some a → t[j] = some b → key a = key b → i = j

/-! ## Reading -/

theorem mem_iff (t : Table α n) (a : α) : some a ∈ t ↔ ∃ i : Fin n, t[i] = some a := by
  rw [Vector.mem_iff_getElem]
  constructor
  · rintro ⟨i, hi, h⟩; exact ⟨⟨i, hi⟩, h⟩
  · rintro ⟨i, h⟩; exact ⟨i.val, i.isLt, h⟩

@[simp]
theorem mem_entries (t : Table α n) (a : α) : a ∈ t.entries ↔ some a ∈ t := by
  simp [entries]

theorem entries_length_le (t : Table α n) : t.entries.length ≤ n := by
  exact (List.length_filterMap_le id t.toList).trans (by simp)

@[simp]
theorem not_mem_empty (a : α) : some a ∉ (empty : Table α n) := by
  simp [empty, Vector.mem_replicate]

theorem locate_some {t : Table α n} {p : α → Bool} {i : Fin n} {a : α}
    (h : t.locate p = some (i, a)) : t[i] = some a ∧ p a = true := by
  obtain ⟨_, j, _, _, hj, _⟩ := List.findSome?_eq_some_iff.mp h
  simp only [Option.map_eq_some_iff, Prod.mk.injEq] at hj
  obtain ⟨b, hb, rfl, rfl⟩ := hj
  simpa [Option.filter_eq_some_iff] using hb

theorem locate_none {t : Table α n} {p : α → Bool} :
    t.locate p = none ↔ ∀ a, some a ∈ t → p a = false := by
  simp only [locate, List.findSome?_eq_none_iff, List.mem_finRange, Option.map_eq_none_iff,
    Option.filter_eq_none_iff, true_implies, mem_iff]
  constructor
  · rintro h a ⟨i, hi⟩; simpa using h i a hi
  · intro h i a hi; simpa using h a ⟨i, hi⟩

theorem mem_of_cell {t : Table α n} {i : Fin n} {a : α} (h : t[i] = some a) : some a ∈ t :=
  (mem_iff t a).mpr ⟨i, h⟩

theorem vacant_some {t : Table α n} {i : Fin n} (h : t.vacant = some i) : t[i] = none := by
  simpa using List.find?_some h

/-! ## Writing -/

theorem cell_set (t : Table α n) (i j : Fin n) (x : Option α) :
    (t.set i x)[j] = if i = j then x else t[j] := by
  simp [Vector.getElem_set, Fin.ext_iff]

theorem mem_set {t : Table α n} {i : Fin n} {x : Option α} {b : α} :
    some b ∈ t.set i x ↔ x = some b ∨ ∃ j, j ≠ i ∧ t[j] = some b := by
  rw [mem_iff]
  constructor
  · rintro ⟨j, hj⟩
    rw [cell_set] at hj
    split at hj <;> rename_i hij
    · exact Or.inl hj
    · exact Or.inr ⟨j, fun h => hij h.symm, hj⟩
  · rintro (rfl | ⟨j, hji, hj⟩)
    · exact ⟨i, by rw [cell_set, if_pos rfl]⟩
    · exact ⟨j, by rw [cell_set, if_neg (fun h => hji h.symm), hj]⟩

/-- A write to a free cell only adds. -/
theorem mem_set_free {t : Table α n} {i : Fin n} (hi : t[i] = none) {a b : α} :
    some b ∈ t.set i (some a) ↔ b = a ∨ some b ∈ t := by
  rw [mem_set, mem_iff, Option.some.injEq, eq_comm]
  refine or_congr_right ⟨fun ⟨j, _, hj⟩ => ⟨j, hj⟩, fun ⟨j, hj⟩ => ⟨j, ?_, hj⟩⟩
  rintro rfl
  simp [hi] at hj

/-! ## Unique keys -/

namespace Keyed

variable {key : α → κ} {t : Table α n}

theorem empty : Keyed key (Table.empty : Table α n) := by
  intro i j a b hi
  simp [Table.empty] at hi

theorem unique (h : Keyed key t) {a b : α} (ha : some a ∈ t) (hb : some b ∈ t)
    (hk : key a = key b) : a = b := by
  obtain ⟨i, hi⟩ := (mem_iff t a).mp ha
  obtain ⟨j, hj⟩ := (mem_iff t b).mp hb
  obtain rfl := h i j a b hi hj hk
  simpa [hi] using hj

/-- Writing a key that no other cell holds. -/
theorem set (h : Keyed key t) {i : Fin n} {a : α}
    (hfresh : ∀ j b, j ≠ i → t[j] = some b → key b ≠ key a) : Keyed key (t.set i (some a)) := by
  intro j k b c hj hk hkey
  rw [cell_set] at hj hk
  split at hj <;> split at hk <;> rename_i hij hik
  · exact hij.symm.trans hik
  · rw [Option.some.injEq] at hj
    exact absurd (hj ▸ hkey.symm) (hfresh k c (Ne.symm hik) hk)
  · rw [Option.some.injEq] at hk
    exact absurd (hk ▸ hkey) (hfresh j b (Ne.symm hij) hj)
  · exact h j k b c hj hk hkey

theorem clear (h : Keyed key t) (i : Fin n) : Keyed key (t.set i none) := by
  intro j k b c hj hk hkey
  rw [cell_set] at hj hk
  split at hj <;> split at hk
  · simp at hj
  · simp at hj
  · simp at hk
  · exact h j k b c hj hk hkey

/-- Clearing the cell of `a` removes `a` and nothing else. -/
theorem mem_clear (h : Keyed key t) {i : Fin n} {a b : α} (hi : t[i] = some a) :
    some b ∈ t.set i none ↔ some b ∈ t ∧ key b ≠ key a := by
  rw [mem_set]
  simp only [reduceCtorEq, false_or, mem_iff]
  constructor
  · rintro ⟨j, hji, hj⟩
    exact ⟨⟨j, hj⟩, fun hk => hji (h j i b a hj hi hk)⟩
  · rintro ⟨⟨j, hj⟩, hk⟩
    refine ⟨j, ?_, hj⟩
    rintro rfl
    rw [hi, Option.some.injEq] at hj
    exact hk (hj ▸ rfl)

theorem nodup (h : Keyed key t) : (t.entries.map key).Nodup := by
  have hcells : t.toList = (List.finRange n).map fun i => t[i] := by
    apply List.ext_getElem
    · simp
    · intro i hi _; simp
  have hent : t.entries = (List.finRange n).filterMap fun i => t[i] := by
    rw [entries, hcells, List.filterMap_map]; rfl
  rw [hent, List.map_filterMap]
  refine (List.nodup_finRange n).filterMap ?_
  intro i j k hi hj
  simp only [Option.mem_def, Option.map_eq_some_iff] at hi hj
  obtain ⟨a, ha, rfl⟩ := hi
  obtain ⟨b, hb, hk⟩ := hj
  exact h i j a b ha hb hk.symm

end Keyed

/-! ## The ring: cells filled in turn -/

section Ring

/-- How many cells the ring filled after cell `i`, when `next` is the cell it fills next. -/
def ringAge (next i : Fin n) : Nat := (next.val + (n - 1) - i.val) % n

def ringNext (next : Fin n) : Fin n :=
  ⟨(next.val + 1) % n, Nat.mod_lt _ next.pos⟩

theorem ringAge_lt (next i : Fin n) : ringAge next i < n := Nat.mod_lt _ next.pos

theorem ringAge_eq (next i : Fin n) :
    ringAge next i = if i.val < next.val then next.val - 1 - i.val else next.val + (n - 1) - i.val := by
  have hi := i.isLt
  have hn := next.isLt
  unfold ringAge
  split
  · rw [show next.val + (n - 1) - i.val = (next.val - 1 - i.val) + n by omega, Nat.add_mod_right,
      Nat.mod_eq_of_lt (by omega)]
  · exact Nat.mod_eq_of_lt (by omega)

/-- The cell filled next is the oldest. -/
theorem ringAge_self (next : Fin n) : ringAge next next = n - 1 := by
  rw [ringAge_eq, if_neg (by omega)]; omega

theorem ringNext_val (next : Fin n) :
    (ringNext next).val = if next.val + 1 = n then 0 else next.val + 1 := by
  have hn := next.isLt
  unfold ringNext
  split <;> rename_i h
  · simp [h]
  · exact Nat.mod_eq_of_lt (by omega)

/-- The cell filled last is the youngest. -/
theorem ringAge_filled (next : Fin n) : ringAge (ringNext next) next = 0 := by
  have hn := next.isLt
  rw [ringAge_eq, ringNext_val]
  split <;> split <;> omega

theorem ringAge_next {next i : Fin n} (h : i ≠ next) :
    ringAge (ringNext next) i = ringAge next i + 1 := by
  have hi := i.isLt
  have hn := next.isLt
  have hne : i.val ≠ next.val := fun he => h (Fin.ext he)
  rw [ringAge_eq, ringAge_eq, ringNext_val]
  split <;> split <;> split <;> omega

end Ring

end Table

end Comboard.Lib
