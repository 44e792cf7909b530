import Comboard.Code.Scheduler
import Mathlib.Order.Bounds.Basic
import Mathlib.Data.Nat.ModEq

/-!
# The next deadline of a grid

`advance_deadline` looks for the first deadline after now. It finds it whenever a `u64` can hold it.
-/

namespace Comboard.Advance

open Lib

/-! ## The first term after a bound -/

/-- `start + terms * step` is the first of `start`, `start + step`, ... after `bound`. -/
def FirstAfter (start step bound terms : Nat) : Prop :=
  IsLeast {value | bound < value ∧ ∃ k, value = start + k * step} (start + terms * step)

theorem first_after_start {start bound : Nat} (step : Nat) (h : bound < start) :
    FirstAfter start step bound 0 := by
  refine ⟨⟨by omega, 0, rfl⟩, ?_⟩
  rintro _ ⟨-, k, rfl⟩
  exact Nat.add_le_add_left (by simp) start

theorem first_after_div {start step bound : Nat} (hstep : 0 < step) (h : start ≤ bound) :
    FirstAfter start step bound ((bound - start) / step + 1) := by
  have hafter : bound - start < ((bound - start) / step + 1) * step := by
    rw [Nat.mul_comm]
    exact Nat.lt_mul_div_succ _ hstep
  refine ⟨⟨by omega, _, rfl⟩, ?_⟩
  rintro _ ⟨hk, k, rfl⟩
  have hbehind : (bound - start) / step < k := (Nat.div_lt_iff_lt_mul hstep).mpr (by omega)
  exact Nat.add_le_add_left (Nat.mul_le_mul_right step hbehind) start

theorem FirstAfter.unique {start step bound terms terms' : Nat} (hstep : 0 < step)
    (h : FirstAfter start step bound terms) (h' : FirstAfter start step bound terms') :
    terms = terms' := by
  have hvalue : start + terms * step = start + terms' * step := IsLeast.unique h h'
  exact Nat.eq_of_mul_eq_mul_right hstep (Nat.add_left_cancel hvalue)

/-! ## `advance_deadline` over the natural numbers -/

theorem checked_add_fits {a b : Nat} (h : a + b ≤ U64_MAX) : checked_add a b = some (a + b) := if_pos h

theorem checked_add_over {a b : Nat} (h : U64_MAX < a + b) : checked_add a b = none :=
  if_neg (Nat.not_le.mpr h)

/-- The deadline that is returned, when a `u64` can hold it. -/
def result (deadline interval terms : Nat) : Option DeadlineAdvance :=
  if interval ≠ 0 ∧ deadline + terms * interval ≤ U64_MAX then
    some { next_deadline_us := deadline + terms * interval, missed_slots := min terms 0xffffffff }
  else none

theorem advance_deadline_first {deadline now interval terms : Nat} (hdeadline : deadline ≤ U64_MAX)
    (h : interval ≠ 0 → FirstAfter deadline interval now terms) :
    advance_deadline deadline now interval = result deadline interval terms := by
  unfold advance_deadline result
  by_cases hzero : interval = 0
  · simp [hzero]
  have hpos : 0 < interval := Nat.pos_of_ne_zero hzero
  have hfirst := h hzero
  rw [if_neg hzero]
  by_cases hfuture : deadline > now
  · obtain rfl : terms = 0 := hfirst.unique hpos (first_after_start interval hfuture)
    simp [hfuture, hzero, hdeadline]
  rw [if_neg hfuture]
  have hbehind : deadline ≤ now := Nat.not_lt.mp hfuture
  obtain rfl := hfirst.unique hpos (first_after_div hpos hbehind)
  have hafter : now < deadline + ((now - deadline) / interval + 1) * interval := hfirst.1.1
  simp only [Option.bind_eq_bind]
  generalize (now - deadline) / interval = elapsed at hafter ⊢
  have hterms : elapsed + 1 ≤ (elapsed + 1) * interval := Nat.le_mul_of_pos_right _ hpos
  by_cases hfits : deadline + (elapsed + 1) * interval ≤ U64_MAX
  · have hmul : checked_mul (elapsed + 1) interval = some ((elapsed + 1) * interval) :=
      if_pos (by omega)
    have hmissed : (if elapsed + 1 > 0xffffffff then 0xffffffff else elapsed + 1) =
        min (elapsed + 1) 0xffffffff := by
      split <;> omega
    rw [if_pos ⟨hzero, hfits⟩, checked_add_fits (by omega), Option.bind_some, hmul, Option.bind_some,
      checked_add_fits hfits, Option.bind_some, if_neg (Nat.not_le.mpr hafter), hmissed]
  · rw [if_neg fun hboth => hfits hboth.2]
    -- One of the three checks finds that the deadline does not fit.
    by_cases hskipped : elapsed + 1 ≤ U64_MAX
    · by_cases hadvance : (elapsed + 1) * interval ≤ U64_MAX
      · have hmul : checked_mul (elapsed + 1) interval = some ((elapsed + 1) * interval) := if_pos hadvance
        rw [checked_add_fits hskipped, Option.bind_some, hmul, Option.bind_some,
          checked_add_over (Nat.not_le.mp hfits), Option.bind_none]
      · have hmul : checked_mul (elapsed + 1) interval = none := if_neg hadvance
        rw [checked_add_fits hskipped, Option.bind_some, hmul, Option.bind_none]
    · rw [checked_add_over (Nat.not_le.mp hskipped), Option.bind_none]

/-! ## Word by word -/

def toNat (advance : Words.DeadlineAdvance) : DeadlineAdvance where
  next_deadline_us := advance.next_deadline_us.toNat
  missed_slots := advance.missed_slots.toNat

theorem toNat_inj {a b : Words.DeadlineAdvance} (h : toNat a = toNat b) : a = b := by
  cases a
  cases b
  simp only [toNat, DeadlineAdvance.mk.injEq, UInt64.toNat_inj, UInt32.toNat_inj] at h
  rw [h.1, h.2]

/-- No panic, and what the natural numbers give. -/
def Agrees (words : OptionT Option Words.DeadlineAdvance) (nat : Option DeadlineAdvance) : Prop :=
  ∃ result, words.run = some result ∧ result.map toNat = nat

theorem agrees_question {f : UInt64 → OptionT Option Words.DeadlineAdvance}
    {g : Nat → Option DeadlineAdvance} {x : Option UInt64} {y : Option Nat}
    (hxy : x.map UInt64.toNat = y)
    (h : ∀ word, x = some word → Agrees (f word) (g word.toNat)) :
    Agrees (Words.question x >>= f) (y.bind g) := by
  subst hxy
  cases x with
  | none => exact ⟨none, rfl, rfl⟩
  | some word => exact h word rfl

theorem agrees_div {f : UInt64 → OptionT Option Words.DeadlineAdvance}
    {nat : Option DeadlineAdvance} {a b : UInt64} (hb : b ≠ 0) (h : Agrees (f (a / b)) nat) :
    Agrees (Words.div a b >>= f) nat := by
  rw [Words.div, if_neg hb]
  exact h

theorem missed_toNat (skipped : UInt64) :
    (if skipped > 0xffffffff then (0xffffffff : UInt32) else skipped.toUInt32).toNat =
      if skipped.toNat > 0xffffffff then 0xffffffff else skipped.toNat := by
  have hlimit : skipped > 0xffffffff ↔ skipped.toNat > 0xffffffff := UInt64.lt_iff_toNat_lt
  by_cases h : skipped > 0xffffffff
  · rw [if_pos h, if_pos (hlimit.mp h)]
    rfl
  · have hfits : ¬ skipped.toNat > 0xffffffff := fun hover => h (hlimit.mpr hover)
    rw [if_neg h, if_neg hfits, UInt64.toNat_toUInt32, Nat.mod_eq_of_lt (by omega)]

/-- Nothing overflows and nothing is divided by zero. -/
theorem words_agree (deadline now interval : UInt64) :
    Agrees (Words.advance_deadline deadline now interval)
      (advance_deadline deadline.toNat now.toNat interval.toNat) := by
  unfold Words.advance_deadline advance_deadline
  by_cases hzero : interval = 0
  · subst hzero
    exact ⟨none, rfl, rfl⟩
  have hnonzero : interval.toNat ≠ 0 := fun h => hzero (UInt64.toNat_inj.mp h)
  rw [if_neg hzero, if_neg hnonzero]
  by_cases hfuture : deadline > now
  · rw [if_pos hfuture, if_pos (UInt64.lt_iff_toNat_lt.mp hfuture)]
    exact ⟨some _, rfl, rfl⟩
  have hbehind : now.toNat ≥ deadline.toNat := UInt64.le_iff_toNat_le.mp (UInt64.not_lt.mp hfuture)
  rw [if_neg hfuture, if_neg (Nat.not_lt.mpr hbehind)]
  have hsub : u64_checked_sub now deadline = some (now - deadline) :=
    if_pos (UInt64.le_iff_toNat_le.mpr hbehind)
  rw [hsub]
  refine agrees_div hzero ?_
  refine agrees_question ?_ fun skipped _ => ?_
  · rw [u64_checked_add_toNat, UInt64.toNat_div,
      UInt64.toNat_sub_of_le _ _ (UInt64.le_iff_toNat_le.mpr hbehind)]
    rfl
  refine agrees_question (u64_checked_mul_toNat _ _) fun advance_us _ => ?_
  refine agrees_question (u64_checked_add_toNat _ _) fun next _ => ?_
  by_cases hpast : next ≤ now
  · rw [if_pos hpast, if_pos (UInt64.le_iff_toNat_le.mp hpast)]
    exact ⟨none, rfl, rfl⟩
  · rw [if_neg hpast, if_neg fun h => hpast (UInt64.le_iff_toNat_le.mpr h)]
    exact ⟨some _, rfl, by simp only [Option.map_some, toNat, missed_toNat]⟩

theorem exists_first_after {interval : Nat} (start bound : Nat) :
    ∃ terms, interval ≠ 0 → FirstAfter start interval bound terms := by
  by_cases hzero : interval = 0
  · exact ⟨0, fun h => absurd hzero h⟩
  by_cases hfuture : bound < start
  · exact ⟨0, fun _ => first_after_start interval hfuture⟩
  · exact ⟨_, fun _ => first_after_div (Nat.pos_of_ne_zero hzero) (Nat.not_lt.mp hfuture)⟩

theorem le_U64_MAX (word : UInt64) : word.toNat ≤ U64_MAX := Nat.le_pred_of_lt word.toNat_lt

/-- What the words return: the first deadline after now, if it fits. -/
theorem words_return_first {deadline now interval : UInt64} {terms : Nat}
    (h : interval.toNat ≠ 0 → FirstAfter deadline.toNat interval.toNat now.toNat terms) :
    ∃ returned, (Words.advance_deadline deadline now interval).run = some returned ∧
      returned.map toNat = result deadline.toNat interval.toNat terms := by
  obtain ⟨returned, hrun, hreturned⟩ := words_agree deadline now interval
  exact ⟨returned, hrun, by rw [hreturned, advance_deadline_first (le_U64_MAX deadline) h]⟩

/-- A deadline that is still ahead stays, and no slot was missed. -/
theorem advance_deadline_ahead {deadline now interval : UInt64} (hzero : interval ≠ 0)
    (h : now < deadline) :
    (Words.advance_deadline deadline now interval).run =
      some (some { next_deadline_us := deadline, missed_slots := 0 }) := by
  rw [Words.advance_deadline, if_neg hzero, if_pos h]
  rfl

/-! ## What it returns -/

theorem advance_deadline_returns_first_after (deadline now interval : UInt64) :
    -- It does not panic.
    ∃ returned, (Words.advance_deadline deadline now interval).run = some returned ∧
      (returned.isSome ↔ interval ≠ 0 ∧ ∃ terms,
        FirstAfter deadline.toNat interval.toNat now.toNat terms ∧
          deadline.toNat + terms * interval.toNat < 2 ^ 64) ∧
      ∀ advance, returned = some advance →
        (∃ terms, FirstAfter deadline.toNat interval.toNat now.toNat terms ∧
          advance.next_deadline_us.toNat = deadline.toNat + terms * interval.toNat ∧
          advance.missed_slots.toNat = min terms (2 ^ 32 - 1)) ∧
        advance.next_deadline_us.toNat ≡ deadline.toNat [MOD interval.toNat] ∧
        now < advance.next_deadline_us ∧
        (Words.advance_deadline advance.next_deadline_us now interval).run =
          some (some { next_deadline_us := advance.next_deadline_us, missed_slots := 0 }) := by
  have hnonzero : interval ≠ 0 ↔ interval.toNat ≠ 0 := UInt64.toNat_inj.not.symm
  obtain ⟨terms, hfirst⟩ := @exists_first_after interval.toNat deadline.toNat now.toNat
  obtain ⟨returned, hrun, hreturned⟩ := words_return_first hfirst
  refine ⟨returned, hrun, ?_, ?_⟩
  · rw [← Option.isSome_map (f := toNat), hreturned, result]
    constructor
    · intro h
      split at h <;> rename_i hboth
      · exact ⟨hnonzero.mpr hboth.1, terms, hfirst hboth.1, Nat.lt_of_le_pred (by decide) hboth.2⟩
      · simp at h
    · rintro ⟨hzero, terms', hfirst', hfits⟩
      obtain rfl := hfirst'.unique (Nat.pos_of_ne_zero (hnonzero.mp hzero)) (hfirst (hnonzero.mp hzero))
      rw [if_pos ⟨hnonzero.mp hzero, Nat.le_pred_of_lt hfits⟩]
      rfl
  · rintro advance rfl
    rw [Option.map_some, result] at hreturned
    split at hreturned <;> rename_i hboth
    · obtain ⟨hnext, hmissed⟩ := DeadlineAdvance.mk.inj (Option.some.inj hreturned)
      have hafter : now < advance.next_deadline_us := by
        rw [UInt64.lt_iff_toNat_lt, hnext]
        exact (hfirst hboth.1).1.1
      refine ⟨⟨terms, hfirst hboth.1, hnext, hmissed⟩, ?_, hafter, ?_⟩
      · rw [hnext]
        exact Nat.ModEq.symm ((Nat.modEq_iff_dvd' (Nat.le_add_right _ _)).mpr (by simp))
      · exact advance_deadline_ahead (hnonzero.mpr hboth.1) hafter
    · simp at hreturned

/-- The last deadline that a `u64` can hold. -/
example : (Words.advance_deadline 18446744073709551605 18446744073709551610 10).run =
    some (some { next_deadline_us := 18446744073709551615, missed_slots := 1 }) := by
  decide +kernel

end Comboard.Advance
