import Mathlib.Algebra.BigOperators.Group.List.Basic
import Mathlib.Algebra.GroupWithZero.Nat
import Mathlib.Algebra.Order.Group.Nat
import Mathlib.Logic.Function.Iterate

/-!
# The Gregorian calendar

Dates follow each other day by day. The number of a date counts the days in front of it, from the
first day of the year 0 on.
-/

namespace Comboard.Lib.Calendar

/-- Every fourth year, but of the centuries only every fourth. -/
def Leap (year : ℕ) : Prop := 4 ∣ year ∧ (100 ∣ year → 400 ∣ year)

instance (year : ℕ) : Decidable (Leap year) := inferInstanceAs (Decidable (_ ∧ (_ → _)))

def monthLength (year month : ℕ) : ℕ :=
  if month = 2 then if Leap year then 29 else 28
  else if month = 4 ∨ month = 6 ∨ month = 9 ∨ month = 11 then 30
  else 31

def yearLength (year : ℕ) : ℕ := if Leap year then 366 else 365

/-- The leap rule as a sum. -/
theorem yearLength_add (year : ℕ) :
    yearLength year + (if 100 ∣ year then 1 else 0) =
      365 + (if 4 ∣ year then 1 else 0) + if 400 ∣ year then 1 else 0 := by
  have hcentury : 100 ∣ year → 4 ∣ year := (by decide : 4 ∣ 100).trans
  have hfourth : 400 ∣ year → 100 ∣ year := (by decide : 100 ∣ 400).trans
  unfold yearLength Leap
  by_cases h4 : 4 ∣ year <;> by_cases h100 : 100 ∣ year <;> by_cases h400 : 400 ∣ year <;>
    simp_all

theorem monthLength_pos (year month : ℕ) : 1 ≤ monthLength year month := by
  unfold monthLength
  split_ifs <;> decide

structure Date where
  year : ℕ
  month : ℕ
  day : ℕ
  month_pos : 1 ≤ month
  month_le : month ≤ 12
  day_pos : 1 ≤ day
  day_le : day ≤ monthLength year month
  deriving DecidableEq

namespace Date

/-- The first of January. -/
def newYear (year : ℕ) : Date :=
  { year, month := 1, day := 1, month_pos := Nat.le_refl 1, month_le := Nat.le_add_left 1 11
    day_pos := Nat.le_refl 1, day_le := monthLength_pos _ _ }

/-- The day after. -/
def next (d : Date) : Date :=
  if hday : d.day < monthLength d.year d.month then
    { d with day := d.day + 1, day_pos := Nat.le_add_left 1 _, day_le := hday }
  else if hmonth : d.month < 12 then
    { year := d.year, month := d.month + 1, day := 1, month_pos := Nat.le_add_left 1 _
      month_le := hmonth, day_pos := Nat.le_refl 1, day_le := monthLength_pos _ _ }
  else newYear (d.year + 1)

def Before (d e : Date) : Prop :=
  d.year < e.year ∨ d.year = e.year ∧ (d.month < e.month ∨ d.month = e.month ∧ d.day < e.day)

theorem before_or_eq_or_before (d e : Date) : d.Before e ∨ d = e ∨ e.Before d := by
  obtain ⟨year, month, day, _⟩ := d
  obtain ⟨year', month', day', _⟩ := e
  unfold Before
  simp only [mk.injEq]
  omega

end Date

/-! ## The number of a date -/

def yearStart (year : ℕ) : ℕ := ((List.range year).map yearLength).sum

/-- The days of the year in front of the month. -/
def monthStart (year month : ℕ) : ℕ :=
  ((List.range (month - 1)).map fun m => monthLength year (m + 1)).sum

theorem yearStart_succ (year : ℕ) : yearStart (year + 1) = yearStart year + yearLength year := by
  simp [yearStart, List.range_succ]

theorem yearStart_le {year year' : ℕ} (h : year ≤ year') : yearStart year ≤ yearStart year' := by
  induction year', h using Nat.le_induction with
  | base => exact le_rfl
  | succ year' _ ih =>
    rw [yearStart_succ]
    omega

theorem monthStart_succ {year month : ℕ} (h : 1 ≤ month) :
    monthStart year (month + 1) = monthStart year month + monthLength year month := by
  obtain ⟨m, rfl⟩ : ∃ m, month = m + 1 := ⟨month - 1, by omega⟩
  simp [monthStart, List.range_succ]

theorem monthStart_le {year month month' : ℕ} (hpos : 1 ≤ month) (h : month ≤ month') :
    monthStart year month ≤ monthStart year month' := by
  induction month', h using Nat.le_induction with
  | base => exact le_rfl
  | succ month' hle ih =>
    rw [monthStart_succ (hpos.trans hle)]
    omega

/-- Twelve months make a year. -/
theorem monthStart_thirteen (year : ℕ) : monthStart year 13 = yearLength year := by
  unfold yearLength
  by_cases h : Leap year <;> simp [monthStart, List.range_succ, monthLength, h]

namespace Date

def number (d : Date) : ℕ := yearStart d.year + monthStart d.year d.month + (d.day - 1)

/-- One day is one more. -/
theorem number_next (d : Date) : d.next.number = d.number + 1 := by
  have hday := d.day_pos
  have hle := d.day_le
  have hmonth := @monthStart_succ d.year _ d.month_pos
  unfold next
  split_ifs with hmore hmonths
  · simp only [number]
    omega
  · simp only [number]
    omega
  · have hlast : d.month = 12 := by
      have := d.month_le
      omega
    have hfirst : monthStart (d.year + 1) 1 = 0 := rfl
    rw [hlast] at hmonth hmore hle
    rw [monthStart_thirteen] at hmonth
    simp only [number, newYear, yearStart_succ, hlast, hfirst]
    omega

theorem number_lt_month {d : Date} {month : ℕ} (h : d.month < month) :
    d.number < yearStart d.year + monthStart d.year month := by
  have hmonth := @monthStart_succ d.year _ d.month_pos
  have hle := @monthStart_le d.year _ _ (Nat.le_add_left 1 d.month) (Nat.succ_le_of_lt h)
  have hday := d.day_pos
  have hday_le := d.day_le
  unfold number
  omega

/-- Later dates have larger numbers. -/
theorem number_lt {d e : Date} (h : d.Before e) : d.number < e.number := by
  rcases h with hyear | ⟨hyear, hmonth | ⟨hmonth, hday⟩⟩
  · have hend := number_lt_month (Nat.lt_succ_of_le d.month_le)
    have hle : yearStart (d.year + 1) ≤ yearStart e.year := yearStart_le hyear
    rw [monthStart_thirteen, ← yearStart_succ] at hend
    have hnumber : e.number = yearStart e.year + monthStart e.year e.month + (e.day - 1) := rfl
    omega
  · have hend := number_lt_month hmonth
    rw [hyear] at hend
    have hnumber : e.number = yearStart e.year + monthStart e.year e.month + (e.day - 1) := rfl
    omega
  · have hpos := d.day_pos
    unfold number
    rw [hyear, hmonth]
    omega

theorem number_injective : Function.Injective number := by
  intro d e h
  rcases before_or_eq_or_before d e with hlt | heq | hgt
  · exact absurd h (number_lt hlt).ne
  · exact heq
  · exact absurd h (number_lt hgt).ne'

theorem number_iterate (d : Date) (n : ℕ) : (next^[n] d).number = d.number + n := by
  induction n with
  | zero => rfl
  | succ n ih => rw [Function.iterate_succ_apply', number_next, ih, Nat.add_assoc]

/-- Counting day by day gives the difference of the numbers. -/
theorem iterate_next_eq_iff {d e : Date} {n : ℕ} : next^[n] d = e ↔ d.number + n = e.number := by
  rw [← number_iterate]
  exact number_injective.eq_iff.symm

end Date

/-! ## Minutes -/

/-- The minute after. -/
def nextMinute (d : Date) (hour minute : ℕ) : Date × ℕ × ℕ :=
  if minute < 59 then (d, hour, minute + 1)
  else if hour < 23 then (d, hour + 1, 0)
  else (d.next, 0, 0)

end Comboard.Lib.Calendar
