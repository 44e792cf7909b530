import Comboard.Code.GnssTime
import Comboard.Lib.Calendar

/-!
# Seconds since 1970

The closed formula for the years and the loop over the months count days as the calendar does.
-/

namespace Comboard.UnixTime

open Lib Calendar GnssTime

def epoch : Date := .newYear 1970

/-! ## The functions of the source -/

theorem leap_year_eq (year : ℕ) : leap_year year = decide (Leap year) := by
  unfold leap_year Leap
  apply decide_eq_decide.mpr
  omega

theorem days_in_month_eq (year month : ℕ) :
    days_in_month year month =
      if 1 ≤ month ∧ month ≤ 12 then some (monthLength year month) else none := by
  unfold days_in_month monthLength
  rw [leap_year_eq]
  split
  case h_13 => grind
  all_goals simp

/-- 1970 cancels the days of the year 0, which the formula leaves out. -/
theorem days_before_year_eq {year : ℕ} (h : 1 ≤ year) :
    yearStart year = 366 + days_before_year year := by
  induction year, h using Nat.le_induction with
  | base => rfl
  | succ year hle ih =>
    obtain ⟨before, rfl⟩ : ∃ before, year = before + 1 := ⟨year - 1, by omega⟩
    have hfour := @Nat.succ_div before 4
    have hcentury := @Nat.succ_div before 100
    have hfourth := @Nat.succ_div before 400
    have hlength := yearLength_add (before + 1)
    have hmany : before / 100 ≤ before / 4 := Nat.div_le_div_left (by decide) (by decide)
    rw [yearStart_succ, ih]
    unfold days_before_year
    simp only [Nat.add_sub_cancel, hfour, hcentury, hfourth]
    generalize (if 4 ∣ before + 1 then 1 else 0) = four at *
    generalize (if 100 ∣ before + 1 then 1 else 0) = century at *
    generalize (if 400 ∣ before + 1 then 1 else 0) = fourth at *
    omega

theorem days_before_month_eq {year month : ℕ} (h : month ≤ 12) :
    days_before_month year month = monthStart year month := by
  unfold days_before_month monthStart
  congr 1
  apply List.map_congr_left
  intro current hcurrent
  have hlt := List.mem_range.mp hcurrent
  rw [days_in_month_eq, if_pos (by omega), Option.getD_some]

/-! ## No wrap -/

/-- The values of `to_unix_seconds` stay in `u64`: what is subtracted is there, and the sums are
small. -/
structure NoWrap (year month day hour minute second : ℕ) : Prop where
  before_year : 1 ≤ year
  before_day : 1 ≤ day
  centuries : (year - 1) / 100 ≤ 365 * (year - 1) + (year - 1) / 4
  epoch : days_before_year 1970 ≤ days_before_year year
  year_days : 365 * (year - 1) + (year - 1) / 4 + (year - 1) / 400 ≤ U64_MAX
  seconds : 86400 * (days_before_year year + days_before_month year month + (day - 1)) +
    3600 * hour + 60 * minute + second ≤ U64_MAX

variable {d : Date} {hour minute second : ℕ}

theorem epoch_number : epoch.number = yearStart 1970 := by
  simp [Date.number, epoch, Date.newYear, monthStart]

theorem epoch_year (h : 1970 ≤ d.year) : days_before_year 1970 ≤ days_before_year d.year := by
  have hle := yearStart_le h
  have hepoch := days_before_year_eq (show 1 ≤ 1970 by decide)
  have hyear := days_before_year_eq (show 1 ≤ d.year by omega)
  omega

/-- The days since 1970. -/
theorem days_eq (h : 1970 ≤ d.year) :
    days_before_year d.year - days_before_year 1970 + days_before_month d.year d.month +
      (d.day - 1) = d.number - epoch.number := by
  have hepoch := days_before_year_eq (show 1 ≤ 1970 by decide)
  have hyear := days_before_year_eq (show 1 ≤ d.year by omega)
  have hle := epoch_year h
  rw [days_before_month_eq d.month_le, epoch_number]
  unfold Date.number
  omega

/-- A bound on the days that is far from the limits. -/
theorem days_lt (h : d.year ≤ 65536) :
    days_before_year d.year + days_before_month d.year d.month + (d.day - 1) < 2 ^ 25 := by
  have hmonths := Date.number_lt_month (Nat.lt_succ_of_le d.month_le)
  have hlength : yearLength d.year ≤ 366 := by
    unfold yearLength
    split_ifs <;> decide
  rw [monthStart_thirteen] at hmonths
  rw [days_before_month_eq d.month_le]
  unfold Date.number at hmonths
  unfold days_before_year
  dsimp only
  omega

/-- The time of a date and a time of day. -/
def seconds (days hour minute second : ℕ) : ℕ := 86400 * days + 3600 * hour + 60 * minute + second

/-- A count as `u32`. -/
def fitted (count : ℕ) : Except GnssTimeParseError UInt32 :=
  if count < 2 ^ 32 then .ok (.ofNat count) else .error .OutOfRange

theorem to_unix_seconds_eq (hyear : 1970 ≤ d.year) (hmax : d.year ≤ 65536) (hhour : hour < 24)
    (hminute : minute < 60) (hsecond : second ≤ 60) :
    to_unix_seconds d.year d.month d.day hour minute second =
      fitted (seconds (d.number - epoch.number) hour minute second) := by
  have hdays := days_eq hyear
  have hlt := days_lt hmax
  have hU64_MAX : U64_MAX = 2 ^ 64 - 1 := rfl
  unfold to_unix_seconds
  dsimp only
  rw [if_neg (by omega), hdays]
  generalize d.number - epoch.number = days at hdays ⊢
  have hnormal : min second 59 + (if second = 60 then 1 else 0) = second := by
    split_ifs <;> omega
  have hmul : checked_mul days 86400 = some (days * 86400) := if_pos (by omega)
  have hhours : checked_add (days * 86400) (hour * 3600) = some (days * 86400 + hour * 3600) :=
    if_pos (by omega)
  have hminutes : checked_add (days * 86400 + hour * 3600) (minute * 60) =
      some (days * 86400 + hour * 3600 + minute * 60) := if_pos (by omega)
  have hseconds : checked_add (days * 86400 + hour * 3600 + minute * 60) second =
      some (days * 86400 + hour * 3600 + minute * 60 + second) := if_pos (by omega)
  have hsum : days * 86400 + hour * 3600 + minute * 60 + second =
      seconds days hour minute second := by
    unfold seconds
    omega
  rw [hnormal, hmul, Option.bind_some, hhours, Option.bind_some, hminutes, Option.bind_some,
    hseconds, hsum]
  rfl

theorem noWrap (hyear : 1970 ≤ d.year) (hmax : d.year ≤ 65536) (hhour : hour < 24)
    (hminute : minute < 60) (hsecond : second ≤ 60) :
    NoWrap d.year d.month d.day hour minute second := by
  have hlt := days_lt hmax
  have hU64_MAX : U64_MAX = 2 ^ 64 - 1 := rfl
  exact {
    before_year := by omega
    before_day := d.day_pos
    centuries := by omega
    epoch := epoch_year hyear
    year_days := by omega
    seconds := by omega }

theorem epoch_number_le (h : 1970 ≤ d.year) : epoch.number ≤ d.number := by
  have hle := yearStart_le h
  rw [epoch_number]
  unfold Date.number
  omega

/-- The count is the one of the calendar. -/
theorem iterate_epoch_iff (hyear : 1970 ≤ d.year) {n : ℕ} :
    Date.next^[n] epoch = d ↔ n = d.number - epoch.number := by
  have hle := epoch_number_le hyear
  rw [Date.iterate_next_eq_iff]
  omega

theorem next_year (d : Date) : d.year ≤ d.next.year ∧ d.next.year ≤ d.year + 1 := by
  unfold Date.next
  split_ifs <;> simp [Date.newYear]

/-- Second 60 and the next minute are the same count. -/
theorem leap_second_eq (hyear : 1970 ≤ d.year) (hmax : d.year ≤ 65535) (hhour : hour < 24)
    (hminute : minute < 60) :
    to_unix_seconds d.year d.month d.day hour minute 60 =
      let (next, nextHour, nextMinute) := nextMinute d hour minute
      to_unix_seconds next.year next.month next.day nextHour nextMinute 0 := by
  have hnumber := epoch_number_le hyear
  have hnext := next_year d
  rw [to_unix_seconds_eq hyear (by omega) hhour hminute (by decide)]
  unfold nextMinute
  by_cases hlast : minute < 59
  · rw [if_pos hlast]
    dsimp only
    rw [to_unix_seconds_eq hyear (by omega) hhour (by omega) (by decide)]
    exact congrArg fitted (by unfold seconds; omega)
  · rw [if_neg hlast]
    by_cases hmidnight : hour < 23
    · rw [if_pos hmidnight]
      dsimp only
      rw [to_unix_seconds_eq hyear (by omega) (by omega) (by decide) (by decide)]
      exact congrArg fitted (by unfold seconds; omega)
    · rw [if_neg hmidnight]
      dsimp only
      rw [to_unix_seconds_eq (by omega) (by omega) (by decide) (by decide) (by decide),
        Date.number_next]
      exact congrArg fitted (by unfold seconds; omega)

/-- `to_unix_seconds` counts the days of the calendar from 1970 on. -/
theorem to_unix_seconds_counts (d : Date) (hyear : 1970 ≤ d.year) (hmax : d.year ≤ 65535)
    {hour minute second : ℕ} (hhour : hour < 24) (hminute : minute < 60) (hsecond : second ≤ 60) :
    ∃ n, (∀ m, Date.next^[m] epoch = d ↔ m = n) ∧
      to_unix_seconds d.year d.month d.day hour minute second =
        (if 86400 * n + 3600 * hour + 60 * minute + second < 2 ^ 32 then
          .ok (.ofNat (86400 * n + 3600 * hour + 60 * minute + second))
        else .error .OutOfRange) ∧
      NoWrap d.year d.month d.day hour minute second ∧
      (∀ later m, d.Before later → Date.next^[m] epoch = later → n < m) ∧
      to_unix_seconds d.year d.month d.day hour minute 60 =
        let (next, nextHour, nextMinute) := nextMinute d hour minute
        to_unix_seconds next.year next.month next.day nextHour nextMinute 0 := by
  refine ⟨d.number - epoch.number, fun m => iterate_epoch_iff hyear,
    to_unix_seconds_eq hyear (by omega) hhour hminute hsecond,
    noWrap hyear (by omega) hhour hminute hsecond, ?_, leap_second_eq hyear hmax hhour hminute⟩
  intro later m hbefore hlater
  have hlt := Date.number_lt hbefore
  have hle := epoch_number_le hyear
  rw [Date.iterate_next_eq_iff] at hlater
  omega

/-- The first of March 1970. -/
theorem to_unix_seconds_counts_march :
    ∃ d : Date, (d.year, d.month, d.day) = (1970, 3, 1) ∧ Date.next^[59] epoch = d ∧
      to_unix_seconds 1970 3 1 23 59 60 = .ok (.ofNat (86400 * 59 + 3600 * 23 + 60 * 59 + 60)) := by
  let d : Date := ⟨1970, 3, 1, by decide, by decide, by decide, by decide⟩
  obtain ⟨n, hn, hseconds, _⟩ := to_unix_seconds_counts d (by decide) (by decide)
    (show 23 < 24 by decide) (show 59 < 60 by decide) (show 60 ≤ 60 by decide)
  have hsteps : Date.next^[59] epoch = d := by decide +kernel
  have hfiftynine : 59 = n := (hn 59).mp hsteps
  rw [← hfiftynine, if_pos (by omega)] at hseconds
  exact ⟨d, rfl, hsteps, hseconds⟩

end Comboard.UnixTime
