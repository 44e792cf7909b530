import Comboard.Lib.Lines
import Comboard.RmcSlices
import Comboard.UnixTime

/-!
# The RMC sentences

`parse_rmc_datetime` takes the sentences of the format, and those that have a plus sign for the first of two
digits: `u8` is read with one.
-/

namespace Comboard.RmcGrammar

open Lib Calendar GnssTime

/-! ## The format -/

/-- Two digits, or a plus sign and a digit if that is allowed. -/
inductive Number (plus : Bool) (radix : ℕ) : List UInt8 → ℕ → Prop where
  | digits {a b : UInt8} {x y : ℕ} (ha : to_digit radix a = some x) (hb : to_digit radix b = some y) :
      Number plus radix [a, b] (x * radix + y)
  | signed {b : UInt8} {y : ℕ} (hplus : plus = true) (hb : to_digit radix b = some y) :
      Number plus radix [43, b] y

/-- The parts of a sentence: the time field is cut behind each number, the seven fields between the time
and the date are `between`. -/
structure Layout where
  talker : List UInt8
  hour : List UInt8
  minute : List UInt8
  second : List UInt8
  fraction : List UInt8
  between : List (List UInt8)
  day : List UInt8
  month : List UInt8
  year : List UInt8
  others : List (List UInt8)
  checksum : List UInt8
  rest : List UInt8

namespace Layout

def time (l : Layout) : List UInt8 := l.hour ++ l.minute ++ l.second ++ l.fraction

def date (l : Layout) : List UInt8 := l.day ++ l.month ++ l.year

def fields (l : Layout) : List (List UInt8) :=
  l.talker :: l.time :: (l.between ++ l.date :: l.others)

def payload (l : Layout) : List UInt8 := [44].intercalate l.fields

def text (l : Layout) : List UInt8 := 36 :: l.payload ++ 42 :: (l.checksum ++ l.rest)

/-- The parts that are numbers. -/
def numbers (l : Layout) : List (List UInt8) :=
  [l.checksum, l.hour, l.minute, l.second, l.day, l.month, l.year]

/-- The first three digits of the fraction, with zeros for the ones that are missing. -/
def milliseconds (l : Layout) : List UInt8 := (l.fraction.drop 1 ++ [48, 48, 48]).take 3

end Layout

/-- Nothing, or a point and digits. -/
def Fraction (text : List UInt8) : Prop :=
  text = [] ∨ ∃ digits, digits ≠ [] ∧ (∀ digit ∈ digits, is_ascii_digit digit = true) ∧
    text = 46 :: digits

structure Clock (plus : Bool) (l : Layout) (hour minute second : ℕ) : Prop where
  hour_number : Number plus 10 l.hour hour
  minute_number : Number plus 10 l.minute minute
  second_number : Number plus 10 l.second second
  hour_lt : hour < 24
  minute_lt : minute < 60
  second_le : second ≤ 60
  fraction : Fraction l.fraction

/-- Two digits of a year from 1980 to 2079. -/
structure Day (plus : Bool) (l : Layout) (d : Date) : Prop where
  day : Number plus 10 l.day d.day
  month : Number plus 10 l.month d.month
  year : Number plus 10 l.year (d.year % 100)
  year_ge : 1980 ≤ d.year
  year_le : d.year ≤ 2079

structure Reading (plus : Bool) (l : Layout) (d : Date) (hour minute second : ℕ) : Prop where
  separators : ∀ field ∈ l.fields, 44 ∉ field ∧ 42 ∉ field
  between : l.between.length = 7
  talker_length : 5 ≤ l.talker.length
  talker_rmc : [82, 77, 67] <:+ l.talker
  checksum : Number plus 16 l.checksum (xor_checksum l.payload).toNat
  clock : Clock plus l hour minute second
  day : Day plus l d

def Accepted (plus : Bool) (s : List UInt8) : Prop :=
  ∃ l d hour minute second, l.text = s ∧ Reading plus l d hour minute second

/-! ## Numbers -/

theorem Number.length {plus : Bool} {radix value : ℕ} {text : List UInt8}
    (h : Number plus radix text value) : text.length = 2 := by
  cases h <;> rfl

theorem to_digit_lt {radix value : ℕ} {byte : UInt8} (h : to_digit radix byte = some value) :
    value < radix := by
  unfold to_digit at h
  dsimp only at h
  rw [Option.ite_none_right_eq_some] at h
  obtain ⟨hlt, heq⟩ := h
  rw [Option.some.inj heq] at hlt
  exact hlt

/-- A plus sign is no digit. -/
theorem to_digit_plus (radix : ℕ) : to_digit radix 43 = none := by
  simp [to_digit]

theorem number_cons_iff {plus : Bool} {radix value : ℕ} {a b : UInt8} :
    Number plus radix [a, b] value ↔
      (∃ x y, to_digit radix a = some x ∧ to_digit radix b = some y ∧ value = x * radix + y) ∨
        plus = true ∧ a = 43 ∧ to_digit radix b = some value := by
  constructor
  · intro h
    cases h with
    | digits ha hb => exact .inl ⟨_, _, ha, hb, rfl⟩
    | signed hplus hb => exact .inr ⟨hplus, rfl, hb⟩
  · rintro (⟨x, y, ha, hb, rfl⟩ | ⟨hplus, rfl, hb⟩)
    · exact .digits ha hb
    · exact .signed hplus hb

/-- The library reads two bytes as a number of the format, with a plus sign allowed. -/
theorem from_str_radix_iff {radix value : ℕ} (hradix : radix ≤ 16) {text : List UInt8}
    (hlength : text.length = 2) :
    from_str_radix 0xff radix text = some value ↔ Number true radix text value := by
  obtain ⟨a, b, rfl⟩ := List.length_eq_two.mp hlength
  rw [number_cons_iff]
  by_cases hplus : a = 43
  · subst hplus
    cases hb : to_digit radix b with
    | none => simp [from_str_radix, digits_value, to_digit_plus, hb]
    | some y =>
      have hlt := to_digit_lt hb
      simp [from_str_radix, digits_value, to_digit_plus, hb]
      omega
  · cases ha : to_digit radix a with
    | none => simp [from_str_radix, digits_value, ha, hplus]
    | some x =>
      cases hb : to_digit radix b with
      | none => simp [from_str_radix, digits_value, ha, hb, hplus]
      | some y =>
        have hx := to_digit_lt ha
        have hy := to_digit_lt hb
        have hsmall : x * radix + y ≤ 255 := by
          have := Nat.mul_le_mul (show x ≤ 15 by omega) hradix
          omega
        simp [from_str_radix, digits_value, ha, hb, hplus, Option.filter, hsmall, eq_comm]

/-! ## The functions of the source -/

theorem bind_ok_iff {α β : Type} {x : Except GnssTimeParseError α}
    {g : α → Except GnssTimeParseError β} {b : β} :
    (x >>= g) = .ok b ↔ ∃ a, x = .ok a ∧ g a = .ok b := by
  cases x with
  | error e => simp [bind, Except.bind]
  | ok a => simp [bind, Except.bind]

/-- A check that throws, and what comes behind it. -/
theorem check_ok_iff {α : Type} {c : Prop} [Decidable c] {e : GnssTimeParseError}
    {g : α → Except GnssTimeParseError β} {x : Except GnssTimeParseError β} {b : β} :
    (if c then throw e >>= g else x) = .ok b ↔ ¬ c ∧ x = .ok b := by
  by_cases hc : c
  · simp [hc, bind, Except.bind, throw, throwThe, MonadExceptOf.throw]
  · simp [hc]

theorem parse_u8_iff {field : List UInt8} {value : ℕ} (hlength : field.length = 2) :
    parse_u8 field = .ok value ↔ Number true 10 field value := by
  rw [← from_str_radix_iff (by decide) hlength]
  unfold parse_u8
  cases from_str_radix 0xff 10 field with
  | none => simp
  | some v => simp

/-- Where the first `*` is. -/
theorem findIdx_star {s : List UInt8} {star : ℕ} :
    s.findIdx? (· = 42) = some star ↔
      ∃ before after, s = before ++ 42 :: after ∧ 42 ∉ before ∧ star = before.length := by
  constructor
  · intro h
    obtain ⟨hlt, hstar, hbefore⟩ := List.findIdx?_eq_some_iff_getElem.mp h
    have hstar : s[star] = 42 := by simpa using hstar
    refine ⟨s.take star, s.drop (star + 1), ?_, ?_, ?_⟩
    · rw [← hstar, List.getElem_cons_drop, List.take_append_drop]
    · intro hmem
      obtain ⟨i, hi, hget⟩ := List.mem_take_iff_getElem.mp hmem
      exact hbefore i (by omega) (by simpa using hget)
    · rw [List.length_take]
      omega
  · rintro ⟨before, after, rfl, hbefore, rfl⟩
    have hnone : before.findIdx? (· = 42) = none := by
      rw [List.findIdx?_eq_none_iff]
      intro byte hbyte
      exact decide_eq_false fun heq => hbefore (heq ▸ hbyte)
    rw [List.findIdx?_append, hnone, List.findIdx?_cons]
    simp

theorem verify_checksum_eq {payload after : List UInt8} (hpayload : 42 ∉ payload) :
    verify_checksum (36 :: payload ++ 42 :: after) =
      if after.length < 2 then .error .ParseError
      else
        match from_str_radix 0xff 16 (after.take 2) with
        | none => .error .ParseError
        | some expected =>
          if (xor_checksum payload).toNat ≠ expected then .error .InvalidChecksum
          else .ok (payload.length + 1) := by
  have hstar : (36 :: payload ++ 42 :: after).findIdx? (· = 42) = some (payload.length + 1) :=
    findIdx_star.mpr ⟨36 :: payload, after, rfl, by simpa using hpayload, rfl⟩
  have hlength : payload.length + 1 + 3 > (36 :: payload ++ 42 :: after).length ↔
      after.length < 2 := by
    simp
    omega
  have hdigits : ((36 :: payload ++ 42 :: after).drop (payload.length + 1 + 1)).take 2 =
      after.take 2 := by simp
  have hpiece : ((36 :: payload ++ 42 :: after).take (payload.length + 1)).drop 1 = payload := by
    simp
  unfold verify_checksum
  rw [if_neg (by simp), hstar]
  cases hexpected : from_str_radix 0xff 16 (after.take 2) with
  | none => simp only [hlength, hdigits, hexpected]
  | some expected => simp only [hlength, hdigits, hpiece, hexpected]

theorem verify_checksum_frame {s : List UInt8} {star : ℕ} (h : verify_checksum s = .ok star) :
    ∃ payload after, s = 36 :: payload ++ 42 :: after ∧ 42 ∉ payload := by
  unfold verify_checksum at h
  split at h
  · cases h
  rename_i hhead
  rw [not_not] at hhead
  split at h
  · cases h
  rename_i star' hstar
  obtain ⟨before, after, rfl, hbefore, -⟩ := findIdx_star.mp hstar
  cases before with
  | nil => cases hhead
  | cons first payload =>
    obtain rfl : first = 36 := Option.some.inj hhead
    exact ⟨payload, after, rfl, fun hmem => hbefore (List.mem_cons_of_mem 36 hmem)⟩

theorem verify_checksum_iff {s : List UInt8} {star : ℕ} :
    verify_checksum s = .ok star ↔ ∃ payload checksum rest,
      s = 36 :: payload ++ 42 :: (checksum ++ rest) ∧ 42 ∉ payload ∧ star = payload.length + 1 ∧
        Number true 16 checksum (xor_checksum payload).toNat := by
  constructor
  · intro h
    obtain ⟨payload, after, rfl, hpayload⟩ := verify_checksum_frame h
    rw [verify_checksum_eq hpayload] at h
    split at h
    · cases h
    rename_i hlength
    split at h
    · cases h
    rename_i expected hexpected
    split at h
    · cases h
    rename_i hchecksum
    rw [not_not] at hchecksum
    refine ⟨payload, after.take 2, after.drop 2, ?_, hpayload, (Except.ok.inj h).symm, ?_⟩
    · rw [List.take_append_drop]
    · rw [hchecksum]
      exact (from_str_radix_iff (by decide) (by rw [List.length_take]; omega)).mp hexpected
  · rintro ⟨payload, checksum, rest, rfl, hpayload, rfl, hchecksum⟩
    have hlength := hchecksum.length
    rw [verify_checksum_eq hpayload, if_neg (by rw [List.length_append]; omega),
      List.take_left' hlength, (from_str_radix_iff (by decide) hlength).mpr hchecksum]
    simp

theorem fraction_cons_iff {first : UInt8} {digits : List UInt8} :
    Fraction (first :: digits) ↔
      first = 46 ∧ ¬ (digits.isEmpty || digits.any (!is_ascii_digit ·)) = true := by
  unfold Fraction
  constructor
  · rintro (h | ⟨digits', hne, hdigits, h⟩)
    · cases h
    · obtain ⟨rfl, rfl⟩ := List.cons.inj h
      simpa [hne] using hdigits
  · rintro ⟨rfl, hdigits⟩
    simp only [Bool.or_eq_true, List.isEmpty_iff, List.any_eq_true, Bool.not_eq_true', not_or,
      not_exists, not_and, Bool.not_eq_false] at hdigits
    exact .inr ⟨digits, hdigits.1, hdigits.2, rfl⟩

theorem parse_time_ok_iff {field : List UInt8} {hour minute second milliseconds : ℕ} :
    parse_time field = .ok (hour, minute, second, milliseconds) ↔
      ¬ field.length < 6 ∧ parse_u8 (field.take 2) = .ok hour ∧
        parse_u8 ((field.drop 2).take 2) = .ok minute ∧
          parse_u8 ((field.drop 4).take 2) = .ok second ∧
            ¬ (hour ≥ 24 ∨ minute ≥ 60 ∨ second > 60) ∧ Fraction (field.drop 6) ∧
              milliseconds = GnssTime.milliseconds (field.drop 7) := by
  unfold parse_time
  dsimp only
  simp only [check_ok_iff, bind_ok_iff]
  refine and_congr_right fun hlength => ?_
  by_cases hsix : field.length = 6
  · have hsixth : field.drop 6 = [] := List.drop_eq_nil_of_le (by omega)
    have hseventh : field.drop 7 = [] := List.drop_eq_nil_of_le (by omega)
    simp only [if_pos hsix, hsixth, hseventh, pure, Except.pure, Except.ok.injEq, Prod.mk.injEq]
    constructor
    · rintro ⟨_, hhour, _, hminute, _, hsecond, hrange, rfl, rfl, rfl, rfl⟩
      exact ⟨hhour, hminute, hsecond, hrange, .inl rfl, rfl⟩
    · rintro ⟨hhour, hminute, hsecond, hrange, -, rfl⟩
      exact ⟨_, hhour, _, hminute, _, hsecond, hrange, rfl, rfl, rfl, rfl⟩
  · have hlt : 6 < field.length := by omega
    have hsixth : field.drop 6 = field.getD 6 0 :: field.drop 7 := by
      rw [List.drop_eq_getElem_cons hlt, List.getD_eq_getElem?_getD, List.getElem?_eq_getElem hlt,
        Option.getD_some]
    simp only [if_neg hsix, check_ok_iff, hsixth, fraction_cons_iff, pure, Except.pure,
      Except.ok.injEq, Prod.mk.injEq, ne_eq, not_not]
    constructor
    · rintro ⟨_, hhour, _, hminute, _, hsecond, hrange, hpoint, hdigits, rfl, rfl, rfl, rfl⟩
      exact ⟨hhour, hminute, hsecond, hrange, ⟨hpoint, hdigits⟩, rfl⟩
    · rintro ⟨hhour, hminute, hsecond, hrange, ⟨hpoint, hdigits⟩, rfl⟩
      exact ⟨_, hhour, _, hminute, _, hsecond, hrange, hpoint, hdigits, rfl, rfl, rfl, rfl⟩

/-- Two bytes after two bytes. -/
theorem cut_pairs {field hh mm ss fraction : List UInt8} (hhh : hh.length = 2) (hmm : mm.length = 2)
    (hss : ss.length = 2) (hfield : field = hh ++ mm ++ ss ++ fraction) :
    field.take 2 = hh ∧ (field.drop 2).take 2 = mm ∧ (field.drop 4).take 2 = ss ∧
      field.drop 6 = fraction := by
  obtain ⟨h₁, h₂, rfl⟩ := List.length_eq_two.mp hhh
  obtain ⟨m₁, m₂, rfl⟩ := List.length_eq_two.mp hmm
  obtain ⟨s₁, s₂, rfl⟩ := List.length_eq_two.mp hss
  subst hfield
  exact ⟨rfl, rfl, rfl, rfl⟩

theorem glue_pairs (field : List UInt8) :
    field = field.take 2 ++ (field.drop 2).take 2 ++ (field.drop 4).take 2 ++ field.drop 6 := by
  have htwo : (field.drop 2).drop 2 = field.drop 4 := List.drop_drop ..
  have hfour : (field.drop 4).drop 2 = field.drop 6 := List.drop_drop ..
  rw [List.append_assoc, List.append_assoc, ← hfour, List.take_append_drop, ← htwo,
    List.take_append_drop, List.take_append_drop]

theorem parse_time_iff {field : List UInt8} {hour minute second milliseconds : ℕ} :
    parse_time field = .ok (hour, minute, second, milliseconds) ↔ ∃ hh mm ss fraction,
      field = hh ++ mm ++ ss ++ fraction ∧ Number true 10 hh hour ∧ Number true 10 mm minute ∧
        Number true 10 ss second ∧ hour < 24 ∧ minute < 60 ∧ second ≤ 60 ∧ Fraction fraction ∧
          milliseconds = GnssTime.milliseconds (fraction.drop 1) := by
  rw [parse_time_ok_iff]
  have hseventh : (field.drop 6).drop 1 = field.drop 7 := List.drop_drop ..
  constructor
  · rintro ⟨hlength, hhour, hminute, hsecond, hrange, hfraction, hmilliseconds⟩
    refine ⟨_, _, _, _, glue_pairs field, ?_, ?_, ?_, by omega, by omega, by omega, hfraction, ?_⟩
    · exact (parse_u8_iff (by rw [List.length_take]; omega)).mp hhour
    · exact (parse_u8_iff (by rw [List.length_take, List.length_drop]; omega)).mp hminute
    · exact (parse_u8_iff (by rw [List.length_take, List.length_drop]; omega)).mp hsecond
    · rw [hseventh]
      exact hmilliseconds
  · rintro ⟨hh, mm, ss, fraction, hfield, hhour, hminute, hsecond, hh24, hm60, hs60, hfraction, hms⟩
    obtain ⟨hfirst, hnext, hlast, hbehind⟩ :=
      cut_pairs hhour.length hminute.length hsecond.length hfield
    rw [← hseventh, hfirst, hnext, hlast, hbehind, parse_u8_iff hhour.length,
      parse_u8_iff hminute.length, parse_u8_iff hsecond.length]
    refine ⟨?_, hhour, hminute, hsecond, by omega, hfraction, hms⟩
    rw [hfield, List.length_append, List.length_append, List.length_append, hhour.length,
      hminute.length, hsecond.length]
    omega

/-- The year of two digits. -/
def fullYear (short_year : ℕ) : ℕ := if short_year ≥ 80 then 1900 + short_year else 2000 + short_year

theorem fullYear_iff {short_year year : ℕ} (h : short_year < 100) :
    fullYear short_year = year ↔ short_year = year % 100 ∧ 1980 ≤ year ∧ year ≤ 2079 := by
  unfold fullYear
  split_ifs <;> omega

theorem Number.lt {plus : Bool} {value : ℕ} {text : List UInt8} (h : Number plus 10 text value) :
    value < 100 := by
  cases h with
  | digits ha hb =>
    have := to_digit_lt ha
    have := to_digit_lt hb
    omega
  | signed _ hb =>
    have := to_digit_lt hb
    omega

theorem parse_date_ok_iff {field : List UInt8} {year month day : ℕ} :
    parse_date field = .ok (year, month, day) ↔
      field.length = 6 ∧ parse_u8 (field.take 2) = .ok day ∧
        parse_u8 ((field.drop 2).take 2) = .ok month ∧ ∃ short_year,
          parse_u8 ((field.drop 4).take 2) = .ok short_year ∧ year = fullYear short_year ∧
            (1 ≤ month ∧ month ≤ 12) ∧ 1 ≤ day ∧ day ≤ monthLength year month := by
  unfold parse_date
  dsimp only
  simp only [check_ok_iff, bind_ok_iff, UnixTime.days_in_month_eq, ne_eq, not_not]
  refine and_congr_right fun hlength => ?_
  constructor
  · rintro ⟨day', hday, month', hmonth, short_year, hyear, h⟩
    split at h
    · rename_i maximum_day hmaximum
      rw [Option.ite_none_right_eq_some] at hmaximum
      obtain ⟨hrange, hmaximum⟩ := hmaximum
      obtain ⟨hday', h⟩ := check_ok_iff.mp h
      simp only [pure, Except.pure, Except.ok.injEq, Prod.mk.injEq] at h
      obtain ⟨rfl, rfl, rfl⟩ := h
      rw [← Option.some.inj hmaximum] at hday'
      unfold fullYear at *
      refine ⟨hday, hmonth, short_year, hyear, rfl, hrange, ?_, ?_⟩
      · omega
      · omega
    · cases h
  · rintro ⟨hday, hmonth, short_year, hyear, rfl, hrange, hpos, hle⟩
    refine ⟨_, hday, _, hmonth, short_year, hyear, ?_⟩
    rw [if_pos hrange]
    refine check_ok_iff.mpr ⟨?_, rfl⟩
    unfold fullYear at hle
    omega

theorem parse_date_iff {field : List UInt8} {year month day : ℕ} :
    parse_date field = .ok (year, month, day) ↔ ∃ dd mm yy, ∃ d : Date,
      field = dd ++ mm ++ yy ∧ Number true 10 dd d.day ∧ Number true 10 mm d.month ∧
        Number true 10 yy (d.year % 100) ∧ 1980 ≤ d.year ∧ d.year ≤ 2079 ∧
          (year, month, day) = (d.year, d.month, d.day) := by
  rw [parse_date_ok_iff]
  constructor
  · rintro ⟨hlength, hday, hmonth, short_year, hyear, hfull, ⟨hpos, hle⟩, hday_pos, hday_le⟩
    have hdd := (parse_u8_iff (by rw [List.length_take]; omega)).mp hday
    have hmm := (parse_u8_iff (by rw [List.length_take, List.length_drop]; omega)).mp hmonth
    have hyy := (parse_u8_iff (by rw [List.length_take, List.length_drop]; omega)).mp hyear
    obtain ⟨hshort, hmin, hmax⟩ := (fullYear_iff hyy.lt).mp hfull.symm
    have hend : field.drop 6 = [] := List.drop_eq_nil_of_le (by omega)
    have hfield := glue_pairs field
    rw [hend, List.append_nil] at hfield
    rw [hshort] at hyy
    exact ⟨_, _, _, ⟨year, month, day, hpos, hle, hday_pos, hday_le⟩, hfield, hdd, hmm, hyy, hmin, hmax,
      rfl⟩
  · rintro ⟨dd, mm, yy, d, hfield, hday, hmonth, hyear, hmin, hmax, heq⟩
    obtain ⟨rfl, rfl, rfl⟩ : year = d.year ∧ month = d.month ∧ day = d.day := by simpa using heq
    obtain ⟨hfirst, hnext, hlast, -⟩ := cut_pairs hday.length hmonth.length hyear.length
      (hfield.trans (List.append_nil _).symm)
    rw [hfirst, hnext, hlast, parse_u8_iff hday.length, parse_u8_iff hmonth.length]
    refine ⟨?_, hday, hmonth, _, (parse_u8_iff hyear.length).mpr hyear, ?_, ⟨d.month_pos, d.month_le⟩,
      d.day_pos, d.day_le⟩
    · rw [hfield, List.length_append, List.length_append, hday.length, hmonth.length, hyear.length]
    · exact ((fullYear_iff hyear.lt).mpr ⟨rfl, hmin, hmax⟩).symm

/-- Until 2079 the seconds fit. -/
theorem to_unix_seconds_ok {d : Date} {hour minute second : ℕ} (hmin : 1980 ≤ d.year)
    (hmax : d.year ≤ 2079) (hhour : hour < 24) (hminute : minute < 60) (hsecond : second ≤ 60) :
    ∃ unix_seconds, to_unix_seconds d.year d.month d.day hour minute second = .ok unix_seconds ∧
      unix_seconds.toNat + 4 < 2 ^ 32 := by
  have hnumber : d.number < yearStart 2080 := by
    have hyear := Date.number_lt_month (Nat.lt_succ_of_le d.month_le)
    rw [monthStart_thirteen, ← yearStart_succ] at hyear
    exact Nat.lt_of_lt_of_le hyear (yearStart_le (by omega))
  have hend : yearStart 2080 = yearStart 1970 + 40177 := by
    rw [UnixTime.days_before_year_eq (by decide), UnixTime.days_before_year_eq (by decide)]
    decide
  have hcount : UnixTime.seconds (d.number - yearStart 1970) hour minute second + 4 < 2 ^ 32 := by
    unfold UnixTime.seconds
    omega
  rw [UnixTime.to_unix_seconds_eq (by omega) (by omega) hhour hminute hsecond, UnixTime.epoch_number]
  generalize UnixTime.seconds (d.number - yearStart 1970) hour minute second = count at hcount ⊢
  have hlt : count < 2 ^ 32 := by omega
  have htoNat : (UInt32.ofNat count).toNat = count := UInt32.toNat_ofNat_of_lt' hlt
  exact ⟨.ofNat count, if_pos hlt, by rwa [htoNat]⟩

/-! ## The sentence -/

theorem length_eq_seven {α : Type} {l : List α} (h : l.length = 7) :
    ∃ a b c d e f g, l = [a, b, c, d, e, f, g] := by
  match l, h with
  | [a, b, c, d, e, f, g], _ => exact ⟨a, b, c, d, e, f, g, rfl⟩

theorem parse_rmc_ok_iff {s : List UInt8} {t : GnssDateTime} :
    parse_rmc_datetime s = .ok t ↔ ∃ star talker time between date others,
      verify_checksum s = .ok star ∧
        ((s.take star).drop 1).splitOn 44 = talker :: time :: (between ++ date :: others) ∧
          between.length = 7 ∧ 5 ≤ talker.length ∧ [82, 77, 67] <:+ talker ∧
            ∃ hour minute second milliseconds year month day,
              parse_time time = .ok (hour, minute, second, milliseconds) ∧
                parse_date date = .ok (year, month, day) ∧
                  to_unix_seconds year month day hour minute second = .ok t.unix_seconds ∧
                    t.milliseconds = .ofNat milliseconds := by
  unfold parse_rmc_datetime
  simp only [bind_ok_iff]
  constructor
  · rintro ⟨star, hstar, h⟩
    split at h
    · cases h
    rename_i talker rest hfields
    rw [check_ok_iff] at h
    obtain ⟨htalker, h⟩ := h
    split at h
    · rename_i time f₁ f₂ f₃ f₄ f₅ f₆ f₇ date others
      obtain ⟨⟨hour, minute, second, milliseconds⟩, htime, h⟩ := bind_ok_iff.mp h
      obtain ⟨⟨year, month, day⟩, hdate, h⟩ := bind_ok_iff.mp h
      obtain ⟨unix_seconds, hseconds, h⟩ := bind_ok_iff.mp h
      obtain rfl := Except.ok.inj h
      rw [not_or, not_not] at htalker
      refine ⟨star, talker, time, [f₁, f₂, f₃, f₄, f₅, f₆, f₇], date, others, hstar, hfields, rfl,
        by omega, ?_, hour, minute, second, milliseconds, year, month, day, htime, hdate, hseconds, rfl⟩
      exact List.suffix_iff_eq_drop.mpr htalker.2.symm
    · cases h
  · rintro ⟨star, talker, time, between, date, others, hstar, hfields, hbetween, hlength, hrmc, hour,
      minute, second, milliseconds, year, month, day, htime, hdate, hseconds, hmilliseconds⟩
    obtain ⟨f₁, f₂, f₃, f₄, f₅, f₆, f₇, rfl⟩ := length_eq_seven hbetween
    have htalker : ¬ (talker.length < 5 ∨ talker.drop (talker.length - 3) ≠ [82, 77, 67]) := by
      rw [not_or, not_not]
      exact ⟨by omega, (List.suffix_iff_eq_drop.mp hrmc).symm⟩
    refine ⟨star, hstar, ?_⟩
    rw [hfields]
    refine check_ok_iff.mpr ⟨htalker, ?_⟩
    simp only [List.cons_append, List.nil_append]
    refine bind_ok_iff.mpr ⟨_, htime, bind_ok_iff.mpr ⟨_, hdate, bind_ok_iff.mpr ⟨_, hseconds, ?_⟩⟩⟩
    rw [← hmilliseconds]
    rfl

/-! ## Milliseconds -/

theorem to_digit_of_is_ascii_digit {byte : UInt8} (h : is_ascii_digit byte = true) :
    to_digit 10 byte = some (byte.toNat - 48) := by
  have hrange : 48 ≤ byte.toNat ∧ byte.toNat ≤ 57 := by
    simpa [is_ascii_digit, UInt8.le_iff_toNat_le] using h
  unfold to_digit
  dsimp only
  rw [if_pos hrange, if_pos (by omega)]

theorem milliseconds_eq {digits : List UInt8} (h : ∀ digit ∈ digits, is_ascii_digit digit = true) :
    digits_value 10 0 ((digits ++ [48, 48, 48]).take 3) = some (GnssTime.milliseconds digits) := by
  have hzero : to_digit 10 48 = some 0 := by decide
  match digits with
  | [] => decide
  | [a] =>
    have ha := to_digit_of_is_ascii_digit (h a (by simp))
    simp [digits_value, ha, hzero, GnssTime.milliseconds]
    omega
  | [a, b] =>
    have ha := to_digit_of_is_ascii_digit (h a (by simp))
    have hb := to_digit_of_is_ascii_digit (h b (by simp))
    simp [digits_value, ha, hb, hzero, GnssTime.milliseconds]
    omega
  | a :: b :: c :: rest =>
    have ha := to_digit_of_is_ascii_digit (h a (by simp))
    have hb := to_digit_of_is_ascii_digit (h b (by simp))
    have hc := to_digit_of_is_ascii_digit (h c (by simp))
    simp [digits_value, ha, hb, hc, GnssTime.milliseconds]
    omega

theorem milliseconds_lt {digits : List UInt8} (h : ∀ digit ∈ digits, is_ascii_digit digit = true) :
    GnssTime.milliseconds digits < 1000 := by
  have hdigit (i : ℕ) : (digits.getD i 48).toNat - 48 < 10 := by
    rw [List.getD_eq_getElem?_getD]
    cases hget : digits[i]? with
    | none => decide
    | some digit =>
      have hdigit := to_digit_of_is_ascii_digit (h digit (List.mem_of_getElem? hget))
      exact to_digit_lt hdigit
  have h₀ := hdigit 0
  have h₁ := hdigit 1
  have h₂ := hdigit 2
  unfold GnssTime.milliseconds
  dsimp only
  omega

theorem Fraction.digits {text : List UInt8} (h : Fraction text) :
    ∀ digit ∈ text.drop 1, is_ascii_digit digit = true := by
  rcases h with rfl | ⟨digits, -, hdigits, rfl⟩
  · intro digit hdigit
    cases hdigit
  · exact hdigits

/-! ## Every sentence -/

/-- The bytes in front of the first `*`. -/
theorem take_star (payload after : List UInt8) :
    ((36 :: payload ++ 42 :: after).take (payload.length + 1)).drop 1 = payload := by
  simp

theorem separators_of_splitOn {payload : List UInt8} {fields : List (List UInt8)}
    (hfields : payload.splitOn 44 = fields) (hpayload : 42 ∉ payload) :
    [44].intercalate fields = payload ∧ ∀ field ∈ fields, 44 ∉ field ∧ 42 ∉ field := by
  subst hfields
  have hjoin : [44].intercalate (payload.splitOn 44) = payload := List.intercalate_splitOn 44
  refine ⟨hjoin, fun field hfield => ⟨not_mem_of_mem_splitOn hfield, fun hmem => ?_⟩⟩
  rw [← hjoin] at hpayload
  exact hpayload (mem_intercalate_of_mem hfield hmem)

namespace Reading

variable {plus : Bool} {l : Layout} {d : Date} {hour minute second : ℕ}

theorem payload_splitOn (h : Reading plus l d hour minute second) :
    l.payload.splitOn 44 = l.fields :=
  List.splitOn_intercalate 44 (fun field hfield => (h.separators field hfield).1)
    (List.cons_ne_nil _ _)

theorem star_not_mem (h : Reading plus l d hour minute second) : 42 ∉ l.payload := by
  intro hmem
  rcases mem_intercalate hmem with hstar | ⟨field, hfield, hfield'⟩
  · cases hstar
  · exact (h.separators field hfield).2 hfield'

end Reading

theorem accepts_iff {s : List UInt8} {t : GnssDateTime} :
    parse_rmc_datetime s = .ok t ↔ ∃ l d hour minute second, l.text = s ∧
      Reading true l d hour minute second ∧
        to_unix_seconds d.year d.month d.day hour minute second = .ok t.unix_seconds ∧
          digits_value 10 0 l.milliseconds = some t.milliseconds.toNat := by
  rw [parse_rmc_ok_iff]
  constructor
  · rintro ⟨star, talker, time, between, date, others, hstar, hfields, hbetween, hlength, hrmc, hour,
      minute, second, milliseconds, year, month, day, htime, hdate, hseconds, hmilliseconds⟩
    obtain ⟨payload, checksum, rest, rfl, hpayload, rfl, hchecksum⟩ := verify_checksum_iff.mp hstar
    obtain ⟨hh, mm, ss, fraction, rfl, hhour, hminute, hsecond, hh24, hm60, hs60, hfraction, rfl⟩ :=
      parse_time_iff.mp htime
    obtain ⟨dd, mo, yy, d, rfl, hday, hmonth, hyear, hmin, hmax, heq⟩ := parse_date_iff.mp hdate
    obtain ⟨rfl, rfl, rfl⟩ : year = d.year ∧ month = d.month ∧ day = d.day := by simpa using heq
    rw [take_star] at hfields
    obtain ⟨hjoin, hseparators⟩ := separators_of_splitOn hfields hpayload
    refine ⟨⟨talker, hh, mm, ss, fraction, between, dd, mo, yy, others, checksum, rest⟩, d, hour, minute,
      second, ?_, ?_, hseconds, ?_⟩
    · exact congrArg (fun payload => 36 :: payload ++ 42 :: (checksum ++ rest)) hjoin
    · refine ⟨hseparators, hbetween, hlength, hrmc, ?_, ?_, ?_⟩
      · rw [← hjoin] at hchecksum
        exact hchecksum
      · exact ⟨hhour, hminute, hsecond, hh24, hm60, hs60, hfraction⟩
      · exact ⟨hday, hmonth, hyear, hmin, hmax⟩
    · have hlt := milliseconds_lt hfraction.digits
      rw [Layout.milliseconds, milliseconds_eq hfraction.digits, hmilliseconds, UInt16.toNat_ofNat']
      rw [Nat.mod_eq_of_lt (by omega)]
  · rintro ⟨l, d, hour, minute, second, rfl, reading, hseconds, hmilliseconds⟩
    have hdigits := reading.clock.fraction.digits
    rw [Layout.milliseconds, milliseconds_eq hdigits] at hmilliseconds
    refine ⟨l.payload.length + 1, l.talker, l.time, l.between, l.date, l.others, ?_, ?_,
      reading.between, reading.talker_length, reading.talker_rmc, hour, minute, second,
      GnssTime.milliseconds (l.fraction.drop 1), d.year, d.month, d.day, ?_, ?_, hseconds, ?_⟩
    · exact verify_checksum_iff.mpr ⟨l.payload, l.checksum, l.rest, rfl, reading.star_not_mem, rfl,
        reading.checksum⟩
    · rw [Layout.text, take_star, reading.payload_splitOn]
      rfl
    · obtain ⟨hhour, hminute, hsecond, hh24, hm60, hs60, hfraction⟩ := reading.clock
      exact parse_time_iff.mpr ⟨_, _, _, _, rfl, hhour, hminute, hsecond, hh24, hm60, hs60, hfraction,
        rfl⟩
    · obtain ⟨hday, hmonth, hyear, hmin, hmax⟩ := reading.day
      exact parse_date_iff.mpr ⟨_, _, _, d, rfl, hday, hmonth, hyear, hmin, hmax, rfl⟩
    · rw [Option.some.inj hmilliseconds, UInt16.ofNat_toNat]

theorem accepts_iff_accepted {s : List UInt8} :
    (∃ t, parse_rmc_datetime s = .ok t) ↔ Accepted true s := by
  constructor
  · rintro ⟨t, h⟩
    obtain ⟨l, d, hour, minute, second, htext, reading, -⟩ := accepts_iff.mp h
    exact ⟨l, d, hour, minute, second, htext, reading⟩
  · rintro ⟨l, d, hour, minute, second, htext, reading⟩
    obtain ⟨-, -, -, hhour, hminute, hsecond, hfraction⟩ := reading.clock
    obtain ⟨-, -, -, hmin, hmax⟩ := reading.day
    obtain ⟨unix_seconds, hseconds, -⟩ := to_unix_seconds_ok hmin hmax hhour hminute hsecond
    have hlt := milliseconds_lt hfraction.digits
    have hmilliseconds : digits_value 10 0 l.milliseconds =
        some (UInt16.ofNat (GnssTime.milliseconds (l.fraction.drop 1))).toNat := by
      rw [Layout.milliseconds, milliseconds_eq hfraction.digits, UInt16.toNat_ofNat',
        Nat.mod_eq_of_lt (by omega)]
    exact ⟨⟨unix_seconds, _⟩,
      accepts_iff.mpr ⟨l, d, hour, minute, second, htext, reading, hseconds, hmilliseconds⟩⟩

/-- Three more seconds fit as well. -/
theorem parsed_bounds {s : List UInt8} {t : GnssDateTime} (h : parse_rmc_datetime s = .ok t) :
    t.unix_seconds.toNat + 4 < 2 ^ 32 ∧ t.milliseconds.toNat ≤ 999 := by
  obtain ⟨l, d, hour, minute, second, -, reading, hseconds, hmilliseconds⟩ := accepts_iff.mp h
  obtain ⟨-, -, -, hhour, hminute, hsecond, hfraction⟩ := reading.clock
  obtain ⟨-, -, -, hmin, hmax⟩ := reading.day
  obtain ⟨unix_seconds, hok, hlt⟩ := to_unix_seconds_ok hmin hmax hhour hminute hsecond
  rw [Layout.milliseconds, milliseconds_eq hfraction.digits] at hmilliseconds
  have hmilliseconds := Option.some.inj hmilliseconds
  have hthousand := milliseconds_lt hfraction.digits
  obtain rfl := Except.ok.inj (hok.symm.trans hseconds)
  exact ⟨hlt, by omega⟩

/-! ## Plus signs -/

theorem Number.not_plus {radix value : ℕ} {text : List UInt8} (h : Number false radix text value) :
    text.head? ≠ some 43 := by
  cases h with
  | digits ha _ =>
    intro hplus
    rw [Option.some.inj hplus, to_digit_plus] at ha
    cases ha
  | signed hplus _ => cases hplus

theorem Number.strict {plus : Bool} {radix value : ℕ} {text : List UInt8}
    (h : Number plus radix text value) (hplus : text.head? ≠ some 43) :
    Number false radix text value := by
  cases h with
  | digits ha hb => exact .digits ha hb
  | signed _ _ => exact absurd rfl hplus

theorem Number.mono {radix value : ℕ} {text : List UInt8} (h : Number false radix text value) :
    Number true radix text value := by
  cases h with
  | digits ha hb => exact .digits ha hb
  | signed hplus _ => cases hplus

namespace Reading

variable {plus plus' : Bool} {l l' : Layout} {d d' : Date} {hour hour' minute minute' second second' : ℕ}

theorem mono (h : Reading false l d hour minute second) : Reading true l d hour minute second := by
  obtain ⟨hseparators, hbetween, hlength, hrmc, hchecksum, hclock, hday⟩ := h
  obtain ⟨hhour, hminute, hsecond, hh24, hm60, hs60, hfraction⟩ := hclock
  obtain ⟨hdd, hmm, hyy, hmin, hmax⟩ := hday
  exact ⟨hseparators, hbetween, hlength, hrmc, hchecksum.mono,
    ⟨hhour.mono, hminute.mono, hsecond.mono, hh24, hm60, hs60, hfraction⟩,
    ⟨hdd.mono, hmm.mono, hyy.mono, hmin, hmax⟩⟩

theorem strict (h : Reading plus l d hour minute second)
    (hplus : ∀ number ∈ l.numbers, number.head? ≠ some 43) :
    Reading false l d hour minute second := by
  obtain ⟨hseparators, hbetween, hlength, hrmc, hchecksum, hclock, hday⟩ := h
  obtain ⟨hhour, hminute, hsecond, hh24, hm60, hs60, hfraction⟩ := hclock
  obtain ⟨hdd, hmm, hyy, hmin, hmax⟩ := hday
  simp only [Layout.numbers, List.forall_mem_cons] at hplus
  obtain ⟨p₁, p₂, p₃, p₄, p₅, p₆, p₇, -⟩ := hplus
  exact ⟨hseparators, hbetween, hlength, hrmc, hchecksum.strict p₁,
    ⟨hhour.strict p₂, hminute.strict p₃, hsecond.strict p₄, hh24, hm60, hs60, hfraction⟩,
    ⟨hdd.strict p₅, hmm.strict p₆, hyy.strict p₇, hmin, hmax⟩⟩

theorem not_plus (h : Reading false l d hour minute second) :
    ∀ number ∈ l.numbers, number.head? ≠ some 43 := by
  obtain ⟨hhour, hminute, hsecond, -⟩ := h.clock
  obtain ⟨hday, hmonth, hyear, -⟩ := h.day
  simp only [Layout.numbers, List.forall_mem_cons]
  exact ⟨h.checksum.not_plus, hhour.not_plus, hminute.not_plus, hsecond.not_plus, hday.not_plus,
    hmonth.not_plus, hyear.not_plus, by simp⟩

/-- A sentence can be read in one way only. -/
theorem numbers_eq (h : Reading plus l d hour minute second)
    (h' : Reading plus' l' d' hour' minute' second') (htext : l.text = l'.text) :
    l.numbers = l'.numbers := by
  have hstar := findIdx_star.mpr
    ⟨36 :: l.payload, l.checksum ++ l.rest, rfl, by simpa using h.star_not_mem, rfl⟩
  have hstar' := findIdx_star.mpr
    ⟨36 :: l'.payload, l'.checksum ++ l'.rest, rfl, by simpa using h'.star_not_mem, rfl⟩
  have htext' : 36 :: l.payload ++ 42 :: (l.checksum ++ l.rest) =
      36 :: l'.payload ++ 42 :: (l'.checksum ++ l'.rest) := htext
  rw [htext', hstar'] at hstar
  obtain ⟨hpayload, hbehind⟩ := List.append_inj htext' (Option.some.inj hstar).symm
  obtain ⟨hchecksum, -⟩ := List.append_inj (List.cons.inj hbehind).2
    (h.checksum.length.trans h'.checksum.length.symm)
  have hfields : l.fields = l'.fields := by
    rw [← h.payload_splitOn, ← h'.payload_splitOn, (List.cons.inj hpayload).2]
  obtain ⟨-, hrest⟩ := List.cons.inj hfields
  obtain ⟨htime, hrest⟩ := List.cons.inj hrest
  obtain ⟨-, hrest⟩ := List.append_inj hrest (h.between.trans h'.between.symm)
  obtain ⟨hdate, -⟩ := List.cons.inj hrest
  obtain ⟨hhour, hminute, hsecond, -⟩ := h.clock
  obtain ⟨hhour', hminute', hsecond', -⟩ := h'.clock
  obtain ⟨hday, hmonth, hyear, -⟩ := h.day
  obtain ⟨hday', hmonth', hyear', -⟩ := h'.day
  obtain ⟨h₁, h₂, h₃, -⟩ := cut_pairs hhour.length hminute.length hsecond.length (Eq.refl l.time)
  obtain ⟨h₁', h₂', h₃', -⟩ := cut_pairs hhour'.length hminute'.length hsecond'.length htime
  obtain ⟨d₁, d₂, d₃, -⟩ := cut_pairs hday.length hmonth.length hyear.length
    (List.append_nil l.date).symm
  obtain ⟨d₁', d₂', d₃', -⟩ := cut_pairs hday'.length hmonth'.length hyear'.length
    (hdate.trans (List.append_nil l'.date).symm)
  unfold Layout.numbers
  rw [hchecksum, ← h₁, ← h₂, ← h₃, ← d₁, ← d₂, ← d₃, h₁', h₂', h₃', d₁', d₂', d₃']

end Reading

/-- Read with plus signs allowed, the sentence has one. -/
def Signed (s : List UInt8) : Prop :=
  ∃ l d hour minute second, l.text = s ∧ Reading true l d hour minute second ∧
    ∃ number ∈ l.numbers, number.head? = some 43

theorem not_accepted_of_signed {s : List UInt8} (h : Signed s) : ¬ Accepted false s := by
  rintro ⟨l', d', hour', minute', second', htext', reading'⟩
  obtain ⟨l, d, hour, minute, second, htext, reading, number, hnumber, hplus⟩ := h
  rw [reading.numbers_eq reading' (htext.trans htext'.symm)] at hnumber
  exact reading'.not_plus number hnumber hplus

theorem accepted_of_not_signed {s : List UInt8} (h : ¬ Signed s) (haccepted : Accepted true s) :
    Accepted false s := by
  obtain ⟨l, d, hour, minute, second, htext, reading⟩ := haccepted
  refine ⟨l, d, hour, minute, second, htext, reading.strict fun number hnumber hplus => ?_⟩
  exact h ⟨l, d, hour, minute, second, htext, reading, number, hnumber, hplus⟩

theorem Signed.accepted {s : List UInt8} (h : Signed s) : Accepted true s := by
  obtain ⟨l, d, hour, minute, second, htext, reading, -⟩ := h
  exact ⟨l, d, hour, minute, second, htext, reading⟩

/-- The sentences of the format are accepted, and beyond them exactly those with a plus sign for a digit.
What is accepted gives the first three digits of the fraction, and no index is out of range. -/
theorem accepts_format_iff_not_signed (s : List UInt8) :
    (((∃ t, parse_rmc_datetime s = .ok t) ↔ Accepted false s) ↔ ¬ Signed s) ∧
      (∀ t, parse_rmc_datetime s = .ok t → ∃ l d hour minute second, l.text = s ∧
        Reading true l d hour minute second ∧
          to_unix_seconds d.year d.month d.day hour minute second = .ok t.unix_seconds ∧
            digits_value 10 0 l.milliseconds = some t.milliseconds.toNat) ∧
        Slicing.parse_rmc_datetime s = Slicing.sound (parse_rmc_datetime s) := by
  refine ⟨?_, fun t => accepts_iff.mp, Slicing.parse_rmc_datetime_sound s⟩
  rw [accepts_iff_accepted]
  constructor
  · intro hiff hsigned
    exact not_accepted_of_signed hsigned (hiff.mp hsigned.accepted)
  · intro hsigned
    refine ⟨accepted_of_not_signed hsigned, ?_⟩
    rintro ⟨l, d, hour, minute, second, htext, reading⟩
    exact ⟨l, d, hour, minute, second, htext, reading.mono⟩

/-- `$GNRMC,+1+2+3,A,,,,,,,+4+526,,,N*44` -/
def plusSigns : Layout where
  talker := [71, 78, 82, 77, 67]
  hour := [43, 49]
  minute := [43, 50]
  second := [43, 51]
  fraction := []
  between := [[65], [], [], [], [], [], []]
  day := [43, 52]
  month := [43, 53]
  year := [50, 54]
  others := [[], [], [78]]
  checksum := [52, 52]
  rest := []

def fourthOfMay : Date where
  year := 2026
  month := 5
  day := 4
  month_pos := by decide
  month_le := by decide
  day_pos := by decide
  day_le := by decide

theorem plusSigns_reading : Reading true plusSigns fourthOfMay 1 2 3 where
  separators := by decide
  between := rfl
  talker_length := by decide
  talker_rmc := by decide
  checksum := by
    have hsum : (xor_checksum plusSigns.payload).toNat = 4 * 16 + 4 := by decide
    rw [hsum]
    exact .digits rfl rfl
  clock := ⟨.signed rfl rfl, .signed rfl rfl, .signed rfl rfl, by decide, by decide, by decide, .inl rfl⟩
  day :=
    { day := .signed rfl rfl
      month := .signed rfl rfl
      year := (.digits rfl rfl : Number true 10 [50, 54] (2 * 10 + 6))
      year_ge := by decide
      year_le := by decide }

theorem plusSigns_accepted : ¬ ∀ s, (∃ t, parse_rmc_datetime s = .ok t) ↔ Accepted false s := by
  intro h
  have hsigned : Signed plusSigns.text :=
    ⟨plusSigns, fourthOfMay, 1, 2, 3, rfl, plusSigns_reading, plusSigns.hour, by decide, by decide⟩
  have hok : ∃ t, parse_rmc_datetime plusSigns.text = .ok t := accepts_iff_accepted.mpr hsigned.accepted
  exact not_accepted_of_signed hsigned ((h plusSigns.text).mp hok)

end Comboard.RmcGrammar
