import Comboard.Code.GnssTimeSlices

/-!
# No index is out of range

Every slice is taken behind a check of the length.
-/

namespace Comboard.Slicing

open Lib

section

variable {α β : Type}

/-- No panic. -/
def sound (x : Except GnssTimeParseError α) : Slicing α := ExceptT.mk (some x)

@[simp]
theorem pure_eq_sound (a : α) : (pure a : Slicing α) = sound (.ok a) := rfl

@[simp]
theorem throw_eq_sound (e : GnssTimeParseError) : (throw e : Slicing α) = sound (.error e) := rfl

@[simp]
theorem sound_ok_bind (a : α) (g : α → Slicing β) : sound (.ok a) >>= g = g a := rfl

@[simp]
theorem sound_error_bind (e : GnssTimeParseError) (g : α → Slicing β) :
    sound (.error e) >>= g = sound (.error e) := rfl

/-- One function after another. -/
theorem sound_bind {x : Except GnssTimeParseError α} {g : α → Slicing β}
    {g' : α → Except GnssTimeParseError β} (h : ∀ a, x = .ok a → g a = sound (g' a)) :
    sound x >>= g = sound (x >>= g') := by
  cases x with
  | error e => rfl
  | ok a => exact h a rfl

/-- A check. -/
theorem sound_ite {c : Prop} [Decidable c] {x y : Slicing α} {x' y' : Except GnssTimeParseError α}
    (hx : c → x = sound x') (hy : ¬ c → y = sound y') :
    (if c then x else y) = sound (if c then x' else y') := by
  by_cases hc : c
  · rw [if_pos hc, if_pos hc, hx hc]
  · rw [if_neg hc, if_neg hc, hy hc]

end

theorem slice_eq {bytes : List UInt8} {first behind : Nat} (h : first ≤ behind)
    (h' : behind ≤ bytes.length) :
    slice bytes first behind = sound (.ok ((bytes.drop first).take (behind - first))) := by
  rw [← List.drop_take]
  exact if_pos ⟨h, h'⟩

theorem index_eq {bytes : List UInt8} {i : Nat} (h : i < bytes.length) :
    index bytes i = sound (.ok (bytes.getD i 0)) := by
  unfold index
  rw [List.getD_eq_getElem?_getD, List.getElem?_eq_getElem h]
  rfl

/-- The star stands behind the first byte. -/
theorem star_pos {sentence : List UInt8} {star : Nat} (hhead : sentence.head? = some 36)
    (hstar : sentence.findIdx? (· = 42) = some star) : 1 ≤ star := by
  refine Nat.pos_of_ne_zero ?_
  rintro rfl
  obtain ⟨hlt, hget, -⟩ := List.findIdx?_eq_some_iff_getElem.mp hstar
  rw [List.head?_eq_getElem?, List.getElem?_eq_getElem hlt] at hhead
  rw [Option.some.inj hhead] at hget
  cases hget

theorem verify_checksum_sound (sentence : List UInt8) :
    verify_checksum sentence = sound (GnssTime.verify_checksum sentence) := by
  unfold verify_checksum GnssTime.verify_checksum
  dsimp only
  refine sound_ite (fun _ => rfl) fun hhead => ?_
  cases hstar : sentence.findIdx? (· = 42) with
  | none => rfl
  | some star =>
    have hfirst := star_pos (not_not.mp hhead) hstar
    refine sound_ite (fun _ => rfl) fun hlength => ?_
    rw [slice_eq (by omega) (by omega), sound_ok_bind, show star + 3 - (star + 1) = 2 by omega]
    cases from_str_radix 0xff 16 ((sentence.drop (star + 1)).take 2) with
    | none => rfl
    | some expected =>
      dsimp only
      rw [slice_eq hfirst (by omega), sound_ok_bind, ← List.drop_take]
      exact sound_ite (fun _ => rfl) fun _ => rfl

theorem verify_checksum_range {sentence : List UInt8} {star : Nat}
    (h : GnssTime.verify_checksum sentence = .ok star) : 1 ≤ star ∧ star + 3 ≤ sentence.length := by
  unfold GnssTime.verify_checksum at h
  split at h
  · cases h
  rename_i hhead
  split at h
  · cases h
  rename_i star' hstar
  split at h
  · cases h
  rename_i hlength
  split at h
  · cases h
  dsimp only at h
  split at h
  · cases h
  obtain rfl := Except.ok.inj h
  exact ⟨star_pos (not_not.mp hhead) hstar, by omega⟩

theorem parse_time_sound (field : List UInt8) :
    parse_time field = sound (GnssTime.parse_time field) := by
  unfold parse_time GnssTime.parse_time
  dsimp only
  refine sound_ite (fun _ => rfl) fun hlength => ?_
  rw [slice_eq (by omega) (by omega), slice_eq (by omega) (by omega), slice_eq (by omega) (by omega),
    sound_ok_bind]
  refine sound_bind fun hour _ => ?_
  rw [sound_ok_bind]
  refine sound_bind fun minute _ => ?_
  rw [sound_ok_bind]
  refine sound_bind fun second _ => ?_
  refine sound_ite (fun _ => rfl) fun _ => ?_
  refine sound_ite (fun _ => rfl) fun hsix => ?_
  rw [index_eq (by omega), sound_ok_bind]
  refine sound_ite (fun _ => rfl) fun _ => ?_
  rw [slice_eq (by omega) (by omega), sound_ok_bind, ← List.length_drop, List.take_length]
  exact sound_ite (fun _ => rfl) fun _ => rfl

theorem parse_date_sound (field : List UInt8) :
    parse_date field = sound (GnssTime.parse_date field) := by
  unfold parse_date GnssTime.parse_date
  dsimp only
  refine sound_ite (fun _ => rfl) fun hlength => ?_
  rw [slice_eq (by omega) (by omega), slice_eq (by omega) (by omega), slice_eq (by omega) (by omega),
    sound_ok_bind]
  refine sound_bind fun day _ => ?_
  rw [sound_ok_bind]
  refine sound_bind fun month _ => ?_
  rw [sound_ok_bind]
  refine sound_bind fun short_year _ => ?_
  cases GnssTime.days_in_month (if short_year ≥ 80 then 1900 + short_year else 2000 + short_year)
    month with
  | none => rfl
  | some maximum_day => exact sound_ite (fun _ => rfl) fun _ => rfl

/-- The source never panics at an index. -/
theorem parse_rmc_datetime_sound (sentence : List UInt8) :
    parse_rmc_datetime sentence = sound (GnssTime.parse_rmc_datetime sentence) := by
  unfold parse_rmc_datetime GnssTime.parse_rmc_datetime
  rw [verify_checksum_sound]
  refine sound_bind fun star hstar => ?_
  obtain ⟨hfirst, hlast⟩ := verify_checksum_range hstar
  rw [slice_eq hfirst (by omega), sound_ok_bind, List.drop_take]
  cases ((sentence.drop 1).take (star - 1)).splitOn 44 with
  | nil => rfl
  | cons talker rest =>
    dsimp only
    by_cases hlength : talker.length < 5
    · rw [if_pos hlength, if_pos (.inl hlength)]
      rfl
    have htalker : (talker.drop (talker.length - 3)).take (talker.length - (talker.length - 3)) =
        talker.drop (talker.length - 3) := List.take_of_length_le (by rw [List.length_drop])
    rw [if_neg hlength, slice_eq (by omega) (Nat.le_refl _), sound_ok_bind, htalker]
    simp only [hlength, false_or]
    refine sound_ite (fun _ => rfl) fun _ => ?_
    rcases rest with _ | ⟨_, _ | ⟨_, _ | ⟨_, _ | ⟨_, _ | ⟨_, _ | ⟨_, _ | ⟨_, _ | ⟨_, _ | ⟨_, _⟩⟩⟩⟩⟩⟩⟩⟩⟩
    case cons.cons.cons.cons.cons.cons.cons.cons.cons =>
      dsimp only
      rw [parse_time_sound]
      refine sound_bind fun time _ => ?_
      rw [parse_date_sound]
      refine sound_bind fun date _ => ?_
      exact sound_bind fun unix_seconds _ => rfl
    all_goals rfl

end Comboard.Slicing
