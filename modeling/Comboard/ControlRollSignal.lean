import Comboard.Telemetry

/-!
# The extra A7 request

A 0x10A frame raises `CONTROL_ROLL_LORA_SIGNAL` when it carries a capture, or another status than the
frame in front of it. The signature that is compared packs the status without loss.
-/

namespace Comboard.ControlRollSignal

open Lib CanRxMessage CanGrammar Telemetry

/-! ## The status -/

def bit (flags : UInt8) (b : ℕ) : Bool := flags.toNat.testBit b

/-- A code beside the numbers. -/
def quality (raw : UInt16) : Option UInt16 := if 0x8000 ≤ raw ∧ raw ≤ 0x800f then some raw else none

structure Status where
  reference_valid : Bool
  control_active : Bool
  reference_out_of_range : Bool
  deviation_out_of_range : Bool
  reference : Option UInt16
  deviation : Option UInt16
  deriving DecidableEq

def status (value : ControlRollTelemetryV2) : Status where
  reference_valid := bit value.flags 0
  control_active := bit value.flags 2
  reference_out_of_range := bit value.flags 3
  deviation_out_of_range := bit value.flags 4
  reference := quality value.control_roll_reference_unwrapped_raw
  deviation := quality value.roll_deviation_unwrapped_raw

/-! ## The signature -/

theorem masked_toNat (flags : UInt8) :
    (flags &&& 0x1d).toNat = (bit flags 0).toNat + 4 * (bit flags 2).toNat +
      8 * (bit flags 3).toNat + 16 * (bit flags 4).toNat := by
  revert flags
  apply every_byte
  decide +kernel

theorem captured_iff (flags : UInt8) :
    flags &&& ControlRollTelemetryV2.REFERENCE_CAPTURED_SINCE_PREVIOUS_FRAME ≠ 0 ↔
      bit flags 1 = true := by
  revert flags
  apply every_byte
  decide +kernel

theorem code_iff (raw : UInt16) :
    (0x8000 ≤ raw ∧ raw ≤ 0x800f) ↔ (0x8000 ≤ raw.toNat ∧ raw.toNat ≤ 0x800f) := by
  simp [UInt16.le_iff_toNat_le]

theorem quality_code_toNat (raw : UInt16) :
    (control_roll_quality_code raw).toNat =
      if 0x8000 ≤ raw.toNat ∧ raw.toNat ≤ 0x800f then raw.toNat % 16 + 1 else 0 := by
  unfold control_roll_quality_code
  simp only [ge_iff_le, code_iff]
  split
  · have hlow : (raw &&& 0x000f).toNat = raw.toNat % 16 := by
      rw [UInt16.toNat_and]
      exact Nat.and_two_pow_sub_one_eq_mod raw.toNat 4
    have hone : (1 : UInt8).toNat = 1 := rfl
    rw [UInt8.toNat_add, UInt16.toNat_toUInt8, hlow, hone]
    omega
  · rfl

/-- The codes tell the classes apart. -/
theorem quality_code_eq_iff (raw raw' : UInt16) :
    (control_roll_quality_code raw).toNat = (control_roll_quality_code raw').toNat ↔
      quality raw = quality raw' := by
  rw [quality_code_toNat, quality_code_toNat]
  unfold quality
  simp only [code_iff]
  split_ifs
  · rw [Option.some.injEq, ← UInt16.toNat_inj]
    omega
  · simp
  · simp
  · simp

theorem quality_code_lt (raw : UInt16) : (control_roll_quality_code raw).toNat < 2 ^ 5 := by
  rw [quality_code_toNat]
  split_ifs <;> omega

/-- The three parts stand one above the other. -/
theorem status_signature_toNat (value : ControlRollTelemetryV2) :
    value.status_signature.toNat = (value.flags &&& 0x1d).toNat +
      2 ^ 8 * (control_roll_quality_code value.control_roll_reference_unwrapped_raw).toNat +
      2 ^ 13 * (control_roll_quality_code value.roll_deviation_unwrapped_raw).toNat := by
  have hflags := (value.flags &&& 0x1d).toNat_lt
  have hreference := quality_code_lt value.control_roll_reference_unwrapped_raw
  have hdeviation := quality_code_lt value.roll_deviation_unwrapped_raw
  have h8 : (8 : UInt32).toNat % 32 = 8 := rfl
  have h13 : (13 : UInt32).toNat % 32 = 13 := rfl
  have hmask : ControlRollTelemetryV2.REFERENCE_VALID ||| ControlRollTelemetryV2.CONTROL_ACTIVE |||
      ControlRollTelemetryV2.REFERENCE_OUT_OF_RANGE |||
      ControlRollTelemetryV2.DEVIATION_OUT_OF_RANGE = 0x1d := rfl
  have hshift (code n : ℕ) (hcode : code < 2 ^ 5) (hn : n ≤ 13) : code <<< n % 2 ^ 32 = code <<< n := by
    have hpow : 2 ^ n ≤ 2 ^ 13 := Nat.pow_le_pow_right (by decide) hn
    rw [Nat.shiftLeft_eq, Nat.mod_eq_of_lt]
    calc code * 2 ^ n ≤ code * 2 ^ 13 := Nat.mul_le_mul_left _ hpow
      _ < 2 ^ 32 := by omega
  simp only [ControlRollTelemetryV2.status_signature, hmask, UInt32.toNat_or, UInt32.toNat_shiftLeft,
    UInt8.toNat_toUInt32, h8, h13]
  rw [hshift _ 8 hreference (by decide), hshift _ 13 hdeviation (by decide), or_shiftLeft _ hflags,
    or_shiftLeft (n := 13) _ (by omega)]

theorem bits_eq_iff (a b : Bool) : a = b ↔ a.toNat = b.toNat := by
  cases a <;> cases b <;> decide

/-- No two statuses share a signature. -/
theorem status_signature_eq_iff (a b : ControlRollTelemetryV2) :
    a.status_signature = b.status_signature ↔ status a = status b := by
  have ha := quality_code_lt a.control_roll_reference_unwrapped_raw
  have hb := quality_code_lt b.control_roll_reference_unwrapped_raw
  have hbit (flags : UInt8) (k : ℕ) : (bit flags k).toNat ≤ 1 := Bool.toNat_le _
  have ha0 := hbit a.flags 0
  have ha2 := hbit a.flags 2
  have ha3 := hbit a.flags 3
  have hb0 := hbit b.flags 0
  have hb2 := hbit b.flags 2
  have hb3 := hbit b.flags 3
  have ha4 := hbit a.flags 4
  have hb4 := hbit b.flags 4
  rw [← UInt32.toNat_inj, status_signature_toNat, status_signature_toNat, masked_toNat, masked_toNat]
  unfold status
  simp only [Status.mk.injEq, ← quality_code_eq_iff, bits_eq_iff]
  omega

/-! ## The request -/

/-- What the frame in front of the next one said. -/
def previous (actions : List LinkAction) : Option ControlRollTelemetryV2 :=
  (last_valid 0x10a actions).map fun (data, _) => control_roll_v2 data

/-- The state in front of a frame: the cache as the run left it, and the signal taken. -/
def before (s : State) (actions : List LinkAction) : State :=
  { s with can_cache := (Link.run actions).can_cache, control_roll_lora_signal := false }

theorem cached_value (actions : List LinkAction) :
    (Link.run actions).can_cache.control_roll_v2.value = previous actions := by
  have hentry : (Link.run actions).can_cache.control_roll_v2 =
      control_roll_v2_entry.stored (last_valid 0x10a actions) :=
    control_roll_v2_entry.run_entry (.inl fun _ _ => rfl)
  rw [hentry, previous]
  cases last_valid 0x10a actions <;> rfl

theorem raised_iff (s : State) (actions : List LinkAction) (current : ControlRollTelemetryV2)
    (received_at_ms : ℕ) :
    ((before s actions).update_cache (.ControlRollV2 current) received_at_ms).1.control_roll_lora_signal
        = true ↔
      bit current.flags 1 = true ∨ ∃ p, previous actions = some p ∧ status p ≠ status current := by
  have hsignal : ((before s actions).update_cache (.ControlRollV2 current)
      received_at_ms).1.control_roll_lora_signal = (false || decide
        (current.flags &&& ControlRollTelemetryV2.REFERENCE_CAPTURED_SINCE_PREVIOUS_FRAME ≠ 0 ∨
          (Link.run actions).can_cache.control_roll_v2.value.any fun previous =>
            previous.status_signature ≠ current.status_signature)) := by
    unfold State.update_cache before
    simp
  rw [hsignal, Bool.false_or, decide_eq_true_iff, captured_iff, cached_value]
  apply or_congr_right
  rw [Option.any_eq_true]
  apply exists_congr
  intro p
  rw [decide_eq_true_iff, ne_eq, status_signature_eq_iff]

/-- The frame goes into the cache, for the next one. -/
theorem update_cache_run (s : State) (actions : List LinkAction) {data : List UInt8}
    {message : CanRxMessage} (received_at_ms : ℕ) (h : decode_standard 0x10a data = .ok message) :
    ((before s actions).update_cache message received_at_ms).1.can_cache =
      (Link.run (actions ++ [.received 0x10a data received_at_ms])).can_cache := by
  have hframe := decoded_frame (Link.run actions).toLinkState data received_at_ms
    (show ¬ ((0x10a : UInt16) = 0x014 ∨ (0x10a : UInt16) = CAN_ID_DEVICE_HEALTH) by decide)
  rw [h] at hframe
  rw [Link.run_snoc]
  exact hframe.symm

/-- When a frame of a run asks for an extra A7. -/
theorem control_roll_raises_signal (actions : List LinkAction) (s : State) {data : List UInt8}
    {message : CanRxMessage} (received_at_ms : ℕ) (haccepted : decode_standard 0x10a data = .ok message) :
    let current := control_roll_v2 data
    let after := ((before s actions).update_cache message received_at_ms).1
    (after.control_roll_lora_signal = true ↔
      bit current.flags 1 = true ∨ ∃ p, previous actions = some p ∧ status p ≠ status current) ∧
    (∀ p, previous actions = some p → bit current.flags 1 = false → p.flags = current.flags →
      quality p.control_roll_reference_unwrapped_raw =
        quality current.control_roll_reference_unwrapped_raw →
      quality p.roll_deviation_unwrapped_raw = quality current.roll_deviation_unwrapped_raw →
      after.control_roll_lora_signal = false) ∧
    (∀ a b : ControlRollTelemetryV2, a.status_signature = b.status_signature ↔ status a = status b) ∧
    after.can_cache = (Link.run (actions ++ [.received 0x10a data received_at_ms])).can_cache := by
  obtain rfl := control_roll_v2_decoded haccepted
  intro current after
  have hraised := raised_iff s actions current received_at_ms
  refine ⟨hraised, ?_, status_signature_eq_iff, update_cache_run s actions received_at_ms haccepted⟩
  intro p hp hcapture hflags hreference hdeviation
  rw [Bool.eq_false_iff, ne_eq, hraised]
  rintro (hbit | ⟨p', hp', hstatus⟩)
  · rw [hcapture] at hbit
    cases hbit
  · rw [hp] at hp'
    cases hp'
    apply hstatus
    unfold status
    rw [hflags, hreference, hdeviation]

/-- A deviation that becomes a code, on the second frame. -/
theorem control_roll_raises_signal_second :
    decode_standard 0x10a [1, 2, 0, 0, 5, 0, 1, 0] =
        .ok (.ControlRollV2 (control_roll_v2 [1, 2, 0, 0, 5, 0, 1, 0])) ∧
      ((before .new [.received 0x10a [1, 2, 0, 0, 5, 0, 1, 0] 100]).update_cache
        (.ControlRollV2 (control_roll_v2 [2, 2, 0, 0, 3, 128, 1, 0])) 200).1.control_roll_lora_signal
          = true := by
  have haccepted : decode_standard 0x10a [2, 2, 0, 0, 3, 128, 1, 0] =
      .ok (.ControlRollV2 (control_roll_v2 [2, 2, 0, 0, 3, 128, 1, 0])) := by decide
  obtain ⟨hraised, -⟩ := control_roll_raises_signal [.received 0x10a [1, 2, 0, 0, 5, 0, 1, 0] 100]
    .new 200 haccepted
  refine ⟨by decide, hraised.mpr (.inr ⟨control_roll_v2 [1, 2, 0, 0, 5, 0, 1, 0], by decide, by decide⟩)⟩

end Comboard.ControlRollSignal
