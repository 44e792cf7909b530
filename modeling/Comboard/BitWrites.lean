import Comboard.LoraCodec

/-!
# Any writes

Whatever is written in any order, also after writes that failed: the bits behind the offset are zero,
so a write stores its bits and changes no others.
-/

namespace Comboard.BitWrites

open Lib Lib.Fields

variable {n : ℕ}

/-- The bit `k` of the buffer. -/
def bit (writer : BitWriter n) (k : ℕ) : Bool :=
  (writer.bytes.toList.getD (k / 8) 0).toNat.testBit (k % 8)

/-- What `write` leaves. It fails before it changes anything. -/
def attempt (writer : BitWriter n) (call : UInt32 × ℕ) : BitWriter n :=
  match writer.write call.1 call.2 with
  | .ok after => after
  | .error _ => writer

/-- The calls that succeed, in order. -/
def stored : BitWriter n → List (UInt32 × ℕ) → List Field
  | _, [] => []
  | writer, (value, width) :: rest =>
    match writer.write value width with
    | .ok after => (value.toNat, width) :: stored after rest
    | .error _ => stored writer rest

/-- When `write` succeeds. -/
def Fitting (writer : BitWriter n) (value : UInt32) (width : ℕ) : Prop :=
  width ≤ 32 ∧ value.toNat < 2 ^ width ∧ writer.bit_offset + width ≤ 8 * n

/-! ## One write -/

theorem bit_eq (writer : BitWriter n) (k : ℕ) :
    bit writer k = (ofBytes writer.bytes.toList).testBit k := by
  rw [testBit_ofBytes]
  rfl

theorem write_ok {writer after : BitWriter n} {value : UInt32} {width : ℕ}
    (h : writer.write value width = .ok after) : Fitting writer value width := by
  unfold BitWriter.write at h
  rw [Nat.one_shiftLeft] at h
  split at h
  · cases h
  · rename_i hfits
    refine ⟨by omega, ?_, by omega⟩
    by_cases hfull : width = 32
    · subst hfull
      exact value.toNat_lt
    · omega

theorem write_error {writer : BitWriter n} {value : UInt32} {width : ℕ} {error : EncodeError}
    (h : writer.write value width = .error error) :
    ¬ Fitting writer value width ∧ error = .OutOfRange := by
  unfold BitWriter.write at h
  rw [Nat.one_shiftLeft] at h
  split at h
  · rename_i hover
    cases h
    refine ⟨?_, rfl⟩
    rintro ⟨hwidth, hvalue, hroom⟩
    omega
  · cases h

theorem attempt_ok {writer after : BitWriter n} {value : UInt32} {width : ℕ}
    (h : writer.write value width = .ok after) : attempt writer (value, width) = after := by
  simp only [attempt, h]

theorem attempt_error {writer : BitWriter n} {value : UInt32} {width : ℕ} {error : EncodeError}
    (h : writer.write value width = .error error) : attempt writer (value, width) = writer := by
  simp only [attempt, h]

/-- The bits are or-ed into the ones that are there. -/
theorem write_bits {writer after : BitWriter n} {value : UInt32} {width : ℕ}
    (h : writer.write value width = .ok after) :
    after.bit_offset = writer.bit_offset + width ∧ ∀ k, bit after k =
      (bit writer k || (decide (writer.bit_offset ≤ k) && decide (k < writer.bit_offset + width) &&
        value.toNat.testBit (k - writer.bit_offset))) := by
  have hroom : writer.bit_offset + width ≤ n * 8 := by
    have := (write_ok h).2.2
    omega
  unfold BitWriter.write at h
  split at h
  · cases h
  · cases h
    refine ⟨rfl, fun k => ?_⟩
    rw [bit_eq, bit_eq]
    exact LoraCodec.write_loop _ _ _ _ hroom k

/-! ## All writes -/

theorem holds_attempt {writer after : BitWriter n} {fields : List Field}
    (hholds : LoraCodec.Holds writer fields) {value : UInt32} {width : ℕ}
    (h : writer.write value width = .ok after) :
    LoraCodec.Holds after (fields ++ [(value.toNat, width)]) := by
  obtain ⟨hwidth, _, hroom⟩ := write_ok h
  rw [hholds.bit_offset] at hroom
  have hwritten := LoraCodec.write_spec hholds value hwidth (by omega)
  rwa [h] at hwritten

theorem holds_attempts {writer : BitWriter n} {fields : List Field}
    (hholds : LoraCodec.Holds writer fields) (calls : List (UInt32 × ℕ)) :
    LoraCodec.Holds (calls.foldl attempt writer) (fields ++ stored writer calls) := by
  induction calls generalizing writer fields with
  | nil => simpa [stored] using hholds
  | cons call rest ih =>
    obtain ⟨value, width⟩ := call
    rw [List.foldl_cons, stored]
    split <;> rename_i hwrite
    · have hnext := ih (holds_attempt hholds hwrite)
      rw [List.append_assoc, List.singleton_append] at hnext
      rwa [attempt_ok hwrite]
    · rw [attempt_error hwrite]
      exact ih hholds

/-- Behind the offset there is nothing. -/
theorem bit_behind {writer : BitWriter n} {fields : List Field}
    (hholds : LoraCodec.Holds writer fields) {k : ℕ} (h : writer.bit_offset ≤ k) :
    bit writer k = false := by
  rw [bit_eq, hholds.bytes]
  apply Nat.testBit_lt_two_pow
  calc pack fields < 2 ^ total fields := pack_lt hholds.fits
    _ ≤ 2 ^ k := Nat.pow_le_pow_right (by decide) (hholds.bit_offset ▸ h)

/-- A write stores its bits and no others. -/
theorem write_stores {writer after : BitWriter n} {fields : List Field}
    (hholds : LoraCodec.Holds writer fields) {value : UInt32} {width : ℕ}
    (h : writer.write value width = .ok after) (k : ℕ) :
    bit after k = if writer.bit_offset ≤ k ∧ k < writer.bit_offset + width then
      value.toNat.testBit (k - writer.bit_offset) else bit writer k := by
  rw [(write_bits h).2]
  split
  · rename_i hin
    rw [bit_behind hholds hin.1, decide_eq_true hin.1, decide_eq_true hin.2]
    simp
  · rename_i hout
    rw [← Bool.decide_and, decide_eq_false hout, Bool.false_and, Bool.or_false]

/-- The bytes that the bits need. -/
theorem byte_length_le_iff (writer : BitWriter n) (length : ℕ) :
    writer.byte_length ≤ length ↔ writer.bit_offset ≤ 8 * length := by
  unfold BitWriter.byte_length
  omega

/-- After any calls of `write`, failed ones too. -/
theorem writes_keep_bits (n : ℕ) (calls : List (UInt32 × ℕ)) :
    let writer := calls.foldl attempt (BitWriter.new : BitWriter n)
    let fields := stored (BitWriter.new : BitWriter n) calls
    writer.bit_offset = total fields ∧ (∀ k, writer.bit_offset ≤ k → bit writer k = false) ∧
      unpack (widths fields) (ofBytes writer.bytes.toList) = values fields ∧
      (∀ length, writer.byte_length ≤ length ↔ writer.bit_offset ≤ 8 * length) ∧
      ∀ value width,
        match writer.write value width with
        | .ok after =>
          Fitting writer value width ∧ attempt writer (value, width) = after ∧
            after.bit_offset = writer.bit_offset + width ∧
            ∀ k, bit after k = if writer.bit_offset ≤ k ∧ k < writer.bit_offset + width then
              value.toNat.testBit (k - writer.bit_offset) else bit writer k
        | .error error =>
          ¬ Fitting writer value width ∧ error = .OutOfRange ∧
            attempt writer (value, width) = writer := by
  intro writer fields
  have hholds : LoraCodec.Holds writer fields := holds_attempts LoraCodec.new_holds calls
  refine ⟨hholds.bit_offset, fun k => bit_behind hholds, ?_, byte_length_le_iff writer,
    fun value width => ?_⟩
  · rw [hholds.bytes]
    exact unpack_pack hholds.fits
  · split <;> rename_i hwrite
    · exact ⟨write_ok hwrite, attempt_ok hwrite, (write_bits hwrite).1, write_stores hholds hwrite⟩
    · obtain ⟨hfits, herror⟩ := write_error hwrite
      exact ⟨hfits, herror, attempt_error hwrite⟩

/-- A value that does not fit between two that do. -/
example :
    let writer := [(0x1ff, 9), (8, 3), (5, 3)].foldl attempt (BitWriter.new : BitWriter 2)
    (writer.bytes.toList, writer.bit_offset, writer.byte_length) = ([255, 11], 12, 2) := by
  decide

end Comboard.BitWrites
