import Mathlib.Data.Nat.Bitwise
import Mathlib.Algebra.BigOperators.Group.List.Basic

/-!
# Bit fields

Values of given widths, one above the other, the first in the lowest bits. Bytes make a number in
the same way.
-/

namespace Comboard.Lib.Fields

/-- A value and its width. -/
abbrev Field := Nat × Nat

def values (fields : List Field) : List Nat := fields.map (·.1)

def widths (fields : List Field) : List Nat := fields.map (·.2)

/-- How many bits the fields take. -/
def total (fields : List Field) : Nat := (widths fields).sum

def Fits (fields : List Field) : Prop := ∀ field ∈ fields, field.1 < 2 ^ field.2

def pack : List Field → Nat
  | [] => 0
  | (value, width) :: rest => value + 2 ^ width * pack rest

/-- Reads fields of the given widths, from the lowest bit on. -/
def unpack : List Nat → Nat → List Nat
  | [], _ => []
  | width :: rest, n => n % 2 ^ width :: unpack rest (n / 2 ^ width)

/-! ## Packing and reading back -/

@[simp]
theorem total_cons (value width : Nat) (rest : List Field) :
    total ((value, width) :: rest) = width + total rest := by simp [total, widths]

@[simp]
theorem total_append (fields more : List Field) :
    total (fields ++ more) = total fields + total more := by simp [total, widths]

@[simp]
theorem fits_nil : Fits [] := nofun

@[simp]
theorem fits_cons {value width : Nat} {rest : List Field} :
    Fits ((value, width) :: rest) ↔ value < 2 ^ width ∧ Fits rest := by
  unfold Fits
  exact List.forall_mem_cons

@[simp]
theorem fits_append {fields more : List Field} :
    Fits (fields ++ more) ↔ Fits fields ∧ Fits more := by
  unfold Fits
  exact List.forall_mem_append

theorem unpack_pack {fields : List Field} (h : Fits fields) :
    unpack (widths fields) (pack fields) = values fields := by
  induction fields with
  | nil => rfl
  | cons field rest ih =>
    obtain ⟨value, width⟩ := field
    have hvalue : value < 2 ^ width := h _ List.mem_cons_self
    have hrest : Fits rest := fun field hf => h field (List.mem_cons_of_mem _ hf)
    have hmod : (value + 2 ^ width * pack rest) % 2 ^ width = value := by
      rw [Nat.add_mul_mod_self_left, Nat.mod_eq_of_lt hvalue]
    have hdiv : (value + 2 ^ width * pack rest) / 2 ^ width = pack rest := by
      rw [Nat.add_mul_div_left _ _ (Nat.two_pow_pos width), Nat.div_eq_of_lt hvalue, Nat.zero_add]
    simp only [widths, values, List.map_cons, pack, unpack, hmod, hdiv] at ih ⊢
    rw [ih hrest]

theorem pack_lt {fields : List Field} (h : Fits fields) : pack fields < 2 ^ total fields := by
  induction fields with
  | nil => exact Nat.two_pow_pos _
  | cons field rest ih =>
    obtain ⟨value, width⟩ := field
    have hvalue : value < 2 ^ width := h _ List.mem_cons_self
    have hrest := ih fun field hf => h field (List.mem_cons_of_mem _ hf)
    rw [pack, total_cons, pow_add]
    calc value + 2 ^ width * pack rest
        < 2 ^ width + 2 ^ width * pack rest := Nat.add_lt_add_right hvalue _
      _ = 2 ^ width * (pack rest + 1) := by rw [Nat.mul_succ, Nat.add_comm]
      _ ≤ 2 ^ width * 2 ^ total rest := Nat.mul_le_mul_left _ hrest

/-- A field behind the others is above them. -/
theorem pack_snoc (fields : List Field) (value width : Nat) :
    pack (fields ++ [(value, width)]) = pack fields + 2 ^ total fields * value := by
  induction fields with
  | nil => simp [pack, total, widths]
  | cons field rest ih =>
    obtain ⟨value', width'⟩ := field
    rw [List.cons_append, pack, ih, pack, total_cons, pow_add, Nat.mul_add, Nat.mul_assoc,
      Nat.add_assoc]

/-! ## Bytes -/

def ofBytes : List UInt8 → Nat
  | [] => 0
  | byte :: rest => byte.toNat + 2 ^ 8 * ofBytes rest

/-- The bit `k` is the bit `k % 8` of the byte `k / 8`. -/
theorem testBit_ofBytes (bytes : List UInt8) (k : Nat) :
    (ofBytes bytes).testBit k = (bytes.getD (k / 8) 0).toNat.testBit (k % 8) := by
  induction bytes generalizing k with
  | nil => simp [ofBytes]
  | cons byte rest ih =>
    rw [ofBytes, Nat.add_comm, Nat.testBit_two_pow_mul_add _ byte.toNat_lt]
    split <;> rename_i hk
    · rw [Nat.div_eq_of_lt hk, Nat.mod_eq_of_lt hk]
      rfl
    · have hdiv : k / 8 = (k - 8) / 8 + 1 := by omega
      have hmod : k % 8 = (k - 8) % 8 := by omega
      rw [ih, hdiv, hmod, List.getD_cons_succ]

theorem ofBytes_append (low high : List UInt8) :
    ofBytes (low ++ high) = ofBytes low + 2 ^ (8 * low.length) * ofBytes high := by
  induction low with
  | nil => simp [ofBytes]
  | cons byte rest ih =>
    rw [List.cons_append, ofBytes, ih, ofBytes, List.length_cons, Nat.mul_succ, Nat.add_comm _ 8,
      pow_add, Nat.mul_add, Nat.mul_assoc, Nat.add_assoc]

/-- What fits the first bytes is in the first bytes. -/
theorem ofBytes_take {bytes : List UInt8} {length : Nat} (hlength : length ≤ bytes.length)
    (h : ofBytes bytes < 2 ^ (8 * length)) : ofBytes (bytes.take length) = ofBytes bytes := by
  have hsplit := ofBytes_append (bytes.take length) (bytes.drop length)
  rw [List.take_append_drop, List.length_take_of_le hlength] at hsplit
  have hhigh : ofBytes (bytes.drop length) = 0 := by
    by_contra hne
    have hone : 1 ≤ ofBytes (bytes.drop length) := Nat.one_le_iff_ne_zero.mpr hne
    have hle := Nat.mul_le_mul_left (2 ^ (8 * length)) hone
    omega
  rw [hsplit, hhigh, Nat.mul_zero, Nat.add_zero]

end Comboard.Lib.Fields
