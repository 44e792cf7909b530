import Mathlib.Algebra.GroupWithZero.Nat

/-!
# Machine words

The operations of Rust's integer types that Lean does not have. `u64` values that only count are
natural numbers; `checked_add` is where their width shows.
-/

namespace Comboard.Lib

def U64_MAX : Nat := 2 ^ 64 - 1

def checked_add (a b : Nat) : Option Nat := if a + b ≤ U64_MAX then some (a + b) else none

def checked_sub (a b : Nat) : Option Nat := if b ≤ a then some (a - b) else none

def u64_checked_add (a b : UInt64) : Option UInt64 :=
  if a.toNat + b.toNat ≤ U64_MAX then some (a + b) else none

def u64_checked_sub (a b : UInt64) : Option UInt64 := if b ≤ a then some (a - b) else none

def u64_checked_mul (a b : UInt64) : Option UInt64 :=
  if a.toNat * b.toNat ≤ U64_MAX then some (a * b) else none

def saturating_add (a b : UInt32) : UInt32 := .ofNat (min (a.toNat + b.toNat) 0xffffffff)

def u64_saturating_add (a b : UInt64) : UInt64 := .ofNat (min (a.toNat + b.toNat) U64_MAX)

def saturating_sub (a b : UInt32) : UInt32 := .ofNat (a.toNat - b.toNat)

def u16_from_le_bytes (a b : UInt8) : UInt16 := a.toUInt16 ||| b.toUInt16 <<< 8

def u32_from_le_bytes (a b c d : UInt8) : UInt32 :=
  a.toUInt32 ||| b.toUInt32 <<< 8 ||| c.toUInt32 <<< 16 ||| d.toUInt32 <<< 24

def u16_to_le_bytes (value : UInt16) : Vector UInt8 2 := #v[value.toUInt8, (value >>> 8).toUInt8]

def u32_to_le_bytes (value : UInt32) : Vector UInt8 4 :=
  #v[value.toUInt8, (value >>> 8).toUInt8, (value >>> 16).toUInt8, (value >>> 24).toUInt8]

def xor_checksum (bytes : List UInt8) : UInt8 := bytes.foldl (· ^^^ ·) 0

theorem u64_checked_add_toNat (a b : UInt64) :
    (u64_checked_add a b).map UInt64.toNat = checked_add a.toNat b.toNat := by
  unfold u64_checked_add checked_add
  split
  · rename_i h
    rw [Option.map_some, UInt64.toNat_add, Nat.mod_eq_of_lt]
    exact Nat.lt_of_le_pred (by decide) h
  · rfl

theorem u64_checked_mul_toNat (a b : UInt64) :
    (u64_checked_mul a b).map UInt64.toNat =
      if a.toNat * b.toNat ≤ U64_MAX then some (a.toNat * b.toNat) else none := by
  unfold u64_checked_mul
  split
  · rename_i h
    rw [Option.map_some, UInt64.toNat_mul, Nat.mod_eq_of_lt]
    exact Nat.lt_of_le_pred (by decide) h
  · rfl

@[simp]
theorem saturating_add_toNat (a b : UInt32) :
    (saturating_add a b).toNat = min (a.toNat + b.toNat) 0xffffffff := by
  rw [saturating_add, UInt32.toNat_ofNat', Nat.mod_eq_of_lt (by omega)]

@[simp]
theorem min_toNat (a b : UInt32) : (min a b).toNat = min a.toNat b.toNat := by
  change (if a ≤ b then a else b).toNat = _
  split <;> rename_i h <;> rw [UInt32.le_iff_toNat_le] at h <;> omega

@[simp]
theorem saturating_sub_toNat (a b : UInt32) : (saturating_sub a b).toNat = a.toNat - b.toNat := by
  have := a.toNat_lt
  rw [saturating_sub, UInt32.toNat_ofNat', Nat.mod_eq_of_lt (by omega)]

/-- A fact about each byte. -/
theorem every_byte {P : UInt8 → Prop} (h : ∀ n : Fin 256, P (.ofNat n)) (byte : UInt8) : P byte := by
  have hbyte := h ⟨byte.toNat, byte.toNat_lt⟩
  rwa [UInt8.ofNat_toNat] at hbyte

/-! ## Words and their bytes -/

/-- A word above the bits of a smaller one. -/
theorem or_shiftLeft {low n : Nat} (high : Nat) (h : low < 2 ^ n) :
    low ||| high <<< n = low + 2 ^ n * high := by
  rw [Nat.or_comm, ← Nat.shiftLeft_add_eq_or_of_lt h, Nat.shiftLeft_eq, Nat.mul_comm, Nat.add_comm]

theorem u16_from_le_bytes_toNat (a b : UInt8) :
    (u16_from_le_bytes a b).toNat = a.toNat + 2 ^ 8 * b.toNat := by
  have ha := a.toNat_lt
  have hb := b.toNat_lt
  have hwidth : (8 : UInt16).toNat % 16 = 8 := rfl
  have hshift : b.toNat <<< 8 % 2 ^ 16 = b.toNat <<< 8 := by
    rw [Nat.shiftLeft_eq]
    omega
  rw [u16_from_le_bytes, UInt16.toNat_or, UInt16.toNat_shiftLeft, UInt8.toNat_toUInt16,
    UInt8.toNat_toUInt16, hwidth, hshift, or_shiftLeft _ ha]

theorem u32_from_le_bytes_toNat (a b c d : UInt8) :
    (u32_from_le_bytes a b c d).toNat =
      a.toNat + 2 ^ 8 * b.toNat + 2 ^ 16 * c.toNat + 2 ^ 24 * d.toNat := by
  have ha := a.toNat_lt
  have hb := b.toNat_lt
  have hc := c.toNat_lt
  have hd := d.toNat_lt
  have h8 : (8 : UInt32).toNat % 32 = 8 := rfl
  have h16 : (16 : UInt32).toNat % 32 = 16 := rfl
  have h24 : (24 : UInt32).toNat % 32 = 24 := rfl
  have hshift (x : UInt8) (n : Nat) (hn : n ≤ 24) : x.toNat <<< n % 2 ^ 32 = x.toNat <<< n := by
    have hx := x.toNat_lt
    have hpow : 2 ^ n ≤ 2 ^ 24 := Nat.pow_le_pow_right (by decide) hn
    rw [Nat.shiftLeft_eq, Nat.mod_eq_of_lt]
    calc x.toNat * 2 ^ n ≤ x.toNat * 2 ^ 24 := Nat.mul_le_mul_left _ hpow
      _ < 2 ^ 32 := by omega
  simp only [u32_from_le_bytes, UInt32.toNat_or, UInt32.toNat_shiftLeft, UInt8.toNat_toUInt32, h8, h16,
    h24]
  rw [hshift b 8 (by decide), hshift c 16 (by decide), hshift d 24 (by decide),
    or_shiftLeft _ ha, or_shiftLeft (n := 16) _ (by omega), or_shiftLeft (n := 24) _ (by omega)]

/-- A word of three bytes fits in 24 bits. -/
theorem three_bytes_lt (a b c : UInt8) : (u32_from_le_bytes a b c 0).toNat < 2 ^ 24 := by
  have ha := a.toNat_lt
  have hb := b.toNat_lt
  have hc := c.toNat_lt
  have hzero : (0 : UInt8).toNat = 0 := rfl
  rw [u32_from_le_bytes_toNat, hzero]
  omega

theorem u16_to_le_bytes_from (a b : UInt8) : u16_to_le_bytes (u16_from_le_bytes a b) = #v[a, b] := by
  have ha := a.toNat_lt
  have hb := b.toNat_lt
  have hwidth : (8 : UInt16).toNat % 16 = 8 := rfl
  have hlow : (u16_from_le_bytes a b).toUInt8 = a := by
    rw [← UInt8.toNat_inj, UInt16.toNat_toUInt8, u16_from_le_bytes_toNat]
    omega
  have hhigh : (u16_from_le_bytes a b >>> 8).toUInt8 = b := by
    rw [← UInt8.toNat_inj, UInt16.toNat_toUInt8, UInt16.toNat_shiftRight, u16_from_le_bytes_toNat,
      hwidth, Nat.shiftRight_eq_div_pow]
    omega
  simp only [u16_to_le_bytes, hlow, hhigh]

theorem u32_to_le_bytes_from (a b c d : UInt8) :
    u32_to_le_bytes (u32_from_le_bytes a b c d) = #v[a, b, c, d] := by
  have ha := a.toNat_lt
  have hb := b.toNat_lt
  have hc := c.toNat_lt
  have hd := d.toNat_lt
  have hword := u32_from_le_bytes_toNat a b c d
  generalize u32_from_le_bytes a b c d = word at hword
  have hbyte (shift : UInt32) (n : Nat) (x : UInt8) (hn : shift.toNat % 32 = n)
      (h : word.toNat / 2 ^ n % 2 ^ 8 = x.toNat) : (word >>> shift).toUInt8 = x := by
    rw [← UInt8.toNat_inj, UInt32.toNat_toUInt8, UInt32.toNat_shiftRight, hn,
      Nat.shiftRight_eq_div_pow, h]
  have hlow : word.toUInt8 = a := by
    rw [← UInt8.toNat_inj, UInt32.toNat_toUInt8]
    omega
  have h8 := hbyte 8 8 b rfl (by omega)
  have h16 := hbyte 16 16 c rfl (by omega)
  have h24 := hbyte 24 24 d rfl (by omega)
  simp only [u32_to_le_bytes, hlow, h8, h16, h24]

end Comboard.Lib
