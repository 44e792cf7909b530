import Mathlib.Data.Nat.Digits.Lemmas

/-!
# Numbers as text

What Rust's integer types read and write. Texts are lists of bytes; bytes that are no UTF-8 are no digits
either.
-/

namespace Comboard.Lib

/-- `char::to_digit` of an ASCII byte. -/
def to_digit (radix : ℕ) (byte : UInt8) : Option ℕ :=
  let value :=
    if 48 ≤ byte.toNat ∧ byte.toNat ≤ 57 then byte.toNat - 48
    else if 97 ≤ byte.toNat ∧ byte.toNat ≤ 122 then byte.toNat - 87
    else if 65 ≤ byte.toNat ∧ byte.toNat ≤ 90 then byte.toNat - 55
    else radix
  if value < radix then some value else none

/-- The value of the digits behind `value`. -/
def digits_value (radix : ℕ) : ℕ → List UInt8 → Option ℕ
  | value, [] => some value
  | value, byte :: rest =>
    match to_digit radix byte with
    | some digit => digits_value radix (value * radix + digit) rest
    | none => none

/-- `from_str_radix` of an unsigned type. There may be a plus sign in front of the digits. -/
def from_str_radix (maximum radix : ℕ) (text : List UInt8) : Option ℕ :=
  let digits := match text with
    | 43 :: rest => rest -- b'+'
    | _ => text
  if digits.isEmpty then none
  else (digits_value radix 0 digits).filter (· ≤ maximum)

/-- The letters are upper case. -/
def digit_byte (value : ℕ) : UInt8 := .ofNat (if value < 10 then 48 + value else 55 + value)

/-- `value` with zeros in front, in at least `width` digits. -/
def to_radix (radix width value : ℕ) : List UInt8 :=
  (Nat.digitsAppend radix width value).reverse.map digit_byte

/-! ## Digits -/

variable {radix width value maximum : ℕ}

theorem digit_byte_toNat (h : value < 36) :
    (digit_byte value).toNat = if value < 10 then 48 + value else 55 + value := by
  unfold digit_byte
  rw [UInt8.toNat_ofNat']
  split <;> omega

theorem to_digit_digit_byte (hradix : radix ≤ 36) (h : value < radix) :
    to_digit radix (digit_byte value) = some value := by
  unfold to_digit
  rw [digit_byte_toNat (h.trans_le hradix)]
  by_cases hten : value < 10
  · have hdigit : 48 ≤ 48 + value ∧ 48 + value ≤ 57 := by omega
    rw [if_pos hten, if_pos hdigit, Nat.add_sub_cancel_left]
    exact if_pos h
  · have hdigit : ¬ (48 ≤ 55 + value ∧ 55 + value ≤ 57) := by omega
    have hlower : ¬ (97 ≤ 55 + value ∧ 55 + value ≤ 122) := by omega
    have hupper : 65 ≤ 55 + value ∧ 55 + value ≤ 90 := by omega
    rw [if_neg hten, if_neg hdigit, if_neg hlower, if_pos hupper, Nat.add_sub_cancel_left]
    exact if_pos h

theorem digits_value_map (hradix : radix ≤ 36) {digits : List ℕ} (h : ∀ d ∈ digits, d < radix)
    (before : ℕ) :
    digits_value radix before (digits.map digit_byte) =
      some (digits.foldl (fun value d => value * radix + d) before) := by
  induction digits generalizing before with
  | nil => rfl
  | cons d digits ih =>
    rw [List.map_cons, digits_value, to_digit_digit_byte hradix (h d List.mem_cons_self)]
    exact ih (fun e he => h e (List.mem_cons_of_mem d he)) _

/-- `Nat.ofDigits` starts with the last digit of a text. -/
theorem foldl_reverse_eq_ofDigits (digits : List ℕ) :
    digits.reverse.foldl (fun value d => value * radix + d) 0 = Nat.ofDigits radix digits := by
  rw [List.foldl_reverse, Nat.ofDigits_eq_foldr]
  congr 1
  funext d value
  rw [Nat.mul_comm, Nat.add_comm]
  rfl

theorem ofDigits_digitsAppend : Nat.ofDigits radix (Nat.digitsAppend radix width value) = value := by
  rw [Nat.digitsAppend, Nat.ofDigits_append_replicate_zero, Nat.ofDigits_digits]

/-! ## Numbers as text -/

theorem mem_to_radix (h : 1 < radix) (hradix : radix ≤ 36) {byte : UInt8}
    (hbyte : byte ∈ to_radix radix width value) : 48 ≤ byte.toNat ∧ byte.toNat ≤ 90 := by
  obtain ⟨d, hd, rfl⟩ := List.mem_map.mp hbyte
  have hlt := Nat.lt_of_mem_digitsAppend h width d (List.mem_reverse.mp hd)
  rw [digit_byte_toNat (hlt.trans_le hradix)]
  split <;> omega

theorem to_radix_length (h : 1 < radix) (hvalue : value < radix ^ width) :
    (to_radix radix width value).length = width := by
  rw [to_radix, List.length_map, List.length_reverse, Nat.length_digitsAppend h width hvalue]

theorem to_radix_length_le {bound : ℕ} (h : 1 < radix) (hwidth : width ≤ bound)
    (hvalue : value < radix ^ bound) : (to_radix radix width value).length ≤ bound := by
  have hdigits := (Nat.digits_length_le_iff h value).mpr hvalue
  rw [to_radix, List.length_map, List.length_reverse, Nat.digitsAppend, List.length_append,
    List.length_replicate]
  omega

theorem to_radix_ne_nil (h : 0 < width) : to_radix radix width value ≠ [] := by
  have hlength : 0 < (to_radix radix width value).length := by
    rw [to_radix, List.length_map, List.length_reverse, Nat.digitsAppend, List.length_append,
      List.length_replicate]
    omega
  exact List.ne_nil_of_length_pos hlength

/-- What is written can be read. -/
theorem from_str_radix_to_radix (h : 1 < radix) (hradix : radix ≤ 36) (hwidth : 0 < width)
    (hvalue : value ≤ maximum) :
    from_str_radix maximum radix (to_radix radix width value) = some value := by
  have hread : digits_value radix 0 (to_radix radix width value) = some value := by
    rw [to_radix, digits_value_map hradix, foldl_reverse_eq_ofDigits, ofDigits_digitsAppend]
    intro d hd
    exact Nat.lt_of_mem_digitsAppend h width d (List.mem_reverse.mp hd)
  have hfirst : ∀ rest, to_radix radix width value ≠ 43 :: rest := by
    intro rest hplus
    have hbyte := @mem_to_radix radix width value h hradix 43 (by rw [hplus]; exact List.mem_cons_self)
    exact absurd hbyte.1 (by decide)
  unfold from_str_radix
  split
  · rename_i rest hplus
    exact absurd hplus (hfirst rest)
  · simp [to_radix_ne_nil hwidth, hread, hvalue]

/-- No two numbers are written alike. -/
theorem to_radix_injective (h : 1 < radix) (hradix : radix ≤ 36) (hwidth : 0 < width) {a b : ℕ}
    (heq : to_radix radix width a = to_radix radix width b) : a = b := by
  have hread := congrArg (from_str_radix (max a b) radix) heq
  rw [from_str_radix_to_radix h hradix hwidth (Nat.le_max_left a b),
    from_str_radix_to_radix h hradix hwidth (Nat.le_max_right a b)] at hread
  exact Option.some.inj hread

/-! ## Fields with a separator -/

/-- What is in a joined list is in one of the parts, or between them. -/
theorem mem_intercalate {α : Type} {separator x : α} {parts : List (List α)}
    (h : x ∈ [separator].intercalate parts) : x = separator ∨ ∃ part ∈ parts, x ∈ part := by
  induction parts with
  | nil => simp at h
  | cons part parts ih =>
    cases parts with
    | nil => exact .inr ⟨part, List.mem_cons_self, by simpa using h⟩
    | cons next parts =>
      rw [List.intercalate_cons_cons, List.mem_append, List.mem_append, List.mem_singleton] at h
      rcases h with (h | h) | h
      · exact .inr ⟨part, List.mem_cons_self, h⟩
      · exact .inl h
      · rcases ih h with hsep | ⟨later, hlater, hx⟩
        · exact .inl hsep
        · exact .inr ⟨later, List.mem_cons_of_mem _ hlater, hx⟩

/-- What is in one of the parts is in the joined list. -/
theorem mem_intercalate_of_mem {α : Type} {separator x : α} {part : List α} {parts : List (List α)}
    (hpart : part ∈ parts) (hx : x ∈ part) : x ∈ [separator].intercalate parts := by
  induction parts with
  | nil => cases hpart
  | cons first parts ih =>
    cases parts with
    | nil =>
      obtain rfl := List.mem_singleton.mp hpart
      simpa using hx
    | cons next parts =>
      rw [List.intercalate_cons_cons, List.mem_append, List.mem_append]
      rcases List.mem_cons.mp hpart with rfl | hlater
      · exact .inl (.inl hx)
      · exact .inr (ih hlater)

theorem length_intercalate {α : Type} (separator : α) (part : List α) (parts : List (List α)) :
    ([separator].intercalate (part :: parts)).length =
      part.length + (parts.map fun next => next.length + 1).sum := by
  induction parts generalizing part with
  | nil => simp
  | cons next parts ih =>
    rw [List.intercalate_cons_cons, List.length_append, List.length_append, ih]
    simp only [List.length_singleton, List.map_cons, List.sum_cons]
    omega

/-! ## ASCII is UTF-8 -/

theorem utf8EncodeChar_ofUInt8 {byte : UInt8} (h : byte.toNat < 128) :
    String.utf8EncodeChar (Char.ofUInt8 byte) = [byte] := by
  have hval : (Char.ofUInt8 byte).val.toNat = byte.toNat := rfl
  simp [String.utf8EncodeChar, hval, Nat.le_of_lt_succ h]

theorem isValidUTF8_of_ascii {bytes : List UInt8} (h : ∀ byte ∈ bytes, byte.toNat < 128) :
    bytes.toByteArray.IsValidUTF8 := by
  have hencode : (bytes.map Char.ofUInt8).flatMap String.utf8EncodeChar = bytes := by
    induction bytes with
    | nil => rfl
    | cons byte bytes ih =>
      rw [List.map_cons, List.flatMap_cons, utf8EncodeChar_ofUInt8 (h byte List.mem_cons_self),
        ih fun later hlater => h later (List.mem_cons_of_mem byte hlater)]
      rfl
  exact ⟨bytes.map Char.ofUInt8, by rw [List.utf8Encode, hencode]⟩

end Comboard.Lib
