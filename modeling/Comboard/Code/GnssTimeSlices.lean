import Comboard.Code.GnssTime

/-!
# `gnss/time.rs` with its slices

The functions of `Comboard.Code.GnssTime` once more, with every slice and index checked as the source checks
it. `none` is a panic.
-/

namespace Comboard

open Lib

/-- `GnssTimeParseError`, or a panic. -/
abbrev Slicing (α : Type) : Type := ExceptT GnssTimeParseError Option α

namespace Slicing

/-- `bytes[first..behind]` -/
def slice (bytes : List UInt8) (first behind : Nat) : Slicing (List UInt8) :=
  if first ≤ behind ∧ behind ≤ bytes.length then pure ((bytes.take behind).drop first)
  else ExceptT.mk none

/-- `bytes[i]` -/
def index (bytes : List UInt8) (i : Nat) : Slicing UInt8 :=
  match bytes[i]? with
  | some byte => pure byte
  | none => ExceptT.mk none

def parse_u8 (field : List UInt8) : Slicing Nat := ExceptT.mk (some (GnssTime.parse_u8 field))

/-- The end of the checks, behind the first star. -/
def verify_checksum (sentence : List UInt8) : Slicing Nat := do
  if sentence.head? ≠ some 36 then throw .InvalidStart -- b'$'
  match sentence.findIdx? (· = 42) with -- b'*'
  | none => throw .MissingField
  | some star =>
    if star + 3 > sentence.length then throw .ParseError
    match from_str_radix 0xff 16 (← slice sentence (star + 1) (star + 3)) with
    | none => throw .ParseError
    | some expected =>
      let actual := xor_checksum (← slice sentence 1 star)
      if actual.toNat ≠ expected then throw .InvalidChecksum
      return star

def parse_time (field : List UInt8) : Slicing (Nat × Nat × Nat × Nat) := do
  if field.length < 6 then throw .ParseError
  let hour ← parse_u8 (← slice field 0 2)
  let minute ← parse_u8 (← slice field 2 4)
  let second ← parse_u8 (← slice field 4 6)
  if hour ≥ 24 ∨ minute ≥ 60 ∨ second > 60 then throw .OutOfRange
  if field.length = 6 then return (hour, minute, second, 0)
  if (← index field 6) ≠ 46 then throw .ParseError -- b'.'
  let fraction ← slice field 7 field.length
  if fraction.isEmpty || fraction.any (!GnssTime.is_ascii_digit ·) then throw .ParseError
  return (hour, minute, second, GnssTime.milliseconds fraction)

def parse_date (field : List UInt8) : Slicing (Nat × Nat × Nat) := do
  if field.length ≠ 6 then throw .ParseError
  let day ← parse_u8 (← slice field 0 2)
  let month ← parse_u8 (← slice field 2 4)
  let short_year ← parse_u8 (← slice field 4 6)
  let year := if short_year ≥ 80 then 1900 + short_year else 2000 + short_year
  let some maximum_day := GnssTime.days_in_month year month | throw .OutOfRange
  if day = 0 ∨ day > maximum_day then throw .OutOfRange
  return (year, month, day)

def parse_rmc_datetime (sentence : List UInt8) : Slicing GnssDateTime := do
  let star ← verify_checksum sentence
  match (← slice sentence 1 star).splitOn 44 with -- b','
  | [] => throw .MissingField
  | talker :: rest =>
    if talker.length < 5 then throw .InvalidTalker
    if (← slice talker (talker.length - 3) talker.length) ≠ [82, 77, 67] then -- b"RMC"
      throw .InvalidTalker
    match rest with
    | time :: _ :: _ :: _ :: _ :: _ :: _ :: _ :: date :: _ =>
      let (hour, minute, second, milliseconds) ← parse_time time
      let (year, month, day) ← parse_date date
      let unix_seconds ← ExceptT.mk (some (GnssTime.to_unix_seconds year month day hour minute second))
      return { unix_seconds, milliseconds := .ofNat milliseconds }
    | _ => throw .MissingField

end Slicing

end Comboard
