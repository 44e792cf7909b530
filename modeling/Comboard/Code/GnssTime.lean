import Comboard.Code.Scheduler
import Comboard.Lib.Digits

/-! # `gnss/time.rs`: the time of an RMC sentence -/

namespace Comboard

open Lib

structure GnssDateTime where
  unix_seconds : UInt32
  milliseconds : UInt16
  deriving DecidableEq

inductive GnssTimeParseError where
  | InvalidStart | MissingField | InvalidChecksum | InvalidTalker | ParseError | OutOfRange
  deriving DecidableEq

namespace GnssTime

/-- Where the `*` is. -/
def verify_checksum (sentence : List UInt8) : Except GnssTimeParseError Nat :=
  if sentence.head? ≠ some 36 then .error .InvalidStart -- b'$'
  else
    match sentence.findIdx? (· = 42) with -- b'*'
    | none => .error .MissingField
    | some star =>
      if star + 3 > sentence.length then .error .ParseError
      else
        match from_str_radix 0xff 16 ((sentence.drop (star + 1)).take 2) with
        | none => .error .ParseError
        | some expected =>
          let actual := xor_checksum ((sentence.take star).drop 1)
          if actual.toNat ≠ expected then .error .InvalidChecksum else .ok star

def parse_u8 (field : List UInt8) : Except GnssTimeParseError Nat :=
  match from_str_radix 0xff 10 field with
  | some value => .ok value
  | none => .error .ParseError

def is_ascii_digit (byte : UInt8) : Bool := 48 ≤ byte && byte ≤ 57

/-- Three digits, with zeros for the ones that are missing. -/
def milliseconds (fraction : List UInt8) : Nat :=
  let digit (index : Nat) : Nat := (fraction.getD index 48).toNat - 48
  digit 0 * 100 + digit 1 * 10 + digit 2

def parse_time (field : List UInt8) : Except GnssTimeParseError (Nat × Nat × Nat × Nat) := do
  if field.length < 6 then throw .ParseError
  let hour ← parse_u8 (field.take 2)
  let minute ← parse_u8 ((field.drop 2).take 2)
  let second ← parse_u8 ((field.drop 4).take 2)
  if hour ≥ 24 ∨ minute ≥ 60 ∨ second > 60 then throw .OutOfRange
  if field.length = 6 then return (hour, minute, second, 0)
  if field.getD 6 0 ≠ 46 then throw .ParseError -- b'.'
  let fraction := field.drop 7
  if fraction.isEmpty || fraction.any (!is_ascii_digit ·) then throw .ParseError
  return (hour, minute, second, milliseconds fraction)

def leap_year (year : Nat) : Bool := year % 4 = 0 ∧ (year % 100 ≠ 0 ∨ year % 400 = 0)

def days_in_month (year month : Nat) : Option Nat :=
  match month with
  | 1 | 3 | 5 | 7 | 8 | 10 | 12 => some 31
  | 4 | 6 | 9 | 11 => some 30
  | 2 => some (if leap_year year then 29 else 28)
  | _ => none

def parse_date (field : List UInt8) : Except GnssTimeParseError (Nat × Nat × Nat) := do
  if field.length ≠ 6 then throw .ParseError
  let day ← parse_u8 (field.take 2)
  let month ← parse_u8 ((field.drop 2).take 2)
  let short_year ← parse_u8 ((field.drop 4).take 2)
  let year := if short_year ≥ 80 then 1900 + short_year else 2000 + short_year
  let some maximum_day := days_in_month year month | throw .OutOfRange
  if day = 0 ∨ day > maximum_day then throw .OutOfRange
  return (year, month, day)

def days_before_year (year : Nat) : Nat :=
  let before := year - 1
  365 * before + before / 4 - before / 100 + before / 400

/-- The loop from January on. -/
def days_before_month (year month : Nat) : Nat :=
  ((List.range (month - 1)).map fun current => (days_in_month year (current + 1)).getD 0).sum

def to_unix_seconds (year month day hour minute second : Nat) :
    Except GnssTimeParseError UInt32 :=
  if year < 1970 then .error .OutOfRange
  else
    let days := days_before_year year - days_before_year 1970 + days_before_month year month + (day - 1)
    let leap_second_carry := if second = 60 then 1 else 0
    let normal_second := min second 59
    let seconds := (checked_mul days 86400).bind fun value =>
      (checked_add value (hour * 3600)).bind fun value =>
        (checked_add value (minute * 60)).bind fun value =>
          checked_add value (normal_second + leap_second_carry)
    match seconds with
    | none => .error .OutOfRange
    | some seconds => if seconds < 2 ^ 32 then .ok (.ofNat seconds) else .error .OutOfRange

def parse_rmc_datetime (sentence : List UInt8) : Except GnssTimeParseError GnssDateTime := do
  let star ← verify_checksum sentence
  match ((sentence.take star).drop 1).splitOn 44 with -- b','
  | [] => throw .MissingField
  | talker :: rest =>
    if talker.length < 5 ∨ talker.drop (talker.length - 3) ≠ [82, 77, 67] then -- b"RMC"
      throw .InvalidTalker
    match rest with
    | time :: _ :: _ :: _ :: _ :: _ :: _ :: _ :: date :: _ =>
      let (hour, minute, second, milliseconds) ← parse_time time
      let (year, month, day) ← parse_date date
      let unix_seconds ← to_unix_seconds year month day hour minute second
      return { unix_seconds, milliseconds := .ofNat milliseconds }
    | _ => throw .MissingField

end GnssTime

end Comboard
