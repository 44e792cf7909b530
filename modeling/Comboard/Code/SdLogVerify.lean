import Comboard.Lib.Digits

/-!
# `test/sd_log_verify.rs`: reading the log back

The rows of `CAN.CSV` behind the header. What the program counts is in `SdLogStats`.
-/

namespace Comboard

open Lib

def LINE_CAPACITY : Nat := 128

inductive RowError where
  | Fields | Time | Id | Dlc | Data
  deriving DecidableEq

/-! ## `parse_row` -/

abbrev RowParsing := Except RowError

/-- `fields.next().ok_or(RowError::Fields)?` -/
def next_field : List (List UInt8) → RowParsing (List UInt8 × List (List UInt8))
  | [] => .error .Fields
  | field :: fields => .ok (field, fields)

/-- `parse` or `from_str_radix`, with this error. -/
def number_field (maximum radix : Nat) (error : RowError) (field : List UInt8) : RowParsing Nat :=
  match from_str_radix maximum radix field with
  | some value => .ok value
  | none => .error error

/-- The loop over the data bytes gives back the fields behind them. -/
def data_fields : Nat → List (List UInt8) → RowParsing (List (List UInt8))
  | 0, fields => .ok fields
  | count + 1, fields => do
    let (byte, fields) ← next_field fields
    if byte.length ≠ 2 ∨ (from_str_radix 0xff 16 byte).isNone then throw .Data
    data_fields count fields

def parse_row (line : List UInt8) : RowParsing (UInt64 × UInt16) := do
  if ¬ line.toByteArray.IsValidUTF8 then throw .Fields
  let fields := line.splitOn 44 -- b','
  let (time_text, fields) ← next_field fields
  let time_ms ← number_field 0xffffffffffffffff 10 .Time time_text
  let (id_text, fields) ← next_field fields
  if id_text.length ≠ 3 then throw .Id
  let id ← number_field 0xffff 16 .Id id_text
  if id > 0x7ff then throw .Id
  let (dlc_text, fields) ← next_field fields
  let dlc ← number_field 0xff 10 .Dlc dlc_text
  if dlc > 8 then throw .Dlc
  let fields ← data_fields 8 fields
  if ¬ fields.isEmpty then throw .Fields
  return (.ofNat time_ms, .ofNat id)

/-! ## The loop over the file -/

inductive Line where
  | whole (line : List UInt8)
  | overlong

/-- What a byte does to `line` and `overlong`, and the line that ends with it. `line` is
`line[..line_length]`. -/
def push_byte (line : List UInt8) (overlong : Bool) (byte : UInt8) :
    List UInt8 × Bool × Option Line :=
  if byte = 10 then -- b'\n'
    ([], false, some (if overlong then .overlong else .whole line))
  else if overlong then (line, true, none)
  else if line.length < LINE_CAPACITY then (line ++ [byte], false, none)
  else (line, true, none)

/-- What is left behind the last newline. -/
def last_line (line : List UInt8) (overlong : Bool) : Option Line :=
  if overlong then some .overlong else if line.isEmpty then none else some (.whole line)

/-- The lines that the loop comes to. -/
def read_lines (line : List UInt8) (overlong : Bool) : List UInt8 → List Line
  | [] => (last_line line overlong).toList
  | byte :: rest =>
    let (line, overlong, found) := push_byte line overlong byte
    found.toList ++ read_lines line overlong rest

/-- `line.strip_suffix(b"\r").unwrap_or(line)` -/
def strip_cr (line : List UInt8) : List UInt8 :=
  if line.getLast? = some 13 then line.dropLast else line

/-- What `process_line` and `process_overlong` make of a line behind the first. -/
def process_line : Line → RowParsing (UInt64 × UInt16)
  | .whole line => parse_row (strip_cr line)
  | .overlong => .error .Fields

end Comboard
