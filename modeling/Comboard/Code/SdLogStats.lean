import Comboard.Code.SdLogVerify
import Comboard.Code.SdTask
import Comboard.Lib.Counters

/-!
# `test/sd_log_verify.rs`: the statistics and the verdict

What the program counts, and the loop that reads `CAN.CSV`. A `u64` that counts rows is a `Nat`.
-/

namespace Comboard

open Lib

def HEADER : List UInt8 := ascii "Time_ms,Id,Dlc,D0,D1,D2,D3,D4,D5,D6,D7"

abbrev EXPECTED_COUNT : Nat := 13

def EXPECTED_IDS : Vector UInt16 EXPECTED_COUNT :=
  #v[0x011, 0x012, 0x020, 0x100, 0x101, 0x102, 0x103, 0x104, 0x105, 0x106, 0x107, 0x108, 0x109]

def REQUIRED_ACTIVE_IDS : List UInt16 := [0x100, 0x102, 0x103, 0x107, 0x108, 0x109]

/-- `id_counts[index] += 1`, where there is an index -/
def count_id (id_counts : Vector Nat EXPECTED_COUNT) :
    Option (Fin EXPECTED_COUNT) → Vector Nat EXPECTED_COUNT
  | some index => id_counts.set index (id_counts.get index + 1) index.isLt
  | none => id_counts

structure SegmentStats where
  index : Nat
  rows : Nat
  first_time_ms : Option UInt64
  last_time_ms : Option UInt64
  id_counts : Vector Nat EXPECTED_COUNT
  other_id_rows : Nat
  deriving DecidableEq

namespace SegmentStats

def new : SegmentStats where
  index := 0
  rows := 0
  first_time_ms := none
  last_time_ms := none
  id_counts := .replicate _ 0
  other_id_rows := 0

def reset (index : Nat) : SegmentStats := { new with index }

def add (self : SegmentStats) (time_ms : UInt64) (id_index : Option (Fin EXPECTED_COUNT)) :
    SegmentStats :=
  { self with
    first_time_ms := if self.first_time_ms.isNone then some time_ms else self.first_time_ms
    last_time_ms := some time_ms
    rows := self.rows + 1
    id_counts := count_id self.id_counts id_index
    other_id_rows := if id_index.isSome then self.other_id_rows else self.other_id_rows + 1 }

end SegmentStats

structure Stats where
  header_ok : Bool
  rows : Nat
  valid_rows : Nat
  malformed_rows : Nat
  overlong_malformed_lines : Nat
  bad_fields : Nat
  bad_time : Nat
  bad_id : Nat
  bad_dlc : Nat
  bad_data : Nat
  time_decreases : Nat
  segments : Nat
  previous_time_ms : Option UInt64
  id_counts : Vector Nat EXPECTED_COUNT
  other_id_rows : Nat
  last_segment : SegmentStats
  deriving DecidableEq

namespace Stats

def new : Stats where
  header_ok := false
  rows := 0
  valid_rows := 0
  malformed_rows := 0
  overlong_malformed_lines := 0
  bad_fields := 0
  bad_time := 0
  bad_id := 0
  bad_dlc := 0
  bad_data := 0
  time_decreases := 0
  segments := 0
  previous_time_ms := none
  id_counts := .replicate _ 0
  other_id_rows := 0
  last_segment := .new

def malformed (self : Stats) (error : RowError) : Stats :=
  let self := { self with malformed_rows := self.malformed_rows + 1 }
  match error with
  | .Fields => { self with bad_fields := self.bad_fields + 1 }
  | .Time => { self with bad_time := self.bad_time + 1 }
  | .Id => { self with bad_id := self.bad_id + 1 }
  | .Dlc => { self with bad_dlc := self.bad_dlc + 1 }
  | .Data => { self with bad_data := self.bad_data + 1 }

/-- The part of `add` in front of the counts. -/
def begin_row (self : Stats) (time_ms : UInt64) : Stats :=
  if self.previous_time_ms.any (time_ms < ·) then
    { self with
      time_decreases := self.time_decreases + 1
      segments := self.segments + 1
      last_segment := .reset (self.segments + 1) }
  else if self.segments = 0 then { self with segments := 1, last_segment := .reset 1 }
  else self

def add (self : Stats) (time_ms : UInt64) (id : UInt16) : Stats :=
  let self := self.begin_row time_ms
  let id_index := position EXPECTED_IDS id
  { self with
    id_counts := count_id self.id_counts id_index
    other_id_rows := if id_index.isSome then self.other_id_rows else self.other_id_rows + 1
    last_segment := self.last_segment.add time_ms id_index
    previous_time_ms := some time_ms
    valid_rows := self.valid_rows + 1 }

/-- `stats.rows += 1`, and what follows. -/
def count_row (self : Stats) (row : RowParsing (UInt64 × UInt16)) : Stats :=
  let self := { self with rows := self.rows + 1 }
  match row with
  | .ok (time_ms, id) => self.add time_ms id
  | .error error => self.malformed error

def process_line (self : Stats) (first_line : Bool) (line : List UInt8) : Stats :=
  if first_line then { self with header_ok := strip_cr line = HEADER }
  else self.count_row (Comboard.process_line (.whole line))

def process_overlong (self : Stats) (first_line : Bool) : Stats :=
  let self := { self with overlong_malformed_lines := self.overlong_malformed_lines + 1 }
  if first_line then { self with header_ok := false }
  else self.count_row (Comboard.process_line .overlong)

def process (self : Stats) (first_line : Bool) : Line → Stats
  | .whole line => self.process_line first_line line
  | .overlong => self.process_overlong first_line

end Stats

/-! ## The loop -/

/-- The variables of the loop. -/
structure Verifier where
  stats : Stats
  line : List UInt8
  overlong : Bool
  first_line : Bool

namespace Verifier

def new : Verifier where
  stats := .new
  line := []
  overlong := false
  first_line := true

def push (v : Verifier) (byte : UInt8) : Verifier :=
  match push_byte v.line v.overlong byte with
  | (line, overlong, none) => { v with line, overlong }
  | (line, overlong, some found) =>
    { stats := v.stats.process v.first_line found, line, overlong, first_line := false }

/-- What `file.read(..)` gives, one call after the other. At the end it gives no bytes. -/
abbrev Reads := List (Except Unit (List UInt8))

/-- The loop, and `read_ok` behind it. -/
def read (v : Verifier) : Reads → Verifier × Bool
  | [] | .ok [] :: _ => (v, true)
  | .error _ :: _ => (v, false)
  | .ok (byte :: bytes) :: rest => ((byte :: bytes).foldl push v).read rest

/-- The statistics behind the loop. -/
def finish (v : Verifier) : Stats :=
  match last_line v.line v.overlong with
  | none => v.stats
  | some line => v.stats.process v.first_line line

end Verifier

def required_ids_present (stats : Stats) : Bool :=
  REQUIRED_ACTIVE_IDS.all fun required =>
    (position EXPECTED_IDS required).any fun index => stats.last_segment.id_counts.get index ≠ 0

/-- `verify_ok`, with what became of the card and of `file.close()` -/
def verify (card_ok : Bool) (reads : Verifier.Reads) (close_ok : Bool) : Bool :=
  let (v, read_ok) := Verifier.new.read reads
  let stats := v.finish
  card_ok && read_ok && stats.header_ok && stats.rows ≠ 0 && stats.valid_rows = stats.rows &&
    stats.overlong_malformed_lines = 0 && stats.last_segment.rows ≠ 0 &&
    required_ids_present stats && close_ok

end Comboard
