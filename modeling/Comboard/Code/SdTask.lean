import Comboard.Code.CanCodec
import Comboard.Lib.Digits
import Comboard.Lib.Machine
import Mathlib.Data.Vector.Basic

/-!
# `tasks/sd_task.rs`: the log on the SD card

A step is one turn of the loop of `sd_write_task`. What `LOGGING_REQUESTED` is and what becomes of a
write come from outside. The files are open, with their headers written.
-/

namespace Comboard

open Lib

def BUF_SIZE : Nat := 2048

/-- `RawCanRecord` of `state.rs` -/
structure RawCanRecord where
  received_at_ms : UInt64
  identifier : UInt16
  data_length : UInt8
  data : Vector UInt8 8

/-! ## Rows -/

def ascii (text : String) : List UInt8 := text.toUTF8.toList

/-- `{}` of an unsigned number -/
def display (value : Nat) : List UInt8 := to_radix 10 1 value

/-- `writeln!` of fields with commas between them, into a `heapless::String` -/
def writeln (capacity : Nat) (fields : List (List UInt8)) : Option (List UInt8) :=
  let line := [44].intercalate fields ++ [10] -- b',', b'\n'
  if line.length ≤ capacity then some line else none

def can_fields (record : RawCanRecord) : List (List UInt8) :=
  [display record.received_at_ms.toNat, to_radix 16 3 record.identifier.toNat,
    display record.data_length.toNat] ++ record.data.toList.map fun byte => to_radix 16 2 byte.toNat

def can_row (record : RawCanRecord) : Option (List UInt8) := writeln 128 (can_fields record)

def control_roll_raw_status (raw : UInt16) : List UInt8 :=
  if raw = CONTROL_ROLL_OUT_OF_RANGE_RAW then ascii "OUT_OF_RANGE"
  else if raw ≥ 0x8000 ∧ raw ≤ 0x800f then ascii "ERROR"
  else ascii "NUMERIC"

def decode_control_roll_count (raw : UInt16) : Option Int16 :=
  if raw ≥ 0x8000 ∧ raw ≤ 0x800f then none else some raw.toInt16

/-- Six letters at most, so they fit in the `String<8>`. -/
def control_roll_count_text (raw : UInt16) : List UInt8 :=
  match decode_control_roll_count raw with
  | some count =>
    let magnitude := display count.toInt.natAbs
    if count < 0 then 45 :: magnitude else magnitude -- b'-'
  | none => []

def control_roll_fields (record : RawCanRecord) (value : ControlRollTelemetryV2) :
    List (List UInt8) :=
  let captured := value.flags &&& ControlRollTelemetryV2.REFERENCE_CAPTURED_SINCE_PREVIOUS_FRAME
  [display record.received_at_ms.toNat, display CONTROL_ROLL_SCHEMA_VERSION.toNat,
    to_radix 16 4 value.control_roll_reference_unwrapped_raw.toNat,
    to_radix 16 4 value.roll_deviation_unwrapped_raw.toNat,
    control_roll_count_text value.control_roll_reference_unwrapped_raw,
    control_roll_count_text value.roll_deviation_unwrapped_raw,
    control_roll_raw_status value.control_roll_reference_unwrapped_raw,
    control_roll_raw_status value.roll_deviation_unwrapped_raw,
    display value.flags.toNat, display (if captured ≠ 0 then 1 else 0),
    display value.reference_capture_event_sequence.toNat]

def control_roll_row (record : RawCanRecord) (value : ControlRollTelemetryV2) :
    Option (List UInt8) :=
  writeln 160 (control_roll_fields record value)

/-- What a record says about the control roll. -/
def control_roll_value (record : RawCanRecord) : Option ControlRollTelemetryV2 :=
  let payload_length := min record.data_length.toNat 8
  if record.identifier = CAN_ID_CONTROL_ROLL_V2 then
    match CanRxMessage.decode_standard record.identifier (record.data.toList.take payload_length) with
    | .ok (.ControlRollV2 value) => some value
    | _ => none
  else none

/-! ## A file and its buffer -/

/-- What becomes of a write: so many bytes at its end do not get into the file. -/
structure FileWrite where
  lost : Nat
  ok : Bool

/-- `written` is what the loop has written to the file. -/
structure LogFile where
  written : List UInt8
  buffer : Vector UInt8 BUF_SIZE
  cursor : Nat

namespace LogFile

def new : LogFile where
  written := []
  buffer := .replicate BUF_SIZE 0
  cursor := 0

/-- `buffer[..cursor]` -/
def pending (l : LogFile) : List UInt8 := l.buffer.toList.take l.cursor

def write (l : LogFile) (outcome : FileWrite) : LogFile :=
  { l with written := l.written ++ l.pending.take (l.pending.length - outcome.lost) }

/-- The row would not fit behind the cursor. -/
def make_room (l : LogFile) (length : Nat) (outcome : FileWrite) : LogFile × Bool :=
  if l.cursor + length > BUF_SIZE then ({ l.write outcome with cursor := 0 }, outcome.ok) else (l, true)

/-- `buffer[cursor..cursor + bytes.len()].copy_from_slice(bytes)` -/
def copy_from_slice (l : LogFile) (bytes : List UInt8) : LogFile :=
  { l with
    buffer := .ofFn fun i =>
      if l.cursor ≤ i.val ∧ i.val < l.cursor + bytes.length then bytes.getD (i.val - l.cursor) 0
      else l.buffer.get i
    cursor := l.cursor + bytes.length }

/-- A row goes into the buffer: what the write told, and whether the row is stored. -/
def append_row (l : LogFile) (row : Option (List UInt8)) (outcome : FileWrite) :
    LogFile × Bool × Bool :=
  match row with
  | none => (l, true, false)
  | some bytes =>
    let (l, ok) := l.make_room bytes.length outcome
    if l.cursor + bytes.length ≤ BUF_SIZE then (l.copy_from_slice bytes, ok, true) else (l, ok, false)

/-- The buffer goes into the file. -/
def drain (l : LogFile) (outcome : FileWrite) : LogFile × Bool :=
  if l.cursor > 0 then
    (if outcome.ok then { l.write outcome with cursor := 0 } else l.write outcome, outcome.ok)
  else (l, true)

end LogFile

/-! ## `sd_write_task` -/

structure SdWriter where
  can : LogFile
  control_roll : LogFile
  sd_has_error : Bool
  logging_active : Bool
  has_unflushed_data : Bool
  sd_logging_led : Bool
  sd_dropped_row_count : UInt32
  sd_write_error_count : UInt32

/-- What a turn meets at one of the files. -/
structure FileOutcomes where
  /-- The write that makes room for a row -/
  room : FileWrite
  /-- The write of a flush -/
  drain : FileWrite
  /-- `flush()` succeeds. -/
  flushed : Bool

inductive SdEvent where
  /-- A record is received, with this value of `LOGGING_REQUESTED`. -/
  | record (record : RawCanRecord) (logging_requested : Bool)
  | tick
  | signal

structure SdTurn where
  event : SdEvent
  /-- `LOGGING_REQUESTED` where the turn decides on a flush -/
  requested_at_flush : Bool
  /-- `LOGGING_REQUESTED` behind it -/
  requested_at_end : Bool
  can : FileOutcomes
  control_roll : FileOutcomes

namespace SdWriter

def new : SdWriter where
  can := .new
  control_roll := .new
  sd_has_error := false
  logging_active := false
  has_unflushed_data := false
  sd_logging_led := false
  sd_dropped_row_count := 0
  sd_write_error_count := 0

def mark_sd_error (w : SdWriter) : SdWriter :=
  { w with sd_has_error := true, logging_active := false, sd_logging_led := false }

/-- A write that fails and a row that is not stored are counted. -/
def count (w : SdWriter) (ok stored : Bool) : SdWriter :=
  let w := if ok then w else
    { w.mark_sd_error with sd_write_error_count := w.sd_write_error_count + 1 }
  if stored then w else { w with sd_dropped_row_count := w.sd_dropped_row_count + 1 }

def append_can_row (w : SdWriter) (record : RawCanRecord) (outcome : FileWrite) : SdWriter :=
  let (can, ok, stored) := w.can.append_row (can_row record) outcome
  { w with can }.count ok stored

def append_control_roll_row (w : SdWriter) (record : RawCanRecord) (outcome : FileWrite) : SdWriter :=
  match control_roll_value record with
  | some value =>
    let (control_roll, ok, stored) :=
      w.control_roll.append_row (control_roll_row record value) outcome
    { w with control_roll }.count ok stored
  | none => w

def receive (w : SdWriter) (record : RawCanRecord) (logging_requested : Bool)
    (can control_roll : FileWrite) : SdWriter :=
  let logging := logging_requested ∧ ¬ w.sd_has_error
  if logging then
    let w := { w with logging_active := true, sd_logging_led := true }
    (w.append_can_row record can).append_control_roll_row record control_roll
  else { w with logging_active := false, sd_logging_led := false }

def drain_can (w : SdWriter) (outcomes : FileOutcomes) : SdWriter :=
  let (can, ok) := w.can.drain outcomes.drain
  ({ w with can }.count ok true).count outcomes.flushed true

def drain_control_roll (w : SdWriter) (outcomes : FileOutcomes) : SdWriter :=
  let (control_roll, ok) := w.control_roll.drain outcomes.drain
  ({ w with control_roll }.count ok true).count outcomes.flushed true

/-- The event of a turn, and whether it asks for a flush. -/
def take_event (w : SdWriter) (t : SdTurn) : SdWriter × Bool :=
  match t.event with
  | .record record logging_requested =>
    (w.receive record logging_requested t.can.room t.control_roll.room, false)
  | .tick | .signal => (w, true)

/-- One turn of the loop. -/
def turn (w : SdWriter) (t : SdTurn) : SdWriter :=
  let (w, flush_requested) := w.take_event t
  let w := if flush_requested ∨ ¬ t.requested_at_flush then
      (w.drain_can t.can).drain_control_roll t.control_roll
    else w
  let w := if t.requested_at_end then w else { w with logging_active := false, sd_logging_led := false }
  { w with has_unflushed_data := w.can.cursor > 0 ∨ w.control_roll.cursor > 0 }

/-- A turn reports the record it has received, with the value of `LOGGING_REQUESTED`. -/
def received : SdEvent → List (RawCanRecord × Bool)
  | .record record logging_requested => [(record, logging_requested)]
  | .tick | .signal => []

def machine : Machine SdWriter SdTurn (RawCanRecord × Bool) where
  start w := w = new
  step w t := some (w.turn t, received t.event)

end SdWriter

end Comboard
