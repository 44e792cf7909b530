import Mathlib.Data.Vector.Basic

/-!
# `gnss/settings.rs`: the acknowledgements of the receiver

The UART is a list of reads. `AckParser` keeps `length` in range of its buffer.
-/

namespace Comboard

def GLL_DELETE : List UInt8 :=
  [0xB5, 0x62, 0x06, 0x01, 0x08, 0x00, 0xF0, 0x01, 0x00, 0x00, 0x00, 0x00, 0x00, 0x00, 0x00, 0x2A]

def GSA_DELETE : List UInt8 :=
  [0xB5, 0x62, 0x06, 0x01, 0x08, 0x00, 0xF0, 0x02, 0x00, 0x00, 0x00, 0x00, 0x00, 0x00, 0x01, 0x31]

def GSV_DELETE : List UInt8 :=
  [0xB5, 0x62, 0x06, 0x01, 0x08, 0x00, 0xF0, 0x03, 0x00, 0x00, 0x00, 0x00, 0x00, 0x00, 0x02, 0x38]

def VTG_DELETE : List UInt8 :=
  [0xB5, 0x62, 0x06, 0x01, 0x08, 0x00, 0xF0, 0x05, 0x00, 0x00, 0x00, 0x00, 0x00, 0x00, 0x04, 0x46]

def MEAS_RATE : List UInt8 :=
  [0xB5, 0x62, 0x06, 0x08, 0x06, 0x00, 0x64, 0x00, 0x01, 0x00, 0x01, 0x00, 0x7A, 0x12]

def QZSS_L1S_ENABLE : List UInt8 :=
  [0xB5, 0x62, 0x06, 0x8A, 0x09, 0x00, 0x00, 0x01, 0x00, 0x00, 0x14, 0x00, 0x31, 0x10, 0x01, 0xF0,
    0x49]

def GST_ENABLE_UART1 : List UInt8 :=
  [0xB5, 0x62, 0x06, 0x01, 0x08, 0x00, 0xF0, 0x07, 0x00, 0x01, 0x00, 0x00, 0x00, 0x00, 0x07, 0x59]

def DYNAMIC_MODEL_AIRBORNE_4G : List UInt8 :=
  [0xB5, 0x62, 0x06, 0x24, 0x24, 0x00, 0xFF, 0xFF, 0x08, 0x03, 0x00, 0x00, 0x00, 0x00, 0x10, 0x27,
    0x00, 0x00, 0x0A, 0x00, 0xFA, 0x00, 0xFA, 0x00, 0x64, 0x00, 0x5E, 0x01, 0x00, 0x3C, 0x00, 0x00,
    0x00, 0x00, 0x00, 0x00, 0x00, 0x00, 0x00, 0x00, 0x00, 0x00, 0x8B, 0xC4]

def UART_BAUD : List UInt8 :=
  [0xB5, 0x62, 0x06, 0x00, 0x14, 0x00, 0x01, 0x00, 0x00, 0x00, 0xD0, 0x08, 0x00, 0x00, 0x00, 0xC2,
    0x01, 0x00, 0x03, 0x00, 0x03, 0x00, 0x00, 0x00, 0x00, 0x00, 0xBC, 0x5E]

def INIT_COMMANDS : List (List UInt8) :=
  [GLL_DELETE, GSA_DELETE, GSV_DELETE, VTG_DELETE, MEAS_RATE, QZSS_L1S_ENABLE,
    DYNAMIC_MODEL_AIRBORNE_4G, GST_ENABLE_UART1, UART_BAUD]

inductive AckOutcome where
  | Ack | Nak
  deriving DecidableEq

structure AckParser where
  bytes : Vector UInt8 10
  length : Nat
  inside : length < 10

namespace AckParser

def new : AckParser where
  bytes := Vector.replicate 10 0
  length := 0
  inside := by decide

/-- The loop over the values: `checksum_a` and `checksum_b`. -/
def checksum (values : List UInt8) : UInt8 × UInt8 :=
  values.foldl (fun (checksum_a, checksum_b) value =>
    (checksum_a + value, checksum_b + (checksum_a + value))) (0, 0)

/-- What the full buffer says. -/
def outcome (bytes : Vector UInt8 10) (expected_class expected_id : UInt8) : Option AckOutcome :=
  let (checksum_a, checksum_b) := checksum ((bytes.toList.take 8).drop 2)
  if bytes[2] ≠ 0x05 ∨ ¬ (bytes[3] = 0x00 ∨ bytes[3] = 0x01) ∨ (bytes[4], bytes[5]) ≠ (0x02, 0x00) ∨
      bytes[6] ≠ expected_class ∨ bytes[7] ≠ expected_id ∨ bytes[8] ≠ checksum_a ∨
        bytes[9] ≠ checksum_b then none
  else some (if bytes[3] = 0x01 then .Ack else .Nak)

def push (p : AckParser) (byte expected_class expected_id : UInt8) : AckParser × Option AckOutcome :=
  if p.length = 0 ∧ byte ≠ 0xb5 then (p, none)
  else if p.length = 1 ∧ byte ≠ 0x62 then
    ({ bytes := p.bytes.set 0 byte
       length := if byte = 0xb5 then 1 else 0
       inside := by split <;> decide }, none)
  else
    let bytes := p.bytes.set p.length byte p.inside
    if h : p.length + 1 < 10 then ({ bytes, length := p.length + 1, inside := h }, none)
    else ({ bytes, length := 0, inside := by decide }, outcome bytes expected_class expected_id)

/-- The loop over the bytes of one read. -/
def push_read (p : AckParser) (expected_class expected_id : UInt8) :
    List UInt8 → AckParser × Option AckOutcome
  | [] => (p, none)
  | byte :: bytes =>
    match p.push byte expected_class expected_id with
    | (p, some outcome) => (p, some outcome)
    | (p, none) => p.push_read expected_class expected_id bytes

/-- Read after read; `none` while it still waits. -/
def wait (p : AckParser) (expected_class expected_id : UInt8) : List (List UInt8) → Option AckOutcome
  | [] => none
  | bytes :: reads =>
    match p.push_read expected_class expected_id bytes with
    | (_, some outcome) => some outcome
    | (p, none) => p.wait expected_class expected_id reads

end AckParser

def wait_for_ack (expected_class expected_id : UInt8) (reads : List (List UInt8)) :
    Option AckOutcome :=
  AckParser.new.wait expected_class expected_id reads

end Comboard
