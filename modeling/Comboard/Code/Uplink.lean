import Comboard.Code.Protocol
import Comboard.Lib.Word

/-! # `lora_uplink.rs`: the uplink frames -/

namespace Comboard

open Lib

abbrev UPLINK_FRAME_LENGTH : Nat := 11

instance : NeZero UPLINK_FRAME_LENGTH := ⟨by decide⟩
def UPLINK_HEADER : UInt8 := 0x55
def PARA_FREE : UInt8 := 0x20
def PARA_HOLD : UInt8 := 0x21
def PARA_MOVE_RELATIVE : UInt8 := 0x22
def SET_PARA_OPEN : UInt8 := 0x23
def SET_PARA_CLOSE : UInt8 := 0x24

inductive UplinkKind where
  | MissionGeneric | ActuatorEmergency | LiftoffDetectionEmergency | ComBoardLocal
  | GroundTimeResponse
  deriving DecidableEq

def UplinkKind.decode : UInt8 → Option UplinkKind
  | 0 => some .MissionGeneric
  | 1 => some .ActuatorEmergency
  | 2 => some .LiftoffDetectionEmergency
  | 3 => some .ComBoardLocal
  | 4 => some .GroundTimeResponse
  | _ => none

inductive UplinkCommand where
  | MissionGeneric (request : GenericCommandRequest)
  | ActuatorEmergency (transaction_id : UInt8)
  | LiftoffDetectionEmergency (transaction_id : UInt8)
  | ComBoardLocal (transaction_id : UInt8) (command : UInt8) (args : Vector UInt8 6)
  | GroundTimeResponse (request_id : UInt8) (source : TimeSource) (unix_seconds : UInt32)
      (milliseconds : UInt16)
  deriving DecidableEq

inductive UplinkDecodeError where
  | InvalidHeader | InvalidChecksum | InvalidKind | ReservedTransactionId | InvalidField
  deriving DecidableEq

def is_deprecated_parachute_command (command : UInt8) : Bool :=
  command = PARA_FREE ∨ command = PARA_HOLD ∨ command = PARA_MOVE_RELATIVE ∨
    command = SET_PARA_OPEN ∨ command = SET_PARA_CLOSE

def decode_uplink (bytes : Vector UInt8 UPLINK_FRAME_LENGTH) :
    Except UplinkDecodeError UplinkCommand :=
  if bytes[0] ≠ UPLINK_HEADER then .error .InvalidHeader
  else if xor_checksum (bytes.toList.take (UPLINK_FRAME_LENGTH - 1)) ≠ bytes[10] then
    .error .InvalidChecksum
  else
    match UplinkKind.decode bytes[1] with
    | none => .error .InvalidKind
    | some kind =>
      if bytes[2] = 0 then .error .ReservedTransactionId
      else
        let args : Vector UInt8 6 := #v[bytes[4], bytes[5], bytes[6], bytes[7], bytes[8], bytes[9]]
        match kind with
        | .MissionGeneric =>
          if is_deprecated_parachute_command bytes[3] then .error .InvalidField
          else
            .ok (.MissionGeneric { transaction_id := bytes[2], command := bytes[3], args })
        | .ActuatorEmergency | .LiftoffDetectionEmergency =>
          if ((bytes.toList.drop 3).take 7).any (· ≠ 0) then .error .InvalidField
          else if kind = .ActuatorEmergency then .ok (.ActuatorEmergency bytes[2])
          else .ok (.LiftoffDetectionEmergency bytes[2])
        | .ComBoardLocal => .ok (.ComBoardLocal bytes[2] bytes[3] args)
        | .GroundTimeResponse =>
          match TimeSource.decode bytes[3] with
          | none => .error .InvalidField
          | some source =>
            let milliseconds := u16_from_le_bytes bytes[8] bytes[9]
            if milliseconds > 999 then .error .InvalidField
            else
              .ok (.GroundTimeResponse bytes[2] source
                (u32_from_le_bytes bytes[4] bytes[5] bytes[6] bytes[7]) milliseconds)

/-! ## The frame buffer -/

structure UplinkFrameBuffer where
  bytes : Vector UInt8 UPLINK_FRAME_LENGTH
  length : Nat

namespace UplinkFrameBuffer

def new : UplinkFrameBuffer where
  bytes := Vector.replicate UPLINK_FRAME_LENGTH 0
  length := 0

/-- `bytes.copy_within(from.., 0)` -/
def copy_within (bytes : Vector UInt8 UPLINK_FRAME_LENGTH) (start : Nat) :
    Vector UInt8 UPLINK_FRAME_LENGTH :=
  .ofFn fun i => if h : start + i < UPLINK_FRAME_LENGTH then bytes[start + i] else bytes[i]

/-- `none` is the panic of an index out of range. -/
def push (self : UplinkFrameBuffer) (byte : UInt8) :
    Option (UplinkFrameBuffer × Option (Except UplinkDecodeError UplinkCommand)) :=
  if self.length = 0 then
    if byte ≠ UPLINK_HEADER then some (self, none)
    else some ({ bytes := self.bytes.set 0 byte, length := 1 }, none)
  else if h : self.length < UPLINK_FRAME_LENGTH then
    let bytes := self.bytes.set self.length byte
    let length := self.length + 1
    if length ≠ UPLINK_FRAME_LENGTH then some ({ bytes, length }, none)
    else
      let result := decode_uplink bytes
      match result with
      | .ok _ => some ({ bytes, length := 0 }, some result)
      | .error _ =>
        match (bytes.toList.drop 1).findIdx? (· = UPLINK_HEADER) with
        | some next_header =>
          let next_header := next_header + 1
          some ({ bytes := copy_within bytes next_header
                  length := UPLINK_FRAME_LENGTH - next_header }, some result)
        | none => some ({ bytes, length := 0 }, some result)
  else none

def reset (self : UplinkFrameBuffer) : UplinkFrameBuffer := { self with length := 0 }

end UplinkFrameBuffer

end Comboard
