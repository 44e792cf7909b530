import Comboard.Code.Protocol
import Comboard.Lib.Word

/-! # `payload.rs`: the LoRa downlink frames -/

namespace Comboard

open Lib

def LORA_PREFIX : Vector UInt8 3 := #v[0x00, 0x00, 0x04]
abbrev MAX_APPLICATION_LENGTH : Nat := 24
abbrev MAX_LORA_FRAME_LENGTH : Nat := 3 + MAX_APPLICATION_LENGTH

inductive PacketHeader where
  | CommandReceive | LiftoffDetection | EngineBurn | Control | Descent | RecoveryBeacon
  | RecoveryLogData | ControlRollTelemetryV2 | MissionLinkFallbackTelemetry | CommandResult
  | GroundTimeRequest
  deriving DecidableEq

def PacketHeader.raw : PacketHeader → UInt8
  | .CommandReceive => 0xa0
  | .LiftoffDetection => 0xa1
  | .EngineBurn => 0xa2
  | .Control => 0xa3
  | .Descent => 0xa4
  | .RecoveryBeacon => 0xa5
  | .RecoveryLogData => 0xa6
  | .ControlRollTelemetryV2 => 0xa7
  | .MissionLinkFallbackTelemetry => 0xa8
  | .CommandResult => 0xb0
  | .GroundTimeRequest => 0xb1

/-! ## Packets -/

structure FlightTelemetry where
  header : PacketHeader
  status : UInt16
  roll : UInt16
  roll_rate : UInt16
  tilt_magnitude : UInt8
  tilt_direction : UInt16
  fin_angle : UInt8
  fin_rate : UInt16
  pressure : UInt16
  temperature : UInt8
  airspeed : UInt8
  requested_torque : UInt16
  elapsed : UInt8
  east : UInt16
  north : UInt16
  height : UInt16
  deriving DecidableEq

structure CommandReceiveTelemetry where
  status : UInt32
  motor_profile : UInt8
  tilt_magnitude : UInt8
  tilt_direction : UInt16
  fin_mode : UInt8
  para_mode : UInt8
  fin_angle : UInt8
  para_angle : UInt8
  pressure : UInt16
  temperature : UInt8
  airspeed : UInt8
  logic_voltage : UInt8
  motor_voltage : UInt8
  east : UInt16
  north : UInt16
  height : UInt16
  display_roll : UInt16
  deriving DecidableEq

structure DescentTelemetry where
  status : UInt16
  pressure : UInt16
  temperature : UInt8
  para_angle : UInt8
  elapsed : UInt16
  east : UInt16
  north : UInt16
  height : UInt16
  deriving DecidableEq

structure RecoveryBeacon where
  logic_voltage : UInt8
  motor_voltage : UInt8
  east : UInt16
  north : UInt16
  height : UInt16
  elapsed : UInt16
  deriving DecidableEq

structure MissionLinkFallbackTelemetry where
  sequence : UInt8
  primary_loss_reason : UInt8
  status_flags : UInt16
  last_valid_mission_state : UInt8
  gnss_state : UInt8
  mission_status_age : UInt16
  any_mission_periodic_age : UInt16
  power_time_age : UInt16
  east : UInt16
  north : UInt16
  height : UInt16
  logic_voltage : UInt8
  motor_voltage : UInt8
  can_health : UInt8
  deriving DecidableEq

structure RecoveryLogPacket where
  transfer_id : UInt8
  source : Bool
  end_of_file : Bool
  offset : UInt32
  data_length : UInt8
  data : Vector UInt8 16
  deriving DecidableEq

structure CommandResultPacket where
  transaction_id : UInt8
  command : UInt8
  phase : CommandPhase
  reason : CommandReason
  detail : UInt32
  deriving DecidableEq

structure ControlRollTelemetryV2Packet where
  control_roll_reference_unwrapped_raw : UInt16
  roll_deviation_unwrapped_raw : UInt16
  flags : UInt8
  reference_capture_event_sequence : UInt8
  deriving DecidableEq

inductive ApplicationPacket where
  | CommandReceive (value : CommandReceiveTelemetry)
  | Flight (value : FlightTelemetry)
  | Descent (value : DescentTelemetry)
  | RecoveryBeacon (value : Comboard.RecoveryBeacon)
  | MissionLinkFallbackTelemetry (value : Comboard.MissionLinkFallbackTelemetry)
  | RecoveryLogData (value : RecoveryLogPacket)
  | CommandResult (value : CommandResultPacket)
  | GroundTimeRequest (request_id : UInt8)
  | ControlRollTelemetryV2 (value : ControlRollTelemetryV2Packet)
  deriving DecidableEq

structure LoraFrame where
  bytes : Vector UInt8 MAX_LORA_FRAME_LENGTH
  length : Nat
  deriving DecidableEq

def LoraFrame.as_bytes (self : LoraFrame) : List UInt8 := self.bytes.toList.take self.length

inductive EncodeError where
  | InvalidHeader | InvalidField | OutOfRange | ReservedTransactionId
  deriving DecidableEq

/-! ## The bit writer -/

structure BitWriter (n : Nat) where
  bytes : Vector UInt8 n
  bit_offset : Nat

namespace BitWriter

variable {n : Nat}

def new : BitWriter n where
  bytes := Vector.replicate n 0
  bit_offset := 0

/-- `self.bytes[destination / 8] |= 1 << (destination % 8)` -/
def set_bit (bytes : Vector UInt8 n) (destination : Nat) : Vector UInt8 n :=
  bytes.setIfInBounds (destination / 8)
    (bytes.getD (destination / 8) 0 ||| (1 : UInt8) <<< .ofNat (destination % 8))

def write (self : BitWriter n) (value : UInt32) (bit_count : Nat) :
    Except EncodeError (BitWriter n) :=
  if bit_count > 32 ∨ self.bit_offset + bit_count > n * 8 ∨
      (bit_count < 32 ∧ value.toNat ≥ 1 <<< bit_count) then .error .OutOfRange
  else
    .ok { bytes := (List.range bit_count).foldl (fun bytes bit =>
            if value.toNat.testBit bit then set_bit bytes (self.bit_offset + bit) else bytes)
            self.bytes
          bit_offset := self.bit_offset + bit_count }

/-- A chain of `write(..)?`. -/
def writes (self : BitWriter n) (fields : List (UInt32 × Nat)) : Except EncodeError (BitWriter n) :=
  fields.foldlM (fun writer (value, bit_count) => writer.write value bit_count) self

def byte_length (self : BitWriter n) : Nat := (self.bit_offset + 7) / 8

end BitWriter

/-! ## The layouts -/

section Layouts

variable {n : Nat} (writer : BitWriter n)

def encode_command_receive (value : CommandReceiveTelemetry) : Except EncodeError (BitWriter n) :=
  writer.writes [
    (PacketHeader.CommandReceive.raw.toUInt32, 8),
    (value.status, 24),
    (value.motor_profile.toUInt32, 8),
    (value.tilt_magnitude.toUInt32, 7),
    (value.tilt_direction.toUInt32, 9),
    (value.fin_mode.toUInt32, 4),
    (value.para_mode.toUInt32, 4),
    (value.fin_angle.toUInt32, 8),
    (value.para_angle.toUInt32, 8),
    (value.pressure.toUInt32, 11),
    (value.temperature.toUInt32, 8),
    (value.airspeed.toUInt32, 8),
    (value.logic_voltage.toUInt32, 8),
    (value.motor_voltage.toUInt32, 8),
    (value.east.toUInt32, 16),
    (value.north.toUInt32, 16),
    (value.height.toUInt32, 9),
    (value.display_roll.toUInt32, 16),
    (0, 4)]

def encode_flight (value : FlightTelemetry) : Except EncodeError (BitWriter n) :=
  if value.header ≠ .LiftoffDetection ∧ value.header ≠ .EngineBurn ∧ value.header ≠ .Control then
    .error .InvalidHeader
  else
    writer.writes [
      (value.header.raw.toUInt32, 8),
      (value.status.toUInt32, 16),
      (value.roll.toUInt32, 16),
      (value.roll_rate.toUInt32, 16),
      (value.tilt_magnitude.toUInt32, 7),
      (value.tilt_direction.toUInt32, 9),
      (value.fin_angle.toUInt32, 8),
      (value.fin_rate.toUInt32, 16),
      (value.pressure.toUInt32, 11),
      (value.temperature.toUInt32, 8),
      (value.airspeed.toUInt32, 8),
      (value.requested_torque.toUInt32, 12),
      (value.elapsed.toUInt32, 8),
      (value.east.toUInt32, 16),
      (value.north.toUInt32, 16),
      (value.height.toUInt32, 9)]

def encode_descent (value : DescentTelemetry) : Except EncodeError (BitWriter n) :=
  writer.writes [
    (PacketHeader.Descent.raw.toUInt32, 8),
    (value.status.toUInt32, 13),
    (value.pressure.toUInt32, 11),
    (value.temperature.toUInt32, 8),
    (value.para_angle.toUInt32, 8),
    (value.elapsed.toUInt32, 16),
    (value.east.toUInt32, 16),
    (value.north.toUInt32, 16),
    (value.height.toUInt32, 9),
    (0, 7)]

def encode_recovery_beacon (value : RecoveryBeacon) : Except EncodeError (BitWriter n) :=
  writer.writes [
    (PacketHeader.RecoveryBeacon.raw.toUInt32, 8),
    (value.logic_voltage.toUInt32, 8),
    (value.motor_voltage.toUInt32, 8),
    (value.east.toUInt32, 16),
    (value.north.toUInt32, 16),
    (value.height.toUInt32, 9),
    (value.elapsed.toUInt32, 16),
    (0, 7)]

def encode_mission_link_fallback (value : MissionLinkFallbackTelemetry) :
    Except EncodeError (BitWriter n) :=
  if value.primary_loss_reason > 7 ∨ value.status_flags &&& 0x8000 ≠ 0 ∨
      (value.last_valid_mission_state > 4 ∧ value.last_valid_mission_state ≠ 0xff) ∨
      value.gnss_state > 8 ∨ value.height > 0x01ff ∨ value.can_health > 6 then
    .error .InvalidField
  else
    writer.writes [
      (PacketHeader.MissionLinkFallbackTelemetry.raw.toUInt32, 8),
      (1, 8),
      (value.sequence.toUInt32, 8),
      (value.primary_loss_reason.toUInt32, 8),
      (value.status_flags.toUInt32, 16),
      (value.last_valid_mission_state.toUInt32, 8),
      (value.gnss_state.toUInt32, 8),
      (value.mission_status_age.toUInt32, 16),
      (value.any_mission_periodic_age.toUInt32, 16),
      (value.power_time_age.toUInt32, 16),
      (value.east.toUInt32, 16),
      (value.north.toUInt32, 16),
      (value.height.toUInt32, 16),
      (value.logic_voltage.toUInt32, 8),
      (value.motor_voltage.toUInt32, 8),
      (value.can_health.toUInt32, 8)]

def encode_recovery_log (value : RecoveryLogPacket) : Except EncodeError (BitWriter n) :=
  if value.offset > 0x00ffffff ∨ value.data_length > 16 then .error .OutOfRange
  else
    let metadata := value.source.toUInt8 ||| value.end_of_file.toUInt8 <<< 1
    writer.writes ([
      (PacketHeader.RecoveryLogData.raw.toUInt32, 8),
      (value.transfer_id.toUInt32, 8),
      (metadata.toUInt32, 8),
      (value.offset, 24),
      (value.data_length.toUInt32, 8)] ++ value.data.toList.map fun byte => (byte.toUInt32, 8))

def encode_command_result (value : CommandResultPacket) : Except EncodeError (BitWriter n) :=
  if value.transaction_id = 0 then .error .ReservedTransactionId
  else
    writer.writes [
      (PacketHeader.CommandResult.raw.toUInt32, 8),
      (value.transaction_id.toUInt32, 8),
      (value.command.toUInt32, 8),
      (value.phase.raw.toUInt32, 8),
      (value.reason.raw.toUInt32, 8),
      (value.detail, 32)]

/-- The arm of `encode` itself. -/
def encode_ground_time_request (request_id : UInt8) : Except EncodeError (BitWriter n) :=
  writer.writes [(PacketHeader.GroundTimeRequest.raw.toUInt32, 8), (request_id.toUInt32, 8)]

/-- The arm of `encode` itself. -/
def encode_control_roll (value : ControlRollTelemetryV2Packet) : Except EncodeError (BitWriter n) :=
  let reference_out_of_range : Bool :=
    value.flags &&& ControlRollTelemetryV2.REFERENCE_OUT_OF_RANGE ≠ 0
  let deviation_out_of_range : Bool :=
    value.flags &&& ControlRollTelemetryV2.DEVIATION_OUT_OF_RANGE ≠ 0
  if value.flags &&& 0xe0 ≠ 0 ∨
      (value.control_roll_reference_unwrapped_raw = CONTROL_ROLL_OUT_OF_RANGE_RAW : Bool) ≠
        reference_out_of_range ∨
      (value.roll_deviation_unwrapped_raw = CONTROL_ROLL_OUT_OF_RANGE_RAW : Bool) ≠
        deviation_out_of_range then .error .InvalidField
  else
    writer.writes [
      (PacketHeader.ControlRollTelemetryV2.raw.toUInt32, 8),
      (CONTROL_ROLL_SCHEMA_VERSION.toUInt32, 8),
      (value.control_roll_reference_unwrapped_raw.toUInt32, 16),
      (value.roll_deviation_unwrapped_raw.toUInt32, 16),
      (value.flags.toUInt32, 8),
      (value.reference_capture_event_sequence.toUInt32, 8)]

end Layouts

namespace ApplicationPacket

def write (writer : BitWriter MAX_APPLICATION_LENGTH) :
    ApplicationPacket → Except EncodeError (BitWriter MAX_APPLICATION_LENGTH)
  | .CommandReceive value => encode_command_receive writer value
  | .Flight value => encode_flight writer value
  | .Descent value => encode_descent writer value
  | .RecoveryBeacon value => encode_recovery_beacon writer value
  | .MissionLinkFallbackTelemetry value => encode_mission_link_fallback writer value
  | .RecoveryLogData value => encode_recovery_log writer value
  | .CommandResult value => encode_command_result writer value
  | .GroundTimeRequest request_id => encode_ground_time_request writer request_id
  | .ControlRollTelemetryV2 value => encode_control_roll writer value

def encode (self : ApplicationPacket) : Except EncodeError LoraFrame :=
  match self.write BitWriter.new with
  | .error error => .error error
  | .ok writer =>
    let application_without_checksum := writer.byte_length
    let checksum := xor_checksum (writer.bytes.toList.take application_without_checksum)
    .ok { bytes := LORA_PREFIX ++ writer.bytes.setIfInBounds application_without_checksum checksum
          length := 3 + application_without_checksum + 1 }

end ApplicationPacket

end Comboard
