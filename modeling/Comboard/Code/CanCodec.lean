import Comboard.Code.Protocol
import Comboard.Lib.Word

/-!
# `can/protocol.rs`: the codec

`encode_payload` gives the eight bytes of `out` and the length that counts.
-/

namespace Comboard

open Lib

def CAN_ID_ACTUATOR_EMERGENCY_STOP : UInt16 := 0x001
def CAN_ID_LIFTOFF_EMERGENCY_STOP : UInt16 := 0x002
def CAN_ID_RECOVERY_CONTROL : UInt16 := 0x008
def CAN_ID_GENERIC_COMMAND_REQUEST : UInt16 := 0x010
def CAN_ID_COMMAND_RESULT : UInt16 := 0x011
def CAN_ID_TIME_REQUEST : UInt16 := 0x012
def CAN_ID_TIME_RESPONSE : UInt16 := 0x013
def CAN_ID_MISSION_EVENT : UInt16 := 0x020
def CAN_ID_KINEMATICS : UInt16 := 0x100
def CAN_ID_CONTROL : UInt16 := 0x101
def CAN_ID_MISSION_STATUS : UInt16 := 0x102
def CAN_ID_POWER_TIME : UInt16 := 0x103
def CAN_ID_DESCENT_CORE : UInt16 := 0x104
def CAN_ID_RECOVERY_STATUS : UInt16 := 0x105
def CAN_ID_RECOVERY_LOG_DATA : UInt16 := 0x106
def CAN_ID_ATTITUDE_TILT : UInt16 := 0x107
def CAN_ID_LPS : UInt16 := 0x108
def CAN_ID_AIRSPEED : UInt16 := 0x109
def CAN_ID_CONTROL_ROLL_V2 : UInt16 := 0x10a

/-! ## Enumerations -/

def MissionState.decode : UInt8 → Option MissionState
  | 0 => some .CommandReceive
  | 1 => some .LiftoffDetection
  | 2 => some .EngineBurn
  | 3 => some .Control
  | 4 => some .Descent
  | 0xff => some .Unknown
  | _ => none

def CommandPhase.decode : UInt8 → Option CommandPhase
  | 0 => some .Accepted
  | 1 => some .Completed
  | 2 => some .Rejected
  | 3 => some .Failed
  | _ => none

def CommandReason.decode : UInt8 → Option CommandReason
  | 0 => some .None
  | 1 => some .Busy
  | 2 => some .InvalidState
  | 3 => some .InvalidArgument
  | 4 => some .NotConfigured
  | 5 => some .DeviceUnavailable
  | 6 => some .Timeout
  | 7 => some .Stall
  | 8 => some .ProtocolError
  | 9 => some .InterruptedByEmergency
  | 10 => some .PersistenceError
  | 11 => some .InternalError
  | 12 => some .NotSupported
  | 13 => some .SafetyInterlock
  | 14 => some .AlreadySatisfied
  | _ => none

def FinMode.decode : UInt8 → Option FinMode
  | 0 => some .Free
  | 1 => some .Brake
  | 2 => some .PositionHold
  | 3 => some .ZeroHold
  | 4 => some .RelativeMove
  | 5 => some .RollControl
  | 15 => some .Unknown
  | _ => none

def ParaMode.decode : UInt8 → Option ParaMode
  | 0 => some .Free
  | 1 => some .Hold
  | 2 => some .RelativeMove
  | 3 => some .OpeningOrRetrying
  | 4 => some .Closing
  | 5 => some .PoweredOff
  | 15 => some .Unknown
  | _ => none

def TimeSource.raw : TimeSource → UInt8
  | .Invalid => 0
  | .Gnss => 1
  | .Ground => 2

def RecoveryOpcode.raw : RecoveryOpcode → UInt8
  | .Wake => 1
  | .StartLogDump => 2
  | .StopLogDump => 3
  | .ExitRecovery => 4

def RecoveryOpcode.decode : UInt8 → Option RecoveryOpcode
  | 1 => some .Wake
  | 2 => some .StartLogDump
  | 3 => some .StopLogDump
  | 4 => some .ExitRecovery
  | _ => none

def RecoverySource.raw : RecoverySource → UInt8
  | .InternalFlash => 0
  | .MissionSdLatestFlight => 1

def RecoverySource.decode : UInt8 → Option RecoverySource
  | 0 => some .InternalFlash
  | 1 => some .MissionSdLatestFlight
  | _ => none

def RecoveryStatusCode.raw : RecoveryStatusCode → UInt8
  | .Ready => 0
  | .Dumping => 1
  | .Complete => 2
  | .Busy => 3
  | .InvalidState => 4
  | .InvalidArgument => 5
  | .SourceUnavailable => 6
  | .IoError => 7
  | .Aborted => 8
  | .InternalError => 9

def RecoveryStatusCode.decode : UInt8 → Option RecoveryStatusCode
  | 0 => some .Ready
  | 1 => some .Dumping
  | 2 => some .Complete
  | 3 => some .Busy
  | 4 => some .InvalidState
  | 5 => some .InvalidArgument
  | 6 => some .SourceUnavailable
  | 7 => some .IoError
  | 8 => some .Aborted
  | 9 => some .InternalError
  | _ => none

/-! ## To the Mission board -/

inductive CanEncodeError where
  | ReservedTransactionId | OutOfRange
  deriving DecidableEq

namespace CanTxMessage

def id : CanTxMessage → UInt16
  | .ActuatorEmergencyStop _ => CAN_ID_ACTUATOR_EMERGENCY_STOP
  | .LiftoffEmergencyStop _ => CAN_ID_LIFTOFF_EMERGENCY_STOP
  | .RecoveryControl _ => CAN_ID_RECOVERY_CONTROL
  | .GenericCommandRequest _ => CAN_ID_GENERIC_COMMAND_REQUEST
  | .TimeResponse _ _ _ _ => CAN_ID_TIME_RESPONSE

def dlc : CanTxMessage → Nat
  | .ActuatorEmergencyStop _ | .LiftoffEmergencyStop _ => 1
  | .RecoveryControl _ | .GenericCommandRequest _ | .TimeResponse _ _ _ _ => 8

def encode_payload (self : CanTxMessage) : Except CanEncodeError (Vector UInt8 8 × Nat) :=
  match self with
  | .ActuatorEmergencyStop transaction_id | .LiftoffEmergencyStop transaction_id =>
    if transaction_id = 0 then .error .ReservedTransactionId
    else .ok (#v[transaction_id, 0, 0, 0, 0, 0, 0, 0], self.dlc)
  | .RecoveryControl control =>
    if control.offset > 0x00ffffff ∨ control.length > 0x00ffffff then .error .OutOfRange
    else
      let offset := u32_to_le_bytes control.offset
      let length := u32_to_le_bytes control.length
      .ok (#v[control.opcode.raw ||| control.source.raw <<< 4, control.transfer_id, offset[0],
        offset[1], offset[2], length[0], length[1], length[2]], self.dlc)
  | .GenericCommandRequest request =>
    if request.transaction_id = 0 then .error .ReservedTransactionId
    else
      .ok (#v[request.transaction_id, request.command] ++ request.args, self.dlc)
  | .TimeResponse request_id source unix_seconds milliseconds =>
    if milliseconds > 999 then .error .OutOfRange
    else
      let seconds := u32_to_le_bytes unix_seconds
      let milliseconds := u16_to_le_bytes milliseconds
      .ok (#v[request_id, source.raw, seconds[0], seconds[1], seconds[2], seconds[3],
        milliseconds[0], milliseconds[1]], self.dlc)

/-- `create_frame_from_message` of `can/tx.rs`: the identifier and `&payload[..len]`. -/
def create_frame (self : CanTxMessage) : Except CanEncodeError (UInt16 × List UInt8) :=
  self.encode_payload.map fun (payload, len) => (self.id, payload.toList.take len)

end CanTxMessage

/-! ## From the Mission board -/

inductive CanDecodeError where
  | UnknownId (id : UInt16)
  | InvalidDlc (id : UInt16) (expected actual : Nat)
  | InvalidField (id : UInt16) (index : Nat) (value : UInt8)
  deriving DecidableEq

/-- What ends `decode_standard` early: an error, or the panic of an index out of range. -/
inductive DecodeFault where
  | error (error : CanDecodeError)
  | index_out_of_range
  deriving DecidableEq

namespace CanRxMessage

abbrev Decoding := Except DecodeFault

section Fields

variable (id : UInt16) (data : List UInt8)

/-- `data[index]` -/
def byte (index : Nat) : Decoding UInt8 :=
  match data[index]? with
  | some value => .ok value
  | none => .error .index_out_of_range

/-- `get_u16(&data[index..index + 2])` -/
def get_u16 (index : Nat) : Decoding UInt16 := do
  return u16_from_le_bytes (← byte data index) (← byte data (index + 1))

/-- `u32::from_le_bytes` of the four bytes from `index`. -/
def get_u32 (index : Nat) : Decoding UInt32 := do
  return u32_from_le_bytes (← byte data index) (← byte data (index + 1)) (← byte data (index + 2))
    (← byte data (index + 3))

def require_dlc (expected : Nat) : Decoding Unit :=
  if data.length = expected then .ok ()
  else .error (.error (.InvalidDlc id expected data.length))

def require_received_transaction_id (index : Nat) (transaction_id : UInt8) : Decoding Unit :=
  if transaction_id = 0 then .error (.error (.InvalidField id index transaction_id)) else .ok ()

def decode_field {α : Type} (index : Nat) (raw : UInt8) (decode : UInt8 → Option α) : Decoding α :=
  match decode raw with
  | some value => .ok value
  | none => .error (.error (.InvalidField id index raw))

def require_reserved_zero (index : Nat) (value reserved_mask : UInt8) : Decoding Unit :=
  if value &&& reserved_mask = 0 then .ok () else .error (.error (.InvalidField id index value))

end Fields

section Layouts

variable (id : UInt16) (data : List UInt8)

def decode_command_result : Decoding CanRxMessage := do
  require_dlc id data 8
  require_received_transaction_id id 0 (← byte data 0)
  let phase ← decode_field id 2 (← byte data 2) CommandPhase.decode
  let reason ← decode_field id 3 (← byte data 3) CommandReason.decode
  return .CommandResult {
    transaction_id := ← byte data 0
    command := ← byte data 1
    phase
    reason
    detail := ← get_u32 data 4 }

/-! The other layouts are arms of `decode_standard`. -/

def decode_time_request : Decoding CanRxMessage := do
  require_dlc id data 1
  require_received_transaction_id id 0 (← byte data 0)
  return .TimeRequest (← byte data 0)

def decode_mission_event : Decoding CanRxMessage := do
  require_dlc id data 8
  let state ← decode_field id 3 (← byte data 3) MissionState.decode
  return .MissionEvent {
    sequence := ← byte data 0
    flags := ← get_u16 data 1
    state
    elapsed := ← get_u16 data 4
    detail := ← get_u16 data 6 }

def decode_kinematics : Decoding CanRxMessage := do
  require_dlc id data 8
  return .Kinematics {
    sequence := ← byte data 0
    roll := ← get_u16 data 1
    roll_rate := ← get_u16 data 3
    fin_angle := ← byte data 5
    fin_rate := ← get_u16 data 6 }

def decode_control : Decoding CanRxMessage := do
  require_dlc id data 4
  require_reserved_zero id 2 (← byte data 2) 0xf0
  return .Control {
    sequence := ← byte data 0
    requested_torque := ← get_u16 data 1
    elapsed := ← byte data 3 }

def decode_mission_status : Decoding CanRxMessage := do
  require_dlc id data 8
  let state ← decode_field id 1 (← byte data 1) MissionState.decode
  if state = .Unknown then
    throw (.error (.InvalidField id 1 (← byte data 1)))
  let fin_mode ← decode_field id 5 (← byte data 5) FinMode.decode
  let para_mode ← decode_field id 6 (← byte data 6) ParaMode.decode
  return .MissionStatus {
    sequence := ← byte data 0
    state
    status := ← get_u16 data 2
    config := ← byte data 4
    fin_mode
    para_mode
    para_angle := ← byte data 7 }

def decode_power_time : Decoding CanRxMessage := do
  require_dlc id data 8
  require_reserved_zero id 7 (← byte data 7) 0x70
  return .PowerTime {
    sequence := ← byte data 0
    logic_voltage := ← byte data 1
    motor_voltage := ← byte data 2
    descent_elapsed := ← get_u16 data 3
    recovery_elapsed := ← get_u16 data 5
    flags := ← byte data 7 }

def decode_descent_core : Decoding CanRxMessage := do
  require_dlc id data 4
  require_reserved_zero id 1 (← byte data 1) 0xe0
  require_reserved_zero id 2 (← byte data 2) 0xff
  return .DescentCore {
    sequence := ← byte data 0
    status := ← get_u16 data 1
    para_angle := ← byte data 3 }

def decode_recovery_status : Decoding CanRxMessage := do
  require_dlc id data 8
  let opcode ← decode_field id 0 (← byte data 0) RecoveryOpcode.decode
  let status ← decode_field id 2 (← byte data 2) RecoveryStatusCode.decode
  let source ← decode_field id 3 (← byte data 3) RecoverySource.decode
  return .RecoveryStatus {
    opcode
    transfer_id := ← byte data 1
    status
    source
    total_size := ← get_u32 data 4 }

def decode_recovery_log_data : Decoding CanRxMessage := do
  require_dlc id data 8
  return .RecoveryLogData {
    transfer_id := ← byte data 0
    sequence := ← byte data 1
    data := #v[← byte data 2, ← byte data 3, ← byte data 4, ← byte data 5, ← byte data 6,
      ← byte data 7] }

def decode_attitude_tilt : Decoding CanRxMessage := do
  require_dlc id data 3
  let packed ← get_u16 data 1
  return .AttitudeTilt {
    sequence := ← byte data 0
    magnitude := (packed &&& 0x7f).toUInt8
    direction := packed >>> 7 }

def decode_lps : Decoding CanRxMessage := do
  require_dlc id data 4
  require_reserved_zero id 2 (← byte data 2) 0xf8
  return .Lps {
    sequence := ← byte data 0
    pressure := ← get_u16 data 1
    temperature := ← byte data 3 }

def decode_airspeed : Decoding CanRxMessage := do
  require_dlc id data 2
  return .Airspeed { sequence := ← byte data 0, airspeed := ← byte data 1 }

def decode_control_roll_v2 : Decoding CanRxMessage := do
  require_dlc id data 8
  if (← byte data 1) ≠ CONTROL_ROLL_SCHEMA_VERSION then
    throw (.error (.InvalidField id 1 (← byte data 1)))
  require_reserved_zero id 6 (← byte data 6) 0xe0
  let reference_raw ← get_u16 data 2
  let deviation_raw ← get_u16 data 4
  let reference_out_of_range : Bool :=
    (← byte data 6) &&& ControlRollTelemetryV2.REFERENCE_OUT_OF_RANGE ≠ 0
  let deviation_out_of_range : Bool :=
    (← byte data 6) &&& ControlRollTelemetryV2.DEVIATION_OUT_OF_RANGE ≠ 0
  if (reference_raw = CONTROL_ROLL_OUT_OF_RANGE_RAW : Bool) ≠ reference_out_of_range ∨
      (deviation_raw = CONTROL_ROLL_OUT_OF_RANGE_RAW : Bool) ≠ deviation_out_of_range then
    throw (.error (.InvalidField id 6 (← byte data 6)))
  return .ControlRollV2 {
    sequence := ← byte data 0
    control_roll_reference_unwrapped_raw := reference_raw
    roll_deviation_unwrapped_raw := deviation_raw
    flags := ← byte data 6
    reference_capture_event_sequence := ← byte data 7 }

def decode_standard : Decoding CanRxMessage :=
  if id = CAN_ID_COMMAND_RESULT then decode_command_result id data
  else if id = CAN_ID_TIME_REQUEST then decode_time_request id data
  else if id = CAN_ID_MISSION_EVENT then decode_mission_event id data
  else if id = CAN_ID_KINEMATICS then decode_kinematics id data
  else if id = CAN_ID_CONTROL then decode_control id data
  else if id = CAN_ID_MISSION_STATUS then decode_mission_status id data
  else if id = CAN_ID_POWER_TIME then decode_power_time id data
  else if id = CAN_ID_DESCENT_CORE then decode_descent_core id data
  else if id = CAN_ID_RECOVERY_STATUS then decode_recovery_status id data
  else if id = CAN_ID_RECOVERY_LOG_DATA then decode_recovery_log_data id data
  else if id = CAN_ID_ATTITUDE_TILT then decode_attitude_tilt id data
  else if id = CAN_ID_LPS then decode_lps id data
  else if id = CAN_ID_AIRSPEED then decode_airspeed id data
  else if id = CAN_ID_CONTROL_ROLL_V2 then decode_control_roll_v2 id data
  else .error (.error (.UnknownId id))

end Layouts

end CanRxMessage

end Comboard
