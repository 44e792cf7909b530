import Mathlib.Init

/-!
# `can/protocol.rs`: the messages on the CAN bus

The names are the names of the Rust source. `raw` is the cast `as u8` of a
`repr(u8)` enumeration.
-/

namespace Comboard

def CONTROL_ROLL_SCHEMA_VERSION : UInt8 := 2
def CONTROL_ROLL_OUT_OF_RANGE_RAW : UInt16 := 0x800a
def ACTUATOR_EMERGENCY_RESULT : UInt8 := 0xf0
def LIFTOFF_EMERGENCY_RESULT : UInt8 := 0xf1

/-! ## Enumerations -/

inductive MissionState where
  | CommandReceive | LiftoffDetection | EngineBurn | Control | Descent | Unknown
  deriving DecidableEq

def MissionState.raw : MissionState → UInt8
  | .CommandReceive => 0
  | .LiftoffDetection => 1
  | .EngineBurn => 2
  | .Control => 3
  | .Descent => 4
  | .Unknown => 0xff

inductive CommandPhase where
  | Accepted | Completed | Rejected | Failed
  deriving DecidableEq

def CommandPhase.raw : CommandPhase → UInt8
  | .Accepted => 0
  | .Completed => 1
  | .Rejected => 2
  | .Failed => 3

def CommandPhase.is_final : CommandPhase → Bool
  | .Accepted => false
  | _ => true

inductive CommandReason where
  | None | Busy | InvalidState | InvalidArgument | NotConfigured | DeviceUnavailable | Timeout
  | Stall | ProtocolError | InterruptedByEmergency | PersistenceError | InternalError
  | NotSupported | SafetyInterlock | AlreadySatisfied
  deriving DecidableEq

def CommandReason.raw : CommandReason → UInt8
  | .None => 0
  | .Busy => 1
  | .InvalidState => 2
  | .InvalidArgument => 3
  | .NotConfigured => 4
  | .DeviceUnavailable => 5
  | .Timeout => 6
  | .Stall => 7
  | .ProtocolError => 8
  | .InterruptedByEmergency => 9
  | .PersistenceError => 10
  | .InternalError => 11
  | .NotSupported => 12
  | .SafetyInterlock => 13
  | .AlreadySatisfied => 14

inductive FinMode where
  | Free | Brake | PositionHold | ZeroHold | RelativeMove | RollControl | Unknown
  deriving DecidableEq

def FinMode.raw : FinMode → UInt8
  | .Free => 0
  | .Brake => 1
  | .PositionHold => 2
  | .ZeroHold => 3
  | .RelativeMove => 4
  | .RollControl => 5
  | .Unknown => 15

inductive ParaMode where
  | Free | Hold | RelativeMove | OpeningOrRetrying | Closing | PoweredOff | Unknown
  deriving DecidableEq

def ParaMode.raw : ParaMode → UInt8
  | .Free => 0
  | .Hold => 1
  | .RelativeMove => 2
  | .OpeningOrRetrying => 3
  | .Closing => 4
  | .PoweredOff => 5
  | .Unknown => 15

inductive TimeSource where
  | Invalid | Gnss | Ground
  deriving DecidableEq

def TimeSource.decode : UInt8 → Option TimeSource
  | 0 => some .Invalid
  | 1 => some .Gnss
  | 2 => some .Ground
  | _ => none

inductive RecoveryOpcode where
  | Wake | StartLogDump | StopLogDump | ExitRecovery
  deriving DecidableEq

inductive RecoverySource where
  | InternalFlash | MissionSdLatestFlight
  deriving DecidableEq

inductive RecoveryStatusCode where
  | Ready | Dumping | Complete | Busy | InvalidState | InvalidArgument | SourceUnavailable
  | IoError | Aborted | InternalError
  deriving DecidableEq

/-! ## Messages to the Mission board -/

structure GenericCommandRequest where
  transaction_id : UInt8
  command : UInt8
  args : Vector UInt8 6
  deriving DecidableEq

structure RecoveryControl where
  opcode : RecoveryOpcode
  source : RecoverySource
  transfer_id : UInt8
  offset : UInt32
  length : UInt32
  deriving DecidableEq

inductive CanTxMessage where
  | ActuatorEmergencyStop (transaction_id : UInt8)
  | LiftoffEmergencyStop (transaction_id : UInt8)
  | RecoveryControl (control : Comboard.RecoveryControl)
  | GenericCommandRequest (request : Comboard.GenericCommandRequest)
  | TimeResponse (request_id : UInt8) (source : TimeSource) (unix_seconds : UInt32)
      (milliseconds : UInt16)
  deriving DecidableEq

/-! ## Messages from the Mission board -/

structure CommandResult where
  transaction_id : UInt8
  command : UInt8
  phase : CommandPhase
  reason : CommandReason
  detail : UInt32
  deriving DecidableEq

def is_emergency_result_command (command : UInt8) : Bool :=
  command = ACTUATOR_EMERGENCY_RESULT ∨ command = LIFTOFF_EMERGENCY_RESULT

def prioritize_untracked_emergency_result (matched : Bool) (command : UInt8) : Bool :=
  !matched && is_emergency_result_command command

def emergency_failure_result (message : CanTxMessage) : Option CommandResult :=
  let failed (transaction_id command : UInt8) : CommandResult :=
    { transaction_id, command, phase := .Failed, reason := .Timeout, detail := 0 }
  match message with
  | .ActuatorEmergencyStop transaction_id => some (failed transaction_id ACTUATOR_EMERGENCY_RESULT)
  | .LiftoffEmergencyStop transaction_id => some (failed transaction_id LIFTOFF_EMERGENCY_RESULT)
  | _ => none

structure MissionEvent where
  sequence : UInt8
  flags : UInt16
  state : MissionState
  elapsed : UInt16
  detail : UInt16
  deriving DecidableEq

structure KinematicsTelemetry where
  sequence : UInt8
  roll : UInt16
  roll_rate : UInt16
  fin_angle : UInt8
  fin_rate : UInt16
  deriving DecidableEq

structure ControlTelemetry where
  sequence : UInt8
  requested_torque : UInt16
  elapsed : UInt8
  deriving DecidableEq

structure MissionStatusTelemetry where
  sequence : UInt8
  state : MissionState
  status : UInt16
  config : UInt8
  fin_mode : FinMode
  para_mode : ParaMode
  para_angle : UInt8
  deriving DecidableEq

structure PowerTimeTelemetry where
  sequence : UInt8
  logic_voltage : UInt8
  motor_voltage : UInt8
  descent_elapsed : UInt16
  recovery_elapsed : UInt16
  flags : UInt8
  deriving DecidableEq

structure DescentCoreTelemetry where
  sequence : UInt8
  status : UInt16
  para_angle : UInt8
  deriving DecidableEq

structure RecoveryStatus where
  opcode : RecoveryOpcode
  transfer_id : UInt8
  status : RecoveryStatusCode
  source : RecoverySource
  total_size : UInt32
  deriving DecidableEq

structure RecoveryLogData where
  transfer_id : UInt8
  sequence : UInt8
  data : Vector UInt8 6
  deriving DecidableEq

structure AttitudeTiltTelemetry where
  sequence : UInt8
  magnitude : UInt8
  direction : UInt16
  deriving DecidableEq

structure LpsTelemetry where
  sequence : UInt8
  pressure : UInt16
  temperature : UInt8
  deriving DecidableEq

structure AirspeedTelemetry where
  sequence : UInt8
  airspeed : UInt8
  deriving DecidableEq

structure ControlRollTelemetryV2 where
  sequence : UInt8
  control_roll_reference_unwrapped_raw : UInt16
  roll_deviation_unwrapped_raw : UInt16
  flags : UInt8
  reference_capture_event_sequence : UInt8
  deriving DecidableEq

namespace ControlRollTelemetryV2

def REFERENCE_VALID : UInt8 := (1 : UInt8) <<< 0
def REFERENCE_CAPTURED_SINCE_PREVIOUS_FRAME : UInt8 := (1 : UInt8) <<< 1
def CONTROL_ACTIVE : UInt8 := (1 : UInt8) <<< 2
def REFERENCE_OUT_OF_RANGE : UInt8 := (1 : UInt8) <<< 3
def DEVIATION_OUT_OF_RANGE : UInt8 := (1 : UInt8) <<< 4

end ControlRollTelemetryV2

def control_roll_quality_code (raw : UInt16) : UInt8 :=
  if raw ≥ 0x8000 ∧ raw ≤ 0x800f then (raw &&& 0x000f).toUInt8 + 1 else 0

def ControlRollTelemetryV2.status_signature (self : ControlRollTelemetryV2) : UInt32 :=
  let status_flags := self.flags &&&
    (REFERENCE_VALID ||| CONTROL_ACTIVE ||| REFERENCE_OUT_OF_RANGE ||| DEVIATION_OUT_OF_RANGE)
  status_flags.toUInt32 |||
    (control_roll_quality_code self.control_roll_reference_unwrapped_raw).toUInt32 <<< 8 |||
    (control_roll_quality_code self.roll_deviation_unwrapped_raw).toUInt32 <<< 13

inductive CanRxMessage where
  | CommandResult (value : Comboard.CommandResult)
  | TimeRequest (request_id : UInt8)
  | MissionEvent (event : Comboard.MissionEvent)
  | Kinematics (value : KinematicsTelemetry)
  | Control (value : ControlTelemetry)
  | MissionStatus (value : MissionStatusTelemetry)
  | PowerTime (value : PowerTimeTelemetry)
  | DescentCore (value : DescentCoreTelemetry)
  | RecoveryStatus (value : Comboard.RecoveryStatus)
  | RecoveryLogData (value : Comboard.RecoveryLogData)
  | AttitudeTilt (value : AttitudeTiltTelemetry)
  | Lps (value : LpsTelemetry)
  | Airspeed (value : AirspeedTelemetry)
  | ControlRollV2 (value : ControlRollTelemetryV2)
  deriving DecidableEq

end Comboard
