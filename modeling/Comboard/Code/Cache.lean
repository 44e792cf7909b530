import Comboard.Code.Protocol

/-! # `can/cache.rs`: the newest value of each telemetry -/

namespace Comboard

def FRESHNESS_100_HZ_MS : Nat := 30
def FRESHNESS_25_HZ_MS : Nat := 120
def FRESHNESS_10_HZ_MS : Nat := 300

inductive Freshness where
  | Missing | Fresh | Stale
  deriving DecidableEq

/-- The field `value` of the source is `latest` here, because `value` is also a method. -/
structure Latest (T : Type) where
  latest : Option T
  received_at : Nat
  deriving DecidableEq

namespace Latest

variable {T : Type}

def new : Latest T where
  latest := none
  received_at := 0

/-- The old value is overwritten whole. -/
def update (value : T) (received_at_ms : Nat) : Latest T where
  latest := some value
  received_at := received_at_ms

def clear : Latest T := new

def value (self : Latest T) : Option T := self.latest

def received_at_ms (self : Latest T) : Option Nat :=
  if self.latest.isSome then some self.received_at else none

def freshness (self : Latest T) (now_ms maximum_age_ms : Nat) : Freshness :=
  match self.latest with
  | none => .Missing
  | some _ =>
    if now_ms ≥ self.received_at ∧ now_ms - self.received_at ≤ maximum_age_ms then .Fresh else .Stale

end Latest

inductive CacheUpdate where
  | Telemetry
  | CommandResult (value : Comboard.CommandResult)
  | TimeRequest (request_id : UInt8)
  | MissionEvent (event : Comboard.MissionEvent) (new_flags : UInt16)
  | DuplicateMissionEvent
  | RecoveryStatus (value : Comboard.RecoveryStatus)
  | RecoveryLogData (value : Comboard.RecoveryLogData)
  deriving DecidableEq

structure CanCache where
  kinematics : Latest KinematicsTelemetry
  control : Latest ControlTelemetry
  mission_status : Latest MissionStatusTelemetry
  power_time : Latest PowerTimeTelemetry
  descent_core : Latest DescentCoreTelemetry
  attitude_tilt : Latest AttitudeTiltTelemetry
  lps : Latest LpsTelemetry
  airspeed : Latest AirspeedTelemetry
  control_roll_v2 : Latest ControlRollTelemetryV2
  recovery_status : Latest RecoveryStatus
  recovery_log_data : Latest RecoveryLogData
  command_result : Latest CommandResult
  time_request : Latest UInt8
  mission_event : Latest MissionEvent
  event_flags_latched : UInt16
  event_revision : UInt32
  last_event_sequence : Option UInt8
  deriving DecidableEq

namespace CanCache

def new : CanCache where
  kinematics := .new
  control := .new
  mission_status := .new
  power_time := .new
  descent_core := .new
  attitude_tilt := .new
  lps := .new
  airspeed := .new
  control_roll_v2 := .new
  recovery_status := .new
  recovery_log_data := .new
  command_result := .new
  time_request := .new
  mission_event := .new
  event_flags_latched := 0
  event_revision := 0
  last_event_sequence := none

def update (self : CanCache) (message : CanRxMessage) (received_at_ms : Nat) :
    CanCache × CacheUpdate :=
  match message with
  | .CommandResult value =>
    ({ self with command_result := .update value received_at_ms }, .CommandResult value)
  | .TimeRequest request_id =>
    ({ self with time_request := .update request_id received_at_ms }, .TimeRequest request_id)
  | .MissionEvent event =>
    if self.last_event_sequence = some event.sequence then (self, .DuplicateMissionEvent)
    else
      let new_flags := event.flags &&& ~~~self.event_flags_latched
      ({ self with
          event_flags_latched := self.event_flags_latched ||| event.flags
          event_revision := self.event_revision + 1
          last_event_sequence := some event.sequence
          mission_event := .update event received_at_ms }, .MissionEvent event new_flags)
  | .Kinematics value => ({ self with kinematics := .update value received_at_ms }, .Telemetry)
  | .Control value => ({ self with control := .update value received_at_ms }, .Telemetry)
  | .MissionStatus value =>
    ({ self with mission_status := .update value received_at_ms }, .Telemetry)
  | .PowerTime value => ({ self with power_time := .update value received_at_ms }, .Telemetry)
  | .DescentCore value => ({ self with descent_core := .update value received_at_ms }, .Telemetry)
  | .RecoveryStatus value =>
    ({ self with recovery_status := .update value received_at_ms }, .RecoveryStatus value)
  | .RecoveryLogData value =>
    ({ self with recovery_log_data := .update value received_at_ms }, .RecoveryLogData value)
  | .AttitudeTilt value => ({ self with attitude_tilt := .update value received_at_ms }, .Telemetry)
  | .Lps value => ({ self with lps := .update value received_at_ms }, .Telemetry)
  | .Airspeed value => ({ self with airspeed := .update value received_at_ms }, .Telemetry)
  | .ControlRollV2 value =>
    ({ self with control_roll_v2 := .update value received_at_ms }, .Telemetry)

def event_snapshot (self : CanCache) : UInt16 × UInt32 :=
  (self.event_flags_latched, self.event_revision)

def clear_event_flags (self : CanCache) (flags : UInt16) (revision : UInt32) : CanCache :=
  if self.event_revision = revision then
    { self with event_flags_latched := self.event_flags_latched &&& ~~~flags }
  else self

def clear_recovery_power_snapshot (self : CanCache) : CanCache :=
  { self with power_time := .clear }

/-! ## What is handed on -/

/-- The message that the CAN task goes on with. -/
def handed_on : CacheUpdate → Option CanRxMessage
  | .CommandResult value => some (.CommandResult value)
  | .RecoveryStatus value => some (.RecoveryStatus value)
  | .RecoveryLogData value => some (.RecoveryLogData value)
  | _ => none

/-- It is the one that came. -/
theorem update_hands_on {self : CanCache} {message given : CanRxMessage} {received_at_ms : Nat}
    (h : handed_on (self.update message received_at_ms).2 = some given) : message = given := by
  cases message with
  | MissionEvent event =>
    by_cases hduplicate : self.last_event_sequence = some event.sequence <;>
      simp [update, hduplicate, handed_on] at h
  | CommandResult | RecoveryStatus | RecoveryLogData => exact Option.some.inj h
  | _ => simp [update, handed_on] at h

end CanCache

end Comboard
