import Comboard.Code.Cache
import Comboard.Code.Payload

/-!
# `tasks/lora_task_base.rs`: the periodic packet

`periodic_packet` reads its clock and the CAN cache, then waits for the GNSS lock. So the rest of
it is `periodic_packet_of`, which takes what was read.
-/

namespace Comboard

/-! ## What the packet reads -/

inductive GnssReceiverState where
  | Off | Starting | ReceiverDetected | ConfigurationFailed | ReceiverError | NoFix | ValidFix
  | InvalidSample | Stale
  deriving DecidableEq

/-- The times of the source are read by the GNSS tasks only. -/
structure GnssTelemetry where
  state : GnssReceiverState
  east : UInt16
  north : UInt16
  height : UInt16
  deriving DecidableEq

def GnssTelemetry.new : GnssTelemetry where
  state := .Off
  east := 0x8000
  north := 0x8000
  height := 496

/-- The atomics that the packet reads, in lower case. -/
structure LinkGlobals where
  recovery_beacon_active : Bool
  sd_has_error : Bool
  is_can_error : Bool
  logging_requested : Bool
  logging_active : Bool
  has_unflushed_data : Bool
  can_fallback_health : UInt8
  mission_status_invalid_at_ms : UInt32
  deriving DecidableEq

def LinkGlobals.new : LinkGlobals where
  recovery_beacon_active := false
  sd_has_error := false
  is_can_error := false
  logging_requested := false
  logging_active := false
  has_unflushed_data := false
  can_fallback_health := 0
  mission_status_invalid_at_ms := 0

variable {T : Type}

def stale_or (latest : Latest T) (now_ms maximum_age_ms : Nat) : Option T :=
  if latest.freshness now_ms maximum_age_ms = .Fresh then latest.value else none

/-! ## The fallback packet -/

def age_tenths (now_ms : Nat) : Option Nat → UInt16
  | none => 0xffff
  | some received_at_ms =>
    if now_ms < received_at_ms then 0xffff
    else .ofNat (min ((now_ms - received_at_ms) / 100) 0xfffe)

def latest_mission_periodic_at (cache : CanCache) : Option Nat :=
  ([cache.kinematics.received_at_ms,
    cache.control.received_at_ms,
    cache.mission_status.received_at_ms,
    cache.power_time.received_at_ms,
    cache.descent_core.received_at_ms,
    cache.attitude_tilt.received_at_ms,
    cache.lps.received_at_ms,
    cache.airspeed.received_at_ms,
    cache.control_roll_v2.received_at_ms].filterMap id).max?

def gnss_state_code : GnssReceiverState → UInt8
  | .Off => 0
  | .Starting => 1
  | .ReceiverDetected => 2
  | .ConfigurationFailed => 3
  | .ReceiverError => 4
  | .NoFix => 5
  | .ValidFix => 6
  | .InvalidSample => 7
  | .Stale => 8

def fallback_primary_loss_reason (can_health : UInt8) (invalid_is_latest mission_ever : Bool)
    (mission_age : UInt16) (periodic_ever : Bool) (any_periodic_age : UInt16) : UInt8 :=
  if can_health = 4 then 3
  else if can_health = 5 then 4
  else if can_health = 6 then 7
  else if invalid_is_latest then 5
  else if ¬ mission_ever then 0
  else if mission_age ≠ 0xffff ∧ mission_age < 10 then 7
  else if periodic_ever ∧ any_periodic_age ≠ 0xffff ∧ any_periodic_age < 10 then 1
  else 2

def fallback_can_status_flags (can_health : UInt8) : UInt16 :=
  let flags : UInt16 := if can_health ≥ 1 ∧ can_health ≤ 3 then (1 : UInt16) <<< 13 else 0
  if can_health ≥ 2 ∧ can_health ≤ 6 then flags ||| (1 : UInt16) <<< 14 else flags

/-- `value & (1 << bit) != 0` -/
def bit_set (value bit : UInt16) : Bool := value &&& (1 : UInt16) <<< bit ≠ 0

def bit_set8 (value bit : UInt8) : Bool := value &&& (1 : UInt8) <<< bit ≠ 0

/-- `u16::from(value) << bit` -/
def flag (value : Bool) (bit : UInt16) : UInt16 := value.toUInt16 <<< bit

/-- `sequence` is what `MISSION_LINK_FALLBACK_SEQUENCE.fetch_add` returns. -/
def mission_link_fallback_packet_with_health (cache : CanCache) (now_ms : Nat)
    (gnss : GnssTelemetry) (globals : LinkGlobals) (sequence can_health : UInt8) :
    ApplicationPacket :=
  let mission_received := cache.mission_status.received_at_ms
  let any_periodic_received := latest_mission_periodic_at cache
  let power_received := cache.power_time.received_at_ms
  let mission_age := age_tenths now_ms mission_received
  let any_periodic_age := age_tenths now_ms any_periodic_received
  let power_age := age_tenths now_ms power_received
  let mission_ever := mission_received.isSome
  let periodic_ever := any_periodic_received.isSome
  let invalid_at := globals.mission_status_invalid_at_ms.toNat
  let invalid_is_latest : Bool :=
    invalid_at ≠ 0 && mission_received.all fun valid_at => invalid_at > valid_at
  let primary_loss_reason := fallback_primary_loss_reason can_health invalid_is_latest mission_ever
    mission_age periodic_ever any_periodic_age
  let flags :=
    flag mission_ever 0 |||
    flag periodic_ever 1 |||
    flag (mission_age ≠ 0xffff ∧ mission_age < 10) 2 |||
    flag (any_periodic_age ≠ 0xffff ∧ any_periodic_age < 10) 3 |||
    flag (!globals.sd_has_error) 4 |||
    flag globals.logging_requested 5 |||
    flag globals.logging_active 6 |||
    flag globals.has_unflushed_data 7 |||
    flag (gnss.state ≠ .Off) 8 |||
    flag (gnss.state = .ValidFix) 9 |||
    flag (gnss.state = .Stale) 10 |||
    flag power_received.isSome 11 |||
    flag mission_ever 12 |||
    fallback_can_status_flags can_health
  let last_state := (cache.mission_status.value.map (·.state.raw)).getD 0xff
  let power := cache.power_time.value
  .MissionLinkFallbackTelemetry {
    sequence
    primary_loss_reason
    status_flags := flags
    last_valid_mission_state := last_state
    gnss_state := gnss_state_code gnss.state
    mission_status_age := mission_age
    any_mission_periodic_age := any_periodic_age
    power_time_age := power_age
    east := gnss.east
    north := gnss.north
    height := gnss.height
    logic_voltage := (power.map (·.logic_voltage)).getD 253
    motor_voltage := (power.map (·.motor_voltage)).getD 253
    can_health }

/-! ## The status fields -/

def inject_link_health (status : UInt16) (sd_bit can_bit : UInt16) (globals : LinkGlobals) :
    UInt16 :=
  let status :=
    if ¬ globals.sd_has_error then status ||| (1 : UInt16) <<< sd_bit
    else status &&& ~~~((1 : UInt16) <<< sd_bit)
  if ¬ globals.is_can_error then status ||| (1 : UInt16) <<< can_bit
  else status &&& ~~~((1 : UInt16) <<< can_bit)

/-- `u32::from(value) << bit` -/
def flag32 (value : Bool) (bit : UInt32) : UInt32 := value.toUInt32 <<< bit

def map_command_receive_status (mission_status : UInt16) (config : UInt8)
    (power : Option PowerTimeTelemetry) (lps_fresh airspeed_fresh mission_status_fresh : Bool) :
    UInt32 :=
  let status :=
    flag32 (bit_set mission_status 2) 0 |||
    flag32 lps_fresh 1 |||
    flag32 airspeed_fresh 2 |||
    flag32 (mission_status_fresh && !bit_set mission_status 10) 3 |||
    flag32 (bit_set mission_status 3) 4 |||
    flag32 (bit_set8 config 0) 5 |||
    flag32 (bit_set8 config 1) 6 |||
    flag32 (bit_set8 config 2) 7
  let status :=
    match power with
    | none => status
    | some power =>
      status |||
      flag32 (power.logic_voltage ≤ 240) 8 |||
      flag32 (power.motor_voltage ≤ 240) 9 |||
      flag32 (bit_set8 power.flags 3) 10 |||
      flag32 (bit_set8 power.flags 0) 13
  status |||
    flag32 (bit_set8 config 3) 16 |||
    flag32 (bit_set8 config 4) 18 |||
    flag32 (bit_set8 config 5) 21 |||
    flag32 (bit_set8 config 6) 22

def map_flight_interval_events (events : UInt16) : UInt16 :=
  flag (bit_set events 0) 9 |||
  flag (bit_set events 1) 10 |||
  flag (bit_set events 2) 11 |||
  flag (bit_set events 3) 12 |||
  flag (bit_set events 4) 14

/-! ## The packet -/

structure PeriodicPacket where
  frame : LoraFrame
  transmitted_events : UInt16
  event_revision : UInt32
  is_control_roll_v2 : Bool
  control_roll_cycle_available : Bool
  deriving DecidableEq

/-- `finish_periodic_packet(..).map(..)` -/
def finish_periodic_packet (packet : ApplicationPacket) (interval_events : UInt16)
    (event_revision : UInt32) (is_control_roll_v2 control_roll_cycle_available : Bool) :
    Option PeriodicPacket :=
  match packet.encode with
  | .error _ => none
  | .ok frame =>
    some { frame, transmitted_events := interval_events, event_revision, is_control_roll_v2,
           control_roll_cycle_available }

/-- What a packet of the mission states is built from. -/
structure MissionInputs where
  mission : Option MissionStatusTelemetry
  kinematics : Option KinematicsTelemetry
  control : Option ControlTelemetry
  tilt : Option AttitudeTiltTelemetry
  lps : Option LpsTelemetry
  airspeed : Option AirspeedTelemetry
  power : Option PowerTimeTelemetry
  descent : Option DescentCoreTelemetry
  gnss : GnssTelemetry
  globals : LinkGlobals

/-- The `CommandReceive` arm. -/
def command_receive_packet (m : MissionInputs) : ApplicationPacket :=
  let mission_status := (m.mission.map (·.status)).getD 0
  let config := (m.mission.map (·.config)).getD 0
  let status := map_command_receive_status mission_status config m.power
    (m.lps.any fun value => value.pressure ≤ 2031 ∧ value.temperature ≤ 200)
    (m.airspeed.any fun value => value.airspeed ≤ 245) m.mission.isSome
  let status :=
    if ¬ m.globals.sd_has_error then status ||| (1 : UInt32) <<< 11
    else status &&& ~~~((1 : UInt32) <<< 11)
  let status :=
    if ¬ m.globals.is_can_error then status ||| (1 : UInt32) <<< 12
    else status &&& ~~~((1 : UInt32) <<< 12)
  .CommandReceive {
    status
    motor_profile := 0xff
    tilt_magnitude := (m.tilt.map (·.magnitude)).getD 123
    tilt_direction := (m.tilt.map (·.direction)).getD 0
    fin_mode := (m.mission.map (·.fin_mode.raw)).getD 15
    para_mode := (m.mission.map (·.para_mode.raw)).getD 15
    fin_angle := (m.kinematics.map (·.fin_angle)).getD 249
    para_angle := (m.mission.map (·.para_angle)).getD 247
    pressure := (m.lps.map (·.pressure)).getD 2039
    temperature := (m.lps.map (·.temperature)).getD 247
    airspeed := (m.airspeed.map (·.airspeed)).getD 252
    logic_voltage := (m.power.map (·.logic_voltage)).getD 253
    motor_voltage := (m.power.map (·.motor_voltage)).getD 253
    east := m.gnss.east
    north := m.gnss.north
    height := m.gnss.height
    display_roll := (m.kinematics.map (·.roll)).getD 0x8004 }

/-- The arm of the three flight states. -/
def flight_packet (m : MissionInputs) (header : PacketHeader) (interval_events : UInt16) :
    FlightTelemetry :=
  let status := (m.mission.map (·.status)).getD 0
  let status := inject_link_health status 7 8 m.globals
  let status := status ||| map_flight_interval_events interval_events
  { header
    status
    roll := (m.kinematics.map (·.roll)).getD 0x8004
    roll_rate := (m.kinematics.map (·.roll_rate)).getD 0x8004
    tilt_magnitude := (m.tilt.map (·.magnitude)).getD 123
    tilt_direction := (m.tilt.map (·.direction)).getD 0
    fin_angle := (m.kinematics.map (·.fin_angle)).getD 249
    fin_rate := (m.kinematics.map (·.fin_rate)).getD 0x8002
    pressure := (m.lps.map (·.pressure)).getD 2039
    temperature := (m.lps.map (·.temperature)).getD 247
    airspeed := (m.airspeed.map (·.airspeed)).getD 252
    requested_torque := (m.control.map (·.requested_torque)).getD 0x800
    elapsed := (m.control.map (·.elapsed)).getD 0xfa
    east := m.gnss.east
    north := m.gnss.north
    height := m.gnss.height }

/-- The `Descent` arm. -/
def descent_packet (m : MissionInputs) : ApplicationPacket :=
  .Descent {
    status := (m.descent.map (·.status)).getD 0 &&& 0x001f
    pressure := (m.lps.map (·.pressure)).getD 2039
    temperature := (m.lps.map (·.temperature)).getD 247
    para_angle := (m.descent.map (·.para_angle)).getD 247
    elapsed := (m.power.map (·.descent_elapsed)).getD 0xfffa
    east := m.gnss.east
    north := m.gnss.north
    height := m.gnss.height }

def recovery_beacon_packet (power : Option PowerTimeTelemetry) (gnss : GnssTelemetry) :
    ApplicationPacket :=
  .RecoveryBeacon {
    logic_voltage := (power.map (·.logic_voltage)).getD 253
    motor_voltage := (power.map (·.motor_voltage)).getD 253
    east := gnss.east
    north := gnss.north
    height := gnss.height
    elapsed := (power.map (·.recovery_elapsed)).getD 0xfffa }

def control_roll_packet (value : ControlRollTelemetryV2) : ApplicationPacket :=
  .ControlRollTelemetryV2 {
    control_roll_reference_unwrapped_raw := value.control_roll_reference_unwrapped_raw
    roll_deviation_unwrapped_raw := value.roll_deviation_unwrapped_raw
    flags := value.flags
    reference_capture_event_sequence := value.reference_capture_event_sequence }

def flight_state : MissionState → Bool
  | .LiftoffDetection | .EngineBurn | .Control => true
  | _ => false

/-- What the packet reads of the cache. -/
def mission_inputs (cache : CanCache) (now_ms : Nat) (gnss : GnssTelemetry)
    (globals : LinkGlobals) : MissionInputs where
  mission := stale_or cache.mission_status now_ms FRESHNESS_10_HZ_MS
  kinematics := stale_or cache.kinematics now_ms FRESHNESS_100_HZ_MS
  control := stale_or cache.control now_ms FRESHNESS_100_HZ_MS
  tilt := stale_or cache.attitude_tilt now_ms FRESHNESS_10_HZ_MS
  lps := stale_or cache.lps now_ms FRESHNESS_25_HZ_MS
  airspeed := stale_or cache.airspeed now_ms FRESHNESS_100_HZ_MS
  power := stale_or cache.power_time now_ms FRESHNESS_10_HZ_MS
  descent := stale_or cache.descent_core now_ms FRESHNESS_100_HZ_MS
  gnss := gnss
  globals := globals

/-- What `periodic_packet` gives to `finish_periodic_packet`. -/
inductive PeriodicChoice where
  | packet (packet : ApplicationPacket)
  /-- `control_roll_event_only` and no `A7` -/
  | nothing
  /-- `unreachable!()` -/
  | unreachable
  deriving DecidableEq

/-- `match state`, with its last arm. -/
def mission_packet (m : MissionInputs) (interval_events : UInt16) : MissionState → PeriodicChoice
  | .CommandReceive => .packet (command_receive_packet m)
  | .LiftoffDetection => .packet (.Flight (flight_packet m .LiftoffDetection interval_events))
  | .EngineBurn => .packet (.Flight (flight_packet m .EngineBurn interval_events))
  | .Control => .packet (.Flight (flight_packet m .Control interval_events))
  | .Descent => .packet (descent_packet m)
  | .Unknown => .unreachable

/-- One way to the end of `periodic_packet`: what becomes the frame, what goes with it, and the
fallback sequence behind it. -/
structure PeriodicArm where
  choice : PeriodicChoice
  transmitted_events : UInt16
  is_control_roll_v2 : Bool
  control_roll_cycle_available : Bool
  sequence : UInt8

def periodic_arm (cache : CanCache) (now_ms : Nat) (gnss : GnssTelemetry) (globals : LinkGlobals)
    (sequence : UInt8) (prefer_control_roll_v2 control_roll_event_only : Bool) : PeriodicArm :=
  let interval_events := cache.event_snapshot.1
  let m := mission_inputs cache now_ms gnss globals
  let state := (m.mission.map (·.state)).getD .Unknown
  let control_roll_v2 := stale_or cache.control_roll_v2 now_ms FRESHNESS_10_HZ_MS
  let control_roll_cycle_available : Bool := flight_state state && control_roll_v2.isSome
  match (if prefer_control_roll_v2 ∧ control_roll_cycle_available then control_roll_v2 else none) with
  | some value => ⟨.packet (control_roll_packet value), 0, true, true, sequence⟩
  | none =>
    if control_roll_event_only then ⟨.nothing, 0, false, false, sequence⟩
    else if globals.recovery_beacon_active then
      ⟨.packet (recovery_beacon_packet m.power gnss), 0, false, false, sequence⟩
    else if state = .Unknown then
      let packet := mission_link_fallback_packet_with_health cache now_ms gnss globals sequence
        globals.can_fallback_health
      ⟨.packet packet, 0, false, false, sequence + 1⟩
    else
      let transmitted_events := if flight_state state then interval_events &&& 0x001f else 0
      ⟨mission_packet m interval_events state, transmitted_events, false,
        control_roll_cycle_available, sequence⟩

/-- The packet, and the fallback sequence behind it. -/
def periodic_packet_of (cache : CanCache) (now_ms : Nat) (gnss : GnssTelemetry)
    (globals : LinkGlobals) (sequence : UInt8)
    (prefer_control_roll_v2 control_roll_event_only : Bool) : Option PeriodicPacket × UInt8 :=
  let event_revision := cache.event_snapshot.2
  let arm := periodic_arm cache now_ms gnss globals sequence prefer_control_roll_v2
    control_roll_event_only
  (match arm.choice with
    | .packet packet => finish_periodic_packet packet arm.transmitted_events event_revision
        arm.is_control_roll_v2 arm.control_roll_cycle_available
    | .nothing | .unreachable => none, arm.sequence)

/-! ## The packet before it is encoded -/

def periodic_choice (cache : CanCache) (now_ms : Nat) (gnss : GnssTelemetry)
    (globals : LinkGlobals) (sequence : UInt8)
    (prefer_control_roll_v2 control_roll_event_only : Bool) : PeriodicChoice :=
  (periodic_arm cache now_ms gnss globals sequence prefer_control_roll_v2
    control_roll_event_only).choice

/-- The choice, arm by arm. -/
theorem periodic_choice_eq (cache : CanCache) (now_ms : Nat) (gnss : GnssTelemetry)
    (globals : LinkGlobals) (sequence : UInt8)
    (prefer_control_roll_v2 control_roll_event_only : Bool) :
    periodic_choice cache now_ms gnss globals sequence prefer_control_roll_v2
        control_roll_event_only =
      let m := mission_inputs cache now_ms gnss globals
      let state := (m.mission.map (·.state)).getD .Unknown
      let control_roll_v2 := stale_or cache.control_roll_v2 now_ms FRESHNESS_10_HZ_MS
      match (if prefer_control_roll_v2 ∧ flight_state state then control_roll_v2 else none) with
      | some value => .packet (control_roll_packet value)
      | none =>
        if control_roll_event_only then .nothing
        else if globals.recovery_beacon_active then .packet (recovery_beacon_packet m.power gnss)
        else if state = .Unknown then
          .packet (mission_link_fallback_packet_with_health cache now_ms gnss globals sequence
            globals.can_fallback_health)
        else mission_packet m cache.event_snapshot.1 state := by
  unfold periodic_choice periodic_arm
  dsimp only
  generalize (((mission_inputs cache now_ms gnss globals).mission).map (·.state)).getD .Unknown = state
  generalize stale_or cache.control_roll_v2 now_ms FRESHNESS_10_HZ_MS = control_roll_v2
  have hA7 : (if prefer_control_roll_v2 ∧ (flight_state state && control_roll_v2.isSome) then
        control_roll_v2 else none) =
      if prefer_control_roll_v2 ∧ flight_state state then control_roll_v2 else none := by
    cases control_roll_v2 <;> simp
  rw [hA7]
  split
  · rfl
  · cases control_roll_event_only
    · cases globals.recovery_beacon_active
      · by_cases hunknown : state = .Unknown
        · simp [hunknown]
        · simp [hunknown]
      · rfl
    · rfl

@[simp]
theorem finish_periodic_packet_frame (packet : ApplicationPacket) (interval_events : UInt16)
    (event_revision : UInt32) (is_control_roll_v2 control_roll_cycle_available : Bool) :
    (finish_periodic_packet packet interval_events event_revision is_control_roll_v2
      control_roll_cycle_available).map (·.frame) = packet.encode.toOption := by
  unfold finish_periodic_packet
  cases packet.encode <;> rfl

theorem periodic_packet_of_choice (cache : CanCache) (now_ms : Nat) (gnss : GnssTelemetry)
    (globals : LinkGlobals) (sequence : UInt8)
    (prefer_control_roll_v2 control_roll_event_only : Bool) :
    (periodic_packet_of cache now_ms gnss globals sequence prefer_control_roll_v2
      control_roll_event_only).1.map (·.frame) =
    match periodic_choice cache now_ms gnss globals sequence prefer_control_roll_v2
      control_roll_event_only with
    | .packet packet => packet.encode.toOption
    | .nothing | .unreachable => none := by
  unfold periodic_packet_of periodic_choice
  dsimp only
  split
  · exact finish_periodic_packet_frame _ _ _ _ _
  · rfl
  · rfl

end Comboard
