import Comboard.Code.CanCodec
import Comboard.Code.CanCommunication
import Comboard.Code.Periodic
import Comboard.Code.RecoveryPower

/-!
# What the periodic packet reads, over a run

The cache and the flags that received frames, the recovery power task and the LoRa task write.
`LinkState` is a part of what the tasks share; the other part of a frame's effect is in
`CanCommunication`.
-/

namespace Comboard

open CanRxMessage

/-! ## `handle_received_frame` -/

def CAN_ID_DEVICE_HEALTH : UInt16 := 0x10b

structure LinkState where
  can_cache : CanCache
  recovery_beacon_active : Bool
  mission_status_invalid_at_ms : UInt32
  deriving DecidableEq

namespace LinkState

def new : LinkState where
  can_cache := .new
  recovery_beacon_active := false
  mission_status_invalid_at_ms := 0

/-- The answer says if the recovery mode was entered just now. -/
def handle_recovery_mode_command (s : LinkState) (data : List UInt8) : LinkState × Option Bool :=
  match data with
  | [_, mode, reason] =>
    if mode ≠ 1 ∨ reason > 3 then (s, none)
    else ({ s with recovery_beacon_active := true }, some !s.recovery_beacon_active)
  | _ => (s, none)

/-- A frame with a standard identifier. The others are rejected. -/
def handle_received_frame (s : LinkState) (identifier : UInt16) (data : List UInt8)
    (received_at_ms : Nat) : LinkState :=
  if identifier = 0x014 then
    match s.handle_recovery_mode_command data with
    | (s, some true) => { s with can_cache := s.can_cache.clear_recovery_power_snapshot }
    | (s, _) => s
  else if identifier = CAN_ID_DEVICE_HEALTH then s
  else
    match decode_standard identifier data with
    | .ok message =>
      { s with
        can_cache := (s.can_cache.update message received_at_ms).1
        mission_status_invalid_at_ms :=
          if identifier = 0x102 then 0 else s.mission_status_invalid_at_ms }
    | .error _ =>
      { s with
        mission_status_invalid_at_ms :=
          if identifier = 0x102 then max (.ofNat (min received_at_ms 0xffffffff)) 1
          else s.mission_status_invalid_at_ms }

end LinkState

/-! ## Runs -/

structure Link extends LinkState where
  power_task : RecoveryPowerTask
  deriving DecidableEq

inductive LinkAction where
  | received (identifier : UInt16) (data : List UInt8) (received_at_ms : Nat)
  /-- A completed `ExitRecovery`. -/
  | exit_recovery
  /-- An iteration of `recovery_power_cache_task`. -/
  | power_tick (now_ms : Nat)
  /-- The end of an iteration of the LoRa task. -/
  | clear_event_flags (flags : UInt16) (revision : UInt32)
  deriving DecidableEq

namespace Link

def new : Link where
  toLinkState := .new
  power_task := .new

def step (s : Link) : LinkAction → Link
  | .received identifier data received_at_ms =>
    { s with toLinkState := s.handle_received_frame identifier data received_at_ms }
  | .exit_recovery => { s with recovery_beacon_active := false }
  | .power_tick now_ms =>
    let (power_task, can_cache) :=
      s.power_task.iteration s.recovery_beacon_active now_ms s.can_cache
    { s with power_task, can_cache }
  | .clear_event_flags flags revision =>
    { s with can_cache := s.can_cache.clear_event_flags flags revision }

def run (actions : List LinkAction) : Link := actions.foldl step new

@[simp]
theorem run_snoc (actions : List LinkAction) (action : LinkAction) :
    run (actions ++ [action]) = (run actions).step action := by
  unfold run
  rw [List.foldl_append, List.foldl_cons, List.foldl_nil]

end Link

/-- The time of an action, where it has one. -/
def LinkAction.at_ms : LinkAction → Option Nat
  | .received _ _ received_at_ms => some received_at_ms
  | .power_tick now_ms => some now_ms
  | .exit_recovery | .clear_event_flags _ _ => none

/-! ## A periodic slot -/

/-- What `periodic_packet` reads and is given beside the run. -/
structure Slot where
  now_ms : Nat
  gnss : GnssTelemetry
  others : LinkGlobals
  sequence : UInt8
  prefer_control_roll_v2 : Bool
  control_roll_event_only : Bool
  deriving DecidableEq

namespace Link

/-- The flags that the packet reads. The run does not decide the others. -/
def globals (s : Link) (others : LinkGlobals) : LinkGlobals :=
  { others with
    recovery_beacon_active := s.recovery_beacon_active
    mission_status_invalid_at_ms := s.mission_status_invalid_at_ms }

def choice (s : Link) (slot : Slot) : PeriodicChoice :=
  periodic_choice s.can_cache slot.now_ms slot.gnss (s.globals slot.others) slot.sequence
    slot.prefer_control_roll_v2 slot.control_roll_event_only

def periodic_packet (s : Link) (slot : Slot) : Option PeriodicPacket :=
  (periodic_packet_of s.can_cache slot.now_ms slot.gnss (s.globals slot.others) slot.sequence
    slot.prefer_control_roll_v2 slot.control_roll_event_only).1

/-- What is built is the encoding of what was chosen. -/
theorem periodic_packet_frame (s : Link) (slot : Slot) :
    (s.periodic_packet slot).map (·.frame) =
      match s.choice slot with
      | .packet packet => packet.encode.toOption
      | .nothing | .unreachable => none :=
  periodic_packet_of_choice _ _ _ _ _ _ _

end Link

/-! ## The same steps on the shared state -/

def State.link (s : State) (mission_status_invalid_at_ms : UInt32) : LinkState where
  can_cache := s.can_cache
  recovery_beacon_active := s.recovery_beacon_active
  mission_status_invalid_at_ms := mission_status_invalid_at_ms

theorem link_recovery_mode_frame (s : State) (invalid_at : UInt32) (data : List UInt8)
    (received_at_ms : Nat) :
    (s.recovery_mode_frame data).link invalid_at =
      (s.link invalid_at).handle_received_frame 0x014 data received_at_ms := by
  unfold State.recovery_mode_frame LinkState.handle_received_frame
    State.handle_recovery_mode_command LinkState.handle_recovery_mode_command
  rw [if_pos rfl]
  match data with
  | [_, mode, reason] =>
    by_cases h : mode ≠ 1 ∨ reason > 3
    · simp [h]
    · cases hactive : s.recovery_beacon_active <;> simp [h, hactive, State.link]
  | [] | [_] | [_, _] | _ :: _ :: _ :: _ :: _ => rfl

theorem link_update_cache (s : State) (invalid_at : UInt32) {identifier : UInt16}
    {data : List UInt8} {message : CanRxMessage} (received_at_ms : Nat)
    (hmode : identifier ≠ 0x014) (hhealth : identifier ≠ CAN_ID_DEVICE_HEALTH)
    (h : decode_standard identifier data = .ok message) :
    (s.update_cache message received_at_ms).1.link (if identifier = 0x102 then 0 else invalid_at) =
      (s.link invalid_at).handle_received_frame identifier data received_at_ms := by
  unfold LinkState.handle_received_frame
  rw [if_neg hmode, if_neg hhealth, h]
  rfl

/-- A status leaves the flag alone, or clears it. -/
theorem link_apply_session_status (s : RecoveryState) (status : RecoveryStatus) :
    (s.apply_session_status status).1.recovery_beacon_active = s.recovery_beacon_active ∨
      (s.apply_session_status status).1.recovery_beacon_active = false := by
  unfold RecoveryState.apply_session_status
  have hqueue (s : RecoveryState) (result : Option CommandResult) :
      (s.queue_some_result result).1.recovery_beacon_active = s.recovery_beacon_active := by
    cases result <;> rfl
  simp only [hqueue]
  split
  · exact .inr rfl
  · exact .inl rfl

end Comboard
