import Comboard.CanGrammar
import Comboard.Code.Link
import Mathlib.Data.List.Induction

/-!
# Telemetry is fresh or marked stale

An entry of the cache holds the last valid frame of its identifier. So a field of the periodic
packet is the raw field of that frame, or its stale code.
-/

namespace Comboard.Telemetry

open Lib CanRxMessage CanGrammar

/-! ## The history -/

/-- A frame of an identifier that `decode_standard` takes, and its time. -/
def valid_frame (id : UInt16) : LinkAction → Option (List UInt8 × Nat)
  | .received identifier data received_at_ms =>
    if identifier = id ∧ (decode_standard id data).isOk then some (data, received_at_ms) else none
  | .exit_recovery | .power_tick _ | .clear_event_flags _ _ => none

def last_valid (id : UInt16) (actions : List LinkAction) : Option (List UInt8 × Nat) :=
  (actions.filterMap (valid_frame id)).getLast?

theorem last_valid_snoc (id : UInt16) (actions : List LinkAction) (action : LinkAction) :
    last_valid id (actions ++ [action]) = (valid_frame id action).or (last_valid id actions) := by
  unfold last_valid
  rw [List.filterMap_append, List.getLast?_append]
  cases h : valid_frame id action <;> simp [h]

/-- The frame is an action of the run. -/
theorem mem_of_last_valid {id : UInt16} {actions : List LinkAction} {data : List UInt8}
    {received_at_ms : Nat} (h : last_valid id actions = some (data, received_at_ms)) :
    LinkAction.received id data received_at_ms ∈ actions ∧ (decode_standard id data).isOk := by
  obtain ⟨action, hmem, hframe⟩ := List.mem_filterMap.mp (List.mem_of_getLast? h)
  cases action with
  | received identifier data' received_at_ms' =>
    simp only [valid_frame, Option.ite_none_right_eq_some, Option.some.injEq, Prod.mk.injEq]
      at hframe
    obtain ⟨⟨rfl, hok⟩, rfl, rfl⟩ := hframe
    exact ⟨hmem, hok⟩
  | exit_recovery | power_tick | clear_event_flags => cases hframe

/-- How long a frame counts. -/
def window (id : UInt16) : Nat :=
  match id with
  | 0x100 | 0x101 | 0x104 | 0x109 => 30
  | 0x108 => 120
  | _ => 300

/-- The last valid frame, if it is at most its window old. -/
def fresh_frame (actions : List LinkAction) (now_ms : Nat) (id : UInt16) : Option (List UInt8) :=
  (last_valid id actions).bind fun (data, received_at_ms) =>
    if now_ms - received_at_ms ≤ window id then some data else none

/-! ## What a frame says -/

def kinematics (data : List UInt8) : KinematicsTelemetry where
  sequence := octet data 0
  roll := word data 1
  roll_rate := word data 3
  fin_angle := octet data 5
  fin_rate := word data 6

def control (data : List UInt8) : ControlTelemetry where
  sequence := octet data 0
  requested_torque := word data 1
  elapsed := octet data 3

def mission_status (data : List UInt8) : MissionStatusTelemetry where
  sequence := octet data 0
  state := (MissionState.decode (octet data 1)).getD .Unknown
  status := word data 2
  config := octet data 4
  fin_mode := (FinMode.decode (octet data 5)).getD .Unknown
  para_mode := (ParaMode.decode (octet data 6)).getD .Unknown
  para_angle := octet data 7

def power_time (data : List UInt8) : PowerTimeTelemetry where
  sequence := octet data 0
  logic_voltage := octet data 1
  motor_voltage := octet data 2
  descent_elapsed := word data 3
  recovery_elapsed := word data 5
  flags := octet data 7

def descent_core (data : List UInt8) : DescentCoreTelemetry where
  sequence := octet data 0
  status := word data 1
  para_angle := octet data 3

/-- The low seven bits of the packed word. -/
def magnitude (data : List UInt8) : UInt8 := (word data 1 &&& 0x7f).toUInt8

def direction (data : List UInt8) : UInt16 := word data 1 >>> 7

def attitude_tilt (data : List UInt8) : AttitudeTiltTelemetry where
  sequence := octet data 0
  magnitude := magnitude data
  direction := direction data

def lps (data : List UInt8) : LpsTelemetry where
  sequence := octet data 0
  pressure := word data 1
  temperature := octet data 3

def airspeed (data : List UInt8) : AirspeedTelemetry where
  sequence := octet data 0
  airspeed := octet data 1

def control_roll_v2 (data : List UInt8) : ControlRollTelemetryV2 where
  sequence := octet data 0
  control_roll_reference_unwrapped_raw := word data 2
  roll_deviation_unwrapped_raw := word data 4
  flags := octet data 6
  reference_capture_event_sequence := octet data 7

section Checks

variable {id : UInt16} {data : List UInt8} {message : CanRxMessage}

theorem passed_dlc {expected : Nat} {next : Unit → Decoding CanRxMessage}
    (h : (require_dlc id data expected >>= next) = .ok message) :
    data.length = expected ∧ next () = .ok message := by
  unfold require_dlc at h
  split at h <;> rename_i hlength
  · exact ⟨hlength, h⟩
  · cases h

theorem passed_reserved {index : Nat} {value reserved_mask : UInt8}
    {next : Unit → Decoding CanRxMessage}
    (h : (require_reserved_zero id index value reserved_mask >>= next) = .ok message) :
    next () = .ok message := by
  unfold require_reserved_zero at h
  split at h
  · exact h
  · cases h

theorem passed_field {α : Type} {index : Nat} {raw : UInt8} {decode : UInt8 → Option α}
    {next : α → Decoding CanRxMessage}
    (h : (decode_field id index raw decode >>= next) = .ok message) :
    ∃ value, decode raw = some value ∧ next value = .ok message := by
  unfold decode_field at h
  split at h <;> rename_i hdecode
  · exact ⟨_, hdecode, h⟩
  · cases h

theorem passed_guard {guard : Prop} [Decidable guard] {error : CanDecodeError}
    {skipped : PUnit → Decoding CanRxMessage} {next : Decoding CanRxMessage}
    (h : (if guard then throw (.error error) >>= skipped else next) = .ok message) :
    next = .ok message := by
  split at h
  · cases h
  · exact h

/-- The layout behind an identifier. -/
theorem kinematics_decoded (h : decode_standard 0x100 data = .ok message) :
    message = .Kinematics (kinematics data) := by
  obtain ⟨hlength, h⟩ := @passed_dlc 0x100 _ _ _ _ h
  simp (disch := omega) only [byte_octet, get_u16_word, ok_bind] at h
  cases h
  rfl

theorem control_decoded (h : decode_standard 0x101 data = .ok message) :
    message = .Control (control data) := by
  obtain ⟨hlength, h⟩ := @passed_dlc 0x101 _ _ _ _ h
  simp (disch := omega) only [byte_octet, get_u16_word, ok_bind] at h
  cases passed_reserved h
  rfl

theorem mission_status_decoded (h : decode_standard 0x102 data = .ok message) :
    message = .MissionStatus (mission_status data) := by
  obtain ⟨hlength, h⟩ := @passed_dlc 0x102 _ _ _ _ h
  simp (disch := omega) only [byte_octet, get_u16_word, ok_bind] at h
  obtain ⟨state, hstate, h⟩ := passed_field h
  obtain ⟨fin_mode, hfin, h⟩ := passed_field (passed_guard h)
  obtain ⟨para_mode, hpara, h⟩ := passed_field h
  cases h
  unfold mission_status
  rw [hstate, hfin, hpara]
  rfl

theorem power_time_decoded (h : decode_standard 0x103 data = .ok message) :
    message = .PowerTime (power_time data) := by
  obtain ⟨hlength, h⟩ := @passed_dlc 0x103 _ _ _ _ h
  simp (disch := omega) only [byte_octet, get_u16_word, ok_bind] at h
  cases passed_reserved h
  rfl

theorem descent_core_decoded (h : decode_standard 0x104 data = .ok message) :
    message = .DescentCore (descent_core data) := by
  obtain ⟨hlength, h⟩ := @passed_dlc 0x104 _ _ _ _ h
  simp (disch := omega) only [byte_octet, get_u16_word, ok_bind] at h
  cases passed_reserved (passed_reserved h)
  rfl

theorem attitude_tilt_decoded (h : decode_standard 0x107 data = .ok message) :
    message = .AttitudeTilt (attitude_tilt data) := by
  obtain ⟨hlength, h⟩ := @passed_dlc 0x107 _ _ _ _ h
  simp (disch := omega) only [byte_octet, get_u16_word, ok_bind] at h
  cases h
  rfl

theorem lps_decoded (h : decode_standard 0x108 data = .ok message) :
    message = .Lps (lps data) := by
  obtain ⟨hlength, h⟩ := @passed_dlc 0x108 _ _ _ _ h
  simp (disch := omega) only [byte_octet, get_u16_word, ok_bind] at h
  cases passed_reserved h
  rfl

theorem airspeed_decoded (h : decode_standard 0x109 data = .ok message) :
    message = .Airspeed (airspeed data) := by
  obtain ⟨hlength, h⟩ := @passed_dlc 0x109 _ _ _ _ h
  simp (disch := omega) only [byte_octet, ok_bind] at h
  cases h
  rfl

theorem control_roll_v2_decoded (h : decode_standard 0x10a data = .ok message) :
    message = .ControlRollV2 (control_roll_v2 data) := by
  obtain ⟨hlength, h⟩ := @passed_dlc 0x10a _ _ _ _ h
  simp (disch := omega) only [byte_octet, get_u16_word, ok_bind] at h
  cases passed_guard (passed_reserved (passed_guard h))
  rfl

end Checks

/-- A message has one identifier. -/
theorem frame_id {id : UInt16} {data : List UInt8} {message : CanRxMessage}
    (h : decode_standard id data = .ok message) : (frame message).1 = id := by
  have houtcome := decode_standard_outcome id data
  rw [h] at houtcome
  rw [houtcome.2]

theorem format_of_valid {id : UInt16} {data : List UInt8} (h : (decode_standard id data).isOk) :
    Format id data := by
  have houtcome := decode_standard_outcome id data
  cases hdecode : decode_standard id data with
  | ok message =>
    rw [hdecode] at houtcome
    exact houtcome.1
  | error fault =>
    rw [hdecode] at h
    cases h

/-! ## The entries of the cache -/

/-- An entry of the cache, and the frames that it holds. -/
structure Entry (T : Type) where
  id : UInt16
  get : CanCache → Latest T
  message : T → CanRxMessage
  read : List UInt8 → T
  decoded : ∀ {data message'}, decode_standard id data = .ok message' → message' = message (read data)
  carried : ∀ value, (frame (message value)).1 = id
  /-- Its own message fills it, and no other touches it. -/
  updated : ∀ (cache : CanCache) value received_at_ms,
    get (cache.update (message value) received_at_ms).1 = .update value received_at_ms
  kept : ∀ (cache : CanCache) message' received_at_ms, (∀ value, message' ≠ message value) →
    (∀ event, message' ≠ .MissionEvent event) →
    get (cache.update message' received_at_ms).1 = get cache
  initial : get .new = .new
  events_kept : ∀ (cache : CanCache) flags revision sequence event,
    get { cache with
      event_flags_latched := flags
      event_revision := revision
      last_event_sequence := sequence
      mission_event := event } = get cache

def kinematics_entry : Entry KinematicsTelemetry where
  id := 0x100
  get := CanCache.kinematics
  message := .Kinematics
  read := kinematics
  decoded := kinematics_decoded
  carried _ := rfl
  updated _ _ _ := rfl
  kept _ message' _ hother hevent := by
    cases message' with
    | Kinematics value => exact absurd rfl (hother value)
    | MissionEvent event => exact absurd rfl (hevent event)
    | _ => rfl
  initial := rfl
  events_kept _ _ _ _ _ := rfl

def control_entry : Entry ControlTelemetry where
  id := 0x101
  get := CanCache.control
  message := .Control
  read := control
  decoded := control_decoded
  carried _ := rfl
  updated _ _ _ := rfl
  kept _ message' _ hother hevent := by
    cases message' with
    | Control value => exact absurd rfl (hother value)
    | MissionEvent event => exact absurd rfl (hevent event)
    | _ => rfl
  initial := rfl
  events_kept _ _ _ _ _ := rfl

def mission_status_entry : Entry MissionStatusTelemetry where
  id := 0x102
  get := CanCache.mission_status
  message := .MissionStatus
  read := mission_status
  decoded := mission_status_decoded
  carried _ := rfl
  updated _ _ _ := rfl
  kept _ message' _ hother hevent := by
    cases message' with
    | MissionStatus value => exact absurd rfl (hother value)
    | MissionEvent event => exact absurd rfl (hevent event)
    | _ => rfl
  initial := rfl
  events_kept _ _ _ _ _ := rfl

def power_time_entry : Entry PowerTimeTelemetry where
  id := 0x103
  get := CanCache.power_time
  message := .PowerTime
  read := power_time
  decoded := power_time_decoded
  carried _ := rfl
  updated _ _ _ := rfl
  kept _ message' _ hother hevent := by
    cases message' with
    | PowerTime value => exact absurd rfl (hother value)
    | MissionEvent event => exact absurd rfl (hevent event)
    | _ => rfl
  initial := rfl
  events_kept _ _ _ _ _ := rfl

def descent_core_entry : Entry DescentCoreTelemetry where
  id := 0x104
  get := CanCache.descent_core
  message := .DescentCore
  read := descent_core
  decoded := descent_core_decoded
  carried _ := rfl
  updated _ _ _ := rfl
  kept _ message' _ hother hevent := by
    cases message' with
    | DescentCore value => exact absurd rfl (hother value)
    | MissionEvent event => exact absurd rfl (hevent event)
    | _ => rfl
  initial := rfl
  events_kept _ _ _ _ _ := rfl

def attitude_tilt_entry : Entry AttitudeTiltTelemetry where
  id := 0x107
  get := CanCache.attitude_tilt
  message := .AttitudeTilt
  read := attitude_tilt
  decoded := attitude_tilt_decoded
  carried _ := rfl
  updated _ _ _ := rfl
  kept _ message' _ hother hevent := by
    cases message' with
    | AttitudeTilt value => exact absurd rfl (hother value)
    | MissionEvent event => exact absurd rfl (hevent event)
    | _ => rfl
  initial := rfl
  events_kept _ _ _ _ _ := rfl

def lps_entry : Entry LpsTelemetry where
  id := 0x108
  get := CanCache.lps
  message := .Lps
  read := lps
  decoded := lps_decoded
  carried _ := rfl
  updated _ _ _ := rfl
  kept _ message' _ hother hevent := by
    cases message' with
    | Lps value => exact absurd rfl (hother value)
    | MissionEvent event => exact absurd rfl (hevent event)
    | _ => rfl
  initial := rfl
  events_kept _ _ _ _ _ := rfl

def airspeed_entry : Entry AirspeedTelemetry where
  id := 0x109
  get := CanCache.airspeed
  message := .Airspeed
  read := airspeed
  decoded := airspeed_decoded
  carried _ := rfl
  updated _ _ _ := rfl
  kept _ message' _ hother hevent := by
    cases message' with
    | Airspeed value => exact absurd rfl (hother value)
    | MissionEvent event => exact absurd rfl (hevent event)
    | _ => rfl
  initial := rfl
  events_kept _ _ _ _ _ := rfl

def control_roll_v2_entry : Entry ControlRollTelemetryV2 where
  id := 0x10a
  get := CanCache.control_roll_v2
  message := .ControlRollV2
  read := control_roll_v2
  decoded := control_roll_v2_decoded
  carried _ := rfl
  updated _ _ _ := rfl
  kept _ message' _ hother hevent := by
    cases message' with
    | ControlRollV2 value => exact absurd rfl (hother value)
    | MissionEvent event => exact absurd rfl (hevent event)
    | _ => rfl
  initial := rfl
  events_kept _ _ _ _ _ := rfl

namespace Entry

variable {T : Type} (e : Entry T)

theorem latch_kept (cache : CanCache) (flags : UInt16) (revision : UInt32) :
    e.get (cache.clear_event_flags flags revision) = e.get cache := by
  unfold CanCache.clear_event_flags
  split
  · exact e.events_kept cache _ _ _ _
  · rfl

theorem update_other (cache : CanCache) {message : CanRxMessage} (received_at_ms : Nat)
    (h : ∀ value, message ≠ e.message value) :
    e.get (cache.update message received_at_ms).1 = e.get cache := by
  by_cases hevent : ∃ event, message = .MissionEvent event
  · obtain ⟨event, rfl⟩ := hevent
    simp only [CanCache.update]
    split
    · rfl
    · exact e.events_kept cache _ _ _ _
  · exact e.kept cache message received_at_ms h fun event heq => hevent ⟨event, heq⟩

/-- What the entry holds after its last valid frame. -/
def stored : Option (List UInt8 × Nat) → Latest T
  | none => .new
  | some (data, received_at_ms) => .update (e.read data) received_at_ms

/-- The recovery period writes `power_time` only. -/
def KeepsPower : Prop :=
  ∀ (cache : CanCache) power, e.get { cache with power_time := power } = e.get cache

end Entry

/-! ## The recovery mode -/

/-- A valid `RecoveryModeCommand`. -/
def RecoveryModeCommand (data : List UInt8) : Prop :=
  data.length = 3 ∧ octet data 1 = 1 ∧ octet data 2 ≤ 3

instance (data : List UInt8) : Decidable (RecoveryModeCommand data) :=
  inferInstanceAs (Decidable (_ ∧ _))

theorem handle_recovery_mode_command_eq (s : LinkState) (data : List UInt8) :
    s.handle_recovery_mode_command data =
      if RecoveryModeCommand data then
        ({ s with recovery_beacon_active := true }, some !s.recovery_beacon_active)
      else (s, none) := by
  unfold LinkState.handle_recovery_mode_command RecoveryModeCommand
  match data with
  | [_, mode, reason] =>
    have hcheck : (mode ≠ 1 ∨ reason > 3) ↔ ¬ (mode = 1 ∧ reason ≤ 3) := by
      rw [gt_iff_lt, ← UInt8.not_le, ne_eq, not_and_or]
    by_cases h : mode = 1 ∧ reason ≤ 3 <;> simp [octet, hcheck, h]
  | [] | [_] | [_, _] | _ :: _ :: _ :: _ :: _ => simp

theorem mode_frame (s : LinkState) (data : List UInt8) (received_at_ms : Nat) :
    s.handle_received_frame 0x014 data received_at_ms =
      if RecoveryModeCommand data then
        { s with
          recovery_beacon_active := true
          can_cache :=
            if s.recovery_beacon_active then s.can_cache
            else s.can_cache.clear_recovery_power_snapshot }
      else s := by
  unfold LinkState.handle_received_frame
  rw [if_pos rfl, handle_recovery_mode_command_eq]
  by_cases h : RecoveryModeCommand data
  · rw [if_pos h, if_pos h]
    cases s.recovery_beacon_active <;> rfl
  · rw [if_neg h, if_neg h]

/-- `decode_standard` does not know the two identifiers before it. -/
theorem unknown_frame {identifier : UInt16} (data : List UInt8)
    (h : identifier = 0x014 ∨ identifier = CAN_ID_DEVICE_HEALTH) :
    (decode_standard identifier data).isOk = false := by
  rcases h with rfl | rfl <;> rfl

theorem decoded_frame (s : LinkState) {identifier : UInt16} (data : List UInt8)
    (received_at_ms : Nat) (h : ¬ (identifier = 0x014 ∨ identifier = CAN_ID_DEVICE_HEALTH)) :
    (s.handle_received_frame identifier data received_at_ms).can_cache =
      match decode_standard identifier data with
      | .ok message => (s.can_cache.update message received_at_ms).1
      | .error _ => s.can_cache := by
  rw [not_or] at h
  unfold LinkState.handle_received_frame
  rw [if_neg h.1, if_neg h.2]
  cases decode_standard identifier data <;> rfl

def NeverEntered (actions : List LinkAction) : Prop :=
  ∀ data received_at_ms, LinkAction.received 0x014 data received_at_ms ∈ actions →
    ¬ RecoveryModeCommand data

/-- The recovery period has not begun, and the task knows of none. -/
structure Idle (s : Link) : Prop where
  beacon : s.recovery_beacon_active = false
  task : s.power_task.active_previous = false

theorem received_beacon (s : LinkState) (identifier : UInt16) (data : List UInt8)
    (received_at_ms : Nat) (h : identifier = 0x014 → ¬ RecoveryModeCommand data) :
    (s.handle_received_frame identifier data received_at_ms).recovery_beacon_active =
      s.recovery_beacon_active := by
  unfold LinkState.handle_received_frame
  split <;> rename_i hmode
  · rw [handle_recovery_mode_command_eq, if_neg (h hmode)]
  · split
    · rfl
    · split <;> rfl

theorem idle_iteration {s : Link} (h : Idle s) (now_ms : Nat) :
    s.power_task.iteration s.recovery_beacon_active now_ms s.can_cache =
      (s.power_task, s.can_cache) := by
  obtain ⟨⟨cache, active, invalid_at⟩, ⟨active_previous, snapshot, source, refresh⟩⟩ := s
  obtain ⟨rfl, rfl⟩ := h
  rfl

theorem idle_step {s : Link} (h : Idle s) (action : LinkAction)
    (hmode : ∀ data received_at_ms, action = .received 0x014 data received_at_ms →
      ¬ RecoveryModeCommand data) : Idle (s.step action) := by
  cases action with
  | received identifier data received_at_ms =>
    refine ⟨?_, h.task⟩
    rw [← h.beacon]
    exact received_beacon _ _ _ _ fun hid => hmode data received_at_ms (by rw [hid])
  | exit_recovery => exact ⟨rfl, h.task⟩
  | power_tick now_ms =>
    simp only [Link.step, idle_iteration h]
    exact h
  | clear_event_flags flags revision => exact ⟨h.beacon, h.task⟩

theorem never_entered_snoc {actions : List LinkAction} {action : LinkAction}
    (h : NeverEntered (actions ++ [action])) :
    NeverEntered actions ∧ ∀ data received_at_ms, action = .received 0x014 data received_at_ms →
      ¬ RecoveryModeCommand data := by
  constructor
  · intro data received_at_ms hmem
    exact h data received_at_ms (List.mem_append_left _ hmem)
  · rintro data received_at_ms rfl
    exact h data received_at_ms (by simp)

theorem run_idle {actions : List LinkAction} (h : NeverEntered actions) :
    Idle (Link.run actions) := by
  induction actions using List.reverseRecOn with
  | nil => exact ⟨rfl, rfl⟩
  | append_singleton actions action ih =>
    obtain ⟨hactions, haction⟩ := never_entered_snoc h
    rw [Link.run_snoc]
    exact idle_step (ih hactions) action haction

/-! ## The entries over a run -/

namespace Entry

variable {T : Type} (e : Entry T)

/-- A frame fills its own entry. -/
theorem received_entry (s : LinkState) (identifier : UInt16) (data : List UInt8)
    (received_at_ms : Nat)
    (hpower : e.KeepsPower ∨ (identifier = 0x014 → ¬ RecoveryModeCommand data)) :
    e.get (s.handle_received_frame identifier data received_at_ms).can_cache =
      match valid_frame e.id (.received identifier data received_at_ms) with
      | some valid => e.stored (some valid)
      | none => e.get s.can_cache := by
  simp only [valid_frame]
  by_cases hunknown : identifier = 0x014 ∨ identifier = CAN_ID_DEVICE_HEALTH
  · have hinvalid : ¬ (identifier = e.id ∧ (decode_standard e.id data).isOk) := by
      rintro ⟨hid, hok⟩
      rw [← hid, unknown_frame data hunknown] at hok
      cases hok
    rw [if_neg hinvalid]
    rcases hunknown with rfl | rfl
    · rw [mode_frame]
      split <;> rename_i hcommand
      · rcases hpower with hpower | hpower
        · cases s.recovery_beacon_active
          · exact hpower _ _
          · rfl
        · exact absurd hcommand (hpower rfl)
      · rfl
    · rfl
  · rw [decoded_frame s data received_at_ms hunknown]
    by_cases hid : identifier = e.id
    · subst hid
      cases hdecode : decode_standard e.id data with
      | ok message =>
        rw [if_pos ⟨rfl, rfl⟩, e.decoded hdecode]
        exact e.updated _ _ _
      | error fault =>
        have hinvalid : ¬ (e.id = e.id ∧ (Except.error fault : Decoding CanRxMessage).isOk) := by
          rintro ⟨-, hok⟩
          cases hok
        rw [if_neg hinvalid]
    · rw [if_neg fun h => hid h.1]
      cases hdecode : decode_standard identifier data with
      | ok message =>
        apply e.update_other
        rintro value rfl
        exact hid ((frame_id hdecode).symm.trans (e.carried value))
      | error fault => rfl

theorem tick_entry (hpower : e.KeepsPower) (task : RecoveryPowerTask) (active : Bool)
    (now_ms : Nat) (cache : CanCache) :
    e.get (task.iteration active now_ms cache).2 = e.get cache := by
  unfold RecoveryPowerTask.iteration
  split
  · exact hpower _ _
  · split
    · exact hpower _ _
    · split
      · exact hpower _ _
      · rfl

theorem step_entry (s : Link) (action : LinkAction)
    (hpower : e.KeepsPower ∨ (Idle s ∧ ∀ data received_at_ms,
      action = .received 0x014 data received_at_ms → ¬ RecoveryModeCommand data)) :
    e.get (s.step action).can_cache =
      match valid_frame e.id action with
      | some valid => e.stored (some valid)
      | none => e.get s.can_cache := by
  cases action with
  | received identifier data received_at_ms =>
    apply e.received_entry
    rcases hpower with hpower | ⟨-, hmode⟩
    · exact .inl hpower
    · exact .inr fun hid => hmode data received_at_ms (by rw [hid])
  | exit_recovery => rfl
  | power_tick now_ms =>
    rcases hpower with hpower | ⟨hidle, -⟩
    · exact e.tick_entry hpower _ _ _ _
    · simp only [Link.step, idle_iteration hidle]
      rfl
  | clear_event_flags flags revision => exact e.latch_kept _ _ _

/-- An entry holds the last valid frame of its identifier. -/
theorem run_entry {actions : List LinkAction} (hpower : e.KeepsPower ∨ NeverEntered actions) :
    e.get (Link.run actions).can_cache = e.stored (last_valid e.id actions) := by
  induction actions using List.reverseRecOn with
  | nil => exact e.initial
  | append_singleton actions action ih =>
    have hbefore : e.KeepsPower ∨ NeverEntered actions :=
      hpower.imp_right fun h => (never_entered_snoc h).1
    have hstep : e.KeepsPower ∨ (Idle (Link.run actions) ∧ ∀ data received_at_ms,
        action = .received 0x014 data received_at_ms → ¬ RecoveryModeCommand data) :=
      hpower.imp_right fun h => ⟨run_idle (never_entered_snoc h).1, (never_entered_snoc h).2⟩
    rw [Link.run_snoc, e.step_entry _ _ hstep, last_valid_snoc, ih hbefore]
    cases valid_frame e.id action <;> rfl

end Entry

/-! ## The fields of the packet -/

/-- `now_ms` is later than the whole run. -/
def Later (now_ms : Nat) (actions : List LinkAction) : Prop :=
  ∀ action ∈ actions, ∀ at_ms, action.at_ms = some at_ms → at_ms ≤ now_ms

theorem stale_or_fresh {T : Type} (e : Entry T) {actions : List LinkAction} {now_ms : Nat}
    (hpower : e.KeepsPower ∨ NeverEntered actions) (hnow : Later now_ms actions) :
    stale_or (e.get (Link.run actions).can_cache) now_ms (window e.id) =
      (fresh_frame actions now_ms e.id).map e.read := by
  rw [e.run_entry hpower]
  unfold fresh_frame
  cases h : last_valid e.id actions with
  | none => rfl
  | some valid =>
    obtain ⟨data, received_at_ms⟩ := valid
    have hlater : received_at_ms ≤ now_ms := hnow _ (mem_of_last_valid h).1 _ rfl
    by_cases hwindow : now_ms - received_at_ms ≤ window e.id
    · have hfresh : (e.stored (some (data, received_at_ms))).freshness now_ms (window e.id) =
          .Fresh := if_pos ⟨hlater, hwindow⟩
      rw [stale_or, if_pos hfresh, Option.bind_some]
      dsimp only
      rw [if_pos hwindow]
      rfl
    · have hstale : (e.stored (some (data, received_at_ms))).freshness now_ms (window e.id) =
          .Stale := if_neg fun h => hwindow h.2
      rw [stale_or, hstale, if_neg nofun, Option.bind_some]
      dsimp only
      rw [if_neg hwindow]
      rfl

/-- What the packet is built from. -/
def inputs (fresh : UInt16 → Option (List UInt8)) (gnss : GnssTelemetry) (globals : LinkGlobals) :
    MissionInputs where
  mission := (fresh 0x102).map mission_status
  kinematics := (fresh 0x100).map kinematics
  control := (fresh 0x101).map control
  tilt := (fresh 0x107).map attitude_tilt
  lps := (fresh 0x108).map lps
  airspeed := (fresh 0x109).map airspeed
  power := (fresh 0x103).map power_time
  descent := (fresh 0x104).map descent_core
  gnss := gnss
  globals := globals

theorem mission_inputs_fresh {actions : List LinkAction} {now_ms : Nat}
    (hmode : NeverEntered actions) (hnow : Later now_ms actions) (gnss : GnssTelemetry)
    (globals : LinkGlobals) :
    mission_inputs (Link.run actions).can_cache now_ms gnss globals =
      inputs (fresh_frame actions now_ms) gnss globals := by
  have hentry {T : Type} (e : Entry T) := stale_or_fresh e (.inr hmode) hnow
  unfold mission_inputs inputs
  congr 1
  · exact hentry mission_status_entry
  · exact hentry kinematics_entry
  · exact hentry control_entry
  · exact hentry attitude_tilt_entry
  · exact hentry lps_entry
  · exact hentry airspeed_entry
  · exact hentry power_time_entry
  · exact hentry descent_core_entry

/-- The raw field of a fresh frame, or the stale code. -/
def field {α : Type} (frame : Option (List UInt8)) (raw : List UInt8 → α) (stale : α) : α :=
  (frame.map raw).getD stale

section Fields

variable (fresh : UInt16 → Option (List UInt8))

structure CommandReceiveFields (value : CommandReceiveTelemetry) : Prop where
  tilt_magnitude : value.tilt_magnitude = field (fresh 0x107) magnitude 123
  tilt_direction : value.tilt_direction = field (fresh 0x107) direction 0
  fin_mode : value.fin_mode = field (fresh 0x102) (octet · 5) 15
  para_mode : value.para_mode = field (fresh 0x102) (octet · 6) 15
  fin_angle : value.fin_angle = field (fresh 0x100) (octet · 5) 249
  para_angle : value.para_angle = field (fresh 0x102) (octet · 7) 247
  pressure : value.pressure = field (fresh 0x108) (word · 1) 2039
  temperature : value.temperature = field (fresh 0x108) (octet · 3) 247
  airspeed : value.airspeed = field (fresh 0x109) (octet · 1) 252
  logic_voltage : value.logic_voltage = field (fresh 0x103) (octet · 1) 253
  motor_voltage : value.motor_voltage = field (fresh 0x103) (octet · 2) 253
  display_roll : value.display_roll = field (fresh 0x100) (word · 1) 0x8004

structure FlightFields (value : FlightTelemetry) : Prop where
  roll : value.roll = field (fresh 0x100) (word · 1) 0x8004
  roll_rate : value.roll_rate = field (fresh 0x100) (word · 3) 0x8004
  tilt_magnitude : value.tilt_magnitude = field (fresh 0x107) magnitude 123
  tilt_direction : value.tilt_direction = field (fresh 0x107) direction 0
  fin_angle : value.fin_angle = field (fresh 0x100) (octet · 5) 249
  fin_rate : value.fin_rate = field (fresh 0x100) (word · 6) 0x8002
  pressure : value.pressure = field (fresh 0x108) (word · 1) 2039
  temperature : value.temperature = field (fresh 0x108) (octet · 3) 247
  airspeed : value.airspeed = field (fresh 0x109) (octet · 1) 252
  requested_torque : value.requested_torque = field (fresh 0x101) (word · 1) 0x800
  elapsed : value.elapsed = field (fresh 0x101) (octet · 3) 0xfa

structure DescentFields (value : DescentTelemetry) : Prop where
  pressure : value.pressure = field (fresh 0x108) (word · 1) 2039
  temperature : value.temperature = field (fresh 0x108) (octet · 3) 247
  para_angle : value.para_angle = field (fresh 0x104) (octet · 3) 247
  elapsed : value.elapsed = field (fresh 0x103) (word · 3) 0xfffa

/-- The packet is only built from a fresh frame. -/
structure ControlRollFields (value : ControlRollTelemetryV2Packet) (data : List UInt8) : Prop where
  fresh : fresh 0x10a = some data
  reference : value.control_roll_reference_unwrapped_raw = word data 2
  deviation : value.roll_deviation_unwrapped_raw = word data 4
  flags : value.flags = octet data 6
  capture : value.reference_capture_event_sequence = octet data 7

/-- The fields that came over CAN. -/
def Shown : ApplicationPacket → Prop
  | .CommandReceive value => CommandReceiveFields fresh value
  | .Flight value => FlightFields fresh value
  | .Descent value => DescentFields fresh value
  | .ControlRollTelemetryV2 value => ∃ data, ControlRollFields fresh value data
  | _ => True

/-- The kind of the packet, from the state in a fresh `0x102`. -/
def kind (prefer_control_roll_v2 control_roll_event_only : Bool) : Option UInt8 :=
  match fresh 0x102 with
  | none => if control_roll_event_only then none else some 0xa8
  | some status =>
    if prefer_control_roll_v2 ∧ 1 ≤ octet status 1 ∧ octet status 1 ≤ 3 ∧ (fresh 0x10a).isSome then
      some 0xa7
    else if control_roll_event_only then none
    else some (0xa0 + octet status 1)

end Fields

def header : ApplicationPacket → PacketHeader
  | .CommandReceive _ => .CommandReceive
  | .Flight value => value.header
  | .Descent _ => .Descent
  | .RecoveryBeacon _ => .RecoveryBeacon
  | .MissionLinkFallbackTelemetry _ => .MissionLinkFallbackTelemetry
  | .RecoveryLogData _ => .RecoveryLogData
  | .CommandResult _ => .CommandResult
  | .GroundTimeRequest _ => .GroundTimeRequest
  | .ControlRollTelemetryV2 _ => .ControlRollTelemetryV2

/-- The kind of what was chosen, if it is a packet. -/
def chosen_kind : PeriodicChoice → Option UInt8
  | .packet packet => some (header packet).raw
  | .nothing | .unreachable => none

/-- A frame of the mission's state. -/
structure Status (status : List UInt8) (state : MissionState) : Prop where
  decoded : MissionState.decode (octet status 1) = some state
  known : state ≠ .Unknown
  fin_mode : (mission_status status).fin_mode.raw = octet status 5
  para_mode : (mission_status status).para_mode.raw = octet status 6

theorem status_of_format {status : List UInt8} (h : Format 0x102 status) :
    ∃ state, Status status state := by
  obtain ⟨-, hstate, hfin, hpara⟩ := h
  obtain ⟨hdeclared, hknown⟩ := (state_known _).mp hstate
  obtain ⟨state, hstate⟩ := (state_declared _).mp hdeclared
  obtain ⟨fin_mode, hfin⟩ := (fin_mode_declared _).mp hfin
  obtain ⟨para_mode, hpara⟩ := (para_mode_declared _).mp hpara
  refine ⟨state, hstate, (unknown_raw hstate).mp hknown, ?_, ?_⟩
  · unfold mission_status
    rw [hfin]
    exact fin_mode_raw hfin
  · unfold mission_status
    rw [hpara]
    exact para_mode_raw hpara

theorem fresh_status {actions : List LinkAction} {now_ms : Nat} {status : List UInt8}
    (h : fresh_frame actions now_ms 0x102 = some status) : ∃ state, Status status state := by
  obtain ⟨⟨data, received_at_ms⟩, hlast, hwindow⟩ := Option.bind_eq_some_iff.mp h
  obtain ⟨-, ⟨⟩⟩ := Option.ite_none_right_eq_some.mp hwindow
  exact status_of_format (format_of_valid (mem_of_last_valid hlast).2)

theorem mapped {T α : Type} (frame : Option (List UInt8)) (read : List UInt8 → T) (get : T → α)
    (stale : α) :
    ((frame.map read).map get).getD stale = field frame (fun data => get (read data)) stale := by
  cases frame <;> rfl

section Packets

variable {fresh : UInt16 → Option (List UInt8)} (gnss : GnssTelemetry) (globals : LinkGlobals)

theorem command_receive_shown {status : List UInt8} {state : MissionState}
    (hfresh : fresh 0x102 = some status) (hstatus : Status status state) :
    Shown fresh (command_receive_packet (inputs fresh gnss globals)) where
  tilt_magnitude := mapped _ _ _ _
  tilt_direction := mapped _ _ _ _
  fin_mode := by
    rw [hfresh]
    simpa [inputs, field, hfresh] using hstatus.fin_mode
  para_mode := by
    rw [hfresh]
    simpa [inputs, field, hfresh] using hstatus.para_mode
  fin_angle := mapped _ _ _ _
  para_angle := mapped _ _ _ _
  pressure := mapped _ _ _ _
  temperature := mapped _ _ _ _
  airspeed := mapped _ _ _ _
  logic_voltage := mapped _ _ _ _
  motor_voltage := mapped _ _ _ _
  display_roll := mapped _ _ _ _

theorem flight_shown (header : PacketHeader) (interval_events : UInt16) :
    FlightFields fresh (flight_packet (inputs fresh gnss globals) header interval_events) where
  roll := mapped _ _ _ _
  roll_rate := mapped _ _ _ _
  tilt_magnitude := mapped _ _ _ _
  tilt_direction := mapped _ _ _ _
  fin_angle := mapped _ _ _ _
  fin_rate := mapped _ _ _ _
  pressure := mapped _ _ _ _
  temperature := mapped _ _ _ _
  airspeed := mapped _ _ _ _
  requested_torque := mapped _ _ _ _
  elapsed := mapped _ _ _ _

theorem descent_shown : Shown fresh (descent_packet (inputs fresh gnss globals)) where
  pressure := mapped _ _ _ _
  temperature := mapped _ _ _ _
  para_angle := mapped _ _ _ _
  elapsed := mapped _ _ _ _

/-- The arm of each known state. -/
theorem mission_packet_shown {status : List UInt8} {state : MissionState}
    (hfresh : fresh 0x102 = some status) (hstatus : Status status state)
    (interval_events : UInt16) :
    ∃ packet, mission_packet (inputs fresh gnss globals) interval_events state = .packet packet ∧
      (header packet).raw = 0xa0 + octet status 1 ∧ Shown fresh packet := by
  rw [← state_raw hstatus.decoded]
  cases state with
  | CommandReceive => exact ⟨_, rfl, rfl, command_receive_shown gnss globals hfresh hstatus⟩
  | LiftoffDetection | EngineBurn | Control =>
    exact ⟨_, rfl, rfl, flight_shown gnss globals _ interval_events⟩
  | Descent => exact ⟨_, rfl, rfl, descent_shown gnss globals⟩
  | Unknown => exact absurd rfl hstatus.known

end Packets

theorem flight_state_raw {status : List UInt8} {state : MissionState} (h : Status status state) :
    flight_state state = true ↔ 1 ≤ octet status 1 ∧ octet status 1 ≤ 3 := by
  rw [← state_raw h.decoded]
  have hknown := h.known
  cases state with
  | Unknown => exact absurd rfl hknown
  | _ => decide

/-- The `A7` packet is built in flight, from a fresh frame. -/
theorem control_roll_shown {fresh : UInt16 → Option (List UInt8)} {value : ControlRollTelemetryV2}
    (h : (fresh 0x10a).map control_roll_v2 = some value) :
    Shown fresh (control_roll_packet value) := by
  obtain ⟨data, hfresh, rfl⟩ := Option.map_eq_some_iff.mp h
  exact ⟨data, hfresh, rfl, rfl, rfl, rfl⟩

section Choice

variable {fresh : UInt16 → Option (List UInt8)} {cache : CanCache} {now_ms : Nat}
  {gnss : GnssTelemetry} {globals : LinkGlobals}

/-- Without a fresh `0x102`. -/
theorem choice_unknown (hinputs : mission_inputs cache now_ms gnss globals = inputs fresh gnss globals)
    (hbeacon : globals.recovery_beacon_active = false) (hfresh : fresh 0x102 = none)
    (sequence : UInt8) (prefer_control_roll_v2 control_roll_event_only : Bool) :
    periodic_choice cache now_ms gnss globals sequence prefer_control_roll_v2
        control_roll_event_only =
      if control_roll_event_only then .nothing
      else .packet (mission_link_fallback_packet_with_health cache now_ms gnss globals sequence
        globals.can_fallback_health) := by
  have hstate : ((inputs fresh gnss globals).mission.map (·.state)).getD .Unknown = .Unknown := by
    simp [inputs, hfresh]
  rw [periodic_choice_eq]
  simp [hinputs, hstate, hbeacon, flight_state]

/-- With a fresh `0x102`. -/
theorem choice_known (hinputs : mission_inputs cache now_ms gnss globals = inputs fresh gnss globals)
    (hroll : stale_or cache.control_roll_v2 now_ms FRESHNESS_10_HZ_MS =
      (fresh 0x10a).map control_roll_v2)
    (hbeacon : globals.recovery_beacon_active = false) {status : List UInt8} {state : MissionState}
    (hfresh : fresh 0x102 = some status) (hstatus : Status status state)
    (sequence : UInt8) (prefer_control_roll_v2 control_roll_event_only : Bool) :
    periodic_choice cache now_ms gnss globals sequence prefer_control_roll_v2
        control_roll_event_only =
      match (if prefer_control_roll_v2 ∧ flight_state state then
        (fresh 0x10a).map control_roll_v2 else none) with
      | some value => .packet (control_roll_packet value)
      | none =>
        if control_roll_event_only then .nothing
        else mission_packet (inputs fresh gnss globals) cache.event_snapshot.1 state := by
  have hstate : ((inputs fresh gnss globals).mission.map (·.state)).getD .Unknown = state := by
    simp [inputs, hfresh, mission_status, hstatus.decoded]
  rw [periodic_choice_eq]
  dsimp only
  rw [hinputs, hstate, hroll, hbeacon]
  cases (if prefer_control_roll_v2 ∧ flight_state state then
    (fresh 0x10a).map control_roll_v2 else none) with
  | some value => rfl
  | none =>
    dsimp only
    rw [if_neg Bool.false_ne_true, if_neg hstatus.known]

end Choice

theorem choice_fresh_or_stale {actions : List LinkAction} {slot : Slot}
    (hmode : NeverEntered actions) (hnow : Later slot.now_ms actions) :
    chosen_kind ((Link.run actions).choice slot) =
      kind (fresh_frame actions slot.now_ms) slot.prefer_control_roll_v2
        slot.control_roll_event_only ∧
    ∀ packet, (Link.run actions).choice slot = .packet packet →
      Shown (fresh_frame actions slot.now_ms) packet := by
  obtain ⟨now_ms, gnss, others, sequence, prefer_control_roll_v2, control_roll_event_only⟩ := slot
  have hinputs := mission_inputs_fresh hmode hnow gnss ((Link.run actions).globals others)
  have hroll : stale_or (Link.run actions).can_cache.control_roll_v2 now_ms FRESHNESS_10_HZ_MS =
      (fresh_frame actions now_ms 0x10a).map control_roll_v2 :=
    stale_or_fresh control_roll_v2_entry (.inr hmode) hnow
  have hbeacon : ((Link.run actions).globals others).recovery_beacon_active = false :=
    (run_idle hmode).beacon
  unfold kind Link.choice
  dsimp only
  cases hfresh : fresh_frame actions now_ms 0x102 with
  | none =>
    rw [choice_unknown hinputs hbeacon hfresh]
    cases control_roll_event_only with
    | true => exact ⟨rfl, nofun⟩
    | false =>
      refine ⟨rfl, ?_⟩
      rintro packet ⟨⟩
      exact trivial
  | some status =>
    obtain ⟨state, hstatus⟩ := fresh_status hfresh
    rw [choice_known hinputs hroll hbeacon hfresh hstatus]
    dsimp only
    split <;> rename_i value hA7
    · obtain ⟨⟨hprefer, hflight⟩, hvalue⟩ := Option.ite_none_right_eq_some.mp hA7
      obtain ⟨data, hroll_fresh, -⟩ := Option.map_eq_some_iff.mp hvalue
      obtain ⟨hlow, hhigh⟩ := (flight_state_raw hstatus).mp hflight
      rw [if_pos ⟨hprefer, hlow, hhigh, Option.isSome_of_eq_some hroll_fresh⟩]
      refine ⟨rfl, ?_⟩
      rintro packet ⟨⟩
      exact control_roll_shown hvalue
    · have hnone : ¬ (prefer_control_roll_v2 = true ∧ 1 ≤ octet status 1 ∧ octet status 1 ≤ 3 ∧
          (fresh_frame actions now_ms 0x10a).isSome = true) := by
        rintro ⟨hprefer, hlow, hhigh, hsome⟩
        rw [if_pos ⟨hprefer, (flight_state_raw hstatus).mpr ⟨hlow, hhigh⟩⟩,
          Option.map_eq_none_iff] at hA7
        rw [hA7] at hsome
        cases hsome
      rw [if_neg hnone]
      cases control_roll_event_only with
      | true => exact ⟨rfl, nofun⟩
      | false =>
        obtain ⟨packet, hpacket, hkind, hshown⟩ := mission_packet_shown gnss
          ((Link.run actions).globals others) hfresh hstatus
          (Link.run actions).can_cache.event_snapshot.1
        simp only [Bool.false_eq_true, if_false]
        rw [hpacket]
        refine ⟨congrArg some hkind, ?_⟩
        rintro packet' ⟨⟩
        exact hshown

/-- Over every run without a recovery period, the kind of the packet comes from a `0x102` at most
300 ms old, and its fields are the raw fields of the last valid frames in their windows, or the
stale codes. -/
theorem telemetry_fresh_or_stale (actions : List LinkAction) (slot : Slot)
    (hmode : NeverEntered actions) (hnow : Later slot.now_ms actions) :
    chosen_kind ((Link.run actions).choice slot) =
      kind (fresh_frame actions slot.now_ms) slot.prefer_control_roll_v2
        slot.control_roll_event_only ∧
    (∀ packet, (Link.run actions).choice slot = .packet packet →
      Shown (fresh_frame actions slot.now_ms) packet) ∧
    ((Link.run actions).periodic_packet slot).map (·.frame) =
      match (Link.run actions).choice slot with
      | .packet packet => packet.encode.toOption
      | .nothing | .unreachable => none := by
  obtain ⟨hkind, hshown⟩ := choice_fresh_or_stale hmode hnow
  exact ⟨hkind, hshown, (Link.run actions).periodic_packet_frame slot⟩

/-- A good `0x100` 30 ms before the slot, a short one after it, and an old `0x108`. -/
def liftoff_run : List LinkAction :=
  [.received 0x102 [7, 1, 0x08, 0, 0, 5, 15, 3] 0,
   .received 0x108 [1, 0xf4, 0x03, 80] 150,
   .received 0x100 [9, 0x34, 0x12, 0x78, 0x56, 40, 0xbc, 0x1a] 270,
   .power_tick 280,
   .received 0x100 [10, 1, 1, 1, 1, 1, 1] 299]

def liftoff_slot : Slot where
  now_ms := 300
  gnss := .new
  others := .new
  sequence := 0
  prefer_control_roll_v2 := true
  control_roll_event_only := false

theorem telemetry_fresh_or_stale_liftoff :
    chosen_kind ((Link.run liftoff_run).choice liftoff_slot) = some 0xa1 ∧
    field (fresh_frame liftoff_run 300 0x100) (word · 1) 0x8004 = 0x1234 ∧
    field (fresh_frame liftoff_run 300 0x108) (word · 1) 2039 = 2039 ∧
    (∀ packet, (Link.run liftoff_run).choice liftoff_slot = .packet packet →
      Shown (fresh_frame liftoff_run 300) packet) := by
  have hmode : NeverEntered liftoff_run := by
    intro data received_at_ms h
    simp [liftoff_run] at h
  have hnow : Later liftoff_slot.now_ms liftoff_run := by
    simp [Later, liftoff_run, liftoff_slot, LinkAction.at_ms]
  have h := telemetry_fresh_or_stale liftoff_run liftoff_slot hmode hnow
  exact ⟨h.1.trans (by decide +kernel), by decide +kernel, by decide +kernel, h.2.1⟩

end Comboard.Telemetry
