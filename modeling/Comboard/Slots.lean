import Comboard.LoraCodec
import Comboard.Telemetry

/-!
# No periodic slot is lost

The CAN decoder bounds every value of the cache, and the substitutes are in the same bounds. So
each packet of a slot fits its layout.
-/

namespace Comboard.Slots

open Lib Lib.Fields CanGrammar Telemetry
open LoraCodec (Encodable Consistent layout encode_iff)

/-! ## What the decoder promises -/

theorem low_nibble {byte : UInt8} (h : byte &&& 0xf0 = 0) : byte.toNat < 2 ^ 4 := by
  revert byte
  apply every_byte
  decide +kernel

theorem low_three {byte : UInt8} (h : byte &&& 0xf8 = 0) : byte.toNat < 2 ^ 3 := by
  revert byte
  apply every_byte
  decide +kernel

theorem word_lt {data : List UInt8} {index width : Nat}
    (h : (octet data (index + 1)).toNat < 2 ^ width) :
    (word data index).toNat < 2 ^ (8 + width) := by
  have hlow := (octet data index).toNat_lt
  have hhigh := Nat.mul_le_mul_left (2 ^ 8) (Nat.succ_le_of_lt h)
  unfold word
  rw [u16_from_le_bytes_toNat, Nat.pow_add]
  omega

theorem magnitude_lt (packed : UInt16) : (packed &&& 0x7f).toUInt8.toNat < 2 ^ 7 := by
  have hmask : (0x7f : UInt16).toNat = 2 ^ 7 - 1 := rfl
  rw [UInt16.toNat_toUInt8, UInt16.toNat_and, hmask, Nat.and_two_pow_sub_one_eq_mod]
  omega

theorem direction_lt (packed : UInt16) : (packed >>> 7).toNat < 2 ^ 9 := by
  have hpacked := packed.toNat_lt
  have hwidth : (7 : UInt16).toNat % 16 = 7 := rfl
  rw [UInt16.toNat_shiftRight, hwidth, Nat.shiftRight_eq_div_pow]
  omega

/-- The bounds of the values in the cache. -/
structure Bounded (cache : CanCache) : Prop where
  control : ∀ value, cache.control.value = some value → value.requested_torque.toNat < 2 ^ 12
  magnitude : ∀ value, cache.attitude_tilt.value = some value → value.magnitude.toNat < 2 ^ 7
  direction : ∀ value, cache.attitude_tilt.value = some value → value.direction.toNat < 2 ^ 9
  pressure : ∀ value, cache.lps.value = some value → value.pressure.toNat < 2 ^ 11
  state : ∀ value, cache.mission_status.value = some value → value.state ≠ .Unknown
  control_roll : ∀ value, cache.control_roll_v2.value = some value →
    Consistent (control_roll_packet value)

/-- A value in an entry came in a frame of its format. -/
theorem value_of_frame {T : Type} (e : Entry T) (hpower : e.KeepsPower) {actions : List LinkAction}
    {value : T} (h : (e.get (Link.run actions).can_cache).value = some value) :
    ∃ data, Format e.id data ∧ e.read data = value := by
  rw [e.run_entry (.inl hpower)] at h
  cases hlast : last_valid e.id actions with
  | none =>
    rw [hlast] at h
    cases h
  | some valid =>
    obtain ⟨data, received_at_ms⟩ := valid
    rw [hlast] at h
    cases h
    exact ⟨data, format_of_valid (mem_of_last_valid hlast).2, rfl⟩

theorem run_bounded (actions : List LinkAction) : Bounded (Link.run actions).can_cache where
  control value h := by
    obtain ⟨data, ⟨-, hreserved⟩, rfl⟩ := value_of_frame control_entry (fun _ _ => rfl) h
    exact word_lt (low_nibble hreserved)
  magnitude value h := by
    obtain ⟨data, -, rfl⟩ := value_of_frame attitude_tilt_entry (fun _ _ => rfl) h
    exact magnitude_lt _
  direction value h := by
    obtain ⟨data, -, rfl⟩ := value_of_frame attitude_tilt_entry (fun _ _ => rfl) h
    exact direction_lt _
  pressure value h := by
    obtain ⟨data, ⟨-, hreserved⟩, rfl⟩ := value_of_frame lps_entry (fun _ _ => rfl) h
    exact word_lt (low_three hreserved)
  state value h := by
    obtain ⟨data, hformat, rfl⟩ := value_of_frame mission_status_entry (fun _ _ => rfl) h
    obtain ⟨state, hstatus⟩ := status_of_format hformat
    have hstate : (mission_status data).state = state := by simp [mission_status, hstatus.decoded]
    exact hstate ▸ hstatus.known
  control_roll value h := by
    obtain ⟨data, ⟨-, -, hflags, hreference, hdeviation⟩, rfl⟩ :=
      value_of_frame control_roll_v2_entry (fun _ _ => rfl) h
    exact ⟨hflags, hreference, hdeviation⟩

/-! ## What the layouts need -/

theorem command_receive_encodable {value : CommandReceiveTelemetry}
    (hstatus : value.status.toNat < 2 ^ 24) (hmagnitude : value.tilt_magnitude.toNat < 2 ^ 7)
    (hdirection : value.tilt_direction.toNat < 2 ^ 9) (hfin : value.fin_mode.toNat < 2 ^ 4)
    (hpara : value.para_mode.toNat < 2 ^ 4) (hpressure : value.pressure.toNat < 2 ^ 11)
    (hheight : value.height.toNat < 2 ^ 9) : Encodable (.CommandReceive value) := by
  refine ⟨trivial, ?_⟩
  simp only [layout, fits_cons]
  exact ⟨by decide, hstatus, UInt8.toNat_lt _, hmagnitude, hdirection, hfin, hpara,
    UInt8.toNat_lt _, UInt8.toNat_lt _, hpressure, UInt8.toNat_lt _, UInt8.toNat_lt _,
    UInt8.toNat_lt _, UInt8.toNat_lt _, UInt16.toNat_lt _, UInt16.toNat_lt _, hheight,
    UInt16.toNat_lt _, by decide, fits_nil⟩

theorem flight_encodable {value : FlightTelemetry}
    (hheader : value.header = .LiftoffDetection ∨ value.header = .EngineBurn ∨
      value.header = .Control)
    (hmagnitude : value.tilt_magnitude.toNat < 2 ^ 7)
    (hdirection : value.tilt_direction.toNat < 2 ^ 9) (hpressure : value.pressure.toNat < 2 ^ 11)
    (htorque : value.requested_torque.toNat < 2 ^ 12) (hheight : value.height.toNat < 2 ^ 9) :
    Encodable (.Flight value) := by
  refine ⟨hheader, ?_⟩
  simp only [layout, fits_cons]
  exact ⟨UInt8.toNat_lt _, UInt16.toNat_lt _, UInt16.toNat_lt _, UInt16.toNat_lt _, hmagnitude,
    hdirection, UInt8.toNat_lt _, UInt16.toNat_lt _, hpressure, UInt8.toNat_lt _,
    UInt8.toNat_lt _, htorque, UInt8.toNat_lt _, UInt16.toNat_lt _, UInt16.toNat_lt _, hheight,
    fits_nil⟩

theorem descent_encodable {value : DescentTelemetry} (hstatus : value.status.toNat < 2 ^ 13)
    (hpressure : value.pressure.toNat < 2 ^ 11) (hheight : value.height.toNat < 2 ^ 9) :
    Encodable (.Descent value) := by
  refine ⟨trivial, ?_⟩
  simp only [layout, fits_cons]
  exact ⟨by decide, hstatus, hpressure, UInt8.toNat_lt _, UInt8.toNat_lt _, UInt16.toNat_lt _,
    UInt16.toNat_lt _, UInt16.toNat_lt _, hheight, by decide, fits_nil⟩

theorem recovery_beacon_encodable {value : RecoveryBeacon} (hheight : value.height.toNat < 2 ^ 9) :
    Encodable (.RecoveryBeacon value) := by
  refine ⟨trivial, ?_⟩
  simp only [layout, fits_cons]
  exact ⟨by decide, UInt8.toNat_lt _, UInt8.toNat_lt _, UInt16.toNat_lt _, UInt16.toNat_lt _,
    hheight, UInt16.toNat_lt _, by decide, fits_nil⟩

/-- The layout of `A7` has no narrow field. -/
theorem control_roll_encodable {value : ControlRollTelemetryV2Packet}
    (h : Consistent (.ControlRollTelemetryV2 value)) :
    Encodable (.ControlRollTelemetryV2 value) := by
  refine ⟨h, ?_⟩
  simp only [layout, fits_cons]
  exact ⟨by decide, by decide, UInt16.toNat_lt _, UInt16.toNat_lt _, UInt8.toNat_lt _,
    UInt8.toNat_lt _, fits_nil⟩

/-- Nor has that of `A8`. -/
theorem fallback_encodable {value : MissionLinkFallbackTelemetry}
    (h : Consistent (.MissionLinkFallbackTelemetry value)) :
    Encodable (.MissionLinkFallbackTelemetry value) := by
  refine ⟨h, ?_⟩
  simp only [layout, fits_cons]
  exact ⟨by decide, by decide, UInt8.toNat_lt _, UInt8.toNat_lt _, UInt16.toNat_lt _,
    UInt8.toNat_lt _, UInt8.toNat_lt _, UInt16.toNat_lt _, UInt16.toNat_lt _, UInt16.toNat_lt _,
    UInt16.toNat_lt _, UInt16.toNat_lt _, UInt16.toNat_lt _, UInt8.toNat_lt _, UInt8.toNat_lt _,
    UInt8.toNat_lt _, fits_nil⟩

/-! ## The status of `A0` -/

theorem or_lt {a b : UInt32} {width : Nat} (ha : a.toNat < 2 ^ width) (hb : b.toNat < 2 ^ width) :
    (a ||| b).toNat < 2 ^ width := by
  rw [UInt32.toNat_or]
  exact Nat.or_lt_two_pow ha hb

theorem and_lt {a : UInt32} (b : UInt32) {width : Nat} (ha : a.toNat < 2 ^ width) :
    (a &&& b).toNat < 2 ^ width := by
  rw [UInt32.toNat_and]
  exact Nat.lt_of_le_of_lt Nat.and_le_left ha

theorem flag32_lt (value : Bool) {bit : UInt32} {width : Nat}
    (hbit : ((1 : UInt32) <<< bit).toNat < 2 ^ width) : (flag32 value bit).toNat < 2 ^ width := by
  cases value with
  | false =>
    have hzero : flag32 false bit = 0 := UInt32.zero_shiftLeft
    rw [hzero]
    exact Nat.two_pow_pos _
  | true => exact hbit

theorem map_command_receive_status_lt (mission_status : UInt16) (config : UInt8)
    (power : Option PowerTimeTelemetry) (lps_fresh airspeed_fresh mission_status_fresh : Bool) :
    (map_command_receive_status mission_status config power lps_fresh airspeed_fresh
      mission_status_fresh).toNat < 2 ^ 24 := by
  unfold map_command_receive_status
  cases power <;> dsimp only <;> repeat' with_reducible apply or_lt
  all_goals exact flag32_lt _ (by decide)

/-! ## The checks of `A8` -/

theorem or_clear {a b mask : UInt16} (ha : a &&& mask = 0) (hb : b &&& mask = 0) :
    (a ||| b) &&& mask = 0 := by
  have hdistrib : (a ||| b) &&& mask = (a &&& mask) ||| (b &&& mask) := by
    rw [← UInt16.toNat_inj]
    simp only [UInt16.toNat_and, UInt16.toNat_or, Nat.and_or_distrib_right]
  rw [hdistrib, ha, hb]
  rfl

theorem flag_clear (value : Bool) {bit mask : UInt16} (hbit : (1 : UInt16) <<< bit &&& mask = 0) :
    flag value bit &&& mask = 0 := by
  cases value with
  | false =>
    have hzero : flag false bit = 0 := UInt16.zero_shiftLeft
    rw [hzero, UInt16.zero_and]
  | true => exact hbit

theorem fallback_can_status_flags_clear (can_health : UInt8) :
    fallback_can_status_flags can_health &&& 0x8000 = 0 := by
  revert can_health
  apply every_byte
  decide +kernel

theorem fallback_primary_loss_reason_le (can_health : UInt8)
    (invalid_is_latest mission_ever : Bool) (mission_age : UInt16) (periodic_ever : Bool)
    (any_periodic_age : UInt16) :
    fallback_primary_loss_reason can_health invalid_is_latest mission_ever mission_age
      periodic_ever any_periodic_age ≤ 7 := by
  unfold fallback_primary_loss_reason
  repeat' split
  all_goals decide

theorem gnss_state_code_le (state : GnssReceiverState) : gnss_state_code state ≤ 8 := by
  cases state <;> decide

theorem state_raw_le (state : MissionState) : state.raw ≤ 4 ∨ state.raw = 0xff := by
  cases state <;> decide

theorem published_fallback_health_le (state : CanRuntimeState) (tec rec : UInt8)
    (bus_off : Bool) : published_fallback_health state tec rec bus_off ≤ 6 := by
  unfold published_fallback_health
  cases classify_can_health tec rec bus_off <;> cases state <;> decide

theorem fallback_consistent (cache : CanCache) (now_ms : Nat) {gnss : GnssTelemetry}
    (globals : LinkGlobals) (sequence : UInt8) {can_health : UInt8} (hheight : gnss.height ≤ 511)
    (hhealth : can_health ≤ 6) :
    Consistent (mission_link_fallback_packet_with_health cache now_ms gnss globals sequence
      can_health) := by
  refine ⟨fallback_primary_loss_reason_le _ _ _ _ _ _, ?_, ?_, gnss_state_code_le _, hheight,
    hhealth⟩
  · dsimp only
    repeat' with_reducible apply or_clear
    all_goals first
      | exact flag_clear _ (by decide)
      | exact fallback_can_status_flags_clear _
  · dsimp only
    cases cache.mission_status.value with
    | none => exact .inr rfl
    | some value => exact state_raw_le value.state

/-! ## The packets -/

theorem value_of_stale_or {T : Type} {latest : Latest T} {now_ms maximum_age_ms : Nat} {value : T}
    (h : stale_or latest now_ms maximum_age_ms = some value) : latest.value = some value :=
  (Option.ite_none_right_eq_some.mp h).2

/-- A field keeps a bound that the cache and the substitute keep. -/
theorem bounded_field {T α : Type} {P : α → Prop} {latest : Latest T} {now_ms maximum_age_ms : Nat}
    {get : T → α} {stale : α} (h : ∀ value, latest.value = some value → P (get value))
    (hstale : P stale) : P (((stale_or latest now_ms maximum_age_ms).map get).getD stale) := by
  cases hvalue : stale_or latest now_ms maximum_age_ms with
  | none => exact hstale
  | some value => exact h value (value_of_stale_or hvalue)

section Packets

variable {cache : CanCache} (hbounded : Bounded cache) (now_ms : Nat) {gnss : GnssTelemetry}
  (hheight : gnss.height.toNat < 2 ^ 9) (globals : LinkGlobals)

include hbounded hheight

theorem command_receive_fits :
    Encodable (command_receive_packet (mission_inputs cache now_ms gnss globals)) := by
  have hstatus (mission_status : UInt16) (config : UInt8) (power : Option PowerTimeTelemetry)
      (lps_fresh airspeed_fresh mission_status_fresh : Bool) := map_command_receive_status_lt
    mission_status config power lps_fresh airspeed_fresh mission_status_fresh
  have hmode {T : Type} (mode : Option T) (raw : T → UInt8) (hraw : ∀ value, (raw value).toNat < 2 ^ 4) :
      ((mode.map raw).getD 15).toNat < 2 ^ 4 := by
    cases mode with
    | none => exact (by decide : (15 : UInt8).toNat < 2 ^ 4)
    | some value => exact hraw value
  have hfin (value : FinMode) : value.raw.toNat < 2 ^ 4 := by cases value <;> decide
  have hpara (value : ParaMode) : value.raw.toNat < 2 ^ 4 := by cases value <;> decide
  apply command_receive_encodable
  · dsimp only
    split <;> split <;> first
      | exact or_lt (or_lt (hstatus _ _ _ _ _ _) (by decide)) (by decide)
      | exact or_lt (and_lt _ (hstatus _ _ _ _ _ _)) (by decide)
      | exact and_lt _ (or_lt (hstatus _ _ _ _ _ _) (by decide))
      | exact and_lt _ (and_lt _ (hstatus _ _ _ _ _ _))
  · exact bounded_field (P := fun raw : UInt8 => raw.toNat < 2 ^ 7) hbounded.magnitude (by decide)
  · exact bounded_field (P := fun raw : UInt16 => raw.toNat < 2 ^ 9) hbounded.direction (by decide)
  · exact hmode _ _ fun value => hfin value.fin_mode
  · exact hmode _ _ fun value => hpara value.para_mode
  · exact bounded_field (P := fun raw : UInt16 => raw.toNat < 2 ^ 11) hbounded.pressure (by decide)
  · exact hheight

theorem flight_fits {header : PacketHeader} (hheader : header = .LiftoffDetection ∨
    header = .EngineBurn ∨ header = .Control) (interval_events : UInt16) :
    Encodable (.Flight (flight_packet (mission_inputs cache now_ms gnss globals) header
      interval_events)) := by
  apply flight_encodable
  · exact hheader
  · exact bounded_field (P := fun raw : UInt8 => raw.toNat < 2 ^ 7) hbounded.magnitude (by decide)
  · exact bounded_field (P := fun raw : UInt16 => raw.toNat < 2 ^ 9) hbounded.direction (by decide)
  · exact bounded_field (P := fun raw : UInt16 => raw.toNat < 2 ^ 11) hbounded.pressure (by decide)
  · exact bounded_field (P := fun raw : UInt16 => raw.toNat < 2 ^ 12) hbounded.control (by decide)
  · exact hheight

theorem descent_fits :
    Encodable (descent_packet (mission_inputs cache now_ms gnss globals)) := by
  apply descent_encodable
  · have hmask : (0x001f : UInt16).toNat < 2 ^ 13 := by decide
    dsimp only
    rw [UInt16.toNat_and]
    exact Nat.lt_of_le_of_lt Nat.and_le_right hmask
  · exact bounded_field (P := fun raw : UInt16 => raw.toNat < 2 ^ 11) hbounded.pressure (by decide)
  · exact hheight

/-- The arm of each known state. -/
theorem mission_packet_fits {state : MissionState} (hstate : state ≠ .Unknown)
    (interval_events : UInt16) :
    ∃ packet, mission_packet (mission_inputs cache now_ms gnss globals) interval_events state =
      .packet packet ∧ Encodable packet := by
  cases state with
  | CommandReceive => exact ⟨_, rfl, command_receive_fits hbounded now_ms hheight globals⟩
  | LiftoffDetection =>
    exact ⟨_, rfl, flight_fits hbounded now_ms hheight globals (.inl rfl) interval_events⟩
  | EngineBurn =>
    exact ⟨_, rfl, flight_fits hbounded now_ms hheight globals (.inr (.inl rfl)) interval_events⟩
  | Control =>
    exact ⟨_, rfl, flight_fits hbounded now_ms hheight globals (.inr (.inr rfl)) interval_events⟩
  | Descent => exact ⟨_, rfl, descent_fits hbounded now_ms hheight globals⟩
  | Unknown => exact absurd rfl hstate

end Packets

/-! ## Every slot -/

/-- A link with any event latch. -/
def latched (s : Link) (flags : UInt16) (revision : UInt32) : Link :=
  { s with
    can_cache := { s.can_cache with event_flags_latched := flags, event_revision := revision } }

theorem latched_bounded {s : Link} (h : Bounded s.can_cache) (flags : UInt16) (revision : UInt32) :
    Bounded (latched s flags revision).can_cache :=
  ⟨h.control, h.magnitude, h.direction, h.pressure, h.state, h.control_roll⟩

/-- A value of `CAN_FALLBACK_HEALTH`. -/
def PublishedHealth (can_health : UInt8) : Prop :=
  can_health = 0 ∨ ∃ state tec rec bus_off,
    can_health = published_fallback_health state tec rec bus_off

theorem published_health_le {can_health : UInt8} (h : PublishedHealth can_health) :
    can_health ≤ 6 := by
  rcases h with rfl | ⟨state, tec, rec, bus_off, rfl⟩
  · decide
  · exact published_fallback_health_le state tec rec bus_off

theorem choice_encodable {s : Link} (hbounded : Bounded s.can_cache) {slot : Slot}
    (hheight : slot.gnss.height ≤ 511) (hhealth : PublishedHealth slot.others.can_fallback_health) :
    (∃ packet, s.choice slot = .packet packet ∧ Encodable packet) ∨
      (s.choice slot = .nothing ∧ slot.control_roll_event_only = true) := by
  obtain ⟨now_ms, gnss, others, sequence, prefer_control_roll_v2, control_roll_event_only⟩ := slot
  have hbits : gnss.height.toNat < 2 ^ 9 := Nat.lt_succ_of_le (UInt16.le_iff_toNat_le.mp hheight)
  unfold Link.choice
  rw [periodic_choice_eq]
  dsimp only
  split <;> rename_i value hA7
  · obtain ⟨-, hvalue⟩ := Option.ite_none_right_eq_some.mp hA7
    exact .inl ⟨_, rfl, control_roll_encodable
      (hbounded.control_roll value (value_of_stale_or hvalue))⟩
  · cases control_roll_event_only with
    | true => exact .inr ⟨rfl, rfl⟩
    | false =>
      rw [if_neg Bool.false_ne_true]
      left
      split
      · exact ⟨_, rfl, recovery_beacon_encodable hbits⟩
      · split <;> rename_i hstate
        · exact ⟨_, rfl, fallback_encodable (fallback_consistent _ _ _ _ hheight
            (published_health_le hhealth))⟩
        · exact mission_packet_fits hbounded now_ms hbits _ hstate _

/-- Over every run, each packet of a slot is encoded and `unreachable!` is not. -/
theorem no_slot_lost (actions : List LinkAction) (flags : UInt16) (revision : UInt32) (slot : Slot)
    (hheight : slot.gnss.height ≤ 511)
    (hhealth : PublishedHealth slot.others.can_fallback_health) :
    (latched (Link.run actions) flags revision).choice slot ≠ .unreachable ∧
    (∀ packet, (latched (Link.run actions) flags revision).choice slot = .packet packet →
      ∃ frame, packet.encode = .ok frame) ∧
    (slot.control_roll_event_only = false →
      ((latched (Link.run actions) flags revision).periodic_packet slot).isSome) := by
  have hbounded := latched_bounded (run_bounded actions) flags revision
  have hframe := (latched (Link.run actions) flags revision).periodic_packet_frame slot
  rcases choice_encodable hbounded hheight hhealth with ⟨packet, hpacket, hencodable⟩ | ⟨hnone, honly⟩
  · obtain ⟨frame, hencode⟩ := (encode_iff packet).mpr hencodable
    rw [hpacket] at hframe ⊢
    refine ⟨nofun, ?_, ?_⟩
    · rintro packet' ⟨⟩
      exact ⟨frame, hencode⟩
    · intro _
      dsimp only at hframe
      rw [hencode] at hframe
      rw [← Option.isSome_map, hframe]
      rfl
  · rw [hnone]
    refine ⟨nofun, nofun, ?_⟩
    intro h
    rw [honly] at h
    cases h

/-- A recovery period in the `Descent` state. -/
def beacon_run : List LinkAction :=
  [.received 0x102 [1, 4, 0, 0, 0, 0, 0, 0] 10, .received 0x014 [0, 1, 3] 20, .power_tick 25]

def beacon_slot : Slot where
  now_ms := 30
  gnss := .new
  others := .new
  sequence := 0
  prefer_control_roll_v2 := true
  control_roll_event_only := false

theorem no_slot_lost_beacon :
    (latched (Link.run beacon_run) 0xffff 7).choice beacon_slot ≠ .unreachable ∧
    (∀ packet, (latched (Link.run beacon_run) 0xffff 7).choice beacon_slot = .packet packet →
      ∃ frame, packet.encode = .ok frame) ∧
    ((latched (Link.run beacon_run) 0xffff 7).periodic_packet beacon_slot).isSome := by
  obtain ⟨hreachable, hencode, hbuilt⟩ :=
    no_slot_lost beacon_run 0xffff 7 beacon_slot (by decide) (.inl rfl)
  exact ⟨hreachable, hencode, hbuilt rfl⟩

end Comboard.Slots
