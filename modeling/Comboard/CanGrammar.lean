import Comboard.Code.CanCodec

/-!
# The frames from the Mission board

`decode_standard` takes exactly the frames of the format and loses no byte of them.
-/

namespace Comboard.CanGrammar

open Lib CanRxMessage

/-! ## The format -/

def octet (data : List UInt8) (index : Nat) : UInt8 := data.getD index 0

def word (data : List UInt8) (index : Nat) : UInt16 :=
  u16_from_le_bytes (octet data index) (octet data (index + 1))

def CommandResultFormat (data : List UInt8) : Prop :=
  data.length = 8 ∧ octet data 0 ≠ 0 ∧ octet data 2 ≤ 3 ∧ octet data 3 ≤ 14

def TimeRequestFormat (data : List UInt8) : Prop := data.length = 1 ∧ octet data 0 ≠ 0

def MissionEventFormat (data : List UInt8) : Prop :=
  data.length = 8 ∧ (octet data 3 ≤ 4 ∨ octet data 3 = 0xff)

def ControlFormat (data : List UInt8) : Prop := data.length = 4 ∧ octet data 2 &&& 0xf0 = 0

def MissionStatusFormat (data : List UInt8) : Prop :=
  data.length = 8 ∧ octet data 1 ≤ 4 ∧ (octet data 5 ≤ 5 ∨ octet data 5 = 15) ∧
    (octet data 6 ≤ 5 ∨ octet data 6 = 15)

def PowerTimeFormat (data : List UInt8) : Prop := data.length = 8 ∧ octet data 7 &&& 0x70 = 0

def DescentCoreFormat (data : List UInt8) : Prop :=
  data.length = 4 ∧ octet data 1 &&& 0xe0 = 0 ∧ octet data 2 = 0

def RecoveryStatusFormat (data : List UInt8) : Prop :=
  data.length = 8 ∧ (1 ≤ octet data 0 ∧ octet data 0 ≤ 4) ∧ octet data 2 ≤ 9 ∧ octet data 3 ≤ 1

def LpsFormat (data : List UInt8) : Prop := data.length = 4 ∧ octet data 2 &&& 0xf8 = 0

def ControlRollV2Format (data : List UInt8) : Prop :=
  data.length = 8 ∧ octet data 1 = 2 ∧ octet data 6 &&& 0xe0 = 0 ∧
    (word data 2 = 0x800a ↔ octet data 6 &&& 0x08 ≠ 0) ∧
    (word data 4 = 0x800a ↔ octet data 6 &&& 0x10 ≠ 0)

/-- The frames of the Mission board, by identifier. -/
def Format (id : UInt16) (data : List UInt8) : Prop :=
  match id with
  | 0x011 => CommandResultFormat data
  | 0x012 => TimeRequestFormat data
  | 0x020 => MissionEventFormat data
  | 0x100 => data.length = 8
  | 0x101 => ControlFormat data
  | 0x102 => MissionStatusFormat data
  | 0x103 => PowerTimeFormat data
  | 0x104 => DescentCoreFormat data
  | 0x105 => RecoveryStatusFormat data
  | 0x106 => data.length = 8
  | 0x107 => data.length = 3
  | 0x108 => LpsFormat data
  | 0x109 => data.length = 2
  | 0x10a => ControlRollV2Format data
  | _ => False

/-- The frame that carries a message. -/
def frame : CanRxMessage → UInt16 × List UInt8
  | .CommandResult value => (0x011,
      [value.transaction_id, value.command, value.phase.raw, value.reason.raw] ++
        (u32_to_le_bytes value.detail).toList)
  | .TimeRequest request_id => (0x012, [request_id])
  | .MissionEvent event => (0x020,
      [event.sequence] ++ (u16_to_le_bytes event.flags).toList ++ [event.state.raw] ++
        (u16_to_le_bytes event.elapsed).toList ++ (u16_to_le_bytes event.detail).toList)
  | .Kinematics value => (0x100,
      [value.sequence] ++ (u16_to_le_bytes value.roll).toList ++
        (u16_to_le_bytes value.roll_rate).toList ++ [value.fin_angle] ++
        (u16_to_le_bytes value.fin_rate).toList)
  | .Control value => (0x101,
      [value.sequence] ++ (u16_to_le_bytes value.requested_torque).toList ++ [value.elapsed])
  | .MissionStatus value => (0x102,
      [value.sequence, value.state.raw] ++ (u16_to_le_bytes value.status).toList ++
        [value.config, value.fin_mode.raw, value.para_mode.raw, value.para_angle])
  | .PowerTime value => (0x103,
      [value.sequence, value.logic_voltage, value.motor_voltage] ++
        (u16_to_le_bytes value.descent_elapsed).toList ++
        (u16_to_le_bytes value.recovery_elapsed).toList ++ [value.flags])
  | .DescentCore value => (0x104,
      [value.sequence] ++ (u16_to_le_bytes value.status).toList ++ [value.para_angle])
  | .RecoveryStatus value => (0x105,
      [value.opcode.raw, value.transfer_id, value.status.raw, value.source.raw] ++
        (u32_to_le_bytes value.total_size).toList)
  | .RecoveryLogData value => (0x106, [value.transfer_id, value.sequence] ++ value.data.toList)
  | .AttitudeTilt value => (0x107,
      [value.sequence] ++
        (u16_to_le_bytes (value.magnitude.toUInt16 ||| value.direction <<< 7)).toList)
  | .Lps value => (0x108,
      [value.sequence] ++ (u16_to_le_bytes value.pressure).toList ++ [value.temperature])
  | .Airspeed value => (0x109, [value.sequence, value.airspeed])
  | .ControlRollV2 value => (0x10a,
      [value.sequence, 2] ++ (u16_to_le_bytes value.control_roll_reference_unwrapped_raw).toList ++
        (u16_to_le_bytes value.roll_deviation_unwrapped_raw).toList ++
        [value.flags, value.reference_capture_event_sequence])

/-! ## Enumerations -/

theorem state_declared (raw : UInt8) :
    raw ≤ 4 ∨ raw = 0xff ↔ ∃ state, MissionState.decode raw = some state := by
  rw [← Option.isSome_iff_exists]
  unfold MissionState.decode
  split <;> grind

theorem state_raw {raw : UInt8} {state : MissionState} (h : MissionState.decode raw = some state) :
    state.raw = raw := by
  unfold MissionState.decode at h
  split at h <;> cases h <;> rfl

theorem phase_declared (raw : UInt8) :
    raw ≤ 3 ↔ ∃ phase, CommandPhase.decode raw = some phase := by
  rw [← Option.isSome_iff_exists]
  unfold CommandPhase.decode
  split <;> grind

theorem phase_raw {raw : UInt8} {phase : CommandPhase} (h : CommandPhase.decode raw = some phase) :
    phase.raw = raw := by
  unfold CommandPhase.decode at h
  split at h <;> cases h <;> rfl

theorem reason_declared (raw : UInt8) :
    raw ≤ 14 ↔ ∃ reason, CommandReason.decode raw = some reason := by
  rw [← Option.isSome_iff_exists]
  unfold CommandReason.decode
  split <;> grind

theorem reason_raw {raw : UInt8} {reason : CommandReason} (h : CommandReason.decode raw = some reason) :
    reason.raw = raw := by
  unfold CommandReason.decode at h
  split at h <;> cases h <;> rfl

theorem fin_mode_declared (raw : UInt8) :
    raw ≤ 5 ∨ raw = 15 ↔ ∃ mode, FinMode.decode raw = some mode := by
  rw [← Option.isSome_iff_exists]
  unfold FinMode.decode
  split <;> grind

theorem fin_mode_raw {raw : UInt8} {mode : FinMode} (h : FinMode.decode raw = some mode) :
    mode.raw = raw := by
  unfold FinMode.decode at h
  split at h <;> cases h <;> rfl

theorem para_mode_declared (raw : UInt8) :
    raw ≤ 5 ∨ raw = 15 ↔ ∃ mode, ParaMode.decode raw = some mode := by
  rw [← Option.isSome_iff_exists]
  unfold ParaMode.decode
  split <;> grind

theorem para_mode_raw {raw : UInt8} {mode : ParaMode} (h : ParaMode.decode raw = some mode) :
    mode.raw = raw := by
  unfold ParaMode.decode at h
  split at h <;> cases h <;> rfl

theorem opcode_declared (raw : UInt8) :
    1 ≤ raw ∧ raw ≤ 4 ↔ ∃ opcode, RecoveryOpcode.decode raw = some opcode := by
  rw [← Option.isSome_iff_exists]
  unfold RecoveryOpcode.decode
  split <;> grind

theorem opcode_raw {raw : UInt8} {opcode : RecoveryOpcode} (h : RecoveryOpcode.decode raw = some opcode) :
    opcode.raw = raw := by
  unfold RecoveryOpcode.decode at h
  split at h <;> cases h <;> rfl

theorem source_declared (raw : UInt8) :
    raw ≤ 1 ↔ ∃ source, RecoverySource.decode raw = some source := by
  rw [← Option.isSome_iff_exists]
  unfold RecoverySource.decode
  split <;> grind

theorem source_raw {raw : UInt8} {source : RecoverySource} (h : RecoverySource.decode raw = some source) :
    source.raw = raw := by
  unfold RecoverySource.decode at h
  split at h <;> cases h <;> rfl

theorem status_declared (raw : UInt8) :
    raw ≤ 9 ↔ ∃ status, RecoveryStatusCode.decode raw = some status := by
  rw [← Option.isSome_iff_exists]
  unfold RecoveryStatusCode.decode
  split <;> grind

theorem status_raw {raw : UInt8} {status : RecoveryStatusCode}
    (h : RecoveryStatusCode.decode raw = some status) :
    status.raw = raw := by
  unfold RecoveryStatusCode.decode at h
  split at h <;> cases h <;> rfl

theorem state_known (raw : UInt8) : raw ≤ 4 ↔ (raw ≤ 4 ∨ raw = 0xff) ∧ raw ≠ 0xff := by
  grind

theorem unknown_raw {raw : UInt8} {state : MissionState}
    (h : MissionState.decode raw = some state) : raw ≠ 0xff ↔ ¬ state = .Unknown := by
  rw [← state_raw h]
  cases state <;> decide

/-- Each flag agrees with its word. -/
theorem flags_agree (a b c d : Prop) [Decidable a] [Decidable b] [Decidable c] [Decidable d] :
    ((a ↔ b) ∧ (c ↔ d)) ↔ ¬ (decide a ≠ decide b ∨ decide c ≠ decide d) := by
  simp only [ne_eq, decide_eq_decide, not_or, Decidable.not_not]

theorem every_mask (value : UInt8) : value &&& 0xff = 0 ↔ value = 0 := by
  have hmask : (0xff : UInt8) = -1 := rfl
  rw [hmask, UInt8.and_neg_one]

theorem unpacked (packed : UInt16) :
    (packed &&& 0x7f).toUInt8.toUInt16 ||| packed >>> 7 <<< 7 = packed := by
  have hpacked := packed.toNat_lt
  have hwidth : (7 : UInt16).toNat % 16 = 7 := rfl
  have hmask : (0x7f : UInt16).toNat = 2 ^ 7 - 1 := rfl
  have hshift : (packed.toNat / 2 ^ 7) <<< 7 % 2 ^ 16 = (packed.toNat / 2 ^ 7) <<< 7 := by
    rw [Nat.shiftLeft_eq]
    omega
  rw [← UInt16.toNat_inj, UInt16.toNat_or, UInt8.toNat_toUInt16, UInt16.toNat_toUInt8,
    UInt16.toNat_and, hmask, Nat.and_two_pow_sub_one_eq_mod, UInt16.toNat_shiftLeft,
    UInt16.toNat_shiftRight, hwidth, Nat.shiftRight_eq_div_pow, hshift, or_shiftLeft _ (by omega)]
  omega

/-! ## Outcomes -/

/-- What `decode_standard` may give for a frame. -/
def Outcome (result : Decoding CanRxMessage) (format : Prop) (sent : UInt16 × List UInt8) : Prop :=
  match result with
  | .ok message => format ∧ frame message = sent
  | .error (.error _) => ¬ format
  | .error .index_out_of_range => False

section Outcomes

variable {id : UInt16} {data : List UInt8} {format : Prop} {sent : UInt16 × List UInt8}

theorem octets (data : List UInt8) : (List.range data.length).map (octet data) = data := by
  apply List.ext_getElem
  · simp
  · intro index hrange hdata
    simp [octet, hdata]

theorem byte_octet {index : Nat} (h : index < data.length) :
    byte data index = .ok (octet data index) := by
  unfold byte octet
  rw [List.getElem?_eq_getElem h, List.getD_eq_getElem?_getD, List.getElem?_eq_getElem h,
    Option.getD_some]

theorem get_u16_word {index : Nat} (h : index + 1 < data.length) :
    get_u16 data index = .ok (word data index) := by
  unfold get_u16 word
  rw [byte_octet (by omega), byte_octet h]
  rfl

theorem get_u32_octets {index : Nat} (h : index + 3 < data.length) :
    get_u32 data index = .ok (u32_from_le_bytes (octet data index) (octet data (index + 1))
      (octet data (index + 2)) (octet data (index + 3))) := by
  unfold get_u32
  rw [byte_octet (by omega), byte_octet (by omega), byte_octet (by omega), byte_octet h]
  rfl

theorem ok_bind {α β : Type} (value : α) (next : α → Decoding β) :
    ((.ok value : Decoding α) >>= next) = next value := rfl

/-- The last check. -/
theorem outcome_last {result : Decoding CanRxMessage} (h : Outcome result (format ∧ True) sent) :
    Outcome result format sent := by
  rwa [and_true] at h

theorem outcome_dlc {expected : Nat} {next : Unit → Decoding CanRxMessage}
    (h : data.length = expected → Outcome (next ()) format sent) :
    Outcome (require_dlc id data expected >>= next) (data.length = expected ∧ format) sent := by
  unfold require_dlc
  split <;> rename_i hlength
  · have hnext := h hlength
    simpa only [ok_bind, hlength, true_and] using hnext
  · rintro ⟨hexpected, -⟩
    exact hlength hexpected

theorem outcome_transaction {index : Nat} {transaction_id : UInt8}
    {next : Unit → Decoding CanRxMessage} (h : Outcome (next ()) format sent) :
    Outcome (require_received_transaction_id id index transaction_id >>= next)
      (transaction_id ≠ 0 ∧ format) sent := by
  unfold require_received_transaction_id
  split <;> rename_i hzero
  · rintro ⟨hne, -⟩
    exact hne hzero
  · simpa only [ok_bind, ne_eq, hzero, not_false_iff, true_and] using h

theorem outcome_reserved {index : Nat} {value reserved_mask : UInt8}
    {next : Unit → Decoding CanRxMessage} (h : Outcome (next ()) format sent) :
    Outcome (require_reserved_zero id index value reserved_mask >>= next)
      (value &&& reserved_mask = 0 ∧ format) sent := by
  unfold require_reserved_zero
  split <;> rename_i hzero
  · simpa only [ok_bind, hzero, true_and] using h
  · rintro ⟨hreserved, -⟩
    exact hzero hreserved

theorem outcome_field {α : Type} {decode : UInt8 → Option α} {declared : Prop} {index : Nat}
    {raw : UInt8} {next : α → Decoding CanRxMessage}
    (hdeclared : declared ↔ ∃ value, decode raw = some value)
    (h : ∀ value, decode raw = some value → Outcome (next value) format sent) :
    Outcome (decode_field id index raw decode >>= next) (declared ∧ format) sent := by
  unfold decode_field
  split <;> rename_i hdecode
  · have hnext := h _ hdecode
    simpa only [ok_bind, hdeclared.mpr ⟨_, hdecode⟩, true_and] using hnext
  · rintro ⟨hin, -⟩
    obtain ⟨value, hvalue⟩ := hdeclared.mp hin
    rw [hdecode] at hvalue
    cases hvalue

theorem outcome_guard {guard : Prop} [Decidable guard] {error : CanDecodeError}
    {skipped : PUnit → Decoding CanRxMessage} {next : Decoding CanRxMessage}
    (h : ¬ guard → Outcome next format sent) :
    Outcome (if guard then throw (.error error) >>= skipped else next) (¬ guard ∧ format) sent := by
  split <;> rename_i hguard
  · rintro ⟨hnot, -⟩
    exact hnot hguard
  · simpa only [hguard, not_false_iff, true_and] using h hguard

theorem outcome_ok {message : CanRxMessage} {length : Nat} (hlength : data.length = length)
    (h : frame message = (id, (List.range length).map (octet data))) :
    Outcome (pure message) True (id, data) := by
  refine ⟨trivial, ?_⟩
  rw [h, ← hlength, octets]

end Outcomes

/-! ## The layouts -/

theorem command_result_outcome (data : List UInt8) :
    Outcome (decode_command_result 0x011 data) (CommandResultFormat data) (0x011, data) := by
  unfold decode_command_result CommandResultFormat
  apply outcome_dlc
  intro hlength
  simp (disch := omega) only [byte_octet, get_u32_octets, ok_bind]
  apply outcome_transaction
  apply outcome_field (phase_declared _)
  intro phase hphase
  apply outcome_last
  apply outcome_field (reason_declared _)
  intro reason hreason
  apply outcome_ok hlength
  simp only [frame, u32_to_le_bytes_from, phase_raw hphase, reason_raw hreason]
  rfl

theorem time_request_outcome (data : List UInt8) :
    Outcome (decode_time_request 0x012 data) (TimeRequestFormat data) (0x012, data) := by
  unfold decode_time_request TimeRequestFormat
  apply outcome_dlc
  intro hlength
  simp (disch := omega) only [byte_octet, ok_bind]
  apply outcome_last
  apply outcome_transaction
  apply outcome_ok hlength
  simp only [frame]
  rfl

theorem mission_event_outcome (data : List UInt8) :
    Outcome (decode_mission_event 0x020 data) (MissionEventFormat data) (0x020, data) := by
  unfold decode_mission_event MissionEventFormat
  apply outcome_dlc
  intro hlength
  simp (disch := omega) only [byte_octet, get_u16_word, ok_bind]
  apply outcome_last
  apply outcome_field (state_declared _)
  intro state hstate
  apply outcome_ok hlength
  simp only [frame, word, u16_to_le_bytes_from, state_raw hstate]
  rfl

theorem kinematics_outcome (data : List UInt8) :
    Outcome (decode_kinematics 0x100 data) (data.length = 8) (0x100, data) := by
  unfold decode_kinematics
  apply outcome_last
  apply outcome_dlc
  intro hlength
  simp (disch := omega) only [byte_octet, get_u16_word, ok_bind]
  apply outcome_ok hlength
  simp only [frame, word, u16_to_le_bytes_from]
  rfl

theorem control_outcome (data : List UInt8) :
    Outcome (decode_control 0x101 data) (ControlFormat data) (0x101, data) := by
  unfold decode_control ControlFormat
  apply outcome_dlc
  intro hlength
  simp (disch := omega) only [byte_octet, get_u16_word, ok_bind]
  apply outcome_last
  apply outcome_reserved
  apply outcome_ok hlength
  simp only [frame, word, u16_to_le_bytes_from]
  rfl

theorem mission_status_outcome (data : List UInt8) :
    Outcome (decode_mission_status 0x102 data) (MissionStatusFormat data) (0x102, data) := by
  unfold decode_mission_status MissionStatusFormat
  apply outcome_dlc
  intro hlength
  simp (disch := omega) only [byte_octet, get_u16_word, ok_bind]
  rw [state_known, and_assoc]
  apply outcome_field (state_declared _)
  intro state hstate
  rw [unknown_raw hstate]
  apply outcome_guard
  intro _
  apply outcome_field (fin_mode_declared _)
  intro fin_mode hfin
  apply outcome_last
  apply outcome_field (para_mode_declared _)
  intro para_mode hpara
  apply outcome_ok hlength
  simp only [frame, word, u16_to_le_bytes_from, state_raw hstate, fin_mode_raw hfin,
    para_mode_raw hpara]
  rfl

theorem power_time_outcome (data : List UInt8) :
    Outcome (decode_power_time 0x103 data) (PowerTimeFormat data) (0x103, data) := by
  unfold decode_power_time PowerTimeFormat
  apply outcome_dlc
  intro hlength
  simp (disch := omega) only [byte_octet, get_u16_word, ok_bind]
  apply outcome_last
  apply outcome_reserved
  apply outcome_ok hlength
  simp only [frame, word, u16_to_le_bytes_from]
  rfl

theorem descent_core_outcome (data : List UInt8) :
    Outcome (decode_descent_core 0x104 data) (DescentCoreFormat data) (0x104, data) := by
  unfold decode_descent_core DescentCoreFormat
  apply outcome_dlc
  intro hlength
  simp (disch := omega) only [byte_octet, get_u16_word, ok_bind]
  apply outcome_reserved
  apply outcome_last
  rw [← every_mask]
  apply outcome_reserved
  apply outcome_ok hlength
  simp only [frame, word, u16_to_le_bytes_from]
  rfl

theorem recovery_status_outcome (data : List UInt8) :
    Outcome (decode_recovery_status 0x105 data) (RecoveryStatusFormat data) (0x105, data) := by
  unfold decode_recovery_status RecoveryStatusFormat
  apply outcome_dlc
  intro hlength
  simp (disch := omega) only [byte_octet, get_u32_octets, ok_bind]
  apply outcome_field (opcode_declared _)
  intro opcode hopcode
  apply outcome_field (status_declared _)
  intro status hstatus
  apply outcome_last
  apply outcome_field (source_declared _)
  intro source hsource
  apply outcome_ok hlength
  simp only [frame, u32_to_le_bytes_from, opcode_raw hopcode, status_raw hstatus, source_raw hsource]
  rfl

theorem recovery_log_data_outcome (data : List UInt8) :
    Outcome (decode_recovery_log_data 0x106 data) (data.length = 8) (0x106, data) := by
  unfold decode_recovery_log_data
  apply outcome_last
  apply outcome_dlc
  intro hlength
  simp (disch := omega) only [byte_octet, ok_bind]
  apply outcome_ok hlength
  simp only [frame]
  rfl

theorem attitude_tilt_outcome (data : List UInt8) :
    Outcome (decode_attitude_tilt 0x107 data) (data.length = 3) (0x107, data) := by
  unfold decode_attitude_tilt
  apply outcome_last
  apply outcome_dlc
  intro hlength
  simp (disch := omega) only [byte_octet, get_u16_word, ok_bind]
  apply outcome_ok hlength
  simp only [frame, unpacked, word, u16_to_le_bytes_from]
  rfl

theorem lps_outcome (data : List UInt8) :
    Outcome (decode_lps 0x108 data) (LpsFormat data) (0x108, data) := by
  unfold decode_lps LpsFormat
  apply outcome_dlc
  intro hlength
  simp (disch := omega) only [byte_octet, get_u16_word, ok_bind]
  apply outcome_last
  apply outcome_reserved
  apply outcome_ok hlength
  simp only [frame, word, u16_to_le_bytes_from]
  rfl

theorem airspeed_outcome (data : List UInt8) :
    Outcome (decode_airspeed 0x109 data) (data.length = 2) (0x109, data) := by
  unfold decode_airspeed
  apply outcome_last
  apply outcome_dlc
  intro hlength
  simp (disch := omega) only [byte_octet, ok_bind]
  apply outcome_ok hlength
  simp only [frame]
  rfl

theorem control_roll_v2_outcome (data : List UInt8) :
    Outcome (decode_control_roll_v2 0x10a data) (ControlRollV2Format data) (0x10a, data) := by
  unfold decode_control_roll_v2 ControlRollV2Format
  apply outcome_dlc
  intro hlength
  simp (disch := omega) only [byte_octet, get_u16_word, ok_bind]
  rw [← Decidable.not_not (p := octet data 1 = 2), flags_agree]
  apply outcome_guard
  intro hschema
  apply outcome_reserved
  apply outcome_last
  apply outcome_guard
  intro _
  apply outcome_ok hlength
  have hversion : octet data 1 = 2 := Decidable.not_not.mp hschema
  simp only [frame, word, u16_to_le_bytes_from]
  rw [← hversion]
  rfl

/-- An identifier of `decode_standard`. -/
theorem outcome_arm {id known : UInt16} {data : List UInt8} {layout next : Decoding CanRxMessage}
    (harm : id = known → Outcome layout (Format id data) (id, data))
    (hnext : id ≠ known → Outcome next (Format id data) (id, data)) :
    Outcome (if id = known then layout else next) (Format id data) (id, data) := by
  split <;> rename_i h
  · exact harm h
  · exact hnext h

theorem decode_standard_outcome (id : UInt16) (data : List UInt8) :
    Outcome (decode_standard id data) (Format id data) (id, data) := by
  unfold decode_standard
  refine outcome_arm (fun h => h ▸ command_result_outcome data) fun command_result => ?_
  refine outcome_arm (fun h => h ▸ time_request_outcome data) fun time_request => ?_
  refine outcome_arm (fun h => h ▸ mission_event_outcome data) fun mission_event => ?_
  refine outcome_arm (fun h => h ▸ kinematics_outcome data) fun kinematics => ?_
  refine outcome_arm (fun h => h ▸ control_outcome data) fun control => ?_
  refine outcome_arm (fun h => h ▸ mission_status_outcome data) fun mission_status => ?_
  refine outcome_arm (fun h => h ▸ power_time_outcome data) fun power_time => ?_
  refine outcome_arm (fun h => h ▸ descent_core_outcome data) fun descent_core => ?_
  refine outcome_arm (fun h => h ▸ recovery_status_outcome data) fun recovery_status => ?_
  refine outcome_arm (fun h => h ▸ recovery_log_data_outcome data) fun recovery_log_data => ?_
  refine outcome_arm (fun h => h ▸ attitude_tilt_outcome data) fun attitude_tilt => ?_
  refine outcome_arm (fun h => h ▸ lps_outcome data) fun lps => ?_
  refine outcome_arm (fun h => h ▸ airspeed_outcome data) fun airspeed => ?_
  refine outcome_arm (fun h => h ▸ control_roll_v2_outcome data) fun control_roll_v2 => ?_
  unfold Format
  split <;> first | contradiction | exact not_false

/-- `decode_standard` never reads past the frame, takes exactly the frames of the format, and the
message gives the frame back. -/
theorem receive_codec (id : UInt16) (data : List UInt8) :
    decode_standard id data ≠ .error .index_out_of_range ∧
    ((∃ message, decode_standard id data = .ok message) ↔ Format id data) ∧
    (∀ message, decode_standard id data = .ok message → frame message = (id, data)) ∧
    (∀ message id' data', decode_standard id data = .ok message →
      decode_standard id' data' = .ok message → id = id' ∧ data = data') := by
  have hframe : ∀ id data message, decode_standard id data = .ok message →
      frame message = (id, data) := by
    intro id data message h
    have houtcome := decode_standard_outcome id data
    rw [h] at houtcome
    exact houtcome.2
  have houtcome := decode_standard_outcome id data
  refine ⟨?_, ?_, hframe id data, ?_⟩
  · intro h
    rw [h] at houtcome
    exact houtcome
  · unfold Outcome at houtcome
    constructor
    · rintro ⟨message, h⟩
      rw [h] at houtcome
      exact houtcome.1
    · intro hformat
      split at houtcome
      · exact ⟨_, ‹_›⟩
      · exact absurd hformat houtcome
      · exact houtcome.elim
  · intro message id' data' h h'
    have hsame := (hframe id data message h).symm.trans (hframe id' data' message h')
    exact ⟨congrArg Prod.fst hsame, congrArg Prod.snd hsame⟩

end Comboard.CanGrammar
