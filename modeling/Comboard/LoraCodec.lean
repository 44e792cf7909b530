import Comboard.Code.Payload
import Comboard.Lib.Fields

/-!
# The LoRa frames

`BitWriter` packs fields from the lowest bit on. So a frame carries the fields of its layout, and
they can be read back.
-/

namespace Comboard.LoraCodec

open Lib Lib.Fields

/-! ## The bit writer packs -/

section Writer

variable {n : Nat}

theorem one_shift {i : Nat} (h : i < 8) : ((1 : UInt8) <<< .ofNat i).toNat = 2 ^ i := by
  have hall : ∀ i < 8, ((1 : UInt8) <<< .ofNat i).toNat = 2 ^ i := by decide
  exact hall i h

theorem set_bit_testBit (bytes : Vector UInt8 n) {destination : Nat} (h : destination < n * 8)
    (k : Nat) : (ofBytes (BitWriter.set_bit bytes destination).toList).testBit k =
      ((ofBytes bytes.toList).testBit k || decide (k = destination)) := by
  have hbyte : destination / 8 < n := Nat.div_lt_of_lt_mul (by omega)
  unfold BitWriter.set_bit
  rw [testBit_ofBytes, testBit_ofBytes, Vector.toList_setIfInBounds,
    List.getD_eq_getElem?_getD, List.getElem?_set]
  split <;> rename_i hk
  · rw [if_pos (by simpa using hbyte), Option.getD_some, UInt8.toNat_or, Nat.testBit_or,
      one_shift (Nat.mod_lt _ (by decide)), Nat.testBit_two_pow, ← hk]
    have hget : bytes.getD (destination / 8) 0 = bytes.toList.getD (destination / 8) 0 := by
      simp [Vector.getD, hbyte]
    have hiff : (destination % 8 = k % 8) ↔ k = destination := by omega
    rw [hget, decide_eq_decide.mpr hiff]
  · have hne : k ≠ destination := by rintro rfl; exact hk rfl
    rw [← List.getD_eq_getElem?_getD, decide_eq_false hne, Bool.or_false]

/-- The loop of `write`. -/
theorem write_loop (bytes : Vector UInt8 n) (value offset count : Nat)
    (h : offset + count ≤ n * 8) (k : Nat) :
    (ofBytes ((List.range count).foldl (fun bytes bit =>
        if value.testBit bit then BitWriter.set_bit bytes (offset + bit) else bytes)
        bytes).toList).testBit k =
      ((ofBytes bytes.toList).testBit k ||
        (decide (offset ≤ k) && decide (k < offset + count) && value.testBit (k - offset))) := by
  induction count with
  | zero =>
    have hnone : (decide (offset ≤ k) && decide (k < offset + 0)) = false := by
      rw [← Bool.decide_and, decide_eq_false (by omega)]
    rw [hnone, Bool.false_and, Bool.or_false]
    rfl
  | succ count ih =>
    rw [List.range_succ, List.foldl_append, List.foldl_cons, List.foldl_nil]
    have hstep : (decide (offset ≤ k) && decide (k < offset + (count + 1)) &&
          value.testBit (k - offset)) =
        ((decide (offset ≤ k) && decide (k < offset + count) && value.testBit (k - offset)) ||
          (decide (k = offset + count) && value.testBit count)) := by
      by_cases hk : k = offset + count
      · subst hk
        simp
      · have hiff : k < offset + (count + 1) ↔ k < offset + count := by omega
        rw [decide_eq_decide.mpr hiff, decide_eq_false hk, Bool.false_and, Bool.or_false]
    split <;> rename_i hbit
    · rw [set_bit_testBit _ (by omega), ih (by omega), hstep, hbit, Bool.and_true, Bool.or_assoc]
    · rw [ih (by omega), hstep, Bool.eq_false_iff.mpr hbit, Bool.and_false, Bool.or_false]

/-- The fields written so far. -/
structure Holds (writer : BitWriter n) (fields : List Field) : Prop where
  bit_offset : writer.bit_offset = total fields
  bytes : ofBytes writer.bytes.toList = pack fields
  fits : Fits fields

/-- A chain of writes has two outcomes. -/
def Written (result : Except EncodeError (BitWriter n)) (fields : List Field) : Prop :=
  match result with
  | .ok writer => Holds writer fields
  | .error _ => ¬ Fits fields

/-- The same bits, cut into other fields. -/
theorem written_of_same {result : Except EncodeError (BitWriter n)} {fields fields' : List Field}
    (h : Written result fields) (htotal : total fields = total fields')
    (hpack : pack fields = pack fields') (hfits : Fits fields ↔ Fits fields') :
    Written result fields' := by
  unfold Written at h ⊢
  split at h
  · exact ⟨h.bit_offset.trans htotal, h.bytes.trans hpack, hfits.mp h.fits⟩
  · rwa [← hfits]

theorem new_holds : Holds (BitWriter.new : BitWriter n) [] := by
  refine ⟨rfl, ?_, nofun⟩
  apply Nat.eq_of_testBit_eq
  intro k
  rw [testBit_ofBytes, List.getD_eq_getElem?_getD]
  by_cases h : k / 8 < n <;> simp [BitWriter.new, pack, h]

theorem write_spec {writer : BitWriter n} {fields : List Field} (hholds : Holds writer fields)
    (value : UInt32) {width : Nat} (hwidth : width ≤ 32) (hroom : total fields + width ≤ n * 8) :
    Written (writer.write value width) (fields ++ [(value.toNat, width)]) := by
  unfold BitWriter.write
  have hshift : 1 <<< width = 2 ^ width := Nat.one_shiftLeft width
  rw [hholds.bit_offset, hshift]
  split <;> rename_i h
  · intro hfits
    have hvalue : value.toNat < 2 ^ width := hfits (value.toNat, width) (by simp)
    omega
  · have hvalue : value.toNat < 2 ^ width := by
      by_cases hlt : width < 32
      · omega
      · have hfull : width = 32 := by omega
        subst hfull
        exact value.toNat_lt
    refine ⟨by simp [total, widths], ?_, fits_append.mpr ⟨hholds.fits, by simpa⟩⟩
    apply Nat.eq_of_testBit_eq
    intro k
    rw [write_loop _ _ _ _ hroom, hholds.bytes, pack_snoc, Nat.add_comm (pack fields),
      Nat.testBit_two_pow_mul_add _ (pack_lt hholds.fits)]
    split <;> rename_i hk
    · rw [decide_eq_false (by omega), Bool.false_and, Bool.false_and, Bool.or_false]
    · have hlow : (pack fields).testBit k = false :=
        Nat.testBit_lt_two_pow ((pack_lt hholds.fits).trans_le
          (Nat.pow_le_pow_right (by decide) (by omega)))
      rw [hlow, Bool.false_or, decide_eq_true (by omega : total fields ≤ k), Bool.true_and]
      by_cases hin : k < total fields + width
      · rw [decide_eq_true hin, Bool.true_and]
      · have hhigh : value.toNat.testBit (k - total fields) = false :=
          Nat.testBit_lt_two_pow (hvalue.trans_le
            (Nat.pow_le_pow_right (by decide) (by omega)))
        rw [hhigh, Bool.and_false]

/-- What a chain of `write(..)?` is given. -/
def given (written : List (UInt32 × Nat)) : List Field :=
  written.map fun (value, width) => (value.toNat, width)

theorem writes_spec {writer : BitWriter n} {fields : List Field} (hholds : Holds writer fields)
    {written : List (UInt32 × Nat)} (hwidth : ∀ field ∈ written, field.2 ≤ 32)
    (hroom : total fields + total (given written) ≤ n * 8) :
    Written (writer.writes written) (fields ++ given written) := by
  unfold BitWriter.writes
  induction written generalizing writer fields with
  | nil =>
    rw [given, List.map_nil, List.append_nil]
    exact hholds
  | cons field rest ih =>
    obtain ⟨value, width⟩ := field
    have htotal : total (given ((value, width) :: rest)) = width + total (given rest) :=
      total_cons ..
    have hone := write_spec hholds value (hwidth _ List.mem_cons_self) (by omega)
    have happend : fields ++ given ((value, width) :: rest) =
        fields ++ [(value.toNat, width)] ++ given rest := by simp [given]
    rw [List.foldlM_cons, happend]
    dsimp only
    generalize writer.write value width = result at hone
    cases result with
    | error error =>
      intro hfits
      exact hone (fits_append.mp hfits).1
    | ok writer =>
      apply ih hone (fun field hfield => hwidth field (List.mem_cons_of_mem _ hfield))
      rw [total_append]
      simp only [total_cons]
      have hnil : total [] = 0 := rfl
      omega

/-- A chain of writes from the start. -/
theorem chain_spec (written : List (UInt32 × Nat)) (hwidth : ∀ field ∈ written, field.2 ≤ 32)
    (hroom : total (given written) ≤ n * 8) :
    Written ((BitWriter.new : BitWriter n).writes written) (given written) := by
  have hempty : total [] = 0 := rfl
  exact writes_spec new_holds hwidth (by omega)

end Writer

/-! ## The layouts -/

/-- The fields of the frame and their widths, padding included. -/
def layout : ApplicationPacket → List Field
  | .CommandReceive value => [
      (0xa0, 8), (value.status.toNat, 24), (value.motor_profile.toNat, 8),
      (value.tilt_magnitude.toNat, 7), (value.tilt_direction.toNat, 9), (value.fin_mode.toNat, 4),
      (value.para_mode.toNat, 4), (value.fin_angle.toNat, 8), (value.para_angle.toNat, 8),
      (value.pressure.toNat, 11), (value.temperature.toNat, 8), (value.airspeed.toNat, 8),
      (value.logic_voltage.toNat, 8), (value.motor_voltage.toNat, 8), (value.east.toNat, 16),
      (value.north.toNat, 16), (value.height.toNat, 9), (value.display_roll.toNat, 16), (0, 4)]
  | .Flight value => [
      (value.header.raw.toNat, 8), (value.status.toNat, 16), (value.roll.toNat, 16),
      (value.roll_rate.toNat, 16), (value.tilt_magnitude.toNat, 7),
      (value.tilt_direction.toNat, 9), (value.fin_angle.toNat, 8), (value.fin_rate.toNat, 16),
      (value.pressure.toNat, 11), (value.temperature.toNat, 8), (value.airspeed.toNat, 8),
      (value.requested_torque.toNat, 12), (value.elapsed.toNat, 8), (value.east.toNat, 16),
      (value.north.toNat, 16), (value.height.toNat, 9)]
  | .Descent value => [
      (0xa4, 8), (value.status.toNat, 13), (value.pressure.toNat, 11),
      (value.temperature.toNat, 8), (value.para_angle.toNat, 8), (value.elapsed.toNat, 16),
      (value.east.toNat, 16), (value.north.toNat, 16), (value.height.toNat, 9), (0, 7)]
  | .RecoveryBeacon value => [
      (0xa5, 8), (value.logic_voltage.toNat, 8), (value.motor_voltage.toNat, 8),
      (value.east.toNat, 16), (value.north.toNat, 16), (value.height.toNat, 9),
      (value.elapsed.toNat, 16), (0, 7)]
  | .RecoveryLogData value => [
      (0xa6, 8), (value.transfer_id.toNat, 8), (value.source.toNat, 1),
      (value.end_of_file.toNat, 1), (0, 6), (value.offset.toNat, 24),
      (value.data_length.toNat, 8)] ++ value.data.toList.map fun byte => (byte.toNat, 8)
  | .ControlRollTelemetryV2 value => [
      (0xa7, 8), (2, 8), (value.control_roll_reference_unwrapped_raw.toNat, 16),
      (value.roll_deviation_unwrapped_raw.toNat, 16), (value.flags.toNat, 8),
      (value.reference_capture_event_sequence.toNat, 8)]
  | .MissionLinkFallbackTelemetry value => [
      (0xa8, 8), (1, 8), (value.sequence.toNat, 8), (value.primary_loss_reason.toNat, 8),
      (value.status_flags.toNat, 16), (value.last_valid_mission_state.toNat, 8),
      (value.gnss_state.toNat, 8), (value.mission_status_age.toNat, 16),
      (value.any_mission_periodic_age.toNat, 16), (value.power_time_age.toNat, 16),
      (value.east.toNat, 16), (value.north.toNat, 16), (value.height.toNat, 16),
      (value.logic_voltage.toNat, 8), (value.motor_voltage.toNat, 8),
      (value.can_health.toNat, 8)]
  | .CommandResult value => [
      (0xb0, 8), (value.transaction_id.toNat, 8), (value.command.toNat, 8),
      (value.phase.raw.toNat, 8), (value.reason.raw.toNat, 8), (value.detail.toNat, 32)]
  | .GroundTimeRequest request_id => [(0xb1, 8), (request_id.toNat, 8)]

/-- How many bytes the fields take. -/
def application_length : ApplicationPacket → Nat
  | .CommandReceive _ | .Flight _ | .RecoveryLogData _ | .MissionLinkFallbackTelemetry _ => 23
  | .Descent _ => 14
  | .RecoveryBeacon _ => 11
  | .ControlRollTelemetryV2 _ => 8
  | .CommandResult _ => 9
  | .GroundTimeRequest _ => 2

/-- The checks beside the widths. -/
def Consistent : ApplicationPacket → Prop
  | .Flight value =>
      value.header = .LiftoffDetection ∨ value.header = .EngineBurn ∨ value.header = .Control
  | .RecoveryLogData value => value.offset ≤ 0x00ffffff ∧ value.data_length ≤ 16
  | .ControlRollTelemetryV2 value =>
      value.flags &&& 0xe0 = 0 ∧
      (value.control_roll_reference_unwrapped_raw = CONTROL_ROLL_OUT_OF_RANGE_RAW ↔
        value.flags &&& ControlRollTelemetryV2.REFERENCE_OUT_OF_RANGE ≠ 0) ∧
      (value.roll_deviation_unwrapped_raw = CONTROL_ROLL_OUT_OF_RANGE_RAW ↔
        value.flags &&& ControlRollTelemetryV2.DEVIATION_OUT_OF_RANGE ≠ 0)
  | .MissionLinkFallbackTelemetry value =>
      value.primary_loss_reason ≤ 7 ∧ value.status_flags &&& 0x8000 = 0 ∧
      (value.last_valid_mission_state ≤ 4 ∨ value.last_valid_mission_state = 0xff) ∧
      value.gnss_state ≤ 8 ∧ value.height ≤ 0x01ff ∧ value.can_health ≤ 6
  | .CommandResult value => value.transaction_id ≠ 0
  | _ => True

def Encodable (packet : ApplicationPacket) : Prop := Consistent packet ∧ Fits (layout packet)

theorem total_bytes (data : List UInt8) :
    total (data.map fun byte => (byte.toNat, 8)) = 8 * data.length := by
  induction data with
  | nil => rfl
  | cons byte rest ih =>
    rw [List.map_cons, total_cons, ih, List.length_cons]
    omega

theorem fits_bytes (data : List UInt8) : Fits (data.map fun byte => (byte.toNat, 8)) := by
  intro field hfield
  obtain ⟨byte, -, rfl⟩ := List.mem_map.mp hfield
  exact byte.toNat_lt

theorem total_layout (packet : ApplicationPacket) :
    total (layout packet) = 8 * application_length packet := by
  cases packet with
  | RecoveryLogData value =>
    rw [layout, total_append, total_bytes, Vector.length_toList]
    simp [total, widths, application_length]
  | _ => simp [layout, total, widths, application_length]

theorem application_length_lt (packet : ApplicationPacket) :
    application_length packet < MAX_APPLICATION_LENGTH := by
  cases packet <;> simp [application_length, MAX_APPLICATION_LENGTH]

/-- Each kind's own chain writes its layout. -/
theorem layout_written {packet : ApplicationPacket} {written : List (UInt32 × Nat)}
    (hgiven : given written = layout packet) (hwidth : ∀ field ∈ written, field.2 ≤ 32) :
    Written ((BitWriter.new : BitWriter MAX_APPLICATION_LENGTH).writes written)
      (layout packet) := by
  rw [← hgiven]
  apply chain_spec written hwidth
  rw [hgiven, total_layout]
  have hlength := application_length_lt packet
  omega

/-- What `encode` writes before the checksum. -/
def Wrote (packet : ApplicationPacket) : Prop :=
  match packet.write BitWriter.new with
  | .ok writer => Encodable packet ∧ Holds writer (layout packet)
  | .error _ => ¬ Encodable packet

/-- The kind has no checks of its own. -/
theorem wrote_of_chain {packet : ApplicationPacket} {written : List (UInt32 × Nat)}
    (hwrite : packet.write BitWriter.new = BitWriter.new.writes written)
    (hconsistent : Consistent packet)
    (hwritten : Written ((BitWriter.new : BitWriter MAX_APPLICATION_LENGTH).writes written)
      (layout packet)) : Wrote packet := by
  unfold Wrote
  rw [← hwrite] at hwritten
  unfold Written at hwritten
  split <;> rename_i hresult <;> rw [hresult] at hwritten
  · exact ⟨⟨hconsistent, hwritten.fits⟩, hwritten⟩
  · rintro ⟨-, hfits⟩
    exact hwritten hfits

/-- The kind checks first. -/
theorem wrote_of_guard {packet : ApplicationPacket} {written : List (UInt32 × Nat)} {guard : Prop}
    [Decidable guard] {error : EncodeError}
    (hwrite : packet.write BitWriter.new =
      if guard then .error error else BitWriter.new.writes written)
    (hguard : guard ↔ ¬ Consistent packet)
    (hwritten : Written ((BitWriter.new : BitWriter MAX_APPLICATION_LENGTH).writes written)
      (layout packet)) : Wrote packet := by
  by_cases h : guard
  · unfold Wrote
    rw [hwrite, if_pos h]
    rintro ⟨hconsistent, -⟩
    exact hguard.mp h hconsistent
  · rw [if_neg h] at hwrite
    exact wrote_of_chain hwrite (by tauto) hwritten

theorem command_receive_wrote (value : CommandReceiveTelemetry) :
    Wrote (.CommandReceive value) :=
  wrote_of_chain rfl trivial (layout_written rfl (by simp))

theorem descent_wrote (value : DescentTelemetry) : Wrote (.Descent value) :=
  wrote_of_chain rfl trivial (layout_written rfl (by simp))

theorem recovery_beacon_wrote (value : RecoveryBeacon) : Wrote (.RecoveryBeacon value) :=
  wrote_of_chain rfl trivial (layout_written rfl (by simp))

theorem ground_time_request_wrote (request_id : UInt8) : Wrote (.GroundTimeRequest request_id) :=
  wrote_of_chain rfl trivial (layout_written rfl (by simp))

theorem flight_wrote (value : FlightTelemetry) : Wrote (.Flight value) := by
  apply wrote_of_guard rfl _ (layout_written rfl (by simp))
  unfold Consistent
  tauto

theorem command_result_wrote (value : CommandResultPacket) : Wrote (.CommandResult value) := by
  apply wrote_of_guard rfl _ (layout_written rfl (by simp))
  unfold Consistent
  tauto

theorem control_roll_wrote (value : ControlRollTelemetryV2Packet) :
    Wrote (.ControlRollTelemetryV2 value) := by
  apply wrote_of_guard rfl _ (layout_written rfl (by simp))
  unfold Consistent
  simp only [ne_eq, decide_eq_decide]
  tauto

theorem mission_link_fallback_wrote (value : MissionLinkFallbackTelemetry) :
    Wrote (.MissionLinkFallbackTelemetry value) := by
  apply wrote_of_guard rfl _ (layout_written rfl (by simp))
  unfold Consistent
  simp only [gt_iff_lt, ← UInt8.not_le, ← UInt16.not_le]
  tauto

/-- One byte carries both flags. -/
theorem metadata_toNat (source end_of_file : Bool) :
    (source.toUInt8 ||| end_of_file.toUInt8 <<< 1).toNat =
      source.toNat + 2 * end_of_file.toNat := by
  cases source <;> cases end_of_file <;> rfl

theorem log_written (value : RecoveryLogPacket) :
    Written ((BitWriter.new : BitWriter MAX_APPLICATION_LENGTH).writes ([
      (PacketHeader.RecoveryLogData.raw.toUInt32, 8),
      (value.transfer_id.toUInt32, 8),
      ((value.source.toUInt8 ||| value.end_of_file.toUInt8 <<< 1).toUInt32, 8),
      (value.offset, 24),
      (value.data_length.toUInt32, 8)] ++ value.data.toList.map fun byte => (byte.toUInt32, 8)))
      (layout (.RecoveryLogData value)) := by
  have hbytes : given (value.data.toList.map fun byte => (byte.toUInt32, 8)) =
      value.data.toList.map fun byte => (byte.toNat, 8) := by
    unfold given
    rw [List.map_map]
    rfl
  have hgiven : ∀ fields bytes, given (fields ++ bytes) = given fields ++ given bytes :=
    fun _ _ => List.map_append
  have hheader : PacketHeader.RecoveryLogData.raw.toNat = 166 := rfl
  have hsource := value.source.toNat_lt
  have hend := value.end_of_file.toNat_lt
  apply written_of_same (chain_spec _ ?_ ?_)
  · rw [hgiven, hbytes, layout, total_append, total_append]
    rfl
  · rw [hgiven, hbytes]
    simp only [given, List.map_cons, List.map_nil, List.cons_append, List.nil_append, pack, layout,
      metadata_toNat, UInt8.toNat_toUInt32, hheader]
    omega
  · rw [hgiven, hbytes]
    simp only [given, List.map_cons, List.map_nil, fits_append, layout, metadata_toNat,
      UInt8.toNat_toUInt32, hheader]
    apply and_congr_left'
    simp only [fits_cons, fits_nil, and_true]
    omega
  · simp
  · rw [hgiven, hbytes, total_append, total_bytes, Vector.length_toList]
    simp [given, total, widths, MAX_APPLICATION_LENGTH]

theorem recovery_log_wrote (value : RecoveryLogPacket) : Wrote (.RecoveryLogData value) := by
  apply wrote_of_guard rfl _ (log_written value)
  unfold Consistent
  simp only [gt_iff_lt, ← UInt8.not_le, ← UInt32.not_le]
  tauto

theorem packet_wrote (packet : ApplicationPacket) : Wrote packet := by
  cases packet with
  | CommandReceive value => exact command_receive_wrote value
  | Flight value => exact flight_wrote value
  | Descent value => exact descent_wrote value
  | RecoveryBeacon value => exact recovery_beacon_wrote value
  | MissionLinkFallbackTelemetry value => exact mission_link_fallback_wrote value
  | RecoveryLogData value => exact recovery_log_wrote value
  | CommandResult value => exact command_result_wrote value
  | GroundTimeRequest request_id => exact ground_time_request_wrote request_id
  | ControlRollTelemetryV2 value => exact control_roll_wrote value

/-! ## Frames -/

/-- The frame carries these application bytes. -/
def Carries (frame : LoraFrame) (application : List UInt8) : Prop :=
  frame.as_bytes = [0x00, 0x00, 0x04] ++ application ++ [xor_checksum application]

theorem as_bytes_checksum (bytes : Vector UInt8 MAX_APPLICATION_LENGTH) {length : Nat}
    (h : length < MAX_APPLICATION_LENGTH) (checksum : UInt8) :
    (LORA_PREFIX ++ bytes.setIfInBounds length checksum).toList.take (3 + length + 1) =
      [0x00, 0x00, 0x04] ++ bytes.toList.take length ++ [checksum] := by
  have hprefix : LORA_PREFIX.toList = [0x00, 0x00, 0x04] := rfl
  have hsize : length < bytes.toList.length := by simpa using h
  rw [Vector.toList_append, hprefix, Vector.toList_setIfInBounds, List.append_assoc, Nat.add_assoc]
  rw [show 3 = ([0x00, 0x00, 0x04] : List UInt8).length from rfl, List.take_length_add_append,
    List.take_add_one, List.getElem?_set_self hsize, Option.toList_some, List.take_set_of_le le_rfl]

theorem encode_spec (packet : ApplicationPacket) :
    match packet.encode with
    | .ok frame => Encodable packet ∧ ∃ application, Carries frame application ∧
        frame.length = 3 + application.length + 1 ∧
        application.length = application_length packet ∧
        ofBytes application = pack (layout packet)
    | .error _ => ¬ Encodable packet := by
  have hwrote := packet_wrote packet
  have hlength := application_length_lt packet
  unfold Wrote at hwrote
  unfold ApplicationPacket.encode
  generalize packet.write BitWriter.new = result at hwrote
  cases result with
  | error error => exact hwrote
  | ok writer =>
    obtain ⟨hencodable, hholds⟩ := hwrote
    have hbytes : writer.byte_length = application_length packet := by
      unfold BitWriter.byte_length
      rw [hholds.bit_offset, total_layout]
      omega
    have hsize : application_length packet ≤ writer.bytes.toList.length := by
      simpa using hlength.le
    have htake := List.length_take_of_le hsize
    refine ⟨hencodable, writer.bytes.toList.take (application_length packet), ?_, ?_, htake, ?_⟩
    · unfold Carries LoraFrame.as_bytes
      rw [hbytes]
      exact as_bytes_checksum _ hlength _
    · rw [htake, hbytes]
    · rw [← hholds.bytes]
      apply ofBytes_take hsize
      rw [hholds.bytes, ← total_layout]
      exact pack_lt hholds.fits

/-! ## Reading a frame -/

/-- The widths that a header byte announces. -/
def header_widths : Nat → List Nat
  | 0xa0 => [8, 24, 8, 7, 9, 4, 4, 8, 8, 11, 8, 8, 8, 8, 16, 16, 9, 16, 4]
  | 0xa1 | 0xa2 | 0xa3 => [8, 16, 16, 16, 7, 9, 8, 16, 11, 8, 8, 12, 8, 16, 16, 9]
  | 0xa4 => [8, 13, 11, 8, 8, 16, 16, 16, 9, 7]
  | 0xa5 => [8, 8, 8, 16, 16, 9, 16, 7]
  | 0xa6 => [8, 8, 1, 1, 6, 24, 8] ++ List.replicate 16 8
  | 0xa7 => [8, 8, 16, 16, 8, 8]
  | 0xa8 => [8, 8, 8, 8, 16, 8, 8, 16, 16, 16, 16, 16, 16, 8, 8, 8]
  | 0xb0 => [8, 8, 8, 8, 8, 32]
  | 0xb1 => [8, 8]
  | _ => []

/-- Reads the header, then the fields it announces. -/
def read (application : List UInt8) : List Nat :=
  unpack (header_widths (ofBytes application % 2 ^ 8)) (ofBytes application)

def header : ApplicationPacket → Nat
  | .CommandReceive _ => 0xa0
  | .Flight value => value.header.raw.toNat
  | .Descent _ => 0xa4
  | .RecoveryBeacon _ => 0xa5
  | .RecoveryLogData _ => 0xa6
  | .ControlRollTelemetryV2 _ => 0xa7
  | .MissionLinkFallbackTelemetry _ => 0xa8
  | .CommandResult _ => 0xb0
  | .GroundTimeRequest _ => 0xb1

theorem header_first (packet : ApplicationPacket) :
    ∃ rest, layout packet = (header packet, 8) :: rest := by
  cases packet <;> exact ⟨_, rfl⟩

theorem header_lt (packet : ApplicationPacket) : header packet < 2 ^ 8 := by
  cases packet with
  | Flight value => exact value.header.raw.toNat_lt
  | _ => simp [header]

theorem widths_layout {packet : ApplicationPacket} (h : Consistent packet) :
    header_widths (header packet) = widths (layout packet) := by
  cases packet with
  | Flight value =>
    unfold Consistent at h
    rcases h with h | h | h <;> rw [header, h] <;> rfl
  | RecoveryLogData value =>
    have hbytes : widths (value.data.toList.map fun byte => (byte.toNat, 8)) =
        List.replicate 16 8 := by
      unfold widths
      rw [List.map_map]
      exact (List.map_const' ..).trans (by rw [Vector.length_toList])
    unfold widths at hbytes ⊢
    rw [layout, List.map_append, hbytes]
    rfl
  | _ => rfl

theorem read_pack {packet : ApplicationPacket} {application : List UInt8}
    (hencodable : Encodable packet) (h : ofBytes application = pack (layout packet)) :
    read application = values (layout packet) := by
  obtain ⟨rest, hrest⟩ := header_first packet
  have hheader : ofBytes application % 2 ^ 8 = header packet := by
    rw [h, hrest, pack, Nat.add_mul_mod_self_left, Nat.mod_eq_of_lt (header_lt packet)]
  unfold read
  rw [hheader, h, widths_layout hencodable.1]
  exact unpack_pack hencodable.2

/-! ## One packet for each frame -/

/-- `Flight` has three headers. -/
def kind_of : Nat → Nat
  | 0xa2 | 0xa3 => 0xa1
  | raw => raw

def kind : ApplicationPacket → Nat
  | .Flight _ => 0xa1
  | packet => header packet

theorem kind_of_header {packet : ApplicationPacket} (h : Consistent packet) :
    kind_of (header packet) = kind packet := by
  cases packet with
  | Flight value =>
    unfold Consistent at h
    rcases h with h | h | h <;> rw [header, h] <;> rfl
  | _ => rfl

theorem bool_toNat_inj {a b : Bool} : a.toNat = b.toNat ↔ a = b := by
  cases a <;> cases b <;> decide

theorem bytes_toNat_inj {n : Nat} {a b : Vector UInt8 n} :
    a.toList.map UInt8.toNat = b.toList.map UInt8.toNat ↔ a = b := by
  rw [List.map_inj_right (fun _ _ => UInt8.toNat_inj.mp), Vector.toList_inj]

theorem header_raw_inj {a b : PacketHeader} : a.raw = b.raw ↔ a = b := by
  cases a <;> cases b <;> decide

theorem phase_raw_inj {a b : CommandPhase} : a.raw = b.raw ↔ a = b := by
  cases a <;> cases b <;> decide

theorem reason_raw_inj {a b : CommandReason} : a.raw = b.raw ↔ a = b := by
  cases a <;> cases b <;> decide

theorem values_injective {packet packet' : ApplicationPacket} (hconsistent : Consistent packet)
    (hconsistent' : Consistent packet') (h : values (layout packet) = values (layout packet')) :
    packet = packet' := by
  obtain ⟨rest, hrest⟩ := header_first packet
  obtain ⟨rest', hrest'⟩ := header_first packet'
  have hheader : header packet = header packet' := by
    rw [hrest, hrest'] at h
    exact (List.cons.inj h).1
  have hkind : kind packet = kind packet' := by
    rw [← kind_of_header hconsistent, hheader, kind_of_header hconsistent']
  unfold values at h
  cases packet with
  | CommandReceive value =>
    cases packet' with
    | CommandReceive value' =>
      cases value
      cases value'
      simpa [layout, UInt8.toNat_inj, UInt16.toNat_inj, UInt32.toNat_inj] using h
    | _ => simp [kind, header] at hkind
  | Flight value =>
    cases packet' with
    | Flight value' =>
      cases value
      cases value'
      simpa [layout, UInt8.toNat_inj, UInt16.toNat_inj, header_raw_inj] using h
    | _ => simp [kind, header] at hkind
  | Descent value =>
    cases packet' with
    | Descent value' =>
      cases value
      cases value'
      simpa [layout, UInt8.toNat_inj, UInt16.toNat_inj] using h
    | _ => simp [kind, header] at hkind
  | RecoveryBeacon value =>
    cases packet' with
    | RecoveryBeacon value' =>
      cases value
      cases value'
      simpa [layout, UInt8.toNat_inj, UInt16.toNat_inj] using h
    | _ => simp [kind, header] at hkind
  | MissionLinkFallbackTelemetry value =>
    cases packet' with
    | MissionLinkFallbackTelemetry value' =>
      cases value
      cases value'
      simpa [layout, UInt8.toNat_inj, UInt16.toNat_inj] using h
    | _ => simp [kind, header] at hkind
  | RecoveryLogData value =>
    cases packet' with
    | RecoveryLogData value' =>
      cases value
      cases value'
      have hcomp : ((·.1) ∘ fun byte : UInt8 => (byte.toNat, 8)) = UInt8.toNat := rfl
      simpa [layout, UInt8.toNat_inj, UInt32.toNat_inj, bool_toNat_inj, hcomp, bytes_toNat_inj]
        using h
    | _ => simp [kind, header] at hkind
  | CommandResult value =>
    cases packet' with
    | CommandResult value' =>
      cases value
      cases value'
      simpa [layout, UInt8.toNat_inj, UInt32.toNat_inj, phase_raw_inj, reason_raw_inj] using h
    | _ => simp [kind, header] at hkind
  | GroundTimeRequest request_id =>
    cases packet' with
    | GroundTimeRequest request_id' => simpa [layout, UInt8.toNat_inj] using h
    | _ => simp [kind, header] at hkind
  | ControlRollTelemetryV2 value =>
    cases packet' with
    | ControlRollTelemetryV2 value' =>
      cases value
      cases value'
      simpa [layout, UInt8.toNat_inj, UInt16.toNat_inj] using h
    | _ => simp [kind, header] at hkind

/-! ## The codec -/

/-- A written bit has its byte. -/
theorem write_in_bounds {n : Nat} {writer writer' : BitWriter n} {value : UInt32} {bit_count : Nat}
    (h : writer.write value bit_count = .ok writer') {bit : Nat} (hbit : bit < bit_count) :
    (writer.bit_offset + bit) / 8 < n := by
  unfold BitWriter.write at h
  split at h <;> rename_i hguard
  · cases h
  · omega

theorem byte_length_lt {packet : ApplicationPacket} {writer : BitWriter MAX_APPLICATION_LENGTH}
    (h : packet.write BitWriter.new = .ok writer) :
    writer.byte_length < MAX_APPLICATION_LENGTH := by
  have hwrote := packet_wrote packet
  have hlength := application_length_lt packet
  unfold Wrote at hwrote
  rw [h] at hwrote
  unfold BitWriter.byte_length
  rw [hwrote.2.bit_offset, total_layout]
  omega

theorem encoded {packet : ApplicationPacket} {frame : LoraFrame} (h : packet.encode = .ok frame) :
    Encodable packet ∧ ∃ application, Carries frame application ∧
      frame.length = 3 + application.length + 1 ∧
      application.length = application_length packet ∧
      read application = values (layout packet) := by
  have hspec := encode_spec packet
  rw [h] at hspec
  obtain ⟨hencodable, application, hcarries, hframe, hlength, hbytes⟩ := hspec
  exact ⟨hencodable, application, hcarries, hframe, hlength, read_pack hencodable hbytes⟩

theorem encode_iff (packet : ApplicationPacket) :
    (∃ frame, packet.encode = .ok frame) ↔ Encodable packet := by
  have hspec := encode_spec packet
  split at hspec <;> rename_i hresult
  · exact ⟨fun _ => hspec.1, fun _ => ⟨_, hresult⟩⟩
  · refine ⟨?_, fun h => absurd h hspec⟩
    rintro ⟨frame, hframe⟩
    rw [hresult] at hframe
    cases hframe

theorem carries_inj {frame frame' : LoraFrame} {application application' : List UInt8}
    (h : Carries frame application) (h' : Carries frame' application')
    (hsame : frame.as_bytes = frame'.as_bytes) : application = application' := by
  unfold Carries at h h'
  rw [h, h', List.append_assoc, List.append_assoc] at hsame
  exact (List.append_inj' (List.append_cancel_left hsame) rfl).1

/-- A packet is encoded exactly when its fields fit and agree. Its frame has the length of its kind
and reads back, so no other packet has the same bytes. -/
theorem frame_codec (packet : ApplicationPacket) :
    ((∃ frame, packet.encode = .ok frame) ↔ Consistent packet ∧ Fits (layout packet)) ∧
    (∀ frame, packet.encode = .ok frame → ∃ application,
      frame.as_bytes = [0x00, 0x00, 0x04] ++ application ++ [xor_checksum application] ∧
      application.length = application_length packet ∧
      8 * application.length = (header_widths (header packet)).sum ∧
      frame.as_bytes.length ≤ MAX_LORA_FRAME_LENGTH ∧ frame.length = frame.as_bytes.length ∧
      read application = values (layout packet)) ∧
    (∀ frame packet' frame', packet.encode = .ok frame → packet'.encode = .ok frame' →
      frame.as_bytes = frame'.as_bytes → packet = packet') ∧
    (∀ (writer writer' : BitWriter MAX_APPLICATION_LENGTH) value bit_count bit,
      writer.write value bit_count = .ok writer' → bit < bit_count →
      (writer.bit_offset + bit) / 8 < MAX_APPLICATION_LENGTH) ∧
    (∀ writer, packet.write BitWriter.new = .ok writer →
      writer.byte_length < MAX_APPLICATION_LENGTH) := by
  refine ⟨encode_iff packet, ?_, ?_, ?_, ?_⟩
  · intro frame h
    obtain ⟨hencodable, application, hcarries, hframe, hlength, hread⟩ := encoded h
    have hbytes : frame.as_bytes.length = 3 + application.length + 1 := by
      rw [hcarries]
      simp
      omega
    have htotal := total_layout packet
    have hlt := application_length_lt packet
    unfold total at htotal
    rw [← widths_layout hencodable.1, ← hlength] at htotal
    refine ⟨application, hcarries, hlength, htotal.symm, ?_, hframe.trans hbytes.symm, hread⟩
    rw [hbytes, hlength]
    unfold MAX_LORA_FRAME_LENGTH
    omega
  · intro frame packet' frame' h h' hsame
    obtain ⟨hencodable, application, hcarries, -, -, hread⟩ := encoded h
    obtain ⟨hencodable', application', hcarries', -, -, hread'⟩ := encoded h'
    apply values_injective hencodable.1 hencodable'.1
    rw [← hread, carries_inj hcarries hcarries' hsame, hread']
  · intro _ _ _ _ _ h hbit
    exact write_in_bounds h hbit
  · intro _ h
    exact byte_length_lt h

/-- The source's `canonical_flight_vector_matches`. -/
example : (ApplicationPacket.Flight {
      header := .Control, status := 0xa55a, roll := 0xfffe, roll_rate := 1234,
      tilt_magnitude := 20, tilt_direction := 280, fin_angle := 120, fin_rate := 0xffce,
      pressure := 0x42a, temperature := 0x46, airspeed := 0x3d, requested_torque := 0xf85,
      elapsed := 0x7b, east := 0xfff4, north := 0x0022, height := 0x28 }).encode.map
        LoraFrame.as_bytes =
    .ok [0x00, 0x00, 0x04, 0xa3, 0x5a, 0xa5, 0xfe, 0xff, 0xd2, 0x04, 0x14, 0x8c, 0x78, 0xce, 0xff,
      0x2a, 0x34, 0xea, 0x29, 0xfc, 0x3d, 0xfa, 0x7f, 0x11, 0x00, 0x14, 0xc6] := by
  decide +kernel

end Comboard.LoraCodec
