import Comboard.PowerSnapshot

/-!
# An invalid MissionStatus is reported

A rejected 0x102 frame leaves its time in 32 bits, an accepted one in 64. The packet compares the two,
so it knows their order only while they differ and fit.
-/

namespace Comboard.MissionInvalid

open Lib CanRxMessage Telemetry PowerSnapshot

/-! ## The history -/

/-- A 0x102 frame: if it is accepted, and its time. -/
def mission_frame : LinkAction → Option (Bool × ℕ)
  | .received identifier data received_at_ms =>
    if identifier = 0x102 then some ((decode_standard 0x102 data).isOk, received_at_ms) else none
  | .exit_recovery | .power_tick _ | .clear_event_flags _ _ => none

def last_mission (actions : List LinkAction) : Option (Bool × ℕ) :=
  (actions.filterMap mission_frame).getLast?

/-- The last 0x102 frame was rejected. -/
def LastRejected (actions : List LinkAction) : Prop :=
  ∃ rejected_at_ms, last_mission actions = some (false, rejected_at_ms)

/-- The times tell the rejected frame from the accepted one in front of it. -/
def Distinct (actions : List LinkAction) : Prop :=
  ∀ rejected_at_ms data accepted_at_ms, last_mission actions = some (false, rejected_at_ms) →
    last_valid 0x102 actions = some (data, accepted_at_ms) →
    accepted_at_ms = 0 ∨ accepted_at_ms < rejected_at_ms ∧ accepted_at_ms < 2 ^ 32 - 1

/-! ## What a run leaves -/

/-- `MISSION_STATUS_INVALID_AT_MS` after the last frame. -/
def stamp : Option (Bool × ℕ) → UInt32
  | some (false, rejected_at_ms) => max (.ofNat (min rejected_at_ms 0xffffffff)) 1
  | _ => 0

theorem stamp_toNat (rejected_at_ms : ℕ) :
    (stamp (some (false, rejected_at_ms))).toNat = max (min rejected_at_ms (2 ^ 32 - 1)) 1 := by
  have hfits : (UInt32.ofNat (min rejected_at_ms 0xffffffff)).toNat =
      min rejected_at_ms (2 ^ 32 - 1) := by
    rw [UInt32.toNat_ofNat']
    omega
  have hone : (1 : UInt32).toNat = 1 := rfl
  simp only [stamp]
  generalize UInt32.ofNat (min rejected_at_ms 0xffffffff) = observed at hfits ⊢
  have hmax : max observed 1 = if observed ≤ 1 then 1 else observed := rfl
  rw [← hfits, hmax]
  split <;> rename_i hle <;> rw [UInt32.le_iff_toNat_le, hone] at hle <;> omega

theorem mission_frame_other {identifier : UInt16} (data : List UInt8) (received_at_ms : ℕ)
    (h : identifier ≠ 0x102) : mission_frame (.received identifier data received_at_ms) = none :=
  if_neg h

theorem received_stamp (s : LinkState) (identifier : UInt16) (data : List UInt8) (received_at_ms : ℕ) :
    (s.handle_received_frame identifier data received_at_ms).mission_status_invalid_at_ms =
      match mission_frame (.received identifier data received_at_ms) with
      | some frame => stamp (some frame)
      | none => s.mission_status_invalid_at_ms := by
  by_cases hmission : identifier = 0x102
  · subst hmission
    have hframe : mission_frame (.received 0x102 data received_at_ms) =
        some ((decode_standard 0x102 data).isOk, received_at_ms) := rfl
    unfold LinkState.handle_received_frame
    rw [if_neg (by decide), if_neg (by decide), hframe]
    generalize decode_standard 0x102 data = decoded
    cases decoded <;> rfl
  · rw [mission_frame_other data received_at_ms hmission]
    unfold LinkState.handle_received_frame
    by_cases hmode : identifier = 0x014
    · subst hmode
      rw [if_pos rfl, handle_recovery_mode_command_eq]
      split_ifs
      · cases s.recovery_beacon_active <;> rfl
      · rfl
    · rw [if_neg hmode]
      split
      · rfl
      · cases decode_standard identifier data <;> rfl

theorem run_stamp (actions : List LinkAction) :
    (Link.run actions).mission_status_invalid_at_ms = stamp (last_mission actions) := by
  induction actions using List.reverseRecOn with
  | nil => rfl
  | append_singleton actions action ih =>
    have hlast : last_mission (actions ++ [action]) =
        (mission_frame action).or (last_mission actions) := by
      unfold last_mission
      rw [List.filterMap_append, List.getLast?_append]
      cases h : mission_frame action <;> simp [h]
    rw [Link.run_snoc, hlast]
    cases action with
    | received identifier data received_at_ms =>
      have hreceived := received_stamp (Link.run actions).toLinkState identifier data received_at_ms
      rw [ih] at hreceived
      rw [Link.step, hreceived]
      cases mission_frame (.received identifier data received_at_ms) <;> rfl
    | exit_recovery => exact ih
    | power_tick now_ms => exact ih
    | clear_event_flags flags revision => exact ih

theorem run_received_at (actions : List LinkAction) :
    (Link.run actions).can_cache.mission_status.received_at_ms =
      (last_valid 0x102 actions).map (·.2) := by
  have hentry : (Link.run actions).can_cache.mission_status =
      mission_status_entry.stored (last_valid 0x102 actions) :=
    mission_status_entry.run_entry (.inl fun _ _ => rfl)
  rw [hentry]
  cases last_valid 0x102 actions <;> rfl

/-! ## The report -/

def primary_loss_reason : ApplicationPacket → Option UInt8
  | .MissionLinkFallbackTelemetry value => some value.primary_loss_reason
  | _ => none

/-- The reason in an A8 packet that is built after the run. -/
def reported (actions : List LinkAction) (now_ms : ℕ) (gnss : GnssTelemetry) (others : LinkGlobals)
    (sequence can_health : UInt8) : Option UInt8 :=
  let s := Link.run actions
  primary_loss_reason
    (mission_link_fallback_packet_with_health s.can_cache now_ms gnss (s.globals others) sequence
      can_health)

/-- Reason 5 is the answer to `invalid_is_latest` alone. -/
theorem loss_reason_eq_five_iff {can_health : UInt8} (hhealth : can_health ≤ 3)
    (invalid_is_latest mission_ever : Bool) (mission_age : UInt16) (periodic_ever : Bool)
    (any_periodic_age : UInt16) :
    fallback_primary_loss_reason can_health invalid_is_latest mission_ever mission_age periodic_ever
      any_periodic_age = 5 ↔ invalid_is_latest = true := by
  have hne (code : UInt8) (hcode : 3 < code) : can_health ≠ code := by
    rintro rfl
    exact absurd hhealth (UInt8.not_le.mpr hcode)
  unfold fallback_primary_loss_reason
  rw [if_neg (hne 4 (by decide)), if_neg (hne 5 (by decide)), if_neg (hne 6 (by decide))]
  split_ifs <;> simp_all

theorem reported_iff (actions : List LinkAction) (now_ms : ℕ) (gnss : GnssTelemetry)
    (others : LinkGlobals) (sequence : UInt8) {can_health : UInt8} (hhealth : can_health ≤ 3) :
    reported actions now_ms gnss others sequence can_health = some 5 ↔
      (stamp (last_mission actions)).toNat ≠ 0 ∧ ∀ data accepted_at_ms,
        last_valid 0x102 actions = some (data, accepted_at_ms) →
        accepted_at_ms < (stamp (last_mission actions)).toNat := by
  have hreason : reported actions now_ms gnss others sequence can_health = some 5 ↔ _ :=
    Option.some_inj.trans (loss_reason_eq_five_iff hhealth _ _ _ _ _)
  rw [hreason, Bool.and_eq_true, decide_eq_true_iff, Option.all_eq_true, run_received_at]
  have hstamp : ((Link.run actions).globals others).mission_status_invalid_at_ms =
      stamp (last_mission actions) := run_stamp actions
  rw [hstamp]
  apply and_congr_right'
  constructor
  · intro h data accepted_at_ms hvalid
    exact of_decide_eq_true (h accepted_at_ms (by rw [hvalid]; rfl))
  · intro h accepted_at_ms hvalid
    obtain ⟨⟨data, _⟩, hlast, rfl⟩ := Option.map_eq_some_iff.mp hvalid
    exact decide_eq_true (h data _ hlast)

/-- Reason 5 says that the last 0x102 frame was rejected, exactly when the times tell the two last
frames apart. -/
theorem invalid_reported_iff (actions : List LinkAction) (now_ms : ℕ) (gnss : GnssTelemetry)
    (others : LinkGlobals) (sequence : UInt8) {can_health : UInt8} (hhealth : can_health ≤ 3) :
    (reported actions now_ms gnss others sequence can_health = some 5 ↔ LastRejected actions) ↔
      Distinct actions := by
  rw [reported_iff actions now_ms gnss others sequence hhealth]
  unfold LastRejected Distinct
  generalize last_mission actions = last
  match last with
  | none | some (true, _) => simp [stamp]
  | some (false, rejected_at_ms) =>
    rw [stamp_toNat]
    constructor
    · rintro hreported _ data accepted_at_ms heq hvalid
      cases heq
      have hlt := (hreported.mpr ⟨_, rfl⟩).2 data accepted_at_ms hvalid
      omega
    · intro hdistinct
      refine iff_of_true ⟨by omega, ?_⟩ ⟨_, rfl⟩
      intro data accepted_at_ms hvalid
      have htimes := hdistinct _ data accepted_at_ms rfl hvalid
      omega

/-- An accepted frame, and a rejected one in the same millisecond. -/
def tie : List LinkAction :=
  [.received 0x102 [0, 1, 0, 0, 0, 0, 0, 0] 1000, .received 0x102 [0] 1000]

/-- A frame at 1000 ms and a rejected one at 1001 ms. -/
theorem invalid_reported_iff_apart :
    (0 : UInt8) ≤ 3 ∧
      reported [.received 0x102 [0, 1, 0, 0, 0, 0, 0, 0] 1000, .received 0x102 [0] 1001] 2000 .new .new
        0 0 = some 5 := by
  refine ⟨by decide, (invalid_reported_iff _ _ _ _ _ (by decide)).mpr ?_ |>.mpr ⟨1001, by decide⟩⟩
  intro rejected_at_ms data accepted_at_ms hlast hvalid
  have hrejected : some (false, 1001) = some (false, rejected_at_ms) := hlast
  have haccepted : some ([0, 1, 0, 0, 0, 0, 0, 0], 1000) = some (data, accepted_at_ms) := hvalid
  simp only [Option.some.injEq, Prod.mk.injEq, true_and] at hrejected haccepted
  omega

/-- So not every ordered run reports its invalid frame. -/
theorem tie_not_reported :
    ¬ ∀ actions now_ms gnss others sequence can_health, Ordered actions → can_health ≤ 3 →
      (reported actions now_ms gnss others sequence can_health = some 5 ↔ LastRejected actions) := by
  intro hclaim
  have hordered : Ordered tie := by
    unfold Ordered
    decide
  have hreported := (hclaim tie 2000 .new .new 0 1 hordered (by decide)).mpr ⟨1000, by decide⟩
  exact absurd hreported (by decide)

end Comboard.MissionInvalid
