import Comboard.CanRefinement
import Comboard.DriverState
import Comboard.MissionInvalid

/-!
# What the CAN task publishes

The error flag and the health code of the fallback packet, from what the task has seen of the bus.
-/

namespace Comboard.ErrorFlag

open Lib CanCommunicationTask CanSteps CanRefinement DriverState Telemetry

/-! ## Failures in a row -/

/-- The end of an attempt to send, and whether it failed. -/
def send_failed : CanReport → Option Bool
  | .attempted _ error => some error.isSome
  | _ => none

/-- What the driver gave for a received frame. -/
def receive_failed : CanReport → Option Bool
  | .received _ _ => some false
  | .receive_error _ => some true
  | _ => none

/-- How many of the last ones failed in a row. -/
def failures (f : CanReport → Option Bool) (past : List CanReport) : ℕ :=
  trailing id (past.filterMap f)

theorem u8_saturating_add_toNat (a b : UInt8) :
    (u8_saturating_add a b).toNat = min (a.toNat + b.toNat) 0xff := by
  unfold u8_saturating_add
  exact UInt8.toNat_ofNat_of_lt' (by simp [UInt8.size])

/-- A counter that stops at its greatest value. -/
def Counts (count : UInt8) (f : CanReport → Option Bool) (past : List CanReport) : Prop :=
  count.toNat = min (failures f past) 0xff

theorem Counts.same {count : UInt8} {f : CanReport → Option Bool} {past new : List CanReport}
    (h : Counts count f past) (hnew : new.filterMap f = []) : Counts count f (past ++ new) := by
  unfold Counts failures at *
  rw [List.filterMap_append, hnew, List.append_nil, h]

theorem Counts.told {count next : UInt8} {f : CanReport → Option Bool} {past : List CanReport}
    {r : CanReport} (h : Counts count f past)
    (hnext : next = match f r with
      | none => count
      | some false => 0
      | some true => u8_saturating_add count 1) : Counts next f (past ++ [r]) := by
  unfold Counts failures at *
  rw [List.filterMap_append]
  rcases hr : f r with _ | _ | _
  · simp [hnext, hr, h]
  · simp [hnext, hr]
  · have hone : (1 : UInt8).toNat = 1 := rfl
    simp [hnext, hr, u8_saturating_add_toNat, h, hone]
    omega

/-- Both counters. -/
structure CountsFailures (past : List CanReport) (w : CanCommunicationTask) : Prop where
  tx : Counts w.consecutive_tx_errors send_failed past
  rx : Counts w.consecutive_rx_errors receive_failed past

theorem CountsFailures.turn {past reports : List CanReport} {w v : CanCommunicationTask}
    (h : CountsFailures past w) (turn : Turn w v reports) : CountsFailures (past ++ reports) v := by
  cases turn with
  | beside hreports hheld =>
    have htx : v.consecutive_tx_errors = w.consecutive_tx_errors :=
      congrArg Held.consecutive_tx_errors hheld
    have hrx : v.consecutive_rx_errors = w.consecutive_rx_errors :=
      congrArg Held.consecutive_rx_errors hheld
    have hsend : reports.filterMap send_failed = [] := by
      refine filterMap_aside (fun r hr => ?_) hreports
      cases r <;> simp_all [aside, send_failed]
    have hreceive : reports.filterMap receive_failed = [] := by
      refine filterMap_aside (fun r hr => ?_) hreports
      cases r <;> simp_all [aside, receive_failed]
    exact ⟨htx ▸ h.tx.same hsend, hrx ▸ h.rx.same hreceive⟩
  | @told r hcan hr hheld =>
    have htx := congrArg Held.consecutive_tx_errors hheld
    have hrx := congrArg Held.consecutive_rx_errors hheld
    rw [List.append_cons]
    refine ⟨(h.tx.told ?_).same (filterMap_fed rfl _ _), (h.rx.told ?_).same (filterMap_fed rfl _ _)⟩
    · refine Eq.trans htx ?_
      rcases r with ⟨_, _ | _⟩ | _ | _ | _ | _ | _ | _ | _ | _ <;> rfl
    · refine Eq.trans hrx ?_
      rcases r with ⟨_, _ | _⟩ | _ | _ | _ | _ | _ | _ | _ | _ <;> rfl
  | locked hcan hlocked hheld =>
    have htx := congrArg Held.consecutive_tx_errors hheld
    have hrx := congrArg Held.consecutive_rx_errors hheld
    exact ⟨h.tx.told htx, h.rx.told hrx⟩
  | unlocked hcan hheld =>
    have htx : v.consecutive_tx_errors = w.consecutive_tx_errors :=
      congrArg Held.consecutive_tx_errors hheld
    have hrx : v.consecutive_rx_errors = w.consecutive_rx_errors :=
      congrArg Held.consecutive_rx_errors hheld
    exact ⟨htx ▸ h.tx.same (filterMap_fed rfl _ _), hrx ▸ h.rx.same (filterMap_fed rfl _ _)⟩

theorem counts_failures : Invariant CountsFailures where
  start _ := ⟨rfl, rfl⟩
  arm h arm := h.turn arm.turn
  publish h _ := ⟨h.tx.same rfl, h.rx.same rfl⟩

/-- Three in a row are too many. -/
theorem Counts.threshold {count : UInt8} {f : CanReport → Option Bool} {past : List CanReport}
    (h : Counts count f past) : count ≥ CAN_CONSECUTIVE_ERROR_THRESHOLD ↔ 3 ≤ failures f past := by
  have hthree : CAN_CONSECUTIVE_ERROR_THRESHOLD.toNat = 3 := rfl
  unfold Counts at h
  rw [ge_iff_le, UInt8.le_iff_toNat_le, h, hthree]
  omega

/-! ## The mission status -/

theorem last_valid_not_exit (id : UInt16) (actions : List LinkAction) :
    last_valid id (actions.filter not_exit) = last_valid id actions := by
  unfold last_valid
  rw [List.filterMap_filter]
  refine congrArg List.getLast? (List.filterMap_congr fun action _ => ?_)
  cases action <;> rfl

/-- A MissionStatus came, and is not too old. -/
def StatusFresh (past : List CanReport) (now_ms : ℕ) : Prop :=
  ∃ data received_at_ms, last_valid 0x102 (link_actions past) = some (data, received_at_ms) ∧
    received_at_ms ≤ now_ms ∧ now_ms - received_at_ms ≤ 300

theorem freshness_iff {T : Type} (entry : Latest T) (now_ms maximum_age_ms : ℕ) :
    entry.freshness now_ms maximum_age_ms = .Fresh ↔
      ∃ received_at_ms, entry.received_at_ms = some received_at_ms ∧
        received_at_ms ≤ now_ms ∧ now_ms - received_at_ms ≤ maximum_age_ms := by
  unfold Latest.freshness Latest.received_at_ms
  cases entry.latest with
  | none => simp
  | some value => simp

theorem status_fresh_iff {past : List CanReport} {w : CanCommunicationTask} (h : Refines past w)
    (now_ms : ℕ) :
    w.path.state.can_cache.mission_status.freshness now_ms FRESHNESS_10_HZ_MS = .Fresh ↔
      StatusFresh past now_ms := by
  obtain ⟨actions, hactions, -, hrun⟩ := h
  have hcache : w.path.state.can_cache = (Link.run actions).can_cache :=
    congrArg (·.can_cache) hrun.symm
  rw [freshness_iff, hcache, MissionInvalid.run_received_at, ← last_valid_not_exit, hactions]
  unfold StatusFresh
  simp only [Option.map_eq_some_iff, Prod.exists, exists_eq_right]
  constructor
  · rintro ⟨received_at_ms, ⟨data, hvalid⟩, hage⟩
    exact ⟨data, received_at_ms, hvalid, hage⟩
  · rintro ⟨data, received_at_ms, hvalid, hage⟩
    exact ⟨received_at_ms, ⟨data, hvalid⟩, hage⟩

/-! ## What is published -/

/-- Everything that `IS_CAN_ERROR` stands for is in order. -/
structure InOrder (past : List CanReport) (reading : CanReading) : Prop where
  driver : driver_state (events past) = .Normal
  health : reading.registers.health = .Active
  tx : failures send_failed past < 3
  rx : failures receive_failed past < 3
  status : StatusFresh past reading.now_ms

/-- At the end of every iteration the health code says what the last events make of the driver, and
the error flag is clear if and only if everything is in order. -/
theorem published_error_state {past before after : List CanReport} {w : CanCommunicationTask}
    {reading : CanReading} {status : CanStatus}
    (run : Machine.Run machine Machine.anyStep past w)
    (hpast : past = before ++ .published reading status :: after) :
    status.can_fallback_health =
        fallback_health_code (driver_state (events before)) reading.registers.health ∧
      (status.is_can_error = false ↔ InOrder before reading) := by
  obtain ⟨v, ⟨hfollows, hcounts, hrefines⟩, hcan, rfl⟩ :=
    (follows.and (counts_failures.and refines)).published run hpast
  have hstate : v.runtime_state = driver_state (events before) := by
    rw [← events_driver_reports]
    exact (hfollows.agrees (by simp [hcan])).2.state
  have htx := hcounts.tx.threshold
  have hrx := hcounts.rx.threshold
  have hfresh := status_fresh_iff hrefines reading.now_ms
  refine ⟨congrArg (fallback_health_code · reading.registers.health) hstate, ?_⟩
  change v.error_state reading = false ↔ _
  unfold error_state
  rw [decide_eq_false_iff_not, hstate, htx, hrx, hfresh]
  simp only [not_or, not_not, ne_eq, Nat.not_le]
  constructor
  · rintro ⟨hdriver, hhealth, hsent, hreceived, hstatus⟩
    exact ⟨hdriver, hhealth, hsent, hreceived, hstatus⟩
  · rintro ⟨hdriver, hhealth, hsent, hreceived, hstatus⟩
    exact ⟨hdriver, hhealth, hsent, hreceived, hstatus⟩

/-- A MissionStatus comes. -/
def status_received : List Action := [.received (status_frame 0) 200 calm]

theorem published_error_state_clear : ∃ past w before after status,
    Machine.Run machine Machine.anyStep past w ∧
      past = before ++ .published calm status :: after ∧ status.can_fallback_health = 1 ∧
        status.is_can_error = false ∧ InOrder before calm := by
  obtain ⟨past, w, run, hpast, hcode, hclear⟩ : ∃ past w, Machine.Run machine Machine.anyStep past w ∧
      past = past.take 1 ++ [CanReport.published calm w.status] ∧ w.status.can_fallback_health = 1 ∧
        w.status.is_can_error = false :=
    Machine.exists_run (fun (w : CanCommunicationTask) past =>
      past = past.take 1 ++ [CanReport.published calm w.status] ∧ w.status.can_fallback_health = 1 ∧
        w.status.is_can_error = false)
      status_received ⟨calm.registers, rfl⟩ (fun _ _ _ => trivial) (by decide +kernel)
  exact ⟨past, w, _, _, _, run, hpast, hcode, hclear,
    (published_error_state run hpast).2.mp hclear⟩

end Comboard.ErrorFlag
