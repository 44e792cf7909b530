import Comboard.Advance
import Comboard.Deadline

/-!
# The cadence behind the beacon

The loop reads the interval only when a periodic slot comes. A deadline that was set ten seconds ahead
stays there when recovery ends.
-/

namespace Comboard.Cadence

open Lib LoraTx LoraSteps

def beacon (w : LoraTx) : Bool := w.shared.globals.recovery_beacon_active

/-- The interval that a periodic slot reads. -/
def read_interval (w : LoraTx) : Nat :=
  from_millis (periodic_interval_ms (beacon w) w.loop.control_roll_cycle_active)

theorem read_interval_le {w : LoraTx} (h : beacon w = false) : read_interval w ≤ 500000 := by
  unfold read_interval
  rw [h]
  cases w.loop.control_roll_cycle_active <;> decide

/-- The reading with which a step skips overdue deadlines: behind an attempt, or when the packet of a
slot cannot be built. -/
def skipsAt (w : LoraTx) : Action → Option Nat
  | .build now =>
    match w.point with
    | .Build _ false now_ms cache =>
      if (periodic_packet_of cache now_ms w.shared.gnss_telemetry w.shared.globals
          w.shared.mission_link_fallback_sequence w.loop.prefer_control_roll_v2 false).1.isNone then
        some now
      else none
    | _ => none
  | .prepare_failed _ skipped_at | .transmitted _ _ skipped_at => some skipped_at
  | _ => none

/-! ## How the deadline moves -/

theorem skipsAt_reading {w : LoraTx} {a : Action} {reading : Nat} (h : skipsAt w a = some reading) :
    reading ∈ readings a := by
  unfold skipsAt at h
  split at h
  · split at h
    · split at h <;> cases h
      simp [readings]
    · cases h
  · cases h; simp [readings]
  · cases h; simp [readings]
  · cases h

theorem advance_deadline_behind {deadline now interval : Nat} {advance : DeadlineAdvance}
    (h : advance_deadline deadline now interval = some advance) (hbehind : deadline ≤ now) :
    advance.next_deadline_us = now + (interval - (now - deadline) % interval) := by
  unfold advance_deadline at h
  split at h <;> rename_i hzero
  · simp at h
  rw [if_neg (Nat.not_lt.mpr hbehind)] at h
  simp only [Option.bind_eq_bind, Option.bind_eq_some_iff] at h
  obtain ⟨skipped, hskipped, advance_us, hadvance, next, hnext, h⟩ := h
  split at h
  · simp at h
  obtain rfl := Option.some.inj h
  have hlt := Nat.mod_lt (now - deadline) (Nat.pos_of_ne_zero hzero)
  have hsplit := Nat.div_add_mod (now - deadline) interval
  have hslots : advance_us = interval * ((now - deadline) / interval) + interval := by
    rw [Deadline.checked_mul_some hadvance, Deadline.checked_add_some hskipped, Nat.succ_mul,
      Nat.mul_comm]
  dsimp only
  rw [Deadline.checked_add_some hnext, hslots]
  omega

/-- What a step of the loop does to the deadline, as long as it stays valid. -/
inductive Moves (w w' : LoraTx) (a : Action) : Prop where
  | stays (hvalid : w.loop.periodic_deadline_valid = true)
      (hnext : w'.loop.next_tx_at = w.loop.next_tx_at)
  | taken {reading : Nat} (hvalid : w.loop.periodic_deadline_valid = true)
      (hreading : reading ∈ readings a) (hdue : w.loop.next_tx_at ≤ reading)
      (hnext : w'.loop.next_tx_at = w.loop.next_tx_at + read_interval w)
  | skipped {reading : Nat} (hvalid : w.loop.periodic_deadline_valid = true)
      (hreading : skipsAt w a = some reading) (hdue : w.loop.next_tx_at ≤ reading)
      (hnext : w'.loop.next_tx_at =
        reading + (w.loop.interval - (reading - w.loop.next_tx_at) % w.loop.interval))

/-- The loop waits for the deadline that it has. -/
def Scheduled (w : LoraTx) : Prop :=
  ∀ it, w.point = .Select it → it.retry_selected = false →
    it.scheduled_periodic_at = w.loop.next_tx_at

theorem begin_scheduled (w : LoraTx) (now : Nat) : Scheduled (w.begin_iteration now).1 := by
  intro it hpoint hretry
  unfold begin_iteration at hpoint ⊢
  dsimp only at hpoint ⊢
  split at hpoint
  · cases hpoint
  · obtain rfl := LoraPoint.Select.inj hpoint
    dsimp only [LoraLoop.iteration, select_periodic_deadline] at hretry ⊢
    split at hretry
    · split at hretry
      · cases hretry
      · rename_i hlater
        rw [if_neg hlater]
    · rfl

theorem Moves.of_next {w v w' : LoraTx} {a : Action} (h : Moves w v a)
    (hnext : w'.loop.next_tx_at = v.loop.next_tx_at) : Moves w w' a := by
  cases h with
  | stays hvalid hv => exact .stays hvalid (hnext.trans hv)
  | taken hvalid hreading hdue hv => exact .taken hvalid hreading hdue (hnext.trans hv)
  | skipped hvalid hreading hdue hv => exact .skipped hvalid hreading hdue (hnext.trans hv)

/-- The same deadline with the same interval. -/
def SameDeadline (l l' : LoraLoop) : Prop :=
  l'.next_tx_at = l.next_tx_at ∧ l'.interval = l.interval ∧
    l'.periodic_deadline_valid = l.periodic_deadline_valid

theorem skip_overdue_moves {w v : LoraTx} {a : Action} {now : Nat}
    (hsame : SameDeadline w.loop v.loop) (hreading : skipsAt w a = some now)
    (hvalid : (v.skip_overdue_periodic_deadlines now).1.loop.periodic_deadline_valid = true) :
    Moves w (v.skip_overdue_periodic_deadlines now).1 a := by
  obtain ⟨hnext, hinterval, hbefore⟩ := hsame
  unfold skip_overdue_periodic_deadlines at hvalid ⊢
  split at hvalid <;> rename_i hv
  · rw [if_pos hv]
    rw [hbefore] at hv
    split at hvalid <;> rename_i advance hadvance
    · rw [hnext, hinterval] at hadvance
      dsimp only
      by_cases hbehind : w.loop.next_tx_at ≤ now
      · exact .skipped hv hreading hbehind (advance_deadline_behind hadvance hbehind)
      · refine .stays hv ?_
        unfold advance_deadline at hadvance
        split at hadvance
        · simp at hadvance
        · rw [if_pos (Nat.not_le.mp hbehind)] at hadvance
          rw [← Option.some.inj hadvance]
    · simp at hvalid
  · exact absurd hvalid hv

/-- The periodic branch is taken when its timer has passed. -/
theorem select5_periodic {s s' : LoraShared} {l : LoraLoop} {it : Iteration}
    {recovery_timer periodic_timer : Nat} {reports : List LoraReport}
    (h : select5 s l it recovery_timer periodic_timer = some (.periodic, s', reports)) :
    it.scheduled_periodic_at ≤ periodic_timer ∧ s' = s := by
  simp only [select5, Option.or_eq_some_iff] at h
  rcases h with h | ⟨-, h | ⟨-, h | ⟨-, h | ⟨-, h⟩⟩⟩⟩
  · obtain ⟨_, hready, -⟩ := receive_ready_some h
    cases hready
  · obtain ⟨_, hready, -⟩ := receive_ready_some h
    cases hready
  · obtain ⟨_, hready, -⟩ := receive_ready_some h
    cases hready
  · obtain ⟨-, _, _, hready, -⟩ := recovery_ready_some h
    cases hready
  · unfold control_roll_or_periodic_ready at h
    split at h <;> rename_i hdue
    · cases h
      exact ⟨hdue.2, rfl⟩
    · split at h <;> cases h

theorem select_periodic_moves {w : LoraTx} {it : Iteration} {recovery_timer periodic_timer now : Nat}
    (scheduled : Scheduled w) (hpoint : w.point = .Select it)
    (htimer : it.scheduled_periodic_at ≤ periodic_timer)
    (hvalid : (w.select_periodic it).loop.periodic_deadline_valid = true) :
    Moves w (w.select_periodic it) (.select recovery_timer periodic_timer now) := by
  cases hretry : it.retry_selected with
  | true =>
    simp only [select_periodic, hretry] at hvalid ⊢
    exact .stays (by simpa using hvalid) (by simp)
  | false =>
    rw [scheduled it hpoint hretry] at htimer
    simp only [select_periodic, hretry, Bool.false_eq_true, not_false_eq_true, if_true] at hvalid ⊢
    split at hvalid <;> rename_i hnext
    · refine .taken hvalid (by simp [readings]) htimer ?_
      dsimp only [hnext]
      apply Deadline.checked_add_some
      simpa [consume_periodic_selection, regular_deadline_after_selection, read_interval, beacon]
        using hnext
    · simp at hvalid

theorem select_moves {w w' : LoraTx} {it : Iteration} {recovery_timer periodic_timer now : Nat}
    {reports : List LoraReport} (scheduled : Scheduled w) (hpoint : w.point = .Select it)
    (h : w.select it recovery_timer periodic_timer now = some (w', reports))
    (hvalid : w'.loop.periodic_deadline_valid = true) :
    Moves w w' (.select recovery_timer periodic_timer now) := by
  simp only [select, Option.map_eq_some_iff] at h
  obtain ⟨⟨ready, shared, reports'⟩, hready, h⟩ := h
  cases ready <;> obtain ⟨rfl, rfl⟩ := Prod.mk.inj h
  case first_to_third | control_roll => exact .stays hvalid rfl
  case fourth e =>
    dsimp only at hvalid ⊢
    unfold select_recovery at hvalid ⊢
    dsimp only at hvalid ⊢
    split at hvalid <;> rename_i hnow
    · rw [if_pos hnow]
      exact .stays hvalid rfl
    · rw [if_neg hnow]
      exact .stays hvalid rfl
  case periodic =>
    obtain ⟨htimer, rfl⟩ := select5_periodic hready
    exact select_periodic_moves scheduled hpoint htimer hvalid

theorem build_moves {w : LoraTx} {it : Iteration} {event_only : Bool} {now_ms : Nat}
    {cache : CanCache} (now : Nat) (hpoint : w.point = .Build it event_only now_ms cache)
    (hvalid : (w.build it event_only now_ms cache now).1.loop.periodic_deadline_valid = true) :
    Moves w (w.build it event_only now_ms cache now).1 (.build now) := by
  unfold build at hvalid ⊢
  dsimp only at hvalid ⊢
  cases event_only with
  | true =>
    split at hvalid <;> exact .stays hvalid rfl
  | false =>
    simp only [Bool.false_or] at hvalid ⊢
    split at hvalid <;> rename_i hpacket
    · have hreading : skipsAt w (.build now) = some now := by
        unfold skipsAt
        rw [hpoint]
        dsimp only
        rw [hpacket]
        rfl
      rw [if_neg Bool.false_ne_true] at hvalid ⊢
      dsimp only at hvalid
      refine (skip_overdue_moves ?_ hreading hvalid).of_next rfl
      exact ⟨rfl, rfl, rfl⟩
    · exact .stays hvalid rfl

theorem complete_attempt_moves {w : LoraTx} {a : Action} {skipped_at : Nat}
    (hreading : skipsAt w a = some skipped_at) (it : Iteration) (e : LoRaTxEnvelope)
    (displaced : Bool) (choice : Choice) (ok : Bool) (completed_at : Nat)
    (hvalid : (w.complete_attempt it e displaced choice ok completed_at
      skipped_at).1.loop.periodic_deadline_valid = true) :
    Moves w (w.complete_attempt it e displaced choice ok completed_at skipped_at).1 a := by
  obtain ⟨l, skipped, retry, point, hl, hskip, hafter⟩ :=
    Deadline.complete_attempt_skips w it e displaced choice ok completed_at skipped_at
  rw [hafter] at hvalid ⊢
  have hsame : SameDeadline w.loop l := ⟨by rw [hl], by rw [hl], by rw [hl]⟩
  have moves := skip_overdue_moves (v := { w with loop := l }) hsame hreading
    (by rw [hskip]; exact hvalid)
  rw [hskip] at moves
  exact moves.of_next rfl

theorem step_loop_moves {w w' : LoraTx} {a : Action} {reports : List LoraReport}
    (scheduled : Scheduled w) (h : step_loop w a = some (w', reports))
    (hvalid : w'.loop.periodic_deadline_valid = true) : Moves w w' a := by
  unfold step_loop at h
  split at h
  case h_9 => simp at h
  case h_2 hpoint => exact select_moves scheduled hpoint h hvalid
  all_goals
    obtain rfl := congrArg Prod.fst (Option.some.inj h)
  case h_1 =>
    unfold begin_iteration at hvalid ⊢
    dsimp only at hvalid ⊢
    split at hvalid <;> exact .stays hvalid rfl
  case h_3 | h_8 => exact .stays hvalid rfl
  case h_4 now hpoint => exact build_moves now hpoint hvalid
  case h_5 =>
    unfold reselect at hvalid ⊢
    split at hvalid <;> exact .stays hvalid rfl
  case h_6 => exact complete_attempt_moves rfl _ _ _ _ _ _ hvalid
  case h_7 => exact complete_attempt_moves rfl _ _ _ _ _ _ hvalid

/-! ## What a step keeps -/

theorem skip_overdue_globals (w : LoraTx) (now : Nat) :
    (w.skip_overdue_periodic_deadlines now).1.shared.globals = w.shared.globals := by
  unfold skip_overdue_periodic_deadlines
  split
  · split <;> rfl
  · rfl

theorem select_globals {w w' : LoraTx} {it : Iteration} {recovery_timer periodic_timer now : Nat}
    {reports : List LoraReport}
    (h : w.select it recovery_timer periodic_timer now = some (w', reports)) :
    w'.shared.globals = w.shared.globals ∧ w'.now = w.now := by
  simp only [select, Option.map_eq_some_iff] at h
  obtain ⟨⟨ready, shared, reports'⟩, hready, h⟩ := h
  have hglobals := (Deadline.select5_queues_only hready).globals
  cases ready <;> obtain ⟨rfl, rfl⟩ := Prod.mk.inj h
  case first_to_third | control_roll | periodic => exact ⟨hglobals, rfl⟩
  case fourth e =>
    dsimp only
    unfold select_recovery
    dsimp only
    split <;> exact ⟨hglobals, rfl⟩

theorem skip_overdue_now (w : LoraTx) (now : Nat) :
    (w.skip_overdue_periodic_deadlines now).1.now = w.now := by
  unfold skip_overdue_periodic_deadlines
  split
  · split <;> rfl
  · rfl

theorem complete_attempt_globals (w : LoraTx) (it : Iteration) (e : LoRaTxEnvelope)
    (displaced : Bool) (choice : Choice) (ok : Bool) (completed_at skipped_at : Nat) :
    (w.complete_attempt it e displaced choice ok completed_at skipped_at).1.shared.globals =
        w.shared.globals ∧
      (w.complete_attempt it e displaced choice ok completed_at skipped_at).1.now = w.now := by
  obtain ⟨l, skipped, retry, point, -, hskip, hafter⟩ :=
    Deadline.complete_attempt_skips w it e displaced choice ok completed_at skipped_at
  rw [hafter, ← hskip]
  exact ⟨skip_overdue_globals _ _, skip_overdue_now _ _⟩

theorem step_loop_globals {w w' : LoraTx} {a : Action} {reports : List LoraReport}
    (h : step_loop w a = some (w', reports)) :
    w'.shared.globals = w.shared.globals ∧ w'.now = w.now := by
  unfold step_loop at h
  split at h
  case h_9 => simp at h
  case h_2 => exact select_globals h
  all_goals obtain rfl := congrArg Prod.fst (Option.some.inj h)
  case h_1 =>
    unfold begin_iteration
    dsimp only
    split <;> exact ⟨rfl, rfl⟩
  case h_3 | h_8 => exact ⟨rfl, rfl⟩
  case h_4 =>
    unfold build
    dsimp only
    split
    · split
      · exact ⟨rfl, rfl⟩
      · exact ⟨skip_overdue_globals _ _, skip_overdue_now _ _⟩
    · exact ⟨rfl, rfl⟩
  case h_5 =>
    unfold reselect
    split <;> rename_i htake
    · exact ⟨rfl, rfl⟩
    · exact ⟨(Deadline.take_higher_queues_only htake).globals, rfl⟩
  case h_6 | h_7 => exact complete_attempt_globals ..

theorem read_clock_le {now last : Nat} {readings : List Nat}
    (h : read_clock now readings = some last) : now ≤ last ∧ ∀ reading ∈ readings, reading ≤ last := by
  induction readings generalizing now with
  | nil =>
    obtain rfl := Option.some.inj h
    exact ⟨le_rfl, nofun⟩
  | cons reading rest ih =>
    simp only [read_clock] at h
    split at h <;> rename_i hreading
    · obtain ⟨hle, hrest⟩ := ih h
      refine ⟨hreading.1.trans hle, fun r hr => ?_⟩
      rcases List.mem_cons.mp hr with rfl | hr
      · exact hle
      · exact hrest r hr
    · simp at h

/-- Another task writes the beacon as a whole. -/
theorem other_beacon {s s' : LoraShared} {a : Action} {reports : List LoraReport}
    (h : step_other s a = some (s', reports)) :
    s'.globals = s.globals ∨ ∃ now, a = .write_globals s'.globals now := by
  cases a with
  | write_globals globals now =>
    obtain ⟨rfl, rfl⟩ := Prod.mk.inj (Option.some.inj h)
    exact .inr ⟨now, rfl⟩
  | _ => first
    | (obtain ⟨rfl, rfl⟩ := Prod.mk.inj (Option.some.inj h); exact .inl rfl)
    | cases h

/-! ## The cadence -/

/-- The time at which another task ends the beacon. -/
def leavesAt (w : LoraTx) : Action → Option Nat
  | .write_globals globals now =>
    if beacon w && !globals.recovery_beacon_active then some now else none
  | _ => none

/-- What a step must meet, so that the deadline does not stay far ahead behind the beacon. -/
structure Resumes (w : LoraTx) (a : Action) : Prop where
  /-- The beacon is left when the next deadline is near. -/
  left : ∀ now ∈ leavesAt w a, w.loop.periodic_deadline_valid = true →
    w.loop.next_tx_at ≤ now + 500000
  /-- Behind the beacon no overdue deadline is skipped in steps that lead far ahead. -/
  skipped : ∀ reading ∈ skipsAt w a, beacon w = false →
    w.loop.periodic_deadline_valid = true → w.loop.next_tx_at ≤ reading →
      w.loop.interval - (reading - w.loop.next_tx_at) % w.loop.interval ≤ 500000

instance instDecidableResumes (w : LoraTx) (a : Action) : Decidable (Resumes w a) :=
  decidable_of_iff
    ((∀ now ∈ leavesAt w a, w.loop.periodic_deadline_valid = true →
      w.loop.next_tx_at ≤ now + 500000) ∧
    ∀ reading ∈ skipsAt w a, beacon w = false →
      w.loop.periodic_deadline_valid = true → w.loop.next_tx_at ≤ reading →
        w.loop.interval - (reading - w.loop.next_tx_at) % w.loop.interval ≤ 500000)
    ⟨fun h => ⟨h.1, h.2⟩, fun h => ⟨h.left, h.skipped⟩⟩

structure Steady (w : LoraTx) : Prop where
  scheduled : Scheduled w
  near : beacon w = false → w.loop.periodic_deadline_valid = true →
    w.loop.next_tx_at ≤ w.now + 500000

theorem Moves.near {w w' : LoraTx} {a : Action} (moves : Moves w w' a) (steady : Steady w)
    (hresumes : Resumes w a) (hbeacon : beacon w = false) (hlater : w.now ≤ w'.now)
    (hreadings : ∀ reading ∈ readings a, reading ≤ w'.now) :
    w'.loop.next_tx_at ≤ w'.now + 500000 := by
  cases moves with
  | stays hvalid hnext =>
    have hnear := steady.near hbeacon hvalid
    omega
  | @taken reading hvalid hreading hdue hnext =>
    have hinterval := read_interval_le hbeacon
    have hle := hreadings reading hreading
    omega
  | @skipped reading hvalid hreading hdue hnext =>
    have hnear := hresumes.skipped reading hreading hbeacon hvalid hdue
    have hle := hreadings reading (skipsAt_reading hreading)
    omega

/-- The loop gets to the selection only from the top. -/
theorem select_from_top {now : Nat} {s s' : LoraShared} {h h' : HeldVars} {point point' : LoraPoint}
    {it : Iteration} {reports : List LoraReport}
    (turn : Turn now s h point s' h' point' reports) (hpoint : point' = .Select it) :
    point = .Top := by
  cases turn with
  | deferred | waits => rfl
  | transmitted _ hafter =>
    rw [hpoint] at hafter
    split at hafter <;> cases hafter
  | _ => cases hpoint

theorem step_loop_scheduled {w w' : LoraTx} {a : Action} {reports : List LoraReport} {now : Nat}
    {s : LoraShared} {h h' : HeldVars} (turn : Turn now s h w.point w'.shared h' w'.point reports)
    (hstep : step_loop w a = some (w', reports)) : Scheduled w' := by
  intro it hpoint
  have htop := select_from_top turn hpoint
  cases a <;> simp only [step_loop, htop, reduceCtorEq, Option.some.injEq] at hstep
  case begin_iteration now =>
    have scheduled := begin_scheduled w now
    rw [hstep] at scheduled
    exact scheduled it hpoint

/-- The clock may go on before the step. -/
theorem Steady.later {w : LoraTx} {now : Nat} (steady : Steady w) (h : w.now ≤ now) :
    Steady { w with now } := by
  refine ⟨steady.scheduled, fun hbeacon hvalid => ?_⟩
  have hnear := steady.near hbeacon hvalid
  dsimp only
  omega

/-- The end of the beacon is near the deadline. -/
theorem Resumes.near_left {w : LoraTx} {globals : LinkGlobals} {now last : Nat}
    (hresumes : Resumes w (.write_globals globals now)) (hbefore : beacon w = true)
    (hbeacon : globals.recovery_beacon_active = false)
    (hvalid : w.loop.periodic_deadline_valid = true)
    (hclock : read_clock w.now (readings (.write_globals globals now)) = some last) :
    w.loop.next_tx_at ≤ last + 500000 := by
  have hleaves : leavesAt w (.write_globals globals now) = some now := by
    simp [leavesAt, hbefore, hbeacon]
  have hnear := hresumes.left now hleaves hvalid
  have hle := (read_clock_le hclock).2 now (by simp [readings])
  omega

theorem steady_step {w w' : LoraTx} {a : Action} {reports : List LoraReport} (steady : Steady w)
    (hresumes : Resumes w a) (h : machine.step w a = some (w', reports)) : Steady w' := by
  simp only [machine, LoraTx.step] at h
  split at h
  · cases h
  rename_i now hclock
  obtain ⟨hlater, hreadings⟩ := read_clock_le hclock
  split at h <;> rename_i hother
  · rename_i shared reports'
    obtain ⟨rfl, rfl⟩ := Prod.mk.inj (Option.some.inj h)
    refine ⟨steady.scheduled, fun hbeacon hvalid => ?_⟩
    by_cases hbefore : beacon w = false
    · exact (steady.later hlater).near hbefore hvalid
    · rcases other_beacon hother with hsame | ⟨at_us, rfl⟩
      · exact absurd ((congrArg LinkGlobals.recovery_beacon_active hsame).symm.trans hbeacon) hbefore
      · exact hresumes.near_left (by simpa using hbefore) hbeacon hvalid hclock
  · obtain ⟨hglobals, hnow⟩ := step_loop_globals h
    have turn := step_loop_turns (w := { w with now }) hclock h
    refine ⟨step_loop_scheduled (w := { w with now }) turn h, fun hbeacon hvalid => ?_⟩
    have hbefore : beacon w = false :=
      (congrArg LinkGlobals.recovery_beacon_active hglobals).symm.trans hbeacon
    have moves := step_loop_moves (w := { w with now }) steady.scheduled h hvalid
    exact moves.near (steady.later hlater) ⟨hresumes.left, hresumes.skipped⟩ hbefore hnow.ge
      (by rw [hnow]; exact hreadings)

theorem new_next_tx_at {started_at now : Nat}
    (hvalid : (LoraLoop.new started_at now).periodic_deadline_valid = true) :
    (LoraLoop.new started_at now).next_tx_at =
      started_at + from_millis (periodic_interval_ms false false) := by
  rw [LoraLoop.new] at hvalid ⊢
  -- No `simp` or `split` before this: they evaluate the overflow check, in steps of one.
  cases hfirst : checked_add started_at (from_millis (periodic_interval_ms false false)) with
  | none =>
    rw [hfirst] at hvalid
    cases hvalid
  | some deadline => exact Deadline.checked_add_some hfirst

theorem steady_run {past : List LoraReport} {w : LoraTx}
    (run : Machine.Run machine Resumes past w) : Steady w := by
  refine run.always (I := Steady) ?_ fun _ _ _ _ steady hresumes h => steady_step steady hresumes h
  rintro w ⟨started_at, now, hnow, -, hw⟩
  have hpoint : w.point = .Top := by rw [hw]
  have hloop : w.loop = LoraLoop.new started_at now := by rw [hw]
  have hclock : w.now = now := by rw [hw]
  refine ⟨fun it hselect => ?_, fun _ hvalid => ?_⟩
  · rw [hpoint] at hselect
    cases hselect
  · rw [hloop] at hvalid ⊢
    have hnext := new_next_tx_at hvalid
    have hinterval : from_millis (periodic_interval_ms false false) = 500000 := by decide
    omega

/-- Where the beacon was left with the deadline near, the cadence is the regular one. -/
theorem cadence_resumes {past reports : List LoraReport} {w w' : LoraTx} {now : Nat}
    (run : Machine.Run machine Resumes past w)
    (h : machine.step w (.begin_iteration now) = some (w', reports))
    (hvalid : w.loop.periodic_deadline_valid = true) (hbeacon : beacon w = false) :
    w.loop.next_tx_at ≤ now + 500000 := by
  have hnear := (steady_run run).near hbeacon hvalid
  have hnow : w.now ≤ now := by
    cases step_stepped h with
    | other hother => cases hother
    | turn hclock =>
      obtain ⟨hle, -⟩ := read_clock_le hclock
      have hlast := read_clock_last hclock
      exact hle.trans hlast.le
  omega

def globals (recovery_beacon_active : Bool) : LinkGlobals :=
  { LinkGlobals.new with recovery_beacon_active }

/-- A slot of the beacon. -/
def beaconSlot : List Action :=
  [.write_globals (globals true) 400000, .begin_iteration 450000, .select 500000 500000 500000,
    .snapshot 500000, .build 500000, .prepared 500000, .transmitted true 600000 600000,
    .begin_iteration 600000]

/-- The exit, and the turn that its signal is for. -/
def exitAt (now : Nat) : List Action :=
  [.write_globals (globals false) now, .raise_control_roll, .select now now now, .snapshot now,
    .build now]

/-- The exit comes 300 milliseconds before the next slot of the beacon. -/
theorem cadence_resumes_before_slot : ∃ past w, Machine.Run machine Resumes past w ∧
    beacon w = false ∧ w.loop.interval = 10000000 ∧ w.loop.next_tx_at = 10500000 ∧
      w.loop.next_tx_at ≤ 10200000 + 500000 := by
  have hrun : ∃ past w, Machine.Run machine Resumes past w ∧
      (machine.step w (.begin_iteration 10200000)).isSome = true ∧
        w.loop.periodic_deadline_valid = true ∧ beacon w = false ∧ w.loop.interval = 10000000 ∧
          w.loop.next_tx_at = 10500000 :=
    Machine.exists_checked_run
      (fun w _ => (machine.step w (.begin_iteration 10200000)).isSome = true ∧
        w.loop.periodic_deadline_valid = true ∧ beacon w = false ∧ w.loop.interval = 10000000 ∧
          w.loop.next_tx_at = 10500000)
      (beaconSlot ++ exitAt 10200000) entered_starts (by decide +kernel)
  obtain ⟨past, w, run, hstep, hvalid, hbeacon, hinterval, hnext⟩ := hrun
  obtain ⟨⟨w', reports⟩, hstep⟩ := Option.isSome_iff_exists.mp hstep
  exact ⟨past, w, run, hbeacon, hinterval, hnext, cadence_resumes run hstep hvalid hbeacon⟩

/-- The deadline is still the one that the beacon set. -/
theorem deadline_stays_behind_beacon : ∃ past w w' reports,
    Machine.Run machine Machine.anyStep past w ∧
      machine.step w (.begin_iteration 700000) = some (w', reports) ∧
        w.loop.periodic_deadline_valid = true ∧ beacon w = false ∧
          w.shared.control_roll_lora_signal = false ∧ w.loop.next_tx_at = 10500000 := by
  obtain ⟨past, w, run, hstep, hafter⟩ : ∃ past w, Machine.Run machine Machine.anyStep past w ∧
      (machine.step w (.begin_iteration 700000)).isSome = true ∧
        w.loop.periodic_deadline_valid = true ∧ beacon w = false ∧
          w.shared.control_roll_lora_signal = false ∧ w.loop.next_tx_at = 10500000 :=
    Machine.exists_run (fun (w : LoraTx) _ =>
      (machine.step w (.begin_iteration 700000)).isSome = true ∧
        w.loop.periodic_deadline_valid = true ∧ beacon w = false ∧
          w.shared.control_roll_lora_signal = false ∧ w.loop.next_tx_at = 10500000)
      (s := entered) (beaconSlot ++ exitAt 700000) entered_starts (fun _ _ _ => trivial)
      (by decide +kernel)
  obtain ⟨⟨w', reports⟩, hstep⟩ := Option.isSome_iff_exists.mp hstep
  exact ⟨past, w, w', reports, run, hstep, hafter⟩

end Comboard.Cadence
