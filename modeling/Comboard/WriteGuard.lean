import Comboard.Attempts
import Comboard.HalfDuplex

/-!
# Nothing is written right after a reception

The guard returns before the second wait for AUX, so it is the last look at the signal that counts.
-/

namespace Comboard.WriteGuard

open Lib LoraTransmit TransmitSteps Attempts

/-! ## The last look -/

/-- `late` is what has been reported since the guard looked, all of it in one attempt. -/
structure LastLook (past early late : List TransmitReport) : Prop where
  split : past = early ++ .guard .looked :: late
  looked : .guard .looked ∉ late
  attempt : late.filterMap finished = []

/-- The receptions that were signalled before the last look are over. -/
def Quiet (past : List TransmitReport) (now : Nat) : Prop :=
  ∃ early late, LastLook past early late ∧
    ∀ at_us, .guard (.activity at_us) ∈ early → at_us + guard_duration ≤ now

section Look

variable {past early late reports : List TransmitReport} {now now' : Nat}

theorem LastLook.append (look : LastLook past early late) (hlooked : .guard .looked ∉ reports)
    (hfinished : reports.filterMap finished = []) :
    LastLook (past ++ reports) early (late ++ reports) where
  split := by rw [look.split, List.append_assoc, List.cons_append]
  looked := by simp [look.looked, hlooked]
  attempt := by rw [List.filterMap_append, look.attempt, hfinished, List.append_nil]

theorem LastLook.here (past : List TransmitReport) : LastLook (past ++ [.guard .looked]) past [] :=
  ⟨rfl, List.not_mem_nil, rfl⟩

theorem Quiet.append (quiet : Quiet past now) (hnow : now ≤ now')
    (hlooked : .guard .looked ∉ reports) (hfinished : reports.filterMap finished = []) :
    Quiet (past ++ reports) now' := by
  obtain ⟨early, late, look, hquiet⟩ := quiet
  exact ⟨early, late ++ reports, look.append hlooked hfinished, fun at_us h => (hquiet at_us h).trans hnow⟩

theorem activity_mem {at_us : Nat} (h : .guard (.activity at_us) ∈ early) :
    .activity at_us ∈ early.flatMap guard_report :=
  List.mem_flatMap.mpr ⟨_, h, List.mem_singleton.mpr rfl⟩

theorem not_looked (h : .guard .looked ∉ late) : .looked ∉ late.flatMap guard_report := by
  intro hmem
  obtain ⟨r, hr, hlooked⟩ := List.mem_flatMap.mp hmem
  unfold guard_report at hlooked
  split at hlooked
  · exact h (List.mem_singleton.mp hlooked ▸ hr)
  · simp at hlooked

end Look

/-! ## The steps of the guard -/

inductive GuardStep (g : RxGuard) : RxGuard.Action → RxGuard → List RxGuard.Report → Prop where
  | looked {a : RxGuard.Action} {g' : RxGuard} (ha : a = .call ∨ a = .take ∨ a = .signalled)
      (hnow : g'.now = g.now) : GuardStep g a g' [.looked]
  | activity {now : Nat} : GuardStep g (.activity now)
      { g with now, lora_rx_activity_signal := some now } [.activity now]
  | waits {a : RxGuard.Action} {g' : RxGuard} (ha : a = .compare g'.now ∨ a = .timer g'.now)
      (hpoint : g.point ≠ .Idle) : GuardStep g a g' []
  | returned {now : Nat} (hpoint : g.point = .Return) :
    GuardStep g (.return_ now) { g with now, point := .Idle } [.returned now]

theorem guard_step {g g' : RxGuard} {a : RxGuard.Action} {new : List RxGuard.Report}
    (h : RxGuard.machine.step g a = some (g', new)) : GuardStep g a g' new := by
  have htake (g : RxGuard) : g.try_take.now = g.now := by
    unfold RxGuard.try_take
    split <;> rfl
  unfold RxGuard.machine RxGuard.step at h
  dsimp only at h
  split at h
  case h_1 =>
    simp only [Option.ite_none_right_eq_some, Option.some.injEq, Prod.mk.injEq] at h
    obtain ⟨-, rfl, rfl⟩ := h
    exact .activity
  case h_2 | h_4 =>
    obtain ⟨rfl, rfl⟩ := Prod.mk.inj (Option.some.inj h)
    exact .looked (by simp) (htake g)
  case h_3 hpoint =>
    simp only [Option.ite_none_right_eq_some, Option.map_eq_some_iff, Prod.mk.injEq] at h
    obtain ⟨-, deadline, -, rfl, rfl⟩ := h
    exact .waits (by simp) (by simp [hpoint])
  case h_5 =>
    split at h
    · simp at h
    · obtain ⟨rfl, rfl⟩ := Prod.mk.inj (Option.some.inj h)
      exact .looked (by simp) rfl
  case h_6 hpoint =>
    simp only [Option.ite_none_right_eq_some, Option.some.injEq, Prod.mk.injEq] at h
    obtain ⟨-, rfl, rfl⟩ := h
    exact .waits (by simp) (by simp [hpoint])
  case h_7 hpoint =>
    simp only [Option.ite_none_right_eq_some, Option.some.injEq, Prod.mk.injEq] at h
    obtain ⟨-, rfl, rfl⟩ := h
    exact .returned hpoint
  case h_8 => simp at h

/-! ## From the look to the first byte -/

structure Guarded (past : List TransmitReport) (w : LoraTransmit) : Prop where
  clock : w.guard.now ≤ w.now
  calling : w.guard.point ≠ .Idle → w.attempt.map TransmitAttempt.point = some .RxGuard ∧
    ∃ early late, LastLook past early late
  passed : w.attempt.map TransmitAttempt.point = some .PostGuardAux ∨
    w.attempt.map TransmitAttempt.point = some .Reselect → Quiet past w.now

section Steps

variable {past reports : List TransmitReport} {w w' : LoraTransmit}

/-- The guard has no part in the step. -/
theorem Guarded.beside (guarded : Guarded past w) (hguard : w'.guard = w.guard)
    (hnow : w.now ≤ w'.now) (hlooked : .guard .looked ∉ reports)
    (hfinished : reports.filterMap finished = [])
    (hcalling : w.attempt.map TransmitAttempt.point = some .RxGuard →
      w'.attempt.map TransmitAttempt.point = some .RxGuard)
    (hpassed : w'.attempt.map TransmitAttempt.point = some .PostGuardAux ∨
        w'.attempt.map TransmitAttempt.point = some .Reselect →
      w.attempt.map TransmitAttempt.point = some .PostGuardAux ∨
        w.attempt.map TransmitAttempt.point = some .Reselect) :
    Guarded (past ++ reports) w' where
  clock := by rw [hguard]; exact guarded.clock.trans hnow
  calling hpoint := by
    obtain ⟨hattempt, early, late, look⟩ := guarded.calling (hguard ▸ hpoint)
    exact ⟨hcalling hattempt, early, late ++ reports, look.append hlooked hfinished⟩
  passed hpoint := (guarded.passed (hpassed hpoint)).append hnow hlooked hfinished

/-- Behind an attempt that the guard is not called in. -/
theorem Guarded.leaves {past' : List TransmitReport} (guarded : Guarded past w)
    (hguard : w'.guard = w.guard) (hnow : w.now ≤ w'.now)
    (hnot : w.attempt.map TransmitAttempt.point ≠ some .RxGuard)
    (hnot' : w'.attempt.map TransmitAttempt.point ≠ some .PostGuardAux ∧
      w'.attempt.map TransmitAttempt.point ≠ some .Reselect) : Guarded past' w' where
  clock := by rw [hguard]; exact guarded.clock.trans hnow
  calling hpoint := absurd (guarded.calling (hguard ▸ hpoint)).1 hnot
  passed hpoint := by rcases hpoint with h | h <;> simp [h] at hnot'

theorem guard_turn {a : RxGuard.Action} {guard : RxGuard} {new : List RxGuard.Report} {now : Nat}
    (guarded : Guarded past w) (hclock : read_clock w.now (guard_readings a) = some now)
    (hkind : (∃ at_us, a = .activity at_us) ∨
      (∃ attempt, w.attempt = some attempt ∧ attempt.point = .RxGuard) ∧ ∀ at_us, a ≠ .return_ at_us)
    (hstep : RxGuard.machine.step w.guard a = some (guard, new)) :
    Guarded (past ++ new.map .guard) { w with guard, now } := by
  have hnow := (read_clock_bounds hclock).1
  have hpassed : w.attempt.map TransmitAttempt.point = some .PostGuardAux ∨
      w.attempt.map TransmitAttempt.point = some .Reselect → new ≠ [.looked] := by
    rintro hpoint rfl
    rcases hkind with ⟨at_us, rfl⟩ | ⟨⟨attempt, hattempt, hcalled⟩, -⟩
    · cases guard_step hstep with
      | looked ha => simp at ha
    · simp [hattempt, hcalled] at hpoint
  cases guard_step hstep with
  | looked ha hguard =>
    refine ⟨hguard ▸ guarded.clock.trans hnow, fun _ => ⟨?_, past, [], .here past⟩, fun h => absurd rfl (hpassed h)⟩
    rcases hkind with ⟨at_us, rfl⟩ | ⟨⟨attempt, hattempt, hcalled⟩, -⟩
    · simp at ha
    · simp [hattempt, hcalled]
  | @activity at_us =>
    simp only [guard_readings, read_clock, Option.ite_none_right_eq_some, Option.some.injEq] at hclock
    refine ⟨hclock.2.le, fun hpoint => ?_, fun h => (guarded.passed h).append hnow (by simp) rfl⟩
    obtain ⟨hattempt, early, late, look⟩ := guarded.calling hpoint
    exact ⟨hattempt, early, _, look.append (by simp) rfl⟩
  | waits ha hpoint =>
    obtain ⟨hattempt, early, late, look⟩ := guarded.calling hpoint
    refine ⟨?_, fun _ => ⟨hattempt, early, _, look.append (by simp) rfl⟩, fun h => by simp [hattempt] at h⟩
    rcases ha with rfl | rfl
    all_goals
      simp only [guard_readings, read_clock, Option.ite_none_right_eq_some, Option.some.injEq] at hclock
      exact hclock.2.le
  | returned =>
    rcases hkind with ⟨at_us, h⟩ | ⟨-, h⟩
    · simp at h
    · exact absurd rfl (h _)

/-- The guard returns when what it has seen is over. -/
theorem returned_turn {attempt : TransmitAttempt} {guard : RxGuard} {new : List RxGuard.Report}
    {timing : TxTimingTrace} {now : Nat} (run : Machine.Run machine Machine.anyStep past w)
    (guarded : Guarded past w) (hnow : w.now ≤ now)
    (hstep : RxGuard.machine.step w.guard (.return_ now) = some (guard, new)) :
    Guarded (past ++ new.map .guard)
      { w with guard, attempt := some { attempt with point := .PostGuardAux, timing }, now } := by
  cases guard_step hstep with
  | looked ha => simp at ha
  | waits ha => simp at ha
  | returned hpoint =>
    obtain ⟨-, early, late, look⟩ := guarded.calling (by simp [hpoint])
    refine ⟨le_rfl, fun h => absurd rfl h, fun _ => ?_⟩
    have hsplit : past.flatMap guard_report =
        early.flatMap guard_report ++ .looked :: late.flatMap guard_report := by
      rw [look.split, List.flatMap_append]
      rfl
    have quiet : Quiet past w.now := ⟨early, late, look, fun at_us h =>
      (HalfDuplex.quiet_run (refines_guard run) hpoint _ _ hsplit (not_looked look.looked) at_us
        (activity_mem h)).trans guarded.clock⟩
    exact quiet.append hnow (by simp) rfl

theorem guarded_step (run : Machine.Run machine Machine.anyStep past w) (guarded : Guarded past w)
    (turn : Turn w w' reports) : Guarded (past ++ reports) w' := by
  cases turn with
  | tx _ hclock =>
    exact guarded.beside rfl hclock.1 (by simp) (by simp) id id
  | guard hclock hkind hstep => exact guard_turn guarded hclock hkind hstep
  | returned hclock _ _ hstep => exact returned_turn run guarded hclock.1 hstep
  | began hclock _ hattempt => exact guarded.leaves rfl hclock.1 (by simp [hattempt]) (by simp)
  | stage hclock hattempt hpoint hstage =>
    cases hstage with
    | post_guard_aux =>
      exact guarded.beside rfl hclock.1 List.not_mem_nil rfl (by simp [hattempt, hpoint])
        (by simp [hattempt, hpoint])
    | _ => exact guarded.leaves rfl hclock.1 (by simp [hattempt, hpoint]) (by simp)
  | not_ready hattempt hpoint =>
    refine guarded.leaves rfl le_rfl ?_ (by simp)
    rcases hpoint with hpoint | hpoint <;> simp [hattempt, hpoint]
  | reselected hclock hattempt hpoint =>
    exact guarded.leaves rfl (hclock.1.trans hclock.2.1) (by simp [hattempt, hpoint]) (by simp)
  | wrote hattempt hpoint => exact guarded.leaves rfl le_rfl (by simp [hattempt, hpoint]) (by simp)
  | not_written hattempt hpoint =>
    refine guarded.leaves rfl le_rfl ?_ (by simp [LoraTransmit.fail])
    rcases hpoint with hpoint | ⟨bytes, hpoint⟩ <;> simp [hattempt, hpoint]
  | not_seen hattempt hpoint =>
    refine guarded.leaves rfl le_rfl ?_ (by simp [LoraTransmit.fail])
    rcases hpoint with hpoint | hpoint <;> simp [hattempt, hpoint]
  | sent hclock hattempt hpoint =>
    exact guarded.leaves rfl hclock.1 (by simp [hattempt, hpoint]) (by simp)
  | completed hclock hattempt hpoint =>
    exact guarded.leaves rfl hclock.1 (by simp [hattempt, hpoint]) (by simp)

theorem guarded_run (run : Machine.Run machine Machine.anyStep past w) : Guarded past w := by
  refine run.invariant ?_ fun _ _ _ _ _ run guarded _ h => guarded_step run guarded (step_turn h)
  rintro w ⟨started_at, now, -, -, rfl⟩
  exact ⟨le_rfl, fun h => absurd rfl h, by simp⟩

end Steps

/-! ## When the first byte is written -/

/-- Only the reselection starts to write. -/
theorem write_started_turn {w w' : LoraTransmit} {reports new later : List TransmitReport} {now : Nat}
    (turn : Turn w w' reports) (hreports : reports = new ++ .write_started now :: later) :
    w.attempt.map TransmitAttempt.point = some .Reselect ∧ w.now ≤ now ∧
      .guard .looked ∉ new ∧ new.filterMap finished = [] := by
  have hmem : TransmitReport.write_started now ∈ reports := hreports ▸ by simp
  cases turn with
  | reselected hclock hattempt hpoint =>
    rcases Machine.split_passed_on (by simp) hreports with ⟨rfl, hsame⟩ | hlater
    · obtain rfl := TransmitReport.write_started.inj hsame
      exact ⟨by simp [hattempt, hpoint], hclock.1.trans hclock.2.1, by simp, by simp⟩
    · simp at hlater
  | _ => simp at hmem

/-- Before the first byte of a frame is written, the guard has looked at the signal in the same attempt,
and what was received before its last look lies as far back as the guard time says. -/
theorem write_after_guard {past before after : List TransmitReport} {w : LoraTransmit} {now : Nat}
    (run : Machine.Run machine Machine.anyStep past w)
    (hpast : past = before ++ .write_started now :: after) :
    ∃ early late, before = early ++ .guard .looked :: late ∧ .guard .looked ∉ late ∧
      late.filterMap finished = [] ∧
        ∀ at_us, .guard (.activity at_us) ∈ early → at_us + LORA_RX_TX_GUARD_MS * 1000 ≤ now := by
  obtain ⟨past', w', a, w'', new, later, run', hstep, rfl⟩ := run.reported hpast
  obtain ⟨hpoint, hnow, hlooked, hfinished⟩ := write_started_turn (step_turn hstep) rfl
  obtain ⟨early, late, look, hquiet⟩ := ((guarded_run run').passed (.inr hpoint)).append hnow hlooked
    hfinished
  exact ⟨early, late, look.split, look.looked, look.attempt, hquiet⟩

/-- Bytes in the middle of the wait make it longer. -/
def interrupted : List LoraTransmit.Action :=
  answer 1 1000 ++ [.activity 1000, .aux at_once 1000, .guard .call, .guard (.compare 2000),
    .activity 50000, .guard (.timer 61000), .guard .take, .guard (.compare 62000),
    .guard (.timer 110000), .guard .take, .guard (.return_ 110500), .aux at_once 110500,
    .reselect 1000 110600 110700]

theorem write_after_guard_interrupted : ∃ before early late : List TransmitReport,
    before = early ++ .guard .looked :: late ∧ .guard (.activity 50000) ∈ before ∧
      ∀ at_us, .guard (.activity at_us) ∈ early → at_us + LORA_RX_TX_GUARD_MS * 1000 ≤ 110700 := by
  obtain ⟨past, w, run, hpast⟩ : ∃ past w, Machine.Run machine Machine.anyStep past w ∧
      past.getLast? = some (TransmitReport.write_started 110700) ∧
        TransmitReport.guard (.activity 50000) ∈ past.dropLast :=
    Machine.exists_run (fun _ past => past.getLast? = some (TransmitReport.write_started 110700) ∧
      TransmitReport.guard (.activity 50000) ∈ past.dropLast) interrupted idle_starts
      (fun _ _ _ => trivial) (by decide +kernel)
  have hsplit : past = past.dropLast ++ .write_started 110700 :: [] :=
    (List.dropLast_append_getLast? _ hpast.1).symm
  obtain ⟨early, late, hlate, -, -, hquiet⟩ := write_after_guard run hsplit
  exact ⟨_, early, late, hlate, hpast.2, hquiet⟩

end Comboard.WriteGuard
