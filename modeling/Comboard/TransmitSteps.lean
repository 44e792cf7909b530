import Comboard.Code.LoraTransmit

/-!
# What a step of an attempt can do
-/

namespace Comboard.TransmitSteps

open Lib LoraTransmit

/-- From one point to the next, with the timestamp that is set on the way. -/
inductive Stage : AttemptPoint → AttemptPoint → (TxTimingTrace → Option UInt64 → TxTimingTrace) → Prop
  where
  | initial_aux :
    Stage .InitialAux .RxGuard fun timing at_us => { timing with initial_aux_ready_at_us := at_us }
  | post_guard_aux :
    Stage .PostGuardAux .Reselect fun timing at_us =>
      { timing with post_guard_aux_ready_at_us := at_us }
  | written :
    Stage (.Write []) .Flush fun timing at_us => { timing with uart_write_finished_at_us := at_us }
  | flushed :
    Stage .Flush .AuxLow fun timing at_us => { timing with uart_flush_finished_at_us := at_us }
  | low : Stage .AuxLow .AuxHigh fun timing at_us => { timing with aux_low_at_us := at_us }

/-- How an attempt ends for the loop. -/
inductive Ended (completed_at skipped_at : Nat) (transmitted : Bool) :
    LoraPoint → LoRaTxEnvelope → Bool → LoraTx.Action → Prop where
  | unprepared {it : Iteration} {e : LoRaTxEnvelope} {regular : Bool} {choice : Choice} :
    Ended completed_at skipped_at transmitted (.Prepare it e regular choice) e false
      (.prepare_failed completed_at skipped_at)
  | prepared {it : Iteration} {e : LoRaTxEnvelope} {displaced : Bool} {choice : Choice} :
    Ended completed_at skipped_at transmitted (.Transmit it e displaced choice) e true
      (.transmitted transmitted completed_at skipped_at)

/-- What the reselection makes of the trace. -/
inductive Reselected (timing : TxTimingTrace) (now : Nat) (e : LoRaTxEnvelope) (choice : Choice) :
    TxTimingTrace → Prop where
  | kept (hchoice : choice.replaced = none) : Reselected timing now e choice timing
  | replaced {requested_at_us : Nat} (hrequested : requested_at_us ≤ now) :
    Reselected timing now e choice
      (reselect_prepared_trace timing (.ofNat requested_at_us) e.source)

inductive Turn (w : LoraTransmit) : LoraTransmit → List TransmitReport → Prop where
  | tx {a : LoraTx.Action} {tx : LoraTx} {new : List LoraReport} {now : Nat}
      (hkind : of_attempt a = false) (hclock : w.now ≤ now ∧ now ≤ max w.now U64_MAX)
      (hstep : LoraTx.machine.step w.tx a = some (tx, new)) :
    Turn w { w with tx, now } (new.map .loop)
  | guard {a : RxGuard.Action} {guard : RxGuard} {new : List RxGuard.Report} {now : Nat}
      (hclock : read_clock w.now (guard_readings a) = some now)
      (hkind : (∃ at_us, a = .activity at_us) ∨
        (∃ attempt, w.attempt = some attempt ∧ attempt.point = .RxGuard) ∧ ∀ at_us, a ≠ .return_ at_us)
      (hstep : RxGuard.machine.step w.guard a = some (guard, new)) :
    Turn w { w with guard, now } (new.map .guard)
  | returned {attempt : TransmitAttempt} {guard : RxGuard} {new : List RxGuard.Report} {now : Nat}
      (hclock : w.now ≤ now ∧ now ≤ U64_MAX)
      (hattempt : w.attempt = some attempt) (hpoint : attempt.point = .RxGuard)
      (hstep : RxGuard.machine.step w.guard (.return_ now) = some (guard, new)) :
    Turn w { w with
      guard
      attempt := some { attempt with
        point := .PostGuardAux
        timing := { attempt.timing with rx_guard_done_at_us := now_us now } }
      now } (new.map .guard)
  | began {it : Iteration} {e : LoRaTxEnvelope} {regular : Bool} {choice : Choice}
      {requested_at_us now : Nat} (hclock : w.now ≤ now ∧ now ≤ U64_MAX)
      (hrequested : requested_at_us ≤ now) (hattempt : w.attempt = none)
      (hpoint : w.tx.point = .Prepare it e regular choice) :
    Turn w { w with
      attempt := some
        { point := .InitialAux
          timing := { TxTimingTrace.new (.ofNat requested_at_us) e.source with
            transmit_started_at_us := now_us now }
          preempted_missed_slots := 0 }
      now } []
  | stage {attempt : TransmitAttempt} {before point : AttemptPoint}
      {stamp : TxTimingTrace → Option UInt64 → TxTimingTrace} {now : Nat}
      (hclock : w.now ≤ now ∧ now ≤ U64_MAX) (hattempt : w.attempt = some attempt)
      (hpoint : attempt.point = before) (hstage : Stage before point stamp) :
    Turn w { w with
      attempt := some { attempt with point, timing := stamp attempt.timing (now_us now) }
      now } []
  | not_ready {attempt : TransmitAttempt} (hattempt : w.attempt = some attempt)
      (hpoint : attempt.point = .InitialAux ∨ attempt.point = .PostGuardAux) :
    Turn w { w.aux_timeout with attempt := some { attempt with point := .Done false } } [.aux_timeout]
  | reselected {attempt : TransmitAttempt} {tx : LoraTx} {new : List LoraReport} {it : Iteration}
      {e : LoRaTxEnvelope} {displaced : Bool} {choice : Choice} {timing : TxTimingTrace}
      {missed_slots now write_started_at : Nat}
      (hclock : w.now ≤ now ∧ now ≤ write_started_at ∧ write_started_at ≤ U64_MAX)
      (hattempt : w.attempt = some attempt) (hpoint : attempt.point = .Reselect)
      (hstep : LoraTx.machine.step w.tx (.prepared now) = some (tx, new))
      (htransmit : tx.point = .Transmit it e displaced choice)
      (htiming : Reselected attempt.timing now e choice timing) :
    Turn w { w with
      tx
      attempt := some
        { point := .Write e.frame.as_bytes
          timing := { timing with uart_write_started_at_us := now_us write_started_at }
          preempted_missed_slots := missed_slots }
      now := write_started_at } (new.map .loop ++ [.write_started write_started_at])
  | wrote {attempt : TransmitAttempt} {bytes : List UInt8} {written : Nat}
      (hattempt : w.attempt = some attempt) (hpoint : attempt.point = .Write bytes) :
    Turn w { w with attempt := some { attempt with point := .Write (bytes.drop written) } }
      [.uart (bytes.take written)]
  | not_written {attempt : TransmitAttempt} (hattempt : w.attempt = some attempt)
      (hpoint : attempt.point = .Flush ∨ ∃ bytes, attempt.point = .Write bytes) :
    Turn w (w.fail attempt) []
  | not_seen {attempt : TransmitAttempt} {observed : Bool} (hattempt : w.attempt = some attempt)
      (hpoint : attempt.point = .AuxLow ∨ attempt.point = .AuxHigh) :
    Turn w (w.aux_timeout.fail
      { attempt with timing := { attempt.timing with aux_low_not_observed := observed } })
      [.aux_timeout]
  | sent {attempt : TransmitAttempt} {now : Nat} (hclock : w.now ≤ now ∧ now ≤ U64_MAX)
      (hattempt : w.attempt = some attempt) (hpoint : attempt.point = .AuxHigh) :
    Turn w { w with
      attempt := some { attempt with
        point := .Done true
        timing := { attempt.timing with
          aux_high_at_us := now_us now
          completed_at_us := now_us now } }
      lora_tx_success_count := w.lora_tx_success_count + 1
      now } []
  | completed {attempt : TransmitAttempt} {transmitted prepared : Bool} {e : LoRaTxEnvelope}
      {a : LoraTx.Action} {tx : LoraTx} {new : List LoraReport}
      {completed_at skipped_at now : Nat} {missed_slots : UInt32}
      (hclock : w.now ≤ now ∧ now ≤ max w.now U64_MAX)
      (hattempt : w.attempt = some attempt) (hpoint : attempt.point = .Done transmitted)
      (hended : Ended completed_at skipped_at transmitted w.tx.point e prepared a)
      (hstep : LoraTx.machine.step w.tx a = some (tx, new)) :
    Turn w { w with
      tx
      attempt := none
      timing_collector := (w.timing_collector.record
        { attempt.timing with periodic_missed_slots := missed_slots }).1
      now } (new.map .loop ++
        [.finished e prepared transmitted,
          .traced { attempt.timing with periodic_missed_slots := missed_slots }
            (w.timing_collector.record
              { attempt.timing with periodic_missed_slots := missed_slots }).2])

/-! ## Every step is a turn -/

theorem read_clock_bounds {now last : Nat} {readings : List Nat}
    (h : read_clock now readings = some last) : now ≤ last ∧ last ≤ max now U64_MAX := by
  induction readings generalizing now with
  | nil =>
    obtain rfl := Option.some.inj h
    omega
  | cons reading rest ih =>
    simp only [read_clock, Option.ite_none_right_eq_some] at h
    obtain ⟨⟨hle, hmax⟩, h⟩ := h
    have hlast := ih h
    omega

theorem step_tx_some {w w' : LoraTransmit} {a : LoraTx.Action} {reports : List TransmitReport}
    (h : w.step_tx a = some (w', reports)) :
    ∃ tx new now, read_clock w.now (LoraTx.readings a) = some now ∧
      LoraTx.machine.step w.tx a = some (tx, new) ∧
        w' = { w with tx, now } ∧ reports = new.map .loop := by
  unfold step_tx at h
  split at h <;> rename_i hclock
  · simp at h
  · obtain ⟨⟨tx, new⟩, hstep, heq⟩ := Option.map_eq_some_iff.mp h
    obtain ⟨rfl, rfl⟩ := Prod.mk.inj heq
    exact ⟨tx, new, _, hclock, hstep, rfl, rfl⟩

theorem step_guard_some {w w' : LoraTransmit} {a : RxGuard.Action} {reports : List TransmitReport}
    (h : w.step_guard a = some (w', reports)) :
    ∃ guard new now, read_clock w.now (guard_readings a) = some now ∧
      RxGuard.machine.step w.guard a = some (guard, new) ∧
        w' = { w with guard, now } ∧ reports = new.map .guard := by
  unfold step_guard at h
  split at h <;> rename_i hclock
  · simp at h
  · obtain ⟨⟨guard, new⟩, hstep, heq⟩ := Option.map_eq_some_iff.mp h
    obtain ⟨rfl, rfl⟩ := Prod.mk.inj heq
    exact ⟨guard, new, _, hclock, hstep, rfl, rfl⟩

section Turns

variable {w w' : LoraTransmit} {attempt : TransmitAttempt} {reports : List TransmitReport}

theorem begin_attempt_turn {requested_at_us now : Nat} (hclock : w.now ≤ now ∧ now ≤ U64_MAX)
    (hrequested : requested_at_us ≤ now) (hattempt : w.attempt = none)
    (h : w.begin_attempt requested_at_us now = some (w', reports)) : Turn w w' reports := by
  unfold begin_attempt at h
  split at h
  · rename_i hpoint
    obtain ⟨rfl, rfl⟩ := Prod.mk.inj (Option.some.inj h)
    exact .began hclock hrequested hattempt hpoint
  · simp at h

theorem step_aux_turn {reached : Bool} {now : Nat} (hclock : w.now ≤ now ∧ now ≤ U64_MAX)
    (hattempt : w.attempt = some attempt)
    (h : w.step_aux attempt reached now = some (w', reports)) : Turn w w' reports := by
  unfold step_aux at h
  dsimp only at h
  split at h <;> rename_i hpoint
  case h_5 => simp at h
  all_goals
    split at h
    all_goals obtain ⟨rfl, rfl⟩ := Prod.mk.inj (Option.some.inj h)
  · exact .stage hclock hattempt hpoint .initial_aux
  · exact .not_ready hattempt (.inl hpoint)
  · exact .stage hclock hattempt hpoint .post_guard_aux
  · exact .not_ready hattempt (.inr hpoint)
  · exact .stage hclock hattempt hpoint .low
  · exact .not_seen hattempt (.inl hpoint)
  · exact .sent hclock hattempt hpoint
  · exact @Turn.not_seen w attempt attempt.timing.aux_low_not_observed hattempt (.inr hpoint)

theorem go_on_guard_turn {a : RxGuard.Action} (hattempt : w.attempt = some attempt)
    (hpoint : attempt.point = .RxGuard) (h : w.go_on_guard attempt a = some (w', reports)) :
    Turn w w' reports := by
  obtain ⟨⟨w₁, new⟩, hguard, heq⟩ := Option.map_eq_some_iff.mp h
  obtain ⟨guard, new, now, hclock, hstep, rfl, rfl⟩ := step_guard_some hguard
  dsimp only at heq
  split at heq
  · rename_i at_us
    obtain ⟨rfl, rfl⟩ := Prod.mk.inj heq
    simp only [guard_readings, read_clock, Option.ite_none_right_eq_some, Option.some.injEq] at hclock
    obtain ⟨hclock, rfl⟩ := hclock
    exact .returned hclock hattempt hpoint hstep
  · rename_i hreturn
    obtain ⟨rfl, rfl⟩ := Prod.mk.inj heq
    exact .guard hclock (.inr ⟨⟨attempt, hattempt, hpoint⟩, hreturn⟩) hstep

theorem reselect_turn {requested_at_us now write_started_at : Nat}
    (hclock : now ≤ write_started_at ∧ write_started_at ≤ U64_MAX)
    (hrequested : requested_at_us ≤ now) (hattempt : w.attempt = some attempt)
    (hpoint : attempt.point = .Reselect)
    (h : w.reselect attempt requested_at_us now write_started_at = some (w', reports)) :
    Turn w w' reports := by
  unfold reselect at h
  dsimp only at h
  split at h
  · simp at h
  · rename_i htx
    obtain ⟨tx, new, now', hread, hstep, rfl, rfl⟩ := step_tx_some htx
    have hnow : w.now ≤ now := by
      simp only [LoraTx.readings, read_clock, Option.ite_none_right_eq_some] at hread
      exact hread.1.1
    split at h
    · rename_i htransmit
      split at h <;> rename_i hchoice
      all_goals obtain ⟨rfl, rfl⟩ := Prod.mk.inj (Option.some.inj h)
      · exact .reselected ⟨hnow, hclock⟩ hattempt hpoint hstep htransmit (.replaced hrequested)
      · exact .reselected ⟨hnow, hclock⟩ hattempt hpoint hstep htransmit
          (.kept (Option.not_isSome_iff_eq_none.mp hchoice))
    · simp at h

theorem write_turn {bytes : List UInt8} {written : Option Nat} (hattempt : w.attempt = some attempt)
    (hpoint : attempt.point = .Write bytes)
    (h : w.write attempt bytes written = some (w', reports)) : Turn w w' reports := by
  unfold LoraTransmit.write at h
  split at h
  · simp at h
  · split at h
    · obtain ⟨rfl, rfl⟩ := Prod.mk.inj (Option.some.inj h)
      exact .not_written hattempt (.inr ⟨bytes, hpoint⟩)
    · split at h
      · obtain ⟨rfl, rfl⟩ := Prod.mk.inj (Option.some.inj h)
        exact .not_written hattempt (.inr ⟨bytes, hpoint⟩)
      · split at h
        · obtain ⟨rfl, rfl⟩ := Prod.mk.inj (Option.some.inj h)
          exact .wrote hattempt hpoint
        · simp at h

theorem write_done_turn {bytes : List UInt8} {now : Nat} (hclock : w.now ≤ now ∧ now ≤ U64_MAX)
    (hattempt : w.attempt = some attempt) (hpoint : attempt.point = .Write bytes)
    (h : w.write_done attempt bytes now = some (w', reports)) : Turn w w' reports := by
  unfold LoraTransmit.write_done at h
  split at h
  · rename_i hempty
    obtain ⟨rfl, rfl⟩ := Prod.mk.inj (Option.some.inj h)
    exact .stage hclock hattempt (hempty ▸ hpoint) .written
  · simp at h

theorem flush_turn {flushed : Bool} {now : Nat} (hclock : w.now ≤ now ∧ now ≤ U64_MAX)
    (hattempt : w.attempt = some attempt) (hpoint : attempt.point = .Flush) :
    Turn w (w.flush attempt flushed now) [] := by
  unfold LoraTransmit.flush
  split
  · exact .stage hclock hattempt hpoint .flushed
  · exact .not_written hattempt (.inl hpoint)

theorem complete_turn {transmitted : Bool} {completed_at skipped_at : Nat}
    (hattempt : w.attempt = some attempt) (hpoint : attempt.point = .Done transmitted)
    (h : w.complete attempt transmitted completed_at skipped_at = some (w', reports)) :
    Turn w w' reports := by
  unfold LoraTransmit.complete at h
  dsimp only at h
  split at h
  · simp at h
  · rename_i hended
    obtain ⟨⟨w₁, new⟩, htx, heq⟩ := Option.map_eq_some_iff.mp h
    obtain ⟨tx, new, now, hclock, hstep, rfl, rfl⟩ := step_tx_some htx
    obtain ⟨rfl, rfl⟩ := Prod.mk.inj heq
    refine .completed (read_clock_bounds hclock) hattempt hpoint
      (?_ : Ended completed_at skipped_at transmitted _ _ _ _) hstep
    split at hended
    all_goals simp only [Option.some.injEq, Prod.mk.injEq, reduceCtorEq] at hended
    · rename_i hprepare
      obtain ⟨rfl, rfl, rfl⟩ := hended
      rw [hprepare]
      exact .unprepared
    · rename_i htransmit
      obtain ⟨rfl, rfl, rfl⟩ := hended
      rw [htransmit]
      exact .prepared

theorem step_turn {a : LoraTransmit.Action} (h : machine.step w a = some (w', reports)) :
    Turn w w' reports := by
  unfold machine LoraTransmit.step at h
  dsimp only at h
  split at h
  case h_1 =>
    simp only [Option.ite_none_left_eq_some, Bool.not_eq_true] at h
    obtain ⟨hkind, h⟩ := h
    obtain ⟨tx, new, now, hclock, hstep, rfl, rfl⟩ := step_tx_some h
    exact .tx hkind (read_clock_bounds hclock) hstep
  case h_2 now _ =>
    obtain ⟨guard, new, now, hclock, hstep, rfl, rfl⟩ := step_guard_some h
    exact .guard hclock (.inl ⟨_, rfl⟩) hstep
  case h_3 hattempt =>
    simp only [Option.ite_none_right_eq_some] at h
    obtain ⟨⟨hrequested, hclock⟩, h⟩ := h
    exact begin_attempt_turn hclock hrequested hattempt h
  case h_4 hattempt =>
    simp only [Option.ite_none_right_eq_some] at h
    exact step_aux_turn h.1 hattempt h.2
  case h_5 hattempt =>
    simp only [Option.ite_none_right_eq_some] at h
    exact go_on_guard_turn hattempt h.1 h.2
  case h_6 hattempt =>
    simp only [Option.ite_none_right_eq_some] at h
    obtain ⟨⟨hpoint, hrequested, hclock⟩, h⟩ := h
    exact reselect_turn hclock hrequested hattempt hpoint h
  case h_7 hattempt =>
    split at h
    · rename_i hpoint
      exact write_turn hattempt hpoint h
    · simp at h
  case h_8 hattempt =>
    split at h
    · rename_i hpoint
      simp only [Option.ite_none_right_eq_some] at h
      exact write_done_turn h.1 hattempt hpoint h.2
    · simp at h
  case h_9 hattempt =>
    simp only [Option.ite_none_right_eq_some, Option.some.injEq, Prod.mk.injEq] at h
    obtain ⟨⟨hpoint, hclock⟩, rfl, rfl⟩ := h
    exact flush_turn hclock hattempt hpoint
  case h_10 hattempt =>
    split at h
    · rename_i hpoint
      exact complete_turn hattempt hpoint h
    · simp at h
  case h_11 => simp at h

end Turns

end Comboard.TransmitSteps
