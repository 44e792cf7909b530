import Comboard.LoraSteps
import Comboard.TransmitSteps
import Mathlib.Data.List.Forall2

/-!
# What an attempt to send comes to

The loop and the guard run as they do on their own. Of a frame that was not transmitted a part may
have gone out.
-/

namespace Comboard.Attempts

open Lib LoraTransmit TransmitSteps

/-! ## What the loop and the guard report -/

@[simp]
def loop_report : TransmitReport → List LoraReport
  | .loop r => [r]
  | _ => []

@[simp]
def guard_report : TransmitReport → List RxGuard.Report
  | .guard r => [r]
  | _ => []

/-- An attempt that is over. -/
structure Outcome where
  envelope : LoRaTxEnvelope
  prepared : Bool
  transmitted : Bool
  deriving DecidableEq

@[simp]
def finished : TransmitReport → Option Outcome
  | .finished envelope prepared transmitted => some ⟨envelope, prepared, transmitted⟩
  | _ => none

@[simp]
def uart : TransmitReport → List UInt8
  | .uart bytes => bytes
  | _ => []

/-- What the loop makes of it. -/
def attempted : LoraReport → Option (LoRaTxEnvelope × Bool)
  | .attempted envelope _ _ transmitted => some (envelope, transmitted)
  | _ => none

/-! ## The steps of the loop -/

def in_hand : LoraPoint → Option LoRaTxEnvelope
  | .Prepare _ e _ _ | .Transmit _ e _ _ => some e
  | _ => none

section Loop

variable {tx tx' : LoraTx} {new : List LoraReport} {a : LoraTx.Action}

theorem other_attempted {s s' : LoraShared}
    (arrives : LoraSteps.Arrives s s' new) : new.filterMap attempted = [] := by
  cases arrives.cached <;> rfl

theorem gets_attempted {s s' : LoraShared} {pending pending' : Option LoRaTxEnvelope}
    {source : LoRaTxSource} {e : LoRaTxEnvelope} {reports : List LoraReport}
    (gets : LoraSteps.Gets s pending source e s' pending' reports) :
    reports.filterMap attempted = [] := by
  cases gets <;> rfl

/-- Only the end of an attempt is reported as one. -/
theorem turn_attempted {now : Nat} {s s' : LoraShared} {h h' : HeldVars} {point point' : LoraPoint}
    {reports : List LoraReport} (turn : LoraSteps.Turn now s h point s' h' point' reports) :
    reports.filterMap attempted = [] ∨ (∃ e, in_hand point = some e) ∧ in_hand point' = none := by
  cases turn with
  | selected gets | put_back gets => exact .inl (gets_attempted gets)
  | preempted _ gets => simp [gets_attempted gets, attempted]
  | prepare_failed => exact .inr ⟨⟨_, rfl⟩, rfl⟩
  | transmitted _ hafter =>
    refine .inr ⟨⟨_, rfl⟩, ?_⟩
    rw [hafter]
    split <;> rfl
  | _ => exact .inl rfl

theorem step_loop_in_hand {now : Nat} (hkind : of_attempt a = false)
    (h : LoraTx.step_loop { tx with now } a = some (tx', new)) : in_hand tx.point = none := by
  unfold in_hand
  split
  all_goals
    rename_i hpoint
    unfold LoraTx.step_loop at h
    cases a <;> simp [hpoint, of_attempt] at h hkind
  all_goals rfl

/-- Outside of an attempt the loop leaves the one that runs alone. -/
theorem loop_beside (hkind : of_attempt a = false)
    (h : LoraTx.machine.step tx a = some (tx', new)) :
    new.filterMap attempted = [] ∧ ∀ e, in_hand tx.point = some e → tx'.point = tx.point := by
  cases LoraSteps.step_stepped h with
  | other _ arrives _ hpoint => exact ⟨other_attempted arrives, fun _ _ => hpoint⟩
  | turn _ hstep turn =>
    have hnone := step_loop_in_hand hkind hstep
    refine ⟨?_, fun e he => ?_⟩
    · rcases turn_attempted turn with hnew | ⟨⟨e, he⟩, -⟩
      · exact hnew
      · simp [hnone] at he
    · simp [hnone] at he

theorem loop_prepared {now : Nat} {it : Iteration} {e : LoRaTxEnvelope} {displaced : Bool}
    {choice : Choice} (h : LoraTx.machine.step tx (.prepared now) = some (tx', new))
    (htransmit : tx'.point = .Transmit it e displaced choice) : new.filterMap attempted = [] := by
  cases LoraSteps.step_stepped h with
  | other _ arrives _ _ => exact other_attempted arrives
  | turn _ _ turn =>
    rcases turn_attempted turn with hnew | ⟨-, hnone⟩
    · exact hnew
    · simp [htransmit, in_hand] at hnone

/-- The loop is told how the attempt ended. -/
theorem loop_ended {completed_at skipped_at : Nat} {transmitted prepared : Bool} {e : LoRaTxEnvelope}
    (hended : Ended completed_at skipped_at transmitted tx.point e prepared a)
    (h : LoraTx.machine.step tx a = some (tx', new)) :
    new.filterMap attempted = [(e, prepared && transmitted)] := by
  generalize hpoint : tx.point = point at hended
  cases LoraSteps.step_stepped h with
  | other hother => cases hended <;> contradiction
  | turn _ hstep _ =>
    cases hended
    all_goals
      simp only [LoraTx.step_loop, hpoint, Option.some.injEq] at hstep
      obtain ⟨-, rfl⟩ := Prod.mk.inj hstep
      rfl

end Loop

/-! ## Both run as they do on their own -/

section Runs

variable {past : List TransmitReport} {w w' : LoraTransmit} {reports : List TransmitReport}

theorem turn_loop (turn : Turn w w' reports) :
    w'.tx = w.tx ∧ reports.flatMap loop_report = [] ∨
      ∃ a, LoraTx.machine.step w.tx a = some (w'.tx, reports.flatMap loop_report) := by
  cases turn with
  | tx _ _ hstep => exact .inr ⟨_, by simpa [List.flatMap_map] using hstep⟩
  | guard | returned => exact .inl ⟨rfl, by simp⟩
  | reselected _ _ _ hstep => exact .inr ⟨_, by simpa [List.flatMap_map] using hstep⟩
  | completed _ _ _ _ hstep => exact .inr ⟨_, by simpa [List.flatMap_map] using hstep⟩
  | _ => exact .inl ⟨rfl, rfl⟩

theorem turn_guard (turn : Turn w w' reports) :
    w'.guard = w.guard ∧ reports.flatMap guard_report = [] ∨
      ∃ a, RxGuard.machine.step w.guard a = some (w'.guard, reports.flatMap guard_report) := by
  cases turn with
  | tx | reselected | completed => exact .inl ⟨rfl, by simp⟩
  | guard _ _ hstep => exact .inr ⟨_, by simpa [List.flatMap_map] using hstep⟩
  | returned _ _ _ hstep => exact .inr ⟨_, by simpa [List.flatMap_map] using hstep⟩
  | _ => exact .inl ⟨rfl, rfl⟩

theorem refines_loop (run : Machine.Run machine Machine.anyStep past w) :
    Machine.Run LoraTx.machine Machine.anyStep (past.flatMap loop_report) w.tx := by
  refine run.simulates LoraTransmit.tx loop_report ?_ fun _ _ _ _ _ _ _ h => ?_
  · rintro w ⟨started_at, now, hle, hmax, rfl⟩
    exact ⟨started_at, now, hle, hmax, rfl⟩
  · exact (turn_loop (step_turn h)).imp_right fun ⟨a, hstep⟩ => ⟨a, trivial, hstep⟩

theorem refines_guard (run : Machine.Run machine Machine.anyStep past w) :
    Machine.Run RxGuard.machine Machine.anyStep (past.flatMap guard_report) w.guard := by
  refine run.simulates LoraTransmit.guard guard_report ?_ fun _ _ _ _ _ _ _ h => ?_
  · rintro w ⟨started_at, now, hle, hmax, rfl⟩
    exact ⟨rfl, rfl⟩
  · exact (turn_guard (step_turn h)).imp_right fun ⟨a, hstep⟩ => ⟨a, trivial, hstep⟩

end Runs

/-! ## What is on the UART -/

/-- The outcome of an attempt that the loop was not told yet. -/
def pending : Option TransmitAttempt → LoraPoint → List Outcome
  | some { point := .Done transmitted, .. }, .Prepare _ e _ _ => [⟨e, false, transmitted⟩]
  | some { point := .Done transmitted, .. }, .Transmit _ e _ _ => [⟨e, true, transmitted⟩]
  | _, _ => []

/-- The bytes of the frame that are on the UART while the attempt runs. -/
inductive Writing : Option AttemptPoint → LoraPoint → List UInt8 → Prop where
  | idle {point : LoraPoint} : Writing none point []
  | preparing {p : AttemptPoint} {it : Iteration} {e : LoRaTxEnvelope} {regular : Bool}
      {choice : Choice}
      (h : p = .InitialAux ∨ p = .RxGuard ∨ p = .PostGuardAux ∨ p = .Reselect) :
    Writing (some p) (.Prepare it e regular choice) []
  | writing {it : Iteration} {e : LoRaTxEnvelope} {displaced : Bool} {choice : Choice}
      {written rest : List UInt8} (h : written ++ rest = e.frame.as_bytes) :
    Writing (some (.Write rest)) (.Transmit it e displaced choice) written
  | written {p : AttemptPoint} {it : Iteration} {e : LoRaTxEnvelope} {displaced : Bool}
      {choice : Choice} (h : p = .Flush ∨ p = .AuxLow ∨ p = .AuxHigh) :
    Writing (some p) (.Transmit it e displaced choice) e.frame.as_bytes
  | unprepared {it : Iteration} {e : LoRaTxEnvelope} {regular : Bool} {choice : Choice} :
    Writing (some (.Done false)) (.Prepare it e regular choice) []
  | done {transmitted : Bool} {it : Iteration} {e : LoRaTxEnvelope} {displaced : Bool}
      {choice : Choice} : Writing (some (.Done transmitted)) (.Transmit it e displaced choice) []

/-- What of its frame an attempt has written. -/
structure Part (outcome : Outcome) (bytes : List UInt8) : Prop where
  of_frame : bytes <+: outcome.envelope.frame.as_bytes
  unprepared : outcome.prepared = false → bytes = [] ∧ outcome.transmitted = false
  whole : outcome.transmitted = true → bytes = outcome.envelope.frame.as_bytes

def not_sent (o : Outcome) : Bool := o.prepared && !o.transmitted

def not_prepared (o : Outcome) : Bool := !o.prepared

/-- What a step adds: the outcome of an attempt, or bytes of its frame. -/
structure Adds (w w' : LoraTransmit) (reports : List TransmitReport) (written written' : List UInt8)
    (outcomes : List Outcome) : Prop where
  writing : Writing (w'.attempt.map TransmitAttempt.point) w'.tx.point written'
  accounts : reports.filterMap finished ++ pending w'.attempt w'.tx.point =
    pending w.attempt w.tx.point ++ outcomes
  part : outcomes = [] ∧ written' = written ++ reports.flatMap uart ∨
    ∃ outcome, outcomes = [outcome] ∧ Part outcome written ∧ reports.flatMap uart = [] ∧ written' = []
  success : w'.lora_tx_success_count =
    w.lora_tx_success_count + .ofNat (outcomes.countP (·.transmitted))
  error : w'.lora_tx_error_count = w.lora_tx_error_count + .ofNat (outcomes.countP not_sent)
  timeouts : w'.lora_aux_timeout_count =
    w.lora_aux_timeout_count + .ofNat (reports.count .aux_timeout)
  within : outcomes.countP not_prepared ≤ reports.count .aux_timeout ∧
    reports.count .aux_timeout ≤ outcomes.countP not_prepared + outcomes.countP not_sent

section Steps

variable {w w' : LoraTransmit} {reports : List TransmitReport} {written written' : List UInt8}

/-- A step in the course of an attempt. -/
theorem Adds.quiet (writing : Writing (w'.attempt.map TransmitAttempt.point) w'.tx.point written')
    (hpending : pending w'.attempt w'.tx.point = pending w.attempt w.tx.point)
    (hfinished : reports.filterMap finished = [])
    (hwritten : written' = written ++ reports.flatMap uart)
    (htimeouts : .aux_timeout ∉ reports)
    (hsuccess : w'.lora_tx_success_count = w.lora_tx_success_count)
    (herror : w'.lora_tx_error_count = w.lora_tx_error_count)
    (haux : w'.lora_aux_timeout_count = w.lora_aux_timeout_count) :
    Adds w w' reports written written' [] where
  writing := writing
  accounts := by rw [hpending, hfinished, List.nil_append, List.append_nil]
  part := .inl ⟨rfl, hwritten⟩
  success := by simp [hsuccess]
  error := by simp [herror]
  timeouts := by simp [haux, List.count_eq_zero.mpr htimeouts]
  within := by simp [List.count_eq_zero.mpr htimeouts]

theorem Writing.in_hand {attempt : AttemptPoint} {point : LoraPoint}
    (writing : Writing (some attempt) point written) : ∃ e, in_hand point = some e := by
  cases writing <;> exact ⟨_, rfl⟩

theorem Writing.beside {attempt : Option AttemptPoint} {point point' : LoraPoint}
    (writing : Writing attempt point written)
    (h : ∀ e, Attempts.in_hand point = some e → point' = point) : Writing attempt point' written := by
  cases hattempt : attempt with
  | none =>
    rw [hattempt] at writing
    cases writing
    exact .idle
  | some p =>
    obtain ⟨e, he⟩ := (hattempt ▸ writing).in_hand
    rw [h e he, ← hattempt]
    exact writing

theorem pending_none (point : LoraPoint) : pending none point = [] := by
  cases point <;> rfl

theorem pending_running {attempt : TransmitAttempt} (point : LoraPoint)
    (h : ∀ transmitted, attempt.point ≠ .Done transmitted) : pending (some attempt) point = [] := by
  obtain ⟨p, timing, missed_slots⟩ := attempt
  cases p
  case Done transmitted => exact absurd rfl (h transmitted)
  all_goals cases point <;> rfl

theorem stage_running {before point : AttemptPoint}
    {stamp : TxTimingTrace → Option UInt64 → TxTimingTrace} (h : Stage before point stamp) :
    (∀ transmitted, before ≠ .Done transmitted) ∧ ∀ transmitted, point ≠ .Done transmitted := by
  cases h <;> simp

theorem stage_writing {before point : AttemptPoint} {at_loop : LoraPoint}
    {stamp : TxTimingTrace → Option UInt64 → TxTimingTrace} (h : Stage before point stamp)
    (writing : Writing (some before) at_loop written) : Writing (some point) at_loop written := by
  cases h <;> cases writing
  case initial_aux.preparing => exact .preparing (by simp)
  case post_guard_aux.preparing => exact .preparing (by simp)
  case written.writing h =>
    rw [List.append_nil] at h
    rw [h]
    exact .written (by simp)
  case flushed.written => exact .written (by simp)
  case low.written => exact .written (by simp)
  all_goals simp at *

/-- A step that ends an attempt. -/
theorem Adds.ends {outcome : Outcome} (hwriting : Writing (w'.attempt.map TransmitAttempt.point) w'.tx.point [])
    (hpending : pending w.attempt w.tx.point = [])
    (hpending' : pending w'.attempt w'.tx.point = [outcome])
    (hreports : reports = [] ∨ reports = [.aux_timeout]) (part : Part outcome written)
    (hsuccess : w'.lora_tx_success_count =
      w.lora_tx_success_count + .ofNat ([outcome].countP (·.transmitted)))
    (herror : w'.lora_tx_error_count = w.lora_tx_error_count + .ofNat ([outcome].countP not_sent))
    (haux : w'.lora_aux_timeout_count =
      w.lora_aux_timeout_count + .ofNat (reports.count .aux_timeout))
    (hwithin : [outcome].countP not_prepared ≤ reports.count .aux_timeout ∧
      reports.count .aux_timeout ≤ [outcome].countP not_prepared + [outcome].countP not_sent) :
    Adds w w' reports written [] [outcome] where
  writing := hwriting
  accounts := by
    rw [hpending, hpending']
    rcases hreports with rfl | rfl <;> rfl
  part := by
    refine .inr ⟨outcome, rfl, part, ?_, rfl⟩
    rcases hreports with rfl | rfl <;> rfl
  success := hsuccess
  error := herror
  timeouts := haux
  within := hwithin

/-- An attempt fails behind its preparation. -/
theorem Writing.part {attempt : AttemptPoint} {point : LoraPoint}
    (writing : Writing (some attempt) point written)
    (hpoint : (attempt = .Flush ∨ ∃ bytes, attempt = .Write bytes) ∨
      attempt = .AuxLow ∨ attempt = .AuxHigh) :
    ∃ it e displaced choice, point = .Transmit it e displaced choice ∧
      Part ⟨e, true, false⟩ written := by
  cases writing with
  | preparing h => rcases h with rfl | rfl | rfl | rfl <;> simp at hpoint
  | writing h => exact ⟨_, _, _, _, rfl, ⟨_, h⟩, by simp, by simp⟩
  | written => exact ⟨_, _, _, _, rfl, List.prefix_rfl, by simp, by simp⟩
  | unprepared | done => simp at hpoint

theorem Writing.prepares {attempt : AttemptPoint} {point : LoraPoint}
    (writing : Writing (some attempt) point written)
    (hpoint : attempt = .InitialAux ∨ attempt = .RxGuard ∨ attempt = .PostGuardAux ∨
      attempt = .Reselect) :
    written = [] ∧ ∃ it e regular choice, point = .Prepare it e regular choice := by
  cases writing with
  | preparing => exact ⟨rfl, _, _, _, _, rfl⟩
  | written h => rcases h with rfl | rfl | rfl <;> simp at hpoint
  | writing | unprepared | done => simp at hpoint

theorem pending_of {attempt : TransmitAttempt} (hattempt : w.attempt = some attempt)
    (h : ∀ transmitted, attempt.point ≠ .Done transmitted) : pending w.attempt w.tx.point = [] := by
  rw [hattempt]
  exact pending_running _ h

theorem turn_adds (turn : Turn w w' reports)
    (writing : Writing (w.attempt.map TransmitAttempt.point) w.tx.point written) :
    ∃ written' outcomes, Adds w w' reports written written' outcomes := by
  cases turn with
  | @tx _ tx _ _ hkind _ hstep =>
    have hpoint := (loop_beside hkind hstep).2
    have hpending : pending w.attempt tx.point = pending w.attempt w.tx.point := by
      cases hattempt : w.attempt with
      | none => simp [pending_none]
      | some attempt =>
        rw [hattempt] at writing
        obtain ⟨e, he⟩ := Writing.in_hand writing
        rw [hpoint e he]
    exact ⟨written, [], .quiet (writing.beside hpoint) hpending (by simp) (by simp)
      (by simp) rfl rfl rfl⟩
  | guard =>
    exact ⟨written, [], .quiet writing rfl (by simp) (by simp) (by simp) rfl rfl rfl⟩
  | returned _ hattempt hpoint =>
    rw [hattempt, Option.map_some, hpoint] at writing
    obtain ⟨rfl, it, e, regular, choice, hloop⟩ := writing.prepares (by simp)
    refine ⟨[], [], .quiet (hloop ▸ .preparing (by simp)) ?_ (by simp) (by simp) (by simp)
      rfl rfl rfl⟩
    exact (pending_running _ (by simp)).trans (pending_of hattempt (by simp [hpoint])).symm
  | began _ _ hattempt hpoint =>
    rw [hattempt] at writing
    cases writing
    refine ⟨[], [], .quiet (hpoint ▸ .preparing (by simp)) ?_ rfl rfl (by simp) rfl rfl rfl⟩
    rw [hattempt, pending_none]
    exact pending_running _ (by simp)
  | stage _ hattempt hpoint hstage =>
    rw [hattempt, Option.map_some, hpoint] at writing
    refine ⟨written, [], .quiet (stage_writing hstage writing) ?_ rfl (by simp) (by simp) rfl rfl
      rfl⟩
    exact (pending_running _ (stage_running hstage).2).trans
      (pending_of hattempt (by rw [hpoint]; exact (stage_running hstage).1)).symm
  | not_ready hattempt hpoint =>
    rw [hattempt, Option.map_some] at writing
    obtain ⟨rfl, it, e, regular, choice, hloop⟩ :=
      writing.prepares (by rcases hpoint with h | h <;> simp [h])
    have hrunning := pending_of hattempt (by rcases hpoint with h | h <;> simp [h])
    refine ⟨[], [⟨e, false, false⟩], .ends (hloop ▸ .unprepared) hrunning ?_ (.inr rfl)
      ⟨List.nil_prefix, by simp, by simp⟩ ?_ ?_ ?_ (by simp [not_prepared])⟩
    · simp only [aux_timeout, hloop]
      rfl
    all_goals simp [aux_timeout, not_sent]
  | reselected _ hattempt hpoint _ htransmit =>
    rw [hattempt, Option.map_some, hpoint] at writing
    obtain ⟨rfl, -⟩ := writing.prepares (by simp)
    refine ⟨[], [], .quiet (htransmit ▸ .writing (List.nil_append _)) ?_ ?_ ?_ ?_ rfl rfl rfl⟩
    · exact (pending_running _ (by simp)).trans (pending_of hattempt (by simp [hpoint])).symm
    · simp
    all_goals simp [uart]
  | @wrote attempt bytes count hattempt hpoint =>
    rw [hattempt, Option.map_some, hpoint] at writing
    have hrunning := pending_of hattempt (by simp [hpoint])
    generalize hloop : w.tx.point = point at writing
    cases writing with
    | preparing h => simp at h
    | written h => simp at h
    | writing h =>
      refine ⟨written ++ bytes.take count, [], .quiet ?_ ?_ rfl (by simp) (by simp) rfl rfl rfl⟩
      · rw [hloop]
        exact .writing (by rw [List.append_assoc, List.take_append_drop, h])
      · exact (pending_running _ (by simp)).trans hrunning.symm
  | not_written hattempt hpoint =>
    rw [hattempt, Option.map_some] at writing
    obtain ⟨it, e, displaced, choice, hloop, part⟩ := writing.part (.inl hpoint)
    have hrunning := pending_of hattempt (by rcases hpoint with h | ⟨bytes, h⟩ <;> simp [h])
    refine ⟨[], [⟨e, true, false⟩], .ends (hloop ▸ .done) hrunning ?_ (.inl rfl) part ?_ ?_ ?_
      (by simp [not_prepared])⟩
    · simp only [LoraTransmit.fail, hloop]
      rfl
    all_goals simp [LoraTransmit.fail, not_sent]
  | not_seen hattempt hpoint =>
    rw [hattempt, Option.map_some] at writing
    obtain ⟨it, e, displaced, choice, hloop, part⟩ := writing.part (.inr hpoint)
    have hrunning := pending_of hattempt (by rcases hpoint with h | h <;> simp [h])
    refine ⟨[], [⟨e, true, false⟩], .ends (hloop ▸ .done) hrunning ?_ (.inr rfl) part ?_ ?_ ?_
      (by simp [not_prepared, not_sent])⟩
    · simp only [LoraTransmit.fail, aux_timeout, hloop]
      rfl
    all_goals simp [LoraTransmit.fail, aux_timeout, not_sent]
  | sent _ hattempt hpoint =>
    rw [hattempt, Option.map_some, hpoint] at writing
    have hrunning := pending_of hattempt (by simp [hpoint])
    generalize hloop : w.tx.point = point at writing
    cases writing with
    | preparing h => simp at h
    | @written _ it e displaced choice =>
      refine ⟨[], [⟨e, true, true⟩], .ends (hloop ▸ .done) hrunning ?_ (.inl rfl)
        ⟨List.prefix_rfl, by simp, by simp⟩ ?_ ?_ ?_ (by simp [not_prepared])⟩
      · rw [hloop]
        rfl
      all_goals simp [not_sent]
  | @completed attempt transmitted prepared e _ _ new _ _ _ _ _ hattempt hpoint hended =>
    rw [hattempt, Option.map_some, hpoint] at writing
    have hcount : (new.map TransmitReport.loop).count .aux_timeout = 0 :=
      List.count_eq_zero.mpr (by simp)
    have hpending : pending w.attempt w.tx.point = [⟨e, prepared, transmitted⟩] := by
      obtain ⟨p, timing, missed_slots⟩ := attempt
      obtain rfl : p = .Done transmitted := hpoint
      rw [hattempt]
      generalize w.tx.point = point at hended
      cases hended <;> rfl
    generalize w.tx.point = point at writing
    have hnone : written = [] := by
      cases writing with
      | preparing h => simp at h
      | written h => simp at h
      | unprepared | done => rfl
    refine ⟨[], [], ⟨.idle, ?_, .inl ⟨rfl, ?_⟩, ?_, ?_, ?_, ?_⟩⟩
    · rw [List.filterMap_append, Machine.filterMap_passed_over TransmitReport.loop finished,
        hpending, pending_none]
      rfl
    all_goals simp [hnone, hcount]

end Steps

/-! ## Runs -/

/-- The attempts that are over. -/
def outcomes (past : List TransmitReport) (w : LoraTransmit) : List Outcome :=
  past.filterMap finished ++ pending w.attempt w.tx.point

structure Account (past : List TransmitReport) (w : LoraTransmit) (written : List UInt8)
    (parts : List (List UInt8)) : Prop where
  writing : Writing (w.attempt.map TransmitAttempt.point) w.tx.point written
  bytes : past.flatMap uart = parts.flatten ++ written
  parts : List.Forall₂ Part (outcomes past w) parts
  success : w.lora_tx_success_count = .ofNat ((outcomes past w).countP (·.transmitted))
  error : w.lora_tx_error_count = .ofNat ((outcomes past w).countP not_sent)
  timeouts : w.lora_aux_timeout_count = .ofNat (past.count .aux_timeout)
  within : (outcomes past w).countP not_prepared ≤ past.count .aux_timeout ∧
    past.count .aux_timeout ≤
      (outcomes past w).countP not_prepared + (outcomes past w).countP not_sent

section Accounts

variable {past reports : List TransmitReport} {w w' : LoraTransmit} {written written' : List UInt8}
  {parts : List (List UInt8)} {more : List Outcome}

theorem Adds.outcomes (adds : Adds w w' reports written written' more) :
    outcomes (past ++ reports) w' = outcomes past w ++ more := by
  unfold Attempts.outcomes
  rw [List.filterMap_append, List.append_assoc, adds.accounts, List.append_assoc]

theorem Account.step (account : Account past w written parts)
    (adds : Adds w w' reports written written' more) :
    ∃ parts, Account (past ++ reports) w' written' parts := by
  obtain ⟨new, hparts, hbytes⟩ : ∃ new, List.Forall₂ Part (outcomes past w ++ more) (parts ++ new) ∧
      (past ++ reports).flatMap uart = (parts ++ new).flatten ++ written' := by
    rcases adds.part with ⟨rfl, hwritten⟩ | ⟨outcome, rfl, part, hnone, rfl⟩
    · refine ⟨[], by simpa using account.parts, ?_⟩
      rw [List.flatMap_append, account.bytes, hwritten, List.append_nil, List.append_assoc]
    · refine ⟨[written], List.rel_append account.parts (.cons part .nil), ?_⟩
      rw [List.flatMap_append, account.bytes, hnone]
      simp
  refine ⟨parts ++ new, adds.writing, hbytes, adds.outcomes ▸ hparts, ?_, ?_, ?_, ?_⟩
  · rw [adds.outcomes, adds.success, account.success, List.countP_append, UInt32.ofNat_add]
  · rw [adds.outcomes, adds.error, account.error, List.countP_append, UInt32.ofNat_add]
  · rw [adds.timeouts, account.timeouts, List.count_append, UInt32.ofNat_add]
  · have hwithin := account.within
    have hmore := adds.within
    rw [adds.outcomes, List.countP_append, List.countP_append, List.count_append]
    omega

theorem account_run (run : Machine.Run machine Machine.anyStep past w) :
    ∃ written parts, Account past w written parts := by
  refine run.invariant (I := fun past w => ∃ written parts, Account past w written parts) ?_ ?_
  · rintro w ⟨started_at, now, -, -, rfl⟩
    exact ⟨[], [], .idle, rfl, .nil, rfl, rfl, rfl, le_rfl, le_rfl⟩
  · rintro past w a w' reports - ⟨written, parts, account⟩ - h
    obtain ⟨written', more, adds⟩ := turn_adds (step_turn h) account.writing
    obtain ⟨parts', account'⟩ := account.step adds
    exact ⟨written', parts', account'⟩

/-- The loop gets to know of each attempt once, when it is over. -/
theorem attempted_step (run : Machine.Run machine Machine.anyStep past w) (turn : Turn w w' reports) :
    (reports.flatMap loop_report).filterMap attempted =
      (reports.filterMap finished).map fun outcome => (outcome.envelope, outcome.transmitted) := by
  cases turn with
  | tx hkind _ hstep =>
    rw [Machine.flatMap_passed_on TransmitReport.loop loop_report,
      Machine.filterMap_passed_over TransmitReport.loop finished]
    exact (loop_beside hkind hstep).1
  | guard | returned =>
    rw [Machine.flatMap_passed_over TransmitReport.guard loop_report,
      Machine.filterMap_passed_over TransmitReport.guard finished]
    rfl
  | reselected _ _ _ hstep htransmit =>
    rw [List.flatMap_append, Machine.flatMap_passed_on TransmitReport.loop loop_report,
      List.filterMap_append, List.filterMap_append,
      Machine.filterMap_passed_over TransmitReport.loop finished, loop_prepared hstep htransmit]
    rfl
  | @completed attempt transmitted prepared e a tx new _ _ _ _ _ hattempt hpoint hended hstep =>
    obtain ⟨written, parts, account⟩ := account_run run
    have writing := account.writing
    rw [hattempt, Option.map_some, hpoint] at writing
    have hsent : (prepared && transmitted) = transmitted := by
      generalize w.tx.point = point at hended writing
      cases hended with
      | unprepared =>
        cases writing with
        | preparing h => simp at h
        | unprepared => rfl
      | prepared => rfl
    rw [List.flatMap_append, Machine.flatMap_passed_on TransmitReport.loop loop_report,
      List.filterMap_append, List.filterMap_append,
      Machine.filterMap_passed_over TransmitReport.loop finished, loop_ended hended hstep, hsent]
    rfl
  | _ => rfl

theorem attempted_run (run : Machine.Run machine Machine.anyStep past w) :
    (past.flatMap loop_report).filterMap attempted =
      (past.filterMap finished).map fun outcome => (outcome.envelope, outcome.transmitted) := by
  refine run.invariant (I := fun past _ => (past.flatMap loop_report).filterMap attempted =
    (past.filterMap finished).map fun outcome => (outcome.envelope, outcome.transmitted))
    (fun _ _ => rfl) fun past w a w' reports run ih _ h => ?_
  rw [List.flatMap_append, List.filterMap_append, List.filterMap_append, List.map_append, ih,
    attempted_step run (step_turn h)]

end Accounts

/-! ## The pin AUX in an attempt -/

@[simp]
def count_timeout (count : ℕ) : TransmitReport → ℕ
  | .aux_timeout => count + 1
  | .finished .. => 0
  | _ => count

/-- The timeouts since the last attempt was over. -/
def timeouts (past : List TransmitReport) : ℕ := past.foldl count_timeout 0

/-- How often the pin has timed out in the attempt. -/
inductive Waited : Option AttemptPoint → LoraPoint → ℕ → Prop where
  | idle {point : LoraPoint} : Waited none point 0
  | running {p : AttemptPoint} {point : LoraPoint} (h : ∀ transmitted, p ≠ .Done transmitted) :
    Waited (some p) point 0
  | unprepared {it : Iteration} {e : LoRaTxEnvelope} {regular : Bool} {choice : Choice} :
    Waited (some (.Done false)) (.Prepare it e regular choice) 1
  | failed {it : Iteration} {e : LoRaTxEnvelope} {displaced : Bool} {choice : Choice} {count : ℕ}
      (h : count ≤ 1) : Waited (some (.Done false)) (.Transmit it e displaced choice) count
  | sent {it : Iteration} {e : LoRaTxEnvelope} {displaced : Bool} {choice : Choice} :
    Waited (some (.Done true)) (.Transmit it e displaced choice) 0

section Timeouts

variable {past reports : List TransmitReport} {w w' : LoraTransmit} {written : List UInt8} {count : ℕ}

/-- No timeout yet. -/
theorem Waited.none_yet {attempt : TransmitAttempt} {before : AttemptPoint}
    (waited : Waited (w.attempt.map TransmitAttempt.point) w.tx.point count)
    (hattempt : w.attempt = some attempt) (hpoint : attempt.point = before)
    (h : ∀ transmitted, before ≠ .Done transmitted) : count = 0 := by
  rw [hattempt, Option.map_some, hpoint] at waited
  generalize w.tx.point = point at waited
  cases waited with
  | running => rfl
  | unprepared | failed | sent => exact absurd rfl (h _)

theorem Waited.beside {attempt : Option AttemptPoint} {point point' : LoraPoint}
    (waited : Waited attempt point count) (writing : Writing attempt point written)
    (h : ∀ e, Attempts.in_hand point = some e → point' = point) : Waited attempt point' count := by
  cases attempt with
  | none =>
    cases waited
    exact .idle
  | some p =>
    obtain ⟨e, he⟩ := writing.in_hand
    rw [h e he]
    exact waited

theorem turn_waited (turn : Turn w w' reports)
    (writing : Writing (w.attempt.map TransmitAttempt.point) w.tx.point written)
    (waited : Waited (w.attempt.map TransmitAttempt.point) w.tx.point count) :
    Waited (w'.attempt.map TransmitAttempt.point) w'.tx.point (reports.foldl count_timeout count) := by
  cases turn with
  | tx hkind _ hstep =>
    simpa [List.foldl_map] using waited.beside writing (loop_beside hkind hstep).2
  | guard => simpa [List.foldl_map] using waited
  | returned _ hattempt hpoint =>
    obtain rfl := waited.none_yet hattempt hpoint (by simp)
    simpa [List.foldl_map] using Waited.running (by simp)
  | began _ _ hattempt =>
    rw [hattempt] at waited
    cases waited
    exact .running (by simp)
  | stage _ hattempt hpoint hstage =>
    obtain rfl := waited.none_yet hattempt hpoint (stage_running hstage).1
    exact .running (stage_running hstage).2
  | not_ready hattempt hpoint =>
    obtain rfl := waited.none_yet hattempt rfl (by rcases hpoint with h | h <;> simp [h])
    rw [hattempt, Option.map_some] at writing
    obtain ⟨-, it, e, regular, choice, hloop⟩ :=
      writing.prepares (by rcases hpoint with h | h <;> simp [h])
    exact hloop ▸ .unprepared
  | reselected _ hattempt hpoint =>
    obtain rfl := waited.none_yet hattempt hpoint (by simp)
    simpa [List.foldl_map] using Waited.running (by simp)
  | wrote hattempt hpoint =>
    obtain rfl := waited.none_yet hattempt hpoint (by simp)
    exact .running (by simp)
  | not_written hattempt hpoint =>
    obtain rfl := waited.none_yet hattempt rfl
      (by rcases hpoint with h | ⟨bytes, h⟩ <;> simp [h])
    rw [hattempt, Option.map_some] at writing
    obtain ⟨it, e, displaced, choice, hloop, -⟩ := writing.part (.inl hpoint)
    exact hloop ▸ .failed (Nat.zero_le 1)
  | not_seen hattempt hpoint =>
    obtain rfl := waited.none_yet hattempt rfl (by rcases hpoint with h | h <;> simp [h])
    rw [hattempt, Option.map_some] at writing
    obtain ⟨it, e, displaced, choice, hloop, -⟩ := writing.part (.inr hpoint)
    exact hloop ▸ .failed le_rfl
  | sent _ hattempt hpoint =>
    obtain rfl := waited.none_yet hattempt hpoint (by simp)
    rw [hattempt, Option.map_some] at writing
    obtain ⟨it, e, displaced, choice, hloop, -⟩ := writing.part (.inr (.inr hpoint))
    exact hloop ▸ .sent
  | completed => simpa using Waited.idle

theorem waited_run (run : Machine.Run machine Machine.anyStep past w) :
    Waited (w.attempt.map TransmitAttempt.point) w.tx.point (timeouts past) := by
  refine run.invariant (I := fun past w =>
    Waited (w.attempt.map TransmitAttempt.point) w.tx.point (timeouts past)) ?_ ?_
  · rintro w ⟨started_at, now, -, -, rfl⟩
    exact .idle
  · intro past w a w' reports run waited _ h
    obtain ⟨written, parts, account⟩ := account_run run
    unfold timeouts
    rw [List.foldl_append]
    exact turn_waited (step_turn h) account.writing waited

/-- An attempt times out once if it was not prepared, and never if it transmitted. -/
structure TimedOut (prepared transmitted : Bool) (count : ℕ) : Prop where
  most : count ≤ 1
  unprepared : prepared = false → count = 1
  transmitted : transmitted = true → count = 0

theorem Waited.timed_out {completed_at skipped_at : Nat} {prepared transmitted : Bool}
    {point : LoraPoint} {e : LoRaTxEnvelope} {a : LoraTx.Action}
    (waited : Waited (some (.Done transmitted)) point count)
    (hended : Ended completed_at skipped_at transmitted point e prepared a) :
    TimedOut prepared transmitted count := by
  cases hended with
  | unprepared =>
    cases waited with
    | running h => exact absurd rfl (h _)
    | unprepared => exact ⟨le_rfl, fun _ => rfl, by simp⟩
  | prepared =>
    cases waited with
    | running h => exact absurd rfl (h _)
    | failed h => exact ⟨h, by simp, by simp⟩
    | sent => exact ⟨Nat.zero_le 1, by simp, fun _ => rfl⟩

theorem finished_turn {new later : List TransmitReport} {e : LoRaTxEnvelope}
    {prepared transmitted : Bool} (turn : Turn w w' reports)
    (hreports : reports = new ++ .finished e prepared transmitted :: later)
    (waited : Waited (w.attempt.map TransmitAttempt.point) w.tx.point count) :
    TimedOut prepared transmitted (new.foldl count_timeout count) := by
  have hmem : TransmitReport.finished e prepared transmitted ∈ reports := hreports ▸ by simp
  cases turn with
  | completed _ hattempt hpoint hended =>
    rcases Machine.split_passed_on (by simp) hreports with ⟨rfl, hsame⟩ | hlater
    · obtain ⟨rfl, rfl, rfl⟩ := TransmitReport.finished.inj hsame
      rw [hattempt, Option.map_some, hpoint] at waited
      simpa [List.foldl_map] using waited.timed_out hended
    · simp at hlater
  | _ => simp at hmem

/-- What the pin has done in an attempt that is over. -/
theorem timed_out_run {before after : List TransmitReport} {e : LoRaTxEnvelope}
    {prepared transmitted : Bool} (run : Machine.Run machine Machine.anyStep past w)
    (hpast : past = before ++ .finished e prepared transmitted :: after) :
    TimedOut prepared transmitted (timeouts before) := by
  obtain ⟨past', w', a, w'', new, later, run', hstep, rfl⟩ := run.reported hpast
  unfold timeouts
  rw [List.foldl_append]
  exact finished_turn (step_turn hstep) rfl (waited_run run')

end Timeouts
/-! ## The attempts of a run -/

section Results

variable {past : List TransmitReport} {w : LoraTransmit}

/-- The loop and the guard go through runs of their own, and the loop attempts what was attempted. -/
theorem attempts_of_loop (run : Machine.Run machine Machine.anyStep past w) :
    Machine.Run LoraTx.machine Machine.anyStep (past.flatMap loop_report) w.tx ∧
      Machine.Run RxGuard.machine Machine.anyStep (past.flatMap guard_report) w.guard ∧
      (past.flatMap loop_report).filterMap attempted =
        (past.filterMap finished).map fun outcome => (outcome.envelope, outcome.transmitted) :=
  ⟨refines_loop run, refines_guard run, attempted_run run⟩

/-- The UART gets a part of the frame of each attempt in turn, and never bytes of two at once. The
part is the whole frame where the attempt counts as transmitted, and empty where it was not prepared. -/
theorem uart_of_attempts (run : Machine.Run machine Machine.anyStep past w) :
    ∃ parts written, past.flatMap uart = parts.flatten ++ written ∧
      List.Forall₂ Part (outcomes past w) parts ∧
      (written ≠ [] → ∃ e, in_hand w.tx.point = some e ∧ written <+: e.frame.as_bytes) := by
  obtain ⟨written, parts, account⟩ := account_run run
  refine ⟨parts, written, account.bytes, account.parts, fun hsome => ?_⟩
  have writing := account.writing
  generalize w.attempt.map TransmitAttempt.point = attempt at writing
  generalize w.tx.point = point at writing ⊢
  cases writing with
  | writing h => exact ⟨_, rfl, _, h⟩
  | written => exact ⟨_, rfl, List.prefix_rfl⟩
  | idle | preparing | unprepared | done => exact absurd rfl hsome

/-- A prepared attempt is counted once, as a success or as an error. The pin AUX times out once in an
attempt that is not prepared, at most once in one that failed, and at no other time. -/
theorem outcomes_counted (run : Machine.Run machine Machine.anyStep past w) :
    w.lora_tx_success_count = .ofNat ((outcomes past w).countP (·.transmitted)) ∧
      w.lora_tx_error_count = .ofNat ((outcomes past w).countP not_sent) ∧
      w.lora_aux_timeout_count = .ofNat (past.count .aux_timeout) ∧
      (outcomes past w).countP not_prepared ≤ past.count .aux_timeout ∧
      past.count .aux_timeout ≤
        (outcomes past w).countP not_prepared + (outcomes past w).countP not_sent ∧
      (w.attempt = none → timeouts past = 0) ∧
      ∀ before e prepared transmitted after,
        past = before ++ .finished e prepared transmitted :: after →
          TimedOut prepared transmitted (timeouts before) := by
  obtain ⟨written, parts, account⟩ := account_run run
  refine ⟨account.success, account.error, account.timeouts, account.within.1, account.within.2,
    fun hnone => ?_, fun _ _ _ _ _ hpast => timed_out_run run hpast⟩
  have waited := waited_run run
  rw [hnone] at waited
  generalize timeouts past = count at waited ⊢
  cases waited
  rfl

end Results

/-! ## Three attempts

The first one goes well, the UART fails in the second one, and AUX stays low before the third one.
-/

def idle : LoraTransmit where
  tx := LoraSteps.entered
  guard := { now := 0, lora_rx_activity_signal := none, point := .Idle }
  attempt := none
  timing_collector := .new
  lora_aux_timeout_count := 0
  lora_tx_success_count := 0
  lora_tx_error_count := 0
  now := 0

theorem idle_starts : machine.start idle := ⟨0, 0, le_rfl, Nat.zero_le _, rfl⟩

def at_once : AuxLook := ⟨true, false, false⟩

def never : AuxLook := ⟨false, false, false⟩

/-- An answer is queued and taken. -/
def answer (transaction_id : UInt8) (now : Nat) : List LoraTransmit.Action :=
  [.other (.queue_command_result (LoraSteps.result transaction_id).packet),
    .other (.begin_iteration now), .other (.select now now now), .begin_attempt now now]

/-- What is ready goes to the UART. -/
def prepare (now : Nat) : List LoraTransmit.Action :=
  [.aux at_once now, .guard .call, .guard (.return_ now), .aux at_once now, .reselect now now now]

def three_attempts : List LoraTransmit.Action :=
  answer 1 1000 ++ prepare 1000 ++ [.write (some 4), .write (some 9), .write_done 2000,
    .flush true 3000, .aux at_once 4000, .aux at_once 5000, .complete 5000 5000] ++
  answer 2 6000 ++ prepare 6000 ++ [.write (some 4), .write none, .complete 7000 7000] ++
  answer 3 8000 ++ [.aux never 9000, .complete 9000 9000]

theorem three_attempts_run : ∃ past w, Machine.Run machine Machine.anyStep past w ∧
    (outcomes past w).map (fun o => (o.prepared, o.transmitted)) =
        [(true, true), (true, false), (false, false)] ∧
      past.flatMap uart = [0, 0, 4, 176, 1, 1, 1, 0, 0, 0, 0, 0, 177, 0, 0, 4, 176] ∧
      ∃ o ∈ past.filterMap finished, o.prepared = false ∧ o.transmitted = false :=
  Machine.exists_run (fun w past => (outcomes past w).map (fun o => (o.prepared, o.transmitted)) =
      [(true, true), (true, false), (false, false)] ∧
        past.flatMap uart = [0, 0, 4, 176, 1, 1, 1, 0, 0, 0, 0, 0, 177, 0, 0, 4, 176] ∧
        ∃ o ∈ past.filterMap finished, o.prepared = false ∧ o.transmitted = false)
    three_attempts idle_starts (fun _ _ _ => trivial) (by decide +kernel)

theorem attempts_of_loop_three : ∃ (past : List TransmitReport) (w : LoraTransmit), (past.filterMap finished).length = 3 ∧
    Machine.Run LoraTx.machine Machine.anyStep (past.flatMap loop_report) w.tx := by
  have hrun : ∃ past w, Machine.Run machine Machine.anyStep past w ∧
      (past.filterMap finished).length = 3 :=
    Machine.exists_run (fun _ past => (past.filterMap finished).length = 3) three_attempts idle_starts
      (fun _ _ _ => trivial) (by decide +kernel)
  obtain ⟨past, w, run, hlength⟩ := hrun
  exact ⟨past, w, hlength, (attempts_of_loop run).1⟩

theorem uart_of_attempts_three : ∃ past w parts,
    List.Forall₂ Part (outcomes past w) parts ∧
      (outcomes past w).map (fun o => (o.prepared, o.transmitted)) =
        [(true, true), (true, false), (false, false)] := by
  obtain ⟨past, w, run, houtcomes, -⟩ := three_attempts_run
  obtain ⟨parts, -, -, hparts, -⟩ := uart_of_attempts run
  exact ⟨past, w, parts, hparts, houtcomes⟩

theorem split_at_finished {past : List TransmitReport} {e : LoRaTxEnvelope}
    {prepared transmitted : Bool} (h : ⟨e, prepared, transmitted⟩ ∈ past.filterMap finished) :
    ∃ before after, past = before ++ .finished e prepared transmitted :: after := by
  obtain ⟨r, hr, hfinished⟩ := List.mem_filterMap.mp h
  cases r with
  | finished =>
    obtain ⟨rfl, rfl, rfl⟩ := Outcome.mk.inj (Option.some.inj hfinished)
    exact List.append_of_mem hr
  | _ => simp at hfinished

theorem outcomes_counted_three : ∃ past w before e after, Machine.Run machine Machine.anyStep past w ∧
    w.lora_tx_success_count = 1 ∧ w.lora_tx_error_count = 1 ∧
      past = before ++ .finished e false false :: after ∧ timeouts before = 1 := by
  obtain ⟨past, w, run, houtcomes, -, ⟨e, _, _⟩, hlast, rfl, rfl⟩ := three_attempts_run
  obtain ⟨before, after, hpast⟩ := split_at_finished hlast
  obtain ⟨hsuccess, herror, -, -, -, -, htimeouts⟩ := outcomes_counted run
  refine ⟨past, w, before, e, after, run, ?_, ?_, hpast, (htimeouts _ _ _ _ _ hpast).unprepared rfl⟩
  · have hcount := congrArg (List.countP Prod.snd) houtcomes
    rw [List.countP_map] at hcount
    rw [hsuccess]
    exact congrArg UInt32.ofNat hcount
  · have hcount := congrArg (List.countP fun o => o.1 && !o.2) houtcomes
    rw [List.countP_map] at hcount
    rw [herror]
    exact congrArg UInt32.ofNat hcount

end Comboard.Attempts
