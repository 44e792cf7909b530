import Comboard.Code.LoraTiming
import Comboard.Code.LoraTx
import Comboard.Code.RxGuard

/-!
# `tasks/lora_task_base.rs`: an attempt to send

`prepare_transmit`, `transmit_frame` and what they wait for, between the loop of `LoraTx` and the
guard of `RxGuard`. The actions say what the UART and the pin AUX do. The trace is that of the
feature `lora-timing-debug`; when an envelope was requested is in the actions too.
-/

namespace Comboard

open Lib

/-- What the two looks at the pin give, and whether the wait between them ended in time. -/
structure AuxLook where
  first : Bool
  waited : Bool
  second : Bool
  deriving DecidableEq

/-- `wait_for_aux_high` or `wait_for_aux_low` -/
def AuxLook.reached (aux : AuxLook) : Bool := aux.first || (aux.waited && aux.second)

/-- Where the attempt stands. -/
inductive AttemptPoint where
  | InitialAux
  | RxGuard
  | PostGuardAux
  /-- `take_higher_priority_envelope(..)` -/
  | Reselect
  /-- The loop of `write_all`. -/
  | Write (bytes : List UInt8)
  | Flush
  | AuxLow
  | AuxHigh
  | Done (transmitted : Bool)
  deriving DecidableEq

structure TransmitAttempt where
  point : AttemptPoint
  timing : TxTimingTrace
  preempted_missed_slots : Nat
  deriving DecidableEq

structure LoraTransmit where
  tx : LoraTx
  guard : RxGuard
  attempt : Option TransmitAttempt
  timing_collector : TimingCollector
  lora_aux_timeout_count : UInt32
  lora_tx_success_count : UInt32
  lora_tx_error_count : UInt32
  /-- The last reading of the clock. -/
  now : Nat
  deriving DecidableEq

namespace LoraTransmit

inductive Action where
  /-- A step of another task, or of the loop outside of an attempt. -/
  | other (a : LoraTx.Action)
  /-- `lora_rx_task` signals. -/
  | activity (now : Nat)
  /-- `TxTimingTrace::new(..)`, and the first timestamp. -/
  | begin_attempt (requested_at_us now : Nat)
  | aux (aux : AuxLook) (now : Nat)
  /-- `wait_for_rx_guard` goes on. -/
  | guard (a : RxGuard.Action)
  /-- The reselection, and `uart_write_started_at_us`. -/
  | reselect (requested_at_us now write_started_at : Nat)
  /-- `write_async`, with `none` for an error. -/
  | write (written : Option Nat)
  /-- `write_all` has nothing left. -/
  | write_done (now : Nat)
  | flush (flushed : Bool) (now : Nat)
  | complete (attempt_completed_at skipped_at : Nat)

inductive TransmitReport where
  | loop (r : LoraReport)
  | guard (r : RxGuard.Report)
  | aux_timeout
  | write_started (at_us : Nat)
  /-- The UART took these bytes. -/
  | uart (bytes : List UInt8)
  /-- What the attempt came to. -/
  | finished (envelope : LoRaTxEnvelope) (prepared transmitted : Bool)
  | traced (trace : TxTimingTrace) (report : Option TimingReport)
  deriving DecidableEq

/-- `Some(now_us())` -/
def now_us (now : Nat) : Option UInt64 := some (.ofNat now)

/-! ## The loop and the guard -/

/-- A step of the loop or of a task beside it. -/
def step_tx (w : LoraTransmit) (a : LoraTx.Action) : Option (LoraTransmit × List TransmitReport) :=
  match read_clock w.now (LoraTx.readings a) with
  | none => none
  | some now => (LoraTx.machine.step w.tx a).map fun (tx, reports) =>
    ({ w with tx, now }, reports.map TransmitReport.loop)

/-- Which steps of the loop are those of an attempt. -/
def of_attempt : LoraTx.Action → Bool
  | .prepared _ | .prepare_failed .. | .transmitted .. => true
  | _ => false

/-- The clock readings of the guard. -/
def guard_readings : RxGuard.Action → List Nat
  | .activity now | .compare now | .timer now | .return_ now => [now]
  | .call | .take | .signalled => []

def step_guard (w : LoraTransmit) (a : RxGuard.Action) : Option (LoraTransmit × List TransmitReport) :=
  match read_clock w.now (guard_readings a) with
  | none => none
  | some now => (RxGuard.machine.step w.guard a).map fun (guard, reports) =>
    ({ w with guard, now }, reports.map TransmitReport.guard)

/-! ## `prepare_transmit` -/

def begin_attempt (w : LoraTransmit) (requested_at_us now : Nat) :
    Option (LoraTransmit × List TransmitReport) :=
  match w.attempt, w.tx.point with
  | none, .Prepare _ envelope _ _ =>
    let timing := TxTimingTrace.new (.ofNat requested_at_us) envelope.source
    some ({ w with
      attempt := some
        { point := .InitialAux
          timing := { timing with transmit_started_at_us := now_us now }
          preempted_missed_slots := 0 }
      now }, [])
  | _, _ => none

/-- The guard goes on, up to its end. -/
def go_on_guard (w : LoraTransmit) (attempt : TransmitAttempt) (a : RxGuard.Action) :
    Option (LoraTransmit × List TransmitReport) :=
  (w.step_guard a).map fun (w, reports) =>
    match a with
    | .return_ now =>
      ({ w with
        attempt := some { attempt with
          point := .PostGuardAux
          timing := { attempt.timing with rx_guard_done_at_us := now_us now } } }, reports)
    | _ => (w, reports)

/-! ## `transmit_frame` -/

/-- `take_higher_priority_envelope`, the trace of what it gives, and the start of `write_all`. -/
def reselect (w : LoraTransmit) (attempt : TransmitAttempt)
    (requested_at_us now write_started_at : Nat) : Option (LoraTransmit × List TransmitReport) :=
  let preempted_missed_slots :=
    match w.tx.point with
    | .Prepare _ envelope true _ => preempted_periodic_missed_slots envelope.source
    | _ => 0
  match w.step_tx (.prepared now) with
  | none => none
  | some (w, reports) =>
    match w.tx.point with
    | .Transmit _ envelope _ choice =>
      let (timing, preempted_missed_slots) :=
        if choice.replaced.isSome then
          (reselect_prepared_trace attempt.timing (.ofNat requested_at_us) envelope.source,
            preempted_missed_slots)
        else (attempt.timing, 0)
      some ({ w with
        attempt := some
          { point := .Write envelope.frame.as_bytes
            timing := { timing with uart_write_started_at_us := now_us write_started_at }
            preempted_missed_slots }
        now := write_started_at }, reports ++ [.write_started write_started_at])
    | _ => none

def fail (w : LoraTransmit) (attempt : TransmitAttempt) : LoraTransmit :=
  { w with
    attempt := some { attempt with point := .Done false }
    lora_tx_error_count := w.lora_tx_error_count + 1 }

/-- A round of `write_all`. A count behind the end is a panic. -/
def write (w : LoraTransmit) (attempt : TransmitAttempt) (bytes : List UInt8)
    (written : Option Nat) : Option (LoraTransmit × List TransmitReport) :=
  if bytes = [] then none
  else
    match written with
    | none => some (w.fail attempt, [])
    | some written =>
      if written = 0 then some (w.fail attempt, [])
      else if written ≤ bytes.length then
        some ({ w with attempt := some { attempt with point := .Write (bytes.drop written) } },
          [.uart (bytes.take written)])
      else none

def write_done (w : LoraTransmit) (attempt : TransmitAttempt) (bytes : List UInt8) (now : Nat) :
    Option (LoraTransmit × List TransmitReport) :=
  if bytes = [] then
    some ({ w with
      attempt := some { attempt with
        point := .Flush
        timing := { attempt.timing with uart_write_finished_at_us := now_us now } }
      now }, [])
  else none

def flush (w : LoraTransmit) (attempt : TransmitAttempt) (flushed : Bool) (now : Nat) :
    LoraTransmit :=
  if flushed then
    { w with
      attempt := some { attempt with
        point := .AuxLow
        timing := { attempt.timing with uart_flush_finished_at_us := now_us now } }
      now }
  else w.fail attempt

/-! ## The pin AUX -/

/-- The pin does not get there in time. -/
def aux_timeout (w : LoraTransmit) : LoraTransmit :=
  { w with lora_aux_timeout_count := w.lora_aux_timeout_count + 1 }

/-- A wait is over. -/
def step_aux (w : LoraTransmit) (attempt : TransmitAttempt) (reached : Bool) (now : Nat) :
    Option (LoraTransmit × List TransmitReport) :=
  let timing := attempt.timing
  match attempt.point with
  | .InitialAux =>
    if reached then
      some ({ w with
        attempt := some { attempt with
          point := .RxGuard
          timing := { timing with initial_aux_ready_at_us := now_us now } }
        now }, [])
    else
      some ({ w.aux_timeout with attempt := some { attempt with point := .Done false } },
        [.aux_timeout])
  | .PostGuardAux =>
    if reached then
      some ({ w with
        attempt := some { attempt with
          point := .Reselect
          timing := { timing with post_guard_aux_ready_at_us := now_us now } }
        now }, [])
    else
      some ({ w.aux_timeout with attempt := some { attempt with point := .Done false } },
        [.aux_timeout])
  | .AuxLow =>
    if reached then
      some ({ w with
        attempt := some { attempt with
          point := .AuxHigh
          timing := { timing with aux_low_at_us := now_us now } }
        now }, [])
    else
      some (w.aux_timeout.fail
        { attempt with timing := { timing with aux_low_not_observed := true } }, [.aux_timeout])
  | .AuxHigh =>
    if reached then
      some ({ w with
        attempt := some { attempt with
          point := .Done true
          timing := { timing with aux_high_at_us := now_us now, completed_at_us := now_us now } }
        lora_tx_success_count := w.lora_tx_success_count + 1
        now }, [])
    else some (w.aux_timeout.fail attempt, [.aux_timeout])
  | _ => none

/-! ## The end of the attempt -/

def record (w : LoraTransmit) (timing : TxTimingTrace) : LoraTransmit × List TransmitReport :=
  let (timing_collector, report) := w.timing_collector.record timing
  ({ w with attempt := none, timing_collector }, [.traced timing report])

def complete (w : LoraTransmit) (attempt : TransmitAttempt) (transmitted : Bool)
    (attempt_completed_at skipped_at : Nat) : Option (LoraTransmit × List TransmitReport) :=
  let overdue_missed_slots := (w.tx.skip_overdue_periodic_deadlines skipped_at).2
  let missed_slots := min (attempt.preempted_missed_slots + overdue_missed_slots) 0xffffffff
  let ended :=
    match w.tx.point with
    | .Prepare _ envelope _ _ =>
      some (envelope, false, LoraTx.Action.prepare_failed attempt_completed_at skipped_at)
    | .Transmit _ envelope _ _ =>
      some (envelope, true, LoraTx.Action.transmitted transmitted attempt_completed_at skipped_at)
    | _ => none
  match ended with
  | none => none
  | some (envelope, prepared, a) =>
    (w.step_tx a).map fun (w, reports) =>
      let (w, traced) :=
        w.record { attempt.timing with periodic_missed_slots := .ofNat missed_slots }
      (w, reports ++ .finished envelope prepared transmitted :: traced)

/-! ## Steps -/

def step (w : LoraTransmit) (a : Action) : Option (LoraTransmit × List TransmitReport) :=
  match a, w.attempt with
  | .other a, _ => if of_attempt a then none else w.step_tx a
  | .activity now, _ => w.step_guard (.activity now)
  | .begin_attempt requested_at_us now, none =>
    if requested_at_us ≤ now ∧ w.now ≤ now ∧ now ≤ U64_MAX then
      w.begin_attempt requested_at_us now
    else none
  | .aux aux now, some attempt =>
    if w.now ≤ now ∧ now ≤ U64_MAX then w.step_aux attempt aux.reached now else none
  | .guard a, some attempt =>
    if attempt.point = .RxGuard then w.go_on_guard attempt a else none
  | .reselect requested_at_us now write_started_at, some attempt =>
    if attempt.point = .Reselect ∧ requested_at_us ≤ now ∧ now ≤ write_started_at ∧
        write_started_at ≤ U64_MAX then
      w.reselect attempt requested_at_us now write_started_at
    else none
  | .write written, some attempt =>
    match attempt.point with
    | .Write bytes => w.write attempt bytes written
    | _ => none
  | .write_done now, some attempt =>
    match attempt.point with
    | .Write bytes =>
      if w.now ≤ now ∧ now ≤ U64_MAX then w.write_done attempt bytes now else none
    | _ => none
  | .flush flushed now, some attempt =>
    if attempt.point = .Flush ∧ w.now ≤ now ∧ now ≤ U64_MAX then
      some (w.flush attempt flushed now, [])
    else none
  | .complete attempt_completed_at skipped_at, some attempt =>
    match attempt.point with
    | .Done transmitted => w.complete attempt transmitted attempt_completed_at skipped_at
    | _ => none
  | _, _ => none

/-- The loop is entered at any time, with two readings of the clock. -/
def machine : Machine LoraTransmit Action TransmitReport where
  start w := ∃ started_at now, started_at ≤ now ∧ now ≤ U64_MAX ∧
    w = {
      tx := { shared := .new, loop := .new started_at now, point := .Top, now }
      guard := { now, lora_rx_activity_signal := none, point := .Idle }
      attempt := none
      timing_collector := .new
      lora_aux_timeout_count := 0
      lora_tx_success_count := 0
      lora_tx_error_count := 0
      now }
  step := step

end LoraTransmit

end Comboard
