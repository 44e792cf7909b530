import Comboard.Code.CanCommunication
import Comboard.Code.Periodic
import Comboard.Lib.Machine

/-!
# `tasks/lora_task_base.rs`: the transmission loop

`lora_tx_task` runs from one wait to its next in one step, because the tasks that fill its channels
run on the same executor. A step takes the clock readings of the source in their order. Times are in
microseconds. What the timing trace records is left out.
-/

namespace Comboard

open Lib

def LORA_TRANSMIT_INTERVAL_MS : Nat := 500
def RECOVERY_LOG_INTERVAL_MS : Nat := 200

def periodic_interval_ms (recovery_active control_roll_cycle_active : Bool) : Nat :=
  if recovery_active then 10000
  else if control_roll_cycle_active then LORA_TRANSMIT_INTERVAL_MS / 2
  else LORA_TRANSMIT_INTERVAL_MS

/-- `Duration::from_millis(ms).as_micros()` -/
def from_millis (ms : Nat) : Nat := ms * 1000

/-! ## The state -/

/-- What the other tasks share with the loop. -/
structure LoraShared extends LoraChannels where
  control_roll_lora_signal : Bool
  can_cache : CanCache
  gnss_telemetry : GnssTelemetry
  globals : LinkGlobals
  mission_link_fallback_sequence : UInt8
  lora_periodic_missed_slot_count : Nat
  deriving DecidableEq

def LoraShared.new : LoraShared where
  emergency_result_lora_channel := .empty
  command_result_lora_channel := .empty
  ground_time_request_lora_channel := .empty
  recovery_lora_channel := .empty
  control_roll_lora_signal := false
  can_cache := .new
  gnss_telemetry := .new
  globals := .new
  mission_link_fallback_sequence := 0
  lora_periodic_missed_slot_count := 0

/-- The variables about the periodic packet that outlive an iteration. -/
structure PeriodicVars where
  control_roll_cycle_active : Bool
  prefer_control_roll_v2 : Bool
  interval : Nat
  next_tx_at : Nat
  periodic_deadline_valid : Bool
  periodic_retry_at : Option Nat
  deriving DecidableEq

/-- The other variables that outlive an iteration. -/
structure HeldVars where
  next_recovery_at : Nat
  pending_recovery : Option LoRaTxEnvelope
  deferred_envelope : Option LoRaTxEnvelope
  recovery_sent_since_periodic : Bool
  deriving DecidableEq

structure LoraLoop extends PeriodicVars, HeldVars
  deriving DecidableEq

/-- The variables in front of the loop, with the clock readings of the two `Instant::now()`. -/
def LoraLoop.new (started_at now : Nat) : LoraLoop :=
  let interval := from_millis (periodic_interval_ms false false)
  let first_deadline :=
    match checked_add started_at interval with
    | some deadline => (deadline, true)
    | none => (U64_MAX, false)
  { control_roll_cycle_active := false
    prefer_control_roll_v2 := false
    interval
    next_tx_at := first_deadline.1
    periodic_deadline_valid := first_deadline.2
    next_recovery_at := now
    pending_recovery := none
    deferred_envelope := none
    periodic_retry_at := none
    recovery_sent_since_periodic := false }

/-- What the top of an iteration computes. -/
structure Iteration where
  retry_selected : Bool
  scheduled_periodic_at : Nat
  periodic_schedule_valid : Bool
  periodic_due : Bool
  deriving DecidableEq

def LoraLoop.iteration (l : LoraLoop) (now : Nat) : Iteration :=
  let periodic_selection :=
    select_periodic_deadline l.next_tx_at l.periodic_deadline_valid l.periodic_retry_at
  let scheduled_periodic_at := periodic_selection.deadline_us
  let periodic_schedule_valid :=
    if periodic_selection.retry_selected then l.periodic_retry_at.isSome
    else l.periodic_deadline_valid
  { retry_selected := periodic_selection.retry_selected
    scheduled_periodic_at
    periodic_schedule_valid
    periodic_due := periodic_schedule_valid && now ≥ scheduled_periodic_at }

/-- When an envelope was chosen, and what it replaced. Only the reports say it. -/
structure Choice where
  chosen_at : Nat
  replaced : Option LoRaTxSource
  deriving DecidableEq

/-- Where the loop waits. -/
inductive LoraPoint where
  | Top
  /-- `select5(..)` -/
  | Select (iteration : Iteration)
  /-- `CAN_CACHE.lock()` in `periodic_packet` -/
  | Snapshot (iteration : Iteration) (control_roll_event_only : Bool)
  /-- `GNSS_TELEMETRY.lock()` in `periodic_packet` -/
  | Build (iteration : Iteration) (control_roll_event_only : Bool) (now_ms : Nat) (cache : CanCache)
  /-- `prepare_transmit(..)` -/
  | Prepare (iteration : Iteration) (envelope : LoRaTxEnvelope) (regular_periodic_selected : Bool)
      (choice : Choice)
  /-- `transmit_frame(..)` -/
  | Transmit (iteration : Iteration) (envelope : LoRaTxEnvelope)
      (recovery_displaced_regular : Bool) (choice : Choice)
  /-- `CAN_CACHE.lock()` at the end -/
  | Clear (envelope : LoRaTxEnvelope)
  deriving DecidableEq

structure LoraTx where
  shared : LoraShared
  loop : LoraLoop
  point : LoraPoint
  /-- The last reading of the clock. -/
  now : Nat
  deriving DecidableEq

/-- What a step has done. -/
inductive LoraReport where
  /-- A `MissionEvent` that is no duplicate got into the cache. -/
  | mission_event (flags : UInt16)
  /-- An envelope came out of its channel. -/
  | received (envelope : LoRaTxEnvelope)
  /-- `periodic_packet` took its event snapshot. -/
  | snapshot
  | periodic_build_failed
  /-- Preempted after preparation, and `kept` in the deferred slot or not. -/
  | preempted (envelope : LoRaTxEnvelope) (kept : Bool)
  | attempted (envelope : LoRaTxEnvelope) (iteration : Iteration) (choice : Choice)
      (transmitted : Bool)
  | cleared
  deriving DecidableEq

/-! ## Receiving -/

def LoraShared.receive (s : LoraShared) : LoRaTxSource → Option (LoRaTxEnvelope × LoraShared)
  | .EmergencyResult => s.emergency_result_lora_channel.try_receive.map
      fun (envelope, c) => (envelope, { s with emergency_result_lora_channel := c })
  | .CommandResult => s.command_result_lora_channel.try_receive.map
      fun (envelope, c) => (envelope, { s with command_result_lora_channel := c })
  | .GroundTimeRequest => s.ground_time_request_lora_channel.try_receive.map
      fun (envelope, c) => (envelope, { s with ground_time_request_lora_channel := c })
  | .Recovery => s.recovery_lora_channel.try_receive.map
      fun (envelope, c) => (envelope, { s with recovery_lora_channel := c })
  | .Periodic => none

/-- What a branch of the `select5` gives. -/
inductive Ready where
  | first_to_third (envelope : LoRaTxEnvelope)
  | fourth (envelope : LoRaTxEnvelope)
  | periodic
  | control_roll

section Select

variable (s : LoraShared) (l : LoraLoop) (iteration : Iteration)

def receive_ready (source : LoRaTxSource) : Option (Ready × LoraShared × List LoraReport) :=
  (s.receive source).map fun (envelope, s) =>
    (.first_to_third envelope, s, [.received envelope])

/-- `timer` is the clock reading of `Timer::at(next_recovery_at)`. -/
def recovery_ready (timer : Nat) : Option (Ready × LoraShared × List LoraReport) :=
  if ¬ recovery_allowed l.recovery_sent_since_periodic iteration.periodic_due then none
  else
    match l.pending_recovery with
    | some frame => if timer ≥ l.next_recovery_at then some (.fourth frame, s, []) else none
    | none =>
      (s.receive .Recovery).map fun (envelope, s) => (.fourth envelope, s, [.received envelope])

/-- `timer` is the clock reading of `Timer::at(scheduled_periodic_at)`. -/
def control_roll_or_periodic_ready (timer : Nat) : Option (Ready × LoraShared × List LoraReport) :=
  if iteration.periodic_schedule_valid ∧ timer ≥ iteration.scheduled_periodic_at then
    some (.periodic, s, [])
  else if s.control_roll_lora_signal then
    some (.control_roll, { s with control_roll_lora_signal := false }, [])
  else none

/-- `select5` is polled from the left. -/
def select5 (recovery_timer periodic_timer : Nat) :
    Option (Ready × LoraShared × List LoraReport) :=
  (receive_ready s .EmergencyResult).or <|
  (receive_ready s .CommandResult).or <|
  (receive_ready s .GroundTimeRequest).or <|
  (recovery_ready s l iteration recovery_timer).or <|
  control_roll_or_periodic_ready s iteration periodic_timer

end Select

/-! ## `take_higher_priority_envelope` -/

/-- The envelope, and `pending_recovery` behind it. -/
structure Taken where
  envelope : LoRaTxEnvelope
  shared : LoraShared
  pending_recovery : Option LoRaTxEnvelope
  reports : List LoraReport

def LoraShared.take_queued (s : LoraShared) (pending_recovery : Option LoRaTxEnvelope)
    (source : LoRaTxSource) : Option Taken :=
  (s.receive source).map fun (envelope, shared) =>
    { envelope, shared, pending_recovery, reports := [.received envelope] }

def take_higher_priority_envelope (s : LoraShared) (l : LoraLoop) (selected_source : LoRaTxSource)
    (iteration : Iteration) (now : Nat) : Option Taken :=
  let queued (source : LoRaTxSource) : Option Taken :=
    if is_higher_priority source selected_source then s.take_queued l.pending_recovery source
    else none
  let periodic_due := periodic_due_for_reselection selected_source iteration.periodic_schedule_valid
    (now ≥ iteration.scheduled_periodic_at)
  let recovery : Option Taken :=
    if is_higher_priority .Recovery selected_source &&
        recovery_allowed l.recovery_sent_since_periodic periodic_due && now ≥ l.next_recovery_at then
      match l.pending_recovery with
      | some envelope => some { envelope, shared := s, pending_recovery := none, reports := [] }
      | none => s.take_queued none .Recovery
    else none
  (queued .EmergencyResult).or <| (queued .CommandResult).or <| (queued .GroundTimeRequest).or recovery

/-! ## The clock -/

/-- The last of some readings in a row, if they never go back and fit into an `Instant`. -/
def read_clock (now : Nat) : List Nat → Option Nat
  | [] => some now
  | reading :: rest =>
    if now ≤ reading ∧ reading ≤ U64_MAX then read_clock reading rest else none

namespace LoraTx

/-! ## The top and the selection -/

def begin_iteration (w : LoraTx) (now : Nat) : LoraTx × List LoraReport :=
  let l := w.loop
  let iteration := l.iteration now
  let deferred_blocked := l.deferred_envelope.any fun envelope =>
    deferred_recovery_blocked envelope.source l.recovery_sent_since_periodic iteration.periodic_due
  match (if deferred_blocked then none else l.deferred_envelope) with
  | some deferred =>
    ({ w with
        loop := { l with deferred_envelope := none }
        point := .Prepare iteration deferred false { chosen_at := now, replaced := none } }, [])
  | none => ({ w with point := .Select iteration }, [])

/-- The `Fifth(First)` branch, up to `periodic_packet`. -/
def select_periodic (w : LoraTx) (iteration : Iteration) : LoraTx :=
  let l := w.loop
  let interval := from_millis
    (periodic_interval_ms w.shared.globals.recovery_beacon_active l.control_roll_cycle_active)
  let consumption := consume_periodic_selection l.next_tx_at iteration.retry_selected interval
  let l := { l with interval, periodic_retry_at := consumption.retry_at_us }
  let l :=
    if ¬ iteration.retry_selected then
      match consumption.next_regular_deadline_us with
      | some deadline => { l with next_tx_at := deadline }
      | none => { l with periodic_deadline_valid := false }
    else l
  { w with loop := l, point := .Snapshot iteration false }

/-- The `Fourth` branch. -/
def select_recovery (w : LoraTx) (iteration : Iteration) (envelope : LoRaTxEnvelope) (now : Nat) :
    LoraTx :=
  let l := w.loop
  let recovery_ready : Bool := l.pending_recovery.isSome || now ≥ l.next_recovery_at
  let periodic_due : Bool :=
    iteration.periodic_schedule_valid && now ≥ iteration.scheduled_periodic_at
  if recovery_ready && recovery_allowed l.recovery_sent_since_periodic periodic_due then
    { w with
      loop := { l with pending_recovery := none }
      point := .Prepare iteration envelope false { chosen_at := now, replaced := none } }
  else { w with loop := { l with pending_recovery := some envelope }, point := .Top }

/-- The `select5` is polled. `none` when nothing is ready. -/
def select (w : LoraTx) (iteration : Iteration) (recovery_timer periodic_timer now : Nat) :
    Option (LoraTx × List LoraReport) :=
  (select5 w.shared w.loop iteration recovery_timer periodic_timer).map fun (ready, shared, reports) =>
    let w := { w with shared }
    match ready with
    | .first_to_third envelope =>
      ({ w with
          point := .Prepare iteration envelope false { chosen_at := now, replaced := none } },
        reports)
    | .fourth envelope => (w.select_recovery iteration envelope now, reports)
    | .periodic => (w.select_periodic iteration, reports)
    | .control_roll => ({ w with point := .Snapshot iteration true }, reports)

/-! ## The periodic packet -/

def add_periodic_missed_slots (s : LoraShared) (value : Nat) : LoraShared :=
  { s with
    lora_periodic_missed_slot_count := min (s.lora_periodic_missed_slot_count + value) 0xffffffff }

/-- `skip_overdue_periodic_deadlines` under `if periodic_deadline_valid`, and the missed slots. -/
def skip_overdue_periodic_deadlines (w : LoraTx) (now : Nat) : LoraTx × Nat :=
  if w.loop.periodic_deadline_valid then
    match advance_deadline w.loop.next_tx_at now w.loop.interval with
    | some advance =>
      ({ w with
          loop := { w.loop with next_tx_at := advance.next_deadline_us }
          shared := add_periodic_missed_slots w.shared advance.missed_slots }, advance.missed_slots)
    | none => ({ w with loop := { w.loop with periodic_deadline_valid := false } }, 0)
  else (w, 0)

/-- `periodic_packet` behind its first lock. -/
def snapshot (w : LoraTx) (iteration : Iteration) (control_roll_event_only : Bool) (now : Nat) :
    LoraTx × List LoraReport :=
  ({ w with point := .Build iteration control_roll_event_only (now / 1000) w.shared.can_cache },
    [.snapshot])

/-- `periodic_packet` behind its second lock, and the rest of the branch. -/
def build (w : LoraTx) (iteration : Iteration) (control_roll_event_only : Bool) (now_ms : Nat)
    (cache : CanCache) (now : Nat) : LoraTx × List LoraReport :=
  let s := w.shared
  let (packet, sequence) := periodic_packet_of cache now_ms s.gnss_telemetry s.globals
    s.mission_link_fallback_sequence (control_roll_event_only || w.loop.prefer_control_roll_v2)
    control_roll_event_only
  let w := { w with shared := { s with mission_link_fallback_sequence := sequence } }
  match packet with
  | none =>
    if control_roll_event_only then ({ w with point := .Top }, [])
    else
      let l := { w.loop with
        recovery_sent_since_periodic :=
          update_recovery_fairness w.loop.recovery_sent_since_periodic .Periodic }
      let (w, _) := skip_overdue_periodic_deadlines { w with loop := l } now
      ({ w with point := .Top }, [.periodic_build_failed])
  | some frame =>
    let l :=
      if control_roll_event_only then w.loop
      else
        { w.loop with
          control_roll_cycle_active := frame.control_roll_cycle_available
          prefer_control_roll_v2 := frame.control_roll_cycle_available && !frame.is_control_roll_v2 }
    let envelope := LoRaTxEnvelope.periodic frame.frame frame.transmitted_events frame.event_revision
    let regular_periodic_selected := !control_roll_event_only && !iteration.retry_selected
    ({ w with
        loop := l
        point := .Prepare iteration envelope regular_periodic_selected
          { chosen_at := now, replaced := none } }, [])

/-! ## The attempt -/

/-- From the end of `transmit_frame` to the end of the iteration. -/
def complete_attempt (w : LoraTx) (iteration : Iteration) (envelope : LoRaTxEnvelope)
    (recovery_displaced_regular : Bool) (choice : Choice) (transmitted : Bool)
    (attempt_completed_at skipped_at : Nat) : LoraTx × List LoraReport :=
  let l := w.loop
  let periodic_retry_at := periodic_retry_after_nonperiodic_attempt l.periodic_retry_at
    attempt_completed_at envelope.source
  let recovery : Bool := envelope.source = .Recovery
  let next_recovery_at :=
    if recovery then
      (recovery_next_eligible_at_us attempt_completed_at (from_millis RECOVERY_LOG_INTERVAL_MS)).getD
        U64_MAX
    else l.next_recovery_at
  let l := { l with
    periodic_retry_at
    next_recovery_at
    recovery_sent_since_periodic :=
      update_recovery_fairness l.recovery_sent_since_periodic envelope.source }
  let (w, overdue_missed_slots) := skip_overdue_periodic_deadlines { w with loop := l } skipped_at
  let recovery_displaced_periodic : Bool :=
    recovery_displaced_regular || (recovery && overdue_missed_slots ≠ 0)
  let l :=
    if recovery_displaced_periodic && recovery then
      { w.loop with
        periodic_retry_at := periodic_retry_after_recovery_us attempt_completed_at
          (from_millis RECOVERY_LOG_INTERVAL_MS) true }
    else w.loop
  let clear := should_clear_periodic_events envelope.source transmitted envelope.interval_events
  ({ w with loop := l, point := if clear then .Clear envelope else .Top },
    [.attempted envelope iteration choice transmitted])

/-- The reselection after a successful `prepare_transmit`. -/
def reselect (w : LoraTx) (iteration : Iteration) (envelope : LoRaTxEnvelope)
    (regular_periodic_selected : Bool) (choice : Choice) (now : Nat) : LoraTx × List LoraReport :=
  match take_higher_priority_envelope w.shared w.loop envelope.source iteration now with
  | none => ({ w with point := .Transmit iteration envelope false choice }, [])
  | some taken =>
    let kept := should_defer_preempted envelope.source
    let l := { w.loop with
      pending_recovery := taken.pending_recovery
      deferred_envelope := if kept then some envelope else w.loop.deferred_envelope }
    let recovery_displaced_regular := recovery_displaced_regular_slot envelope.source
      taken.envelope.source regular_periodic_selected
    let preempted_missed_slots :=
      if regular_periodic_selected then preempted_periodic_missed_slots envelope.source else 0
    ({ w with
        shared := add_periodic_missed_slots taken.shared preempted_missed_slots
        loop := l
        point := .Transmit iteration taken.envelope recovery_displaced_regular
          { chosen_at := now, replaced := some envelope.source } },
      taken.reports ++ [.preempted envelope kept])

def clear_events (w : LoraTx) (envelope : LoRaTxEnvelope) : LoraTx × List LoraReport :=
  ({ w with
      shared := { w.shared with
        can_cache :=
          w.shared.can_cache.clear_event_flags envelope.interval_events envelope.event_revision }
      point := .Top }, [.cleared])

/-! ## Steps -/

inductive Action where
  -- The other tasks.
  | queue_emergency_result (result : CommandResult)
  | queue_command_result (packet : CommandResultPacket)
  | queue_ground_time_request (request_id : UInt8) (previous_request_id : Option UInt8)
  | queue_recovery_chunk (chunk : RecoveryChunk)
  | can_receive (message : CanRxMessage) (received_at_ms : Nat)
  /-- `recovery_power_cache_task` or a recovery command writes the power snapshot. -/
  | write_power_time (power_time : Latest PowerTimeTelemetry)
  | raise_control_roll
  | write_gnss (gnss_telemetry : GnssTelemetry)
  /-- `now` is the clock then. The loop does not read it, but no later reading is below it. -/
  | write_globals (globals : LinkGlobals) (now : Nat)
  -- The loop.
  | begin_iteration (now : Nat)
  | select (recovery_timer periodic_timer now : Nat)
  | snapshot (now : Nat)
  | build (now : Nat)
  | prepared (now : Nat)
  | prepare_failed (attempt_completed_at skipped_at : Nat)
  | transmitted (transmitted : Bool) (attempt_completed_at skipped_at : Nat)
  | clear_events
  deriving DecidableEq

/-- A step of another task. -/
def step_other (s : LoraShared) : Action → Option (LoraShared × List LoraReport)
  | .queue_emergency_result result =>
    some ({ s with toLoraChannels := (s.queue_emergency_result result).1 }, [])
  | .queue_command_result packet =>
    some ({ s with toLoraChannels := (s.queue_command_result packet).1 }, [])
  | .queue_ground_time_request request_id previous_request_id =>
    some ({ s with
      toLoraChannels := (s.queue_ground_time_request request_id previous_request_id).1 }, [])
  | .queue_recovery_chunk chunk =>
    some ({ s with toLoraChannels := (s.queue_recovery_chunk chunk).1 }, [])
  | .can_receive message received_at_ms =>
    let (can_cache, update) := s.can_cache.update message received_at_ms
    some ({ s with can_cache }, match update with
      | .MissionEvent event _ => [.mission_event event.flags]
      | _ => [])
  | .write_power_time power_time => some ({ s with can_cache := { s.can_cache with power_time } }, [])
  | .raise_control_roll => some ({ s with control_roll_lora_signal := true }, [])
  | .write_gnss gnss_telemetry => some ({ s with gnss_telemetry }, [])
  | .write_globals globals _ => some ({ s with globals }, [])
  | _ => none

/-- A step of the loop, once the clock was read. -/
def step_loop (w : LoraTx) (a : Action) : Option (LoraTx × List LoraReport) :=
  match w.point, a with
  | .Top, .begin_iteration now => some (w.begin_iteration now)
  | .Select iteration, .select recovery_timer periodic_timer now =>
    w.select iteration recovery_timer periodic_timer now
  | .Snapshot iteration control_roll_event_only, .snapshot now =>
    some (w.snapshot iteration control_roll_event_only now)
  | .Build iteration control_roll_event_only now_ms cache, .build now =>
    some (w.build iteration control_roll_event_only now_ms cache now)
  | .Prepare iteration envelope regular_periodic_selected choice, .prepared now =>
    some (w.reselect iteration envelope regular_periodic_selected choice now)
  | .Prepare iteration envelope _ choice, .prepare_failed attempt_completed_at skipped_at =>
    some (w.complete_attempt iteration envelope false choice false attempt_completed_at skipped_at)
  | .Transmit iteration envelope recovery_displaced_regular choice,
      .transmitted transmitted attempt_completed_at skipped_at =>
    some (w.complete_attempt iteration envelope recovery_displaced_regular choice transmitted
      attempt_completed_at skipped_at)
  | .Clear envelope, .clear_events => some (w.clear_events envelope)
  | _, _ => none

/-- The clock readings of a step, in their order. -/
def readings : Action → List Nat
  | .write_globals _ now | .begin_iteration now | .snapshot now | .build now | .prepared now => [now]
  | .select recovery_timer periodic_timer now => [recovery_timer, periodic_timer, now]
  | .prepare_failed attempt_completed_at skipped_at
  | .transmitted _ attempt_completed_at skipped_at => [attempt_completed_at, skipped_at]
  | _ => []

def step (w : LoraTx) (a : Action) : Option (LoraTx × List LoraReport) :=
  match read_clock w.now (readings a) with
  | none => none
  | some now =>
    match step_other w.shared a with
    | some (shared, reports) => some ({ w with shared, now }, reports)
    | none => step_loop { w with now } a

/-- The loop is entered at any time, with two readings of the clock. -/
def machine : Machine LoraTx Action LoraReport where
  start w := ∃ started_at now, started_at ≤ now ∧ now ≤ U64_MAX ∧
    w = { shared := .new, loop := .new started_at now, point := .Top, now }
  step := step

end LoraTx

end Comboard
