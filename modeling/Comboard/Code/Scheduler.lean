import Comboard.Code.Payload

/-! # `lora_scheduler.rs`: what the LoRa loop decides -/

namespace Comboard

open Lib

/-- From the lowest priority to the highest. -/
inductive LoRaTxSource where
  | Periodic | Recovery | GroundTimeRequest | CommandResult | EmergencyResult
  deriving DecidableEq

instance instDecidableForallSource (p : LoRaTxSource → Prop) [DecidablePred p] :
    Decidable (∀ source, p source) :=
  decidable_of_iff (∀ source ∈ [LoRaTxSource.EmergencyResult, .CommandResult, .GroundTimeRequest,
      .Recovery, .Periodic], p source)
    ⟨fun h source => h source (by cases source <;> simp), fun h source _ => h source⟩

def LoRaTxSource.raw : LoRaTxSource → UInt8
  | .Periodic => 0
  | .Recovery => 1
  | .GroundTimeRequest => 2
  | .CommandResult => 3
  | .EmergencyResult => 4

structure LoRaTxEnvelope where
  frame : LoraFrame
  source : LoRaTxSource
  interval_events : UInt16
  event_revision : UInt32
  deriving DecidableEq

namespace LoRaTxEnvelope

def queued (frame : LoraFrame) (source : LoRaTxSource) : LoRaTxEnvelope where
  frame
  source
  interval_events := 0
  event_revision := 0

def periodic (frame : LoraFrame) (interval_events : UInt16) (event_revision : UInt32) :
    LoRaTxEnvelope where
  frame
  source := .Periodic
  interval_events
  event_revision

end LoRaTxEnvelope

structure DeadlineAdvance where
  next_deadline_us : Nat
  missed_slots : Nat
  deriving DecidableEq

def checked_mul (a b : Nat) : Option Nat := if a * b ≤ U64_MAX then some (a * b) else none

def advance_deadline (deadline_us now_us interval_us : Nat) : Option DeadlineAdvance :=
  if interval_us = 0 then none
  else if deadline_us > now_us then some { next_deadline_us := deadline_us, missed_slots := 0 }
  else do
    let elapsed_intervals := (now_us - deadline_us) / interval_us
    let skipped ← checked_add elapsed_intervals 1
    let advance_us ← checked_mul skipped interval_us
    let next_deadline_us ← checked_add deadline_us advance_us
    if next_deadline_us ≤ now_us then none
    else some { next_deadline_us, missed_slots := if skipped > 0xffffffff then 0xffffffff else skipped }

/-! ## The same, word by word -/

namespace Words

structure DeadlineAdvance where
  next_deadline_us : UInt64
  missed_slots : UInt32
  deriving DecidableEq

/-- `?`: a `None` ends the function. -/
def question {α : Type} (x : Option α) : OptionT Option α := OptionT.mk (some x)

/-- `/` panics on a zero. -/
def div (a b : UInt64) : OptionT Option UInt64 :=
  OptionT.mk (if b = 0 then none else some (some (a / b)))

/-- The inner `Option` is what the function returns, the outer one a panic. -/
def advance_deadline (deadline_us now_us interval_us : UInt64) : OptionT Option DeadlineAdvance :=
  if interval_us = 0 then question none
  else if deadline_us > now_us then
    pure { next_deadline_us := deadline_us, missed_slots := 0 }
  else do
    let elapsed_us ← question (u64_checked_sub now_us deadline_us)
    let elapsed_intervals ← div elapsed_us interval_us
    let skipped ← question (u64_checked_add elapsed_intervals 1)
    let advance_us ← question (u64_checked_mul skipped interval_us)
    let next_deadline_us ← question (u64_checked_add deadline_us advance_us)
    if next_deadline_us ≤ now_us then question none
    else pure {
      next_deadline_us
      missed_slots := if skipped > 0xffffffff then 0xffffffff else skipped.toUInt32 }

end Words

inductive GroundTimeQueueAction where
  | IgnoreDuplicate | Enqueue | ReplaceOldest
  deriving DecidableEq

def ground_time_queue_action (previous_request_id : Option UInt8) (request_id : UInt8)
    (queue_is_full : Bool) : GroundTimeQueueAction :=
  if previous_request_id = some request_id then .IgnoreDuplicate
  else if queue_is_full then .ReplaceOldest
  else .Enqueue

def should_clear_periodic_events (source : LoRaTxSource) (transmitted : Bool)
    (interval_events : UInt16) : Bool :=
  source = .Periodic && transmitted && interval_events ≠ 0

def is_higher_priority (candidate selected : LoRaTxSource) : Bool := candidate.raw > selected.raw

def should_defer_preempted (source : LoRaTxSource) : Bool := source ≠ .Periodic

def preempted_periodic_missed_slots : LoRaTxSource → Nat
  | .Periodic => 1
  | _ => 0

def recovery_next_eligible_at_us (completed_at_us minimum_gap_us : Nat) : Option Nat :=
  checked_add completed_at_us minimum_gap_us

def recovery_allowed (recovery_sent_since_periodic periodic_due : Bool) : Bool :=
  !recovery_sent_since_periodic || !periodic_due

def periodic_due_for_reselection (selected_source : LoRaTxSource)
    (periodic_deadline_valid deadline_reached : Bool) : Bool :=
  selected_source = .Periodic || (periodic_deadline_valid && deadline_reached)

def deferred_recovery_blocked (deferred_source : LoRaTxSource)
    (recovery_sent_since_periodic periodic_due : Bool) : Bool :=
  deferred_source = .Recovery && !recovery_allowed recovery_sent_since_periodic periodic_due

def update_recovery_fairness (recovery_sent_since_periodic : Bool) : LoRaTxSource → Bool
  | .Recovery => true
  | .Periodic => false
  | _ => recovery_sent_since_periodic

structure PeriodicDeadlineSelection where
  deadline_us : Nat
  retry_selected : Bool
  deriving DecidableEq

def select_periodic_deadline (regular_deadline_us : Nat) (regular_deadline_valid : Bool)
    (retry_at_us : Option Nat) : PeriodicDeadlineSelection :=
  match retry_at_us with
  | some retry_at_us =>
    if ¬ regular_deadline_valid ∨ retry_at_us < regular_deadline_us then
      { deadline_us := retry_at_us, retry_selected := true }
    else { deadline_us := regular_deadline_us, retry_selected := false }
  | none => { deadline_us := regular_deadline_us, retry_selected := false }

def regular_deadline_after_selection (regular_deadline_us : Nat) (retry_selected : Bool)
    (interval_us : Nat) : Option Nat :=
  if retry_selected then some regular_deadline_us
  else checked_add regular_deadline_us interval_us

structure PeriodicDeadlineConsumption where
  next_regular_deadline_us : Option Nat
  retry_at_us : Option Nat
  deriving DecidableEq

def consume_periodic_selection (regular_deadline_us : Nat) (retry_selected : Bool)
    (interval_us : Nat) : PeriodicDeadlineConsumption where
  next_regular_deadline_us :=
    regular_deadline_after_selection regular_deadline_us retry_selected interval_us
  retry_at_us := none

def periodic_retry_after_nonperiodic_attempt (retry_at_us : Option Nat) (completed_at_us : Nat)
    (attempted_source : LoRaTxSource) : Option Nat :=
  if attempted_source = .Periodic then retry_at_us
  else
    match retry_at_us with
    | some at_us => if at_us ≤ completed_at_us then none else retry_at_us
    | none => none

def periodic_retry_after_recovery_us (completed_at_us minimum_gap_us : Nat)
    (displaced_regular_slot : Bool) : Option Nat :=
  if displaced_regular_slot then checked_add completed_at_us minimum_gap_us else none

def recovery_displaced_regular_slot (selected_source higher_source : LoRaTxSource)
    (regular_periodic_selected : Bool) : Bool :=
  regular_periodic_selected && selected_source = .Periodic && higher_source = .Recovery

end Comboard
