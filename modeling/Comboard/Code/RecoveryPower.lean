import Comboard.Code.Cache
import Comboard.Lib.Word

/-!
# `tasks/recovery_power_task.rs`: the power snapshot of a recovery period

The task waits only between two iterations, so an iteration is one step.
-/

namespace Comboard

open Lib

def RECOVERY_POWER_FRESHNESS_MS : Nat := 30000

def BATTERY_STALE_RAW : UInt8 := 253
def BATTERY_UNAVAILABLE_RAW : UInt8 := 255
def TIME_UNAVAILABLE_RAW : UInt16 := 0xfff1
def TIME_STALE_RAW : UInt16 := 0xfffa

def unavailable_snapshot : PowerTimeTelemetry where
  sequence := 0
  logic_voltage := BATTERY_UNAVAILABLE_RAW
  motor_voltage := BATTERY_UNAVAILABLE_RAW
  descent_elapsed := TIME_UNAVAILABLE_RAW
  recovery_elapsed := TIME_UNAVAILABLE_RAW
  flags := 0

def stale_snapshot (previous : PowerTimeTelemetry) : PowerTimeTelemetry where
  sequence := previous.sequence
  logic_voltage := BATTERY_STALE_RAW
  motor_voltage := BATTERY_STALE_RAW
  descent_elapsed := previous.descent_elapsed
  recovery_elapsed := TIME_STALE_RAW
  flags := previous.flags

/-- The variables of the loop. -/
structure RecoveryPowerTask where
  active_previous : Bool
  snapshot : PowerTimeTelemetry
  snapshot_source_received_at_ms : Option Nat
  last_refresh_received_at_ms : Option Nat
  deriving DecidableEq

namespace RecoveryPowerTask

def new : RecoveryPowerTask where
  active_previous := false
  snapshot := unavailable_snapshot
  snapshot_source_received_at_ms := none
  last_refresh_received_at_ms := none

/-- `if externally_updated` -/
def take_update (self : RecoveryPowerTask) (power_time : Latest PowerTimeTelemetry) :
    RecoveryPowerTask :=
  let current_received_at_ms := power_time.received_at_ms
  match power_time.value with
  | some current =>
    if current_received_at_ms.isSome ∧
        current_received_at_ms ≠ self.last_refresh_received_at_ms then
      { self with
        snapshot := current
        snapshot_source_received_at_ms := current_received_at_ms }
    else self
  | none => self

/-- The check of `source_age_ms`. -/
def expire (self : RecoveryPowerTask) (now_ms : Nat) : RecoveryPowerTask :=
  let source_age_ms := self.snapshot_source_received_at_ms.bind (checked_sub now_ms)
  if source_age_ms.any (· > RECOVERY_POWER_FRESHNESS_MS) then
    { self with
      snapshot := stale_snapshot self.snapshot
      snapshot_source_received_at_ms := none }
  else self

/-- One iteration, with the flag and the clock it reads. -/
def iteration (self : RecoveryPowerTask) (active : Bool) (now_ms : Nat) (cache : CanCache) :
    RecoveryPowerTask × CanCache :=
  if active ∧ ¬ self.active_previous then
    ({ active_previous := active
       snapshot := unavailable_snapshot
       snapshot_source_received_at_ms := none
       last_refresh_received_at_ms := some now_ms },
      { cache with power_time := .update unavailable_snapshot now_ms })
  else if ¬ active ∧ self.active_previous then
    ({ self with
        active_previous := active
        snapshot_source_received_at_ms := none
        last_refresh_received_at_ms := none },
      cache.clear_recovery_power_snapshot)
  else if active then
    let task := (self.take_update cache.power_time).expire now_ms
    ({ task with active_previous := active, last_refresh_received_at_ms := some now_ms },
      { cache with power_time := .update task.snapshot now_ms })
  else ({ self with active_previous := active }, cache)

end RecoveryPowerTask

end Comboard
