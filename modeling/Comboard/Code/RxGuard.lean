import Comboard.Lib.Word
import Comboard.Lib.Machine

/-!
# `tasks/lora_task_base.rs`: the guard between reception and transmission

`wait_for_rx_guard`, with one step for each look at the signal or at the clock, so that
`lora_rx_task` can signal in between. Times are in microseconds.
-/

namespace Comboard

open Lib

def LORA_RX_TX_GUARD_MS : Nat := 60

/-- `Duration::from_millis(LORA_RX_TX_GUARD_MS)` -/
def guard_duration : Nat := LORA_RX_TX_GUARD_MS * 1000

/-- Where `wait_for_rx_guard` stands. -/
inductive GuardPoint where
  /-- Nobody is calling it. -/
  | Idle
  /-- At the top of the loop. -/
  | Loop (last_rx : Nat)
  /-- In the `try_take` after the deadline. -/
  | Take
  /-- In the `select`. -/
  | Select (deadline : Nat)
  /-- The last `try_take` found nothing. -/
  | Return
  deriving DecidableEq

structure RxGuard where
  /-- No clock reading goes back behind it. -/
  now : Nat
  lora_rx_activity_signal : Option Nat
  point : GuardPoint
  deriving DecidableEq

namespace RxGuard

inductive Action where
  /-- `lora_rx_task`: `LORA_RX_ACTIVITY_SIGNAL.signal(Instant::now())` -/
  | activity (now : Nat)
  /-- `wait_for_rx_guard` is called, and takes the signal. -/
  | call
  /-- The comparison of the deadline with the clock. -/
  | compare (now : Nat)
  | take
  /-- `LORA_RX_ACTIVITY_SIGNAL.wait()` wins the `select`. -/
  | signalled
  /-- `Timer::at(deadline)` wins the `select`. -/
  | timer (now : Nat)
  | return_ (now : Nat)

inductive Report where
  | activity (at_us : Nat)
  /-- A look at the signal. -/
  | looked
  | returned (at_us : Nat)
  deriving DecidableEq

/-- A look takes what is there. With nothing there, the guard returns. -/
def try_take (g : RxGuard) : RxGuard :=
  match g.lora_rx_activity_signal with
  | none => { g with point := .Return }
  | some last_rx => { g with lora_rx_activity_signal := none, point := .Loop last_rx }

def step (g : RxGuard) (a : Action) : Option (RxGuard × List Report) :=
  match g.point, a with
  | _, .activity now =>
    if g.now ≤ now then
      some ({ g with now, lora_rx_activity_signal := some now }, [.activity now])
    else none
  | .Idle, .call => some (g.try_take, [.looked])
  | .Loop last_rx, .compare now =>
    if g.now ≤ now then
      -- An overflow of `last_rx + guard_duration` is a panic.
      (checked_add last_rx guard_duration).map fun deadline =>
        ({ g with now, point := if deadline ≤ now then .Take else .Select deadline }, [])
    else none
  | .Take, .take => some (g.try_take, [.looked])
  | .Select _, .signalled =>
    match g.lora_rx_activity_signal with
    | none => none
    | some updated_rx =>
      some ({ g with lora_rx_activity_signal := none, point := .Loop updated_rx }, [.looked])
  | .Select deadline, .timer now =>
    if g.now ≤ now ∧ deadline ≤ now then some ({ g with now, point := .Take }, []) else none
  | .Return, .return_ now =>
    if g.now ≤ now then some ({ g with now, point := .Idle }, [.returned now]) else none
  | _, _ => none

/-- Nothing was received yet, and nobody waits. -/
def machine : Machine RxGuard Action Report where
  start g := g.lora_rx_activity_signal = none ∧ g.point = .Idle
  step := step

end RxGuard

end Comboard
