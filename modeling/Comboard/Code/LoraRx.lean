import Comboard.Code.EmergencyPath

/-!
# `tasks/lora_task_base.rs`: the receiving task

`lora_rx_task` from the UART on, in front of the tasks of `EmergencyPath`. A read is worked off byte by
byte, because the task may wait behind an emergency in the middle of it.
-/

namespace Comboard

open Lib

structure LoraRx where
  path : EmergencyPath
  uplink_frame : UplinkFrameBuffer
  /-- What of `rx_buf[..length]` is still to be pushed. -/
  rx_buf : List UInt8
  lora_rx_byte_count : UInt32
  lora_rx_success_count : UInt32
  lora_rx_error_count : UInt32
  lora_command_drop_count : UInt32

namespace LoraRx

inductive Action where
  /-- `read_async` gives these bytes. -/
  | read (bytes : List UInt8)
  | read_error
  /-- The next byte of the read is pushed. -/
  | push
  /-- A step of the other tasks, or the end of the wait for room. -/
  | other (a : EmergencyPath.Action)

inductive RxReport where
  | read (bytes : List UInt8)
  | read_error
  /-- `LORA_RX_ACTIVITY_SIGNAL.signal(Instant::now())` -/
  | activity
  | pushed (byte : UInt8) (result : Option (Except UplinkDecodeError UplinkCommand))
  /-- There was no room for the command. -/
  | dropped (command : UplinkCommand)
  | path (r : EmergencyPath.Report)
  deriving DecidableEq

def start : LoraRx where
  path := .start
  uplink_frame := .new
  rx_buf := []
  lora_rx_byte_count := 0
  lora_rx_success_count := 0
  lora_rx_error_count := 0
  lora_command_drop_count := 0

/-- The task is at its `read_async`. -/
def reading (w : LoraRx) : Bool := w.rx_buf.isEmpty && w.path.waiting.isNone

/-- `rx_buf` holds 32 bytes. -/
def read (w : LoraRx) (bytes : List UInt8) : Option (LoraRx × List RxReport) :=
  if w.reading ∧ bytes.length ≤ 32 then
    some ({ w with
      rx_buf := bytes
      lora_rx_byte_count := w.lora_rx_byte_count + .ofNat bytes.length },
      .read bytes :: if bytes.length ≠ 0 then [.activity] else [])
  else none

def read_error (w : LoraRx) : Option (LoraRx × List RxReport) :=
  if w.reading then
    some ({ w with
      uplink_frame := w.uplink_frame.reset
      lora_rx_error_count := w.lora_rx_error_count + 1 }, [.read_error])
  else none

/-- `UPLINK_COMMAND_CHANNEL.try_send(command).is_err()`, for what is no emergency. -/
def drops (w : LoraRx) : UplinkCommand → Bool
  | .ActuatorEmergency _ | .LiftoffDetectionEmergency _ => false
  | command => !(w.path.path.state.uplink_command_channel.offer command).2

def accept (w : LoraRx) (command : UplinkCommand) : LoraRx × List RxReport :=
  let drops := w.drops command
  ({ w with
      path := w.path.receive command
      lora_rx_success_count := w.lora_rx_success_count + 1
      lora_command_drop_count := w.lora_command_drop_count + if drops then 1 else 0 },
    .path (.accepted command) :: if drops then [.dropped command] else [])

/-- A push that panics is `none`. -/
def push (w : LoraRx) : Option (LoraRx × List RxReport) :=
  match w.path.waiting, w.rx_buf with
  | none, byte :: rx_buf =>
    match w.uplink_frame.push byte with
    | none => none
    | some (uplink_frame, result) =>
      let w := { w with uplink_frame, rx_buf }
      match result with
      | none => some (w, [.pushed byte none])
      | some (.ok command) =>
        let (w, reports) := w.accept command
        some (w, .pushed byte (some (.ok command)) :: .activity :: reports)
      | some (.error error) =>
        some ({ w with lora_rx_error_count := w.lora_rx_error_count + 1 },
          [.pushed byte (some (.error error)), .activity])
  | _, _ => none

def step (w : LoraRx) : Action → Option (LoraRx × List RxReport)
  | .read bytes => w.read bytes
  | .read_error => w.read_error
  | .push => w.push
  -- The frames come in above.
  | .other (.frame _) => none
  | .other a =>
    (EmergencyPath.machine.step w.path a).map fun (path, reports) =>
      ({ w with path }, reports.map .path)

def machine : Machine LoraRx Action RxReport where
  start w := w = start
  step := step

end LoraRx

end Comboard
