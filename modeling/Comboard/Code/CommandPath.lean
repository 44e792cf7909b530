import Comboard.Code.LoraTask
import Comboard.Lib.Machine

/-!
# The CAN task and the command task side by side

One executor runs both, so a step runs from one wait of a task to its next. The other tasks show as
what they put into the channels and take from them.
-/

namespace Comboard

open Lib

/-- Where `can_communication_task` waits. -/
inductive CanTask where
  /-- `select3(..)` -/
  | Select
  /-- `transmit_message_with_timeout(..)` -/
  | Transmit (message : CanTxMessage)
  /-- `COMMAND_TRACKER.lock()` after a failed transmission -/
  | LockFailed (result : CommandResult)
  /-- `COMMAND_TRACKER.lock()` in `apply_received_message` -/
  | LockResult (result : CommandResult)
  deriving DecidableEq

structure CommandPath where
  state : State
  command : CommandTask
  can : CanTask
  previous_time_request_id : Option UInt8
  deriving DecidableEq

namespace CommandPath

inductive Action where
  /-- `lora_rx_task` hands over an accepted uplink frame. -/
  | uplink (command : UplinkCommand)
  /-- `gnss_time_response_task` answers a time request. -/
  | gnss_time_response (request_id : UInt8) (unix_seconds : UInt32) (milliseconds : UInt16)
  /-- `gnss_manager_task` takes a command. -/
  | gnss_receive
  /-- `lora_tx_task` takes an envelope of this source. -/
  | lora_receive (source : LoRaTxSource)
  /-- The command task is polled. -/
  | command
  /-- The `select3` of the CAN task finds a message to send. -/
  | can_take
  /-- The transmission ends. -/
  | can_transmitted (sent : Bool)
  /-- The `select3` finds a frame that `decode_standard` accepts. -/
  | can_receive (message : CanRxMessage) (received_at_ms : Nat)
  /-- The `select3` finds a frame with ID 0x014. -/
  | can_receive_mode (data : List UInt8)
  /-- The CAN task is polled at a lock. -/
  | can_lock
  deriving DecidableEq

def start : CommandPath where
  state := .new
  command := .Receive
  can := .Select
  previous_time_request_id := none

/-! ## The other tasks -/

/-- `lora_rx_task`: an emergency waits for room, anything else is dropped when there is none. -/
def uplink (s : State) : UplinkCommand → Option State
  | .ActuatorEmergency transaction_id =>
    (s.can_safety_tx_channel.try_send (.ActuatorEmergencyStop transaction_id)).map
      fun can_safety_tx_channel => { s with can_safety_tx_channel }
  | .LiftoffDetectionEmergency transaction_id =>
    (s.can_safety_tx_channel.try_send (.LiftoffEmergencyStop transaction_id)).map
      fun can_safety_tx_channel => { s with can_safety_tx_channel }
  | command => some { s with uplink_command_channel := (s.uplink_command_channel.offer command).1 }

def lora_receive (s : State) : LoRaTxSource → Option State
  | .EmergencyResult => s.emergency_result_lora_channel.try_receive.map
      fun (_, c) => { s with emergency_result_lora_channel := c }
  | .CommandResult => s.command_result_lora_channel.try_receive.map
      fun (_, c) => { s with command_result_lora_channel := c }
  | .GroundTimeRequest => s.ground_time_request_lora_channel.try_receive.map
      fun (_, c) => { s with ground_time_request_lora_channel := c }
  | .Recovery => s.recovery_lora_channel.try_receive.map
      fun (_, c) => { s with recovery_lora_channel := c }
  | .Periodic => none

/-! ## The command task -/

/-- What the task waits for is not there. -/
def command_blocked (w : CommandPath) : Bool :=
  match w.command with
  | .Receive => w.state.uplink_command_channel.is_empty
  | .LockTracker _ => w.state.tracker_guard
  | .SendForward _ | .SendControl _ _ | .SendTime _ => w.state.can_tx_channel.is_full
  | .SendGnss _ _ _ => w.state.gnss_cmd_channel.is_full

def step_command (w : CommandPath) : CommandPath × List Report :=
  let (state, command, reports) := Command.resume_command w.state w.command
  ({ w with state, command }, reports)

/-! ## The CAN task -/

/-- After a transmission: the next safety message, or back to the `select3`. -/
def next_safety (w : CommandPath) : CommandPath :=
  match w.state.can_safety_tx_channel.try_receive with
  | some (message, can_safety_tx_channel) =>
    { w with state := { w.state with can_safety_tx_channel }, can := .Transmit message }
  | none => { w with can := .Select }

/-- The inner `select` is polled from the left. -/
def step_can_take (w : CommandPath) : Option CommandPath :=
  match w.state.can_safety_tx_channel.try_receive with
  | some (message, can_safety_tx_channel) =>
    some { w with state := { w.state with can_safety_tx_channel }, can := .Transmit message }
  | none =>
    match w.state.can_tx_channel.try_receive with
    | some (message, can_tx_channel) =>
      some { w with state := { w.state with can_tx_channel }, can := .Transmit message }
    | none => none

/-- `COMMAND_TRACKER.lock()` after a failed transmission. -/
def lock_failed (w : CommandPath) (result : CommandResult) : CommandPath × List Report :=
  if w.state.tracker_guard then ({ w with can := .LockFailed result }, [])
  else
    let (state, reports) := w.state.apply_failed_result result
    (next_safety { w with state }, reports)

/-- `COMMAND_TRACKER.lock()` in `apply_received_message`. -/
def lock_result (w : CommandPath) (result : CommandResult) : CommandPath × List Report :=
  if w.state.tracker_guard then ({ w with can := .LockResult result }, [])
  else
    let (state, reports) := w.state.apply_command_result result
    ({ w with state, can := .Select }, reports)

def step_transmitted (w : CommandPath) (message : CanTxMessage) (sent : Bool) :
    CommandPath × List Report :=
  if sent then
    (next_safety { w with state := w.state.transmit_succeeded message },
      [.transmitted message true])
  else
    match w.state.transmit_failed message with
    | (state, reports, none) =>
      (next_safety { w with state }, .transmitted message false :: reports)
    | (state, reports, some result) =>
      let (w, later) := lock_failed { w with state } result
      (w, .transmitted message false :: reports ++ later)

/-- `apply_received_message` -/
def step_received (w : CommandPath) (message : CanRxMessage) (received_at_ms : Nat) :
    CommandPath × List Report :=
  let (state, update) := w.state.update_cache message received_at_ms
  let w := { w with state }
  match update with
  | .CommandResult result => lock_result w result
  | .TimeRequest request_id =>
    let (channels, previous_time_request_id, reports) :=
      w.state.queue_ground_time_request request_id w.previous_time_request_id
    ({ w with state := { w.state with toLoraChannels := channels }, previous_time_request_id },
      reports)
  | .RecoveryStatus status =>
    let (recovery, reports) := w.state.apply_recovery_status status
    ({ w with state := { w.state with toRecoveryState := recovery } }, reports)
  | .RecoveryLogData fragment =>
    let (recovery, reports) := w.state.apply_recovery_log_data fragment
    ({ w with state := { w.state with toRecoveryState := recovery } }, reports)
  | .Telemetry | .MissionEvent _ _ | .DuplicateMissionEvent => (w, [])

/-- A frame is looked at only when both channels are empty. -/
def no_message (w : CommandPath) : Bool :=
  w.state.can_safety_tx_channel.is_empty && w.state.can_tx_channel.is_empty

/-! ## Steps -/

def step (w : CommandPath) : Action → Option (CommandPath × List Report)
  | .uplink command => (uplink w.state command).map fun state => ({ w with state }, [])
  | .gnss_time_response request_id unix_seconds milliseconds =>
    let (can_tx_channel, _) :=
      w.state.can_tx_channel.offer (.TimeResponse request_id .Gnss unix_seconds milliseconds)
    some ({ w with state := { w.state with can_tx_channel } }, [])
  | .gnss_receive =>
    w.state.gnss_cmd_channel.try_receive.map fun (_, gnss_cmd_channel) =>
      ({ w with state := { w.state with gnss_cmd_channel } }, [])
  | .lora_receive source => (lora_receive w.state source).map fun state => ({ w with state }, [])
  | .command => if w.command_blocked then none else some w.step_command
  | .can_take =>
    match w.can with
    | .Select => w.step_can_take.map (·, [])
    | _ => none
  | .can_transmitted sent =>
    match w.can with
    | .Transmit message => some (w.step_transmitted message sent)
    | _ => none
  | .can_receive message received_at_ms =>
    match w.can with
    | .Select => if w.no_message then some (w.step_received message received_at_ms) else none
    | _ => none
  | .can_receive_mode data =>
    match w.can with
    | .Select =>
      if w.no_message then some ({ w with state := w.state.recovery_mode_frame data }, []) else none
    | _ => none
  | .can_lock =>
    match w.can with
    | .LockFailed result => if w.state.tracker_guard then none else some (w.lock_failed result)
    | .LockResult result => if w.state.tracker_guard then none else some (w.lock_result result)
    | _ => none

def machine : Machine CommandPath Action Report where
  start w := w = start
  step := step

end CommandPath

end Comboard
