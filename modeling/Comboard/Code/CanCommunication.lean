import Comboard.Code.State

/-!
# `tasks/can_communication.rs`: what the CAN task does with a message

Each function gives the new state and what it has done. The drop counters and the log lines are
left out.
-/

namespace Comboard

open Lib

def CommandResult.packet (result : CommandResult) : CommandResultPacket where
  transaction_id := result.transaction_id
  command := result.command
  phase := result.phase
  reason := result.reason
  detail := result.detail

namespace LoraChannels

/-- The copy in `lora_task.rs` is the same. -/
def queue_command_result (s : LoraChannels) (packet : CommandResultPacket) :
    LoraChannels × List Report :=
  match (ApplicationPacket.CommandResult packet).encode with
  | .error _ => (s, [.command_result packet false])
  | .ok frame =>
    let (channel, queued) := s.command_result_lora_channel.offer (.queued frame .CommandResult)
    ({ s with command_result_lora_channel := channel }, [.command_result packet queued])

def queue_ground_time_request (s : LoraChannels) (request_id : UInt8)
    (previous_request_id : Option UInt8) : LoraChannels × Option UInt8 × List Report :=
  let channel := s.ground_time_request_lora_channel
  let action := ground_time_queue_action previous_request_id request_id channel.is_full
  if action = .IgnoreDuplicate then (s, previous_request_id, [])
  else
    match (ApplicationPacket.GroundTimeRequest request_id).encode with
    | .error _ => (s, previous_request_id, [.ground_time_request request_id false])
    | .ok frame =>
      let channel :=
        if action = .ReplaceOldest then (channel.try_receive.map (·.2)).getD channel else channel
      let (channel, queued) := channel.offer (.queued frame .GroundTimeRequest)
      ({ s with ground_time_request_lora_channel := channel },
        if queued then some request_id else previous_request_id,
        [.ground_time_request request_id queued])

def queue_emergency_result (s : LoraChannels) (result : CommandResult) :
    LoraChannels × List Report :=
  match (ApplicationPacket.CommandResult result.packet).encode with
  | .error _ => (s, [.emergency_result result.packet false])
  | .ok frame =>
    let (channel, queued) := s.emergency_result_lora_channel.offer (.queued frame .EmergencyResult)
    ({ s with emergency_result_lora_channel := channel }, [.emergency_result result.packet queued])

end LoraChannels

/-! ## Recovery -/

def RecoveryChunk.packet (chunk : RecoveryChunk) : RecoveryLogPacket where
  transfer_id := chunk.transfer_id
  source := chunk.source = .MissionSdLatestFlight
  end_of_file := chunk.end_of_file
  offset := chunk.offset
  data_length := .ofNat chunk.data_length
  data := chunk.data

def LoraChannels.queue_recovery_chunk (s : LoraChannels) (chunk : RecoveryChunk) :
    LoraChannels × Bool × List Report :=
  match (ApplicationPacket.RecoveryLogData chunk.packet).encode with
  | .error _ => (s, false, [.chunk chunk false])
  | .ok frame =>
    let (channel, queued) := s.recovery_lora_channel.offer (.queued frame .Recovery)
    ({ s with recovery_lora_channel := channel }, queued, [.chunk chunk queued])

/-- The `StopLogDump` of `fail_recovery_transfer`. -/
def RecoveryResume.control (resume : RecoveryResume) : RecoveryControl where
  opcode := .StopLogDump
  source := resume.source
  transfer_id := resume.transfer_id
  offset := resume.offset
  length := 0

namespace RecoveryState

/-- `queue_command_result`, when there is a result. -/
def queue_some_result (s : RecoveryState) : Option CommandResult → RecoveryState × List Report
  | some result =>
    let (channels, reports) := s.toLoraChannels.queue_command_result result.packet
    ({ s with toLoraChannels := channels }, reports)
  | none => (s, [])

/-- `if stop_mission && let Some(resume) = resume` -/
def send_stop (s : RecoveryState) (stop_mission : Bool) :
    Option RecoveryResume → RecoveryState × List Report
  | some resume =>
    if stop_mission then
      let (channel, queued) := s.can_safety_tx_channel.offer (.RecoveryControl resume.control)
      ({ s with can_safety_tx_channel := channel }, [.stop resume.control queued])
    else (s, [])
  | none => (s, [])

def fail_recovery_transfer (s : RecoveryState) (reason : CommandReason) (stop_mission : Bool) :
    RecoveryState × List Report :=
  let (assembler, resume) := s.recovery_assembler.abort
  let (s, stopped) := send_stop { s with recovery_assembler := assembler } stop_mission resume
  let detail := (resume.map (·.offset)).getD 0
  let (session, result) := s.recovery_session.fail reason detail
  let (s, queued) := queue_some_result { s with recovery_session := session } result
  (s, stopped ++ queued)

/-- Queues a chunk, and fails the transfer if it is not queued. -/
def queue_or_fail (s : RecoveryState) (chunk : RecoveryChunk) :
    RecoveryState × Bool × List Report :=
  let (channels, queued, reports) := s.toLoraChannels.queue_recovery_chunk chunk
  let s := { s with toLoraChannels := channels }
  if queued then (s, true, reports)
  else
    let (s, failed) := s.fail_recovery_transfer .InternalError true
    (s, false, reports ++ failed)

/-! ## `apply_received_message` -/

/-- The end of the `RecoveryStatus` arm. -/
def apply_session_status (s : RecoveryState) (status : RecoveryStatus) :
    RecoveryState × List Report :=
  let (session, result) := s.recovery_session.apply_status status
  let s := { s with recovery_session := session }
  let s :=
    if result.any fun result => result.command = LOCAL_EXIT_RECOVERY_COMMAND ∧
        result.phase = .Completed ∧ result.reason = .None then
      { s with recovery_beacon_active := false, control_roll_lora_signal := true }
    else s
  queue_some_result s result

/-- The `RecoveryStatus` arm. -/
def apply_recovery_status (s : RecoveryState) (status : RecoveryStatus) :
    RecoveryState × List Report :=
  let assembler := s.recovery_assembler.set_total_size status.transfer_id status.total_size
  let (assembler, final_chunk) :=
    if status.status = .Complete then assembler.finish status.transfer_id else (assembler, none)
  let s := { s with recovery_assembler := assembler }
  match final_chunk with
  | none => s.apply_session_status status
  | some chunk =>
    let (s, queued, chunk_reports) := s.queue_or_fail chunk
    if queued then
      let (s, reports) := s.apply_session_status status
      (s, chunk_reports ++ reports)
    else (s, chunk_reports)

/-- The `RecoveryLogData` arm. -/
def apply_recovery_log_data (s : RecoveryState) (fragment : RecoveryLogData) :
    RecoveryState × List Report :=
  let (assembler, assembly) := s.recovery_assembler.push fragment
  let s := { s with recovery_assembler := assembler }
  match assembly with
  | .ok (some chunk) =>
    let (s, _, reports) := s.queue_or_fail chunk
    (s, reports)
  | .ok none => (s, [])
  | .error _ => s.fail_recovery_transfer .ProtocolError true

end RecoveryState

namespace State

/-- Up to `drop(cache)`, and the signal for the LoRa task. -/
def update_cache (s : State) (message : CanRxMessage) (received_at_ms : Nat) :
    State × CacheUpdate :=
  let signal_control_roll : Bool :=
    match message with
    | .ControlRollV2 current =>
      let capture_event :=
        current.flags &&& ControlRollTelemetryV2.REFERENCE_CAPTURED_SINCE_PREVIOUS_FRAME ≠ 0
      capture_event ∨ s.can_cache.control_roll_v2.value.any fun previous =>
        previous.status_signature ≠ current.status_signature
    | _ => false
  let (can_cache, update) := s.can_cache.update message received_at_ms
  ({ s with
      can_cache
      control_roll_lora_signal := s.control_roll_lora_signal || signal_control_roll }, update)

/-- The `CommandResult` arm, once `COMMAND_TRACKER` is locked. The guard dies with the `let`. -/
def apply_command_result (s : State) (result : CommandResult) : State × List Report :=
  let (command_tracker, matched) := s.command_tracker.apply_result result
  let (channels, queued) :=
    if prioritize_untracked_emergency_result matched result.command then
      s.queue_emergency_result result
    else s.queue_command_result result.packet
  ({ s with command_tracker, toLoraChannels := channels }, .applied result matched :: queued)

/-! ## Transmission -/

/-- A transmission failed. A result is one that needs `COMMAND_TRACKER` before it is applied. -/
def transmit_failed (s : State) (message : CanTxMessage) :
    State × List Report × Option CommandResult :=
  match emergency_failure_result message with
  | some result =>
    let (channels, reports) := s.queue_emergency_result result
    ({ s with toLoraChannels := channels }, reports, none)
  | none =>
    match message with
    | .GenericCommandRequest generic =>
      (s, [], some { transaction_id := generic.transaction_id
                     command := generic.command
                     phase := .Failed
                     reason := .Timeout
                     detail := 0 })
    | .RecoveryControl control =>
      let (session, result) := s.recovery_session.fail_matching control.transfer_id .Timeout 0
      let assembler :=
        if result.isSome then s.recovery_assembler.abort.1 else s.recovery_assembler
      let (recovery, reports) := RecoveryState.queue_some_result
        { s.toRecoveryState with recovery_session := session, recovery_assembler := assembler }
        result
      ({ s with toRecoveryState := recovery }, reports, none)
    | _ => (s, [], none)

/-- The failed generic request, once `COMMAND_TRACKER` is locked. -/
def apply_failed_result (s : State) (result : CommandResult) : State × List Report :=
  let (command_tracker, matched) := s.command_tracker.apply_result result
  let (recovery, queued) := s.queue_some_result (if matched then some result else none)
  ({ s with command_tracker, toRecoveryState := recovery }, .applied result matched :: queued)

def transmit_succeeded (s : State) (message : CanTxMessage) : State :=
  match message with
  | .GenericCommandRequest generic =>
    if generic.command = 0x01 then
      { s with
        logging_requested := true
        gnss_cmd_channel := (s.gnss_cmd_channel.offer .TurnOn).1 }
    else s
  | _ => s

/-- Vault 04: ID 0x014 / DLC 3 / mode=1 / reason=0..3 -/
def handle_recovery_mode_command (s : State) (data : List UInt8) : State × Option Bool :=
  match data with
  | [_, mode, reason] =>
    if mode ≠ 1 ∨ reason > 3 then (s, none)
    else ({ s with recovery_beacon_active := true }, some !s.recovery_beacon_active)
  | _ => (s, none)

/-- The 0x014 arm of `handle_received_frame`. -/
def recovery_mode_frame (s : State) (data : List UInt8) : State :=
  let (s, entered) := s.handle_recovery_mode_command data
  if entered = some true then
    { s with
      can_cache := s.can_cache.clear_recovery_power_snapshot
      control_roll_lora_signal := true }
  else s

end State

/-! ## Health -/

inductive CanHealth where
  | Active | Warning | Passive | BusOff
  deriving DecidableEq

def CAN_ERROR_WARNING_THRESHOLD : UInt8 := 96
def CAN_ERROR_PASSIVE_THRESHOLD : UInt8 := 128

def classify_can_health (tec rec : UInt8) (bus_off : Bool) : CanHealth :=
  if bus_off then .BusOff
  else if max tec rec ≥ CAN_ERROR_PASSIVE_THRESHOLD then .Passive
  else if max tec rec ≥ CAN_ERROR_WARNING_THRESHOLD then .Warning
  else .Active

inductive CanRuntimeState where
  | AwaitingTraffic | Normal | BusRecovering | TxStateUnknown
  deriving DecidableEq

def fallback_health_code (state : CanRuntimeState) (health : CanHealth) : UInt8 :=
  match state with
  | .BusRecovering => 5
  | .TxStateUnknown => 6
  | .AwaitingTraffic | .Normal =>
    match health with
    | .Active => 1
    | .Warning => 2
    | .Passive => 3
    | .BusOff => 4

/-- `publish_fallback_health` after `publish_health`. -/
def published_fallback_health (state : CanRuntimeState) (tec rec : UInt8) (bus_off : Bool) :
    UInt8 :=
  fallback_health_code state (classify_can_health tec rec bus_off)

end Comboard
