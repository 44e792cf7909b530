import Comboard.Code.CanCommunication

/-!
# `tasks/lora_task.rs`: the command task

A command runs without a switch of tasks up to the first `send` that finds its channel full, or
the first `lock` that finds a guard alive. There the task is parked.
-/

namespace Comboard

open Lib

inductive LocalCommand where
  | StartLogging | StopLogging | GnssOn | GnssOff | Wake | DumpInternalFlash | DumpMissionSd
  | StopDump | ExitRecovery
  deriving DecidableEq

def LocalCommand.decode (raw : UInt8) : Option LocalCommand :=
  if raw = 108 then some .StartLogging -- b'l'
  else if raw = 109 then some .StopLogging -- b'm'
  else if raw = 103 then some .GnssOn -- b'g'
  else if raw = 104 then some .GnssOff -- b'h'
  else if raw = 119 then some .Wake -- b'w'
  else if raw = 102 then some .DumpInternalFlash -- b'f'
  else if raw = 115 then some .DumpMissionSd -- b's'
  else if raw = 120 then some .StopDump -- b'x'
  else if raw = LOCAL_EXIT_RECOVERY_COMMAND then some .ExitRecovery
  else none

/-- Where the command task waits. -/
inductive CommandTask where
  /-- `UPLINK_COMMAND_CHANNEL.receive()` -/
  | Receive
  /-- `COMMAND_TRACKER.lock()` in `process_generic` -/
  | LockTracker (request : GenericCommandRequest)
  /-- `CAN_TX_CHANNEL.send(..)` in the `Forward` arm, with the guard of the scrutinee alive -/
  | SendForward (request : GenericCommandRequest)
  /-- `GNSS_CMD_CHANNEL.send(..)` in `process_local` -/
  | SendGnss (value : GnssCommand) (transaction_id command : UInt8)
  /-- `CAN_TX_CHANNEL.send(..)` in `process_local` -/
  | SendControl (control : RecoveryControl) (command : UInt8)
  /-- `CAN_TX_CHANNEL.send(..)` of a ground time response -/
  | SendTime (message : CanTxMessage)
  deriving DecidableEq

def LoraChannels.queue_result (s : LoraChannels) (transaction_id command : UInt8)
    (phase : CommandPhase) (reason : CommandReason) : LoraChannels × List Report :=
  s.queue_command_result { transaction_id, command, phase, reason, detail := 0 }

namespace Command

/-- A task that answers and is done. -/
def answer (s : State) (transaction_id command : UInt8) (phase : CommandPhase)
    (reason : CommandReason) : State × CommandTask × List Report :=
  let (channels, reports) := s.queue_result transaction_id command phase reason
  ({ s with toLoraChannels := channels }, .Receive, reports)

/-! ## The points where the task may wait -/

/-- The guard lives to the end of the `match`, so it dies when the request is sent. -/
def send_forward (s : State) (request : GenericCommandRequest) :
    State × CommandTask × List Report :=
  match s.can_tx_channel.try_send (.GenericCommandRequest request) with
  | none => (s, .SendForward request, [])
  | some can_tx_channel => ({ s with can_tx_channel, tracker_guard := false }, .Receive, [])

/-- `process_generic` -/
def process_generic (s : State) (request : GenericCommandRequest) :
    State × CommandTask × List Report :=
  if s.tracker_guard then (s, .LockTracker request, [])
  else
    let (tracker, registration) := s.command_tracker.register request
    let s := { s with command_tracker := tracker }
    let registered := Report.registered request registration
    match registration with
    | .Forward =>
      let (s, task, reports) := send_forward { s with tracker_guard := true } request
      (s, task, registered :: reports)
    | .DuplicatePending => (s, .Receive, [registered])
    | .Replay result =>
      let (channels, reports) := s.queue_command_result result.packet
      ({ s with toLoraChannels := channels }, .Receive, registered :: reports)
    | .ProtocolError =>
      let (s, task, reports) :=
        answer s request.transaction_id request.command .Rejected .ProtocolError
      (s, task, registered :: reports)
    | .Busy =>
      let (s, task, reports) := answer s request.transaction_id request.command .Rejected .Busy
      (s, task, registered :: reports)

def send_gnss (s : State) (value : GnssCommand) (transaction_id command : UInt8) :
    State × CommandTask × List Report :=
  match s.gnss_cmd_channel.try_send value with
  | none => (s, .SendGnss value transaction_id command, [])
  | some gnss_cmd_channel =>
    answer { s with gnss_cmd_channel } transaction_id command .Completed .None

def send_control (s : State) (control : RecoveryControl) (command : UInt8) :
    State × CommandTask × List Report :=
  match s.can_tx_channel.try_send (.RecoveryControl control) with
  | none => (s, .SendControl control command, [])
  | some can_tx_channel =>
    answer { s with can_tx_channel } control.transfer_id command .Accepted .None

def send_time (s : State) (message : CanTxMessage) : State × CommandTask × List Report :=
  match s.can_tx_channel.try_send message with
  | none => (s, .SendTime message, [])
  | some can_tx_channel => ({ s with can_tx_channel }, .Receive, [])

/-! ## `process_local` -/

def recovery_opcode : LocalCommand → RecoveryOpcode
  | .DumpInternalFlash | .DumpMissionSd => .StartLogDump
  | .StopDump => .StopLogDump
  | .ExitRecovery => .ExitRecovery
  | _ => .Wake

def recovery_source (session : RecoverySession) (command_value : LocalCommand) : RecoverySource :=
  if command_value = .DumpMissionSd then .MissionSdLatestFlight
  else if command_value = .StopDump then session.active_source.getD .InternalFlash
  else .InternalFlash

/-- A `StopDump` takes the place of the pending request and drops what the assembler holds. -/
def stop_dump (s : RecoveryState) (pending : PendingRecovery) : RecoveryState × List Report :=
  let (session, interrupted) := s.recovery_session.interrupt_with_stop pending
  let (channels, reports) :=
    match interrupted with
    | some result =>
      s.queue_result result.transaction_id result.command result.phase result.reason
    | none => (s.toLoraChannels, [])
  ({ s with
      recovery_session := session
      toLoraChannels := channels
      recovery_assembler := s.recovery_assembler.abort.1 }, reports)

/-- Any other request is `none` while one is pending. -/
def start_request (s : RecoveryState) (pending : PendingRecovery) (offset length : UInt32) :
    Option (RecoveryState × List Report) :=
  let (session, started) := s.recovery_session.start pending
  let s := { s with recovery_session := session }
  if ¬ started then none
  else if pending.opcode = .StartLogDump then
    some ({ s with
        recovery_assembler := .start pending.transaction_id pending.source offset length },
      [.dump_started pending.transaction_id offset])
  else some (s, [])

/-- `u32::from_le_bytes([args[0], args[1], args[2], 0])` -/
abbrev offset_arg (args : Vector UInt8 6) : UInt32 := u32_from_le_bytes args[0] args[1] args[2] 0

/-- `u32::from_le_bytes([args[3], args[4], args[5], 0])` -/
abbrev length_arg (args : Vector UInt8 6) : UInt32 := u32_from_le_bytes args[3] args[4] args[5] 0

/-- The recovery commands of `process_local`. -/
def process_recovery (s : State) (transaction_id command : UInt8) (args : Vector UInt8 6)
    (command_value : LocalCommand) : State × CommandTask × List Report :=
  if command_value = .ExitRecovery ∧ ¬ s.recovery_beacon_active then
    answer s transaction_id command .Rejected .InvalidState
  else
    let opcode := recovery_opcode command_value
    let source := recovery_source s.recovery_session command_value
    let offset := offset_arg args
    let length := length_arg args
    let pending : PendingRecovery := { transaction_id, command, opcode, source }
    let control : RecoveryControl :=
      { opcode, source, transfer_id := transaction_id, offset, length }
    if command_value = .StopDump then
      let (recovery, stopped) := stop_dump s.toRecoveryState pending
      let (s, task, reports) := send_control { s with toRecoveryState := recovery } control command
      (s, task, stopped ++ reports)
    else
      match start_request s.toRecoveryState pending offset length with
      | none => answer s transaction_id command .Rejected .Busy
      | some (recovery, started) =>
        let (s, task, reports) := send_control { s with toRecoveryState := recovery } control command
        (s, task, started ++ reports)

def process_local (s : State) (transaction_id command : UInt8) (args : Vector UInt8 6) :
    State × CommandTask × List Report :=
  match LocalCommand.decode command with
  | none => answer s transaction_id command .Rejected .NotSupported
  | some command_value =>
    let recovery_dump : Bool :=
      command_value = .DumpInternalFlash ∨ command_value = .DumpMissionSd
    if ¬ recovery_dump ∧ args.toList.any (· ≠ 0) then
      answer s transaction_id command .Rejected .InvalidArgument
    else
      match command_value with
      | .StartLogging =>
        answer { s with logging_requested := true } transaction_id command .Completed .None
      -- `SD_FLUSH_SIGNAL` wakes the SD task only.
      | .StopLogging =>
        answer { s with logging_requested := false } transaction_id command .Completed .None
      | .GnssOn => send_gnss s .TurnOn transaction_id command
      | .GnssOff => send_gnss s .TurnOff transaction_id command
      | _ => process_recovery s transaction_id command args command_value

/-! ## `command_process_task` -/

def process_command (s : State) : UplinkCommand → State × CommandTask × List Report
  | .MissionGeneric request => process_generic s request
  | .ActuatorEmergency _ | .LiftoffDetectionEmergency _ => (s, .Receive, [])
  | .ComBoardLocal transaction_id command args => process_local s transaction_id command args
  | .GroundTimeResponse request_id source unix_seconds milliseconds =>
    send_time s (.TimeResponse request_id source unix_seconds milliseconds)

/-- The task goes on from where it waits. -/
def resume_command (s : State) : CommandTask → State × CommandTask × List Report
  | .Receive =>
    match s.uplink_command_channel.try_receive with
    | none => (s, .Receive, [])
    | some (command, uplink_command_channel) =>
      process_command { s with uplink_command_channel } command
  | .LockTracker request => process_generic s request
  | .SendForward request => send_forward s request
  | .SendGnss value transaction_id command => send_gnss s value transaction_id command
  | .SendControl control command => send_control s control command
  | .SendTime message => send_time s message

end Command

end Comboard
