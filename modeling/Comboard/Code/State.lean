import Comboard.Code.Cache
import Comboard.Code.Command
import Comboard.Code.Recovery
import Comboard.Code.Scheduler
import Comboard.Code.Uplink
import Comboard.Lib.Channel

/-!
# `state.rs`: what the tasks share

The statics of the CAN task and the command task, in lower case. `tracker_guard` says that a
`MutexGuard` of `COMMAND_TRACKER` is alive. The other mutexes are never held across a wait.
-/

namespace Comboard

open Lib

def LOCAL_EXIT_RECOVERY_COMMAND : UInt8 := 101 -- b'e'

inductive GnssCommand where
  | TurnOn | TurnOff
  deriving DecidableEq

structure LoraChannels where
  emergency_result_lora_channel : Channel LoRaTxEnvelope 16
  command_result_lora_channel : Channel LoRaTxEnvelope 16
  ground_time_request_lora_channel : Channel LoRaTxEnvelope 8
  recovery_lora_channel : Channel LoRaTxEnvelope 16
  deriving DecidableEq

/-- What the recovery messages reach. -/
structure RecoveryState extends LoraChannels where
  recovery_session : RecoverySession
  recovery_assembler : RecoveryAssembler
  recovery_beacon_active : Bool
  control_roll_lora_signal : Bool
  can_safety_tx_channel : Channel CanTxMessage 8
  deriving DecidableEq

structure State extends RecoveryState where
  can_cache : CanCache
  command_tracker : TransactionTracker
  tracker_guard : Bool
  logging_requested : Bool
  gnss_cmd_channel : Channel GnssCommand 2
  uplink_command_channel : Channel UplinkCommand 8
  can_tx_channel : Channel CanTxMessage 8
  deriving DecidableEq

def State.new : State where
  emergency_result_lora_channel := .empty
  command_result_lora_channel := .empty
  ground_time_request_lora_channel := .empty
  recovery_lora_channel := .empty
  recovery_session := .new
  recovery_assembler := .new
  recovery_beacon_active := false
  control_roll_lora_signal := false
  can_safety_tx_channel := .empty
  can_cache := .new
  command_tracker := .new
  tracker_guard := false
  logging_requested := false
  gnss_cmd_channel := .empty
  uplink_command_channel := .empty
  can_tx_channel := .empty

/-- What a step of the CAN task or of the command task has done. -/
inductive Report where
  | registered (request : GenericCommandRequest) (answer : RegisterResult)
  | applied (result : CommandResult) (matched : Bool)
  | command_result (packet : CommandResultPacket) (queued : Bool)
  | emergency_result (packet : CommandResultPacket) (queued : Bool)
  | ground_time_request (request_id : UInt8) (queued : Bool)
  | dump_started (transfer_id : UInt8) (offset : UInt32)
  | chunk (chunk : RecoveryChunk) (queued : Bool)
  | stop (control : RecoveryControl) (queued : Bool)
  | transmitted (message : CanTxMessage) (sent : Bool)
  deriving DecidableEq

end Comboard
