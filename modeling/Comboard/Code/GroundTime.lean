import Comboard.Code.CanCommunication
import Comboard.Lib.Machine

/-!
# `can_communication.rs`: the queue of the ground time requests

`queue_ground_time_request` with its counters. It does not wait, so a removal by the LoRa task comes
before or after it.
-/

namespace Comboard

open Lib

/-- `lora_tx_queue_drop_count` also counts what the other LoRa queues drop. -/
structure GroundTimeQueue where
  ground_time_request_lora_channel : Channel LoRaTxEnvelope 8
  previous_request_id : Option UInt8
  lora_ground_time_request_duplicate_count : UInt32
  lora_ground_time_request_drop_count : UInt32
  lora_tx_queue_drop_count : UInt32
  deriving DecidableEq

namespace GroundTimeQueue

def new : GroundTimeQueue where
  ground_time_request_lora_channel := .empty
  previous_request_id := none
  lora_ground_time_request_duplicate_count := 0
  lora_ground_time_request_drop_count := 0
  lora_tx_queue_drop_count := 0

inductive Report where
  | ignored (request_id : UInt8)
  | encode_error (request_id : UInt8)
  | dropped (oldest : LoRaTxEnvelope)
  | accepted (request_id : UInt8) (envelope : LoRaTxEnvelope)
  /-- The newest was dropped. -/
  | overflow (request_id : UInt8)
  /-- The LoRa task has taken it. -/
  | removed (envelope : LoRaTxEnvelope)
  /-- Another LoRa queue had no room. -/
  | other_drop
  deriving DecidableEq

/-- The counts of a request that is lost. -/
def count_drop (q : GroundTimeQueue) : GroundTimeQueue :=
  { q with
    lora_tx_queue_drop_count := q.lora_tx_queue_drop_count + 1
    lora_ground_time_request_drop_count := q.lora_ground_time_request_drop_count + 1 }

def drop_oldest (q : GroundTimeQueue) : GroundTimeQueue × List Report :=
  match q.ground_time_request_lora_channel.try_receive with
  | none => (q, [])
  | some (oldest, channel) =>
    ({ q with ground_time_request_lora_channel := channel }.count_drop, [.dropped oldest])

def send (q : GroundTimeQueue) (request_id : UInt8) (envelope : LoRaTxEnvelope) :
    GroundTimeQueue × List Report :=
  match q.ground_time_request_lora_channel.try_send envelope with
  | none => (q.count_drop, [.overflow request_id])
  | some channel =>
    ({ q with ground_time_request_lora_channel := channel, previous_request_id := some request_id },
      [.accepted request_id envelope])

def queue_ground_time_request (q : GroundTimeQueue) (request_id : UInt8) :
    GroundTimeQueue × List Report :=
  let action := ground_time_queue_action q.previous_request_id request_id
    q.ground_time_request_lora_channel.is_full
  if action = .IgnoreDuplicate then
    ({ q with
        lora_ground_time_request_duplicate_count := q.lora_ground_time_request_duplicate_count + 1 },
      [.ignored request_id])
  else
    match (ApplicationPacket.GroundTimeRequest request_id).encode with
    | .error _ => (q, [.encode_error request_id])
    | .ok frame =>
      let (q, dropped) := if action = .ReplaceOldest then q.drop_oldest else (q, [])
      let (q, sent) := q.send request_id (.queued frame .GroundTimeRequest)
      (q, dropped ++ sent)

inductive Action where
  /-- A TimeRequest has come in. -/
  | arrival (request_id : UInt8)
  /-- The LoRa task receives. -/
  | remove
  /-- `queue_command_result` finds its queue full. -/
  | other_drop

def step (q : GroundTimeQueue) : Action → Option (GroundTimeQueue × List Report)
  | .arrival request_id => some (q.queue_ground_time_request request_id)
  | .remove => q.ground_time_request_lora_channel.try_receive.map fun (envelope, channel) =>
      ({ q with ground_time_request_lora_channel := channel }, [.removed envelope])
  | .other_drop =>
    some ({ q with lora_tx_queue_drop_count := q.lora_tx_queue_drop_count + 1 }, [.other_drop])

def machine : Machine GroundTimeQueue Action Report where
  start q := q = new
  step := step

/-- The queue of the shared state, which leaves out the counters. -/
def toChannels (q : GroundTimeQueue) (s : LoraChannels) : LoraChannels :=
  { s with ground_time_request_lora_channel := q.ground_time_request_lora_channel }

theorem send_offers (q : GroundTimeQueue) (request_id : UInt8) (envelope : LoRaTxEnvelope) :
    (q.send request_id envelope).1.ground_time_request_lora_channel =
        (q.ground_time_request_lora_channel.offer envelope).1 ∧
      (q.send request_id envelope).1.previous_request_id =
        if (q.ground_time_request_lora_channel.offer envelope).2 then some request_id
        else q.previous_request_id := by
  unfold send Channel.offer count_drop
  cases q.ground_time_request_lora_channel.try_send envelope <;> exact ⟨rfl, rfl⟩

theorem drop_oldest_receives (q : GroundTimeQueue) :
    q.drop_oldest.1.ground_time_request_lora_channel =
        (q.ground_time_request_lora_channel.try_receive.map (·.2)).getD
          q.ground_time_request_lora_channel ∧
      q.drop_oldest.1.previous_request_id = q.previous_request_id := by
  unfold drop_oldest count_drop
  cases q.ground_time_request_lora_channel.try_receive <;> exact ⟨rfl, rfl⟩

/-- But for the counters, this is the same function. -/
theorem queue_ground_time_request_channels (q : GroundTimeQueue) (s : LoraChannels)
    (request_id : UInt8) :
    ∃ reports, (q.toChannels s).queue_ground_time_request request_id q.previous_request_id =
      ((q.queue_ground_time_request request_id).1.toChannels s,
        (q.queue_ground_time_request request_id).1.previous_request_id, reports) := by
  unfold LoraChannels.queue_ground_time_request queue_ground_time_request toChannels
  dsimp only
  split
  · exact ⟨[], rfl⟩
  cases (ApplicationPacket.GroundTimeRequest request_id).encode with
  | error _ => exact ⟨_, rfl⟩
  | ok frame =>
    obtain ⟨hchannel, hprevious⟩ := q.drop_oldest_receives
    dsimp only
    split
    · obtain ⟨hsent, hid⟩ := q.drop_oldest.1.send_offers request_id (.queued frame .GroundTimeRequest)
      rw [hsent, hid, hchannel, hprevious]
      exact ⟨_, rfl⟩
    · obtain ⟨hsent, hid⟩ := q.send_offers request_id (.queued frame .GroundTimeRequest)
      rw [hsent, hid]
      exact ⟨_, rfl⟩

end GroundTimeQueue

end Comboard
