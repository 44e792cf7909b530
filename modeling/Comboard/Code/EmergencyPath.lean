import Comboard.Code.CommandPath

/-!
# The emergency path

`lora_rx_task` beside the CAN task and the command task. An emergency that finds no room in
`CAN_SAFETY_TX_CHANNEL` waits for it, and the frames behind it wait too.
-/

namespace Comboard

open Lib

/-! ## `queue_emergency_result` with its counters -/

/-- `lora_tx_queue_drop_count` also counts what the other LoRa queues drop. -/
structure EmergencyResults where
  emergency_result_lora_channel : Channel LoRaTxEnvelope 16
  lora_tx_queue_drop_count : UInt32
  lora_emergency_result_drop_count : UInt32

def EmergencyResults.queue_emergency_result (q : EmergencyResults) (result : CommandResult) :
    EmergencyResults :=
  match (ApplicationPacket.CommandResult result.packet).encode with
  | .error _ => q
  | .ok frame =>
    match q.emergency_result_lora_channel.try_send (.queued frame .EmergencyResult) with
    | some channel => { q with emergency_result_lora_channel := channel }
    | none =>
      { q with
        lora_tx_queue_drop_count := q.lora_tx_queue_drop_count + 1
        lora_emergency_result_drop_count := q.lora_emergency_result_drop_count + 1 }

/-- The queue of the shared state, which leaves out the counters. -/
def EmergencyResults.toChannels (q : EmergencyResults) (s : LoraChannels) : LoraChannels :=
  { s with emergency_result_lora_channel := q.emergency_result_lora_channel }

namespace EmergencyPath

/-- A result that cannot be encoded is not counted. -/
def count_drop (count : UInt32) : Report → UInt32
  | .emergency_result packet false =>
    match (ApplicationPacket.CommandResult packet).encode with
    | .ok _ => count + 1
    | .error _ => count
  | _ => count

/-- But for the counters, this is the same function, and its report tells what it counts. -/
theorem queue_emergency_result_channels (q : EmergencyResults) (s : LoraChannels)
    (result : CommandResult) :
    ((q.toChannels s).queue_emergency_result result).1 =
        (q.queue_emergency_result result).toChannels s ∧
      (q.queue_emergency_result result).lora_emergency_result_drop_count =
        ((q.toChannels s).queue_emergency_result result).2.foldl count_drop
          q.lora_emergency_result_drop_count := by
  unfold LoraChannels.queue_emergency_result EmergencyResults.queue_emergency_result
    EmergencyResults.toChannels Channel.offer
  cases hencode : (ApplicationPacket.CommandResult result.packet).encode with
  | error _ => exact ⟨rfl, by simp [count_drop, hencode]⟩
  | ok frame =>
    dsimp only
    cases q.emergency_result_lora_channel.try_send (.queued frame .EmergencyResult) with
    | none => exact ⟨rfl, by simp [count_drop, hencode]⟩
    | some channel => exact ⟨rfl, rfl⟩

end EmergencyPath

/-! ## The tasks together -/

structure EmergencyPath where
  path : CommandPath
  /-- What `lora_rx_task` waits to send. -/
  waiting : Option CanTxMessage
  lora_emergency_result_drop_count : UInt32
  deriving DecidableEq

namespace EmergencyPath

inductive Action where
  /-- `lora_rx_task` has the bytes of an uplink frame. -/
  | frame (bytes : Vector UInt8 UPLINK_FRAME_LENGTH)
  /-- There is room for what `lora_rx_task` waits to send. -/
  | enter
  /-- A step of the other tasks. -/
  | path (action : CommandPath.Action)

inductive Report where
  | accepted (command : UplinkCommand)
  /-- An attempt of the CAN task has ended. -/
  | attempted (message : CanTxMessage) (sent : Bool)
  | path (report : Comboard.Report)
  deriving DecidableEq

def start : EmergencyPath where
  path := .start
  waiting := none
  lora_emergency_result_drop_count := 0

/-- `CAN_SAFETY_TX_CHANNEL.send(..)` -/
def send_safety (w : EmergencyPath) (message : CanTxMessage) : EmergencyPath :=
  match w.path.state.can_safety_tx_channel.try_send message with
  | some can_safety_tx_channel =>
    { w with
      path := { w.path with state := { w.path.state with can_safety_tx_channel } }
      waiting := none }
  | none => { w with waiting := some message }

/-- What `lora_rx_task` does with an accepted frame. -/
def receive (w : EmergencyPath) : UplinkCommand → EmergencyPath
  | .ActuatorEmergency transaction_id => w.send_safety (.ActuatorEmergencyStop transaction_id)
  | .LiftoffDetectionEmergency transaction_id =>
    w.send_safety (.LiftoffEmergencyStop transaction_id)
  | command =>
    let uplink_command_channel := (w.path.state.uplink_command_channel.offer command).1
    { w with path := { w.path with state := { w.path.state with uplink_command_channel } } }

def step_frame (w : EmergencyPath) (bytes : Vector UInt8 UPLINK_FRAME_LENGTH) :
    EmergencyPath × List Report :=
  match decode_uplink bytes with
  | .ok command => (w.receive command, [.accepted command])
  | .error _ => (w, [])

def attempts (can : CanTask) : CommandPath.Action → List Report
  | .can_transmitted sent =>
    match can with
    | .Transmit message => [.attempted message sent]
    | _ => []
  | _ => []

def step (w : EmergencyPath) : Action → Option (EmergencyPath × List Report)
  | .frame bytes =>
    match w.waiting with
    | none => some (w.step_frame bytes)
    | some _ => none
  | .enter =>
    match w.waiting with
    | some message =>
      if w.path.state.can_safety_tx_channel.is_full then none else some (w.send_safety message, [])
    | none => none
  -- The frames come in above.
  | .path (.uplink _) => none
  | .path action =>
    (w.path.step action).map fun (path, reports) =>
      ({ w with
          path
          lora_emergency_result_drop_count :=
            reports.foldl count_drop w.lora_emergency_result_drop_count },
        attempts w.path.can action ++ reports.map .path)

def machine : Machine EmergencyPath Action Report where
  start w := w = start
  step := step

end EmergencyPath

end Comboard
