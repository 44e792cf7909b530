import Comboard.Code.CommandPath
import Comboard.Code.Link
import Comboard.Code.SdTask
import Comboard.Lib.Counters

/-!
# `can_communication_task`

The loop around the part of it that is in `CommandPath`: the state of the driver, the counters, the
raw log and what is published. What the driver and the clock tell comes from outside. The two tasks
that write to the cache beside it take their steps here as well.
-/

namespace Comboard

open Lib

def CAN_CONSECUTIVE_ERROR_THRESHOLD : UInt8 := 3

def u8_saturating_add (a b : UInt8) : UInt8 := .ofNat (min (a.toNat + b.toNat) 0xff)

deriving instance DecidableEq for RawCanRecord

/-! ## The driver -/

inductive CanId where
  | Standard (id : UInt16)
  | Extended (id : UInt32)
  deriving DecidableEq

/-- `EspTwaiFrame` -/
structure CanFrame where
  id : CanId
  data : List UInt8
  standard : ∀ raw, id = .Standard raw → raw ≤ 0x7ff
  fits : data.length ≤ 8
  deriving DecidableEq

/-- A frame with a standard identifier, where there is one. -/
def CanFrame.new (identifier : UInt16) (data : List UInt8) : Option CanFrame :=
  if h : identifier ≤ 0x7ff ∧ data.length ≤ 8 then
    some
      { id := .Standard identifier
        data := data
        standard := fun _ heq => CanId.Standard.inj heq ▸ h.1
        fits := h.2 }
  else none

/-- The task tells only `BusOff` from the others. -/
inductive EspTwaiError where
  | BusOff | Other
  deriving DecidableEq

/-- `can/tx.rs` -/
inductive CanTxError where
  | FrameCreateFailed | TransmitFailed | TimedOutUnknownState | BusOff
  deriving DecidableEq

/-- What `can.transmit_async(..)` gives, or `none` where the time is up first. -/
abbrev Transmission := Option (Except EspTwaiError Unit)

def transmit_frame_with_timeout : Transmission → Option CanTxError
  | some (.ok ()) => none
  | some (.error .BusOff) => some .BusOff
  | some (.error .Other) => some .TransmitFailed
  | none => some .TimedOutUnknownState

/-- `none` is success. -/
def transmit_message_with_timeout (message : CanTxMessage) (transmission : Transmission) :
    Option CanTxError :=
  match message.create_frame with
  | .error _ => some .FrameCreateFailed
  | .ok _ => transmit_frame_with_timeout transmission

/-- What `publish_health` reads. -/
structure Registers where
  transmit_error_count : UInt8
  receive_error_count : UInt8
  is_bus_off : Bool
  deriving DecidableEq

def Registers.health (registers : Registers) : CanHealth :=
  classify_can_health registers.transmit_error_count registers.receive_error_count
    registers.is_bus_off

inductive CanRuntimeEvent where
  | TransmitSucceeded | ReceiveSucceeded | BusOff | TimedOutUnknownState
  deriving DecidableEq

/-- The flag asks for a restart of the driver. -/
def transition_runtime (state : CanRuntimeState) (event : CanRuntimeEvent) :
    CanRuntimeState × Bool :=
  match state, event with
  | .AwaitingTraffic, .TransmitSucceeded | .AwaitingTraffic, .ReceiveSucceeded => (.Normal, false)
  | .AwaitingTraffic, .BusOff | .Normal, .BusOff => (.BusRecovering, true)
  | .AwaitingTraffic, .TimedOutUnknownState | .Normal, .TimedOutUnknownState =>
    (.TxStateUnknown, true)
  | .TxStateUnknown, .BusOff => (.BusRecovering, false)
  | .BusRecovering, .TimedOutUnknownState => (.TxStateUnknown, false)
  | .BusRecovering, .TransmitSucceeded | .TxStateUnknown, .TransmitSucceeded
  | .BusRecovering, .ReceiveSucceeded => (.Normal, false)
  | state, _ => (state, false)

/-- `matches!(error, CanTxError::BusOff | CanTxError::TimedOutUnknownState)` -/
def CanTxError.event : CanTxError → Option CanRuntimeEvent
  | .BusOff => some .BusOff
  | .TimedOutUnknownState => some .TimedOutUnknownState
  | .FrameCreateFailed | .TransmitFailed => none

/-! ## What is observed of the frames -/

/-- `can/cache.rs` -/
def observed_sequence (identifier : UInt16) (data : List UInt8) : Option UInt8 :=
  if identifier = 0x020 ∨ (0x100 ≤ identifier ∧ identifier ≤ 0x104) ∨
      (0x107 ≤ identifier ∧ identifier ≤ 0x10a) then data[0]?
  else if identifier = 0x106 then data[1]?
  else none

def sequence_gap (previous : Option UInt8) (current : UInt8) : Bool :=
  match previous with
  | some previous => current ≠ previous + 1
  | none => false

abbrev OBSERVED_COUNT : Nat := 14

def OBSERVED_CAN_IDS : Vector UInt16 OBSERVED_COUNT :=
  #v[0x011, 0x012, 0x020, 0x100, 0x101, 0x102, 0x103, 0x104, 0x105, 0x106, 0x107, 0x108, 0x109, 0x10a]

structure CanObservedStats where
  counts : Vector UInt32 OBSERVED_COUNT
  sequence_gaps : Vector UInt32 OBSERVED_COUNT
  last_sequences : Vector (Option UInt8) OBSERVED_COUNT
  deriving DecidableEq

namespace CanObservedStats

def new : CanObservedStats where
  counts := .replicate _ 0
  sequence_gaps := .replicate _ 0
  last_sequences := .replicate _ none

/-- `if let Some(sequence) = sequence` -/
def observe_sequence (self : CanObservedStats) (index : Fin OBSERVED_COUNT) :
    Option UInt8 → CanObservedStats
  | none => self
  | some sequence =>
    let gaps := self.sequence_gaps.get index
    { self with
      sequence_gaps :=
        if sequence_gap (self.last_sequences.get index) sequence then
          self.sequence_gaps.set index (saturating_add gaps 1) index.isLt
        else self.sequence_gaps
      last_sequences := self.last_sequences.set index (some sequence) index.isLt }

def observe (self : CanObservedStats) (identifier : UInt16) (data : List UInt8) :
    CanObservedStats :=
  match position OBSERVED_CAN_IDS identifier with
  | none => self
  | some index =>
    let counts := self.counts.set index (saturating_add (self.counts.get index) 1) index.isLt
    { self with counts }.observe_sequence index (observed_sequence identifier data)

end CanObservedStats

/-- The statics with what the Mission board says about its devices. -/
structure DeviceHealth where
  mission_device_health_sequence : UInt8
  mission_icm42688_state : UInt8
  mission_as5047d_state : UInt8
  mission_lps25hb_state : UInt8
  mission_ssc_state : UInt8
  mission_sd_state : UInt8
  deriving DecidableEq

def DEVICE_STATE_MAX : UInt8 := 4

def decode_device_health (data : List UInt8) : Option (Vector UInt8 6) :=
  if h : data.length = 6 then
    if data.tail.any (· > DEVICE_STATE_MAX) then none else some ⟨data.toArray, h⟩
  else none

def cache_device_health (health : Vector UInt8 6) : DeviceHealth where
  mission_icm42688_state := health.get 1
  mission_as5047d_state := health.get 2
  mission_lps25hb_state := health.get 3
  mission_ssc_state := health.get 4
  mission_sd_state := health.get 5
  mission_device_health_sequence := health.get 0

/-- `raw.data[..frame.data().len()].copy_from_slice(frame.data())` -/
def CanFrame.raw (frame : CanFrame) (identifier : UInt16) (received_at_ms : UInt64) :
    RawCanRecord where
  received_at_ms := received_at_ms
  identifier := identifier
  data_length := .ofNat frame.data.length
  data := .ofFn fun i => frame.data.getD i 0

/-! ## The task -/

/-- The statics that `publish_health`, `publish_fallback_health` and `publish_error_state` store. -/
structure CanStatus where
  can_tec : UInt8
  can_rec : UInt8
  can_health : CanHealth
  can_fallback_health : UInt8
  is_can_error : Bool
  deriving DecidableEq

structure CanCommunicationTask where
  path : CommandPath
  runtime_state : CanRuntimeState
  /-- What `enter_recovering` is to be given when `COMMAND_TRACKER` is locked. -/
  recovering : Option CanRuntimeEvent
  consecutive_tx_errors : UInt8
  consecutive_rx_errors : UInt8
  observed : CanObservedStats
  health_ticks : UInt8
  status : CanStatus
  can_tx_success_count : UInt32
  can_tx_error_count : UInt32
  can_rx_success_count : UInt32
  can_rx_error_count : UInt32
  raw_can_log_channel : Channel RawCanRecord 32
  raw_can_log_dropped_count : UInt32
  device_health : DeviceHealth
  recovery_enter_sent : Bool
  mission_status_invalid_at_ms : UInt32
  power_task : RecoveryPowerTask
  deriving DecidableEq

/-- What the end of an iteration reads. -/
structure CanReading where
  registers : Registers
  now_ms : Nat
  deriving DecidableEq

/-- What a step of the CAN task has done. -/
inductive CanReport where
  | attempted (message : CanTxMessage) (error : Option CanTxError)
  | received (frame : CanFrame) (received_at_ms : UInt64)
  | receive_error (error : EspTwaiError)
  | health_tick (health : CanHealth)
  /-- `can.stop().start()` -/
  | restarted
  | published (reading : CanReading) (status : CanStatus)
  | raw_can_log_received (record : RawCanRecord)
  | power_tick (now_ms : Nat)
  | clear_event_flags (flags : UInt16) (revision : UInt32)
  deriving DecidableEq

namespace CanCommunicationTask

inductive Action where
  /-- A step of another task, or the `select3` finds a message to send. -/
  | path (action : CommandPath.Action)
  /-- `transmit_message_with_timeout(..)` ends. -/
  | transmitted (transmission : Transmission) (reading : CanReading)
  /-- The CAN task is polled at a lock. -/
  | lock (reading : CanReading)
  /-- The `select3` finds a frame, -/
  | received (frame : CanFrame) (received_at_ms : UInt64) (reading : CanReading)
  /-- or an error in its place, -/
  | receive_error (error : EspTwaiError) (reading : CanReading)
  /-- or the tick of `health_ticker`. -/
  | health_tick (registers : Registers) (reading : CanReading)
  /-- `sd_write_task` takes a record. -/
  | raw_can_log_receive
  /-- An iteration of `recovery_power_cache_task`. -/
  | power_tick (now_ms : Nat)
  /-- The end of an iteration of the LoRa task. -/
  | clear_event_flags (flags : UInt16) (revision : UInt32)
  deriving DecidableEq

/-- Before the loop. `IS_CAN_ERROR` is set from the beginning. -/
def start (registers : Registers) : CanCommunicationTask where
  path := .start
  runtime_state := .AwaitingTraffic
  recovering := none
  consecutive_tx_errors := 0
  consecutive_rx_errors := 0
  observed := .new
  health_ticks := 0
  status :=
    { can_tec := registers.transmit_error_count
      can_rec := registers.receive_error_count
      can_health := registers.health
      can_fallback_health := fallback_health_code .AwaitingTraffic registers.health
      is_can_error := true }
  can_tx_success_count := 0
  can_tx_error_count := 0
  can_rx_success_count := 0
  can_rx_error_count := 0
  raw_can_log_channel := .empty
  raw_can_log_dropped_count := 0
  device_health :=
    { mission_device_health_sequence := 0
      mission_icm42688_state := 0
      mission_as5047d_state := 0
      mission_lps25hb_state := 0
      mission_ssc_state := 0
      mission_sd_state := 0 }
  recovery_enter_sent := false
  mission_status_invalid_at_ms := 0
  power_task := .new

/-! ## The end of an iteration -/

def error_state (w : CanCommunicationTask) (reading : CanReading) : Bool :=
  let mission_status_fresh :=
    w.path.state.can_cache.mission_status.freshness reading.now_ms FRESHNESS_10_HZ_MS = .Fresh
  w.runtime_state ≠ .Normal ∨ reading.registers.health ≠ .Active ∨
    w.consecutive_tx_errors ≥ CAN_CONSECUTIVE_ERROR_THRESHOLD ∨
      w.consecutive_rx_errors ≥ CAN_CONSECUTIVE_ERROR_THRESHOLD ∨ ¬ mission_status_fresh

def publish (w : CanCommunicationTask) (reading : CanReading) : CanCommunicationTask × List CanReport :=
  let status : CanStatus :=
    { can_tec := reading.registers.transmit_error_count
      can_rec := reading.registers.receive_error_count
      can_health := reading.registers.health
      can_fallback_health := fallback_health_code w.runtime_state reading.registers.health
      is_can_error := w.error_state reading }
  ({ w with status }, [.published reading status])

/-- An iteration that is not over publishes nothing. -/
def finish (w : CanCommunicationTask) (reading : CanReading) : CanCommunicationTask × List CanReport :=
  match w.path.can with
  | .Select => w.publish reading
  | _ => (w, [])

/-! ## Transmission -/

def enter_recovering (w : CanCommunicationTask) (event : CanRuntimeEvent) :
    CanCommunicationTask × List CanReport :=
  let (runtime_state, restart_required) := transition_runtime w.runtime_state event
  ({ w with runtime_state }, if restart_required then [.restarted] else [])

/-- `if matches!(error, ..)` -/
def recover (w : CanCommunicationTask) : Option CanRuntimeEvent →
    CanCommunicationTask × List CanReport
  | none => (w, [])
  | some event => w.enter_recovering event

def transmit_succeeded (w : CanCommunicationTask) : CanCommunicationTask :=
  { w with
    can_tx_success_count := w.can_tx_success_count + 1
    consecutive_tx_errors := 0
    runtime_state := (transition_runtime w.runtime_state .TransmitSucceeded).1 }

/-- The driver is looked after when the failure is. -/
def transmit_failed (w : CanCommunicationTask) (error : CanTxError) :
    CanCommunicationTask × List CanReport :=
  let w := { w with
    can_tx_error_count := w.can_tx_error_count + 1
    consecutive_tx_errors := u8_saturating_add w.consecutive_tx_errors 1 }
  match w.path.can with
  | .LockFailed _ => ({ w with recovering := error.event }, [])
  | _ => w.recover error.event

def step_transmitted (w : CanCommunicationTask) (message : CanTxMessage)
    (transmission : Transmission) : CanCommunicationTask × List CanReport :=
  match transmit_message_with_timeout message transmission with
  | none =>
    ({ w with path := (w.path.step_transmitted message true).1 }.transmit_succeeded,
      [.attempted message none])
  | some error =>
    let (w, reports) :=
      { w with path := (w.path.step_transmitted message false).1 }.transmit_failed error
    (w, .attempted message (some error) :: reports)

/-! ## Reception -/

def count_rx_error (w : CanCommunicationTask) : CanCommunicationTask :=
  { w with can_rx_error_count := w.can_rx_error_count + 1 }

/-- `RAW_CAN_LOG_CHANNEL.try_send(raw)` -/
def log_raw (w : CanCommunicationTask) (raw : RawCanRecord) : CanCommunicationTask :=
  match w.raw_can_log_channel.try_send raw with
  | some raw_can_log_channel => { w with raw_can_log_channel }
  | none => { w with raw_can_log_dropped_count := w.raw_can_log_dropped_count + 1 }

def receive_mode (w : CanCommunicationTask) (data : List UInt8) : CanCommunicationTask :=
  match (w.path.state.handle_recovery_mode_command data).2 with
  | some _ =>
    { w with
      path := { w.path with state := w.path.state.recovery_mode_frame data }
      recovery_enter_sent := true }
  | none => w.count_rx_error

def receive_device_health (w : CanCommunicationTask) (data : List UInt8) : CanCommunicationTask :=
  match decode_device_health data with
  | some health => { w with device_health := cache_device_health health }
  | none => w.count_rx_error

def receive_message (w : CanCommunicationTask) (identifier : UInt16) (data : List UInt8)
    (received_at_ms : UInt64) : CanCommunicationTask :=
  match CanRxMessage.decode_standard identifier data with
  | .ok message =>
    { w with
      path := (w.path.step_received message received_at_ms.toNat).1
      mission_status_invalid_at_ms :=
        if identifier = 0x102 then 0 else w.mission_status_invalid_at_ms }
  | .error _ =>
    { w with
      mission_status_invalid_at_ms :=
        if identifier = 0x102 then max (.ofNat (min received_at_ms.toNat 0xffffffff)) 1
        else w.mission_status_invalid_at_ms }.count_rx_error

def handle_received_frame (w : CanCommunicationTask) (frame : CanFrame) (received_at_ms : UInt64) :
    CanCommunicationTask :=
  match frame.id with
  | .Extended _ => w.count_rx_error
  | .Standard identifier =>
    let w := w.log_raw (frame.raw identifier received_at_ms)
    if identifier = 0x014 then w.receive_mode frame.data
    else if identifier = CAN_ID_DEVICE_HEALTH then w.receive_device_health frame.data
    else w.receive_message identifier frame.data received_at_ms

def observe (w : CanCommunicationTask) (frame : CanFrame) : CanCommunicationTask :=
  match frame.id with
  | .Standard id => { w with observed := w.observed.observe id frame.data }
  | .Extended _ => w

def step_received (w : CanCommunicationTask) (frame : CanFrame) (received_at_ms : UInt64) :
    CanCommunicationTask :=
  let w := w.observe frame
  { w with
    can_rx_success_count := w.can_rx_success_count + 1
    consecutive_rx_errors := 0
    runtime_state := (transition_runtime w.runtime_state .ReceiveSucceeded).1
  }.handle_received_frame frame received_at_ms

def step_receive_error (w : CanCommunicationTask) (error : EspTwaiError) :
    CanCommunicationTask × List CanReport :=
  let w := { w.count_rx_error with
    consecutive_rx_errors := u8_saturating_add w.consecutive_rx_errors 1 }
  let (w, reports) := w.recover (if error = .BusOff then some .BusOff else none)
  (w, .receive_error error :: reports)

/-- The observed counts are printed at every hundredth tick. -/
def step_health_tick (w : CanCommunicationTask) (registers : Registers) :
    CanCommunicationTask × List CanReport :=
  let health_ticks := u8_saturating_add w.health_ticks 1
  let health := registers.health
  let w := { w with
    health_ticks := if health_ticks = 100 then 0 else health_ticks
    status := { w.status with
      can_tec := registers.transmit_error_count
      can_rec := registers.receive_error_count
      can_health := health } }
  let (w, reports) := w.recover (if health = .BusOff then some .BusOff else none)
  (w, .health_tick health :: reports)

/-! ## Steps -/

/-- The end of the iteration, if it is the end, behind what the arm has done. -/
def finished (r : CanCommunicationTask × List CanReport) (reading : CanReading) :
    CanCommunicationTask × List CanReport :=
  let (w, reports) := r.1.finish reading
  (w, r.2 ++ reports)

/-- The steps of `CommandPath` that the task does not make through an arm of its own. -/
def beside : CommandPath.Action → Bool
  | .can_transmitted _ | .can_receive _ _ | .can_receive_mode _ | .can_lock => false
  | _ => true

/-- The task waits in its `select3` and has nothing to send. -/
def idle (w : CanCommunicationTask) : Bool := w.path.can = .Select ∧ w.path.no_message

def set_cache (w : CanCommunicationTask) (can_cache : CanCache) : CanCommunicationTask :=
  { w with path := { w.path with state := { w.path.state with can_cache } } }

def step (w : CanCommunicationTask) : Action → Option (CanCommunicationTask × List CanReport)
  | .path action =>
    if beside action then (w.path.step action).map fun (path, _) => ({ w with path }, []) else none
  | .transmitted transmission reading =>
    match w.path.can with
    | .Transmit message => some (finished (w.step_transmitted message transmission) reading)
    | _ => none
  | .lock reading =>
    (w.path.step .can_lock).map fun (path, _) =>
      finished ({ w with path, recovering := none }.recover w.recovering) reading
  | .received frame received_at_ms reading =>
    if w.idle then
      some (finished (w.step_received frame received_at_ms, [.received frame received_at_ms])
        reading)
    else none
  | .receive_error error reading =>
    if w.idle then some (finished (w.step_receive_error error) reading) else none
  | .health_tick registers reading =>
    if w.path.can = .Select then some (finished (w.step_health_tick registers) reading) else none
  | .raw_can_log_receive =>
    w.raw_can_log_channel.try_receive.map fun (record, raw_can_log_channel) =>
      ({ w with raw_can_log_channel }, [.raw_can_log_received record])
  | .power_tick now_ms =>
    let (power_task, can_cache) :=
      w.power_task.iteration w.path.state.recovery_beacon_active now_ms w.path.state.can_cache
    some ({ w with power_task }.set_cache can_cache, [.power_tick now_ms])
  | .clear_event_flags flags revision =>
    some (w.set_cache (w.path.state.can_cache.clear_event_flags flags revision),
      [.clear_event_flags flags revision])

def machine : Machine CanCommunicationTask Action CanReport where
  start w := ∃ registers, w = start registers
  step := step

end CanCommunicationTask

end Comboard
