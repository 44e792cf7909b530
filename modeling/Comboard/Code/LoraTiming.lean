import Comboard.Code.Scheduler
import Mathlib.Data.UInt

/-! # `lora_timing.rs`: how long the parts of a transmission take -/

namespace Comboard

open Lib

def SAMPLES_PER_REPORT : UInt32 := 10
abbrev SOURCE_COUNT : Nat := 5

def source_index : LoRaTxSource → Fin SOURCE_COUNT
  | .EmergencyResult => 0
  | .CommandResult => 1
  | .GroundTimeRequest => 2
  | .Recovery => 3
  | .Periodic => 4

abbrev METRIC_COUNT : Nat := 15

def REQUEST_INTERVAL : Fin METRIC_COUNT := 0
def REQUEST_TO_WRITE_START : Fin METRIC_COUNT := 1
def QUEUE_WAIT : Fin METRIC_COUNT := 2
def INITIAL_AUX_WAIT : Fin METRIC_COUNT := 3
def RX_GUARD_WAIT : Fin METRIC_COUNT := 4
def POST_GUARD_AUX_WAIT : Fin METRIC_COUNT := 5
def UART_WRITE : Fin METRIC_COUNT := 6
def UART_FLUSH : Fin METRIC_COUNT := 7
def FLUSH_TO_AUX_LOW : Fin METRIC_COUNT := 8
def AUX_LOW_DURATION : Fin METRIC_COUNT := 9
def FLUSH_TO_TX_COMPLETE : Fin METRIC_COUNT := 10
def TX_TOTAL : Fin METRIC_COUNT := 11
def WRITE_START_INTERVAL : Fin METRIC_COUNT := 12
def TX_COMPLETE_INTERVAL : Fin METRIC_COUNT := 13
def IDLE_GAP : Fin METRIC_COUNT := 14

structure TxTimingTrace where
  source : LoRaTxSource
  requested_at_us : UInt64
  transmit_started_at_us : Option UInt64
  initial_aux_ready_at_us : Option UInt64
  rx_guard_done_at_us : Option UInt64
  post_guard_aux_ready_at_us : Option UInt64
  uart_write_started_at_us : Option UInt64
  uart_write_finished_at_us : Option UInt64
  uart_flush_finished_at_us : Option UInt64
  aux_low_at_us : Option UInt64
  aux_high_at_us : Option UInt64
  completed_at_us : Option UInt64
  aux_low_not_observed : Bool
  periodic_missed_slots : UInt32
  deriving DecidableEq

def TxTimingTrace.new (requested_at_us : UInt64) (source : LoRaTxSource) : TxTimingTrace where
  source
  requested_at_us
  transmit_started_at_us := none
  initial_aux_ready_at_us := none
  rx_guard_done_at_us := none
  post_guard_aux_ready_at_us := none
  uart_write_started_at_us := none
  uart_write_finished_at_us := none
  uart_flush_finished_at_us := none
  aux_low_at_us := none
  aux_high_at_us := none
  completed_at_us := none
  aux_low_not_observed := false
  periodic_missed_slots := 0

/-- The trace of the envelope that takes the place of a prepared one. -/
def reselect_prepared_trace (prepared : TxTimingTrace) (requested_at_us : UInt64)
    (source : LoRaTxSource) : TxTimingTrace :=
  let floor (timestamp : Option UInt64) : Option UInt64 :=
    timestamp.map fun value => max value requested_at_us
  { TxTimingTrace.new requested_at_us source with
    transmit_started_at_us := some requested_at_us
    initial_aux_ready_at_us := floor prepared.initial_aux_ready_at_us
    rx_guard_done_at_us := floor prepared.rx_guard_done_at_us
    post_guard_aux_ready_at_us := floor prepared.post_guard_aux_ready_at_us }

/-! ## One metric -/

structure MetricSummary where
  count : UInt32
  min : UInt64
  max : UInt64
  average : UInt64
  deriving DecidableEq

structure MetricStats where
  count : UInt32
  min : UInt64
  max : UInt64
  total : UInt64
  deriving DecidableEq

namespace MetricStats

def new : MetricStats where
  count := 0
  min := 0xffffffffffffffff
  max := 0
  total := 0

def record (self : MetricStats) (value : UInt64) : MetricStats where
  count := saturating_add self.count 1
  min := Min.min self.min value
  max := Max.max self.max value
  total := u64_saturating_add self.total value

def summary (self : MetricStats) : MetricSummary :=
  if self.count = 0 then { count := 0, min := 0, max := 0, average := 0 }
  else
    { count := self.count
      min := self.min
      max := self.max
      average := self.total / self.count.toUInt64 }

end MetricStats

/-! ## The collector -/

structure TimingReport where
  metrics : Vector MetricSummary METRIC_COUNT
  source_samples : Vector UInt32 SOURCE_COUNT
  source_tx_total : Vector MetricSummary SOURCE_COUNT
  emergency_queue_wait : MetricSummary
  aux_low_not_observed : UInt32
  invalid_timestamp_count : UInt32
  periodic_missed_slots : UInt32
  deriving DecidableEq

/-- `source_samples.iter().sum()` -/
def TimingReport.sample_count (self : TimingReport) : UInt32 := self.source_samples.toList.sum

/-- The fields that `reset_window` leaves. -/
structure CarriedTimestamps where
  previous_requested_at_us : Vector (Option UInt64) SOURCE_COUNT
  previous_write_started_at_us : Option UInt64
  previous_completed_at_us : Option UInt64
  deriving DecidableEq

structure TimingCollector extends CarriedTimestamps where
  metrics : Vector MetricStats METRIC_COUNT
  source_samples : Vector UInt32 SOURCE_COUNT
  source_tx_total : Vector MetricStats SOURCE_COUNT
  emergency_queue_wait : MetricStats
  sample_count : UInt32
  aux_low_not_observed : UInt32
  invalid_timestamp_count : UInt32
  periodic_missed_slots : UInt32
  deriving DecidableEq

namespace TimingCollector

def new : TimingCollector where
  metrics := .replicate _ .new
  source_samples := .replicate _ 0
  source_tx_total := .replicate _ .new
  emergency_queue_wait := .new
  previous_requested_at_us := .replicate _ none
  previous_write_started_at_us := none
  previous_completed_at_us := none
  sample_count := 0
  aux_low_not_observed := 0
  invalid_timestamp_count := 0
  periodic_missed_slots := 0

def record_delta (self : TimingCollector) (metric : Fin METRIC_COUNT)
    (later earlier : Option UInt64) : TimingCollector :=
  match later, earlier with
  | some later, some earlier =>
    match u64_checked_sub later earlier with
    | some delta => { self with metrics := self.metrics.set metric (self.metrics[metric].record delta) }
    | none =>
      { self with invalid_timestamp_count := saturating_add self.invalid_timestamp_count 1 }
  | _, _ => self

def record_source_delta (self : TimingCollector) (source_index : Fin SOURCE_COUNT)
    (later earlier : UInt64) : TimingCollector :=
  match u64_checked_sub later earlier with
  | some delta =>
    { self with
      source_tx_total :=
        self.source_tx_total.set source_index (self.source_tx_total[source_index].record delta) }
  | none => { self with invalid_timestamp_count := saturating_add self.invalid_timestamp_count 1 }

def record_emergency_queue_delta (self : TimingCollector) (later earlier : UInt64) :
    TimingCollector :=
  match u64_checked_sub later earlier with
  | some delta => { self with emergency_queue_wait := self.emergency_queue_wait.record delta }
  | none => { self with invalid_timestamp_count := saturating_add self.invalid_timestamp_count 1 }

def reset_window (self : TimingCollector) : TimingCollector :=
  { self with
    metrics := .replicate _ .new
    source_samples := .replicate _ 0
    source_tx_total := .replicate _ .new
    emergency_queue_wait := .new
    sample_count := 0
    aux_low_not_observed := 0
    invalid_timestamp_count := 0
    periodic_missed_slots := 0 }

/-- The counters at the head of `record`. -/
def count_sample (self : TimingCollector) (trace : TxTimingTrace) : TimingCollector :=
  let source_index := source_index trace.source
  { self with
    sample_count := saturating_add self.sample_count 1
    source_samples :=
      self.source_samples.set source_index (saturating_add self.source_samples[source_index] 1)
    periodic_missed_slots :=
      saturating_add self.periodic_missed_slots trace.periodic_missed_slots
    aux_low_not_observed :=
      if trace.aux_low_not_observed then saturating_add self.aux_low_not_observed 1
      else self.aux_low_not_observed }

/-- `if let (Some(completed), Some(started))` -/
def record_source (self : TimingCollector) (trace : TxTimingTrace) : TimingCollector :=
  match trace.completed_at_us, trace.transmit_started_at_us with
  | some completed, some started =>
    self.record_source_delta (source_index trace.source) completed started
  | _, _ => self

/-- `if trace.source == LoRaTxSource::EmergencyResult && let (Some(write_started), requested)` -/
def record_emergency (self : TimingCollector) (trace : TxTimingTrace) : TimingCollector :=
  match trace.uart_write_started_at_us with
  | some write_started =>
    if trace.source = .EmergencyResult then
      self.record_emergency_queue_delta write_started trace.requested_at_us
    else self
  | none => self

/-- `record` up to its check of the sample count. -/
def record_trace (self : TimingCollector) (trace : TxTimingTrace) : TimingCollector :=
  let source_index := source_index trace.source
  let c := self.count_sample trace
  let c := c.record_delta REQUEST_INTERVAL (some trace.requested_at_us)
    c.previous_requested_at_us[source_index]
  let c := { c with
    previous_requested_at_us :=
      c.previous_requested_at_us.set source_index (some trace.requested_at_us) }
  let c := c.record_delta REQUEST_TO_WRITE_START trace.uart_write_started_at_us
    (some trace.requested_at_us)
  let c := c.record_delta QUEUE_WAIT trace.transmit_started_at_us (some trace.requested_at_us)
  let c := c.record_delta INITIAL_AUX_WAIT trace.initial_aux_ready_at_us trace.transmit_started_at_us
  let c := c.record_delta RX_GUARD_WAIT trace.rx_guard_done_at_us trace.initial_aux_ready_at_us
  let c := c.record_delta POST_GUARD_AUX_WAIT trace.post_guard_aux_ready_at_us
    trace.rx_guard_done_at_us
  let c := c.record_delta UART_WRITE trace.uart_write_finished_at_us trace.uart_write_started_at_us
  let c := c.record_delta UART_FLUSH trace.uart_flush_finished_at_us trace.uart_write_finished_at_us
  let c := c.record_delta FLUSH_TO_AUX_LOW trace.aux_low_at_us trace.uart_flush_finished_at_us
  let c := c.record_delta AUX_LOW_DURATION trace.aux_high_at_us trace.aux_low_at_us
  let c := c.record_delta FLUSH_TO_TX_COMPLETE trace.completed_at_us trace.uart_flush_finished_at_us
  let c := c.record_delta TX_TOTAL trace.completed_at_us trace.transmit_started_at_us
  let c := c.record_delta WRITE_START_INTERVAL trace.uart_write_started_at_us
    c.previous_write_started_at_us
  let c := { c with
    previous_write_started_at_us :=
      if trace.uart_write_started_at_us.isSome then trace.uart_write_started_at_us
      else c.previous_write_started_at_us }
  let c := c.record_delta TX_COMPLETE_INTERVAL trace.completed_at_us c.previous_completed_at_us
  let c := c.record_delta IDLE_GAP trace.uart_write_started_at_us c.previous_completed_at_us
  let c := { c with
    previous_completed_at_us :=
      if trace.completed_at_us.isSome then trace.completed_at_us else c.previous_completed_at_us }
  let c := c.record_source trace
  c.record_emergency trace

def report (self : TimingCollector) : TimingReport where
  metrics := self.metrics.map MetricStats.summary
  source_samples := self.source_samples
  source_tx_total := self.source_tx_total.map MetricStats.summary
  emergency_queue_wait := self.emergency_queue_wait.summary
  aux_low_not_observed := self.aux_low_not_observed
  invalid_timestamp_count := self.invalid_timestamp_count
  periodic_missed_slots := self.periodic_missed_slots

def record (self : TimingCollector) (trace : TxTimingTrace) :
    TimingCollector × Option TimingReport :=
  let c := self.record_trace trace
  if c.sample_count < SAMPLES_PER_REPORT then (c, none) else (c.reset_window, some c.report)

end TimingCollector

end Comboard
