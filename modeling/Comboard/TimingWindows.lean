import Comboard.Code.LoraTiming
import Comboard.Lib.Counters
import Mathlib.Algebra.Order.BigOperators.Group.List
import Mathlib.Algebra.Order.Group.Nat
import Mathlib.Data.List.Induction
import Mathlib.Tactic.SplitIfs

/-!
# The windows of the timing report

A trace gives seventeen pairs of timestamps at most. A report tallies the pairs of its ten traces, and
only the carried timestamps reach from one window into the next.
-/

namespace Comboard.TimingWindows

open Lib TimingCollector

/-! ## The pairs of a trace -/

/-- Where a pair is counted. -/
inductive Slot where
  | metric (index : Fin METRIC_COUNT)
  | source (index : Fin SOURCE_COUNT)
  | emergency
  deriving DecidableEq

structure Pair where
  slot : Slot
  later : Option UInt64
  earlier : Option UInt64

namespace Pair

def delta (p : Pair) : Option UInt64 :=
  match p.later, p.earlier with
  | some later, some earlier => u64_checked_sub later earlier
  | _, _ => none

/-- Both timestamps are there. -/
def present (p : Pair) : Bool := p.later.isSome && p.earlier.isSome

/-- Both are there, and in order. -/
def ordered (p : Pair) : Bool :=
  match p.later, p.earlier with
  | some later, some earlier => earlier ≤ later
  | _, _ => false

def inverted (p : Pair) : Bool :=
  match p.later, p.earlier with
  | some later, some earlier => later < earlier
  | _, _ => false

end Pair

def pairs (carried : CarriedTimestamps) (trace : TxTimingTrace) : List Pair := [
  ⟨.metric REQUEST_INTERVAL, some trace.requested_at_us,
    carried.previous_requested_at_us.get (source_index trace.source)⟩,
  ⟨.metric REQUEST_TO_WRITE_START, trace.uart_write_started_at_us, some trace.requested_at_us⟩,
  ⟨.metric QUEUE_WAIT, trace.transmit_started_at_us, some trace.requested_at_us⟩,
  ⟨.metric INITIAL_AUX_WAIT, trace.initial_aux_ready_at_us, trace.transmit_started_at_us⟩,
  ⟨.metric RX_GUARD_WAIT, trace.rx_guard_done_at_us, trace.initial_aux_ready_at_us⟩,
  ⟨.metric POST_GUARD_AUX_WAIT, trace.post_guard_aux_ready_at_us, trace.rx_guard_done_at_us⟩,
  ⟨.metric UART_WRITE, trace.uart_write_finished_at_us, trace.uart_write_started_at_us⟩,
  ⟨.metric UART_FLUSH, trace.uart_flush_finished_at_us, trace.uart_write_finished_at_us⟩,
  ⟨.metric FLUSH_TO_AUX_LOW, trace.aux_low_at_us, trace.uart_flush_finished_at_us⟩,
  ⟨.metric AUX_LOW_DURATION, trace.aux_high_at_us, trace.aux_low_at_us⟩,
  ⟨.metric FLUSH_TO_TX_COMPLETE, trace.completed_at_us, trace.uart_flush_finished_at_us⟩,
  ⟨.metric TX_TOTAL, trace.completed_at_us, trace.transmit_started_at_us⟩,
  ⟨.metric WRITE_START_INTERVAL, trace.uart_write_started_at_us,
    carried.previous_write_started_at_us⟩,
  ⟨.metric TX_COMPLETE_INTERVAL, trace.completed_at_us, carried.previous_completed_at_us⟩,
  ⟨.metric IDLE_GAP, trace.uart_write_started_at_us, carried.previous_completed_at_us⟩,
  ⟨.source (source_index trace.source), trace.completed_at_us, trace.transmit_started_at_us⟩,
  ⟨.emergency, if trace.source = .EmergencyResult then trace.uart_write_started_at_us else none,
    some trace.requested_at_us⟩]

/-- The timestamps that the next trace sees. -/
def carry (carried : CarriedTimestamps) (trace : TxTimingTrace) : CarriedTimestamps :=
  let index := source_index trace.source
  { previous_requested_at_us :=
      carried.previous_requested_at_us.set index (some trace.requested_at_us) index.isLt
    previous_write_started_at_us :=
      trace.uart_write_started_at_us.or carried.previous_write_started_at_us
    previous_completed_at_us := trace.completed_at_us.or carried.previous_completed_at_us }

/-- The pairs of some traces in a row. -/
def pairs_of (carried : CarriedTimestamps) : List TxTimingTrace → List Pair
  | [] => []
  | trace :: rest => pairs carried trace ++ pairs_of (carry carried trace) rest

/-! ## One trace -/

def put (c : TimingCollector) (delta : UInt64) : Slot → TimingCollector
  | .metric index =>
    { c with metrics := c.metrics.set index ((c.metrics.get index).record delta) index.isLt }
  | .source index =>
    { c with
      source_tx_total :=
        c.source_tx_total.set index ((c.source_tx_total.get index).record delta) index.isLt }
  | .emergency => { c with emergency_queue_wait := c.emergency_queue_wait.record delta }

/-- What the three `record_..delta` do with a pair. -/
def tally (c : TimingCollector) (p : Pair) : TimingCollector :=
  match p.delta with
  | some delta => put c delta p.slot
  | none =>
    if p.present then
      { c with invalid_timestamp_count := saturating_add c.invalid_timestamp_count 1 }
    else c

theorem record_delta_eq (c : TimingCollector) (metric : Fin METRIC_COUNT)
    (later earlier : Option UInt64) :
    c.record_delta metric later earlier = tally c ⟨.metric metric, later, earlier⟩ := by
  unfold record_delta tally Pair.delta
  cases later <;> cases earlier <;> rfl

theorem record_source_eq (c : TimingCollector) (trace : TxTimingTrace) :
    c.record_source trace = tally c
      ⟨.source (source_index trace.source), trace.completed_at_us, trace.transmit_started_at_us⟩ := by
  unfold record_source record_source_delta tally Pair.delta
  cases trace.completed_at_us <;> cases trace.transmit_started_at_us <;> rfl

theorem record_emergency_eq (c : TimingCollector) (trace : TxTimingTrace) :
    c.record_emergency trace = tally c
      ⟨.emergency, if trace.source = .EmergencyResult then trace.uart_write_started_at_us else none,
        some trace.requested_at_us⟩ := by
  unfold record_emergency record_emergency_queue_delta tally Pair.delta
  by_cases hsource : trace.source = .EmergencyResult
  · simp only [if_pos hsource]
    cases trace.uart_write_started_at_us <;> rfl
  · simp only [if_neg hsource]
    cases trace.uart_write_started_at_us <;> rfl

def withCarried (c : TimingCollector) (carried : CarriedTimestamps) : TimingCollector :=
  { c with toCarriedTimestamps := carried }

/-- A tally does not look at the carried timestamps. -/
theorem tally_withCarried (c : TimingCollector) (carried : CarriedTimestamps) (p : Pair) :
    tally (withCarried c carried) p = withCarried (tally c p) carried := by
  unfold tally
  cases hdelta : p.delta with
  | none =>
    dsimp only
    split <;> rfl
  | some delta =>
    dsimp only
    cases p.slot <;> rfl

theorem tally_keeps (c : TimingCollector) (p : Pair) :
    (tally c p).toCarriedTimestamps = c.toCarriedTimestamps := by
  unfold tally
  cases p.delta with
  | none =>
    dsimp only
    split <;> rfl
  | some delta =>
    dsimp only
    cases p.slot <;> rfl

theorem withCarried_fold (c : TimingCollector) (carried : CarriedTimestamps) :
    TimingCollector.mk carried c.metrics c.source_samples c.source_tx_total c.emergency_queue_wait
      c.sample_count c.aux_low_not_observed c.invalid_timestamp_count c.periodic_missed_slots =
    withCarried c carried := rfl

theorem withCarried_carried (c : TimingCollector) (carried : CarriedTimestamps) :
    (withCarried c carried).toCarriedTimestamps = carried := rfl

theorem withCarried_twice (c : TimingCollector) (carried carried' : CarriedTimestamps) :
    withCarried (withCarried c carried) carried' = withCarried c carried' := rfl

theorem record_trace_eq (c : TimingCollector) (trace : TxTimingTrace) :
    c.record_trace trace =
      withCarried ((pairs c.toCarriedTimestamps trace).foldl tally (c.count_sample trace))
        (carry c.toCarriedTimestamps trace) := by
  unfold record_trace
  simp only [record_source_eq, record_emergency_eq, record_delta_eq, withCarried_fold,
    withCarried_carried, withCarried_twice, tally_withCarried, tally_keeps]
  have hcounted : (c.count_sample trace).toCarriedTimestamps = c.toCarriedTimestamps := rfl
  have hor (a b : Option UInt64) : (if a.isSome then a else b) = a.or b := by cases a <;> rfl
  simp only [hcounted, hor]
  rfl

/-! ## What the accumulators hold -/

def stats (c : TimingCollector) : Slot → MetricStats
  | .metric index => c.metrics.get index
  | .source index => c.source_tx_total.get index
  | .emergency => c.emergency_queue_wait

/-- The differences that a slot gets. -/
def deltas (slot : Slot) (found : List Pair) : List UInt64 :=
  (found.filter (·.slot = slot)).filterMap Pair.delta

theorem stats_put (c : TimingCollector) (delta : UInt64) (at_slot slot : Slot) :
    stats (put c delta at_slot) slot =
      if at_slot = slot then (stats c slot).record delta else stats c slot := by
  cases at_slot with
  | metric index =>
    cases slot with
    | metric index' => by_cases h : index = index' <;> simp [stats, put, get_set, h]
    | source | emergency => simp [stats, put]
  | source index =>
    cases slot with
    | source index' => by_cases h : index = index' <;> simp [stats, put, get_set, h]
    | metric | emergency => simp [stats, put]
  | emergency => cases slot <;> simp [stats, put]

theorem stats_tally (c : TimingCollector) (p : Pair) (slot : Slot) :
    stats (tally c p) slot = (deltas slot [p]).foldl MetricStats.record (stats c slot) := by
  unfold tally deltas
  cases hdelta : p.delta with
  | none =>
    have hkept : stats (if p.present then
        { c with invalid_timestamp_count := saturating_add c.invalid_timestamp_count 1 } else c) slot =
        stats c slot := by
      split
      · cases slot <;> rfl
      · rfl
    by_cases h : p.slot = slot <;> simp [h, hdelta, hkept]
  | some delta => by_cases h : p.slot = slot <;> simp [h, hdelta, stats_put]

theorem deltas_append (slot : Slot) (found more : List Pair) :
    deltas slot (found ++ more) = deltas slot found ++ deltas slot more := by
  unfold deltas
  rw [List.filter_append, List.filterMap_append]

theorem stats_tallies (c : TimingCollector) (found : List Pair) (slot : Slot) :
    stats (found.foldl tally c) slot =
      (deltas slot found).foldl MetricStats.record (stats c slot) := by
  induction found generalizing c with
  | nil => rfl
  | cons p rest ih =>
    have hsplit : deltas slot (p :: rest) = deltas slot [p] ++ deltas slot rest :=
      deltas_append slot [p] rest
    rw [List.foldl_cons, ih, stats_tally, hsplit, List.foldl_append]

/-- A pair that is there is in order or inverted. -/
theorem delta_spec (p : Pair) :
    p.delta.isSome = p.ordered ∧ (p.present && p.delta.isNone) = p.inverted ∧
      p.present = (p.ordered != p.inverted) := by
  obtain ⟨slot, later, earlier⟩ := p
  unfold Pair.delta Pair.ordered Pair.inverted Pair.present
  cases later <;> cases earlier <;> try simp
  rename_i later earlier
  unfold u64_checked_sub
  by_cases h : earlier ≤ later
  · simp [h, UInt64.not_lt.mpr h]
  · simp [h, UInt64.not_le.mp h]

theorem tally_samples (c : TimingCollector) (p : Pair) :
    (tally c p).sample_count = c.sample_count ∧ (tally c p).source_samples = c.source_samples := by
  unfold tally
  cases p.delta with
  | none =>
    dsimp only
    split <;> exact ⟨rfl, rfl⟩
  | some delta =>
    dsimp only
    cases p.slot <;> exact ⟨rfl, rfl⟩

theorem tallies_samples (c : TimingCollector) (found : List Pair) :
    (found.foldl tally c).sample_count = c.sample_count ∧
      (found.foldl tally c).source_samples = c.source_samples := by
  induction found generalizing c with
  | nil => exact ⟨rfl, rfl⟩
  | cons p rest ih =>
    rw [List.foldl_cons, (ih _).1, (ih _).2]
    exact tally_samples c p

theorem tally_invalid (c : TimingCollector) (p : Pair) :
    (tally c p).invalid_timestamp_count =
      if p.inverted then saturating_add c.invalid_timestamp_count 1 else c.invalid_timestamp_count := by
  rw [← (delta_spec p).2.1]
  unfold tally
  cases p.delta with
  | none =>
    dsimp only
    cases p.present <;> rfl
  | some delta =>
    dsimp only
    rw [Option.isNone_some, Bool.and_false]
    cases p.slot <;> rfl

theorem tallies_invalid (c : TimingCollector) (found : List Pair) :
    (found.foldl tally c).invalid_timestamp_count.toNat =
      min (c.invalid_timestamp_count.toNat + (found.filter Pair.inverted).length) 0xffffffff := by
  have hlt := c.invalid_timestamp_count.toNat_lt
  induction found generalizing c with
  | nil =>
    simp only [List.foldl_nil, List.filter_nil, List.length_nil]
    omega
  | cons p rest ih =>
    rw [List.foldl_cons, ih _ (UInt32.toNat_lt _), tally_invalid]
    have hone : (1 : UInt32).toNat = 1 := rfl
    cases hp : p.inverted
    · simp [hp]
    · simp only [if_true, saturating_add_toNat, hone, List.filter_cons, hp, List.length_cons]
      omega

/-! ## One metric -/

theorem record_bounds (s : MetricStats) (value : UInt64) :
    ((s.record value).min ≤ s.min ∧ (s.record value).min ≤ value) ∧
      s.max ≤ (s.record value).max ∧ value ≤ (s.record value).max := by
  have hmin : (s.record value).min = if s.min ≤ value then s.min else value := rfl
  have hmax : (s.record value).max = if s.max ≤ value then value else s.max := rfl
  rw [hmin, hmax]
  simp only [UInt64.le_iff_toNat_le]
  split_ifs <;> omega

theorem u64_saturating_add_toNat (a b : UInt64) :
    (u64_saturating_add a b).toNat = min (a.toNat + b.toNat) U64_MAX := by
  have hU64_MAX : U64_MAX = 2 ^ 64 - 1 := rfl
  unfold u64_saturating_add
  rw [UInt64.toNat_ofNat', Nat.mod_eq_of_lt (by omega)]

theorem record_count (s : MetricStats) (values : List UInt64) :
    (values.foldl MetricStats.record s).count.toNat =
      min (s.count.toNat + values.length) 0xffffffff := by
  induction values generalizing s with
  | nil =>
    have hcount := s.count.toNat_lt
    rw [List.foldl_nil, List.length_nil]
    omega
  | cons value rest ih =>
    have hone : (1 : UInt32).toNat = 1 := rfl
    have hcounted : (s.record value).count = saturating_add s.count 1 := rfl
    rw [List.foldl_cons, ih, hcounted, saturating_add_toNat, hone, List.length_cons]
    omega

theorem record_total (s : MetricStats) (values : List UInt64) :
    (values.foldl MetricStats.record s).total.toNat =
      min (s.total.toNat + (values.map UInt64.toNat).sum) U64_MAX := by
  induction values generalizing s with
  | nil =>
    have htotal : s.total.toNat ≤ U64_MAX := Nat.le_of_lt_succ s.total.toNat_lt
    rw [List.foldl_nil, List.map_nil, List.sum_nil, Nat.add_zero, Nat.min_eq_left htotal]
  | cons value rest ih =>
    have hadded : (s.record value).total = u64_saturating_add s.total value := rfl
    rw [List.foldl_cons, ih, hadded, u64_saturating_add_toNat, List.map_cons, List.sum_cons]
    generalize U64_MAX = most
    omega

theorem record_min (s : MetricStats) (values : List UInt64) :
    (values.foldl MetricStats.record s).min ≤ s.min ∧
      ∀ value ∈ values, (values.foldl MetricStats.record s).min ≤ value := by
  induction values generalizing s with
  | nil => exact ⟨UInt64.le_refl _, nofun⟩
  | cons value rest ih =>
    obtain ⟨hmin, hrest⟩ := ih (s.record value)
    obtain ⟨⟨hbefore, hvalue⟩, -⟩ := record_bounds s value
    exact ⟨UInt64.le_trans hmin hbefore,
      List.forall_mem_cons.mpr ⟨UInt64.le_trans hmin hvalue, hrest⟩⟩

theorem record_max (s : MetricStats) (values : List UInt64) :
    s.max ≤ (values.foldl MetricStats.record s).max ∧
      ∀ value ∈ values, value ≤ (values.foldl MetricStats.record s).max := by
  induction values generalizing s with
  | nil => exact ⟨UInt64.le_refl _, nofun⟩
  | cons value rest ih =>
    obtain ⟨hmax, hrest⟩ := ih (s.record value)
    obtain ⟨-, hbefore, hvalue⟩ := record_bounds s value
    exact ⟨UInt64.le_trans hbefore hmax,
      List.forall_mem_cons.mpr ⟨UInt64.le_trans hvalue hmax, hrest⟩⟩

/-- The average is between the smallest and the largest value, unless a sum saturates. -/
theorem summary_average {values : List UInt64} (hlength : values.length < 2 ^ 32)
    (hne : values ≠ []) (hsum : (values.map UInt64.toNat).sum ≤ U64_MAX) :
    let summary := (values.foldl MetricStats.record .new).summary
    summary.min ≤ summary.average ∧ summary.average ≤ summary.max := by
  have hcount := record_count .new values
  have htotal := record_total .new values
  have hmins := (record_min .new values).2
  have hmaxs := (record_max .new values).2
  generalize values.foldl MetricStats.record .new = after at hcount htotal hmins hmaxs ⊢
  have hzero : MetricStats.new.count.toNat = 0 ∧ MetricStats.new.total.toNat = 0 := ⟨rfl, rfl⟩
  have hpos : 0 < values.length := List.length_pos_iff.mpr hne
  rw [hzero.1] at hcount
  rw [hzero.2] at htotal
  have hlow : values.length * after.min.toNat ≤ (values.map UInt64.toNat).sum := by
    have hle := List.card_nsmul_le_sum (values.map UInt64.toNat) after.min.toNat
      (List.forall_mem_map.mpr fun value h => UInt64.le_iff_toNat_le.mp (hmins value h))
    rwa [List.length_map, Nat.nsmul_eq_mul] at hle
  have hhigh : (values.map UInt64.toNat).sum ≤ values.length * after.max.toNat := by
    have hle := List.sum_le_card_nsmul (values.map UInt64.toNat) after.max.toNat
      (List.forall_mem_map.mpr fun value h => UInt64.le_iff_toNat_le.mp (hmaxs value h))
    rwa [List.length_map, Nat.nsmul_eq_mul] at hle
  have hsome : after.count ≠ 0 := by
    intro h
    have hnone : after.count.toNat = 0 := congrArg UInt32.toNat h
    omega
  have haverage : after.summary.average.toNat = (values.map UInt64.toNat).sum / values.length := by
    unfold MetricStats.summary
    rw [if_neg hsome, UInt64.toNat_div, UInt32.toNat_toUInt64, htotal, hcount]
    congr 1 <;> omega
  have hsummary : after.summary.min = after.min ∧ after.summary.max = after.max := by
    unfold MetricStats.summary
    rw [if_neg hsome]
    exact ⟨rfl, rfl⟩
  dsimp only
  rw [hsummary.1, hsummary.2, UInt64.le_iff_toNat_le, UInt64.le_iff_toNat_le, haverage]
  exact ⟨(Nat.le_div_iff_mul_le hpos).mpr (by rw [Nat.mul_comm]; exact hlow),
    Nat.div_le_of_le_mul hhigh⟩

/-! ## Traces in a row -/

theorem record_trace_carried (c : TimingCollector) (trace : TxTimingTrace) :
    (c.record_trace trace).toCarriedTimestamps = carry c.toCarriedTimestamps trace := by
  rw [record_trace_eq, withCarried_carried]

theorem record_trace_stats (c : TimingCollector) (trace : TxTimingTrace) (slot : Slot) :
    stats (c.record_trace trace) slot =
      (deltas slot (pairs c.toCarriedTimestamps trace)).foldl MetricStats.record (stats c slot) := by
  have hcarried (c : TimingCollector) (carried : CarriedTimestamps) :
      stats (withCarried c carried) slot = stats c slot := by cases slot <;> rfl
  have hcounted : stats (c.count_sample trace) slot = stats c slot := by cases slot <;> rfl
  rw [record_trace_eq, hcarried, stats_tallies, hcounted]

theorem record_trace_invalid (c : TimingCollector) (trace : TxTimingTrace) :
    (c.record_trace trace).invalid_timestamp_count.toNat =
      min (c.invalid_timestamp_count.toNat +
        ((pairs c.toCarriedTimestamps trace).filter Pair.inverted).length) 0xffffffff := by
  have hcounted : (c.count_sample trace).invalid_timestamp_count = c.invalid_timestamp_count := rfl
  rw [record_trace_eq, ← hcounted]
  exact tallies_invalid _ _

theorem record_trace_samples (c : TimingCollector) (trace : TxTimingTrace) :
    (c.record_trace trace).sample_count = saturating_add c.sample_count 1 ∧
      (c.record_trace trace).source_samples = c.source_samples.set (source_index trace.source)
        (saturating_add (c.source_samples.get (source_index trace.source)) 1)
        (source_index trace.source).isLt := by
  rw [record_trace_eq]
  exact tallies_samples _ _

def samples (c : TimingCollector) : ℕ := (c.source_samples.toList.map UInt32.toNat).sum

theorem sum_set_succ (counts : List ℕ) {index : ℕ} (h : index < counts.length) :
    (counts.set index (counts[index] + 1)).sum = counts.sum + 1 := by
  induction counts generalizing index with
  | nil => cases h
  | cons count rest ih =>
    cases index with
    | zero =>
      simp only [List.set_cons_zero, List.getElem_cons_zero, List.sum_cons]
      omega
    | succ index =>
      simp only [List.set_cons_succ, List.getElem_cons_succ, List.sum_cons]
      rw [ih (Nat.lt_of_succ_lt_succ h), Nat.add_assoc]

/-- A sample is counted for one source. -/
theorem record_trace_source_samples {c : TimingCollector} (trace : TxTimingTrace)
    (h : samples c < 0xffffffff) : samples (c.record_trace trace) = samples c + 1 := by
  have hone : (1 : UInt32).toNat = 1 := rfl
  have hindex : (source_index trace.source : ℕ) < (c.source_samples.toList.map UInt32.toNat).length := by
    simp
  have hle : c.source_samples[source_index trace.source].toNat ≤ samples c := by
    apply List.single_le_sum (fun _ _ => Nat.zero_le _)
    exact List.mem_map_of_mem (Vector.mem_toList_iff.mpr (Vector.getElem_mem _))
  have hnext : (saturating_add c.source_samples[source_index trace.source] 1).toNat =
      (c.source_samples.toList.map UInt32.toNat)[(source_index trace.source : ℕ)] + 1 := by
    rw [saturating_add_toNat, hone, List.getElem_map, Vector.getElem_toList]
    exact Nat.min_eq_left (Nat.succ_le_of_lt (Nat.lt_of_le_of_lt hle h))
  have hset : (c.record_trace trace).source_samples =
      c.source_samples.set (source_index trace.source)
        (saturating_add c.source_samples[source_index trace.source] 1) :=
    (record_trace_samples c trace).2
  unfold samples
  rw [hset, Vector.toList_set, List.map_set, hnext]
  exact sum_set_succ _ hindex

variable {c : TimingCollector} {traces : List TxTimingTrace}

theorem traces_stats (slot : Slot) :
    stats (traces.foldl record_trace c) slot =
      (deltas slot (pairs_of c.toCarriedTimestamps traces)).foldl MetricStats.record
        (stats c slot) := by
  induction traces generalizing c with
  | nil => rfl
  | cons trace rest ih =>
    rw [List.foldl_cons, ih, record_trace_carried, record_trace_stats, pairs_of, deltas_append,
      List.foldl_append]

theorem traces_invalid :
    (traces.foldl record_trace c).invalid_timestamp_count.toNat =
      min (c.invalid_timestamp_count.toNat +
        ((pairs_of c.toCarriedTimestamps traces).filter Pair.inverted).length) 0xffffffff := by
  have hlt := c.invalid_timestamp_count.toNat_lt
  induction traces generalizing c with
  | nil =>
    rw [List.foldl_nil, pairs_of, List.filter_nil, List.length_nil]
    omega
  | cons trace rest ih =>
    rw [List.foldl_cons, ih (UInt32.toNat_lt _), record_trace_carried, record_trace_invalid, pairs_of,
      List.filter_append, List.length_append]
    omega

theorem traces_samples (h : samples c + traces.length ≤ 0xffffffff) :
    samples (traces.foldl record_trace c) = samples c + traces.length := by
  induction traces generalizing c with
  | nil => rfl
  | cons trace rest ih =>
    rw [List.length_cons] at h ⊢
    have hone := record_trace_source_samples trace (c := c) (by omega)
    rw [List.foldl_cons, ih (by omega), hone]
    omega

theorem length_pairs_of (carried : CarriedTimestamps) :
    (pairs_of carried traces).length = 17 * traces.length := by
  induction traces generalizing carried with
  | nil => rfl
  | cons trace rest ih =>
    rw [pairs_of, List.length_append, ih, List.length_cons]
    have hpairs : (pairs carried trace).length = 17 := rfl
    omega

/-! ## Windows -/

/-- The collector after some traces. -/
def after (traces : List TxTimingTrace) : TimingCollector :=
  traces.foldl (fun c trace => (c.record trace).1) .new

/-- A collector at the start of a window. -/
def fresh (carried : CarriedTimestamps) : TimingCollector := withCarried .new carried

theorem after_snoc (traces : List TxTimingTrace) (trace : TxTimingTrace) :
    after (traces ++ [trace]) = ((after traces).record trace).1 := by
  unfold after
  rw [List.foldl_append, List.foldl_cons, List.foldl_nil]

theorem samples_lt_iff (count : UInt32) : count < SAMPLES_PER_REPORT ↔ count.toNat < 10 := Iff.rfl

theorem next_sample (trace : TxTimingTrace) (h : c.sample_count.toNat < 10) :
    (c.record_trace trace).sample_count.toNat = c.sample_count.toNat + 1 := by
  have hone : (1 : UInt32).toNat = 1 := rfl
  rw [(record_trace_samples c trace).1, saturating_add_toNat, hone]
  omega

/-- No report yet. -/
theorem record_early (trace : TxTimingTrace) (h : c.sample_count.toNat < 9) :
    c.record trace = (c.record_trace trace, none) := by
  have hnext := next_sample trace (c := c) (by omega)
  exact if_pos ((samples_lt_iff _).mpr (by omega))

theorem record_tenth (trace : TxTimingTrace) (h : c.sample_count.toNat = 9) :
    c.record trace = ((c.record_trace trace).reset_window, some (c.record_trace trace).report) := by
  have hnext := next_sample trace (c := c) (by omega)
  exact if_neg fun hlt => absurd ((samples_lt_iff _).mp hlt) (by omega)

theorem reset_window_eq (c : TimingCollector) :
    c.reset_window = fresh c.toCarriedTimestamps := rfl

theorem after_spec (traces : List TxTimingTrace) :
    (after traces).sample_count.toNat = traces.length % 10 ∧
      (10 ∣ traces.length → after traces = fresh (after traces).toCarriedTimestamps) := by
  induction traces using List.reverseRecOn with
  | nil => exact ⟨rfl, fun _ => rfl⟩
  | append_singleton traces trace ih =>
    have hcount := ih.1
    rw [after_snoc, List.length_append, List.length_singleton]
    by_cases htenth : traces.length % 10 = 9
    · have hzero : (fresh (after traces).toCarriedTimestamps).sample_count.toNat = 0 := rfl
      rw [record_tenth trace (hcount.trans htenth)]
      dsimp only
      rw [reset_window_eq]
      refine ⟨?_, fun _ => rfl⟩
      have hreset : (fresh ((after traces).record_trace trace).toCarriedTimestamps).sample_count.toNat =
        0 := rfl
      omega
    · rw [record_early trace (by omega)]
      dsimp only
      refine ⟨?_, fun h => by omega⟩
      rw [next_sample trace (by omega)]
      omega

/-- Every tenth call reports. -/
theorem record_reports_iff (traces : List TxTimingTrace) (trace : TxTimingTrace) :
    ((after traces).record trace).2.isSome = true ↔ 10 ∣ traces.length + 1 := by
  have hcount := (after_spec traces).1
  by_cases htenth : traces.length % 10 = 9
  · rw [record_tenth trace (hcount.trans htenth)]
    exact iff_of_true rfl (by omega)
  · rw [record_early trace (by omega)]
    exact iff_of_false Bool.false_ne_true (by omega)

theorem after_carried (traces : List TxTimingTrace) :
    (after traces).toCarriedTimestamps =
      traces.foldl carry TimingCollector.new.toCarriedTimestamps := by
  induction traces using List.reverseRecOn with
  | nil => rfl
  | append_singleton traces trace ih =>
    have hrecord : ((after traces).record trace).1.toCarriedTimestamps =
        ((after traces).record_trace trace).toCarriedTimestamps := by
      unfold TimingCollector.record
      dsimp only
      split <;> rfl
    rw [after_snoc, hrecord, record_trace_carried, ih, List.foldl_append, List.foldl_cons,
      List.foldl_nil]

/-- Within a window nothing is reset. -/
theorem within_window (h : c.sample_count.toNat + traces.length < 10) :
    traces.foldl (fun c trace => (c.record trace).1) c = traces.foldl record_trace c ∧
      (traces.foldl record_trace c).sample_count.toNat = c.sample_count.toNat + traces.length := by
  induction traces generalizing c with
  | nil => exact ⟨rfl, rfl⟩
  | cons trace rest ih =>
    rw [List.length_cons] at h ⊢
    have hnext := next_sample trace (c := c) (by omega)
    obtain ⟨hsame, hcount⟩ := ih (c := c.record_trace trace) (by omega)
    rw [List.foldl_cons, List.foldl_cons, record_early trace (by omega), hsame, hcount, hnext]
    exact ⟨rfl, by omega⟩

/-- The report at the end of a window. -/
theorem window_report {before window : List TxTimingTrace} (last : TxTimingTrace)
    (hbefore : 10 ∣ before.length) (hwindow : window.length = 9) :
    ((after (before ++ window)).record last).2 =
      some ((window ++ [last]).foldl record_trace (fresh (after before).toCarriedTimestamps)).report := by
  have hstart : after (before ++ window) =
      window.foldl (fun c trace => (c.record trace).1) (after before) := List.foldl_append
  have hzero : (fresh (after before).toCarriedTimestamps).sample_count.toNat = 0 := rfl
  obtain ⟨hsame, hcount⟩ := @within_window (fresh (after before).toCarriedTimestamps) window
    (by omega)
  rw [hstart, (after_spec before).2 hbefore, hsame, record_tenth last (by omega), List.foldl_append]
  rfl

/-! ## The report -/

def summary (report : TimingReport) : Slot → MetricSummary
  | .metric index => report.metrics.get index
  | .source index => report.source_tx_total.get index
  | .emergency => report.emergency_queue_wait

theorem summary_report (c : TimingCollector) (slot : Slot) :
    summary c.report slot = (stats c slot).summary := by
  cases slot with
  | metric index => exact Vector.getElem_map MetricStats.summary index.isLt
  | source index => exact Vector.getElem_map MetricStats.summary index.isLt
  | emergency => rfl

theorem summary_count (s : MetricStats) : s.summary.count = s.count := by
  unfold MetricStats.summary
  split
  · rename_i h
    exact h.symm
  · rfl

theorem sum_toNat (counts : List UInt32) :
    counts.sum.toNat = (counts.map UInt32.toNat).sum % 2 ^ 32 := by
  induction counts with
  | nil => rfl
  | cons count rest ih =>
    rw [List.sum_cons, UInt32.toNat_add, ih, List.map_cons, List.sum_cons, Nat.add_mod_mod]

theorem deltas_length (slot : Slot) (found : List Pair) :
    (deltas slot found).length = ((found.filter (·.slot = slot)).filter Pair.ordered).length := by
  unfold deltas
  generalize found.filter (·.slot = slot) = own
  induction own with
  | nil => rfl
  | cons p rest ih =>
    have hordered := (delta_spec p).1
    cases hdelta : p.delta with
    | none =>
      rw [hdelta] at hordered
      simp [hdelta, ← hordered, ih]
    | some delta =>
      rw [hdelta] at hordered
      simp [hdelta, ← hordered, ih]

section Report

variable {carried : CarriedTimestamps} {slot : Slot}

theorem fresh_stats : stats (fresh carried) slot = .new := by
  cases slot with
  | metric index => exact Vector.getElem_replicate index.isLt
  | source index => exact Vector.getElem_replicate index.isLt
  | emergency => rfl

theorem length_deltas_le (htraces : traces.length = 10) :
    (deltas slot (pairs_of carried traces)).length ≤ 170 := by
  have hall := @length_pairs_of traces carried
  have hordered := List.length_filter_le Pair.ordered
    ((pairs_of carried traces).filter (·.slot = slot))
  have hslot := List.length_filter_le (fun p : Pair => decide (p.slot = slot)) (pairs_of carried traces)
  rw [deltas_length]
  omega

theorem report_count (htraces : traces.length = 10) :
    (summary (traces.foldl record_trace (fresh carried)).report slot).count.toNat =
      (deltas slot (pairs_of carried traces)).length := by
  have hlength := @length_deltas_le traces carried slot htraces
  have hzero : MetricStats.new.count.toNat = 0 := rfl
  have hcarried : (fresh carried).toCarriedTimestamps = carried := rfl
  rw [summary_report, summary_count, traces_stats, fresh_stats, record_count, hzero, hcarried]
  omega

theorem report_average (htraces : traces.length = 10)
    (hcount : (summary (traces.foldl record_trace (fresh carried)).report slot).count ≠ 0)
    (hsum : ((deltas slot (pairs_of carried traces)).map UInt64.toNat).sum ≤ U64_MAX) :
    let summary := summary (traces.foldl record_trace (fresh carried)).report slot
    summary.min ≤ summary.average ∧ summary.average ≤ summary.max := by
  have hlength := @length_deltas_le traces carried slot htraces
  have hcarried : (fresh carried).toCarriedTimestamps = carried := rfl
  have hne : deltas slot (pairs_of carried traces) ≠ [] := by
    intro hempty
    apply hcount
    rw [← UInt32.toNat_inj, report_count htraces, hempty]
    rfl
  rw [summary_report, traces_stats, fresh_stats, hcarried]
  exact summary_average (by omega) hne hsum

theorem report_invalid (htraces : traces.length = 10) :
    (traces.foldl record_trace (fresh carried)).report.invalid_timestamp_count.toNat =
      ((pairs_of carried traces).filter Pair.inverted).length := by
  have hall := @length_pairs_of traces carried
  have hinverted := List.length_filter_le Pair.inverted (pairs_of carried traces)
  have hinvalid := @traces_invalid (fresh carried) traces
  have hzero : (fresh carried).invalid_timestamp_count.toNat = 0 := rfl
  have hcarried : (fresh carried).toCarriedTimestamps = carried := rfl
  rw [hzero, hcarried] at hinvalid
  refine hinvalid.trans ?_
  omega

theorem report_samples (htraces : traces.length = 10) :
    (traces.foldl record_trace (fresh carried)).report.sample_count = 10 := by
  have hzero : samples (fresh carried) = 0 := rfl
  have hsamples := @traces_samples (fresh carried) traces (by omega)
  have hten : (10 : UInt32).toNat = 10 := rfl
  rw [← UInt32.toNat_inj, TimingReport.sample_count, sum_toNat, hten]
  change samples (traces.foldl record_trace (fresh carried)) % 2 ^ 32 = 10
  omega

end Report

/-- A report on every tenth call, from the ten traces and the carried timestamps alone. -/
theorem timing_windows :
    (∀ traces trace, ((after traces).record trace).2.isSome = true ↔ 10 ∣ traces.length + 1) ∧
    (∀ traces, (after traces).toCarriedTimestamps =
      traces.foldl carry TimingCollector.new.toCarriedTimestamps) ∧
    ∀ before window last, 10 ∣ before.length → window.length = 9 →
      let found := pairs_of (after before).toCarriedTimestamps (window ++ [last])
      ∃ report, ((after (before ++ window)).record last).2 = some report ∧
        report.sample_count = 10 ∧
        (∀ other, 10 ∣ other.length →
          (after other).toCarriedTimestamps = (after before).toCarriedTimestamps →
          ((after (other ++ window)).record last).2 = some report) ∧
        (∀ slot,
          (summary report slot).count.toNat =
            ((found.filter (·.slot = slot)).filter Pair.ordered).length ∧
          ((summary report slot).count ≠ 0 →
            ((deltas slot found).map UInt64.toNat).sum ≤ U64_MAX →
            (summary report slot).min ≤ (summary report slot).average ∧
              (summary report slot).average ≤ (summary report slot).max)) ∧
        report.invalid_timestamp_count.toNat = (found.filter Pair.inverted).length ∧
        ∀ p ∈ found, p.present = (p.ordered != p.inverted) := by
  refine ⟨record_reports_iff, after_carried, ?_⟩
  intro before window last hbefore hwindow found
  have htraces : (window ++ [last]).length = 10 := by
    rw [List.length_append, hwindow]
    rfl
  refine ⟨_, window_report last hbefore hwindow, report_samples htraces, ?_, ?_,
    report_invalid htraces, fun p _ => (delta_spec p).2.2⟩
  · intro other hother hcarried
    rw [window_report last hother hwindow, hcarried]
  · intro slot
    rw [← deltas_length]
    exact ⟨report_count htraces, report_average htraces⟩

/-- A transmission every half second. The fifteenth starts before it is requested. -/
def stamped (number : ℕ) : TxTimingTrace :=
  let requested := 500000 * number
  { TxTimingTrace.new (.ofNat requested) .Periodic with
    transmit_started_at_us := some (.ofNat (if number = 15 then requested - 1 else requested + 20))
    uart_write_started_at_us := some (.ofNat (requested + 900))
    completed_at_us := some (.ofNat (requested + 40000 + number)) }

/-- The second ten transmissions: the intervals reach back into the first ten. -/
theorem timing_windows_ten : ∃ report,
    ((after ((List.range 10).map stamped ++ (List.range' 10 9).map stamped)).record
      (stamped 19)).2 = some report ∧
    report.sample_count = 10 ∧ (summary report (.metric REQUEST_INTERVAL)).count.toNat = 10 ∧
    (summary report (.metric QUEUE_WAIT)).count.toNat = 9 ∧
    (summary report (.metric TX_TOTAL)).min ≤ (summary report (.metric TX_TOTAL)).average ∧
    (summary report (.metric TX_TOTAL)).average ≤ (summary report (.metric TX_TOTAL)).max ∧
    report.invalid_timestamp_count.toNat = 1 := by
  obtain ⟨-, hcarried, hwindows⟩ := timing_windows
  obtain ⟨report, hreport, hsamples, -, hslots, hinvalid, -⟩ :=
    hwindows ((List.range 10).map stamped) ((List.range' 10 9).map stamped) (stamped 19)
      (by decide) rfl
  rw [hcarried] at hslots hinvalid
  have hinterval : (summary report (.metric REQUEST_INTERVAL)).count.toNat = 10 :=
    (hslots _).1.trans (by decide +kernel)
  have hwait : (summary report (.metric QUEUE_WAIT)).count.toNat = 9 :=
    (hslots _).1.trans (by decide +kernel)
  have htotal : (summary report (.metric TX_TOTAL)).count.toNat = 10 :=
    (hslots _).1.trans (by decide +kernel)
  obtain ⟨hmin, hmax⟩ := (hslots (.metric TX_TOTAL)).2
    (fun hzero => by simp [hzero] at htotal) (by decide +kernel)
  exact ⟨report, hreport, hsamples, hinterval, hwait, hmin, hmax,
    hinvalid.trans (by decide +kernel)⟩

end Comboard.TimingWindows
