import Comboard.Attempts
import Comboard.TimingWindows
import Mathlib.Data.List.Chain

/-!
# The timestamps of an attempt

The timestamps of a trace are set in their order, whatever becomes of the attempt and whoever is
preempted. So a report counts no invalid timestamp while no source requests backwards.
-/

namespace Comboard.TraceOrder

open Lib LoraTransmit TransmitSteps Attempts TimingWindows

/-! ## One before the other -/

/-- The later one is set only behind the earlier one. -/
def Before (earlier later : Option UInt64) : Prop := ∀ y ∈ later, ∃ x ∈ earlier, x ≤ y

theorem before_none (earlier : Option UInt64) : Before earlier none := by
  intro y hy
  simp at hy

theorem Before.none {later : Option UInt64} (h : Before none later) : later = none := by
  cases later with
  | none => rfl
  | some y => simpa using h y rfl

theorem Before.some {earlier : Option UInt64} {y : UInt64} (h : Before earlier (some y)) :
    earlier.isSome = true := by
  obtain ⟨x, hx, -⟩ := h y rfl
  simp [Option.mem_def.mp hx]

theorem Before.trans {a b c : Option UInt64} (hab : Before a b) (hbc : Before b c) : Before a c := by
  intro z hz
  obtain ⟨y, hy, hyz⟩ := hbc z hz
  obtain ⟨x, hx, hxy⟩ := hab y hy
  exact ⟨x, hx, UInt64.le_trans hxy hyz⟩

instance : Trans Before Before Before := ⟨Before.trans⟩

/-- In order, as far as both are there. -/
def Ordered (earlier later : Option UInt64) : Prop := ∀ x ∈ earlier, ∀ y ∈ later, x ≤ y

theorem Before.ordered {earlier later : Option UInt64} (h : Before earlier later) :
    Ordered earlier later := by
  intro x hx y hy
  obtain ⟨x', hx', hle⟩ := h y hy
  exact Option.mem_unique hx hx' ▸ hle

theorem Ordered.before {a b c : Option UInt64} (hab : Ordered a b) (hbc : Before b c) :
    Ordered a c := by
  intro x hx z hz
  obtain ⟨y, hy, hyz⟩ := hbc z hz
  exact UInt64.le_trans (hab x hx y hy) hyz

theorem Ordered.inverted {earlier later : Option UInt64} (h : Ordered earlier later)
    (slot : TimingWindows.Slot) : Pair.inverted ⟨slot, later, earlier⟩ = false := by
  unfold Pair.inverted
  cases later with
  | none => rfl
  | some y =>
    cases earlier with
    | none => rfl
    | some x => simpa using h x rfl y rfl

/-- A timestamp that was read at `now` or before. -/
def Until (now : ℕ) (timestamp : Option UInt64) : Prop := ∀ x ∈ timestamp, x.toNat ≤ now

theorem Until.mono {now now' : ℕ} {timestamp : Option UInt64} (h : Until now timestamp)
    (hle : now ≤ now') : Until now' timestamp := fun x hx => (h x hx).trans hle

theorem until_now_us (now : ℕ) : Until now (now_us now) := by
  rintro x ⟨rfl⟩
  rw [UInt64.toNat_ofNat']
  exact Nat.mod_le _ _

theorem until_le_now {now : ℕ} {x : UInt64} (h : x.toNat ≤ now) (hmax : now ≤ U64_MAX) :
    x ≤ .ofNat now := by
  have hlt : now < 2 ^ 64 := Nat.lt_succ_of_le hmax
  rw [UInt64.le_iff_toNat_le, UInt64.toNat_ofNat', Nat.mod_eq_of_lt hlt]
  exact h

/-- What is set now comes behind all that is set. -/
theorem Until.before {now : ℕ} {timestamp : Option UInt64} (h : Until now timestamp)
    (hmax : now ≤ U64_MAX) (hsome : timestamp.isSome = true) : Before timestamp (now_us now) := by
  rintro y ⟨rfl⟩
  obtain ⟨x, rfl⟩ := Option.isSome_iff_exists.mp hsome
  exact ⟨x, rfl, until_le_now (h x rfl) hmax⟩

theorem Until.ordered {now : ℕ} {timestamp : Option UInt64} (h : Until now timestamp)
    (hmax : now ≤ U64_MAX) : Ordered timestamp (now_us now) := by
  rintro x hx y ⟨rfl⟩
  exact until_le_now (h x hx) hmax

/-! ## The timestamps of a trace -/

def timestamps (trace : TxTimingTrace) : List (Option UInt64) := [
  some trace.requested_at_us, trace.transmit_started_at_us, trace.initial_aux_ready_at_us,
  trace.rx_guard_done_at_us, trace.post_guard_aux_ready_at_us, trace.uart_write_started_at_us,
  trace.uart_write_finished_at_us, trace.uart_flush_finished_at_us, trace.aux_low_at_us,
  trace.aux_high_at_us]

structure Chronological (trace : TxTimingTrace) : Prop where
  chain : (timestamps trace).IsChain Before
  completed : trace.completed_at_us = trace.aux_high_at_us

/-- What the collector carries over lies before the trace. -/
structure Behind (carried : CarriedTimestamps) (trace : TxTimingTrace) : Prop where
  write : Ordered carried.previous_write_started_at_us trace.uart_write_started_at_us
  completed : Ordered carried.previous_completed_at_us trace.uart_write_started_at_us

def previous_request (carried : CarriedTimestamps) (source : LoRaTxSource) : Option UInt64 :=
  carried.previous_requested_at_us.get (source_index source)

/-- The request is the only timestamp that may go back. -/
theorem pairs_ordered {carried : CarriedTimestamps} {trace : TxTimingTrace}
    (chronological : Chronological trace) (behind : Behind carried trace)
    (hrequest : Ordered (previous_request carried trace.source) (some trace.requested_at_us)) :
    ∀ p ∈ pairs carried trace, p.inverted = false := by
  have chain := chronological.chain
  simp only [timestamps, List.isChain_cons_cons, List.isChain_singleton, and_true] at chain
  obtain ⟨hstart, haux, hguard, hready, hwrite, hwritten, hflush, hlow, hhigh⟩ := chain
  have hfinished := hflush.trans (hlow.trans hhigh)
  have hstarted := haux.trans (hguard.trans (hready.trans hwrite))
  have hrequested := hstart.trans hstarted
  unfold pairs
  rw [chronological.completed]
  simp only [List.forall_mem_cons, List.not_mem_nil, false_implies, implies_true, and_true]
  refine ⟨hrequest.inverted _, hrequested.ordered.inverted _, hstart.ordered.inverted _,
    haux.ordered.inverted _, hguard.ordered.inverted _, hready.ordered.inverted _,
    hwritten.ordered.inverted _, hflush.ordered.inverted _, hlow.ordered.inverted _,
    hhigh.ordered.inverted _, (hlow.trans hhigh).ordered.inverted _,
    (hstarted.trans (hwritten.trans hfinished)).ordered.inverted _, behind.write.inverted _,
    (behind.completed.before (hwritten.trans hfinished)).inverted _, behind.completed.inverted _,
    (hstarted.trans (hwritten.trans hfinished)).ordered.inverted _, ?_⟩
  split
  · exact hrequested.ordered.inverted _
  · rfl

/-! ## The trace of the running attempt -/

/-- How far the trace is. -/
def Reached (trace : TxTimingTrace) : AttemptPoint → Prop
  | .InitialAux => trace.transmit_started_at_us.isSome = true ∧ trace.initial_aux_ready_at_us = none
  | .RxGuard => trace.initial_aux_ready_at_us.isSome = true ∧ trace.rx_guard_done_at_us = none
  | .PostGuardAux => trace.rx_guard_done_at_us.isSome = true ∧ trace.post_guard_aux_ready_at_us = none
  | .Reselect => trace.post_guard_aux_ready_at_us.isSome = true ∧ trace.uart_write_started_at_us = none
  | .Write _ => trace.uart_write_started_at_us.isSome = true ∧ trace.uart_write_finished_at_us = none
  | .Flush => trace.uart_write_finished_at_us.isSome = true ∧ trace.uart_flush_finished_at_us = none
  | .AuxLow => trace.uart_flush_finished_at_us.isSome = true ∧ trace.aux_low_at_us = none
  | .AuxHigh => trace.aux_low_at_us.isSome = true ∧ trace.aux_high_at_us = none
  | .Done transmitted => trace.aux_high_at_us.isSome = transmitted

/-- Set in their order up to `now`. -/
structure InOrder (now : ℕ) (stamps : List (Option UInt64)) : Prop where
  chain : stamps.IsChain Before
  read : ∀ timestamp ∈ stamps, Until now timestamp

structure Tracing (now : ℕ) (trace : TxTimingTrace) (point : AttemptPoint) : Prop where
  completed : trace.completed_at_us = trace.aux_high_at_us
  order : InOrder now (timestamps trace)
  reached : Reached trace point

section Stages

variable {now now' : ℕ} {trace : TxTimingTrace} {point before : AttemptPoint}
  {last next : Option UInt64} {rest : List (Option UInt64)}

/-- The first one that is not set is set. -/
theorem InOrder.set (early : List (Option UInt64)) (h : InOrder now (early ++ last :: none :: rest))
    (hclock : now ≤ now' ∧ now' ≤ U64_MAX) (hsome : last.isSome = true) :
    InOrder now' (early ++ last :: now_us now' :: rest) := by
  obtain ⟨hearly, -, hrest⟩ := List.isChain_append_cons_cons.mp h.chain
  have hread := h.read
  simp only [List.forall_mem_append, List.forall_mem_cons] at hread
  obtain ⟨hearly_read, hlast, -, hrest_read⟩ := hread
  refine ⟨List.isChain_append_cons_cons.mpr ⟨hearly, ?_, ?_⟩, ?_⟩
  · exact (hlast.mono hclock.1).before hclock.2 hsome
  · cases rest with
    | nil => exact List.isChain_singleton _
    | cons next rest =>
      rw [List.isChain_cons_cons] at hrest ⊢
      exact ⟨hrest.1.none ▸ before_none _, hrest.2⟩
  · simp only [List.forall_mem_append, List.forall_mem_cons]
    exact ⟨fun t ht => (hearly_read t ht).mono hclock.1, hlast.mono hclock.1, until_now_us now',
      fun t ht => (hrest_read t ht).mono hclock.1⟩

theorem InOrder.unset (early : List (Option UInt64))
    (h : InOrder now (early ++ last :: none :: next :: rest)) : next = none :=
  (List.isChain_cons_cons.mp (List.isChain_append_cons_cons.mp h.chain).2.2).1.none

theorem Tracing.mono (tracing : Tracing now trace point) (h : now ≤ now') :
    Tracing now' trace point :=
  ⟨tracing.completed,
    ⟨tracing.order.chain, fun timestamp hmem => (tracing.order.read timestamp hmem).mono h⟩,
    tracing.reached⟩

theorem Tracing.stage {stamp : TxTimingTrace → Option UInt64 → TxTimingTrace}
    (tracing : Tracing now trace before) (hclock : now ≤ now' ∧ now' ≤ U64_MAX)
    (hstage : Stage before point stamp) : Tracing now' (stamp trace (now_us now')) point := by
  obtain ⟨hcompleted, order, hreached⟩ := tracing
  unfold timestamps at order
  cases hstage
  all_goals
    obtain ⟨hsome, hnone⟩ := hreached
    rw [hnone] at order
  case initial_aux => exact ⟨hcompleted, order.set [_] hclock hsome, rfl, order.unset [_]⟩
  case post_guard_aux =>
    exact ⟨hcompleted, order.set [_, _, _] hclock hsome, rfl, order.unset [_, _, _]⟩
  case written =>
    exact ⟨hcompleted, order.set [_, _, _, _, _] hclock hsome, rfl, order.unset [_, _, _, _, _]⟩
  case flushed =>
    exact ⟨hcompleted, order.set [_, _, _, _, _, _] hclock hsome, rfl,
      order.unset [_, _, _, _, _, _]⟩
  case low =>
    exact ⟨hcompleted, order.set [_, _, _, _, _, _, _] hclock hsome, rfl,
      order.unset [_, _, _, _, _, _, _]⟩

theorem Tracing.returned (tracing : Tracing now trace .RxGuard) (hclock : now ≤ now' ∧ now' ≤ U64_MAX) :
    Tracing now' { trace with rx_guard_done_at_us := now_us now' } .PostGuardAux := by
  obtain ⟨hcompleted, order, hsome, hnone⟩ := tracing
  unfold timestamps at order
  rw [hnone] at order
  exact ⟨hcompleted, order.set [_, _] hclock hsome, rfl, order.unset [_, _]⟩

theorem Tracing.sent (tracing : Tracing now trace .AuxHigh) (hclock : now ≤ now' ∧ now' ≤ U64_MAX) :
    Tracing now' { trace with aux_high_at_us := now_us now', completed_at_us := now_us now' }
      (.Done true) := by
  obtain ⟨-, order, hsome, hnone⟩ := tracing
  unfold timestamps at order
  rw [hnone] at order
  exact ⟨rfl, order.set [_, _, _, _, _, _, _, _] hclock hsome, rfl⟩

/-- An attempt that fails has no last timestamp. -/
theorem Tracing.failed (tracing : Tracing now trace point)
    (hpoint : ∀ transmitted, point ≠ .Done transmitted) : Tracing now trace (.Done false) := by
  obtain ⟨hcompleted, order, hreached⟩ := tracing
  refine ⟨hcompleted, order, ?_⟩
  have chain := order.chain
  simp only [timestamps, List.isChain_cons_cons, List.isChain_singleton, and_true] at chain
  obtain ⟨-, haux, hguard, hready, hwrite, hwritten, hflush, hlow, hhigh⟩ := chain
  have hunset {earlier : Option UInt64} (hnone : earlier = none)
      (h : Before earlier trace.aux_high_at_us) : trace.aux_high_at_us.isSome = false := by
    rw [hnone] at h
    simp [h.none]
  have hflushed := hlow.trans hhigh
  have hwritten := hwritten.trans (hflush.trans hflushed)
  cases point with
  | InitialAux => exact hunset hreached.2 (hguard.trans (hready.trans (hwrite.trans hwritten)))
  | RxGuard => exact hunset hreached.2 (hready.trans (hwrite.trans hwritten))
  | PostGuardAux => exact hunset hreached.2 (hwrite.trans hwritten)
  | Reselect => exact hunset hreached.2 hwritten
  | Write => exact hunset hreached.2 (hflush.trans hflushed)
  | Flush => exact hunset hreached.2 hflushed
  | AuxLow => exact hunset hreached.2 hhigh
  | AuxHigh => simp [Reached, hreached.2]
  | Done transmitted => exact absurd rfl (hpoint transmitted)

theorem Tracing.began {requested_at_us : ℕ} (source : LoRaTxSource) (hrequested : requested_at_us ≤ now)
    (hmax : now ≤ U64_MAX) :
    Tracing now { TxTimingTrace.new (.ofNat requested_at_us) source with
      transmit_started_at_us := now_us now } .InitialAux := by
  have hread : Until now (now_us requested_at_us) := (until_now_us requested_at_us).mono hrequested
  refine ⟨rfl, ⟨?_, ?_⟩, rfl, rfl⟩
  · simp only [timestamps, TxTimingTrace.new, List.isChain_cons_cons, List.isChain_singleton,
      before_none, and_true]
    exact hread.before hmax rfl
  · simp only [timestamps, TxTimingTrace.new, List.forall_mem_cons, List.not_mem_nil, false_implies,
      implies_true, and_true]
    exact ⟨hread, until_now_us now, by simp [Until]⟩

/-! ## The reselection -/

/-- A timestamp of the prepared trace, but not before the request. -/
def floor (requested : UInt64) (timestamp : Option UInt64) : Option UInt64 :=
  timestamp.map fun value => max value requested

theorem le_max_iff (x y requested : UInt64) : requested ≤ max x requested ∧
    (x ≤ y → max x requested ≤ max y requested) := by
  have hmax (a b : UInt64) : max a b = if a ≤ b then b else a := rfl
  simp only [hmax, UInt64.le_iff_toNat_le]
  split_ifs <;> omega

theorem before_floor (requested : UInt64) (timestamp : Option UInt64) :
    Before (some requested) (floor requested timestamp) := by
  intro y hy
  obtain ⟨x, -, rfl⟩ := Option.map_eq_some_iff.mp hy
  exact ⟨requested, rfl, (le_max_iff x x requested).1⟩

theorem Before.floor {earlier later : Option UInt64} (h : Before earlier later) (requested : UInt64) :
    Before (TraceOrder.floor requested earlier) (TraceOrder.floor requested later) := by
  intro y hy
  obtain ⟨y, hlater, rfl⟩ := Option.map_eq_some_iff.mp hy
  obtain ⟨x, hearlier, hle⟩ := h y hlater
  exact ⟨_, Option.map_eq_some_iff.mpr ⟨x, hearlier, rfl⟩, (le_max_iff x y requested).2 hle⟩

theorem Until.floor {requested : UInt64} {timestamp : Option UInt64} (h : Until now timestamp)
    (hrequested : requested.toNat ≤ now) : Until now (TraceOrder.floor requested timestamp) := by
  intro y hy
  obtain ⟨x, hx, rfl⟩ := Option.map_eq_some_iff.mp hy
  have hmax : max x requested = if x ≤ requested then requested else x := rfl
  rw [hmax]
  split
  · exact hrequested
  · exact h x hx

theorem Tracing.reselected {timing : TxTimingTrace} {e : LoRaTxEnvelope} {choice : Choice}
    {write_started_at : ℕ} (tracing : Tracing now trace .Reselect)
    (hclock : now ≤ now' ∧ now' ≤ write_started_at ∧ write_started_at ≤ U64_MAX)
    (htiming : Reselected trace now' e choice timing) (bytes : List UInt8) :
    Tracing write_started_at { timing with uart_write_started_at_us := now_us write_started_at }
      (.Write bytes) := by
  obtain ⟨hcompleted, order, hsome, hnone⟩ := tracing.mono hclock.1
  unfold timestamps at order
  rw [hnone] at order
  cases htiming with
  | kept =>
    exact ⟨hcompleted, order.set [_, _, _, _] hclock.2 hsome, rfl, order.unset [_, _, _, _]⟩
  | @replaced requested_at_us hrequested =>
    have hread : Until now' (now_us requested_at_us) := (until_now_us requested_at_us).mono hrequested
    have hunfloored := order.read
    have chain := order.chain
    simp only [List.forall_mem_cons, List.not_mem_nil, false_implies, implies_true, and_true] at hunfloored
    simp only [List.isChain_cons_cons, List.isChain_singleton, and_true] at chain
    obtain ⟨-, -, haux, hguard, hready, -⟩ := hunfloored
    obtain ⟨-, -, hguard_chain, hready_chain, -⟩ := chain
    have floored : InOrder now' [now_us requested_at_us, now_us requested_at_us,
        floor (.ofNat requested_at_us) trace.initial_aux_ready_at_us,
        floor (.ofNat requested_at_us) trace.rx_guard_done_at_us,
        floor (.ofNat requested_at_us) trace.post_guard_aux_ready_at_us, none, none, none, none,
        none] := by
      have hnat := hread _ rfl
      refine ⟨?_, ?_⟩
      · simp only [List.isChain_cons_cons, List.isChain_singleton, before_none, and_true]
        exact ⟨fun x hx => ⟨x, hx, UInt64.le_refl x⟩, before_floor _ _, hguard_chain.floor _,
          hready_chain.floor _⟩
      · simp only [List.forall_mem_cons, List.not_mem_nil, false_implies, implies_true, and_true]
        exact ⟨hread, hread, haux.floor hnat, hguard.floor hnat, hready.floor hnat, by simp [Until]⟩
    exact ⟨rfl, floored.set [_, _, _, _] hclock.2 (by simpa [floor] using hsome), rfl, rfl⟩

end Stages

/-! ## The collector -/

@[simp]
def trace : TransmitReport → Option TxTimingTrace
  | .traced trace _ => some trace
  | _ => none

def traces (past : List TransmitReport) : List TxTimingTrace := past.filterMap trace

/-- No source goes back in its requests. -/
def RequestsInOrder (traces : List TxTimingTrace) : Prop :=
  ∀ source, ((traces.filter (·.source = source)).map (·.requested_at_us)).Pairwise (· ≤ ·)

theorem source_index_injective : Function.Injective source_index := by
  intro source source' h
  revert h
  cases source <;> cases source' <;> decide

theorem previous_request_carry (carried : CarriedTimestamps) (t : TxTimingTrace)
    (source : LoRaTxSource) :
    previous_request (carry carried t) source =
      if t.source = source then some t.requested_at_us else previous_request carried source := by
  unfold previous_request carry
  dsimp only
  rw [get_set]
  simp only [source_index_injective.eq_iff]

theorem record_carried (c : TimingCollector) (t : TxTimingTrace) :
    (c.record t).1.toCarriedTimestamps = carry c.toCarriedTimestamps t := by
  have hrecord : (c.record t).1.toCarriedTimestamps = (c.record_trace t).toCarriedTimestamps := by
    unfold TimingCollector.record
    dsimp only
    split <;> rfl
  rw [hrecord, record_trace_carried]

theorem previous_request_after (traces : List TxTimingTrace) (source : LoRaTxSource) :
    previous_request (after traces).toCarriedTimestamps source =
      ((traces.filter (·.source = source)).map (·.requested_at_us)).getLast? := by
  induction traces using List.reverseRecOn with
  | nil => cases source <;> rfl
  | append_singleton traces t ih =>
    rw [after_snoc, record_carried, previous_request_carry, ih, List.filter_append, List.map_append]
    by_cases h : t.source = source <;> simp [h]

theorem RequestsInOrder.of_append {traces more : List TxTimingTrace}
    (h : RequestsInOrder (traces ++ more)) : RequestsInOrder traces := by
  intro source
  have hsource := h source
  rw [List.filter_append, List.map_append] at hsource
  exact (List.pairwise_append.mp hsource).1

theorem RequestsInOrder.last {traces : List TxTimingTrace} {t : TxTimingTrace}
    (h : RequestsInOrder (traces ++ [t])) :
    Ordered (previous_request (after traces).toCarriedTimestamps t.source)
      (some t.requested_at_us) := by
  have hsource := h t.source
  rw [List.filter_append, List.map_append, List.pairwise_append] at hsource
  rintro x hx y ⟨rfl⟩
  rw [previous_request_after] at hx
  exact hsource.2.2 x (List.mem_of_getLast? hx) _ (by simp)

/-- Nothing invalid is counted for a trace without an inverted pair. -/
theorem record_valid {c : TimingCollector} {t : TxTimingTrace} (hc : c.invalid_timestamp_count = 0)
    (hpairs : ∀ p ∈ pairs c.toCarriedTimestamps t, p.inverted = false) :
    (c.record t).1.invalid_timestamp_count = 0 ∧
      ∀ report, (c.record t).2 = some report → report.invalid_timestamp_count = 0 := by
  have hnone : (pairs c.toCarriedTimestamps t).filter Pair.inverted = [] :=
    List.filter_eq_nil_iff.mpr fun p hp => by simp [hpairs p hp]
  have hinvalid := record_trace_invalid c t
  rw [hc, hnone] at hinvalid
  have hzero : (c.record_trace t).invalid_timestamp_count = 0 := UInt32.toNat_inj.mp hinvalid
  unfold TimingCollector.record
  dsimp only
  split
  · exact ⟨hzero, by simp⟩
  · refine ⟨rfl, ?_⟩
    rintro report ⟨rfl⟩
    exact hzero

/-! ## Runs -/

def transmitting : LoraPoint → Bool
  | .Transmit .. => true
  | _ => false

/-- The trace belongs to the attempt. -/
structure Fits (outcome : Outcome) (t : TxTimingTrace) : Prop where
  source : t.source = outcome.envelope.source
  prepared : t.uart_write_started_at_us.isSome = outcome.prepared
  transmitted : t.completed_at_us.isSome = outcome.transmitted

structure Running (w : LoraTransmit) (attempt : TransmitAttempt) : Prop where
  tracing : Tracing w.now attempt.timing attempt.point
  behind : Behind w.timing_collector.toCarriedTimestamps attempt.timing
  source : ∀ e, in_hand w.tx.point = some e → attempt.timing.source = e.source
  write : attempt.timing.uart_write_started_at_us.isSome = transmitting w.tx.point

structure Traced (past : List TransmitReport) (w : LoraTransmit) : Prop where
  running : ∀ attempt, w.attempt = some attempt → Running w attempt
  carried : Until w.now w.timing_collector.previous_write_started_at_us ∧
    Until w.now w.timing_collector.previous_completed_at_us
  collector : w.timing_collector = after (traces past)
  chronological : ∀ t ∈ traces past, Chronological t
  fits : List.Forall₂ Fits (past.filterMap finished) (traces past)
  valid : RequestsInOrder (traces past) → w.timing_collector.invalid_timestamp_count = 0 ∧
    ∀ t report, .traced t (some report) ∈ past → report.invalid_timestamp_count = 0

section Steps

variable {past reports : List TransmitReport} {w w' : LoraTransmit} {attempt : TransmitAttempt}

@[simp]
theorem traces_append (past new : List TransmitReport) : traces (past ++ new) = traces past ++ traces new :=
  List.filterMap_append

/-- Nothing is recorded in the step. -/
theorem Traced.quiet (traced : Traced past w) (hcollector : w'.timing_collector = w.timing_collector)
    (hnow : w.now ≤ w'.now) (hfinished : reports.filterMap finished = [])
    (htraces : ∀ t report, .traced t report ∉ reports)
    (hrunning : ∀ attempt, w'.attempt = some attempt → Running w' attempt) :
    Traced (past ++ reports) w' := by
  have hnone : traces reports = [] := by
    refine List.filterMap_eq_nil_iff.mpr fun r hr => ?_
    unfold trace
    split
    · exact absurd hr (htraces _ _)
    · rfl
  refine ⟨hrunning, ?_, ?_, ?_, ?_, fun h => ?_⟩
  · rw [hcollector]
    exact ⟨traced.carried.1.mono hnow, traced.carried.2.mono hnow⟩
  · rw [hcollector, traces_append, hnone, List.append_nil, traced.collector]
  · rw [traces_append, hnone, List.append_nil]
    exact traced.chronological
  · rw [traces_append, hnone, List.append_nil, List.filterMap_append, hfinished, List.append_nil]
    exact traced.fits
  · rw [traces_append, hnone, List.append_nil] at h
    obtain ⟨hcount, hreports⟩ := traced.valid h
    refine ⟨hcollector ▸ hcount, fun t report hmem => ?_⟩
    exact (List.mem_append.mp hmem).elim (hreports t report) fun hnew => absurd hnew (htraces _ _)

theorem stage_write {before point : AttemptPoint} {stamp : TxTimingTrace → Option UInt64 → TxTimingTrace}
    (h : Stage before point stamp) (t : TxTimingTrace) (at_us : Option UInt64) :
    (stamp t at_us).uart_write_started_at_us = t.uart_write_started_at_us ∧
      (stamp t at_us).source = t.source := by
  cases h <;> exact ⟨rfl, rfl⟩

/-- The envelope that is not replaced is the one that was prepared. -/
theorem turn_kept {now : ℕ} {s s' : LoraShared} {h h' : HeldVars} {point point' : LoraPoint}
    {new : List LoraReport} {it : Iteration} {e e' : LoRaTxEnvelope} {displaced : Bool}
    {choice : Choice} (turn : LoraSteps.Turn now s h point s' h' point' new)
    (hhand : in_hand point = some e) (htransmit : point' = .Transmit it e' displaced choice)
    (hchoice : choice.replaced = none) : e' = e := by
  cases turn with
  | kept => simp_all [in_hand]
  | preempted =>
    obtain ⟨-, -, -, rfl⟩ := LoraPoint.Transmit.inj htransmit
    simp at hchoice
  | transmitted _ hafter =>
    rw [hafter] at htransmit
    split at htransmit <;> simp at htransmit
  | _ => simp [in_hand] at hhand htransmit

theorem step_kept {tx tx' : LoraTx} {now : ℕ} {new : List LoraReport} {it : Iteration}
    {e e' : LoRaTxEnvelope} {displaced : Bool} {choice : Choice}
    (hstep : LoraTx.machine.step tx (.prepared now) = some (tx', new))
    (hhand : in_hand tx.point = some e) (htransmit : tx'.point = .Transmit it e' displaced choice)
    (hchoice : choice.replaced = none) : e' = e := by
  cases LoraSteps.step_stepped hstep with
  | other _ _ _ hpoint =>
    rw [← hpoint, htransmit] at hhand
    exact Option.some.inj hhand
  | turn _ _ turn => exact turn_kept turn hhand htransmit hchoice

theorem Running.next (running : Running w attempt) {timing : TxTimingTrace} {point : AttemptPoint}
    {missed_slots : ℕ} (htx : w'.tx.point = w.tx.point)
    (hcollector : w'.timing_collector = w.timing_collector) (tracing : Tracing w'.now timing point)
    (htiming : timing.uart_write_started_at_us = attempt.timing.uart_write_started_at_us ∧
      timing.source = attempt.timing.source) :
    Running w' { point, timing, preempted_missed_slots := missed_slots } where
  tracing := tracing
  behind := by
    rw [hcollector]
    exact ⟨htiming.1 ▸ running.behind.write, htiming.1 ▸ running.behind.completed⟩
  source e he := htiming.2.trans (running.source e (htx ▸ he))
  write := by
    rw [htiming.1, htx]
    exact running.write

theorem Traced.record (traced : Traced past w) {t : TxTimingTrace} {e : LoRaTxEnvelope}
    {prepared transmitted : Bool} (hnew : reports.filterMap finished = [⟨e, prepared, transmitted⟩])
    (htraces : ∀ t' report, .traced t' report ∈ reports → t' = t ∧ report = (w.timing_collector.record t).2)
    (htrace : traces reports = [t]) (hattempt : w'.attempt = none)
    (hcollector : w'.timing_collector = (w.timing_collector.record t).1) (hnow : w.now ≤ w'.now)
    (chronological : Chronological t) (behind : Behind w.timing_collector.toCarriedTimestamps t)
    (hread : ∀ timestamp ∈ timestamps t, Until w.now timestamp) (fits : Fits ⟨e, prepared, transmitted⟩ t) :
    Traced (past ++ reports) w' := by
  have hor {a b : Option UInt64} (ha : Until w.now a) (hb : Until w.now b) : Until w'.now (a.or b) := by
    cases a with
    | none => exact hb.mono hnow
    | some x => exact ha.mono hnow
  refine ⟨by simp [hattempt], ?_, ?_, ?_, ?_, fun h => ?_⟩
  · rw [hcollector, record_carried]
    refine ⟨hor (hread _ (by simp [timestamps])) traced.carried.1, hor ?_ traced.carried.2⟩
    rw [chronological.completed]
    exact hread _ (by simp [timestamps])
  · rw [hcollector, traced.collector, traces_append, htrace, after_snoc]
  · rw [traces_append, htrace]
    intro t' ht'
    rcases List.mem_append.mp ht' with ht' | ht'
    · exact traced.chronological t' ht'
    · exact List.mem_singleton.mp ht' ▸ chronological
  · rw [traces_append, htrace, List.filterMap_append, hnew]
    exact List.rel_append traced.fits (.cons fits .nil)
  · rw [traces_append, htrace] at h
    obtain ⟨hcount, hreports⟩ := traced.valid h.of_append
    obtain ⟨hcount', hreport⟩ := record_valid hcount
      (pairs_ordered chronological behind (by rw [traced.collector]; exact h.last))
    refine ⟨hcollector ▸ hcount', fun t' report hmem => ?_⟩
    rcases List.mem_append.mp hmem with hmem | hmem
    · exact hreports t' report hmem
    · obtain ⟨-, hrecord⟩ := htraces t' _ hmem
      exact hreport report hrecord.symm

theorem traced_step (run : Machine.Run machine Machine.anyStep past w) (traced : Traced past w)
    (turn : Turn w w' reports) : Traced (past ++ reports) w' := by
  cases turn with
  | @tx _ tx _ _ hkind hclock hstep =>
    refine traced.quiet rfl hclock.1 (by simp) (by simp) fun attempt hattempt => ?_
    obtain ⟨written, parts, account⟩ := account_run run
    have writing := account.writing
    have hattempt : w.attempt = some attempt := hattempt
    rw [hattempt] at writing
    obtain ⟨e, he⟩ := Writing.in_hand writing
    have running := traced.running attempt hattempt
    exact running.next ((loop_beside hkind hstep).2 e he) rfl (running.tracing.mono hclock.1) ⟨rfl, rfl⟩
  | guard hclock =>
    have hnow := (read_clock_bounds hclock).1
    refine traced.quiet rfl hnow (by simp) (by simp) fun attempt hattempt => ?_
    have running := traced.running attempt hattempt
    exact running.next rfl rfl (running.tracing.mono hnow) ⟨rfl, rfl⟩
  | returned hclock hattempt hpoint =>
    have running := traced.running _ hattempt
    refine traced.quiet rfl hclock.1 (by simp) (by simp) ?_
    rintro _ ⟨rfl⟩
    exact running.next rfl rfl ((hpoint ▸ running.tracing).returned hclock) ⟨rfl, rfl⟩
  | @began it e _ _ _ _ hclock hrequested hattempt hpoint =>
    refine traced.quiet rfl hclock.1 rfl (by simp) ?_
    rintro _ ⟨rfl⟩
    refine ⟨.began e.source hrequested hclock.2, ⟨?_, ?_⟩, fun e' he' => ?_, ?_⟩
    · exact (before_none _).ordered
    · exact (before_none _).ordered
    · simp only [hpoint, in_hand, Option.some.injEq] at he'
      exact he' ▸ rfl
    · simp [hpoint, transmitting, TxTimingTrace.new]
  | stage hclock hattempt hpoint hstage =>
    have running := traced.running _ hattempt
    refine traced.quiet rfl hclock.1 rfl (by simp) ?_
    rintro _ ⟨rfl⟩
    exact running.next rfl rfl ((hpoint ▸ running.tracing).stage hclock hstage) (stage_write hstage _ _)
  | not_ready hattempt hpoint =>
    have running := traced.running _ hattempt
    refine traced.quiet rfl le_rfl rfl (by simp) ?_
    rintro _ ⟨rfl⟩
    refine running.next rfl rfl (running.tracing.failed ?_) ⟨rfl, rfl⟩
    rcases hpoint with hpoint | hpoint <;> simp [hpoint]
  | @reselected attempt tx _ it e _ _ _ _ now at_us hclock hattempt hpoint hstep htransmit htiming =>
    have running := traced.running _ hattempt
    have hnow := hclock.1.trans hclock.2.1
    refine traced.quiet rfl hnow (by simp [finished]) (by simp) ?_
    rintro _ ⟨rfl⟩
    refine ⟨(hpoint ▸ running.tracing).reselected hclock htiming _, ⟨?_, ?_⟩, fun e' he' => ?_, ?_⟩
    · exact (traced.carried.1.mono hnow).ordered hclock.2.2
    · exact (traced.carried.2.mono hnow).ordered hclock.2.2
    · simp only [htransmit, in_hand, Option.some.injEq] at he'
      subst he'
      cases htiming with
      | kept hchoice =>
        obtain ⟨written, parts, account⟩ := account_run run
        have writing := account.writing
        rw [hattempt] at writing
        obtain ⟨e₀, he₀⟩ := Writing.in_hand writing
        rw [step_kept hstep he₀ htransmit hchoice]
        exact running.source e₀ he₀
      | replaced => rfl
    · simp [htransmit, transmitting, now_us]
  | @wrote attempt bytes written hattempt hpoint =>
    have running := traced.running _ hattempt
    have tracing := running.tracing
    rw [hpoint] at tracing
    refine traced.quiet rfl le_rfl rfl (by simp) ?_
    rintro _ ⟨rfl⟩
    exact running.next rfl rfl ⟨tracing.completed, tracing.order, tracing.reached⟩ ⟨rfl, rfl⟩
  | not_written hattempt hpoint =>
    have running := traced.running _ hattempt
    refine traced.quiet rfl le_rfl rfl (by simp) ?_
    rintro _ ⟨rfl⟩
    refine running.next rfl rfl (running.tracing.failed ?_) ⟨rfl, rfl⟩
    rcases hpoint with hpoint | ⟨bytes, hpoint⟩ <;> simp [hpoint]
  | not_seen hattempt hpoint =>
    have running := traced.running _ hattempt
    have tracing := running.tracing.failed (by rcases hpoint with hpoint | hpoint <;> simp [hpoint])
    refine traced.quiet rfl le_rfl rfl (by simp) ?_
    rintro _ ⟨rfl⟩
    exact running.next rfl rfl ⟨tracing.completed, tracing.order, tracing.reached⟩ ⟨rfl, rfl⟩
  | sent hclock hattempt hpoint =>
    have running := traced.running _ hattempt
    refine traced.quiet rfl hclock.1 rfl (by simp) ?_
    rintro _ ⟨rfl⟩
    exact running.next rfl rfl ((hpoint ▸ running.tracing).sent hclock) ⟨rfl, rfl⟩
  | @completed attempt transmitted prepared e _ _ _ _ _ _ _ hclock hattempt hpoint hended =>
    obtain ⟨tracing, behind, hsource, hwrite⟩ := traced.running _ hattempt
    have hended : in_hand w.tx.point = some e ∧ transmitting w.tx.point = prepared := by
      generalize w.tx.point = point at hended
      cases hended <;> exact ⟨rfl, rfl⟩
    refine traced.record (?_ : List.filterMap finished _ = [⟨e, prepared, transmitted⟩]) (by simp) ?_
      rfl rfl hclock.1 ⟨tracing.order.chain, tracing.completed⟩
      ⟨behind.write, behind.completed⟩ tracing.order.read
      ⟨hsource e hended.1, hwrite.trans hended.2, ?_⟩
    · rw [List.filterMap_append, Machine.filterMap_passed_over TransmitReport.loop finished]
      rfl
    · rw [traces_append, traces, Machine.filterMap_passed_over TransmitReport.loop trace]
      rfl
    · have hreached := tracing.reached
      rw [hpoint] at hreached
      exact tracing.completed ▸ hreached

theorem traced_run (run : Machine.Run machine Machine.anyStep past w) : Traced past w := by
  refine run.invariant ?_ fun _ _ _ _ _ run traced _ h => traced_step run traced (step_turn h)
  rintro w ⟨started_at, now, -, -, rfl⟩
  exact ⟨by simp, ⟨(by simp [TimingCollector.new, Until]), by simp [TimingCollector.new, Until]⟩, rfl,
    by simp [traces], .nil, fun _ => ⟨rfl, by simp⟩⟩

end Steps

/-- Every attempt leaves one trace. Its timestamps are in order; it was begun to write if and only if the
attempt was prepared, and completed if and only if it was transmitted. While no source requests
backwards, no report counts an invalid timestamp. -/
theorem traces_of_attempts {past : List TransmitReport} {w : LoraTransmit}
    (run : Machine.Run machine Machine.anyStep past w) :
    List.Forall₂ Fits (past.filterMap finished) (traces past) ∧
      (∀ t ∈ traces past, Chronological t) ∧
      (RequestsInOrder (traces past) → ∀ t report, .traced t (some report) ∈ past →
        report.invalid_timestamp_count = 0) :=
  have traced := traced_run run
  ⟨traced.fits, traced.chronological, fun h => (traced.valid h).2⟩

/-- Ten attempts make a report. -/
def ten_attempts : List LoraTransmit.Action :=
  three_attempts ++ [10, 20, 30, 40, 50, 60, 70].flatMap fun now =>
    answer 4 (9000 + now) ++ [.aux never (9000 + now), .complete (9000 + now) (9000 + now)]

instance (traces : List TxTimingTrace) : Decidable (RequestsInOrder traces) :=
  inferInstanceAs (Decidable (∀ source,
    ((traces.filter (·.source = source)).map (·.requested_at_us)).Pairwise (· ≤ ·)))

theorem traces_of_attempts_ten : ∃ (past : List TransmitReport) (t : TxTimingTrace)
    (report : TimingReport), .traced t (some report) ∈ past ∧ report.invalid_timestamp_count = 0 := by
  obtain ⟨past, w, run, horder, hreport⟩ : ∃ past w, Machine.Run machine Machine.anyStep past w ∧
      RequestsInOrder (traces past) ∧
        past.any (fun | .traced _ report => report.isSome | _ => false) = true :=
    Machine.exists_run (fun _ past => RequestsInOrder (traces past) ∧
      past.any (fun | .traced _ report => report.isSome | _ => false) = true) ten_attempts idle_starts
      (fun _ _ _ => trivial) (by decide +kernel)
  obtain ⟨r, hr, hsome⟩ := List.any_eq_true.mp hreport
  cases r with
  | traced t report =>
    obtain ⟨report, rfl⟩ := Option.isSome_iff_exists.mp hsome
    exact ⟨past, t, report, hr, (traces_of_attempts run).2.2 horder t report hr⟩
  | _ => simp at hsome

end Comboard.TraceOrder
