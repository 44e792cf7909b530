import Comboard.Code.LoraTx

/-!
# What a step of the LoRa loop can do

A step of another task changes only what is shared. A step of the loop is a `Turn`. It says what
happens to the queues, to the variables in `HeldVars` and to the point where the loop waits.
-/

namespace Comboard.LoraSteps

open Lib LoraTx

/-! ## The queues -/

def queue (s : LoraShared) : LoRaTxSource → List LoRaTxEnvelope
  | .EmergencyResult => s.emergency_result_lora_channel.items
  | .CommandResult => s.command_result_lora_channel.items
  | .GroundTimeRequest => s.ground_time_request_lora_channel.items
  | .Recovery => s.recovery_lora_channel.items
  | .Periodic => []

/-- The oldest envelope of a queue came out of it. -/
structure Received (s s' : LoraShared) (source : LoRaTxSource) (e : LoRaTxEnvelope) : Prop where
  items : queue s source = e :: queue s' source
  others : ∀ other, other ≠ source → queue s' other = queue s other
  can_cache : s'.can_cache = s.can_cache

theorem receive_none {s : LoraShared} {source : LoRaTxSource} :
    s.receive source = none ↔ queue s source = [] := by
  cases source <;> simp [LoraShared.receive, queue, Channel.try_receive_eq_none]

theorem receive_some {s s' : LoraShared} {source : LoRaTxSource} {e : LoRaTxEnvelope}
    (h : s.receive source = some (e, s')) : Received s s' source e := by
  cases source
  case Periodic => simp [LoraShared.receive] at h
  all_goals
    simp only [LoraShared.receive, Option.map_eq_some_iff, Prod.mk.injEq] at h
    obtain ⟨⟨e', c⟩, hc, rfl, rfl⟩ := h
    refine ⟨Channel.try_receive_some hc, ?_, rfl⟩
    intro other hother
    cases other <;> first | rfl | exact absurd rfl hother

/-- What the tasks see of the cache and the queues. -/
structure Same (s s' : LoraShared) : Prop where
  queue : ∀ source, queue s' source = queue s source
  can_cache : s'.can_cache = s.can_cache

theorem Same.refl (s : LoraShared) : Same s s := ⟨fun _ => rfl, rfl⟩

theorem same_of_channels {s s' : LoraShared} (hc : s'.toLoraChannels = s.toLoraChannels)
    (hcache : s'.can_cache = s.can_cache) : Same s s' :=
  ⟨fun source => by cases source <;> simp [LoraSteps.queue, hc], hcache⟩

/-- An envelope comes into hand: `pending_recovery` or the oldest one of a queue. -/
inductive Gets (s : LoraShared) (pending : Option LoRaTxEnvelope) :
    LoRaTxSource → LoRaTxEnvelope → LoraShared → Option LoRaTxEnvelope → List LoraReport → Prop where
  | held {e : LoRaTxEnvelope} (h : pending = some e) : Gets s pending .Recovery e s none []
  | queued {source : LoRaTxSource} {e : LoRaTxEnvelope} {s' : LoraShared}
      (h : Received s s' source e) (hfree : source = .Recovery → pending = none) :
      Gets s pending source e s' pending [.received e]

/-! ## The reselection -/

/-- The scheduled deadline of the iteration is reached. -/
def due (it : Iteration) (now : Nat) : Prop :=
  it.periodic_schedule_valid = true ∧ it.scheduled_periodic_at ≤ now

/-- The reselection may take a Recovery envelope. -/
def eligible (h : HeldVars) (it : Iteration) (selected : LoRaTxSource) (now : Nat) : Bool :=
  recovery_allowed h.recovery_sent_since_periodic
    (periodic_due_for_reselection selected it.periodic_schedule_valid
      (now ≥ it.scheduled_periodic_at)) && now ≥ h.next_recovery_at

/-- The envelopes of a source that wait for the reselection, the oldest first. -/
def waiting (s : LoraShared) (h : HeldVars) (it : Iteration) (selected : LoRaTxSource)
    (now : Nat) : LoRaTxSource → List LoRaTxEnvelope
  | .Recovery =>
    if eligible h it selected now then h.pending_recovery.toList ++ queue s .Recovery else []
  | source => queue s source

/-- `e` is the oldest envelope of the highest source above `selected` that has one waiting. -/
structure Replaces (s : LoraShared) (h : HeldVars) (it : Iteration) (selected : LoRaTxSource)
    (now : Nat) (source : LoRaTxSource) (e : LoRaTxEnvelope) : Prop where
  higher : is_higher_priority source selected = true
  oldest : (waiting s h it selected now source).head? = some e
  highest : ∀ other, is_higher_priority other source = true →
    waiting s h it selected now other = []

theorem higher_trans {a b c : LoRaTxSource} (h : is_higher_priority a b = true)
    (h' : is_higher_priority b c = true) : is_higher_priority a c = true := by
  simp only [is_higher_priority, decide_eq_true_eq, gt_iff_lt, UInt8.lt_iff_toNat_lt] at h h' ⊢
  omega

theorem higher_ne {a b : LoRaTxSource} (h : is_higher_priority a b = true) : a ≠ b := by
  rintro rfl
  simp [is_higher_priority] at h

theorem recovery_higher {selected : LoRaTxSource}
    (h : is_higher_priority .Recovery selected = true) : selected = .Periodic := by
  cases selected <;> first | rfl | exact absurd h (by decide)

/-- Fairness forbids a second Recovery attempt only when the periodic packet is due. -/
theorem recovery_allowed_iff {sent periodic_due : Bool} :
    recovery_allowed sent periodic_due = true ↔ (sent = true → periodic_due = false) := by
  cases sent <;> cases periodic_due <;> simp [recovery_allowed]

/-- A Recovery envelope replaces only a Periodic one, which counts as due. -/
theorem Replaces.not_recovery {s : LoraShared} {h : HeldVars} {it : Iteration}
    {selected source : LoRaTxSource} {now : Nat} {e : LoRaTxEnvelope}
    (replaces : Replaces s h it selected now source e)
    (hsent : h.recovery_sent_since_periodic = true) : source ≠ .Recovery := by
  rintro rfl
  have hselected := recovery_higher replaces.higher
  have holdest := replaces.oldest
  simp only [waiting] at holdest
  split at holdest <;> rename_i heligible
  · simp [eligible, recovery_allowed, periodic_due_for_reselection, hsent, hselected] at heligible
  · simp at holdest

/-! ## Turns of the loop -/

/-- The loop goes on from one point to the next. -/
inductive Turn (now : Nat) (s : LoraShared) (h : HeldVars) :
    LoraPoint → LoraShared → HeldVars → LoraPoint → List LoraReport → Prop where
  | deferred {it : Iteration} {e : LoRaTxEnvelope} (held : h.deferred_envelope = some e)
      (allowed : e.source = .Recovery → h.recovery_sent_since_periodic = true → ¬ due it now) :
      Turn now s h .Top s { h with deferred_envelope := none }
        (.Prepare it e false { chosen_at := now, replaced := none }) []
  | waits {it : Iteration} (hdue : it.periodic_due = true ↔ due it now)
      (blocked : ∀ e, h.deferred_envelope = some e → e.source = .Recovery ∧
        h.recovery_sent_since_periodic = true ∧ it.periodic_due = true) :
      Turn now s h .Top s h (.Select it) []
  | selected {it : Iteration} {source : LoRaTxSource} {e : LoRaTxEnvelope} {s' : LoraShared}
      {pending : Option LoRaTxEnvelope} {reports : List LoraReport}
      (gets : Gets s h.pending_recovery source e s' pending reports)
      (allowed : source = .Recovery → h.recovery_sent_since_periodic = true →
        it.periodic_due = false ∧ ¬ due it now) :
      Turn now s h (.Select it) s' { h with pending_recovery := pending }
        (.Prepare it e false { chosen_at := now, replaced := none }) reports
  | put_back {it : Iteration} {e : LoRaTxEnvelope} {s' : LoraShared}
      {pending : Option LoRaTxEnvelope} {reports : List LoraReport}
      (gets : Gets s h.pending_recovery .Recovery e s' pending reports)
      (allowed : h.recovery_sent_since_periodic = true → it.periodic_due = false) :
      Turn now s h (.Select it) s' { h with pending_recovery := some e } .Top reports
  | periodic {it : Iteration} : Turn now s h (.Select it) s h (.Snapshot it false) []
  | control_roll {it : Iteration} {s' : LoraShared} (same : Same s s') :
      Turn now s h (.Select it) s' h (.Snapshot it true) []
  | snapshot {it : Iteration} {event_only : Bool} :
      Turn now s h (.Snapshot it event_only) s h (.Build it event_only (now / 1000) s.can_cache)
        [.snapshot]
  | no_event_packet {it : Iteration} {now_ms : Nat} {cache : CanCache} {s' : LoraShared}
      (same : Same s s') : Turn now s h (.Build it true now_ms cache) s' h .Top []
  | no_packet {it : Iteration} {now_ms : Nat} {cache : CanCache} {s' : LoraShared}
      (same : Same s s') :
      Turn now s h (.Build it false now_ms cache) s'
        { h with recovery_sent_since_periodic :=
            update_recovery_fairness h.recovery_sent_since_periodic .Periodic }
        .Top [.periodic_build_failed]
  | built {it : Iteration} {event_only prefer regular : Bool} {now_ms : Nat} {cache : CanCache}
      {s' : LoraShared} {packet : PeriodicPacket} (same : Same s s')
      (hpacket : (periodic_packet_of cache now_ms s.gnss_telemetry s.globals
        s.mission_link_fallback_sequence prefer event_only).1 = some packet) :
      Turn now s h (.Build it event_only now_ms cache) s' h
        (.Prepare it (.periodic packet.frame packet.transmitted_events packet.event_revision) regular
          { chosen_at := now, replaced := none }) []
  | kept {it : Iteration} {e : LoRaTxEnvelope} {regular : Bool} {choice : Choice}
      (highest : ∀ other, is_higher_priority other e.source = true →
        waiting s h it e.source now other = []) :
      Turn now s h (.Prepare it e regular choice) s h (.Transmit it e false choice) []
  | preempted {it : Iteration} {e e' : LoRaTxEnvelope} {regular displaced : Bool} {choice : Choice}
      {source : LoRaTxSource} {s' s'' : LoraShared} {pending : Option LoRaTxEnvelope}
      {reports : List LoraReport} (replaces : Replaces s h it e.source now source e')
      (gets : Gets s h.pending_recovery source e' s' pending reports) (same : Same s' s'') :
      Turn now s h (.Prepare it e regular choice) s''
        { h with
          pending_recovery := pending
          deferred_envelope := if should_defer_preempted e.source then some e else h.deferred_envelope }
        (.Transmit it e' displaced { chosen_at := now, replaced := some e.source })
        (reports ++ [.preempted e (should_defer_preempted e.source)])
  | prepare_failed {it : Iteration} {e : LoRaTxEnvelope} {regular : Bool} {choice : Choice}
      {s' : LoraShared} {next_recovery_at : Nat} (same : Same s s') :
      Turn now s h (.Prepare it e regular choice) s'
        { h with
          next_recovery_at
          recovery_sent_since_periodic :=
            update_recovery_fairness h.recovery_sent_since_periodic e.source }
        .Top [.attempted e it choice false]
  | transmitted {it : Iteration} {e : LoRaTxEnvelope} {displaced : Bool} {choice : Choice}
      {s' : LoraShared} {next_recovery_at : Nat} {ok : Bool} {after : LoraPoint} (same : Same s s')
      (hafter : after =
        if should_clear_periodic_events e.source ok e.interval_events then .Clear e else .Top) :
      Turn now s h (.Transmit it e displaced choice) s'
        { h with
          next_recovery_at
          recovery_sent_since_periodic :=
            update_recovery_fairness h.recovery_sent_since_periodic e.source }
        after [.attempted e it choice ok]
  | cleared {e : LoRaTxEnvelope} :
      Turn now s h (.Clear e)
        { s with can_cache := s.can_cache.clear_event_flags e.interval_events e.event_revision }
        h .Top [.cleared]

/-! ## Every step of the loop is a turn -/

/-- The loop went from `w` to the state and the reports of `after`. -/
def Turns (now : Nat) (w : LoraTx) (after : LoraTx × List LoraReport) : Prop :=
  Turn now w.shared w.loop.toHeldVars w.point after.1.shared after.1.loop.toHeldVars after.1.point
    after.2

theorem due_iff (it : Iteration) (now : Nat) :
    (it.periodic_schedule_valid && decide (now ≥ it.scheduled_periodic_at)) = true ↔ due it now := by
  simp [due]

theorem iteration_due (l : LoraLoop) (now : Nat) :
    (l.iteration now).periodic_due = true ↔ due (l.iteration now) now :=
  due_iff (l.iteration now) now

theorem begin_iteration_turns (w : LoraTx) (now : Nat) (hpoint : w.point = .Top) :
    Turns now w (w.begin_iteration now) := by
  unfold begin_iteration Turns
  rw [hpoint]
  dsimp only
  split <;> rename_i hdeferred <;> split at hdeferred <;> rename_i hblocked
  · simp at hdeferred
  · refine .deferred hdeferred fun hsource hsent hdue => hblocked ?_
    simp [hdeferred, deferred_recovery_blocked, recovery_allowed, hsource, hsent,
      (iteration_due _ _).mpr hdue]
  · refine .waits (iteration_due _ _) fun e he => ?_
    simpa [he, deferred_recovery_blocked, recovery_allowed] using hblocked
  · exact .waits (iteration_due _ _) fun e he => by simp [he] at hdeferred

theorem recovery_ready_some {s s' : LoraShared} {l : LoraLoop} {it : Iteration} {timer : Nat}
    {ready : Ready} {reports : List LoraReport}
    (h : recovery_ready s l it timer = some (ready, s', reports)) :
    (l.recovery_sent_since_periodic = true → it.periodic_due = false) ∧
    ∃ e pending, ready = .fourth e ∧ Gets s l.pending_recovery .Recovery e s' pending reports ∧
      pending = none := by
  unfold recovery_ready at h
  split at h <;> rename_i hallowed
  · simp at h
  · refine ⟨recovery_allowed_iff.mp (by simpa using hallowed), ?_⟩
    split at h <;> rename_i hpending
    · split at h
      · simp only [Option.some.injEq, Prod.mk.injEq] at h
        obtain ⟨rfl, rfl, rfl⟩ := h
        exact ⟨_, _, rfl, .held hpending, rfl⟩
      · simp at h
    · simp only [Option.map_eq_some_iff, Prod.mk.injEq] at h
      obtain ⟨⟨e, s''⟩, hreceive, rfl, rfl, rfl⟩ := h
      exact ⟨e, _, rfl, .queued (receive_some hreceive) fun _ => hpending, hpending⟩

theorem receive_ready_some {s s' : LoraShared} {source : LoRaTxSource} {ready : Ready}
    {reports : List LoraReport} (h : receive_ready s source = some (ready, s', reports)) :
    ∃ e, ready = .first_to_third e ∧ Received s s' source e ∧ reports = [.received e] := by
  simp only [receive_ready, Option.map_eq_some_iff, Prod.mk.injEq] at h
  obtain ⟨⟨e, s''⟩, hreceive, rfl, rfl, rfl⟩ := h
  exact ⟨e, rfl, receive_some hreceive, rfl⟩

/-- A source other than Recovery leaves `pending_recovery` alone. -/
theorem queued_turns {w : LoraTx} {it : Iteration} {source : LoRaTxSource} {ready : Ready}
    {shared : LoraShared} {reports : List LoraReport} (now : Nat) (hpoint : w.point = .Select it)
    (hsource : source ≠ .Recovery)
    (h : receive_ready w.shared source = some (ready, shared, reports)) :
    ∃ e, ready = .first_to_third e ∧ Turns now w
      ({ w with
          shared
          point := .Prepare it e false { chosen_at := now, replaced := none } }, reports) := by
  obtain ⟨e, rfl, hreceived, rfl⟩ := receive_ready_some h
  refine ⟨e, rfl, ?_⟩
  unfold Turns
  rw [hpoint]
  exact .selected (.queued hreceived (absurd · hsource)) (absurd · hsource)

theorem select_recovery_turns {w : LoraTx} {it : Iteration} {e : LoRaTxEnvelope}
    {shared : LoraShared} {reports : List LoraReport} (now : Nat) (hpoint : w.point = .Select it)
    (hallowed : w.loop.recovery_sent_since_periodic = true → it.periodic_due = false)
    (gets : Gets w.shared w.loop.pending_recovery .Recovery e shared none reports) :
    Turns now w (({ w with shared } : LoraTx).select_recovery it e now, reports) := by
  unfold select_recovery Turns
  rw [hpoint]
  dsimp only
  split <;> rename_i hready
  · simp only [Bool.and_eq_true, recovery_allowed_iff] at hready
    refine .selected gets fun _ hsent => ⟨hallowed hsent, fun hdue => ?_⟩
    rw [(due_iff it now).mpr hdue] at hready
    simpa using hready.2 hsent
  · exact .put_back gets hallowed

theorem select_turns {w w' : LoraTx} {it : Iteration} {recovery_timer periodic_timer now : Nat}
    {reports : List LoraReport} (hpoint : w.point = .Select it)
    (h : w.select it recovery_timer periodic_timer now = some (w', reports)) :
    Turns now w (w', reports) := by
  simp only [select, select5, Option.map_eq_some_iff, Option.or_eq_some_iff] at h
  obtain ⟨⟨ready, shared, reports'⟩, hready, h⟩ := h
  rcases hready with h1 | ⟨-, h2 | ⟨-, h3 | ⟨-, h4 | ⟨-, h5⟩⟩⟩⟩
  · obtain ⟨e, rfl, hturns⟩ := queued_turns now hpoint (by decide) h1
    rwa [← h]
  · obtain ⟨e, rfl, hturns⟩ := queued_turns now hpoint (by decide) h2
    rwa [← h]
  · obtain ⟨e, rfl, hturns⟩ := queued_turns now hpoint (by decide) h3
    rwa [← h]
  · obtain ⟨hallowed, e, pending, rfl, gets, rfl⟩ := recovery_ready_some h4
    rw [← h]
    exact select_recovery_turns now hpoint hallowed gets
  · unfold control_roll_or_periodic_ready at h5
    unfold Turns
    rw [hpoint]
    split at h5
    · simp only [Option.some.injEq, Prod.mk.injEq] at h5
      obtain ⟨rfl, rfl, rfl⟩ := h5
      rw [← h]
      unfold select_periodic
      dsimp only
      split
      · split <;> exact .periodic
      · exact .periodic
    · split at h5
      · simp only [Option.some.injEq, Prod.mk.injEq] at h5
        obtain ⟨rfl, rfl, rfl⟩ := h5
        rw [← h]
        exact .control_roll (same_of_channels rfl rfl)
      · simp at h5

/-- Overdue deadlines move `next_tx_at` and the missed slots only. -/
structure SkipsSlots (w w' : LoraTx) : Prop where
  same : Same w.shared w'.shared
  held : w'.loop.toHeldVars = w.loop.toHeldVars
  point : w'.point = w.point

theorem skip_overdue_keeps {w : LoraTx} {now : Nat} {skipped : LoraTx × Nat}
    (h : w.skip_overdue_periodic_deadlines now = skipped) : SkipsSlots w skipped.1 := by
  rw [← h]
  unfold skip_overdue_periodic_deadlines
  split
  · split
    · exact ⟨same_of_channels rfl rfl, rfl, rfl⟩
    · exact ⟨.refl _, rfl, rfl⟩
  · exact ⟨.refl _, rfl, rfl⟩

theorem build_turns {w : LoraTx} {it : Iteration} {event_only : Bool} {now_ms : Nat}
    {cache : CanCache} (now : Nat) (hpoint : w.point = .Build it event_only now_ms cache) :
    Turns now w (w.build it event_only now_ms cache now) := by
  unfold build Turns
  rw [hpoint]
  dsimp only
  split <;> rename_i hpacket
  · cases event_only with
    | true => exact .no_event_packet (same_of_channels rfl rfl)
    | false =>
      rw [if_neg Bool.false_ne_true]
      generalize hskip : skip_overdue_periodic_deadlines _ now = skipped
      obtain ⟨hsame, hheld, -⟩ := skip_overdue_keeps hskip
      dsimp only
      rw [hheld]
      exact .no_packet ⟨hsame.queue, hsame.can_cache⟩
  · cases event_only <;> exact .built (same_of_channels rfl rfl) hpacket

/-! ## The reselection, and the end of the attempt -/

theorem take_queued_some {s : LoraShared} {pending : Option LoRaTxEnvelope}
    {source : LoRaTxSource} {taken : Taken} (h : s.take_queued pending source = some taken) :
    Received s taken.shared source taken.envelope ∧ taken.pending_recovery = pending ∧
      taken.reports = [.received taken.envelope] := by
  simp only [LoraShared.take_queued, Option.map_eq_some_iff] at h
  obtain ⟨⟨e, s'⟩, hreceive, rfl⟩ := h
  exact ⟨receive_some hreceive, rfl, rfl⟩

theorem take_queued_none {s : LoraShared} {pending : Option LoRaTxEnvelope}
    {source : LoRaTxSource} : s.take_queued pending source = none ↔ queue s source = [] := by
  simp [LoraShared.take_queued, receive_none]

/-- What the reselection finds for one source. -/
def found (s : LoraShared) (l : LoraLoop) (selected : LoRaTxSource) (it : Iteration) (now : Nat) :
    LoRaTxSource → Option Taken
  | .Recovery =>
    if is_higher_priority .Recovery selected && eligible l.toHeldVars it selected now then
      match l.pending_recovery with
      | some envelope => some { envelope, shared := s, pending_recovery := none, reports := [] }
      | none => s.take_queued none .Recovery
    else none
  | source =>
    if is_higher_priority source selected then s.take_queued l.pending_recovery source else none

theorem take_higher_eq (s : LoraShared) (l : LoraLoop) (selected : LoRaTxSource) (it : Iteration)
    (now : Nat) : take_higher_priority_envelope s l selected it now =
      (found s l selected it now .EmergencyResult).or
        ((found s l selected it now .CommandResult).or
          ((found s l selected it now .GroundTimeRequest).or
            (found s l selected it now .Recovery))) := by
  simp only [take_higher_priority_envelope, found, eligible, Bool.and_assoc]
  rfl

theorem found_none {s : LoraShared} {l : LoraLoop} {selected source : LoRaTxSource}
    {it : Iteration} {now : Nat} (hsource : is_higher_priority source selected = true)
    (h : found s l selected it now source = none) :
    waiting s l.toHeldVars it selected now source = [] := by
  cases source
  case Periodic => rfl
  case Recovery =>
    simp only [found, hsource, Bool.true_and] at h
    simp only [waiting]
    split at h <;> rename_i heligible
    · rw [if_pos heligible]
      split at h <;> rename_i hpending
      · simp at h
      · simpa [hpending] using take_queued_none.mp h
    · rw [if_neg heligible]
  all_goals
    simp only [found, hsource, if_true] at h
    exact take_queued_none.mp h

theorem found_some {s : LoraShared} {l : LoraLoop} {selected source : LoRaTxSource}
    {it : Iteration} {now : Nat} {taken : Taken}
    (h : found s l selected it now source = some taken) :
    is_higher_priority source selected = true ∧
      (waiting s l.toHeldVars it selected now source).head? = some taken.envelope ∧
      Gets s l.pending_recovery source taken.envelope taken.shared taken.pending_recovery
        taken.reports := by
  cases source
  case Recovery =>
    simp only [found] at h
    split at h <;> rename_i hallowed
    · rw [Bool.and_eq_true] at hallowed
      simp only [waiting, if_pos hallowed.2]
      refine ⟨hallowed.1, ?_⟩
      split at h <;> rename_i hpending
      · rw [Option.some.injEq] at h
        subst h
        exact ⟨by simp [hpending], .held hpending⟩
      · obtain ⟨hreceived, hp, hr⟩ := take_queued_some h
        rw [hp, hr, hpending]
        exact ⟨by simp [hreceived.items], .queued hreceived fun _ => rfl⟩
    · simp at h
  all_goals
    simp only [found] at h
    split at h <;> rename_i hsource
    · obtain ⟨hreceived, hp, hr⟩ := take_queued_some h
      rw [hp, hr]
      exact ⟨hsource, by simp [waiting, hreceived.items], .queued hreceived (by simp)⟩
    · simp at h

/-- Nothing of a source above the selected one is waiting. -/
theorem take_higher_none {s : LoraShared} {l : LoraLoop} {selected : LoRaTxSource}
    {it : Iteration} {now : Nat}
    (h : take_higher_priority_envelope s l selected it now = none) (other : LoRaTxSource)
    (hother : is_higher_priority other selected = true) :
    waiting s l.toHeldVars it selected now other = [] := by
  simp only [take_higher_eq, Option.or_eq_none_iff] at h
  obtain ⟨he, hc, hg, hr⟩ := h
  cases other
  case Periodic => rfl
  all_goals exact found_none hother ‹_›

theorem take_higher_some {s : LoraShared} {l : LoraLoop} {selected : LoRaTxSource}
    {it : Iteration} {now : Nat} {taken : Taken}
    (h : take_higher_priority_envelope s l selected it now = some taken) :
    ∃ source, Replaces s l.toHeldVars it selected now source taken.envelope ∧
      Gets s l.pending_recovery source taken.envelope taken.shared taken.pending_recovery
        taken.reports := by
  simp only [take_higher_eq, Option.or_eq_some_iff] at h
  have hfound : ∃ source, found s l selected it now source = some taken ∧
      ∀ other, is_higher_priority other source = true → found s l selected it now other = none := by
    rcases h with he | ⟨he, hc | ⟨hc, hg | ⟨hg, hr⟩⟩⟩
    · refine ⟨_, he, fun other hother => ?_⟩
      cases other <;> exact absurd hother (by decide)
    · refine ⟨_, hc, fun other hother => ?_⟩
      cases other <;> first | exact he | exact absurd hother (by decide)
    · refine ⟨_, hg, fun other hother => ?_⟩
      cases other <;> first | exact he | exact hc | exact absurd hother (by decide)
    · refine ⟨_, hr, fun other hother => ?_⟩
      cases other <;> first | exact he | exact hc | exact hg | exact absurd hother (by decide)
  obtain ⟨source, hsource, hother⟩ := hfound
  obtain ⟨higher, oldest, gets⟩ := found_some hsource
  refine ⟨source, ⟨higher, oldest, fun other habove => ?_⟩, gets⟩
  exact found_none (higher_trans habove higher) (hother other habove)

theorem reselect_turns {w : LoraTx} {it : Iteration} {e : LoRaTxEnvelope} {regular : Bool}
    {choice : Choice} (now : Nat) (hpoint : w.point = .Prepare it e regular choice) :
    Turns now w (w.reselect it e regular choice now) := by
  unfold reselect Turns
  rw [hpoint]
  split <;> rename_i htake
  · exact .kept (take_higher_none htake)
  · obtain ⟨source, replaces, gets⟩ := take_higher_some htake
    exact .preempted replaces gets (same_of_channels rfl rfl)

/-- What an attempt changes. -/
structure Attempted (w w' : LoraTx) (e : LoRaTxEnvelope) (ok : Bool) : Prop where
  same : Same w.shared w'.shared
  held : ∃ next_recovery_at, w'.loop.toHeldVars = { w.loop.toHeldVars with
    next_recovery_at
    recovery_sent_since_periodic :=
      update_recovery_fairness w.loop.recovery_sent_since_periodic e.source }
  point : w'.point =
    if should_clear_periodic_events e.source ok e.interval_events then .Clear e else .Top

theorem complete_attempt_attempts (w : LoraTx) (it : Iteration) (e : LoRaTxEnvelope)
    (displaced : Bool) (choice : Choice) (ok : Bool) (completed_at skipped_at : Nat) :
    Attempted w (w.complete_attempt it e displaced choice ok completed_at skipped_at).1 e ok := by
  unfold complete_attempt
  dsimp only
  generalize hskip : skip_overdue_periodic_deadlines _ skipped_at = skipped
  obtain ⟨hsame, hheld, -⟩ := skip_overdue_keeps hskip
  refine ⟨⟨hsame.queue, hsame.can_cache⟩, ?_, rfl⟩
  dsimp only
  split <;> exact ⟨_, hheld⟩

theorem complete_attempt_reports (w : LoraTx) (it : Iteration) (e : LoRaTxEnvelope)
    (displaced : Bool) (choice : Choice) (ok : Bool) (completed_at skipped_at : Nat) :
    (w.complete_attempt it e displaced choice ok completed_at skipped_at).2 =
      [.attempted e it choice ok] := rfl

theorem prepare_failed_turns {w : LoraTx} {it : Iteration} {e : LoRaTxEnvelope} {regular : Bool}
    {choice : Choice} (now completed_at skipped_at : Nat)
    (hpoint : w.point = .Prepare it e regular choice) :
    Turns now w (w.complete_attempt it e false choice false completed_at skipped_at) := by
  obtain ⟨hsame, ⟨next, hheld⟩, hafter⟩ :=
    complete_attempt_attempts w it e false choice false completed_at skipped_at
  unfold Turns
  rw [hpoint, hheld, hafter, complete_attempt_reports]
  simp only [should_clear_periodic_events, Bool.and_false, Bool.false_and, Bool.false_eq_true,
    if_false]
  exact .prepare_failed hsame

theorem transmitted_turns {w : LoraTx} {it : Iteration} {e : LoRaTxEnvelope} {displaced : Bool}
    {choice : Choice} (ok : Bool) (now completed_at skipped_at : Nat)
    (hpoint : w.point = .Transmit it e displaced choice) :
    Turns now w (w.complete_attempt it e displaced choice ok completed_at skipped_at) := by
  obtain ⟨hsame, ⟨next, hheld⟩, hafter⟩ :=
    complete_attempt_attempts w it e displaced choice ok completed_at skipped_at
  unfold Turns
  rw [hpoint, hheld, complete_attempt_reports]
  exact .transmitted hsame hafter

/-! ## Steps -/

/-- The last of several readings is the latest. -/
theorem read_clock_last {now last : Nat} {readings : List Nat}
    (h : read_clock now readings = some last) : last = readings.getLastD now := by
  induction readings generalizing now with
  | nil => simpa [read_clock] using h.symm
  | cons reading rest ih =>
    simp only [read_clock] at h
    split at h
    · rw [ih h, List.getLastD_cons]
    · simp at h

theorem step_loop_turns {w w' : LoraTx} {a : Action} {reports : List LoraReport} {now : Nat}
    (hclock : read_clock now (readings a) = some w.now)
    (h : step_loop w a = some (w', reports)) : Turns w.now w (w', reports) := by
  have hlast := read_clock_last hclock
  unfold step_loop at h
  split at h
  case h_9 => simp at h
  all_goals
    rename_i hpoint
    simp only [readings, List.getLastD_cons, List.getLastD_nil] at hlast
  case h_1 => rw [← Option.some.inj h, hlast]; exact begin_iteration_turns w _ hpoint
  case h_2 => rw [hlast]; exact select_turns hpoint h
  case h_3 =>
    rw [← Option.some.inj h, hlast]
    unfold snapshot Turns
    rw [hpoint]
    exact .snapshot
  case h_4 => rw [← Option.some.inj h, hlast]; exact build_turns _ hpoint
  case h_5 => rw [← Option.some.inj h, hlast]; exact reselect_turns _ hpoint
  case h_6 => rw [← Option.some.inj h]; exact prepare_failed_turns _ _ _ hpoint
  case h_7 => rw [← Option.some.inj h]; exact transmitted_turns _ _ _ _ hpoint
  case h_8 =>
    rw [← Option.some.inj h]
    unfold clear_events Turns
    rw [hpoint]
    exact .cleared

/-- What a step of another task does to the events in the cache. -/
inductive Cached (cache cache' : CanCache) : List LoraReport → Prop where
  | kept (flags : cache'.event_flags_latched = cache.event_flags_latched)
      (revision : cache'.event_revision = cache.event_revision) : Cached cache cache' []
  | event {flags : UInt16}
      (latched : cache'.event_flags_latched = cache.event_flags_latched ||| flags)
      (revision : cache'.event_revision = cache.event_revision + 1) :
      Cached cache cache' [.mission_event flags]

/-- A step of another task. A queue gets envelopes of its own source only. -/
structure Arrives (s s' : LoraShared) (reports : List LoraReport) : Prop where
  sources : ∀ source, ∀ e ∈ queue s' source, e ∈ queue s source ∨ e.source = source
  cached : Cached s.can_cache s'.can_cache reports

theorem offer_mem {n : Nat} (c : Channel LoRaTxEnvelope n) (e : LoRaTxEnvelope) :
    ∀ e' ∈ (c.offer e).1.items, e' ∈ c.items ∨ e'.source = e.source := by
  intro e' he'
  rw [Channel.offer_items] at he'
  split at he'
  · rcases List.mem_append.mp he' with he' | he'
    · exact .inl he'
    · exact .inr (by rw [List.mem_singleton.mp he'])
  · exact .inl he'

/-- The oldest ground time request may make room for the new one. -/
theorem queue_ground_time_request_mem (s : LoraChannels) (request_id : UInt8)
    (previous : Option UInt8) :
    ∀ e ∈ (s.queue_ground_time_request request_id previous).1.ground_time_request_lora_channel.items,
      e ∈ s.ground_time_request_lora_channel.items ∨ e.source = .GroundTimeRequest := by
  intro e he
  unfold LoraChannels.queue_ground_time_request at he
  dsimp only at he
  split at he
  · exact .inl he
  · split at he
    · exact .inl he
    · refine (offer_mem _ _ e he).imp_left fun he => ?_
      split at he
      · cases hreceive : s.ground_time_request_lora_channel.try_receive with
        | none => simpa [hreceive] using he
        | some received =>
          rw [hreceive] at he
          rw [Channel.try_receive_some (a := received.1) (d := received.2) hreceive]
          exact List.mem_cons_of_mem _ he
      · exact he

theorem arrives_of_channels {s : LoraShared} {channels : LoraChannels}
    (h : ∀ source, ∀ e ∈ queue { s with toLoraChannels := channels } source,
      e ∈ queue s source ∨ e.source = source) :
    Arrives s { s with toLoraChannels := channels } [] := ⟨h, .kept rfl rfl⟩

theorem step_other_arrives {s s' : LoraShared} {a : Action} {reports : List LoraReport}
    (h : step_other s a = some (s', reports)) : Arrives s s' reports := by
  cases a <;> first
    | obtain ⟨rfl, rfl⟩ := Prod.mk.inj (Option.some.inj h)
    | cases h
  case queue_emergency_result result =>
    refine arrives_of_channels fun source e he => ?_
    unfold LoraChannels.queue_emergency_result at he
    split at he
    · exact .inl he
    · cases source <;> first | exact .inl he | exact offer_mem _ _ e he
  case queue_command_result packet =>
    refine arrives_of_channels fun source e he => ?_
    unfold LoraChannels.queue_command_result at he
    split at he
    · exact .inl he
    · cases source <;> first | exact .inl he | exact offer_mem _ _ e he
  case queue_recovery_chunk chunk =>
    refine arrives_of_channels fun source e he => ?_
    unfold LoraChannels.queue_recovery_chunk at he
    split at he
    · exact .inl he
    · cases source <;> first | exact .inl he | exact offer_mem _ _ e he
  case queue_ground_time_request request_id previous =>
    refine arrives_of_channels fun source e he => ?_
    cases source
    case GroundTimeRequest => exact queue_ground_time_request_mem _ _ _ e he
    all_goals
      refine .inl ?_
      unfold LoraChannels.queue_ground_time_request at he
      dsimp only at he
      split at he
      · exact he
      · split at he <;> exact he
  case can_receive message received_at_ms =>
    refine ⟨fun source e he => .inl he, ?_⟩
    cases message <;> try exact .kept rfl rfl
    case MissionEvent event =>
      dsimp only
      split
      · exact .kept rfl rfl
      · exact .event rfl rfl
  all_goals exact ⟨fun source e he => .inl he, .kept rfl rfl⟩

/-- What a step is. -/
inductive Stepped (w : LoraTx) (a : Action) (w' : LoraTx) (reports : List LoraReport) : Prop where
  | other (hother : step_other w.shared a = some (w'.shared, reports))
      (arrives : Arrives w.shared w'.shared reports) (hloop : w'.loop = w.loop)
      (hpoint : w'.point = w.point) (hclock : read_clock w.now (readings a) = some w'.now)
  | turn {now : Nat} (hclock : read_clock w.now (readings a) = some now)
      (hstep : step_loop { w with now } a = some (w', reports))
      (turn : Turn now w.shared w.loop.toHeldVars w.point w'.shared w'.loop.toHeldVars w'.point
        reports)

theorem step_stepped {w w' : LoraTx} {a : Action} {reports : List LoraReport}
    (h : machine.step w a = some (w', reports)) : Stepped w a w' reports := by
  simp only [machine, LoraTx.step] at h
  split at h <;> rename_i hclock
  · simp at h
  · split at h <;> rename_i hother
    · simp only [Option.some.injEq, Prod.mk.injEq] at h
      obtain ⟨rfl, rfl⟩ := h
      exact .other hother (step_other_arrives hother) rfl rfl hclock
    · exact .turn hclock h (step_loop_turns hclock h)

/-! ## Every envelope is where its source belongs -/

structure Placed (s : LoraShared) (h : HeldVars) : Prop where
  queues : ∀ source, ∀ e ∈ queue s source, e.source = source
  pending : ∀ e, h.pending_recovery = some e → e.source = .Recovery

theorem Gets.queues {s s' : LoraShared} {pending pending' : Option LoRaTxEnvelope}
    {source : LoRaTxSource} {e : LoRaTxEnvelope} {reports : List LoraReport}
    (h : Gets s pending source e s' pending' reports) :
    ∀ other, ∀ e ∈ queue s' other, e ∈ queue s other := by
  intro other e' he'
  cases h with
  | held => exact he'
  | queued h =>
    by_cases hother : other = source
    · rw [hother] at he' ⊢
      rw [h.items]
      exact List.mem_cons_of_mem _ he'
    · rwa [h.others other hother] at he'

theorem Gets.source {s s' : LoraShared} {h : HeldVars} {pending' : Option LoRaTxEnvelope}
    {source : LoRaTxSource} {e : LoRaTxEnvelope} {reports : List LoraReport}
    (gets : Gets s h.pending_recovery source e s' pending' reports) (placed : Placed s h) :
    e.source = source := by
  cases gets with
  | held h => exact placed.pending e h
  | queued h => exact placed.queues source e (by rw [h.items]; exact List.mem_cons_self)

/-- No queue holds a Periodic envelope. -/
theorem Gets.not_periodic {s s' : LoraShared} {h : HeldVars} {pending' : Option LoRaTxEnvelope}
    {source : LoRaTxSource} {e : LoRaTxEnvelope} {reports : List LoraReport}
    (gets : Gets s h.pending_recovery source e s' pending' reports) (placed : Placed s h) :
    e.source ≠ .Periodic := by
  rw [gets.source placed]
  cases gets with
  | held => simp
  | queued hreceived =>
    rintro rfl
    simpa [queue] using hreceived.items

theorem Gets.pending {s s' : LoraShared} {pending pending' : Option LoRaTxEnvelope}
    {source : LoRaTxSource} {e : LoRaTxEnvelope} {reports : List LoraReport}
    (h : Gets s pending source e s' pending' reports) : pending' = none ∨ pending' = pending := by
  cases h with
  | held => exact .inl rfl
  | queued => exact .inr rfl

theorem Gets.recovery_pending {s s' : LoraShared} {pending pending' : Option LoRaTxEnvelope}
    {e : LoRaTxEnvelope} {reports : List LoraReport}
    (h : Gets s pending .Recovery e s' pending' reports) : pending' = none := by
  cases h with
  | held => rfl
  | queued _ hfree => exact hfree rfl

theorem Placed.gets {s s' : LoraShared} {h : HeldVars} {pending : Option LoRaTxEnvelope}
    {source : LoRaTxSource} {e : LoRaTxEnvelope} {reports : List LoraReport} (placed : Placed s h)
    (gets : Gets s h.pending_recovery source e s' pending reports) :
    Placed s' { h with pending_recovery := pending } := by
  refine ⟨fun other e' he' => placed.queues other e' (gets.queues other e' he'), ?_⟩
  intro e' he'
  rcases gets.pending with hp | hp
  · simp [hp] at he'
  · exact placed.pending e' (hp.symm.trans he')

theorem Placed.same {s s' : LoraShared} {h h' : HeldVars} (placed : Placed s h)
    (hqueue : ∀ source, queue s' source = queue s source)
    (hpending : h'.pending_recovery = h.pending_recovery) : Placed s' h' :=
  ⟨fun source e he => placed.queues source e (hqueue source ▸ he),
    fun e he => placed.pending e (hpending ▸ he)⟩

theorem Placed.turn {now : Nat} {s s' : LoraShared} {h h' : HeldVars} {point point' : LoraPoint}
    {reports : List LoraReport} (placed : Placed s h)
    (turn : Turn now s h point s' h' point' reports) : Placed s' h' := by
  cases turn with
  | deferred | waits | periodic | snapshot | kept => exact placed.same (fun _ => rfl) rfl
  | selected gets => exact placed.gets gets
  | put_back gets =>
    refine ⟨(placed.gets gets).queues, fun e' he' => ?_⟩
    rw [← Option.some.inj he']
    exact gets.source placed
  | preempted _ gets same => exact (placed.gets gets).same same.queue rfl
  | cleared => exact placed.same (fun source => by cases source <;> rfl) rfl
  | control_roll same | no_event_packet same | no_packet same | built same | prepare_failed same
  | transmitted same => exact placed.same same.queue rfl

theorem placed_step {w w' : LoraTx} {a : Action} {reports : List LoraReport}
    (placed : Placed w.shared w.loop.toHeldVars) (h : machine.step w a = some (w', reports)) :
    Placed w'.shared w'.loop.toHeldVars := by
  cases step_stepped h with
  | other _ arrives hloop =>
    rw [hloop]
    refine ⟨fun source e he => ?_, placed.pending⟩
    exact (arrives.sources source e he).elim (placed.queues source e) id
  | turn _ _ turn => exact placed.turn turn

theorem placed_run {ok : LoraTx → Action → Prop} {past : List LoraReport} {w : LoraTx}
    (run : Machine.Run machine ok past w) : Placed w.shared w.loop.toHeldVars := by
  refine run.always (I := fun w => Placed w.shared w.loop.toHeldVars) ?_ ?_
  · rintro w ⟨started_at, now, -, -, rfl⟩
    exact ⟨fun source e he => by cases source <;> simp [queue, LoraShared.new] at he,
      fun e he => by simp [LoraLoop.new] at he⟩
  · exact fun w a w' reports placed _ h => placed_step placed h

/-! ## Attempts -/

theorem Cached.mission {cache cache' : CanCache} {reports : List LoraReport}
    (h : Cached cache cache' reports) : ∀ r ∈ reports, ∃ flags, r = .mission_event flags := by
  intro r hr
  cases h with
  | kept => simp at hr
  | event => exact ⟨_, List.mem_singleton.mp hr⟩

/-- The envelope is being prepared or transmitted. -/
def Attempting (e : LoRaTxEnvelope) (it : Iteration) (choice : Choice) (point : LoraPoint) : Prop :=
  (∃ regular, point = .Prepare it e regular choice) ∨
    ∃ displaced, point = .Transmit it e displaced choice

/-- An attempt is of the envelope in hand, and its step reports nothing else. -/
theorem attempt_turn {now : Nat} {s s' : LoraShared} {h h' : HeldVars} {point point' : LoraPoint}
    {reports : List LoraReport} {e : LoRaTxEnvelope} {it : Iteration} {choice : Choice} {ok : Bool}
    (turn : Turn now s h point s' h' point' reports) (he : .attempted e it choice ok ∈ reports) :
    reports = [.attempted e it choice ok] ∧ Attempting e it choice point := by
  cases turn with
  | selected gets | put_back gets => cases gets <;> simp at he
  | preempted _ gets => cases gets <;> simp at he
  | prepare_failed =>
    simp only [List.mem_singleton, LoraReport.attempted.injEq] at he
    obtain ⟨rfl, rfl, rfl, rfl⟩ := he
    exact ⟨rfl, .inl ⟨_, rfl⟩⟩
  | transmitted =>
    simp only [List.mem_singleton, LoraReport.attempted.injEq] at he
    obtain ⟨rfl, rfl, rfl, rfl⟩ := he
    exact ⟨rfl, .inr ⟨_, rfl⟩⟩
  | _ => simp at he

theorem attempted_in_hand {ok : LoraTx → Action → Prop} {past before after : List LoraReport}
    {w : LoraTx} {e : LoRaTxEnvelope} {it : Iteration} {choice : Choice} {transmitted : Bool}
    (run : Machine.Run machine ok past w)
    (hpast : past = before ++ .attempted e it choice transmitted :: after) :
    ∃ v, Machine.Run machine ok before v ∧ Attempting e it choice v.point := by
  obtain ⟨past', v, a, v', new, later, run', hstep, hbefore⟩ := run.reported hpast
  cases step_stepped hstep with
  | other _ arrives =>
    obtain ⟨flags, hflags⟩ := arrives.cached.mission (.attempted e it choice transmitted) (by simp)
    simp at hflags
  | turn _ _ turn =>
    have hmem : .attempted e it choice transmitted ∈
        new ++ .attempted e it choice transmitted :: later := by simp
    obtain ⟨hreports, hattempting⟩ := attempt_turn turn hmem
    have hnew : new = [] := by
      cases new with
      | nil => rfl
      | cons r new => simp at hreports
    refine ⟨v, ?_, hattempting⟩
    rwa [hbefore, hnew, List.append_nil]

/-! ## Runs on fixed inputs -/

/-- The loop, entered when the clock is at zero. -/
def entered : LoraTx where
  shared := .new
  loop := .new 0 0
  point := .Top
  now := 0

theorem entered_starts : machine.start entered := ⟨0, 0, le_rfl, Nat.zero_le _, rfl⟩

def result (transaction_id : UInt8) : CommandResult where
  transaction_id
  command := 1
  phase := .Completed
  reason := .None
  detail := 0

def chunk (offset : UInt32) : RecoveryChunk where
  transfer_id := 1
  source := .InternalFlash
  end_of_file := false
  offset
  data_length := 16
  data := .replicate 16 0

end Comboard.LoraSteps
