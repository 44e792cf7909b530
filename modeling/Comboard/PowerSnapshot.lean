import Comboard.Telemetry

/-!
# The power snapshot of a recovery period

The task finds a new `0x103` by the stamp of an entry that it stamps too, and it samples the flag of
the mode. So a frame can come where the task does not see it.
-/

namespace Comboard.PowerSnapshot

open CanRxMessage Telemetry

/-! ## What the entry should show -/

/-- The recovery period, as its frames tell it. -/
structure Period where
  active : Bool
  /-- The last `0x103` since the activation, with its time. -/
  newest : Option (PowerTimeTelemetry × Nat)
  /-- A tick has come since the activation and since that frame. -/
  shown : Bool
  deriving DecidableEq

def Period.new : Period where
  active := false
  newest := none
  shown := false

def observe (p : Period) : LinkAction → Period
  | .received identifier data received_at_ms =>
    if identifier = 0x014 then
      if RecoveryModeCommand data ∧ ¬ p.active then
        { active := true, newest := none, shown := false }
      else p
    else if identifier = 0x103 ∧ (decode_standard 0x103 data).isOk then
      { p with newest := some (power_time data, received_at_ms), shown := false }
    else p
  | .exit_recovery => { p with active := false }
  | .power_tick _ => { p with shown := true }
  | .clear_event_flags _ _ => p

def period (actions : List LinkAction) : Period := actions.foldl observe .new

@[simp]
theorem period_snoc (actions : List LinkAction) (action : LinkAction) :
    period (actions ++ [action]) = observe (period actions) action := by
  unfold period
  rw [List.foldl_append, List.foldl_cons, List.foldl_nil]

/-- The codes of a snapshot without a value. -/
def Codes (entry : Latest PowerTimeTelemetry) (voltage : UInt8) (elapsed : UInt16) : Prop :=
  ∃ snapshot, entry.value = some snapshot ∧ snapshot.logic_voltage = voltage ∧
    snapshot.motor_voltage = voltage ∧ snapshot.recovery_elapsed = elapsed

/-- The newest frame of the period while it is at most 30 s old, else the stale codes. -/
def Shows (entry : Latest PowerTimeTelemetry) (newest : Option (PowerTimeTelemetry × Nat))
    (now_ms : Nat) : Prop :=
  match newest with
  | none => Codes entry 255 0xfff1
  | some (value, received_at_ms) =>
    if now_ms - received_at_ms ≤ 30000 then entry.value = some value else Codes entry 253 0xfffa

/-- A value of the period, or a substitute. -/
def OfPeriod (snapshot : PowerTimeTelemetry) (newest : Option (PowerTimeTelemetry × Nat)) : Prop :=
  snapshot = unavailable_snapshot ∨ ∃ value received_at_ms, newest = some (value, received_at_ms) ∧
    (snapshot = value ∨ snapshot = stale_snapshot value)

/-! ## What the task sees -/

/-- The next tick finds what came since the last one: a frame comes after the task knows of the
period, and not in the millisecond of the last tick; and a period without a frame is not taken for
the one before it. -/
def Sees (task : RecoveryPowerTask) (p : Period) : Prop :=
  p.active = true → p.shown = false →
    match p.newest with
    | some (_, received_at_ms) =>
      task.active_previous = true ∧ task.last_refresh_received_at_ms ≠ some received_at_ms
    | none =>
      task.active_previous = true →
        task.snapshot = unavailable_snapshot ∧ task.snapshot_source_received_at_ms = none

def EachTickSees (actions : List LinkAction) : Prop :=
  ∀ before now_ms after, actions = before ++ .power_tick now_ms :: after →
    Sees (Link.run before).power_task (period before)

/-- The times of the run do not decrease. -/
def Ordered (actions : List LinkAction) : Prop :=
  (actions.filterMap LinkAction.at_ms).Pairwise (· ≤ ·)

/-- What the task holds right after a refresh. -/
def Follows (task : RecoveryPowerTask) (newest : Option (PowerTimeTelemetry × Nat))
    (now_ms : Nat) : Prop :=
  match newest with
  | none => task.snapshot = unavailable_snapshot ∧ task.snapshot_source_received_at_ms = none
  | some (value, received_at_ms) =>
    if now_ms - received_at_ms ≤ 30000 then
      task.snapshot = value ∧ task.snapshot_source_received_at_ms = some received_at_ms
    else
      task.snapshot = stale_snapshot value ∧ task.snapshot_source_received_at_ms = none

/-- What it holds right before it looks at the age. -/
def Holds (task : RecoveryPowerTask) (newest : Option (PowerTimeTelemetry × Nat))
    (now_ms : Nat) : Prop :=
  match newest with
  | none => task.snapshot = unavailable_snapshot ∧ task.snapshot_source_received_at_ms = none
  | some (value, received_at_ms) =>
    (task.snapshot = value ∧ task.snapshot_source_received_at_ms = some received_at_ms ∧
      received_at_ms ≤ now_ms) ∨
    (task.snapshot = stale_snapshot value ∧ task.snapshot_source_received_at_ms = none ∧
      30000 < now_ms - received_at_ms)

theorem Follows.holds {task : RecoveryPowerTask} {newest : Option (PowerTimeTelemetry × Nat)}
    {refreshed_at now_ms : Nat} (h : Follows task newest refreshed_at)
    (hrefreshed : refreshed_at ≤ now_ms)
    (hreceived : ∀ value received_at_ms, newest = some (value, received_at_ms) →
      received_at_ms ≤ now_ms) : Holds task newest now_ms := by
  cases newest with
  | none => exact h
  | some frame =>
    obtain ⟨value, received_at_ms⟩ := frame
    unfold Follows at h
    dsimp only at h
    split at h
    · exact .inl ⟨h.1, h.2, hreceived value received_at_ms rfl⟩
    · exact .inr ⟨h.1, h.2, by omega⟩

theorem expire_follows {task : RecoveryPowerTask} {newest : Option (PowerTimeTelemetry × Nat)}
    {now_ms : Nat} (h : Holds task newest now_ms) : Follows (task.expire now_ms) newest now_ms := by
  unfold RecoveryPowerTask.expire
  cases newest with
  | none =>
    obtain ⟨hsnapshot, hsource⟩ := h
    rw [hsource]
    exact ⟨hsnapshot, hsource⟩
  | some frame =>
    obtain ⟨value, received_at_ms⟩ := frame
    unfold Follows
    rcases h with ⟨hsnapshot, hsource, hreceived⟩ | ⟨hsnapshot, hsource, hold⟩
    · have hage : (some received_at_ms).bind (Lib.checked_sub now_ms) =
          some (now_ms - received_at_ms) := if_pos hreceived
      rw [hsource, hage, hsnapshot]
      by_cases hfresh : now_ms - received_at_ms ≤ 30000
      · have hkept : ¬ 30000 < now_ms - received_at_ms := by omega
        simp [hfresh, hkept, RECOVERY_POWER_FRESHNESS_MS, hsource, hsnapshot]
      · have hexpired : 30000 < now_ms - received_at_ms := by omega
        simp [hfresh, hexpired, RECOVERY_POWER_FRESHNESS_MS]
    · rw [hsource]
      have hstale : ¬ now_ms - received_at_ms ≤ 30000 := by omega
      simp [hstale, hsource, hsnapshot]

/-! ## One tick -/

/-- The entry after a clear or a frame. -/
def received_entry : Option (PowerTimeTelemetry × Nat) → Latest PowerTimeTelemetry
  | none => .new
  | some (value, received_at_ms) => .update value received_at_ms

/-- A run, and its period. -/
structure Tracks (past : List LinkAction) (s : Link) (p : Period) : Prop where
  active : s.recovery_beacon_active = p.active
  received : ∀ now_ms, Later now_ms past → ∀ value received_at_ms,
    p.newest = some (value, received_at_ms) → received_at_ms ≤ now_ms
  waiting : p.active = true → p.shown = false → s.can_cache.power_time = received_entry p.newest
  refreshed : p.active = true → p.shown = true → ∃ refreshed_at,
    (∀ now_ms, Later now_ms past → refreshed_at ≤ now_ms) ∧
    s.power_task.active_previous = true ∧
    s.power_task.last_refresh_received_at_ms = some refreshed_at ∧
    s.can_cache.power_time = .update s.power_task.snapshot refreshed_at ∧
    Follows s.power_task p.newest refreshed_at

/-- What a tick leaves in the recovery mode. -/
structure Refreshed (s : Link) (newest : Option (PowerTimeTelemetry × Nat)) (now_ms : Nat) :
    Prop where
  active_previous : s.power_task.active_previous = true
  last_refresh : s.power_task.last_refresh_received_at_ms = some now_ms
  entry : s.can_cache.power_time = .update s.power_task.snapshot now_ms
  follows : Follows s.power_task newest now_ms

theorem take_update_seen {task : RecoveryPowerTask} {value : PowerTimeTelemetry}
    {received_at_ms : Nat} (h : task.last_refresh_received_at_ms ≠ some received_at_ms) :
    task.take_update (.update value received_at_ms) =
      { task with
        snapshot := value
        snapshot_source_received_at_ms := some received_at_ms } := by
  unfold RecoveryPowerTask.take_update
  exact if_pos ⟨rfl, fun heq => h heq.symm⟩

theorem take_update_own {task : RecoveryPowerTask} {value : PowerTimeTelemetry}
    {received_at_ms : Nat} (h : task.last_refresh_received_at_ms = some received_at_ms) :
    task.take_update (.update value received_at_ms) = task := by
  unfold RecoveryPowerTask.take_update
  exact if_neg fun hnew => hnew.2 h.symm

/-- What the task has found when it looks at the age. -/
theorem take_update_holds {past : List LinkAction} {s : Link} {p : Period} {now_ms : Nat}
    (htracks : Tracks past s p) (hsees : Sees s.power_task p) (hnow : Later now_ms past)
    (hactive : p.active = true) (hprevious : s.power_task.active_previous = true) :
    Holds (s.power_task.take_update s.can_cache.power_time) p.newest now_ms := by
  cases hshown : p.shown with
  | true =>
    obtain ⟨refreshed_at, hrefreshed, -, hlast, hentry, hfollows⟩ := htracks.refreshed hactive hshown
    rw [hentry, take_update_own hlast]
    exact hfollows.holds (hrefreshed now_ms hnow) (htracks.received now_ms hnow)
  | false =>
    have hseen := hsees hactive hshown
    rw [htracks.waiting hactive hshown]
    cases hnewest : p.newest with
    | none =>
      rw [hnewest] at hseen
      exact hseen hprevious
    | some frame =>
      obtain ⟨value, received_at_ms⟩ := frame
      rw [hnewest] at hseen
      have htake : s.power_task.take_update (received_entry (some (value, received_at_ms))) = _ :=
        take_update_seen hseen.2
      rw [htake]
      exact .inl ⟨rfl, rfl, htracks.received now_ms hnow value received_at_ms hnewest⟩

theorem tick_refreshed {past : List LinkAction} {s : Link} {p : Period} {now_ms : Nat}
    (htracks : Tracks past s p) (hsees : Sees s.power_task p) (hnow : Later now_ms past)
    (hactive : p.active = true) : Refreshed (s.step (.power_tick now_ms)) p.newest now_ms := by
  have hbeacon : s.recovery_beacon_active = true := htracks.active.trans hactive
  simp only [Link.step, RecoveryPowerTask.iteration, hbeacon]
  cases hprevious : s.power_task.active_previous with
  | true =>
    have hholds := take_update_holds htracks hsees hnow hactive hprevious
    exact ⟨rfl, rfl, rfl, expire_follows hholds⟩
  | false =>
    -- the first tick: nothing may have come before it
    have hshown : p.shown = false := by
      cases hshown : p.shown with
      | false => rfl
      | true =>
        obtain ⟨_, -, htrue, -⟩ := htracks.refreshed hactive hshown
        exact absurd htrue (by rw [hprevious]; exact Bool.false_ne_true)
    have hseen := hsees hactive hshown
    cases hnewest : p.newest with
    | none => exact ⟨rfl, rfl, rfl, rfl, rfl⟩
    | some frame =>
      rw [hnewest] at hseen
      exact absurd hseen.1 (by rw [hprevious]; exact Bool.false_ne_true)

theorem Refreshed.shows {s : Link} {newest : Option (PowerTimeTelemetry × Nat)} {now_ms : Nat}
    (h : Refreshed s newest now_ms) : Shows s.can_cache.power_time newest now_ms := by
  have hfollows := h.follows
  have hvalue : s.can_cache.power_time.value = some s.power_task.snapshot := by
    rw [h.entry]
    rfl
  unfold Shows
  unfold Follows at hfollows
  cases newest with
  | none => exact ⟨_, hvalue, by rw [hfollows.1]; exact ⟨rfl, rfl, rfl⟩⟩
  | some frame =>
    obtain ⟨value, received_at_ms⟩ := frame
    dsimp only at hfollows ⊢
    split at hfollows <;> rename_i hage
    · rw [if_pos hage, hvalue, hfollows.1]
    · rw [if_neg hage]
      exact ⟨_, hvalue, by rw [hfollows.1]; exact ⟨rfl, rfl, rfl⟩⟩

/-! ## The other steps -/

theorem later_of_snoc {past : List LinkAction} {action : LinkAction} {now_ms : Nat}
    (h : Later now_ms (past ++ [action])) : Later now_ms past :=
  fun a ha => h a (List.mem_append_left _ ha)

section Steps

variable {past : List LinkAction} {s s' : Link} {p p' : Period}

/-- A step that touches neither the entry nor the task. -/
theorem Tracks.keep (h : Tracks past s p) (action : LinkAction)
    (hactive : s'.recovery_beacon_active = s.recovery_beacon_active)
    (htask : s'.power_task = s.power_task)
    (hentry : s'.can_cache.power_time = s.can_cache.power_time) :
    Tracks (past ++ [action]) s' p where
  active := hactive.trans h.active
  received now_ms hnow := h.received now_ms (later_of_snoc hnow)
  waiting hp hshown := hentry.trans (h.waiting hp hshown)
  refreshed hp hshown := by
    obtain ⟨refreshed_at, hrefreshed, hrest⟩ := h.refreshed hp hshown
    rw [htask, hentry]
    exact ⟨refreshed_at, fun now_ms hnow => hrefreshed now_ms (later_of_snoc hnow), hrest⟩

theorem mode_tracks (h : Tracks past s p) (data : List UInt8) (received_at_ms : Nat) :
    Tracks (past ++ [.received 0x014 data received_at_ms])
      (s.step (.received 0x014 data received_at_ms))
      (observe p (.received 0x014 data received_at_ms)) := by
  have hstep : s.step (.received 0x014 data received_at_ms) =
      { s with toLinkState := s.handle_received_frame 0x014 data received_at_ms } := rfl
  rw [hstep, mode_frame]
  by_cases hcommand : RecoveryModeCommand data
  · rw [if_pos hcommand]
    cases hactive : p.active with
    | true =>
      have hbeacon : s.recovery_beacon_active = true := h.active.trans hactive
      have hobserve : observe p (.received 0x014 data received_at_ms) = p := by
        simp [observe, hactive]
      rw [hobserve, if_pos hbeacon]
      exact h.keep _ hbeacon.symm rfl rfl
    | false =>
      have hbeacon : s.recovery_beacon_active = false := h.active.trans hactive
      have hobserve : observe p (.received 0x014 data received_at_ms) =
          { active := true, newest := none, shown := false } := by
        simp [observe, hactive, hcommand]
      rw [hobserve, hbeacon]
      refine ⟨rfl, ?_, fun _ _ => rfl, ?_⟩
      · rintro _ _ _ _ ⟨⟩
      · rintro _ ⟨⟩
  · have hobserve : observe p (.received 0x014 data received_at_ms) = p := by
      simp [observe, hcommand]
    rw [hobserve, if_neg hcommand]
    exact h.keep _ rfl rfl rfl

theorem frame_tracks (h : Tracks past s p) {identifier : UInt16} (data : List UInt8)
    (received_at_ms : Nat) (hmode : identifier ≠ 0x014) :
    Tracks (past ++ [.received identifier data received_at_ms])
      (s.step (.received identifier data received_at_ms))
      (observe p (.received identifier data received_at_ms)) := by
  have hbeacon := received_beacon s.toLinkState identifier data received_at_ms
    fun hid => absurd hid hmode
  have hentry := power_time_entry.received_entry s.toLinkState identifier data received_at_ms
    (.inr fun hid => absurd hid hmode)
  simp only [observe, if_neg hmode, Link.step]
  by_cases hpower : identifier = 0x103 ∧ (decode_standard 0x103 data).isOk
  · have hvalid : valid_frame power_time_entry.id (.received identifier data received_at_ms) =
        some (data, received_at_ms) := if_pos hpower
    rw [hvalid] at hentry
    rw [if_pos hpower]
    refine ⟨hbeacon.trans h.active, ?_, fun _ _ => hentry, ?_⟩
    · rintro now_ms hnow value at_ms ⟨⟩
      exact hnow _ (List.mem_append_right _ (List.mem_singleton_self _)) received_at_ms rfl
    · rintro _ ⟨⟩
  · have hother : valid_frame power_time_entry.id (.received identifier data received_at_ms) =
        none := if_neg hpower
    rw [hother] at hentry
    rw [if_neg hpower]
    exact h.keep _ hbeacon rfl hentry

theorem exit_tracks (h : Tracks past s p) :
    Tracks (past ++ [.exit_recovery]) (s.step .exit_recovery) (observe p .exit_recovery) where
  active := rfl
  received now_ms hnow := h.received now_ms (later_of_snoc hnow)
  waiting := nofun
  refreshed := nofun

theorem tick_tracks (h : Tracks past s p) {now_ms : Nat} (hsees : Sees s.power_task p)
    (hnow : Later now_ms past) :
    Tracks (past ++ [.power_tick now_ms]) (s.step (.power_tick now_ms))
      (observe p (.power_tick now_ms)) where
  active := h.active
  received now_ms hnow := h.received now_ms (later_of_snoc hnow)
  waiting := nofun
  refreshed hactive _ := by
    obtain ⟨hprevious, hlast, hentry, hfollows⟩ := tick_refreshed h hsees hnow hactive
    refine ⟨now_ms, ?_, hprevious, hlast, hentry, hfollows⟩
    intro later hlater
    exact hlater _ (List.mem_append_right _ (List.mem_singleton_self _)) now_ms rfl

theorem step_tracks (h : Tracks past s p) (action : LinkAction)
    (htick : ∀ now_ms, action = .power_tick now_ms →
      Sees s.power_task p ∧ Later now_ms past) :
    Tracks (past ++ [action]) (s.step action) (observe p action) := by
  cases action with
  | received identifier data received_at_ms =>
    by_cases hmode : identifier = 0x014
    · subst hmode
      exact mode_tracks h data received_at_ms
    · exact frame_tracks h data received_at_ms hmode
  | exit_recovery => exact exit_tracks h
  | power_tick now_ms =>
    obtain ⟨hsees, hnow⟩ := htick now_ms rfl
    exact tick_tracks h hsees hnow
  | clear_event_flags flags revision =>
    exact h.keep _ rfl rfl (power_time_entry.latch_kept _ _ _)

end Steps

/-! ## Whole runs -/

theorem later_of_ordered {before after : List LinkAction} {action : LinkAction} {now_ms : Nat}
    (hordered : Ordered (before ++ action :: after)) (haction : action.at_ms = some now_ms) :
    Later now_ms before := by
  intro a ha at_ms hat
  have hpairs := hordered
  unfold Ordered at hpairs
  rw [List.filterMap_append, List.filterMap_cons_some haction] at hpairs
  exact (List.pairwise_append.mp hpairs).2.2 _ (List.mem_filterMap.mpr ⟨a, ha, hat⟩) _ (by simp)

theorem run_tracks {actions : List LinkAction} (hordered : Ordered actions)
    (hsees : EachTickSees actions) {before after : List LinkAction}
    (h : actions = before ++ after) : Tracks before (Link.run before) (period before) := by
  induction before using List.reverseRecOn generalizing after with
  | nil => exact ⟨rfl, nofun, nofun, nofun⟩
  | append_singleton before action ih =>
    rw [List.append_assoc] at h
    rw [Link.run_snoc, period_snoc]
    apply step_tracks (ih h)
    rintro now_ms rfl
    exact ⟨hsees before now_ms after h, later_of_ordered (h ▸ hordered) rfl⟩

theorem Tracks.of_period {past : List LinkAction} {s : Link} {p : Period} (h : Tracks past s p)
    (hactive : p.active = true) {snapshot : PowerTimeTelemetry}
    (hvalue : s.can_cache.power_time.value = some snapshot) : OfPeriod snapshot p.newest := by
  cases hshown : p.shown with
  | false =>
    rw [h.waiting hactive hshown] at hvalue
    cases hnewest : p.newest with
    | none =>
      rw [hnewest] at hvalue
      cases hvalue
    | some frame =>
      rw [hnewest] at hvalue
      exact .inr ⟨frame.1, frame.2, rfl, .inl (Option.some.inj hvalue).symm⟩
  | true =>
    obtain ⟨refreshed_at, -, -, -, hentry, hfollows⟩ := h.refreshed hactive hshown
    rw [hentry] at hvalue
    obtain rfl := Option.some.inj hvalue
    unfold Follows at hfollows
    cases hnewest : p.newest with
    | none =>
      rw [hnewest] at hfollows
      exact .inl hfollows.1
    | some frame =>
      rw [hnewest] at hfollows
      dsimp only at hfollows
      split at hfollows
      · exact .inr ⟨frame.1, frame.2, rfl, .inl hfollows.1⟩
      · exact .inr ⟨frame.1, frame.2, rfl, .inr hfollows.1⟩

/-- The period follows the flag, whatever the task sees. -/
theorem period_active (actions : List LinkAction) :
    (Link.run actions).recovery_beacon_active = (period actions).active := by
  induction actions using List.reverseRecOn with
  | nil => rfl
  | append_singleton actions action ih =>
    rw [Link.run_snoc, period_snoc]
    cases action with
    | received identifier data received_at_ms =>
      by_cases hmode : identifier = 0x014
      · subst hmode
        simp only [Link.step, mode_frame, observe, if_true, ← ih]
        by_cases hcommand : RecoveryModeCommand data
        · cases hactive : (Link.run actions).recovery_beacon_active <;> simp [hcommand, hactive, ← ih]
        · simp [hcommand, ih]
      · have hbeacon := received_beacon (Link.run actions).toLinkState identifier data
          received_at_ms fun hid => absurd hid hmode
        have hobserve : (observe (period actions) (.received identifier data received_at_ms)).active =
            (period actions).active := by
          simp only [observe, if_neg hmode]
          split <;> rfl
        rw [hobserve, ← ih]
        exact hbeacon
    | exit_recovery => rfl
    | power_tick now_ms => exact ih
    | clear_event_flags flags revision => exact ih

/-- A tick that does not see shows what the task held before, whatever has come. -/
theorem blind_tick {past : List LinkAction} {s : Link} {p : Period} (htracks : Tracks past s p)
    (hblind : ¬ Sees s.power_task p) (now_ms : Nat) :
    (s.step (.power_tick now_ms)).can_cache.power_time =
      .update (if s.power_task.active_previous then (s.power_task.expire now_ms).snapshot
        else unavailable_snapshot) now_ms := by
  unfold Sees at hblind
  simp only [Classical.not_imp] at hblind
  obtain ⟨hactive, hshown, hblind⟩ := hblind
  have hbeacon : s.recovery_beacon_active = true := htracks.active.trans hactive
  have hentry := htracks.waiting hactive hshown
  simp only [Link.step, RecoveryPowerTask.iteration, hbeacon]
  cases hprevious : s.power_task.active_previous with
  | false => rfl
  | true =>
    have htake : s.power_task.take_update s.can_cache.power_time = s.power_task := by
      rw [hentry]
      cases hnewest : p.newest with
      | none => rfl
      | some frame =>
        rw [hnewest] at hblind
        apply take_update_own
        by_contra hother
        exact hblind ⟨hprevious, hother⟩
    rw [htake]
    rfl

/-! ## The runs -/

/-- While every tick sees, each tick of the recovery mode leaves the newest frame of the period or
its substitute, and the entry never has a value from before. -/
theorem tick_shows_newest (actions : List LinkAction) (hordered : Ordered actions)
    (hsees : EachTickSees actions) :
    (∀ before now_ms after, actions = before ++ .power_tick now_ms :: after →
      (Link.run before).recovery_beacon_active = true →
      Shows (Link.run (before ++ [.power_tick now_ms])).can_cache.power_time
        (period before).newest now_ms) ∧
    (∀ before after, actions = before ++ after →
      (Link.run before).recovery_beacon_active = true →
      ∀ snapshot, (Link.run before).can_cache.power_time.value = some snapshot →
        OfPeriod snapshot (period before).newest) := by
  constructor
  · intro before now_ms after h hbeacon
    have htracks := run_tracks hordered hsees h
    have hactive := (period_active before).symm.trans hbeacon
    have hnow := later_of_ordered (h ▸ hordered) (rfl : (LinkAction.power_tick now_ms).at_ms = _)
    rw [Link.run_snoc]
    exact (tick_refreshed htracks (hsees before now_ms after h) hnow hactive).shows
  · intro before after h hbeacon snapshot hvalue
    have hactive := (period_active before).symm.trans hbeacon
    exact (run_tracks hordered hsees h).of_period hactive hvalue

/-- A period of one frame: the frame is shown, and after 30 s the stale codes are. -/
def wake_run : List LinkAction :=
  [.received 0x014 [0, 1, 0] 0,
   .power_tick 100,
   .received 0x103 [5, 110, 120, 7, 0, 9, 0, 0x85] 150,
   .power_tick 200]

theorem wake_run_sees : EachTickSees (wake_run ++ [.power_tick 30300]) := by
  intro before now_ms after h
  match before, h with
  | [_], h =>
    cases h
    exact fun _ _ hprevious => absurd hprevious (by decide +kernel)
  | [_, _, _], h =>
    cases h
    exact fun _ _ => ⟨by decide +kernel, by decide +kernel⟩
  | [_, _, _, _], h =>
    cases h
    exact fun _ hshown => absurd hshown (by decide +kernel)
  | _ :: _ :: _ :: _ :: _ :: _, h => simp [wake_run] at h

theorem tick_shows_newest_wake :
    Shows (Link.run (wake_run ++ [.power_tick 30300])).can_cache.power_time
      (some (⟨5, 110, 120, 7, 9, 0x85⟩, 150)) 30300 := by
  have hnewest : (period wake_run).newest = some (⟨5, 110, 120, 7, 9, 0x85⟩, 150) := by
    decide +kernel
  have hordered : Ordered (wake_run ++ [.power_tick 30300]) := by
    unfold Ordered
    decide +kernel
  rw [← hnewest]
  exact (tick_shows_newest (wake_run ++ [.power_tick 30300]) hordered wake_run_sees).1 wake_run
    30300 [] rfl (by decide +kernel)

/-- A frame between the activation and the first tick. -/
def early_run : List LinkAction :=
  [.power_tick 0,
   .received 0x014 [0, 1, 0] 50,
   .received 0x103 [5, 110, 120, 7, 0, 9, 0, 0x85] 60]

/-- The first tick overwrites it, so not every ordered run shows the newest frame. -/
theorem early_frame_overwritten :
    ¬ ∀ before now_ms, Ordered (before ++ [.power_tick now_ms]) →
      (Link.run before).recovery_beacon_active = true →
      Shows (Link.run (before ++ [.power_tick now_ms])).can_cache.power_time
        (period before).newest now_ms := by
  intro hclaim
  have hordered : Ordered (early_run ++ [.power_tick 100]) := by
    unfold Ordered
    decide +kernel
  have hshows := hclaim early_run 100 hordered (by decide +kernel)
  have hnewest : (period early_run).newest = some (⟨5, 110, 120, 7, 9, 0x85⟩, 60) := by
    decide +kernel
  rw [hnewest] at hshows
  have hlost : (Link.run (early_run ++ [.power_tick 100])).can_cache.power_time.value ≠
      some ⟨5, 110, 120, 7, 9, 0x85⟩ := by decide +kernel
  exact hlost hshows

end Comboard.PowerSnapshot
