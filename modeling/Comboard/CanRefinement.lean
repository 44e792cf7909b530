import Comboard.CanGrammar
import Comboard.CanSteps

/-!
# The CAN task and the link

What the periodic packet looks at is, in every run of the task, what a run of `Link` leaves of the
frames that came.
-/

namespace Comboard.CanRefinement

open Lib CanCommunicationTask CanSteps

def link (w : CanCommunicationTask) : Link where
  toLinkState := w.path.state.link w.mission_status_invalid_at_ms
  power_task := w.power_task

/-- What a report is to the link. -/
def link_action : CanReport → Option LinkAction
  | .received { id := .Standard identifier, data, .. } received_at_ms =>
    some (.received identifier data received_at_ms.toNat)
  | .power_tick now_ms => some (.power_tick now_ms)
  | .clear_event_flags flags revision => some (.clear_event_flags flags revision)
  | _ => none

def link_actions (past : List CanReport) : List LinkAction := past.filterMap link_action

def not_exit : LinkAction → Bool
  | .exit_recovery => false
  | _ => true

/-! ## An arm -/

theorem link_of_seen {w v : CanCommunicationTask} (h : seen v.path.state = seen w.path.state)
    (hstamp : v.mission_status_invalid_at_ms = w.mission_status_invalid_at_ms)
    (hpower : v.power_task = w.power_task) : link v = link w := by
  obtain ⟨hcache, hbeacon⟩ := Prod.mk.inj h
  simp [link, State.link, hcache, hbeacon, hstamp, hpower]

theorem log_raw_link (w : CanCommunicationTask) (raw : RawCanRecord) :
    link (w.log_raw raw) = link w := by
  unfold log_raw
  split <;> rfl

/-- A mode frame that is refused changes nothing. -/
theorem mode_refused {s : State} {data : List UInt8}
    (h : (s.handle_recovery_mode_command data).2 = none) : s.recovery_mode_frame data = s := by
  have hsame : (s.handle_recovery_mode_command data).1 = s := by
    unfold State.handle_recovery_mode_command at h ⊢
    split
    · split
      · rfl
      · rename_i hvalid
        simp [hvalid] at h
    · rfl
  unfold State.recovery_mode_frame
  simp [h, hsame]

theorem receive_mode_link (w : CanCommunicationTask) (data : List UInt8) (received_at_ms : ℕ) :
    link (w.receive_mode data) = (link w).step (.received 0x014 data received_at_ms) := by
  have hframe := link_recovery_mode_frame w.path.state w.mission_status_invalid_at_ms data
    received_at_ms
  unfold receive_mode
  split <;> rename_i h
  · exact congrArg (Link.mk · w.power_task) hframe
  · rw [mode_refused h] at hframe
    exact congrArg (Link.mk · w.power_task) hframe

theorem receive_device_health_link (w : CanCommunicationTask) (data : List UInt8) :
    link (w.receive_device_health data) = link w := by
  unfold receive_device_health
  split <;> rfl

/-- The action, and perhaps the end of the recovery mode behind it. -/
def Leaves (before : Link) (action : Option LinkAction) (after : Link) : Prop :=
  match action with
  | some action =>
    after = before.step action ∨
      (∃ data received_at_ms, action = .received CAN_ID_RECOVERY_STATUS data received_at_ms) ∧
        after = (before.step action).step .exit_recovery
  | none => after = before

theorem recovery_status_id {identifier : UInt16} {data : List UInt8} {status : RecoveryStatus}
    (h : CanRxMessage.decode_standard identifier data = .ok (.RecoveryStatus status)) :
    identifier = CAN_ID_RECOVERY_STATUS := by
  have houtcome := CanGrammar.decode_standard_outcome identifier data
  rw [h] at houtcome
  exact (congrArg Prod.fst houtcome.2).symm

theorem receive_message_link (w : CanCommunicationTask) {identifier : UInt16} (data : List UInt8)
    (received_at_ms : UInt64) (hmode : identifier ≠ 0x014)
    (hhealth : identifier ≠ CAN_ID_DEVICE_HEALTH) :
    Leaves (link w) (some (.received identifier data received_at_ms.toNat))
      (link (w.receive_message identifier data received_at_ms)) := by
  unfold receive_message
  split <;> rename_i h
  · rename_i message
    have hupdate := link_update_cache w.path.state w.mission_status_invalid_at_ms
      received_at_ms.toNat hmode hhealth h
    have hcache := step_received_cache w.path message received_at_ms.toNat
    have hbeacon := step_received_beacon w.path message received_at_ms.toNat
    have hstep : (link w).step (.received identifier data received_at_ms.toNat) =
        Link.mk ((w.path.state.update_cache message received_at_ms.toNat).1.link
          (if identifier = 0x102 then 0 else w.mission_status_invalid_at_ms)) w.power_task := by
      rw [hupdate]
      rfl
    unfold Leaves
    dsimp only
    rw [hstep]
    unfold link State.link
    dsimp only
    rw [hcache]
    rcases hbeacon with hbeacon | ⟨⟨status, rfl⟩, hbeacon⟩ <;> rw [hbeacon]
    · exact .inl rfl
    · exact .inr ⟨⟨data, _, by rw [recovery_status_id h]⟩, rfl⟩
  · refine .inl ?_
    unfold Link.step LinkState.handle_received_frame
    dsimp only
    rw [if_neg hmode, if_neg hhealth, h]
    rfl

theorem handle_received_frame_link (w : CanCommunicationTask) (frame : CanFrame)
    (received_at_ms : UInt64) :
    Leaves (link w) (link_action (.received frame received_at_ms))
      (link (w.handle_received_frame frame received_at_ms)) := by
  rcases frame with ⟨id, data, standard, fits⟩
  cases id with
  | Extended => rfl
  | Standard identifier =>
    unfold handle_received_frame
    dsimp only
    rw [← log_raw_link w (CanFrame.raw ⟨.Standard identifier, data, standard, fits⟩ identifier received_at_ms)]
    generalize w.log_raw _ = v
    split <;> rename_i hmode
    · subst hmode
      exact .inl (receive_mode_link v data received_at_ms.toNat)
    · split <;> rename_i hhealth
      · refine .inl ?_
        rw [receive_device_health_link]
        unfold Link.step LinkState.handle_received_frame
        dsimp only
        rw [if_neg hmode, if_pos hhealth]
      · exact receive_message_link v data received_at_ms hmode hhealth

theorem received_link (w : CanCommunicationTask) (frame : CanFrame) (received_at_ms : UInt64) :
    Leaves (link w) (link_action (.received frame received_at_ms))
      (link (w.step_received frame received_at_ms)) := by
  have hobserve : link (w.observe frame) = link w := by
    unfold observe
    split <;> rfl
  rw [← hobserve]
  exact handle_received_frame_link _ frame received_at_ms

theorem transmitted_link (w : CanCommunicationTask) (message : CanTxMessage)
    (transmission : Transmission) :
    (w.step_transmitted message transmission).2.filterMap link_action = [] ∧
      link (w.step_transmitted message transmission).1 = link w := by
  unfold step_transmitted
  split
  · exact ⟨rfl, link_of_seen (step_transmitted_seen w.path message true) rfl rfl⟩
  · rename_i error _
    unfold transmit_failed
    dsimp only
    split
    · exact ⟨rfl, link_of_seen (step_transmitted_seen w.path message false) rfl rfl⟩
    · rw [recover_eq]
      exact ⟨filterMap_fed rfl _ _,
        link_of_seen (step_transmitted_seen w.path message false) rfl rfl⟩

/-- An arm does to the link what its report is to the link, if it is anything. -/
theorem arm_link {w v : CanCommunicationTask} {reports : List CanReport} (arm : Arm w v reports) :
    ∃ action, reports.filterMap link_action = action.toList ∧ Leaves (link w) action (link v) := by
  cases arm with
  | path hbeside hstep => exact ⟨none, rfl, link_of_seen (beside_step hbeside hstep).2 rfl rfl⟩
  | raw_can_log_receive => exact ⟨none, rfl, rfl⟩
  | @power_tick power_task can_cache now_ms hiteration =>
    refine ⟨some (.power_tick now_ms), rfl, .inl ?_⟩
    have hlink : (link w).power_task.iteration (link w).recovery_beacon_active now_ms
        (link w).can_cache = (power_task, can_cache) := hiteration
    unfold Link.step
    dsimp only
    rw [hlink]
    rfl
  | @clear_event_flags flags revision =>
    exact ⟨some (.clear_event_flags flags revision), rfl, .inl rfl⟩
  | lock hstep =>
    rw [recover_eq]
    exact ⟨none, filterMap_fed rfl _ _, link_of_seen (step_lock hstep).2 rfl rfl⟩
  | @received frame received_at_ms =>
    refine ⟨link_action (.received frame received_at_ms), ?_, received_link w frame received_at_ms⟩
    cases h : link_action (.received frame received_at_ms) <;> simp [h]
  | receive_error =>
    unfold step_receive_error
    dsimp only
    rw [recover_eq]
    exact ⟨none, filterMap_fed rfl _ _, rfl⟩
  | health_tick =>
    unfold step_health_tick
    dsimp only
    rw [recover_eq]
    exact ⟨none, filterMap_fed rfl _ _, rfl⟩
  | transmitted =>
    obtain ⟨hreports, hlink⟩ := transmitted_link w _ _
    exact ⟨none, hreports, hlink⟩

/-! ## Every run -/

/-- No report is an end of the recovery mode. -/
theorem not_exit_of_new {new : List CanReport} {action : LinkAction}
    (hnew : new.filterMap link_action = [action]) : not_exit action = true := by
  obtain ⟨r, -, hr⟩ := List.mem_filterMap.mp (hnew ▸ List.mem_singleton_self action)
  unfold link_action at hr
  split at hr
  · exact Option.some.inj hr ▸ rfl
  · exact Option.some.inj hr ▸ rfl
  · exact Option.some.inj hr ▸ rfl
  · simp at hr

/-- The recovery mode ends only behind a `RecoveryStatus`. -/
def ExitsBehindStatus (actions : List LinkAction) : Prop :=
  ∀ before after, actions = before ++ .exit_recovery :: after →
    ∃ earlier data received_at_ms,
      before = earlier ++ [.received CAN_ID_RECOVERY_STATUS data received_at_ms]

theorem ExitsBehindStatus.concat {actions : List LinkAction} {a : LinkAction}
    (h : ExitsBehindStatus actions)
    (ha : a = .exit_recovery → ∃ earlier data received_at_ms,
      actions = earlier ++ [.received CAN_ID_RECOVERY_STATUS data received_at_ms]) :
    ExitsBehindStatus (actions ++ [a]) := by
  intro before after heq
  rcases after.eq_nil_or_concat' with rfl | ⟨after, last, rfl⟩
  · obtain ⟨rfl, hexit⟩ := List.append_inj' heq rfl
    exact ha (List.singleton_inj.mp hexit)
  · have hsplit : actions ++ [a] = (before ++ .exit_recovery :: after) ++ [last] := by
      simpa using heq
    exact h before after (List.append_inj' hsplit rfl).1

/-- A run of the link on these reports ends where the task is. -/
def Refines (past : List CanReport) (w : CanCommunicationTask) : Prop :=
  ∃ actions, actions.filter not_exit = link_actions past ∧ ExitsBehindStatus actions ∧
    Link.run actions = link w

theorem Refines.leaves {past new : List CanReport} {w v : CanCommunicationTask}
    {action : Option LinkAction} (h : Refines past w)
    (hnew : new.filterMap link_action = action.toList) (leaves : Leaves (link w) action (link v)) :
    Refines (past ++ new) v := by
  obtain ⟨actions, hactions, hexits, hrun⟩ := h
  have hlinks : link_actions (past ++ new) = actions.filter not_exit ++ action.toList := by
    rw [hactions, ← hnew]
    exact List.filterMap_append
  cases action with
  | none => exact ⟨actions, by simp [hlinks], hexits, hrun.trans (Eq.symm leaves)⟩
  | some action =>
    have hne : not_exit action = true := not_exit_of_new hnew
    have hnext := hexits.concat (a := action) fun hexit => by simp [hexit, not_exit] at hne
    rcases leaves with hlink | ⟨⟨data, received_at_ms, rfl⟩, hlink⟩
    · refine ⟨actions ++ [action], by simp [hlinks, hne], hnext, ?_⟩
      rw [Link.run_snoc, hrun, hlink]
    · refine ⟨actions ++ [_] ++ [.exit_recovery], ?_,
        hnext.concat fun _ => ⟨actions, data, received_at_ms, rfl⟩, ?_⟩
      · simp [hlinks]
        rfl
      · rw [Link.run_snoc, Link.run_snoc, hrun, hlink]

theorem refines : Invariant Refines where
  start _ := ⟨[], rfl, by simp [ExitsBehindStatus], rfl⟩
  arm h arm := by
    obtain ⟨action, hnew, leaves⟩ := arm_link arm
    exact h.leaves hnew leaves
  publish {past v reading} h _ := by
    have hnone : (v.publish reading).2.filterMap link_action = (none : Option LinkAction).toList := rfl
    exact h.leaves hnone rfl

/-- In every run of the task and of the other two that write to the cache, what the periodic packet
looks at is what a run of the link makes of what was done, in its order. The recovery mode ends only
behind a status. -/
theorem refines_link {past : List CanReport} {w : CanCommunicationTask}
    (run : Machine.Run machine Machine.anyStep past w) :
    ∃ actions, actions.filter not_exit = link_actions past ∧ ExitsBehindStatus actions ∧
      Link.run actions = link w :=
  refines.run run

/-- A valid `RecoveryModeCommand`. -/
def mode_frame : CanFrame := (CanFrame.new 0x014 [0x10, 1, 0]).get (Eq.refl true)

/-- A MissionStatus in this state. -/
def status_frame (state : UInt8) : CanFrame :=
  (CanFrame.new 0x102 [1, state, 0, 0, 0, 0, 0, 0]).get (Eq.refl true)

/-- The recovery mode begins, the power task takes notice of it, and a MissionStatus comes that is not
valid. -/
def entered : List Action :=
  [.received mode_frame 100 calm, .power_tick 150, .received (status_frame 9) 200 calm]

def entered_actions : List LinkAction :=
  [.received 0x014 [0x10, 1, 0] 100, .power_tick 150, .received 0x102 [1, 9, 0, 0, 0, 0, 0, 0] 200]

theorem refines_link_entered : ∃ past w actions, Machine.Run machine Machine.anyStep past w ∧
    (link w).recovery_beacon_active = true ∧ (link w).power_task.active_previous = true ∧
      actions.filter not_exit = entered_actions ∧ Link.run actions = link w := by
  obtain ⟨past, w, run, hactive, hprevious, hactions⟩ :
      ∃ past w, Machine.Run machine Machine.anyStep past w ∧
        (link w).recovery_beacon_active = true ∧ (link w).power_task.active_previous = true ∧
          link_actions past = entered_actions :=
    Machine.exists_run (fun (w : CanCommunicationTask) past =>
      (link w).recovery_beacon_active = true ∧ (link w).power_task.active_previous = true ∧
        link_actions past = entered_actions)
      entered ⟨calm.registers, rfl⟩ (fun _ _ _ => trivial) (by decide +kernel)
  obtain ⟨actions, hfilter, -, hrun⟩ := refines_link run
  exact ⟨past, w, actions, run, hactive, hprevious, hfilter.trans hactions, hrun⟩

end Comboard.CanRefinement
