import Comboard.Code.CommandPath

/-!
# Can the CAN task and the command task stop each other?

`process_generic` sends while the guard of its `match` scrutinee is alive. If it waits there for
room, and the CAN task waits for the tracker, neither goes on: only the CAN task makes room.
-/

namespace Comboard.Deadlock

open Lib CommandPath

/-! ## Who waits for what -/

/-- The task is parked in the `Forward` arm. -/
def forwarding : CommandTask → Bool
  | .SendForward _ => true
  | _ => false

/-- The task is parked at `COMMAND_TRACKER.lock()`. -/
def locking : CanTask → Bool
  | .LockFailed _ | .LockResult _ => true
  | _ => false

/-- What the CAN task waits for is not there. -/
def can_blocked (w : CommandPath) : Bool :=
  match w.can with
  | .Select => w.no_message
  | .Transmit _ => true
  | .LockFailed _ | .LockResult _ => w.state.tracker_guard

def Deadlocked (w : CommandPath) : Prop :=
  (forwarding w.command ∧ w.state.can_tx_channel.is_full) ∧ locking w.can

instance (w : CommandPath) : Decidable (Deadlocked w) := inferInstanceAs (Decidable (_ ∧ _))

/-- The command task waits for the uplink or for the GNSS manager. -/
def commandWaitsOutside : CommandTask → Bool
  | .Receive | .SendGnss _ _ _ => true
  | _ => false

/-- The CAN task waits for the bus, its driver or its ticker. -/
def canWaitsOutside : CanTask → Bool
  | .Select | .Transmit _ => true
  | _ => false

def Safe (w : CommandPath) : Prop :=
  ¬ Deadlocked w ∧
    (w.command_blocked → can_blocked w → commandWaitsOutside w.command ∨ canWaitsOutside w.can)

def isGeneric : CanTxMessage → Bool
  | .GenericCommandRequest _ => true
  | _ => false

/-- The step makes the CAN task ask for the tracker. -/
def asksForTracker (w : CommandPath) : Action → Bool
  | .can_transmitted sent =>
    match w.can with
    | .Transmit message => !sent && isGeneric message
    | _ => false
  | .can_receive (.CommandResult _) _ => true
  | _ => false

/-- The generic request that the command task takes when it is polled. -/
def nextGeneric (w : CommandPath) : Option GenericCommandRequest :=
  match w.command with
  | .Receive =>
    match w.state.uplink_command_channel.try_receive with
    | some (.MissionGeneric request, _) => some request
    | _ => none
  | .LockTracker request => some request
  | _ => none

/-- The step registers a request that is to be forwarded. -/
def registersNew (w : CommandPath) : Action → Bool
  | .command =>
    (nextGeneric w).any fun request => (w.state.command_tracker.register request).2 = .Forward
  | _ => false

/-- The step takes the last place of `CAN_TX_CHANNEL` from the outside. -/
def takesLastPlace (w : CommandPath) : Action → Bool
  | .gnss_time_response _ _ _ => w.state.can_tx_channel.items.length + 1 = 8
  | _ => false

/-- The step is not the one that makes both tasks wait for each other. -/
structure Unjammed (w : CommandPath) (a : Action) : Prop where
  asks : forwarding w.command → w.state.can_tx_channel.is_full → asksForTracker w a = false
  registers : locking w.can → w.state.can_tx_channel.is_full → registersNew w a = false
  fills : locking w.can → forwarding w.command → takesLastPlace w a = false

instance instDecidableUnjammed (w : CommandPath) (a : Action) : Decidable (Unjammed w a) :=
  decidable_of_iff ((_ → _ → _) ∧ (_ → _ → _) ∧ (_ → _ → _))
    ⟨fun h => ⟨h.1, h.2.1, h.2.2⟩, fun h => ⟨h.asks, h.registers, h.fills⟩⟩

/-! ## The guard is alive exactly in the `Forward` arm -/

def Guarded (w : CommandPath) : Prop := w.state.tracker_guard = forwarding w.command

theorem guarded_send_forward {s : State} (request : GenericCommandRequest)
    (h : s.tracker_guard = true) :
    (Command.send_forward s request).1.tracker_guard =
      forwarding (Command.send_forward s request).2.1 := by
  unfold Command.send_forward
  split
  · exact h
  · rfl

theorem guarded_process_generic (s : State) (request : GenericCommandRequest)
    (h : s.tracker_guard = false) :
    (Command.process_generic s request).1.tracker_guard =
      forwarding (Command.process_generic s request).2.1 := by
  unfold Command.process_generic
  rw [if_neg (by simp [h])]
  dsimp only
  split
  · exact guarded_send_forward request rfl
  all_goals exact h

/-- The step left the guard alone and is not parked in the `Forward` arm. -/
def Outside (s : State) (after : State × CommandTask × List Report) : Prop :=
  after.1.tracker_guard = s.tracker_guard ∧ forwarding after.2.1 = false

theorem outside_answer (s : State) (transaction_id command : UInt8) (phase : CommandPhase)
    (reason : CommandReason) : Outside s (Command.answer s transaction_id command phase reason) :=
  ⟨rfl, rfl⟩

theorem outside_send_gnss (s : State) (value : GnssCommand) (transaction_id command : UInt8) :
    Outside s (Command.send_gnss s value transaction_id command) := by
  unfold Command.send_gnss
  split <;> exact ⟨rfl, rfl⟩

theorem outside_send_control (s : State) (control : RecoveryControl) (command : UInt8) :
    Outside s (Command.send_control s control command) := by
  unfold Command.send_control
  split <;> exact ⟨rfl, rfl⟩

theorem outside_send_time (s : State) (message : CanTxMessage) :
    Outside s (Command.send_time s message) := by
  unfold Command.send_time
  split <;> exact ⟨rfl, rfl⟩

theorem outside_process_recovery (s : State) (transaction_id command : UInt8)
    (args : Vector UInt8 6) (command_value : LocalCommand) :
    Outside s (Command.process_recovery s transaction_id command args command_value) := by
  unfold Command.process_recovery
  split
  · exact outside_answer s ..
  · dsimp only
    split
    · exact outside_send_control { s with toRecoveryState := _ } _ _
    · split
      · exact outside_answer s ..
      · exact outside_send_control { s with toRecoveryState := _ } _ _

theorem outside_process_local (s : State) (transaction_id command : UInt8)
    (args : Vector UInt8 6) : Outside s (Command.process_local s transaction_id command args) := by
  unfold Command.process_local
  split
  · exact outside_answer s ..
  · dsimp only
    split
    · exact outside_answer s ..
    · split
      · exact outside_answer { s with logging_requested := _ } ..
      · exact outside_answer { s with logging_requested := _ } ..
      · exact outside_send_gnss s ..
      · exact outside_send_gnss s ..
      · exact outside_process_recovery s ..

theorem Outside.guarded {s : State} {after : State × CommandTask × List Report}
    (h : Outside s after) (hs : s.tracker_guard = false) :
    after.1.tracker_guard = forwarding after.2.1 := by
  rw [h.1, h.2, hs]

theorem guarded_process_command (s : State) (command : UplinkCommand)
    (h : s.tracker_guard = false) : (Command.process_command s command).1.tracker_guard =
      forwarding (Command.process_command s command).2.1 := by
  unfold Command.process_command
  split
  · exact guarded_process_generic s _ h
  · exact h
  · exact h
  · exact (outside_process_local s ..).guarded h
  · exact (outside_send_time s _).guarded h

theorem guarded_resume (s : State) (task : CommandTask) (h : s.tracker_guard = forwarding task) :
    (Command.resume_command s task).1.tracker_guard =
      forwarding (Command.resume_command s task).2.1 := by
  cases task with
  | Receive =>
    simp only [Command.resume_command]
    split
    · exact h
    · exact guarded_process_command _ _ h
  | LockTracker request => exact guarded_process_generic s request h
  | SendForward request => exact guarded_send_forward request h
  | SendGnss value transaction_id command => exact (outside_send_gnss s ..).guarded h
  | SendControl control command => exact (outside_send_control s ..).guarded h
  | SendTime message => exact (outside_send_time s _).guarded h

/-- The task parks in the `Forward` arm with a request that is new, and finds no room. -/
theorem parked_process_generic (s : State) (request : GenericCommandRequest)
    (h : forwarding (Command.process_generic s request).2.1 = true) :
    s.can_tx_channel.is_full = true ∧ (s.command_tracker.register request).2 = .Forward := by
  unfold Command.process_generic at h
  split at h
  · cases h
  dsimp only at h
  split at h <;> rename_i hregistered
  · refine ⟨?_, hregistered⟩
    unfold Command.send_forward at h
    split at h <;> rename_i hsend
    · exact Channel.try_send_eq_none.mp hsend
    · cases h
  all_goals cases h

theorem parked_process_command (s : State) (command : UplinkCommand)
    (h : forwarding (Command.process_command s command).2.1 = true) :
    ∃ request, command = .MissionGeneric request ∧ s.can_tx_channel.is_full = true ∧
      (s.command_tracker.register request).2 = .Forward := by
  cases command with
  | MissionGeneric request => exact ⟨request, rfl, parked_process_generic s request h⟩
  | ActuatorEmergency | LiftoffDetectionEmergency => cases h
  | ComBoardLocal => exact absurd h (by simp [Command.process_command, (outside_process_local s ..).2])
  | GroundTimeResponse => exact absurd h (by simp [Command.process_command, (outside_send_time s _).2])

theorem parked_step_command {w : CommandPath} (hrun : w.command_blocked = false)
    (h : forwarding w.step_command.1.command = true) :
    w.state.can_tx_channel.is_full = true ∧ registersNew w .command = true := by
  unfold step_command Command.resume_command at h
  unfold registersNew nextGeneric
  cases hcommand : w.command with
  | Receive =>
    rw [hcommand] at h
    dsimp only at h ⊢
    split at h <;> rename_i hreceive
    · cases h
    · obtain ⟨request, rfl, hfull, hnew⟩ := parked_process_command _ _ h
      rw [hreceive]
      exact ⟨hfull, by simpa using hnew⟩
  | LockTracker request =>
    rw [hcommand] at h
    obtain ⟨hfull, hnew⟩ := parked_process_generic _ _ h
    exact ⟨hfull, by simpa using hnew⟩
  | SendForward request =>
    rw [hcommand] at h
    simp only [command_blocked, hcommand] at hrun
    obtain ⟨d, hsend, -⟩ := Channel.try_send_room (.GenericCommandRequest request) hrun
    simp [Command.send_forward, hsend, forwarding] at h
  | SendGnss => simp [hcommand, (outside_send_gnss w.state ..).2] at h
  | SendControl => simp [hcommand, (outside_send_control w.state ..).2] at h
  | SendTime => simp [hcommand, (outside_send_time w.state _).2] at h

/-! ## The CAN task does not touch the guard -/

theorem next_safety_keeps (w : CommandPath) :
    (next_safety w).command = w.command ∧
      (next_safety w).state.tracker_guard = w.state.tracker_guard ∧
      locking (next_safety w).can = false := by
  unfold next_safety
  split <;> exact ⟨rfl, rfl, rfl⟩

theorem transmit_succeeded_guard (s : State) (message : CanTxMessage) :
    (s.transmit_succeeded message).tracker_guard = s.tracker_guard := by
  unfold State.transmit_succeeded
  split
  · split <;> rfl
  · rfl

theorem transmit_failed_keeps (s : State) (message : CanTxMessage) :
    (s.transmit_failed message).1.tracker_guard = s.tracker_guard ∧
      (s.transmit_failed message).1.can_tx_channel = s.can_tx_channel := by
  unfold State.transmit_failed
  split
  · exact ⟨rfl, rfl⟩
  · split <;> exact ⟨rfl, rfl⟩

/-- Only a failed generic request needs the tracker. -/
theorem transmit_failed_needs {s : State} {message : CanTxMessage} {result : CommandResult}
    (h : (s.transmit_failed message).2.2 = some result) :
    isGeneric message = true := by
  cases message with
  | GenericCommandRequest r => rfl
  | _ => simp [State.transmit_failed, emergency_failure_result] at h

theorem recovery_mode_frame_keeps (s : State) (data : List UInt8) :
    (s.recovery_mode_frame data).tracker_guard = s.tracker_guard ∧
      (s.recovery_mode_frame data).can_tx_channel = s.can_tx_channel := by
  have hmode : (s.handle_recovery_mode_command data).1.tracker_guard = s.tracker_guard ∧
      (s.handle_recovery_mode_command data).1.can_tx_channel = s.can_tx_channel := by
    unfold State.handle_recovery_mode_command
    split
    · split <;> exact ⟨rfl, rfl⟩
    · exact ⟨rfl, rfl⟩
  rw [← hmode.1, ← hmode.2]
  unfold State.recovery_mode_frame
  dsimp only
  split <;> exact ⟨rfl, rfl⟩

/-- What a step of the CAN task does to the two waits. It waits for the tracker only if the guard
is alive and `needed` says that it needs the tracker. `CAN_TX_CHANNEL` is the same then. -/
structure CanStep (needed : Prop) (w w' : CommandPath) : Prop where
  command : w'.command = w.command
  guard : w'.state.tracker_guard = w.state.tracker_guard
  locks : locking w'.can = true → w.state.tracker_guard = true ∧ needed
  room : locking w'.can = true → w'.state.can_tx_channel = w.state.can_tx_channel

theorem can_step_free {needed : Prop} {w w' : CommandPath} (hc : w'.command = w.command)
    (hg : w'.state.tracker_guard = w.state.tracker_guard) (hl : locking w'.can = false) :
    CanStep needed w w' where
  command := hc
  guard := hg
  locks h := by rw [hl] at h; cases h
  room h := by rw [hl] at h; cases h

theorem can_step_next_safety {needed : Prop} {w v : CommandPath} (hc : v.command = w.command)
    (hg : v.state.tracker_guard = w.state.tracker_guard) : CanStep needed w (next_safety v) := by
  obtain ⟨hc', hg', hl⟩ := next_safety_keeps v
  exact can_step_free (hc'.trans hc) (hg'.trans hg) hl

theorem can_step_lock_failed (w : CommandPath) (result : CommandResult) :
    CanStep True w (w.lock_failed result).1 := by
  unfold lock_failed
  split <;> rename_i hg
  · exact ⟨rfl, rfl, fun _ => ⟨hg, trivial⟩, fun _ => rfl⟩
  · exact can_step_next_safety rfl rfl

theorem can_step_lock_result (w : CommandPath) (result : CommandResult) :
    CanStep True w (w.lock_result result).1 := by
  unfold lock_result
  split <;> rename_i hg
  · exact ⟨rfl, rfl, fun _ => ⟨hg, trivial⟩, fun _ => rfl⟩
  · exact can_step_free rfl rfl rfl

theorem can_step_transmitted (w : CommandPath) (message : CanTxMessage) (sent : Bool) :
    CanStep (sent = false ∧ isGeneric message = true) w
      (w.step_transmitted message sent).1 := by
  unfold step_transmitted
  split <;> rename_i hsent
  · exact can_step_next_safety rfl (transmit_succeeded_guard ..)
  · obtain ⟨hguard, hroom⟩ := transmit_failed_keeps w.state message
    split <;> rename_i hfail <;> rw [hfail] at hguard hroom
    · exact can_step_next_safety rfl hguard
    · have hneeds := transmit_failed_needs (congrArg (·.2.2) hfail)
      obtain ⟨hc, hg, hl, hr⟩ := can_step_lock_failed { w with state := _ } _
      exact ⟨hc, hg.trans hguard, fun h => ⟨hguard ▸ (hl h).1, by simpa using hsent, hneeds⟩,
        fun h => (hr h).trans hroom⟩

theorem can_step_received (w : CommandPath) (message : CanRxMessage) (received_at_ms : Nat)
    (hw : locking w.can = false) :
    CanStep (∃ result, message = .CommandResult result) w
      (w.step_received message received_at_ms).1 := by
  unfold step_received
  dsimp only
  split <;> rename_i hupdate
  · obtain ⟨hc, hg, hl, hr⟩ := can_step_lock_result
      { w with state := (w.state.update_cache message received_at_ms).1 } _
    exact ⟨hc, hg,
      fun h => ⟨(hl h).1, _, CanCache.update_hands_on (congrArg CanCache.handed_on hupdate)⟩, hr⟩
  all_goals exact can_step_free rfl rfl hw

/-! ## Every step -/

/-- A step of another task, of the command task, or of the CAN task. -/
theorem step_cases {w w' : CommandPath} {a : Action} {reports : List Report}
    (h : step w a = some (w', reports)) :
    (w'.command = w.command ∧ w'.can = w.can ∧
        w'.state.tracker_guard = w.state.tracker_guard ∧
        (w.state.can_tx_channel.is_full → w'.state.can_tx_channel.is_full) ∧
        (w'.state.can_tx_channel.is_full →
          w.state.can_tx_channel.is_full ∨ takesLastPlace w a = true)) ∨
      (a = .command ∧ w.command_blocked = false ∧ w' = w.step_command.1) ∨
      ((locking w.can → w.state.tracker_guard = false) ∧
        CanStep (asksForTracker w a = true) w w') := by
  have parked {c : CanTask} (hcan : w.can = c) (hc : locking c = false) :
      locking w.can → w.state.tracker_guard = false := by
    rw [hcan, hc]; simp
  cases a with
  | uplink command =>
    simp only [step, Option.map_eq_some_iff, Prod.mk.injEq] at h
    obtain ⟨s, hs, rfl, -⟩ := h
    refine Or.inl ⟨rfl, rfl, ?_⟩
    unfold uplink at hs
    split at hs
    · obtain ⟨c, -, rfl⟩ := Option.map_eq_some_iff.mp hs; exact ⟨rfl, id, .inl⟩
    · obtain ⟨c, -, rfl⟩ := Option.map_eq_some_iff.mp hs; exact ⟨rfl, id, .inl⟩
    · rw [Option.some.injEq] at hs; rw [← hs]; exact ⟨rfl, id, .inl⟩
  | gnss_time_response request_id unix_seconds milliseconds =>
    simp only [step, Option.some.injEq, Prod.mk.injEq] at h
    obtain ⟨rfl, -⟩ := h
    refine Or.inl ⟨rfl, rfl, rfl, fun hfull => ?_, fun hfull => ?_⟩
    · dsimp only
      rwa [Channel.offer_full hfull]
    · exact (Channel.full_of_offer hfull).imp_right decide_eq_true
  | gnss_receive =>
    simp only [step, Option.map_eq_some_iff, Prod.mk.injEq] at h
    obtain ⟨s, -, rfl, -⟩ := h
    exact Or.inl ⟨rfl, rfl, rfl, id, .inl⟩
  | lora_receive source =>
    simp only [step, Option.map_eq_some_iff, Prod.mk.injEq] at h
    obtain ⟨s, hs, rfl, -⟩ := h
    refine Or.inl ⟨rfl, rfl, ?_⟩
    cases source with
    | Periodic => simp [lora_receive] at hs
    | _ => obtain ⟨c, -, rfl⟩ := Option.map_eq_some_iff.mp hs; exact ⟨rfl, id, .inl⟩
  | command =>
    simp only [step] at h
    split at h <;> rename_i hb
    · simp at h
    · rw [Option.some.injEq] at h
      exact Or.inr (Or.inl ⟨rfl, by simpa using hb, by rw [h]⟩)
  | can_take =>
    simp only [step] at h
    split at h <;> rename_i hcan
    · simp only [Option.map_eq_some_iff, Prod.mk.injEq, step_can_take] at h
      obtain ⟨v, hv, rfl, -⟩ := h
      refine Or.inr (Or.inr ⟨parked hcan rfl, ?_⟩)
      split at hv
      · cases hv; exact can_step_free rfl rfl rfl
      · split at hv
        · cases hv; exact can_step_free rfl rfl rfl
        · simp at hv
    · simp at h
  | can_transmitted sent =>
    simp only [step] at h
    split at h <;> rename_i hcan
    · obtain ⟨hc, hg, hl, hr⟩ := can_step_transmitted w ‹_› sent
      rw [Option.some.injEq] at h
      rw [h] at hc hg hl hr
      refine Or.inr (Or.inr ⟨parked hcan rfl, hc, hg, fun hlock => ⟨(hl hlock).1, ?_⟩, hr⟩)
      obtain ⟨-, hsent, hgeneric⟩ := hl hlock
      simp [asksForTracker, hcan, hsent, hgeneric]
    · simp at h
  | can_receive message received_at_ms =>
    simp only [step] at h
    split at h <;> rename_i hcan
    · split at h
      · have := can_step_received w message received_at_ms (by rw [hcan]; rfl)
        rw [Option.some.injEq] at h
        rw [h] at this
        refine Or.inr (Or.inr ⟨parked hcan rfl, this.command, this.guard, fun hlock => ?_, this.room⟩)
        obtain ⟨hg, result, rfl⟩ := this.locks hlock
        exact ⟨hg, rfl⟩
      · simp at h
    · simp at h
  | can_receive_mode data =>
    simp only [step] at h
    split at h <;> rename_i hcan
    · split at h
      · simp only [Option.some.injEq, Prod.mk.injEq] at h
        obtain ⟨rfl, -⟩ := h
        obtain ⟨hguard, hfull⟩ := recovery_mode_frame_keeps w.state data
        exact Or.inl ⟨rfl, rfl, hguard, fun h => hfull ▸ h, fun h => .inl (hfull ▸ h)⟩
      · simp at h
    · simp at h
  | can_lock =>
    have free {v : CommandPath} (hfree : ¬ w.state.tracker_guard = true)
        (hv : CanStep True w v) : CanStep (asksForTracker w .can_lock = true) w v :=
      ⟨hv.command, hv.guard, fun hl => absurd (hv.locks hl).1 hfree, hv.room⟩
    simp only [step] at h
    split at h
    · split at h <;> rename_i hg
      · simp at h
      · have := can_step_lock_failed w ‹_›
        rw [Option.some.injEq] at h
        rw [h] at this
        exact Or.inr (Or.inr ⟨fun _ => by simpa using hg, free hg this⟩)
    · split at h <;> rename_i hg
      · simp at h
      · have := can_step_lock_result w ‹_›
        rw [Option.some.injEq] at h
        rw [h] at this
        exact Or.inr (Or.inr ⟨fun _ => by simpa using hg, free hg this⟩)
    · simp at h

theorem guarded_step {w w' : CommandPath} {a : Action} {reports : List Report} (hw : Guarded w)
    (h : step w a = some (w', reports)) : Guarded w' := by
  rcases step_cases h with ⟨hc, -, hg, -⟩ | ⟨-, -, rfl⟩ | ⟨-, hcan⟩
  · rw [Guarded, hg, hc]; exact hw
  · exact guarded_resume w.state w.command hw
  · rw [Guarded, hcan.guard, hcan.command]; exact hw

theorem guarded_run {past : List Report} {w : CommandPath}
    (h : machine.Run Machine.anyStep past w) : Guarded w := by
  refine h.always (I := Guarded) (fun s hs => ?_) fun s a s' new hs _ hstep => guarded_step hs hstep
  rw [show s = start from hs]; rfl

/-- Each step into the deadlock is one of the three that the condition excludes. -/
theorem free_step {w w' : CommandPath} {a : Action} {reports : List Report} (hw : Guarded w)
    (hfree : ¬ Deadlocked w) (hok : Unjammed w a) (h : step w a = some (w', reports)) :
    ¬ Deadlocked w' := by
  rintro ⟨⟨hforward, hfull⟩, hlock⟩
  rcases step_cases h with ⟨hcommand, hcan, -, -, htx⟩ | ⟨rfl, hrun, rfl⟩ | ⟨-, hcan⟩
  · rw [hcommand] at hforward
    rw [hcan] at hlock
    rcases htx hfull with hbefore | hfills
    · exact hfree ⟨⟨hforward, hbefore⟩, hlock⟩
    · rw [hok.fills hlock hforward] at hfills
      cases hfills
  · obtain ⟨hbefore, hnew⟩ := parked_step_command hrun hforward
    rw [hok.registers hlock hbefore] at hnew
    cases hnew
  · obtain ⟨hguard, hasks⟩ := hcan.locks hlock
    rw [hcan.room hlock] at hfull
    rw [hok.asks (hw ▸ hguard) hfull] at hasks
    cases hasks

theorem free_run {past : List Report} {w : CommandPath} (h : machine.Run Unjammed past w) :
    ¬ Deadlocked w := by
  refine h.invariant (I := fun _ w => ¬ Deadlocked w) (fun s hs => ?_)
    fun past s a s' new hrun hfree hok hstep => ?_
  · rw [show s = start from hs]
    decide
  · exact free_step (guarded_run (hrun.mono fun _ _ _ => trivial)) hfree hok hstep

/-- The CAN task waits in vain for the tracker only behind a `process_generic` that is parked. -/
theorem safe_of_free {w : CommandPath} (hw : Guarded w) (hfree : ¬ Deadlocked w) : Safe w := by
  refine ⟨hfree, fun hcommand hblocked => ?_⟩
  have hunlocked (hlock : locking w.can = true) : w.state.tracker_guard = false := by
    by_contra hguard
    rw [hw] at hguard
    cases hc : w.command with
    | SendForward request =>
      simp only [command_blocked, hc] at hcommand
      exact hfree ⟨⟨by rw [hc]; rfl, hcommand⟩, hlock⟩
    | _ => simp [hc, forwarding] at hguard
  cases hc : w.can with
  | Select | Transmit => exact .inr rfl
  | LockFailed | LockResult =>
    simp only [can_blocked, hc] at hblocked
    rw [hunlocked (by rw [hc]; rfl)] at hblocked
    cases hblocked

/-- In a run where no step makes both tasks wait for each other, of two blocked tasks one waits only
for something outside. -/
theorem never_deadlocks {past : List Report} {w : CommandPath}
    (h : machine.Run Unjammed past w) : Safe w :=
  safe_of_free (guarded_run (h.mono fun _ _ _ => trivial)) (free_run h)

/-! ## A deadlock is for good -/

theorem deadlocked_step {w w' : CommandPath} {a : Action} {reports : List Report} (hw : Guarded w)
    (hd : Deadlocked w) (h : step w a = some (w', reports)) : Deadlocked w' := by
  obtain ⟨⟨hforward, hfull⟩, hlock⟩ := hd
  rcases step_cases h with ⟨hcommand, hcan, -, htx, -⟩ | ⟨-, hrun, -⟩ | ⟨hfree, -⟩
  · exact ⟨⟨hcommand ▸ hforward, htx hfull⟩, hcan ▸ hlock⟩
  · -- The command task has no room to send.
    cases hc : w.command with
    | SendForward request => simp [command_blocked, hc, hfull] at hrun
    | _ => simp [hc, forwarding] at hforward
  · -- The CAN task has no lock to take.
    have := hfree hlock
    rw [hw, hforward] at this
    cases this

/-- Neither task ever moves again. -/
theorem deadlocked_forever {w w' : CommandPath} {actions : List Action} {reports : List Report}
    (hw : Guarded w) (hd : Deadlocked w) (h : machine.exec w actions = some (w', reports)) :
    Deadlocked w' := by
  induction actions generalizing w reports with
  | nil =>
    simp only [Machine.exec, Option.some.injEq, Prod.mk.injEq] at h
    exact h.1 ▸ hd
  | cons a actions ih =>
    simp only [Machine.exec] at h
    split at h <;> rename_i hstep
    · simp at h
    · simp only [Option.map_eq_some_iff, Prod.mk.injEq, Prod.exists] at h
      obtain ⟨t, later, ht, rfl, -⟩ := h
      exact ih (guarded_step hw hstep) (deadlocked_step hw hd hstep) ht

/-! ## A run into the deadlock

Request 1 is being transmitted and eight more fill the channel. The next one is registered, and
waits with the guard. Then the transmission fails.
-/

def request (id : UInt8) : GenericCommandRequest := ⟨id, 2, Vector.replicate 6 0⟩

def forward (id : UInt8) : List Action := [.uplink (.MissionGeneric (request id)), .command]

def jam : List Action :=
  forward 1 ++ [.can_take] ++ [2, 3, 4, 5, 6, 7, 8, 9, 10].flatMap forward ++
    [.can_transmitted false]

theorem forward_waits_for_can_task :
    ¬ ∀ past w, machine.Run Machine.anyStep past w → Safe w := by
  intro h
  have hjam : ∃ past w, machine.Run Machine.anyStep past w ∧ Deadlocked w :=
    Machine.exists_run (fun w _ => Deadlocked w) jam rfl (fun _ _ _ => trivial) (by decide +kernel)
  obtain ⟨past, w, hrun, hd⟩ := hjam
  exact (h past w hrun).1 hd

/-- The transmission fails when the channel has room again, so the guard is dropped in time. -/
theorem never_deadlocks_first : ∃ past w, machine.Run Unjammed past w ∧
    w.can = .LockFailed ⟨2, 2, .Failed, .Timeout, 0⟩ ∧ w.state.tracker_guard = true ∧ Safe w := by
  have hrun : ∃ past w, machine.Run Unjammed past w ∧
      w.can = .LockFailed ⟨2, 2, .Failed, .Timeout, 0⟩ ∧ w.state.tracker_guard = true :=
    Machine.exists_checked_run
      (fun (w : CommandPath) _ =>
        w.can = .LockFailed ⟨2, 2, .Failed, .Timeout, 0⟩ ∧ w.state.tracker_guard = true)
      (forward 1 ++ [.can_take] ++ [2, 3, 4, 5, 6, 7, 8, 9, 10].flatMap forward ++
        [.can_transmitted true, .can_take, .can_transmitted false]) rfl (by decide +kernel)
  obtain ⟨past, w, hrun, hcan, hguard⟩ := hrun
  exact ⟨past, w, hrun, hcan, hguard, never_deadlocks hrun⟩

end Comboard.Deadlock
