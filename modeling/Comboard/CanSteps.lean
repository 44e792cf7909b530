import Comboard.Code.CanCommunicationTask

/-!
# What a turn of the CAN task can do

The task goes through an `Arm` of its loop, or through a part of one. At the end of the iteration it
publishes.
-/

namespace Comboard.CanSteps

open Lib CanCommunicationTask

/-- What the periodic packet looks at. -/
def seen (s : State) : CanCache × Bool := (s.can_cache, s.recovery_beacon_active)

/-! ## What recovery does to the flag -/

theorem seen_recovery (s : State) {r : RecoveryState}
    (h : r.recovery_beacon_active = s.recovery_beacon_active) :
    seen { s with toRecoveryState := r } = seen s :=
  congrArg (Prod.mk s.can_cache) h

theorem queue_some_result_beacon (r : RecoveryState) (result : Option CommandResult) :
    (r.queue_some_result result).1.recovery_beacon_active = r.recovery_beacon_active := by
  cases result <;> rfl

theorem stop_dump_beacon (r : RecoveryState) (pending : PendingRecovery) :
    (Command.stop_dump r pending).1.recovery_beacon_active = r.recovery_beacon_active := rfl

theorem start_request_beacon {r r' : RecoveryState} {pending : PendingRecovery}
    {offset length : UInt32} {reports : List Report}
    (h : Command.start_request r pending offset length = some (r', reports)) :
    r'.recovery_beacon_active = r.recovery_beacon_active := by
  unfold Command.start_request at h
  dsimp only at h
  split at h
  · simp at h
  · split at h
    all_goals
      obtain ⟨rfl, -⟩ := Prod.mk.inj (Option.some.inj h)
      rfl

theorem fail_recovery_transfer_beacon (r : RecoveryState) (reason : CommandReason)
    (stop_mission : Bool) :
    (r.fail_recovery_transfer reason stop_mission).1.recovery_beacon_active =
      r.recovery_beacon_active := by
  have hstop (r : RecoveryState) (resume : Option RecoveryResume) :
      (r.send_stop stop_mission resume).1.recovery_beacon_active = r.recovery_beacon_active := by
    unfold RecoveryState.send_stop
    split
    · split <;> rfl
    · rfl
  unfold RecoveryState.fail_recovery_transfer
  dsimp only
  rw [queue_some_result_beacon]
  exact hstop { r with recovery_assembler := _ } _

theorem queue_or_fail_beacon (r : RecoveryState) (chunk : RecoveryChunk) :
    (r.queue_or_fail chunk).1.recovery_beacon_active = r.recovery_beacon_active := by
  unfold RecoveryState.queue_or_fail
  dsimp only
  split
  · rfl
  · exact fail_recovery_transfer_beacon _ _ _

theorem apply_recovery_log_data_beacon (r : RecoveryState) (fragment : RecoveryLogData) :
    (r.apply_recovery_log_data fragment).1.recovery_beacon_active = r.recovery_beacon_active := by
  unfold RecoveryState.apply_recovery_log_data
  dsimp only
  split
  · exact queue_or_fail_beacon _ _
  · rfl
  · exact fail_recovery_transfer_beacon _ _ _

/-- A status leaves the flag alone, or clears it. -/
theorem apply_recovery_status_beacon (r : RecoveryState) (status : RecoveryStatus) :
    (r.apply_recovery_status status).1.recovery_beacon_active = r.recovery_beacon_active ∨
      (r.apply_recovery_status status).1.recovery_beacon_active = false := by
  unfold RecoveryState.apply_recovery_status
  dsimp only
  generalize (if status.status = .Complete then
      (r.recovery_assembler.set_total_size status.transfer_id status.total_size).finish
        status.transfer_id
    else (r.recovery_assembler.set_total_size status.transfer_id status.total_size, none)) = finished
  rcases finished with ⟨assembler, _ | chunk⟩
  · exact link_apply_session_status _ status
  · have hchunk := queue_or_fail_beacon { r with recovery_assembler := assembler } chunk
    dsimp only
    split
    · have hstatus := link_apply_session_status
        ({ r with recovery_assembler := assembler }.queue_or_fail chunk).1 status
      exact hstatus.imp_left fun h => h.trans hchunk
    · exact .inl hchunk

/-! ## The other tasks leave it alone -/

section Commands

variable (s : State)

@[simp]
theorem answer_seen (transaction_id command : UInt8) (phase : CommandPhase)
    (reason : CommandReason) :
    seen (Command.answer s transaction_id command phase reason).1 = seen s := rfl

@[simp]
theorem send_forward_seen (request : GenericCommandRequest) :
    seen (Command.send_forward s request).1 = seen s := by
  unfold Command.send_forward
  split <;> rfl

@[simp]
theorem process_generic_seen (request : GenericCommandRequest) :
    seen (Command.process_generic s request).1 = seen s := by
  unfold Command.process_generic
  split
  · rfl
  · dsimp only
    split <;> simp <;> rfl

@[simp]
theorem send_gnss_seen (value : GnssCommand) (transaction_id command : UInt8) :
    seen (Command.send_gnss s value transaction_id command).1 = seen s := by
  unfold Command.send_gnss
  split
  · rfl
  · rw [answer_seen]
    rfl

@[simp]
theorem send_control_seen (control : RecoveryControl) (command : UInt8) :
    seen (Command.send_control s control command).1 = seen s := by
  unfold Command.send_control
  split
  · rfl
  · rw [answer_seen]
    rfl

@[simp]
theorem send_time_seen (message : CanTxMessage) :
    seen (Command.send_time s message).1 = seen s := by
  unfold Command.send_time
  split <;> rfl

@[simp]
theorem process_recovery_seen (transaction_id command : UInt8) (args : Vector UInt8 6)
    (value : LocalCommand) :
    seen (Command.process_recovery s transaction_id command args value).1 = seen s := by
  unfold Command.process_recovery
  split
  · simp
  · dsimp only
    split
    · rw [send_control_seen]
      exact seen_recovery s (stop_dump_beacon _ _)
    · split <;> rename_i hstart
      · simp
      · rw [send_control_seen]
        exact seen_recovery s (start_request_beacon hstart)

@[simp]
theorem process_local_seen (transaction_id command : UInt8) (args : Vector UInt8 6) :
    seen (Command.process_local s transaction_id command args).1 = seen s := by
  unfold Command.process_local
  split
  · simp
  · dsimp only
    split
    · simp
    · split <;> simp <;> rfl

theorem resume_command_seen (task : CommandTask) :
    seen (Command.resume_command s task).1 = seen s := by
  cases task with
  | Receive =>
    unfold Command.resume_command
    dsimp only
    split
    · rfl
    · unfold Command.process_command
      split <;> simp <;> rfl
  | _ => simp [Command.resume_command]

end Commands

/-! ## The CAN task -/

@[simp]
theorem next_safety_seen (w : CommandPath) :
    seen w.next_safety.state = seen w.state := by
  unfold CommandPath.next_safety
  split <;> rfl

@[simp]
theorem lock_failed_seen (w : CommandPath) (result : CommandResult) :
    seen (w.lock_failed result).1.state = seen w.state := by
  unfold CommandPath.lock_failed
  split
  · rfl
  · rw [next_safety_seen]
    exact seen_recovery w.state (queue_some_result_beacon _ _)

@[simp]
theorem lock_result_seen (w : CommandPath) (result : CommandResult) :
    seen (w.lock_result result).1.state = seen w.state := by
  unfold CommandPath.lock_result
  split <;> rfl

@[simp]
theorem transmit_failed_seen (s : State) (message : CanTxMessage) :
    seen (s.transmit_failed message).1 = seen s := by
  unfold State.transmit_failed
  split
  · rfl
  · split
    · rfl
    · exact seen_recovery s (queue_some_result_beacon _ _)
    · rfl

@[simp]
theorem transmit_succeeded_seen (s : State) (message : CanTxMessage) :
    seen (s.transmit_succeeded message) = seen s := by
  unfold State.transmit_succeeded
  split
  · split <;> rfl
  · rfl

theorem step_transmitted_seen (w : CommandPath) (message : CanTxMessage) (sent : Bool) :
    seen (w.step_transmitted message sent).1.state = seen w.state := by
  have hfailed := transmit_failed_seen w.state message
  unfold CommandPath.step_transmitted
  split
  · simp
  · split <;> rename_i h <;> simpa [h] using hfailed

theorem step_received_cache (w : CommandPath) (message : CanRxMessage) (received_at_ms : Nat) :
    (w.step_received message received_at_ms).1.state.can_cache =
      (w.state.can_cache.update message received_at_ms).1 := by
  have hcache : (w.state.update_cache message received_at_ms).1.can_cache =
      (w.state.can_cache.update message received_at_ms).1 := rfl
  rw [← hcache]
  unfold CommandPath.step_received
  rcases w.state.update_cache message received_at_ms with ⟨s, update⟩
  cases update with
  | CommandResult result => exact congrArg Prod.fst (lock_result_seen _ result)
  | _ => rfl

/-- Only a status clears the flag. -/
theorem step_received_beacon (w : CommandPath) (message : CanRxMessage) (received_at_ms : Nat) :
    (w.step_received message received_at_ms).1.state.recovery_beacon_active =
        w.state.recovery_beacon_active ∨
      (∃ status, message = .RecoveryStatus status) ∧
        (w.step_received message received_at_ms).1.state.recovery_beacon_active = false := by
  have hbeacon : (w.state.update_cache message received_at_ms).1.recovery_beacon_active =
      w.state.recovery_beacon_active := rfl
  have hupdate : (w.state.update_cache message received_at_ms).2 =
      (w.state.can_cache.update message received_at_ms).2 := rfl
  rw [← hbeacon]
  unfold CommandPath.step_received
  rcases hcache : w.state.update_cache message received_at_ms with ⟨s, update⟩
  cases update with
  | CommandResult result => exact .inl (congrArg Prod.snd (lock_result_seen _ result))
  | RecoveryStatus status =>
    have hstatus : CanCache.handed_on (w.state.can_cache.update message received_at_ms).2 =
        some (.RecoveryStatus status) := by
      rw [← hupdate, hcache]
      rfl
    exact (apply_recovery_status_beacon _ status).imp_right fun h =>
      ⟨⟨status, CanCache.update_hands_on hstatus⟩, h⟩
  | RecoveryLogData fragment => exact .inl (apply_recovery_log_data_beacon _ fragment)
  | _ => exact .inl rfl

/-- What a step beside the arms does to the point where the CAN task waits. -/
theorem beside_step {w w' : CommandPath} {action : CommandPath.Action} {reports : List Report}
    (hbeside : beside action = true) (h : w.step action = some (w', reports)) :
    (w.can = .Select ∨ w'.can = w.can) ∧ seen w'.state = seen w.state := by
  cases action with
  | uplink command =>
    obtain ⟨s, hs, heq⟩ := Option.map_eq_some_iff.mp h
    obtain ⟨rfl, -⟩ := Prod.mk.inj heq
    refine ⟨.inr rfl, ?_⟩
    unfold CommandPath.uplink at hs
    split at hs
    · obtain ⟨c, -, rfl⟩ := Option.map_eq_some_iff.mp hs
      rfl
    · obtain ⟨c, -, rfl⟩ := Option.map_eq_some_iff.mp hs
      rfl
    · obtain rfl := Option.some.inj hs
      rfl
  | gnss_time_response request_id unix_seconds milliseconds =>
    obtain ⟨rfl, -⟩ := Prod.mk.inj (Option.some.inj h)
    exact ⟨.inr rfl, rfl⟩
  | gnss_receive =>
    obtain ⟨⟨_, c⟩, -, heq⟩ := Option.map_eq_some_iff.mp h
    obtain ⟨rfl, -⟩ := Prod.mk.inj heq
    exact ⟨.inr rfl, rfl⟩
  | lora_receive source =>
    obtain ⟨s, hs, heq⟩ := Option.map_eq_some_iff.mp h
    obtain ⟨rfl, -⟩ := Prod.mk.inj heq
    refine ⟨.inr rfl, ?_⟩
    cases source with
    | Periodic => simp [CommandPath.lora_receive] at hs
    | _ =>
      obtain ⟨⟨_, c⟩, -, rfl⟩ := Option.map_eq_some_iff.mp hs
      rfl
  | command =>
    simp only [CommandPath.step] at h
    split at h
    · simp at h
    · obtain ⟨rfl, -⟩ := Prod.mk.inj (Option.some.inj h)
      exact ⟨.inr rfl, resume_command_seen w.state w.command⟩
  | can_take =>
    simp only [CommandPath.step] at h
    split at h <;> rename_i hcan
    · refine ⟨.inl hcan, ?_⟩
      obtain ⟨v, hv, heq⟩ := Option.map_eq_some_iff.mp h
      obtain ⟨rfl, -⟩ := Prod.mk.inj heq
      unfold CommandPath.step_can_take at hv
      split at hv
      · obtain rfl := Option.some.inj hv
        rfl
      · split at hv
        · obtain rfl := Option.some.inj hv
          rfl
        · simp at hv
    · simp at h
  | can_transmitted | can_receive | can_receive_mode | can_lock => simp [beside] at hbeside

/-- A lock that is had ends the wait. -/
theorem step_lock {w w' : CommandPath} {reports : List Report}
    (h : w.step .can_lock = some (w', reports)) :
    (w'.can = .Select ∨ ∃ message, w'.can = .Transmit message) ∧ seen w'.state = seen w.state := by
  have hsafety (v : CommandPath) :
      v.next_safety.can = .Select ∨ ∃ message, v.next_safety.can = .Transmit message := by
    unfold CommandPath.next_safety
    split
    · exact .inr ⟨_, rfl⟩
    · exact .inl rfl
  simp only [CommandPath.step] at h
  split at h <;> rename_i hcan
  · split at h <;> rename_i hguard
    · simp at h
    · have hpath := congrArg Prod.fst (Option.some.inj h)
      obtain rfl : (w.lock_failed _).1 = w' := hpath
      refine ⟨?_, lock_failed_seen w _⟩
      unfold CommandPath.lock_failed
      rw [if_neg hguard]
      exact hsafety _
  · split at h <;> rename_i hguard
    · simp at h
    · have hpath := congrArg Prod.fst (Option.some.inj h)
      obtain rfl : (w.lock_result _).1 = w' := hpath
      refine ⟨.inl ?_, lock_result_seen w _⟩
      unfold CommandPath.lock_result
      rw [if_neg hguard]
  · simp at h

/-! ## Arms -/

/-- What happens in a step before anything is published. -/
inductive Arm (w : CanCommunicationTask) : CanCommunicationTask → List CanReport → Prop where
  | path {action : CommandPath.Action} {path : CommandPath} {reports : List Comboard.Report}
      (hbeside : beside action = true) (hstep : w.path.step action = some (path, reports)) :
      Arm w { w with path } []
  | transmitted {message : CanTxMessage} {transmission : Transmission}
      (hcan : w.path.can = .Transmit message) :
      Arm w (w.step_transmitted message transmission).1 (w.step_transmitted message transmission).2
  | lock {path : CommandPath} {reports : List Comboard.Report}
      (hstep : w.path.step .can_lock = some (path, reports)) :
      Arm w ({ w with path, recovering := none }.recover w.recovering).1
        ({ w with path, recovering := none }.recover w.recovering).2
  | received {frame : CanFrame} {received_at_ms : UInt64} (hidle : w.idle = true) :
      Arm w (w.step_received frame received_at_ms) [.received frame received_at_ms]
  | receive_error {error : EspTwaiError} (hidle : w.idle = true) :
      Arm w (w.step_receive_error error).1 (w.step_receive_error error).2
  | health_tick {registers : Registers} (hcan : w.path.can = .Select) :
      Arm w (w.step_health_tick registers).1 (w.step_health_tick registers).2
  | raw_can_log_receive {record : RawCanRecord} {channel : Channel RawCanRecord 32}
      (hreceive : w.raw_can_log_channel.try_receive = some (record, channel)) :
      Arm w { w with raw_can_log_channel := channel } [.raw_can_log_received record]
  | power_tick {power_task : RecoveryPowerTask} {can_cache : CanCache} {now_ms : ℕ}
      (hiteration : w.power_task.iteration w.path.state.recovery_beacon_active now_ms
        w.path.state.can_cache = (power_task, can_cache)) :
      Arm w ({ w with power_task }.set_cache can_cache) [.power_tick now_ms]
  | clear_event_flags {flags : UInt16} {revision : UInt32} :
      Arm w (w.set_cache (w.path.state.can_cache.clear_event_flags flags revision))
        [.clear_event_flags flags revision]

/-! ## What an arm does to the variables of the loop -/

structure Held where
  runtime_state : CanRuntimeState
  recovering : Option CanRuntimeEvent
  consecutive_tx_errors : UInt8
  consecutive_rx_errors : UInt8
  observed : CanObservedStats

def held (w : CanCommunicationTask) : Held where
  runtime_state := w.runtime_state
  recovering := w.recovering
  consecutive_tx_errors := w.consecutive_tx_errors
  consecutive_rx_errors := w.consecutive_rx_errors
  observed := w.observed

/-- The end of an attempt, a frame, an error in its place, or a tick. -/
def told : CanReport → Bool
  | .attempted _ _ | .received _ _ | .receive_error _ | .health_tick _ => true
  | _ => false

/-- What the other tasks do. -/
def aside : CanReport → Bool
  | .raw_can_log_received _ | .power_tick _ | .clear_event_flags _ _ => true
  | _ => false

theorem filterMap_aside {α : Type} {f : CanReport → Option α} {reports : List CanReport}
    (hf : ∀ r, aside r = true → f r = none) (h : ∀ r ∈ reports, aside r = true) :
    reports.filterMap f = [] :=
  List.filterMap_eq_nil_iff.mpr fun r hr => hf r (h r hr)

def event : CanReport → Option CanRuntimeEvent
  | .attempted _ none => some .TransmitSucceeded
  | .attempted _ (some error) => error.event
  | .received _ _ => some .ReceiveSucceeded
  | .receive_error .BusOff | .health_tick .BusOff => some .BusOff
  | _ => none

/-- The frame with a standard identifier that came. -/
def standard : CanReport → Option (UInt16 × List UInt8)
  | .received { id := .Standard id, data, .. } _ => some (id, data)
  | _ => none

def observe_standard (observed : CanObservedStats) : Option (UInt16 × List UInt8) → CanObservedStats
  | some (id, data) => observed.observe id data
  | none => observed

/-- What is counted of a report. -/
def tally (h : Held) (r : CanReport) : Held :=
  { h with
    consecutive_tx_errors :=
      match r with
      | .attempted _ none => 0
      | .attempted _ (some _) => u8_saturating_add h.consecutive_tx_errors 1
      | _ => h.consecutive_tx_errors
    consecutive_rx_errors :=
      match r with
      | .received _ _ => 0
      | .receive_error _ => u8_saturating_add h.consecutive_rx_errors 1
      | _ => h.consecutive_rx_errors
    observed := observe_standard h.observed (standard r) }

/-- The next state of the driver, and the restart. -/
def fed (state : CanRuntimeState) : Option CanRuntimeEvent → CanRuntimeState × List CanReport
  | none => (state, [])
  | some e =>
    ((transition_runtime state e).1, if (transition_runtime state e).2 then [.restarted] else [])

theorem recover_eq (w : CanCommunicationTask) (e : Option CanRuntimeEvent) :
    w.recover e =
      ({ w with runtime_state := (fed w.runtime_state e).1 }, (fed w.runtime_state e).2) := by
  cases e <;> rfl

/-- What `f` does not find in a restart it does not find here. -/
theorem filterMap_fed {α : Type} {f : CanReport → Option α} (hf : f .restarted = none)
    (state : CanRuntimeState) (e : Option CanRuntimeEvent) : (fed state e).2.filterMap f = [] := by
  cases e with
  | none => rfl
  | some e =>
    unfold fed
    dsimp only
    split
    · simp [hf]
    · rfl

theorem log_raw_held (w : CanCommunicationTask) (raw : RawCanRecord) :
    held (w.log_raw raw) = held w := by
  unfold log_raw
  split <;> rfl

theorem handle_received_frame_held (w : CanCommunicationTask) (frame : CanFrame)
    (received_at_ms : UInt64) : held (w.handle_received_frame frame received_at_ms) = held w := by
  unfold handle_received_frame
  split
  · rfl
  · rename_i identifier _
    rw [← log_raw_held w (frame.raw identifier received_at_ms)]
    dsimp only
    generalize w.log_raw (frame.raw identifier received_at_ms) = v
    split
    · unfold receive_mode
      split <;> rfl
    · split
      · unfold receive_device_health
        split <;> rfl
      · unfold receive_message
        split <;> rfl

/-- The four ways in which an arm deals with the driver. -/
inductive Turn (w v : CanCommunicationTask) : List CanReport → Prop where
  | beside {reports : List CanReport} (hreports : ∀ r ∈ reports, aside r = true)
      (hheld : held v = held w) (hcan : w.path.can = .Select ∨ v.path.can = w.path.can) :
      Turn w v reports
  | told {r : CanReport} (hcan : ∀ result, w.path.can ≠ .LockFailed result) (hr : told r = true)
      (hheld : held v =
        { tally (held w) r with runtime_state := (fed w.runtime_state (event r)).1 }) :
      Turn w v (r :: (fed w.runtime_state (event r)).2)
  /-- The failure waits for the lock, and what there is to do about the driver waits with it. -/
  | locked {message : CanTxMessage} {error : CanTxError} {result : CommandResult}
      (hcan : ∀ result, w.path.can ≠ .LockFailed result) (hlocked : v.path.can = .LockFailed result)
      (hheld : held v =
        { tally (held w) (.attempted message (some error)) with recovering := error.event }) :
      Turn w v [.attempted message (some error)]
  | unlocked (hcan : ∀ result, v.path.can ≠ .LockFailed result)
      (hheld : held v =
        { held w with runtime_state := (fed w.runtime_state w.recovering).1, recovering := none }) :
      Turn w v (fed w.runtime_state w.recovering).2

/-- A success asks for no restart. -/
theorem fed_success (state : CanRuntimeState) {e : CanRuntimeEvent}
    (h : e = .TransmitSucceeded ∨ e = .ReceiveSucceeded) :
    fed state (some e) = ((transition_runtime state e).1, []) := by
  rcases h with rfl | rfl <;> cases state <;> rfl

/-- A report of the task, with what is done about the driver at once. -/
theorem Turn.of_told {w v : CanCommunicationTask} {reports : List CanReport} (r : CanReport)
    (e : Option CanRuntimeEvent) (hcan : ∀ result, w.path.can ≠ .LockFailed result)
    (hr : CanSteps.told r = true) (he : event r = e)
    (hheld : held v = { tally (held w) r with runtime_state := (fed w.runtime_state e).1 })
    (hreports : reports = r :: (fed w.runtime_state e).2) : Turn w v reports := by
  subst he hreports
  exact .told hcan hr hheld

theorem idle_select {w : CanCommunicationTask} (h : w.idle = true) : w.path.can = .Select := by
  simp only [idle, decide_eq_true_eq] at h
  exact h.1

theorem transmitted_turn {w : CanCommunicationTask} {message : CanTxMessage}
    (transmission : Transmission) (hcan : w.path.can = .Transmit message) :
    Turn w (w.step_transmitted message transmission).1
      (w.step_transmitted message transmission).2 := by
  have hnot (result : CommandResult) : w.path.can ≠ .LockFailed result := by simp [hcan]
  unfold step_transmitted
  split
  · refine .of_told (.attempted message none) (some .TransmitSucceeded) hnot rfl rfl ?_ ?_
    · rw [fed_success _ (.inl rfl)]
      rfl
    · rw [fed_success _ (.inl rfl)]
  · rename_i error _
    unfold transmit_failed
    dsimp only
    split <;> rename_i hlocked
    · exact .locked hnot hlocked rfl
    · rw [recover_eq]
      exact .of_told (.attempted message (some error)) error.event hnot rfl rfl rfl rfl

theorem Arm.turn {w v : CanCommunicationTask} {reports : List CanReport} (h : Arm w v reports) :
    Turn w v reports := by
  cases h with
  | path hbeside hstep => exact .beside (by simp) rfl (beside_step hbeside hstep).1
  | raw_can_log_receive | power_tick | clear_event_flags =>
    exact .beside (by simp [aside]) rfl (.inr rfl)
  | transmitted hcan => exact transmitted_turn _ hcan
  | lock hstep =>
    rw [recover_eq]
    refine .unlocked (fun result => ?_) rfl
    rcases (step_lock hstep).1 with h | ⟨message, h⟩ <;> simp [h]
  | @received frame received_at_ms hidle =>
    refine .of_told (.received frame received_at_ms) (some .ReceiveSucceeded)
      (by simp [idle_select hidle]) rfl rfl ?_ (by rw [fed_success _ (.inr rfl)])
    rw [fed_success _ (.inr rfl)]
    unfold step_received
    dsimp only
    rw [handle_received_frame_held]
    rcases frame with ⟨id, data, standard, fits⟩
    cases id <;> rfl
  | @receive_error error hidle =>
    unfold step_receive_error
    dsimp only
    rw [recover_eq]
    refine .of_told (.receive_error error) _ (by simp [idle_select hidle]) rfl ?_ rfl rfl
    cases error <;> rfl
  | @health_tick registers hcan =>
    unfold step_health_tick
    dsimp only
    rw [recover_eq]
    refine .of_told (.health_tick registers.health) _ (by simp [hcan]) rfl ?_ rfl rfl
    cases registers.health <;> rfl

/-- And after it. -/
inductive Ends (v : CanCommunicationTask) (reports : List CanReport) :
    CanCommunicationTask → List CanReport → Prop where
  | quiet : Ends v reports v reports
  | published {reading : CanReading} (hcan : v.path.can = .Select) :
      Ends v reports (v.publish reading).1 (reports ++ (v.publish reading).2)

theorem finished_ends (v : CanCommunicationTask) (reports : List CanReport) (reading : CanReading) :
    Ends v reports (finished (v, reports) reading).1 (finished (v, reports) reading).2 := by
  unfold finished finish
  dsimp only
  split <;> rename_i hcan
  · exact .published hcan
  · rw [List.append_nil]
    exact .quiet

theorem step_arm {w w' : CanCommunicationTask} {action : Action} {new : List CanReport}
    (h : w.step action = some (w', new)) : ∃ v reports, Arm w v reports ∧ Ends v reports w' new := by
  have hends {r : CanCommunicationTask × List CanReport} {reading : CanReading}
      (harm : Arm w r.1 r.2) (heq : finished r reading = (w', new)) :
      ∃ v reports, Arm w v reports ∧ Ends v reports w' new := by
    have hfinished := finished_ends r.1 r.2 reading
    rw [heq] at hfinished
    exact ⟨_, _, harm, hfinished⟩
  cases action with
  | path action =>
    simp only [step, Option.ite_none_right_eq_some, Option.map_eq_some_iff] at h
    obtain ⟨hbeside, ⟨path, reports⟩, hstep, heq⟩ := h
    obtain ⟨rfl, rfl⟩ := Prod.mk.inj heq
    exact ⟨_, _, .path hbeside hstep, .quiet⟩
  | transmitted transmission reading =>
    simp only [step] at h
    split at h <;> rename_i hcan
    · exact hends (.transmitted hcan) (Option.some.inj h)
    · simp at h
  | lock reading =>
    obtain ⟨⟨path, reports⟩, hstep, heq⟩ := Option.map_eq_some_iff.mp h
    exact hends (.lock hstep) heq
  | received frame received_at_ms reading =>
    simp only [step, Option.ite_none_right_eq_some] at h
    exact hends (.received h.1) (Option.some.inj h.2)
  | receive_error error reading =>
    simp only [step, Option.ite_none_right_eq_some] at h
    exact hends (.receive_error h.1) (Option.some.inj h.2)
  | health_tick registers reading =>
    simp only [step, Option.ite_none_right_eq_some] at h
    exact hends (.health_tick h.1) (Option.some.inj h.2)
  | raw_can_log_receive =>
    obtain ⟨⟨record, channel⟩, hreceive, heq⟩ := Option.map_eq_some_iff.mp h
    obtain ⟨rfl, rfl⟩ := Prod.mk.inj heq
    exact ⟨_, _, .raw_can_log_receive hreceive, .quiet⟩
  | power_tick now_ms =>
    obtain ⟨rfl, rfl⟩ := Prod.mk.inj (Option.some.inj h)
    exact ⟨_, _, .power_tick rfl, .quiet⟩
  | clear_event_flags flags revision =>
    obtain ⟨rfl, rfl⟩ := Prod.mk.inj (Option.some.inj h)
    exact ⟨_, _, .clear_event_flags, .quiet⟩

/-! ## Runs -/

variable {ok : CanCommunicationTask → Action → Prop}

/-- An invariant that every arm keeps, and that what is published does not matter to. -/
structure Invariant (I : List CanReport → CanCommunicationTask → Prop) : Prop where
  start : ∀ registers, I [] (start registers)
  arm : ∀ {past w v reports}, I past w → Arm w v reports → I (past ++ reports) v
  publish : ∀ {past v reading}, I past v → v.path.can = .Select →
    I (past ++ (v.publish reading).2) (v.publish reading).1

theorem Invariant.and {I J : List CanReport → CanCommunicationTask → Prop} (hI : Invariant I)
    (hJ : Invariant J) : Invariant fun past w => I past w ∧ J past w where
  start registers := ⟨hI.start registers, hJ.start registers⟩
  arm h arm := ⟨hI.arm h.1 arm, hJ.arm h.2 arm⟩
  publish h hcan := ⟨hI.publish h.1 hcan, hJ.publish h.2 hcan⟩

theorem Invariant.ends {I : List CanReport → CanCommunicationTask → Prop} (inv : Invariant I)
    {past reports new : List CanReport} {v w : CanCommunicationTask} (h : I (past ++ reports) v)
    (ends : Ends v reports w new) : I (past ++ new) w := by
  cases ends with
  | quiet => exact h
  | published hcan =>
    rw [← List.append_assoc]
    exact inv.publish h hcan

theorem Invariant.run {I : List CanReport → CanCommunicationTask → Prop} (inv : Invariant I)
    {past : List CanReport} {w : CanCommunicationTask} (run : Machine.Run machine ok past w) :
    I past w := by
  refine run.invariant (I := I) ?_ fun past w action w' new _ h _ hstep => ?_
  · rintro w ⟨registers, rfl⟩
    exact inv.start registers
  · obtain ⟨v, reports, harm, hends⟩ := step_arm hstep
    exact inv.ends (inv.arm h harm) hends

theorem recover_not_published (w : CanCommunicationTask) (event : Option CanRuntimeEvent)
    (reading : CanReading) (status : CanStatus) :
    .published reading status ∉ (w.recover event).2 := by
  cases event with
  | none => simp [recover]
  | some event =>
    simp only [recover, enter_recovering]
    split <;> simp

/-- No arm publishes. -/
theorem Arm.not_published {w v : CanCommunicationTask} {reports : List CanReport}
    (h : Arm w v reports) (reading : CanReading) (status : CanStatus) :
    .published reading status ∉ reports := by
  cases h with
  | path | received | raw_can_log_receive | power_tick | clear_event_flags => simp
  | lock => exact recover_not_published _ _ reading status
  | receive_error | health_tick =>
    intro hmem
    rcases List.mem_cons.mp hmem with heq | hrecover
    · simp at heq
    · exact recover_not_published _ _ reading status hrecover
  | transmitted =>
    unfold step_transmitted
    split
    · simp
    · simp only [List.mem_cons, reduceCtorEq, false_or]
      unfold transmit_failed
      dsimp only
      split
      · simp
      · exact recover_not_published _ _ reading status

/-- What is published is computed between two iterations. -/
theorem Invariant.published {I : List CanReport → CanCommunicationTask → Prop} (inv : Invariant I)
    {past before after : List CanReport} {w : CanCommunicationTask} {reading : CanReading}
    {status : CanStatus} (run : Machine.Run machine ok past w)
    (hpast : past = before ++ .published reading status :: after) :
    ∃ v, I before v ∧ v.path.can = .Select ∧ status = (v.publish reading).1.status := by
  obtain ⟨past', s, action, t, new, later, hrun, hstep, rfl⟩ := run.reported hpast
  obtain ⟨v, reports, harm, hends⟩ := step_arm hstep
  have hnot := harm.not_published reading status
  generalize hnew : new ++ .published reading status :: later = all at hends
  cases hends with
  | quiet => exact absurd (hnew ▸ List.mem_append_right new List.mem_cons_self) hnot
  | @published reading' hcan =>
    rcases later.eq_nil_or_concat with rfl | ⟨later, last, rfl⟩
    · obtain ⟨rfl, hpublished⟩ := List.append_inj' hnew rfl
      obtain ⟨rfl, rfl⟩ := CanReport.published.inj (List.singleton_inj.mp hpublished)
      exact ⟨v, inv.arm (inv.run hrun) harm, hcan, rfl⟩
    · have hall : (new ++ .published reading status :: later) ++ [last] =
          reports ++ (v.publish reading').2 := by simpa using hnew
      have hreports := List.append_inj_left' hall rfl
      exact absurd (hreports ▸ List.mem_append_right new List.mem_cons_self) hnot

/-! ## A frame and a reading -/

/-- A Control frame with this number. -/
def control_frame (sequence : UInt8) : CanFrame :=
  (CanFrame.new 0x101 [sequence, 0, 0, 0]).get (Eq.refl true)

/-- Nothing is wrong on the bus. -/
def calm : CanReading where
  registers := { transmit_error_count := 0, receive_error_count := 0, is_bus_off := false }
  now_ms := 400

end Comboard.CanSteps
