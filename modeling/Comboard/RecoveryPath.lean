import Comboard.Code.CommandPath

/-!
# What a step does to the recovery dump

A step leaves the assembler alone, starts it, drops what it holds, or hands it a message.
-/

namespace Comboard.RecoveryPath

open Lib CommandPath

/-- The reports about a dump. -/
def aboutDump : Report → Bool
  | .dump_started _ _ | .chunk _ _ | .stop _ _ => true
  | _ => false

def Quiet (reports : List Report) : Prop := ∀ r ∈ reports, aboutDump r = false

theorem quiet_nil : Quiet [] := by simp [Quiet]

theorem Quiet.cons {r : Report} {reports : List Report} (hr : aboutDump r = false)
    (h : Quiet reports) : Quiet (r :: reports) := by
  rintro r' (_ | ⟨_, hr'⟩)
  · exact hr
  · exact h r' hr'

theorem Quiet.append {reports reports' : List Report} (h : Quiet reports) (h' : Quiet reports') :
    Quiet (reports ++ reports') := by
  intro r hr
  exact (List.mem_append.mp hr).elim (h r) (h' r)

/-! ## The queues -/

theorem quiet_queue_command_result (s : LoraChannels) (packet : CommandResultPacket) :
    Quiet (s.queue_command_result packet).2 := by
  unfold LoraChannels.queue_command_result
  split <;> exact quiet_nil.cons rfl

theorem quiet_queue_emergency_result (s : LoraChannels) (result : CommandResult) :
    Quiet (s.queue_emergency_result result).2 := by
  unfold LoraChannels.queue_emergency_result
  split <;> exact quiet_nil.cons rfl

theorem quiet_queue_ground_time_request (s : LoraChannels) (request_id : UInt8)
    (previous : Option UInt8) : Quiet (s.queue_ground_time_request request_id previous).2.2 := by
  unfold LoraChannels.queue_ground_time_request
  dsimp only
  split
  · exact quiet_nil
  · split <;> exact quiet_nil.cons rfl

theorem queue_some_result_keeps (s : RecoveryState) (result : Option CommandResult) :
    (s.queue_some_result result).1.recovery_assembler = s.recovery_assembler ∧
      Quiet (s.queue_some_result result).2 := by
  cases result with
  | none => exact ⟨rfl, quiet_nil⟩
  | some result => exact ⟨rfl, quiet_queue_command_result _ _⟩

/-! ## The command task -/

/-- The command task left the assembler alone. -/
def Keeps (s : State) (after : State × CommandTask × List Report) : Prop :=
  after.1.recovery_assembler = s.recovery_assembler ∧ Quiet after.2.2

theorem keeps_answer (s : State) (transaction_id command : UInt8) (phase : CommandPhase)
    (reason : CommandReason) : Keeps s (Command.answer s transaction_id command phase reason) :=
  ⟨rfl, quiet_queue_command_result _ _⟩

theorem keeps_send_forward (s : State) (request : GenericCommandRequest) :
    Keeps s (Command.send_forward s request) := by
  unfold Command.send_forward
  split <;> exact ⟨rfl, quiet_nil⟩

theorem keeps_process_generic (s : State) (request : GenericCommandRequest) :
    Keeps s (Command.process_generic s request) := by
  unfold Command.process_generic
  split
  · exact ⟨rfl, quiet_nil⟩
  · dsimp only
    split
    · obtain ⟨hkeeps, hquiet⟩ := keeps_send_forward
        { s with command_tracker := (s.command_tracker.register request).1, tracker_guard := true }
        request
      exact ⟨hkeeps, hquiet.cons rfl⟩
    · exact ⟨rfl, quiet_nil.cons rfl⟩
    all_goals exact ⟨rfl, (quiet_queue_command_result _ _).cons rfl⟩

theorem keeps_send_gnss (s : State) (value : GnssCommand) (transaction_id command : UInt8) :
    Keeps s (Command.send_gnss s value transaction_id command) := by
  unfold Command.send_gnss
  split
  · exact ⟨rfl, quiet_nil⟩
  · exact keeps_answer { s with gnss_cmd_channel := _ } ..

theorem keeps_send_control (s : State) (control : RecoveryControl) (command : UInt8) :
    Keeps s (Command.send_control s control command) := by
  unfold Command.send_control
  split
  · exact ⟨rfl, quiet_nil⟩
  · exact keeps_answer { s with can_tx_channel := _ } ..

theorem keeps_send_time (s : State) (message : CanTxMessage) :
    Keeps s (Command.send_time s message) := by
  unfold Command.send_time
  split <;> exact ⟨rfl, quiet_nil⟩

/-! ## The dump commands -/

/-- How a step of the other tasks treats the assembler. -/
inductive Handled (a a' : RecoveryAssembler) (reports : List Report) : Prop where
  | kept (h : a' = a) (hq : Quiet reports)
  | dropped (h : a' = a.abort.1) (hq : Quiet reports)
  | started {transfer_id : UInt8} {source : RecoverySource} {offset length : UInt32}
      {rest : List Report} (h : a' = .start transfer_id source offset length)
      (hoffset : offset.toNat < 2 ^ 24)
      (hreports : reports = .dump_started transfer_id offset :: rest) (hq : Quiet rest)

/-- The offset of a dump command has three bytes. -/
theorem keeps_handled {s : State} {after : State × CommandTask × List Report} (h : Keeps s after) :
    Handled s.recovery_assembler after.1.recovery_assembler after.2.2 := .kept h.1 h.2

theorem stop_dump_handled (s : RecoveryState) (pending : PendingRecovery) :
    (Command.stop_dump s pending).1.recovery_assembler = s.recovery_assembler.abort.1 ∧
      Quiet (Command.stop_dump s pending).2 := by
  unfold Command.stop_dump
  refine ⟨rfl, ?_⟩
  dsimp only
  split
  · exact quiet_queue_command_result _ _
  · exact quiet_nil

theorem start_request_handled {s s' : RecoveryState} {pending : PendingRecovery}
    {offset length : UInt32} {reports : List Report} (hoffset : offset.toNat < 2 ^ 24)
    (h : Command.start_request s pending offset length = some (s', reports)) :
    Handled s.recovery_assembler s'.recovery_assembler reports := by
  unfold Command.start_request at h
  dsimp only at h
  split at h
  · simp at h
  · split at h
    · simp only [Option.some.injEq, Prod.mk.injEq] at h
      obtain ⟨rfl, rfl⟩ := h
      exact .started rfl hoffset rfl quiet_nil
    · simp only [Option.some.injEq, Prod.mk.injEq] at h
      obtain ⟨rfl, rfl⟩ := h
      exact .kept rfl quiet_nil

/-- What is reported after the assembler was treated is quiet. -/
theorem Handled.append {a a' a'' : RecoveryAssembler} {reports later : List Report}
    (h : Handled a a' reports) (ha : a'' = a') (hq : Quiet later) :
    Handled a a'' (reports ++ later) := by
  subst ha
  cases h with
  | kept h hq' => exact .kept h (hq'.append hq)
  | dropped h hq' => exact .dropped h (hq'.append hq)
  | started h hoffset hreports hq' =>
    exact .started h hoffset (by rw [hreports]; rfl) (hq'.append hq)

theorem process_recovery_handled (s : State) (transaction_id command : UInt8)
    (args : Vector UInt8 6) (command_value : LocalCommand) :
    Handled s.recovery_assembler
      (Command.process_recovery s transaction_id command args command_value).1.recovery_assembler
      (Command.process_recovery s transaction_id command args command_value).2.2 := by
  unfold Command.process_recovery
  split
  · exact keeps_handled (keeps_answer ..)
  · dsimp only
    split
    · obtain ⟨hdropped, hquiet⟩ := stop_dump_handled s.toRecoveryState
        { transaction_id, command, opcode := Command.recovery_opcode command_value,
          source := Command.recovery_source s.recovery_session command_value }
      obtain ⟨hkeeps, hquiet'⟩ := keeps_send_control { s with toRecoveryState := _ } _ command
      exact .dropped (hkeeps.trans hdropped) (hquiet.append hquiet')
    · split <;> rename_i hstart
      · exact keeps_handled (keeps_answer ..)
      · obtain ⟨hkeeps, hquiet⟩ := keeps_send_control { s with toRecoveryState := _ } _ command
        exact (start_request_handled (three_bytes_lt ..) hstart).append hkeeps hquiet

theorem process_local_handled (s : State) (transaction_id command : UInt8)
    (args : Vector UInt8 6) :
    Handled s.recovery_assembler
      (Command.process_local s transaction_id command args).1.recovery_assembler
      (Command.process_local s transaction_id command args).2.2 := by
  unfold Command.process_local
  split
  · exact keeps_handled (keeps_answer ..)
  · dsimp only
    split
    · exact keeps_handled (keeps_answer ..)
    · split
      · exact keeps_handled (keeps_answer { s with logging_requested := _ } ..)
      · exact keeps_handled (keeps_answer { s with logging_requested := _ } ..)
      · exact keeps_handled (keeps_send_gnss ..)
      · exact keeps_handled (keeps_send_gnss ..)
      · exact process_recovery_handled ..

theorem process_command_handled (s : State) (command : UplinkCommand) :
    Handled s.recovery_assembler (Command.process_command s command).1.recovery_assembler
      (Command.process_command s command).2.2 := by
  unfold Command.process_command
  split
  · exact keeps_handled (keeps_process_generic s _)
  · exact .kept rfl quiet_nil
  · exact .kept rfl quiet_nil
  · exact process_local_handled ..
  · exact keeps_handled (keeps_send_time s _)

theorem resume_command_handled (s : State) (task : CommandTask) :
    Handled s.recovery_assembler (Command.resume_command s task).1.recovery_assembler
      (Command.resume_command s task).2.2 := by
  cases task with
  | Receive =>
    simp only [Command.resume_command]
    split <;> rename_i hreceive
    · exact .kept rfl quiet_nil
    · rename_i command channel
      exact process_command_handled { s with uplink_command_channel := channel } command
  | LockTracker request => exact keeps_handled (keeps_process_generic s request)
  | SendForward request => exact keeps_handled (keeps_send_forward s request)
  | SendGnss value transaction_id command => exact keeps_handled (keeps_send_gnss s ..)
  | SendControl control command => exact keeps_handled (keeps_send_control s ..)
  | SendTime message => exact keeps_handled (keeps_send_time s _)

/-! ## The CAN task -/

theorem next_safety_assembler (w : CommandPath) :
    (next_safety w).state.recovery_assembler = w.state.recovery_assembler := by
  unfold next_safety
  split <;> rfl

theorem transmit_succeeded_assembler (s : State) (message : CanTxMessage) :
    (s.transmit_succeeded message).recovery_assembler = s.recovery_assembler := by
  unfold State.transmit_succeeded
  split
  · split <;> rfl
  · rfl

/-- A failed `RecoveryControl` of the pending request drops what the assembler holds. -/
theorem transmit_failed_handled (s : State) (message : CanTxMessage) :
    ((s.transmit_failed message).1.recovery_assembler = s.recovery_assembler ∨
        (s.transmit_failed message).1.recovery_assembler = s.recovery_assembler.abort.1) ∧
      Quiet (s.transmit_failed message).2.1 := by
  unfold State.transmit_failed
  split
  · exact ⟨.inl rfl, quiet_queue_emergency_result _ _⟩
  · split
    · exact ⟨.inl rfl, quiet_nil⟩
    · dsimp only
      refine ⟨?_, (queue_some_result_keeps _ _).2⟩
      split
      · exact .inr (queue_some_result_keeps _ _).1
      · exact .inl (queue_some_result_keeps _ _).1
    · exact ⟨.inl rfl, quiet_nil⟩

theorem lock_failed_handled (w : CommandPath) (result : CommandResult) :
    (w.lock_failed result).1.state.recovery_assembler = w.state.recovery_assembler ∧
      Quiet (w.lock_failed result).2 := by
  unfold lock_failed
  split
  · exact ⟨rfl, quiet_nil⟩
  · dsimp only [State.apply_failed_result]
    obtain ⟨hkeeps, hquiet⟩ := queue_some_result_keeps w.state.toRecoveryState
      (if (w.state.command_tracker.apply_result result).2 then some result else none)
    exact ⟨(next_safety_assembler _).trans hkeeps, hquiet.cons rfl⟩

theorem lock_result_handled (w : CommandPath) (result : CommandResult) :
    (w.lock_result result).1.state.recovery_assembler = w.state.recovery_assembler ∧
      Quiet (w.lock_result result).2 := by
  unfold lock_result
  split
  · exact ⟨rfl, quiet_nil⟩
  · dsimp only [State.apply_command_result]
    refine ⟨rfl, Quiet.cons rfl ?_⟩
    split
    · exact quiet_queue_emergency_result _ _
    · exact quiet_queue_command_result _ _

theorem step_transmitted_handled (w : CommandPath) (message : CanTxMessage) (sent : Bool) :
    Handled w.state.recovery_assembler (w.step_transmitted message sent).1.state.recovery_assembler
      (w.step_transmitted message sent).2 := by
  unfold step_transmitted
  split
  · exact .kept ((next_safety_assembler _).trans (transmit_succeeded_assembler ..))
      (quiet_nil.cons rfl)
  · obtain ⟨hfailed, hquiet⟩ := transmit_failed_handled w.state message
    split <;> rename_i hfail <;> rw [hfail] at hfailed hquiet
    · rcases hfailed with h | h
      · exact .kept ((next_safety_assembler _).trans h) (hquiet.cons rfl)
      · exact .dropped ((next_safety_assembler _).trans h) (hquiet.cons rfl)
    · obtain ⟨hkeeps, hquiet'⟩ := lock_failed_handled { w with state := _ } _
      rcases hfailed with h | h
      · exact .kept (hkeeps.trans h) ((hquiet.append hquiet').cons rfl)
      · exact .dropped (hkeeps.trans h) ((hquiet.append hquiet').cons rfl)

theorem recovery_mode_frame_assembler (s : State) (data : List UInt8) :
    (s.recovery_mode_frame data).recovery_assembler = s.recovery_assembler := by
  have hmode : (s.handle_recovery_mode_command data).1.recovery_assembler =
      s.recovery_assembler := by
    unfold State.handle_recovery_mode_command
    split
    · split <;> rfl
    · rfl
  rw [← hmode]
  unfold State.recovery_mode_frame
  dsimp only
  split <;> rfl

/-! ## Every step -/

/-- A frame of the dump gets to the CAN task. -/
inductive Message where
  | status (status : RecoveryStatus)
  | fragment (fragment : RecoveryLogData)

/-- What the CAN task does with it. -/
def handle (s : RecoveryState) : Message → RecoveryState × List Report
  | .status status => s.apply_recovery_status status
  | .fragment fragment => s.apply_recovery_log_data fragment

def Message.received : Message → CanRxMessage
  | .status value => .RecoveryStatus value
  | .fragment value => .RecoveryLogData value

/-- Every step treats the assembler in one of these ways, or hands it a message. -/
theorem step_handled {w w' : CommandPath} {a : Action} {reports : List Report}
    (h : step w a = some (w', reports)) :
    Handled w.state.recovery_assembler w'.state.recovery_assembler reports ∨
      ∃ m received_at_ms s, a = .can_receive (Message.received m) received_at_ms ∧
        s.recovery_assembler = w.state.recovery_assembler ∧
        handle s m = (w'.state.toRecoveryState, reports) := by
  cases a with
  | uplink command =>
    simp only [step, Option.map_eq_some_iff, Prod.mk.injEq] at h
    obtain ⟨s, hs, rfl, rfl⟩ := h
    refine .inl (.kept ?_ quiet_nil)
    unfold uplink at hs
    split at hs
    · obtain ⟨c, -, rfl⟩ := Option.map_eq_some_iff.mp hs; rfl
    · obtain ⟨c, -, rfl⟩ := Option.map_eq_some_iff.mp hs; rfl
    · rw [Option.some.injEq] at hs; rw [← hs]
  | gnss_time_response request_id unix_seconds milliseconds =>
    simp only [step, Option.some.injEq, Prod.mk.injEq] at h
    obtain ⟨rfl, rfl⟩ := h
    exact .inl (.kept rfl quiet_nil)
  | gnss_receive =>
    simp only [step, Option.map_eq_some_iff, Prod.mk.injEq] at h
    obtain ⟨s, -, rfl, rfl⟩ := h
    exact .inl (.kept rfl quiet_nil)
  | lora_receive source =>
    simp only [step, Option.map_eq_some_iff, Prod.mk.injEq] at h
    obtain ⟨s, hs, rfl, rfl⟩ := h
    refine .inl (.kept ?_ quiet_nil)
    cases source with
    | Periodic => simp [lora_receive] at hs
    | _ => obtain ⟨c, -, rfl⟩ := Option.map_eq_some_iff.mp hs; rfl
  | command =>
    simp only [step] at h
    split at h
    · simp at h
    · rw [Option.some.injEq] at h
      have := resume_command_handled w.state w.command
      simp only [step_command, Prod.mk.injEq] at h
      rw [← h.1, ← h.2]
      exact .inl this
  | can_take =>
    simp only [step] at h
    split at h
    · simp only [Option.map_eq_some_iff, Prod.mk.injEq] at h
      obtain ⟨v, hv, rfl, rfl⟩ := h
      refine .inl (.kept ?_ quiet_nil)
      unfold step_can_take at hv
      split at hv
      · rw [Option.some.injEq] at hv; rw [← hv]
      · split at hv
        · rw [Option.some.injEq] at hv; rw [← hv]
        · simp at hv
    · simp at h
  | can_transmitted sent =>
    simp only [step] at h
    split at h
    · rw [Option.some.injEq] at h
      have := step_transmitted_handled w ‹_› sent
      rw [h] at this
      exact .inl this
    · simp at h
  | can_receive message received_at_ms =>
    simp only [step] at h
    split at h
    · split at h
      · rw [Option.some.injEq] at h
        unfold step_received at h
        dsimp only at h
        split at h <;> rename_i hupdate
        · have := lock_result_handled
            { w with state := (w.state.update_cache message received_at_ms).1 } ‹_›
          rw [h] at this
          exact .inl (.kept this.1 this.2)
        · rw [Prod.mk.injEq] at h
          rw [← h.1, ← h.2]
          exact .inl (.kept rfl (quiet_queue_ground_time_request _ _ _))
        · rw [Prod.mk.injEq] at h
          rw [← h.1, ← h.2]
          rename_i status
          exact .inr ⟨.status status, received_at_ms,
            (w.state.update_cache message received_at_ms).1.toRecoveryState,
            congrArg (Action.can_receive · received_at_ms)
              (CanCache.update_hands_on (congrArg CanCache.handed_on hupdate)), rfl, rfl⟩
        · rw [Prod.mk.injEq] at h
          rw [← h.1, ← h.2]
          rename_i fragment
          exact .inr ⟨.fragment fragment, received_at_ms,
            (w.state.update_cache message received_at_ms).1.toRecoveryState,
            congrArg (Action.can_receive · received_at_ms)
              (CanCache.update_hands_on (congrArg CanCache.handed_on hupdate)), rfl, rfl⟩
        all_goals
          rw [Prod.mk.injEq] at h
          rw [← h.1, ← h.2]
          exact .inl (.kept rfl quiet_nil)
      · simp at h
    · simp at h
  | can_receive_mode data =>
    simp only [step] at h
    split at h
    · split at h
      · simp only [Option.some.injEq, Prod.mk.injEq] at h
        rw [← h.1, ← h.2]
        exact .inl (.kept (recovery_mode_frame_assembler ..) quiet_nil)
      · simp at h
    · simp at h
  | can_lock =>
    simp only [step] at h
    split at h
    · split at h
      · simp at h
      · rw [Option.some.injEq] at h
        have := lock_failed_handled w ‹_›
        rw [h] at this
        exact .inl (.kept this.1 this.2)
    · split at h
      · simp at h
      · rw [Option.some.injEq] at h
        have := lock_result_handled w ‹_›
        rw [h] at this
        exact .inl (.kept this.1 this.2)
    · simp at h

end Comboard.RecoveryPath
