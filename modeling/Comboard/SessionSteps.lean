import Comboard.RecoveryPath

/-!
# What a step does to the recovery session

The session, the assembler and the beacon flag are three objects. `Turn` is all that a step can do to
them: other steps leave the three alone.
-/

namespace Comboard.SessionSteps

open Lib CommandPath RecoveryPath

structure Same (s s' : RecoveryState) : Prop where
  session : s'.recovery_session = s.recovery_session
  assembler : s'.recovery_assembler = s.recovery_assembler
  beacon : s'.recovery_beacon_active = s.recovery_beacon_active

theorem Same.refl (s : RecoveryState) : Same s s := ⟨rfl, rfl, rfl⟩

theorem Same.trans {s s' s'' : RecoveryState} (h : Same s s') (h' : Same s' s'') : Same s s'' :=
  ⟨h'.session.trans h.session, h'.assembler.trans h.assembler, h'.beacon.trans h.beacon⟩

theorem same_queue_some_result (s : RecoveryState) (result : Option CommandResult) :
    Same s (s.queue_some_result result).1 := by
  cases result <;> exact ⟨rfl, rfl, rfl⟩

/-! ## The command task -/

section Command

variable (s : State)

theorem same_answer (transaction_id command : UInt8) (phase : CommandPhase) (reason : CommandReason) :
    Same s.toRecoveryState (Command.answer s transaction_id command phase reason).1.toRecoveryState :=
  ⟨rfl, rfl, rfl⟩

theorem same_send_forward (request : GenericCommandRequest) :
    Same s.toRecoveryState (Command.send_forward s request).1.toRecoveryState := by
  unfold Command.send_forward
  split <;> exact ⟨rfl, rfl, rfl⟩

theorem same_process_generic (request : GenericCommandRequest) :
    Same s.toRecoveryState (Command.process_generic s request).1.toRecoveryState := by
  unfold Command.process_generic
  split
  · exact ⟨rfl, rfl, rfl⟩
  · dsimp only
    split
    · exact same_send_forward
        { s with command_tracker := (s.command_tracker.register request).1, tracker_guard := true }
        request
    all_goals exact ⟨rfl, rfl, rfl⟩

theorem same_send_gnss (value : GnssCommand) (transaction_id command : UInt8) :
    Same s.toRecoveryState (Command.send_gnss s value transaction_id command).1.toRecoveryState := by
  unfold Command.send_gnss
  split <;> exact ⟨rfl, rfl, rfl⟩

theorem same_send_control (control : RecoveryControl) (command : UInt8) :
    Same s.toRecoveryState (Command.send_control s control command).1.toRecoveryState := by
  unfold Command.send_control
  split <;> exact ⟨rfl, rfl, rfl⟩

theorem same_send_time (message : CanTxMessage) :
    Same s.toRecoveryState (Command.send_time s message).1.toRecoveryState := by
  unfold Command.send_time
  split <;> exact ⟨rfl, rfl, rfl⟩

end Command

/-- A local command about the recovery. -/
structure Request where
  transaction_id : UInt8
  command : UInt8
  args : Vector UInt8 6
  value : LocalCommand

def Request.pending (r : Request) (session : RecoverySession) : PendingRecovery where
  transaction_id := r.transaction_id
  command := r.command
  opcode := Command.recovery_opcode r.value
  source := Command.recovery_source session r.value

/-- An exit is accepted only while the beacon is on. -/
def Request.Allowed (r : Request) (s : RecoveryState) : Prop :=
  LocalCommand.decode r.command = some r.value ∧
    (r.value = .ExitRecovery → s.recovery_beacon_active = true)

/-- How a request changes the three. -/
inductive Requested (r : Request) (s s' : RecoveryState) : Prop where
  | same (same : Same s s')
  | started (allowed : r.Allowed s) (free : s.recovery_session.pending = none)
      (session : s'.recovery_session.pending = some (r.pending s.recovery_session))
      (assembler : s'.recovery_assembler =
        if Command.recovery_opcode r.value = .StartLogDump then
          .start r.transaction_id (Command.recovery_source s.recovery_session r.value)
            (Command.offset_arg r.args) (Command.length_arg r.args)
        else s.recovery_assembler)
      (beacon : s'.recovery_beacon_active = s.recovery_beacon_active)
  | stopped (allowed : r.Allowed s) (value : r.value = .StopDump)
      (session : s'.recovery_session.pending = some (r.pending s.recovery_session))
      (assembler : s'.recovery_assembler = s.recovery_assembler.abort.1)
      (beacon : s'.recovery_beacon_active = s.recovery_beacon_active)

theorem Requested.then_same {r : Request} {s s' s'' : RecoveryState} (h : Requested r s s')
    (same : Same s' s'') : Requested r s s'' := by
  cases h with
  | same h => exact .same (h.trans same)
  | started allowed free session assembler beacon =>
    exact .started allowed free (same.session ▸ session) (same.assembler.trans assembler)
      (same.beacon.trans beacon)
  | stopped allowed value session assembler beacon =>
    exact .stopped allowed value (same.session ▸ session) (same.assembler.trans assembler)
      (same.beacon.trans beacon)

theorem start_request_started {r : Request} {s s' : RecoveryState} {reports : List Report}
    (allowed : r.Allowed s)
    (h : Command.start_request s (r.pending s.recovery_session) (Command.offset_arg r.args)
      (Command.length_arg r.args) = some (s', reports)) : Requested r s s' := by
  unfold Command.start_request at h
  cases hpending : s.recovery_session.pending with
  | some pending =>
    rw [RecoverySession.start, hpending] at h
    simp at h
  | none =>
    rw [RecoverySession.start, hpending] at h
    dsimp only at h
    rw [if_neg (by simp)] at h
    split at h <;> rename_i hopcode
    · obtain ⟨rfl, -⟩ := Prod.mk.inj (Option.some.inj h)
      exact .started allowed hpending rfl (if_pos hopcode).symm rfl
    · obtain ⟨rfl, -⟩ := Prod.mk.inj (Option.some.inj h)
      exact .started allowed hpending rfl (if_neg hopcode).symm rfl

theorem process_recovery_requested (s : State) (r : Request)
    (hdecode : LocalCommand.decode r.command = some r.value) :
    Requested r s.toRecoveryState
      (Command.process_recovery s r.transaction_id r.command r.args r.value).1.toRecoveryState := by
  unfold Command.process_recovery
  split <;> rename_i hexit
  · exact .same (same_answer ..)
  · have allowed : r.Allowed s.toRecoveryState :=
      ⟨hdecode, fun hvalue => by simpa [hvalue] using hexit⟩
    dsimp only
    split <;> rename_i hvalue
    · have hstopped : Requested r s.toRecoveryState
          (Command.stop_dump s.toRecoveryState (r.pending s.recovery_session)).1 :=
        .stopped allowed hvalue rfl rfl rfl
      exact hstopped.then_same (same_send_control { s with toRecoveryState := _ } _ r.command)
    · split <;> rename_i hstart
      · exact .same (same_answer ..)
      · exact (start_request_started allowed hstart).then_same
          (same_send_control { s with toRecoveryState := _ } _ r.command)

theorem process_local_requested (s : State) (transaction_id command : UInt8) (args : Vector UInt8 6) :
    ∃ value, Requested ⟨transaction_id, command, args, value⟩ s.toRecoveryState
      (Command.process_local s transaction_id command args).1.toRecoveryState := by
  unfold Command.process_local
  split
  · exact ⟨.Wake, .same (same_answer ..)⟩
  · rename_i value hdecode
    refine ⟨value, ?_⟩
    dsimp only
    split
    · exact .same (same_answer ..)
    · split
      · exact .same (same_answer { s with logging_requested := _ } ..)
      · exact .same (same_answer { s with logging_requested := _ } ..)
      · exact .same (same_send_gnss ..)
      · exact .same (same_send_gnss ..)
      · exact process_recovery_requested s ⟨transaction_id, command, args, value⟩ hdecode

/-- The command task takes the request from its channel. -/
def Takes (w : CommandPath) (r : Request) : Prop :=
  w.command = .Receive ∧ w.state.uplink_command_channel.items.head? =
    some (.ComBoardLocal r.transaction_id r.command r.args)

theorem resume_command_requested (w : CommandPath) :
    Same w.state.toRecoveryState (Command.resume_command w.state w.command).1.toRecoveryState ∨
      ∃ r, Takes w r ∧ Requested r w.state.toRecoveryState
        (Command.resume_command w.state w.command).1.toRecoveryState := by
  cases htask : w.command with
  | Receive =>
    simp only [Command.resume_command]
    split
    · exact .inl (.refl _)
    · rename_i command channel hreceive
      have hhead : w.state.uplink_command_channel.items.head? = some command := by
        rw [Channel.try_receive_some hreceive]
        rfl
      unfold Command.process_command
      split
      · exact .inl (same_process_generic { w.state with uplink_command_channel := channel } _)
      · exact .inl ⟨rfl, rfl, rfl⟩
      · exact .inl ⟨rfl, rfl, rfl⟩
      · rename_i transaction_id command args
        obtain ⟨value, requested⟩ := process_local_requested
          { w.state with uplink_command_channel := channel } transaction_id command args
        exact .inr ⟨_, ⟨htask, hhead⟩, requested⟩
      · exact .inl (same_send_time { w.state with uplink_command_channel := channel } _)
  | LockTracker request => exact .inl (same_process_generic _ request)
  | SendForward request => exact .inl (same_send_forward _ request)
  | SendGnss value transaction_id command => exact .inl (same_send_gnss ..)
  | SendControl control command => exact .inl (same_send_control ..)
  | SendTime message => exact .inl (same_send_time ..)

/-! ## The CAN task -/

theorem same_next_safety (w : CommandPath) :
    Same w.state.toRecoveryState (next_safety w).state.toRecoveryState := by
  unfold next_safety
  split <;> exact ⟨rfl, rfl, rfl⟩

theorem same_transmit_succeeded (s : State) (message : CanTxMessage) :
    Same s.toRecoveryState (s.transmit_succeeded message).toRecoveryState := by
  unfold State.transmit_succeeded
  split
  · split <;> exact ⟨rfl, rfl, rfl⟩
  · exact ⟨rfl, rfl, rfl⟩

theorem same_lock_failed (w : CommandPath) (result : CommandResult) :
    Same w.state.toRecoveryState (w.lock_failed result).1.state.toRecoveryState := by
  unfold lock_failed
  split
  · exact ⟨rfl, rfl, rfl⟩
  · have happlied :
        Same w.state.toRecoveryState (w.state.apply_failed_result result).1.toRecoveryState :=
      same_queue_some_result ..
    exact happlied.trans (same_next_safety { w with state := (w.state.apply_failed_result result).1 })

theorem same_lock_result (w : CommandPath) (result : CommandResult) :
    Same w.state.toRecoveryState (w.lock_result result).1.state.toRecoveryState := by
  unfold lock_result
  split <;> exact ⟨rfl, rfl, rfl⟩

/-- A `RecoveryControl` of this transfer could not be sent. -/
structure Timeout (transfer_id : UInt8) (s s' : RecoveryState) : Prop where
  session : s'.recovery_session = (s.recovery_session.fail_matching transfer_id .Timeout 0).1
  assembler : s'.recovery_assembler =
    if (s.recovery_session.fail_matching transfer_id .Timeout 0).2.isSome then
      s.recovery_assembler.abort.1
    else s.recovery_assembler
  beacon : s'.recovery_beacon_active = s.recovery_beacon_active

theorem Timeout.then_same {transfer_id : UInt8} {s s' s'' : RecoveryState}
    (h : Timeout transfer_id s s') (same : Same s' s'') : Timeout transfer_id s s'' :=
  ⟨same.session.trans h.session, same.assembler.trans h.assembler, same.beacon.trans h.beacon⟩

theorem transmit_failed_timeout (s : State) (message : CanTxMessage) :
    Same s.toRecoveryState (s.transmit_failed message).1.toRecoveryState ∨
      ∃ transfer_id, Timeout transfer_id s.toRecoveryState
        (s.transmit_failed message).1.toRecoveryState := by
  unfold State.transmit_failed
  split
  · exact .inl ⟨rfl, rfl, rfl⟩
  · split
    · exact .inl ⟨rfl, rfl, rfl⟩
    · rename_i control _
      dsimp only
      have same := same_queue_some_result
        { s.toRecoveryState with
          recovery_session := (s.recovery_session.fail_matching control.transfer_id .Timeout 0).1
          recovery_assembler :=
            if (s.recovery_session.fail_matching control.transfer_id .Timeout 0).2.isSome then
              s.recovery_assembler.abort.1
            else s.recovery_assembler }
        (s.recovery_session.fail_matching control.transfer_id .Timeout 0).2
      exact .inr ⟨control.transfer_id, same.session, same.assembler, same.beacon⟩
    · exact .inl ⟨rfl, rfl, rfl⟩

theorem step_transmitted_timeout (w : CommandPath) (message : CanTxMessage) (sent : Bool) :
    Same w.state.toRecoveryState (w.step_transmitted message sent).1.state.toRecoveryState ∨
      sent = false ∧ ∃ transfer_id, Timeout transfer_id w.state.toRecoveryState
        (w.step_transmitted message sent).1.state.toRecoveryState := by
  unfold step_transmitted
  split <;> rename_i hsent
  · exact .inl ((same_transmit_succeeded w.state message).trans
      (same_next_safety { w with state := w.state.transmit_succeeded message }))
  · have hfailed := transmit_failed_timeout w.state message
    rw [Bool.not_eq_true] at hsent
    split <;> rename_i hfail <;> rw [hfail] at hfailed
    · rename_i s _
      have hnext := same_next_safety { w with state := s }
      exact hfailed.imp (·.trans hnext) fun ⟨transfer_id, h⟩ =>
        ⟨hsent, transfer_id, h.then_same hnext⟩
    · rename_i s _ result
      have hlock := same_lock_failed { w with state := s } result
      exact hfailed.imp (·.trans hlock) fun ⟨transfer_id, h⟩ =>
        ⟨hsent, transfer_id, h.then_same hlock⟩

/-- The frame with ID 0x014, DLC 3, mode 1 and a reason up to 3. -/
def Enters (data : List UInt8) : Prop := ∃ first reason, data = [first, 1, reason] ∧ reason ≤ 3

theorem recovery_mode_frame_enters (s : State) (data : List UInt8) :
    Same s.toRecoveryState (s.recovery_mode_frame data).toRecoveryState ∨
      Enters data ∧ Same { s.toRecoveryState with recovery_beacon_active := true }
        (s.recovery_mode_frame data).toRecoveryState := by
  unfold State.recovery_mode_frame State.handle_recovery_mode_command
  split
  rename_i hmode
  split at hmode
  · rename_i first mode reason
    split at hmode <;> rename_i hvalid
    · obtain ⟨rfl, rfl⟩ := Prod.mk.inj hmode
      exact .inl ⟨rfl, rfl, rfl⟩
    · obtain ⟨rfl, -⟩ := Prod.mk.inj hmode
      rw [not_or, not_not, gt_iff_lt, UInt8.not_lt] at hvalid
      refine .inr ⟨⟨first, reason, by rw [hvalid.1], hvalid.2⟩, ?_⟩
      dsimp only
      split <;> exact ⟨rfl, rfl, rfl⟩
  · obtain ⟨rfl, rfl⟩ := Prod.mk.inj hmode
    exact .inl ⟨rfl, rfl, rfl⟩

/-! ## A message of the dump -/

theorem fail_empties (session : RecoverySession) (reason : CommandReason) (detail : UInt32) :
    (session.fail reason detail).1.pending = none := by
  unfold RecoverySession.fail
  split
  · assumption
  · rfl

/-- `fail_recovery_transfer` ends the request and the dump. -/
structure Failed (s s' : RecoveryState) : Prop where
  session : s'.recovery_session.pending = none
  assembler : s'.recovery_assembler = s.recovery_assembler.abort.1
  beacon : s'.recovery_beacon_active = s.recovery_beacon_active

theorem fail_failed (s : RecoveryState) (reason : CommandReason) (stop_mission : Bool) :
    Failed s (s.fail_recovery_transfer reason stop_mission).1 := by
  unfold RecoveryState.fail_recovery_transfer
  dsimp only
  have hstop : Same { s with recovery_assembler := s.recovery_assembler.abort.1 }
      (RecoveryState.send_stop { s with recovery_assembler := s.recovery_assembler.abort.1 }
        stop_mission s.recovery_assembler.abort.2).1 := by
    unfold RecoveryState.send_stop
    split
    · split <;> exact ⟨rfl, rfl, rfl⟩
    · exact ⟨rfl, rfl, rfl⟩
  generalize RecoveryState.send_stop { s with recovery_assembler := s.recovery_assembler.abort.1 }
    stop_mission s.recovery_assembler.abort.2 = stopped at hstop
  have hqueue := same_queue_some_result
    { stopped.1 with
      recovery_session := (stopped.1.recovery_session.fail reason
        ((s.recovery_assembler.abort.2.map (·.offset)).getD 0)).1 }
    (stopped.1.recovery_session.fail reason
      ((s.recovery_assembler.abort.2.map (·.offset)).getD 0)).2
  exact ⟨by rw [hqueue.session, fail_empties], hqueue.assembler.trans hstop.assembler,
    hqueue.beacon.trans hstop.beacon⟩

theorem Same.failed {s s' s'' : RecoveryState} (same : Same s s') (h : Failed s' s'') : Failed s s'' :=
  ⟨h.session, by rw [h.assembler, same.assembler], h.beacon.trans same.beacon⟩

/-- No chunk is reported. -/
def NoChunk (reports : List Report) : Prop := ∀ chunk queued, .chunk chunk queued ∉ reports

theorem NoChunk.append {reports later : List Report} (h : NoChunk reports) (h' : NoChunk later) :
    NoChunk (reports ++ later) := fun chunk queued hmem =>
  (List.mem_append.mp hmem).elim (h chunk queued) (h' chunk queued)

theorem no_chunk_quiet {reports : List Report} (h : Quiet reports) : NoChunk reports := by
  intro chunk queued hmem
  cases h _ hmem

theorem fail_no_chunk (s : RecoveryState) (reason : CommandReason) (stop_mission : Bool) :
    NoChunk (s.fail_recovery_transfer reason stop_mission).2 := by
  unfold RecoveryState.fail_recovery_transfer
  dsimp only
  refine NoChunk.append ?_ (no_chunk_quiet (queue_some_result_keeps _ _).2)
  unfold RecoveryState.send_stop
  split
  · split <;> simp [NoChunk]
  · simp [NoChunk]

/-- What the handling of a message comes to, once the assembler is `a` and has given a chunk. -/
inductive Given (s : RecoveryState) (a : RecoveryAssembler) (emitted : Option RecoveryChunk)
    (s' : RecoveryState) (reports : List Report) : Prop where
  | queued (same : Same { s with recovery_assembler := a } s')
      (hreports : reports = (emitted.map fun chunk => .chunk chunk true).toList)
  | failed (failed : Failed { s with recovery_assembler := a } s') {later : List Report}
      (hreports : reports = (emitted.map fun chunk => .chunk chunk false).toList ++ later)
      (hlater : NoChunk later)

theorem encoded_offset {packet : RecoveryLogPacket} {frame : LoraFrame}
    (h : (ApplicationPacket.RecoveryLogData packet).encode = .ok frame) :
    packet.offset.toNat ≤ 0x00ffffff := by
  by_contra hlarge
  have : packet.offset > 0x00ffffff := UInt32.lt_iff_toNat_lt.mpr (by simpa using hlarge)
  simp [ApplicationPacket.encode, ApplicationPacket.write, encode_recovery_log, this] at h

/-- A chunk is queued, or the transfer fails. -/
theorem queue_or_fail_cases (s : RecoveryState) (chunk : RecoveryChunk) :
    (∃ s', s.queue_or_fail chunk = (s', true, [.chunk chunk true]) ∧ Same s s' ∧
        chunk.offset.toNat ≤ 0x00ffffff) ∨
      ∃ v, Same s v ∧
        s.queue_or_fail chunk = ((v.fail_recovery_transfer .InternalError true).1, false,
          .chunk chunk false :: (v.fail_recovery_transfer .InternalError true).2) := by
  unfold RecoveryState.queue_or_fail LoraChannels.queue_recovery_chunk
  cases hencode : (ApplicationPacket.RecoveryLogData chunk.packet).encode with
  | error => exact .inr ⟨s, .refl s, rfl⟩
  | ok frame =>
    dsimp only
    rcases hoffer : s.recovery_lora_channel.offer (.queued frame .Recovery) with ⟨channel, queued⟩
    have same : Same s { s with recovery_lora_channel := channel } := ⟨rfl, rfl, rfl⟩
    cases queued with
    | true =>
      exact .inl ⟨{ s with recovery_lora_channel := channel }, rfl, same, encoded_offset hencode⟩
    | false => exact .inr ⟨{ s with recovery_lora_channel := channel }, same, rfl⟩

theorem queue_or_fail_given (s : RecoveryState) (chunk : RecoveryChunk) :
    ((s.queue_or_fail chunk).2.1 = true ∧ Same s (s.queue_or_fail chunk).1 ∧
        (s.queue_or_fail chunk).2.2 = [.chunk chunk true]) ∨
      (s.queue_or_fail chunk).2.1 = false ∧ Failed s (s.queue_or_fail chunk).1 ∧
        ∃ later, (s.queue_or_fail chunk).2.2 = .chunk chunk false :: later ∧ NoChunk later := by
  rcases queue_or_fail_cases s chunk with ⟨s', hqueue, same, -⟩ | ⟨v, same, hqueue⟩ <;> rw [hqueue]
  · exact .inl ⟨rfl, same, rfl⟩
  · exact .inr ⟨rfl, same.failed (fail_failed v _ _), _, rfl, fail_no_chunk v _ _⟩

theorem fragment_given (s : RecoveryState) (fragment : RecoveryLogData) :
    Given s (s.recovery_assembler.push fragment).1
      (s.recovery_assembler.push fragment).2.toOption.join
      (s.apply_recovery_log_data fragment).1 (s.apply_recovery_log_data fragment).2 := by
  unfold RecoveryState.apply_recovery_log_data
  rcases s.recovery_assembler.push fragment with ⟨a, error | emitted⟩
  · exact .failed (fail_failed _ _ _) rfl (fail_no_chunk _ _ _)
  · cases emitted with
    | none => exact .queued (.refl _) rfl
    | some chunk =>
      rcases queue_or_fail_given { s with recovery_assembler := a } chunk with
        ⟨-, same, hreports⟩ | ⟨-, failed, later, hreports, hlater⟩
      · exact .queued same hreports
      · exact .failed failed hreports hlater

theorem session_status_applied (s : RecoveryState) (status : RecoveryStatus) :
    (s.apply_session_status status).1.recovery_session =
        (s.recovery_session.apply_status status).1 ∧
      (s.apply_session_status status).1.recovery_assembler = s.recovery_assembler := by
  unfold RecoveryState.apply_session_status
  dsimp only
  rw [(same_queue_some_result _ _).session, (same_queue_some_result _ _).assembler]
  split <;> exact ⟨rfl, rfl⟩

/-- The assembler when a status comes in. -/
def closed (a : RecoveryAssembler) (status : RecoveryStatus) :
    RecoveryAssembler × Option RecoveryChunk :=
  if status.status = .Complete then
    (a.set_total_size status.transfer_id status.total_size).finish status.transfer_id
  else (a.set_total_size status.transfer_id status.total_size, none)

/-- The status gets to the session, or the last chunk cannot be queued. -/
theorem status_given (s : RecoveryState) (status : RecoveryStatus) :
    (∃ v, Same { s with recovery_assembler := (closed s.recovery_assembler status).1 } v ∧
        (s.apply_recovery_status status).1 = (v.apply_session_status status).1 ∧
        (s.apply_recovery_status status).2 =
          ((closed s.recovery_assembler status).2.map fun chunk => .chunk chunk true).toList ++
            (v.apply_session_status status).2) ∨
      Failed { s with recovery_assembler := (closed s.recovery_assembler status).1 }
          (s.apply_recovery_status status).1 ∧
        ∃ later, (s.apply_recovery_status status).2 =
            ((closed s.recovery_assembler status).2.map fun chunk => .chunk chunk false).toList ++
              later ∧
          NoChunk later := by
  have hclosed : closed s.recovery_assembler status =
    (if status.status = .Complete then
      (s.recovery_assembler.set_total_size status.transfer_id status.total_size).finish
        status.transfer_id
    else (s.recovery_assembler.set_total_size status.transfer_id status.total_size, none)) := rfl
  unfold RecoveryState.apply_recovery_status
  dsimp only
  rw [← hclosed]
  rcases closed s.recovery_assembler status with ⟨a, final_chunk⟩
  cases final_chunk with
  | none => exact .inl ⟨_, .refl _, rfl, rfl⟩
  | some chunk =>
    dsimp only
    rcases queue_or_fail_given { s with recovery_assembler := a } chunk with
      ⟨hqueued, same, hreports⟩ | ⟨hqueued, failed, later, hreports, hlater⟩
    · rw [if_pos hqueued]
      exact .inl ⟨_, same, rfl, by rw [hreports]; rfl⟩
    · rw [if_neg (by simp [hqueued])]
      exact .inr ⟨failed, later, hreports, hlater⟩

/-! ## Every step -/

inductive Turn (w w' : CommandPath) (reports : List Report) : Action → Prop where
  | other {a : Action} (same : Same w.state.toRecoveryState w'.state.toRecoveryState) :
      Turn w w' reports a
  | requested (r : Request) (takes : Takes w r)
      (requested : Requested r w.state.toRecoveryState w'.state.toRecoveryState) :
      Turn w w' reports .command
  | timeout (transfer_id : UInt8)
      (timeout : Timeout transfer_id w.state.toRecoveryState w'.state.toRecoveryState) :
      Turn w w' reports (.can_transmitted false)
  | entered {data : List UInt8} (enters : Enters data)
      (same : Same { w.state.toRecoveryState with recovery_beacon_active := true }
        w'.state.toRecoveryState) :
      Turn w w' reports (.can_receive_mode data)
  | received (m : Message) {received_at_ms : Nat} {s : RecoveryState}
      (same : Same w.state.toRecoveryState s)
      (handled : handle s m = (w'.state.toRecoveryState, reports)) :
      Turn w w' reports (.can_receive m.received received_at_ms)

theorem step_received_turn {w w' : CommandPath} {message : CanRxMessage} {received_at_ms : Nat}
    {reports : List Report} (h : w.step_received message received_at_ms = (w', reports)) :
    Turn w w' reports (.can_receive message received_at_ms) := by
  unfold step_received at h
  dsimp only at h
  have hcache : Same w.state.toRecoveryState
      (w.state.update_cache message received_at_ms).1.toRecoveryState := ⟨rfl, rfl, rfl⟩
  split at h <;> rename_i hupdate
  · rename_i result
    have hlock := same_lock_result { w with state := (w.state.update_cache message received_at_ms).1 }
      result
    rw [h] at hlock
    exact .other (hcache.trans hlock)
  · obtain ⟨rfl, -⟩ := Prod.mk.inj h
    exact .other ⟨rfl, rfl, rfl⟩
  · rename_i status
    obtain ⟨rfl, rfl⟩ := Prod.mk.inj h
    rw [CanCache.update_hands_on (congrArg CanCache.handed_on hupdate)] at hcache ⊢
    exact .received (.status status) hcache rfl
  · rename_i fragment
    obtain ⟨rfl, rfl⟩ := Prod.mk.inj h
    rw [CanCache.update_hands_on (congrArg CanCache.handed_on hupdate)] at hcache ⊢
    exact .received (.fragment fragment) hcache rfl
  all_goals
    obtain ⟨rfl, -⟩ := Prod.mk.inj h
    exact .other hcache

/-- The cache has nothing to do with a message of the dump. -/
theorem step_message {w w' : CommandPath} {m : Message} {received_at_ms : Nat} {reports : List Report}
    (h : step w (.can_receive m.received received_at_ms) = some (w', reports)) :
    handle w.state.toRecoveryState m = (w'.state.toRecoveryState, reports) := by
  simp only [step] at h
  split at h
  · rw [Option.ite_none_right_eq_some] at h
    cases m <;>
    · simp only [Message.received, step_received, State.update_cache, CanCache.update, Bool.or_false,
        Option.some.injEq, Prod.mk.injEq] at h
      obtain ⟨-, rfl, rfl⟩ := h
      rfl
  · cases h

theorem step_turn {w w' : CommandPath} {a : Action} {reports : List Report}
    (h : step w a = some (w', reports)) : Turn w w' reports a := by
  cases a with
  | uplink command =>
    obtain ⟨s, hs, hafter⟩ := Option.map_eq_some_iff.mp h
    obtain ⟨rfl, -⟩ := Prod.mk.inj hafter
    unfold uplink at hs
    split at hs
    · obtain ⟨c, -, rfl⟩ := Option.map_eq_some_iff.mp hs
      exact .other ⟨rfl, rfl, rfl⟩
    · obtain ⟨c, -, rfl⟩ := Option.map_eq_some_iff.mp hs
      exact .other ⟨rfl, rfl, rfl⟩
    · rw [← Option.some.inj hs]
      exact .other ⟨rfl, rfl, rfl⟩
  | gnss_time_response request_id unix_seconds milliseconds =>
    obtain ⟨rfl, -⟩ := Prod.mk.inj (Option.some.inj h)
    exact .other ⟨rfl, rfl, rfl⟩
  | gnss_receive =>
    obtain ⟨c, -, hafter⟩ := Option.map_eq_some_iff.mp h
    obtain ⟨rfl, -⟩ := Prod.mk.inj hafter
    exact .other ⟨rfl, rfl, rfl⟩
  | lora_receive source =>
    obtain ⟨s, hs, hafter⟩ := Option.map_eq_some_iff.mp h
    obtain ⟨rfl, -⟩ := Prod.mk.inj hafter
    cases source with
    | Periodic => simp [lora_receive] at hs
    | _ =>
      obtain ⟨c, -, rfl⟩ := Option.map_eq_some_iff.mp hs
      exact .other ⟨rfl, rfl, rfl⟩
  | command =>
    simp only [step, Option.ite_none_left_eq_some, Option.some.injEq] at h
    obtain ⟨rfl, rfl⟩ := Prod.mk.inj h.2
    rcases resume_command_requested w with same | ⟨r, takes, requested⟩
    · exact .other same
    · exact .requested r takes requested
  | can_take =>
    simp only [step] at h
    split at h
    · obtain ⟨v, hv, hafter⟩ := Option.map_eq_some_iff.mp h
      obtain ⟨rfl, -⟩ := Prod.mk.inj hafter
      unfold step_can_take at hv
      split at hv
      · rw [← Option.some.inj hv]
        exact .other ⟨rfl, rfl, rfl⟩
      · split at hv
        · rw [← Option.some.inj hv]
          exact .other ⟨rfl, rfl, rfl⟩
        · cases hv
    · cases h
  | can_transmitted sent =>
    simp only [step] at h
    split at h
    · rename_i message _
      have hsent := step_transmitted_timeout w message sent
      rw [Option.some.inj h] at hsent
      rcases hsent with same | ⟨rfl, transfer_id, timeout⟩
      · exact .other same
      · exact .timeout transfer_id timeout
    · cases h
  | can_receive message received_at_ms =>
    simp only [step] at h
    split at h
    · rw [Option.ite_none_right_eq_some] at h
      exact step_received_turn (Option.some.inj h.2)
    · cases h
  | can_receive_mode data =>
    simp only [step] at h
    split at h
    · rw [Option.ite_none_right_eq_some] at h
      obtain ⟨rfl, -⟩ := Prod.mk.inj (Option.some.inj h.2)
      rcases recovery_mode_frame_enters w.state data with same | ⟨enters, same⟩
      · exact .other same
      · exact .entered enters same
    · cases h
  | can_lock =>
    simp only [step] at h
    split at h
    · rw [Option.ite_none_left_eq_some] at h
      have hlock := same_lock_failed w ‹_›
      rw [Option.some.inj h.2] at hlock
      exact .other hlock
    · rw [Option.ite_none_left_eq_some] at h
      have hlock := same_lock_result w ‹_›
      rw [Option.some.inj h.2] at hlock
      exact .other hlock
    · cases h

end Comboard.SessionSteps
