import Comboard.Resume
import Comboard.SessionSteps

/-!
# A finished dump stays finished

The session and the assembler end together, unless a status other than Complete ends the session
alone: then the assembler still takes what comes in.
-/

namespace Comboard.FinishedDump

open Lib CommandPath RecoveryPath SessionSteps
open Resume (mem_queue_some_result)

/-! ## The transfer of the assembler -/

/-- Another transfer takes a new start, and what is given belongs to the running one. -/
structure Continues (a a' : RecoveryAssembler) (emitted : Option RecoveryChunk) : Prop where
  transfer_id : a'.transfer_id = a.transfer_id
  active : a'.active = true → a.active = true
  emitted : ∀ chunk, emitted = some chunk → a.active = true ∧ chunk.transfer_id = a.transfer_id

theorem Continues.refl (a : RecoveryAssembler) : Continues a a none := ⟨rfl, id, nofun⟩

theorem take_chunk_continues {a : RecoveryAssembler} (hactive : a.active = true) (end_of_file : Bool) :
    Continues a (a.take_chunk end_of_file).1 (some (a.take_chunk end_of_file).2) :=
  ⟨rfl, fun _ => hactive, fun _ h => ⟨hactive, Option.some.inj h ▸ rfl⟩⟩

theorem finish_continues (a : RecoveryAssembler) (transfer_id : UInt8) :
    Continues a (a.finish transfer_id).1 (a.finish transfer_id).2 := by
  unfold RecoveryAssembler.finish
  split <;> rename_i h
  · exact .refl a
  · exact take_chunk_continues (by simpa using (not_or.mp h).1) true

theorem set_total_size_continues (a : RecoveryAssembler) (transfer_id : UInt8) (total_size : UInt32) :
    Continues a (a.set_total_size transfer_id total_size) none := by
  unfold RecoveryAssembler.set_total_size
  split
  · exact ⟨rfl, id, nofun⟩
  · exact .refl a

theorem Continues.then {a a' a'' : RecoveryAssembler} {emitted emitted' : Option RecoveryChunk}
    (h : Continues a a' emitted) (h' : Continues a' a'' emitted') : Continues a a'' emitted' := by
  refine ⟨h'.transfer_id.trans h.transfer_id, fun hactive => h.active (h'.active hactive), ?_⟩
  intro chunk hchunk
  obtain ⟨hactive, hid⟩ := h'.emitted chunk hchunk
  exact ⟨h.active hactive, hid.trans h.transfer_id⟩

theorem closed_continues (a : RecoveryAssembler) (status : RecoveryStatus) :
    Continues a (closed a status).1 (closed a status).2 := by
  have hset := set_total_size_continues a status.transfer_id status.total_size
  unfold closed
  split
  · exact hset.then (finish_continues ..)
  · exact hset

section Push

variable {a : RecoveryAssembler}

theorem copy_turn_continues (hactive : a.active = true) (fragment : RecoveryLogData)
    (fragment_length : Nat) {c : RecoveryAssembler.Copy}
    (h : Continues a c.self c.emitted) :
    Continues a (RecoveryAssembler.copy_turn fragment fragment_length c).self
      (RecoveryAssembler.copy_turn fragment fragment_length c).emitted := by
  have hroom := c.self.data_length.isLt
  have hfits : c.self.data_length.val +
      min (16 - c.self.data_length.val) (fragment_length - c.source) ≤ 16 := by omega
  have hid : (c.self.copy fragment c.source _ hfits).transfer_id = c.self.transfer_id := by
    rw [RecoveryAssembler.copy]
  have hcopied : (c.self.copy fragment c.source _ hfits).active = c.self.active := by
    rw [RecoveryAssembler.copy]
  unfold RecoveryAssembler.copy_turn
  dsimp only
  generalize c.self.copy fragment c.source _ hfits = self at hid hcopied ⊢
  split
  · exact ⟨hid.trans h.transfer_id, fun _ => hactive,
      fun _ h' => ⟨hactive, Option.some.inj h' ▸ hid.trans h.transfer_id⟩⟩
  · exact ⟨hid.trans h.transfer_id, fun h' => h.active (hcopied ▸ h'), h.emitted⟩

theorem copy_loop_continues (hactive : a.active = true) (fragment : RecoveryLogData)
    (fragment_length fuel : Nat) {c : RecoveryAssembler.Copy}
    (h : Continues a c.self c.emitted) :
    Continues a (RecoveryAssembler.copy_loop fragment fragment_length fuel c).self
      (RecoveryAssembler.copy_loop fragment fragment_length fuel c).emitted := by
  induction fuel generalizing c with
  | zero => exact h
  | succ fuel ih =>
    unfold RecoveryAssembler.copy_loop
    split
    · exact ih (copy_turn_continues hactive fragment fragment_length h)
    · exact h

end Push

theorem push_continues (a : RecoveryAssembler) (fragment : RecoveryLogData) :
    Continues a (a.push fragment).1 (a.push fragment).2.toOption.join := by
  unfold RecoveryAssembler.push
  split <;> rename_i hactive
  · exact .refl a
  · rw [Bool.not_eq_true, Bool.not_eq_false] at hactive
    split
    · exact .refl a
    · split
      · exact ⟨rfl, nofun, nofun⟩
      · dsimp only
        have hloop := copy_loop_continues hactive fragment
          (RecoveryAssembler.fragment_length
            { a with expected_sequence := some (fragment.sequence + 1) })
          (RecoveryAssembler.fragment_length
            { a with expected_sequence := some (fragment.sequence + 1) })
          (c := ⟨{ a with expected_sequence := some (fragment.sequence + 1) }, 0, none⟩)
          ⟨rfl, id, nofun⟩
        split
        · exact ⟨hloop.transfer_id, fun _ => hactive,
            fun _ h => ⟨hactive, Option.some.inj h ▸ hloop.transfer_id⟩⟩
        · exact hloop

/-! ## Chunks of a step -/

/-- At most one chunk is reported, before all else, and it belongs to the running transfer. -/
def OfRunning (a : RecoveryAssembler) (reports : List Report) : Prop :=
  NoChunk reports ∨ a.active = true ∧ ∃ chunk queued rest,
    reports = .chunk chunk queued :: rest ∧ NoChunk rest ∧ chunk.transfer_id = a.transfer_id

theorem emitted_of_running {a a' : RecoveryAssembler} {emitted : Option RecoveryChunk}
    (continues : Continues a a' emitted) (queued : Bool) {later : List Report}
    (hlater : NoChunk later) :
    OfRunning a ((emitted.map fun chunk => .chunk chunk queued).toList ++ later) := by
  cases emitted with
  | none => exact .inl hlater
  | some chunk =>
    obtain ⟨hactive, hid⟩ := continues.emitted chunk rfl
    exact .inr ⟨hactive, chunk, queued, later, rfl, hlater, hid⟩

theorem handle_of_running (s : RecoveryState) (m : Message) :
    OfRunning s.recovery_assembler (handle s m).2 := by
  cases m with
  | fragment fragment =>
    have hcontinues := push_continues s.recovery_assembler fragment
    have given := fragment_given s fragment
    unfold handle
    cases given with
    | queued _ hreports =>
      rw [hreports]
      have h := @emitted_of_running _ _ _ hcontinues true [] (by simp [NoChunk])
      rwa [List.append_nil] at h
    | failed _ hreports hlater =>
      rw [hreports]
      exact emitted_of_running hcontinues false hlater
  | status status =>
    have hcontinues := closed_continues s.recovery_assembler status
    unfold handle
    rcases status_given s status with ⟨v, -, -, hreports⟩ | ⟨-, later, hreports, hlater⟩
    · rw [hreports]
      exact emitted_of_running hcontinues true (no_chunk_quiet (queue_some_result_keeps _ _).2)
    · rw [hreports]
      exact emitted_of_running hcontinues false hlater

/-! ## The transfer that runs -/

/-- The assembler is at this transfer. -/
def Runs (transfer_id : UInt8) (a : RecoveryAssembler) : Prop :=
  a.active = true ∧ a.transfer_id = transfer_id

theorem Continues.stopped {a a' : RecoveryAssembler} {emitted : Option RecoveryChunk}
    (continues : Continues a a' emitted) : Continues a a'.abort.1 none :=
  ⟨continues.transfer_id, nofun, nofun⟩

theorem Continues.quiet {a a' : RecoveryAssembler} {emitted : Option RecoveryChunk}
    (continues : Continues a a' emitted) : Continues a a' none :=
  ⟨continues.transfer_id, continues.active, nofun⟩

theorem handle_continues (s : RecoveryState) (m : Message) :
    Continues s.recovery_assembler (handle s m).1.recovery_assembler none := by
  cases m with
  | fragment fragment =>
    have hcontinues := push_continues s.recovery_assembler fragment
    have given := fragment_given s fragment
    unfold handle
    cases given with
    | queued same =>
      rw [same.assembler]
      exact hcontinues.quiet
    | failed failed =>
      rw [failed.assembler]
      exact hcontinues.stopped
  | status status =>
    have hcontinues := closed_continues s.recovery_assembler status
    unfold handle
    rcases status_given s status with ⟨v, same, hs, -⟩ | ⟨failed, -⟩
    · rw [hs, (session_status_applied v status).2, same.assembler]
      exact hcontinues.quiet
    · rw [failed.assembler]
      exact hcontinues.stopped

/-- A transfer that does not run gives no chunk, and only a new start makes it run. -/
theorem step_not_running {w w' : CommandPath} {a : Action} {reports : List Report}
    {transfer_id : UInt8} (h : step w a = some (w', reports))
    (hnot : ¬ Runs transfer_id w.state.recovery_assembler) :
    (∃ offset rest, reports = .dump_started transfer_id offset :: rest) ∨
      ¬ Runs transfer_id w'.state.recovery_assembler ∧
        ∀ chunk queued, .chunk chunk queued ∈ reports → chunk.transfer_id ≠ transfer_id := by
  rcases step_handled h with handled | ⟨m, received_at_ms, s, -, hs, hhandle⟩
  · have hquiet (hq : Quiet reports) (chunk : RecoveryChunk) (queued : Bool)
        (hmem : .chunk chunk queued ∈ reports) : chunk.transfer_id ≠ transfer_id :=
      absurd hmem (no_chunk_quiet hq chunk queued)
    cases handled with
    | kept hkept hq => exact .inr ⟨hkept ▸ hnot, hquiet hq⟩
    | dropped hdropped hq =>
      refine .inr ⟨?_, hquiet hq⟩
      rw [hdropped]
      exact fun hruns => nomatch hruns.1
    | @started started_id source offset length rest hstarted _ hreports hq =>
      by_cases hid : started_id = transfer_id
      · exact .inl ⟨offset, rest, hid ▸ hreports⟩
      · refine .inr ⟨?_, fun chunk queued hmem => ?_⟩
        · rw [hstarted]
          exact fun hruns => hid hruns.2
        · rw [hreports, List.mem_cons] at hmem
          rcases hmem with hmem | hmem
          · cases hmem
          · exact absurd hmem (no_chunk_quiet hq chunk queued)
  · have hcontinues := handle_continues s m
    have hrunning := handle_of_running s m
    rw [hhandle, hs] at hcontinues hrunning
    refine .inr ⟨fun hruns => hnot ⟨hcontinues.active hruns.1,
      hcontinues.transfer_id.symm.trans hruns.2⟩, fun chunk queued hmem hid => ?_⟩
    rcases hrunning with hnone | ⟨hactive, given, queued', rest, hreports, hrest, hgiven⟩
    · exact hnone chunk queued hmem
    · rw [show reports = .chunk given queued' :: rest from hreports, List.mem_cons] at hmem
      rcases hmem with hmem | hmem
      · obtain ⟨rfl, -⟩ := Report.chunk.inj hmem
        exact hnot ⟨hactive, hgiven.symm.trans hid⟩
      · exact hrest chunk queued hmem

/-! ## The request behind the assembler -/

/-- A StartLogDump with this id is pending. -/
def DumpPending (transfer_id : UInt8) (s : RecoveryState) : Prop :=
  ∃ pending, s.recovery_session.pending = some pending ∧ pending.opcode = .StartLogDump ∧
    pending.transaction_id = transfer_id

/-- The assembler runs for the pending dump only. -/
def Together (s : RecoveryState) : Prop :=
  s.recovery_assembler.active = true → DumpPending s.recovery_assembler.transfer_id s

/-- The status answers this request. -/
def Answers (status : RecoveryStatus) (pending : PendingRecovery) : Prop :=
  status.transfer_id = pending.transaction_id ∧ status.source = pending.source ∧
    status.opcode = pending.opcode

/-- A status that ends the pending dump, while the assembler runs, is a Complete. -/
def EndsBoth (w : CommandPath) : Action → Prop
  | .can_receive (.RecoveryStatus status) _ =>
    w.state.recovery_assembler.active = true → ∀ pending,
      w.state.recovery_session.pending = some pending → pending.opcode = .StartLogDump →
      Answers status pending → status.status = .Dumping ∨ status.status = .Complete
  | _ => True

theorem apply_status_other {session : RecoverySession} {status : RecoveryStatus}
    {pending : PendingRecovery} (hpending : session.pending = some pending)
    (h : ¬ Answers status pending) : (session.apply_status status).1 = session := by
  unfold RecoverySession.apply_status
  rw [hpending]
  dsimp only
  rw [if_pos]
  by_contra hnone
  simp only [ne_eq, not_or, not_not] at hnone
  exact h hnone

theorem apply_status_dumping {session : RecoverySession} {status : RecoveryStatus}
    (h : status.status = .Dumping) : (session.apply_status status).1 = session := by
  unfold RecoverySession.apply_status
  split
  · rfl
  · split
    · rfl
    · rw [h]
      rfl

/-- A Complete of the running transfer stops the assembler. -/
theorem closed_complete {a : RecoveryAssembler} {status : RecoveryStatus}
    (h : status.status = .Complete) (hid : status.transfer_id = a.transfer_id) :
    (closed a status).1.active = false := by
  have hset := (set_total_size_continues a status.transfer_id status.total_size).transfer_id
  unfold closed RecoveryAssembler.finish
  rw [if_pos h]
  split <;> rename_i hfinish
  · rw [hset] at hfinish
    rcases hfinish with hinactive | hother
    · simpa using hinactive
    · exact absurd hid.symm hother
  · rfl

theorem together_failed {s s' : RecoveryState} (failed : Failed s s') : Together s' := by
  intro hactive
  rw [failed.assembler] at hactive
  cases hactive

theorem DumpPending.same {transfer_id : UInt8} {s s' : RecoveryState}
    (h : DumpPending transfer_id s) (hsession : s'.recovery_session = s.recovery_session) :
    DumpPending transfer_id s' := by
  unfold DumpPending
  rw [hsession]
  exact h

/-- The request stays, and the assembler goes on at most. -/
theorem Together.continues {s s' : RecoveryState} (together : Together s)
    (hsession : s'.recovery_session = s.recovery_session)
    (continues : Continues s.recovery_assembler s'.recovery_assembler none) : Together s' := by
  intro hactive
  rw [continues.transfer_id]
  exact (together (continues.active hactive)).same hsession

theorem together_fragment {s : RecoveryState} (together : Together s) (fragment : RecoveryLogData) :
    Together (handle s (.fragment fragment)).1 := by
  have hcontinues := handle_continues s (.fragment fragment)
  have given := fragment_given s fragment
  unfold handle at hcontinues ⊢
  cases given with
  | queued same => exact together.continues same.session hcontinues
  | failed failed => exact together_failed failed

theorem together_status {s : RecoveryState} (together : Together s) {status : RecoveryStatus}
    (hends : s.recovery_assembler.active = true → ∀ pending,
      s.recovery_session.pending = some pending → pending.opcode = .StartLogDump →
      Answers status pending → status.status = .Dumping ∨ status.status = .Complete) :
    Together (handle s (.status status)).1 := by
  have hcontinues := handle_continues s (.status status)
  rcases status_given s status with ⟨v, same, hs, -⟩ | ⟨failed, -⟩
  · intro hactive
    have hactive' := hcontinues.active hactive
    obtain ⟨pending, hpending, hopcode, hid⟩ := together hactive'
    obtain ⟨hsession, hassembler⟩ := session_status_applied v status
    have hkept : (s.recovery_session.apply_status status).1 = s.recovery_session := by
      by_cases hanswers : Answers status pending
      · rcases hends hactive' pending hpending hopcode hanswers with hdumping | hcomplete
        · exact apply_status_dumping hdumping
        · -- The assembler would have stopped.
          have hstopped := closed_complete hcomplete (hanswers.1.trans hid)
          unfold handle at hactive
          rw [hs, hassembler, same.assembler, hstopped] at hactive
          cases hactive
      · exact apply_status_other hpending hanswers
    have hkept' : (handle s (.status status)).1.recovery_session = s.recovery_session := by
      unfold handle
      rw [hs, hsession, same.session]
      exact hkept
    exact together.continues hkept' hcontinues hactive
  · exact together_failed failed

theorem together_requested {r : Request} {s s' : RecoveryState} (together : Together s)
    (h : Requested r s s') : Together s' := by
  cases h with
  | same same =>
    intro hactive
    rw [same.assembler] at hactive ⊢
    exact (together hactive).same same.session
  | started _ free session assembler =>
    intro hactive
    split at assembler <;> rename_i hopcode
    · rw [assembler]
      exact ⟨_, session, hopcode, rfl⟩
    · -- Nothing was pending, so nothing ran.
      rw [assembler] at hactive
      obtain ⟨pending, hpending, -⟩ := together hactive
      rw [free] at hpending
      cases hpending
  | stopped _ _ _ assembler =>
    intro hactive
    rw [assembler] at hactive
    cases hactive

theorem together_timeout {transfer_id : UInt8} {s s' : RecoveryState} (together : Together s)
    (h : Timeout transfer_id s s') : Together s' := by
  intro hactive
  have hassembler := h.assembler
  have hsession := h.session
  unfold RecoverySession.fail_matching at hassembler hsession
  split at hassembler <;> rename_i hother
  · rw [if_neg nofun] at hassembler
    rw [if_pos hother] at hsession
    rw [hassembler] at hactive ⊢
    exact (together hactive).same hsession
  · have hresult : (s.recovery_session.fail .Timeout 0).2.isSome = true := by
      unfold RecoverySession.fail
      cases hpending : s.recovery_session.pending with
      | none => simp [hpending] at hother
      | some pending => rfl
    rw [if_pos hresult] at hassembler
    rw [hassembler] at hactive
    cases hactive

theorem together_step {w w' : CommandPath} {a : Action} {reports : List Report}
    (together : Together w.state.toRecoveryState) (hends : EndsBoth w a)
    (h : step w a = some (w', reports)) : Together w'.state.toRecoveryState := by
  have hsame {s s' : RecoveryState} (same : Same s s') (together : Together s) : Together s' := by
    intro hactive
    rw [same.assembler] at hactive ⊢
    exact (together hactive).same same.session
  cases step_turn h with
  | other same => exact hsame same together
  | requested r _ requested => exact together_requested together requested
  | timeout _ timeout => exact together_timeout together timeout
  | entered _ same =>
    have hon : Together { w.state.toRecoveryState with recovery_beacon_active := true } := together
    exact hsame same hon
  | @received m received_at_ms s same handled =>
    have hs := hsame same together
    rw [show w'.state.toRecoveryState = (handle s m).1 from (congrArg Prod.fst handled).symm]
    cases m with
    | fragment fragment => exact together_fragment hs fragment
    | status status =>
      refine together_status hs fun hactive pending hpending => ?_
      rw [same.assembler] at hactive
      rw [same.session] at hpending
      exact hends hactive pending hpending

theorem together_run {past : List Report} {w : CommandPath} (run : Machine.Run machine EndsBoth past w) :
    Together w.state.toRecoveryState := by
  refine run.always (I := fun w => Together w.state.toRecoveryState) ?_
    fun _ _ _ _ together hends h => together_step together hends h
  rintro w rfl hactive
  cases hactive

/-! ## Final results -/

/-- A final result that is reported leaves no request pending. -/
def FinalEnds (reports : List Report) (s' : RecoveryState) : Prop :=
  ∀ packet queued, .command_result packet queued ∈ reports → packet.phase.is_final = true →
    s'.recovery_session.pending = none

theorem apply_status_final {session : RecoverySession} {status : RecoveryStatus} {r : CommandResult}
    (h : (session.apply_status status).2 = some r) (hfinal : r.phase.is_final = true) :
    (session.apply_status status).1.pending = none := by
  unfold RecoverySession.apply_status at h ⊢
  split at h
  · cases h
  · split at h <;> rename_i hanswers
    · cases h
    · rw [if_neg hanswers]
      obtain rfl := Option.some.inj h
      dsimp only at hfinal ⊢
      cases hstatus : status.status with
      | Dumping =>
        rw [hstatus] at hfinal
        cases hfinal
      | Aborted =>
        dsimp only
        split <;> rfl
      | _ => rfl

/-- The result of the pending request, whatever the message. -/
theorem handle_final (s : RecoveryState) (m : Message) : FinalEnds (handle s m).2 (handle s m).1 := by
  intro packet queued hmem hfinal
  have hchunk {emitted : Option RecoveryChunk} {queued' : Bool} :
      .command_result packet queued ∉ (emitted.map fun chunk => Report.chunk chunk queued').toList := by
    cases emitted <;> simp
  cases m with
  | fragment fragment =>
    have given := fragment_given s fragment
    unfold handle at hmem ⊢
    cases given with
    | queued _ hreports =>
      rw [hreports] at hmem
      exact absurd hmem hchunk
    | failed failed => exact failed.session
  | status status =>
    unfold handle at hmem ⊢
    rcases status_given s status with ⟨v, -, hs, hreports⟩ | ⟨failed, -⟩
    · rw [hreports] at hmem
      obtain ⟨r, hr, rfl⟩ := mem_queue_some_result ((List.mem_append.mp hmem).resolve_left hchunk)
      rw [hs, (session_status_applied v status).1]
      exact apply_status_final hr hfinal
    · exact failed.session

theorem fail_matching_final {session : RecoverySession} {transaction_id : UInt8} {r : CommandResult}
    {reason : CommandReason} {detail : UInt32}
    (h : (session.fail_matching transaction_id reason detail).2 = some r) :
    (session.fail_matching transaction_id reason detail).1.pending = none := by
  unfold RecoverySession.fail_matching at h ⊢
  split at h <;> rename_i hother
  · cases h
  · rw [if_neg hother]
    exact fail_empties ..

theorem control_failed_final {w w' : CommandPath} {control : RecoveryControl} {reports : List Report}
    (hcan : w.can = .Transmit (.RecoveryControl control))
    (h : step w (.can_transmitted false) = some (w', reports)) :
    FinalEnds reports w'.state.toRecoveryState := by
  intro packet queued hmem _
  simp only [step, hcan, Option.some.injEq, step_transmitted, Bool.false_eq_true, if_false,
    State.transmit_failed, emergency_failure_result, Prod.mk.injEq] at h
  obtain ⟨rfl, rfl⟩ := h
  rw [List.mem_cons] at hmem
  rcases hmem with hmem | hmem
  · cases hmem
  · obtain ⟨r, hr, -⟩ := mem_queue_some_result hmem
    rw [(same_next_safety _).session]
    dsimp only
    rw [(same_queue_some_result _ _).session]
    exact fail_matching_final hr

/-! ## After the end -/

/-- No chunk of the transfer is given before the transfer is started. -/
def StartsFirst (transfer_id : UInt8) (reports : List Report) : Prop :=
  ∀ before chunk queued after, reports = before ++ .chunk chunk queued :: after →
    chunk.transfer_id = transfer_id → ∃ offset, .dump_started transfer_id offset ∈ before

theorem StartsFirst.of_none {transfer_id : UInt8} {reports : List Report}
    (h : ∀ chunk queued, .chunk chunk queued ∈ reports → chunk.transfer_id ≠ transfer_id) :
    StartsFirst transfer_id reports := by
  rintro before chunk queued after rfl hid
  exact absurd hid (h chunk queued (by simp))

theorem StartsFirst.of_started (transfer_id : UInt8) (offset : UInt32) (rest : List Report) :
    StartsFirst transfer_id (.dump_started transfer_id offset :: rest) := by
  intro before chunk queued after hreports _
  cases before with
  | nil => cases hreports
  | cons r before =>
    obtain ⟨rfl, -⟩ := List.cons.inj hreports
    exact ⟨offset, List.mem_cons_self⟩

theorem StartsFirst.append {transfer_id : UInt8} {reports later : List Report}
    (h : StartsFirst transfer_id reports)
    (h' : (∃ offset, .dump_started transfer_id offset ∈ reports) ∨ StartsFirst transfer_id later) :
    StartsFirst transfer_id (reports ++ later) := by
  intro before chunk queued after hsplit hid
  rcases List.append_eq_append_iff.mp hsplit with ⟨middle, rfl, hlater⟩ | ⟨middle, hreports, hrest⟩
  · rcases h' with ⟨offset, hstarted⟩ | h'
    · exact ⟨offset, List.mem_append_left _ hstarted⟩
    · obtain ⟨offset, hstarted⟩ := h' middle chunk queued after hlater hid
      exact ⟨offset, List.mem_append_right _ hstarted⟩
  · cases middle with
    | nil =>
      rw [List.append_nil] at hreports
      subst hreports
      rcases h' with hstarted | h'
      · exact hstarted
      · obtain ⟨offset, hstarted⟩ := h' [] chunk queued after hrest.symm hid
        cases hstarted
    | cons r middle =>
      obtain ⟨rfl, -⟩ := List.cons.inj hrest
      exact h before chunk queued middle hreports hid

theorem starts_first_run {w w' : CommandPath} {transfer_id : UInt8} {later : List Report}
    (hnot : ¬ Runs transfer_id w.state.recovery_assembler)
    (run : Machine.Run (machine.startingIn w) Machine.anyStep later w') :
    StartsFirst transfer_id later := by
  have hboth : StartsFirst transfer_id later ∧
      ((∃ offset, .dump_started transfer_id offset ∈ later) ∨
        ¬ Runs transfer_id w'.state.recovery_assembler) := by
    refine run.invariant (I := fun later w' => StartsFirst transfer_id later ∧
      ((∃ offset, .dump_started transfer_id offset ∈ later) ∨
        ¬ Runs transfer_id w'.state.recovery_assembler)) ?_ ?_
    · rintro w rfl
      exact ⟨.of_none nofun, .inr hnot⟩
    · rintro later v a v' reports - ⟨hfirst, ⟨offset, hstarted⟩ | hnot⟩ - hstep
      · exact ⟨hfirst.append (.inl ⟨offset, hstarted⟩), .inl ⟨offset, List.mem_append_left _ hstarted⟩⟩
      · rcases step_not_running hstep hnot with ⟨offset, rest, rfl⟩ | ⟨hnot', hnone⟩
        · exact ⟨hfirst.append (.inr (.of_started transfer_id offset rest)),
            .inl ⟨offset, List.mem_append_right _ List.mem_cons_self⟩⟩
        · exact ⟨hfirst.append (.inr (.of_none hnone)), .inr hnot'⟩
  exact hboth.1

/-- In what a step reports, a chunk stands in front of the results. -/
theorem no_chunk_after {w w' : CommandPath} {a : Action} {before after : List Report}
    {packet : CommandResultPacket} {queued : Bool}
    (h : step w a = some (w', before ++ .command_result packet queued :: after)) :
    NoChunk after := by
  rcases step_handled h with handled | ⟨m, received_at_ms, s, -, hs, hhandle⟩
  · have hquiet (hq : Quiet (before ++ .command_result packet queued :: after)) : NoChunk after :=
      no_chunk_quiet fun r hr => hq r (by simp [hr])
    cases handled with
    | kept _ hq | dropped _ hq => exact hquiet hq
    | started _ _ hreports hq =>
      cases before with
      | nil => cases hreports
      | cons r before =>
        obtain ⟨-, rfl⟩ := List.cons.inj hreports
        exact no_chunk_quiet fun r hr => hq r (by simp [hr])
  · have hrunning := handle_of_running s m
    rw [hhandle] at hrunning
    rcases hrunning with hnone | ⟨-, given, queued', rest, hreports, hrest, -⟩
    · exact fun chunk queued'' hmem => hnone chunk queued'' (by simp [hmem])
    · cases before with
      | nil => cases hreports
      | cons r before =>
        obtain ⟨-, rfl⟩ := List.cons.inj hreports
        exact fun chunk queued'' hmem => hrest chunk queued'' (by simp [hmem])

theorem finished_dump_stays_finished {past : List Report} {w : CommandPath}
    (run : Machine.Run machine EndsBoth past w) :
    Together w.state.toRecoveryState ∧
    ∀ a w' reports, EndsBoth w a → step w a = some (w', reports) →
      -- With a final result the transfer is over,
      (∀ packet queued before after, reports = before ++ .command_result packet queued :: after →
        packet.phase.is_final = true →
        -- unless another request with its id was answered,
        ¬ DumpPending packet.transaction_id w'.state.toRecoveryState →
        -- and it stays over until it is started again.
        ∀ later w'', Machine.Run (machine.startingIn w') Machine.anyStep later w'' →
          StartsFirst packet.transaction_id (after ++ later)) ∧
      -- A final result for a message of the dump, or for a control that was not sent, ends the request.
      (∀ m received_at_ms, a = .can_receive (Message.received m) received_at_ms →
        FinalEnds reports w'.state.toRecoveryState) ∧
      (∀ control, w.can = .Transmit (.RecoveryControl control) → a = .can_transmitted false →
        FinalEnds reports w'.state.toRecoveryState) := by
  have together := together_run run
  refine ⟨together, fun a w' reports hends h => ⟨?_, ?_, ?_⟩⟩
  · rintro packet queued before after rfl - hover later w'' run'
    have hnot : ¬ Runs packet.transaction_id w'.state.recovery_assembler := by
      rintro ⟨hactive, hid⟩
      have hpending := together_step together hends h hactive
      rw [hid] at hpending
      exact hover hpending
    exact (StartsFirst.of_none fun chunk queued' hmem =>
      absurd hmem (no_chunk_after h chunk queued')).append (.inr (starts_first_run hnot run'))
  · rintro m received_at_ms rfl
    have hfinal := handle_final w.state.toRecoveryState m
    rwa [step_message h] at hfinal
  · rintro control hcan rfl
    exact control_failed_final hcan h

/-! ## Dump 7 ends

It is a dump of the internal flash. No fragment has come yet.
-/

def startSeven : List Action :=
  [.uplink (.ComBoardLocal 7 102 (Vector.replicate 6 0)), .command, .can_take, .can_transmitted true]

def statusSeven (status : RecoveryStatusCode) : Action :=
  .can_receive (.RecoveryStatus ⟨.StartLogDump, 7, status, .InternalFlash, 0⟩) 0

def fragmentSeven (sequence : UInt8) : Action :=
  .can_receive (.RecoveryLogData { transfer_id := 7, sequence, data := Vector.replicate 6 1 }) 0

def resultSeven (phase : CommandPhase) (reason : CommandReason) : CommandResultPacket where
  transaction_id := 7
  command := 102
  phase
  reason
  detail := 0

theorem finished_dump_stays_finished_complete : ∃ past w w' before after,
    Machine.Run machine EndsBoth past w ∧
    step w (statusSeven .Complete) =
      some (w', before ++ .command_result (resultSeven .Completed .None) true :: after) ∧
    ∀ later w'', Machine.Run (machine.startingIn w') Machine.anyStep later w'' →
      StartsFirst 7 (after ++ later) := by
  obtain ⟨past, w, run, hstep⟩ : ∃ past w, Machine.Run machine EndsBoth past w ∧
      ((step w (statusSeven .Complete)).any fun r => r.1.state.recovery_session.pending = none ∧
        r.2.drop 1 = [.command_result (resultSeven .Completed .None) true]) = true := by
    refine Machine.exists_run (fun w _ => ((step w (statusSeven .Complete)).any fun r =>
      r.1.state.recovery_session.pending = none ∧
        r.2.drop 1 = [.command_result (resultSeven .Completed .None) true]) = true)
      startSeven rfl ?_ (by decide +kernel)
    intro a ha t
    simp only [startSeven, List.mem_cons, List.not_mem_nil, or_false] at ha
    rcases ha with rfl | rfl | rfl | rfl <;> trivial
  obtain ⟨⟨w', reports⟩, hstep, hafter⟩ := (Option.any_eq_true _ _).mp hstep
  simp only [Bool.decide_and, Bool.and_eq_true, decide_eq_true_eq] at hafter
  obtain ⟨hended, hresult⟩ := hafter
  have hsplit : reports = reports.take 1 ++
      .command_result (resultSeven .Completed .None) true :: [] := by
    rw [← hresult, List.take_append_drop]
  have hnone : ¬ DumpPending 7 w'.state.toRecoveryState := by
    rintro ⟨pending, hpending, -⟩
    rw [hended] at hpending
    cases hpending
  have hends : EndsBoth w (statusSeven .Complete) := fun _ _ _ _ _ => .inr rfl
  obtain ⟨-, hfinished⟩ := finished_dump_stays_finished run
  exact ⟨past, w, w', reports.take 1, [], run, hsplit ▸ hstep,
    (hfinished _ w' reports hends hstep).1 _ true _ [] hsplit rfl hnone⟩

/-- The first 16 bytes of the three fragments. -/
def lateSeven : RecoveryChunk where
  transfer_id := 7
  source := .InternalFlash
  offset := 0
  data_length := 16
  data := Vector.replicate 16 1
  end_of_file := false

/-- A chunk is queued after the Failed result. -/
def lateChunk (w : CommandPath) : Bool :=
  (step w (statusSeven .IoError)).any fun r =>
    r.1.state.recovery_session.pending = none &&
      decide (r.2 = [.command_result (resultSeven .Failed .PersistenceError) true]) &&
      ((machine.startingIn r.1).exec r.1 [fragmentSeven 0, fragmentSeven 1, fragmentSeven 2]).any fun r' =>
        r'.2 = [.chunk lateSeven true]

/-- An IoError ends the request alone. Three fragments later a chunk is queued. -/
theorem io_error_leaves_assembler :
    ¬ ∀ past w a w' reports, Machine.Run machine Machine.anyStep past w →
      step w a = some (w', reports) →
      ∀ packet queued before after, reports = before ++ .command_result packet queued :: after →
        packet.phase.is_final = true → ¬ DumpPending packet.transaction_id w'.state.toRecoveryState →
        ∀ later w'', Machine.Run (machine.startingIn w') Machine.anyStep later w'' →
          StartsFirst packet.transaction_id (after ++ later) := by
  intro h
  obtain ⟨past, w, run, hlate⟩ : ∃ past w, Machine.Run machine Machine.anyStep past w ∧
      lateChunk w = true :=
    Machine.exists_run (fun w _ => lateChunk w = true) startSeven rfl (fun _ _ _ => trivial)
      (by decide +kernel)
  obtain ⟨⟨w', reports⟩, hstep, hlate⟩ := (Option.any_eq_true _ _).mp hlate
  simp only [Bool.and_eq_true, decide_eq_true_eq] at hlate
  obtain ⟨⟨hended, rfl⟩, hlate⟩ := hlate
  obtain ⟨⟨w'', later⟩, hlater, hchunk⟩ := (Option.any_eq_true _ _).mp hlate
  obtain rfl : later = [.chunk lateSeven true] := of_decide_eq_true hchunk
  have run' : Machine.Run (machine.startingIn w') Machine.anyStep [.chunk lateSeven true] w'' :=
    Machine.Run.exec (.start rfl) (fun _ _ _ => trivial) hlater
  have hnone : ¬ DumpPending 7 w'.state.toRecoveryState := by
    rintro ⟨pending, hpending, -⟩
    rw [hended] at hpending
    cases hpending
  obtain ⟨offset, hstarted⟩ := h past w _ w' _ run hstep _ true [] [] rfl rfl hnone _ w'' run'
    [] lateSeven true [] rfl rfl
  cases hstarted

end Comboard.FinishedDump
