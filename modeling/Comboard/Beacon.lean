import Comboard.SessionSteps

/-!
# The recovery beacon ends by its own exit

A status ends the beacon for a result of `LOCAL_EXIT_RECOVERY_COMMAND`. That the request was an
ExitRecovery is an invariant of the session.
-/

namespace Comboard.Beacon

open Lib CommandPath RecoveryPath SessionSteps

/-! ## A status -/

/-- The status completes a request that came as an exit command. -/
def CompletesExit (session : RecoverySession) (status : RecoveryStatus) : Prop :=
  ∃ result, (session.apply_status status).2 = some result ∧
    result.command = LOCAL_EXIT_RECOVERY_COMMAND ∧ result.phase = .Completed ∧ result.reason = .None

theorem apply_status_session (session : RecoverySession) (status : RecoveryStatus) :
    (session.apply_status status).1 = session ∨ (session.apply_status status).1.pending = none := by
  have hfinal (final_result : Bool) :
      (if final_result then { pending := none } else session) = session ∨
        (if final_result then { pending := none } else session : RecoverySession).pending = none := by
    cases final_result with
    | true => exact .inr rfl
    | false => exact .inl rfl
  unfold RecoverySession.apply_status
  split
  · exact .inl rfl
  · split
    · exact .inl rfl
    · exact hfinal _

theorem apply_session_status_ends (s : RecoveryState) (status : RecoveryStatus) :
    ((s.apply_session_status status).1.recovery_session = s.recovery_session ∨
        (s.apply_session_status status).1.recovery_session.pending = none) ∧
      ((s.apply_session_status status).1.recovery_beacon_active = s.recovery_beacon_active ∨
        (s.apply_session_status status).1.recovery_beacon_active = false ∧
          CompletesExit s.recovery_session status) := by
  unfold RecoveryState.apply_session_status
  dsimp only
  rw [(same_queue_some_result _ _).beacon, (same_queue_some_result _ _).session]
  have hsession := apply_status_session s.recovery_session status
  split <;> rename_i hexit
  · rw [Option.any_eq_true] at hexit
    obtain ⟨result, hresult, hexit⟩ := hexit
    simp only [Bool.decide_and, Bool.and_eq_true, decide_eq_true_eq] at hexit
    exact ⟨hsession, .inr ⟨rfl, result, hresult, hexit⟩⟩
  · exact ⟨hsession, .inl rfl⟩

/-- Only a status ends the beacon. -/
theorem handle_ends (s : RecoveryState) (m : Message) :
    ((handle s m).1.recovery_session = s.recovery_session ∨
        (handle s m).1.recovery_session.pending = none) ∧
      ((handle s m).1.recovery_beacon_active = s.recovery_beacon_active ∨
        (handle s m).1.recovery_beacon_active = false ∧
          ∃ status, m = .status status ∧ CompletesExit s.recovery_session status) := by
  cases m with
  | fragment fragment =>
    have given := fragment_given s fragment
    unfold handle
    cases given with
    | queued same => exact ⟨.inl same.session, .inl same.beacon⟩
    | failed failed => exact ⟨.inr failed.session, .inl failed.beacon⟩
  | status status =>
    rcases status_given s status with ⟨v, same, hs, -⟩ | ⟨failed, -⟩
    · obtain ⟨hsession, hbeacon⟩ := apply_session_status_ends v status
      rw [same.session] at hsession hbeacon
      rw [same.beacon] at hbeacon
      unfold handle
      rw [hs]
      exact ⟨hsession, hbeacon.imp id fun ⟨hoff, h⟩ => ⟨hoff, status, rfl, h⟩⟩
    · exact ⟨.inr failed.session, .inl failed.beacon⟩

/-! ## The pending request -/

/-- A request that came as an exit command is an ExitRecovery. -/
def ExitIsExit (w : CommandPath) : Prop :=
  ∀ pending, w.state.recovery_session.pending = some pending →
    pending.command = LOCAL_EXIT_RECOVERY_COMMAND →
      pending.opcode = .ExitRecovery ∧ pending.source = .InternalFlash

theorem decode_exit {value : LocalCommand}
    (h : LocalCommand.decode LOCAL_EXIT_RECOVERY_COMMAND = some value) : value = .ExitRecovery :=
  (Option.some.inj h).symm

/-- What is pending after a step was pending before, or the step has started it. -/
theorem pending_after {w w' : CommandPath} {a : Action} {reports : List Report}
    (h : step w a = some (w', reports)) {pending : PendingRecovery}
    (hpending : w'.state.recovery_session.pending = some pending) :
    w.state.recovery_session.pending = some pending ∨
      ∃ r, a = .command ∧ Takes w r ∧ r.Allowed w.state.toRecoveryState ∧
        pending = r.pending w.state.recovery_session := by
  cases step_turn h with
  | other same => exact .inl (same.session ▸ hpending)
  | requested r takes requested =>
    cases requested with
    | same same => exact .inl (same.session ▸ hpending)
    | started allowed _ session | stopped allowed _ session =>
      exact .inr ⟨r, rfl, takes, allowed, Option.some.inj (hpending.symm.trans session)⟩
  | timeout transfer_id timeout =>
    rw [timeout.session] at hpending
    unfold RecoverySession.fail_matching at hpending
    split at hpending
    · exact .inl hpending
    · rw [fail_empties] at hpending
      cases hpending
  | entered _ same => exact .inl (same.session ▸ hpending)
  | @received m _ s same handled =>
    have hsession := (handle_ends s m).1
    rw [handled, same.session] at hsession
    rcases hsession with hsession | hsession
    · exact .inl (hsession ▸ hpending)
    · rw [hsession] at hpending
      cases hpending

theorem exit_is_exit_step {w w' : CommandPath} {a : Action} {reports : List Report}
    (hexit : ExitIsExit w) (h : step w a = some (w', reports)) : ExitIsExit w' := by
  intro pending hpending hcommand
  rcases pending_after h hpending with hbefore | ⟨r, -, -, allowed, rfl⟩
  · exact hexit pending hbefore hcommand
  · have hdecode := allowed.1
    dsimp only [Request.pending] at hcommand ⊢
    rw [hcommand] at hdecode
    rw [decode_exit hdecode]
    exact ⟨rfl, rfl⟩

theorem exit_is_exit_run {past : List Report} {w : CommandPath}
    (run : Machine.Run machine Machine.anyStep past w) : ExitIsExit w := by
  refine run.always (I := ExitIsExit) ?_ fun _ _ _ _ hexit _ h => exit_is_exit_step hexit h
  rintro w rfl pending hpending
  cases hpending

/-- A request completed with the command of an exit: the status says so itself. -/
theorem completes_exit {w : CommandPath} (hexit : ExitIsExit w) {status : RecoveryStatus}
    (h : CompletesExit w.state.recovery_session status) :
    (status.status = .Ready ∨ status.status = .Complete) ∧ status.opcode = .ExitRecovery ∧
      status.source = .InternalFlash ∧ ∃ pending,
        w.state.recovery_session.pending = some pending ∧
        pending.command = LOCAL_EXIT_RECOVERY_COMMAND ∧
        status.transfer_id = pending.transaction_id := by
  obtain ⟨result, hresult, hcommand, hphase, hreason⟩ := h
  unfold RecoverySession.apply_status at hresult
  split at hresult <;> rename_i hpending
  · cases hresult
  · rename_i pending
    split at hresult <;> rename_i hmatch
    · cases hresult
    · simp only [ne_eq, not_or, not_not] at hmatch
      obtain ⟨hid, hsource, hopcode⟩ := hmatch
      dsimp only at hresult
      rw [Option.some.injEq] at hresult
      subst hresult
      dsimp only at hcommand hphase hreason
      obtain ⟨hexit_opcode, hexit_source⟩ := hexit pending hpending hcommand
      refine ⟨?_, hopcode.trans hexit_opcode, hsource.trans hexit_source, pending, hpending, hcommand,
        hid⟩
      rw [hexit_opcode] at hphase hreason
      -- An Aborted completes a StopLogDump only.
      cases hstatus : status.status <;> simp [hstatus] at hphase hreason ⊢

/-! ## How the beacon begins and ends -/

/-- The request was accepted from the local exit command while the beacon was on, and is pending
since then. -/
def StartedByExit (past : List Report) (w : CommandPath) (pending : PendingRecovery) : Prop :=
  ∃ before w₀ args w₁ new later, past = before ++ new ++ later ∧
    Machine.Run machine Machine.anyStep before w₀ ∧
    w₀.state.recovery_beacon_active = true ∧
    w₀.command = .Receive ∧
    w₀.state.uplink_command_channel.items.head? =
      some (.ComBoardLocal pending.transaction_id LOCAL_EXIT_RECOVERY_COMMAND args) ∧
    step w₀ .command = some (w₁, new) ∧
    w₁.state.recovery_session.pending = some pending ∧
    Machine.Run (machine.startingIn w₁)
      (fun v _ => v.state.recovery_session.pending = some pending) later w

theorem started_by_exit {past : List Report} {w : CommandPath}
    (run : Machine.Run machine Machine.anyStep past w) {pending : PendingRecovery}
    (hpending : w.state.recovery_session.pending = some pending)
    (hcommand : pending.command = LOCAL_EXIT_RECOVERY_COMMAND) : StartedByExit past w pending := by
  obtain ⟨before, w₀, a, w₁, new, later, hpast, hrun, hnot, hstep, hafter, hsince⟩ := run.began
    (P := fun w => w.state.recovery_session.pending = some pending)
    (by rintro w rfl h; cases h) hpending
  rcases pending_after hstep hafter with h | ⟨r, rfl, ⟨hreceive, hhead⟩, ⟨hdecode, hbeacon⟩, hr⟩
  · exact absurd h hnot
  · have hid : r.transaction_id = pending.transaction_id := (congrArg (·.transaction_id) hr).symm
    have hr101 : r.command = LOCAL_EXIT_RECOVERY_COMMAND := (congrArg (·.command) hr).symm.trans hcommand
    rw [hr101] at hdecode hhead
    rw [hid] at hhead
    exact ⟨before, w₀, r.args, w₁, new, later, hpast, hrun, hbeacon (decode_exit hdecode), hreceive,
      hhead, hstep, hafter, hsince.mono fun _ _ h => h.1⟩

theorem beacon_ends_by_exit {past reports : List Report} {w w' : CommandPath} {a : Action}
    (run : Machine.Run machine Machine.anyStep past w) (h : step w a = some (w', reports)) :
    (w.state.recovery_beacon_active = false → w'.state.recovery_beacon_active = true →
      ∃ first reason, a = .can_receive_mode [first, 1, reason] ∧ reason ≤ 3) ∧
    (w.state.recovery_beacon_active = true → w'.state.recovery_beacon_active = false →
      ∃ status received_at_ms pending,
        a = .can_receive (.RecoveryStatus status) received_at_ms ∧
        (status.status = .Ready ∨ status.status = .Complete) ∧
        status.opcode = .ExitRecovery ∧ status.source = .InternalFlash ∧
        w.state.recovery_session.pending = some pending ∧
        status.transfer_id = pending.transaction_id ∧
        StartedByExit past w pending) := by
  have hkept (hsame : w'.state.recovery_beacon_active = w.state.recovery_beacon_active)
      {P Q : Prop} : (w.state.recovery_beacon_active = false →
        w'.state.recovery_beacon_active = true → P) ∧
      (w.state.recovery_beacon_active = true → w'.state.recovery_beacon_active = false → Q) := by
    rw [hsame]
    exact ⟨fun h h' => (by simp [h] at h'), fun h h' => (by simp [h] at h')⟩
  cases step_turn h with
  | other same => exact hkept same.beacon
  | requested r _ requested =>
    cases requested with
    | same same => exact hkept same.beacon
    | started _ _ _ _ beacon | stopped _ _ _ _ beacon => exact hkept beacon
  | timeout _ timeout => exact hkept timeout.beacon
  | entered enters same =>
    obtain ⟨first, reason, rfl, hreason⟩ := enters
    refine ⟨fun _ _ => ⟨first, reason, rfl, hreason⟩, fun _ hoff => ?_⟩
    rw [same.beacon] at hoff
    cases hoff
  | @received m received_at_ms s same handled =>
    have hbeacon := (handle_ends s m).2
    rw [handled, same.session, same.beacon] at hbeacon
    rcases hbeacon with hsame | ⟨hends, status, rfl, hcompletes⟩
    · exact hkept hsame
    · refine ⟨fun _ hon => absurd (hon.symm.trans hends) (by decide), fun _ _ => ?_⟩
      · obtain ⟨hstatus, hopcode, hsource, pending, hpending, hcommand, hid⟩ :=
          completes_exit (exit_is_exit_run run) hcompletes
        exact ⟨status, received_at_ms, pending, rfl, hstatus, hopcode, hsource, hpending, hid,
          started_by_exit run hpending hcommand⟩

/-- The beacon is on, and exit request 9 is on its way. -/
def exitNine : List Action :=
  [.can_receive_mode [0, 1, 0],
    .uplink (.ComBoardLocal 9 LOCAL_EXIT_RECOVERY_COMMAND (Vector.replicate 6 0)), .command, .can_take,
    .can_transmitted true]

def readyNine : RecoveryStatus where
  opcode := .ExitRecovery
  transfer_id := 9
  status := .Ready
  source := .InternalFlash
  total_size := 0

theorem beacon_ends_by_exit_nine : ∃ past w w' reports pending,
    Machine.Run machine Machine.anyStep past w ∧ w.state.recovery_beacon_active = true ∧
      step w (.can_receive (.RecoveryStatus readyNine) 0) = some (w', reports) ∧
      w'.state.recovery_beacon_active = false ∧ StartedByExit past w pending := by
  obtain ⟨past, w, run, hon, hstep⟩ : ∃ past w, Machine.Run machine Machine.anyStep past w ∧
      w.state.recovery_beacon_active = true ∧
      ((step w (.can_receive (.RecoveryStatus readyNine) 0)).any
        fun r => r.1.state.recovery_beacon_active = false) = true :=
    Machine.exists_run (fun w _ => w.state.recovery_beacon_active = true ∧
      ((step w (.can_receive (.RecoveryStatus readyNine) 0)).any
        fun r => r.1.state.recovery_beacon_active = false) = true)
      exitNine rfl (fun _ _ _ => trivial) (by decide +kernel)
  obtain ⟨⟨w', reports⟩, hstep, hoff⟩ := (Option.any_eq_true _ _).mp hstep
  have hoff' : w'.state.recovery_beacon_active = false := of_decide_eq_true hoff
  obtain ⟨-, -, pending, -, -, -, -, -, -, hstarted⟩ := (beacon_ends_by_exit run hstep).2 hon hoff'
  exact ⟨past, w, w', reports, pending, run, hon, hstep, hoff', hstarted⟩

end Comboard.Beacon
