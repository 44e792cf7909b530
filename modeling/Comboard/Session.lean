import Comboard.Code.Recovery

/-!
# The accounts of the recovery session

Every request that is installed leaves once: with a final result, by `cancel`, or not yet.
-/

namespace Comboard.Session

open RecoverySession

inductive Action where
  | start (pending : PendingRecovery)
  | cancel (transaction_id : UInt8)
  | apply_status (status : RecoveryStatus)
  | fail (reason : CommandReason) (detail : UInt32)
  | fail_matching (transaction_id : UInt8) (reason : CommandReason) (detail : UInt32)
  | interrupt_with_stop (pending : PendingRecovery)
  deriving DecidableEq

/-- One call: the session around it and its answers. -/
structure Call where
  action : Action
  before : RecoverySession
  after : RecoverySession
  started : Bool
  result : Option CommandResult
  deriving DecidableEq

def call (self : RecoverySession) (action : Action) : Call :=
  match action with
  | .start pending => ⟨action, self, (self.start pending).1, (self.start pending).2, none⟩
  | .cancel transaction_id => ⟨action, self, self.cancel transaction_id, false, none⟩
  | .apply_status status =>
    ⟨action, self, (self.apply_status status).1, false, (self.apply_status status).2⟩
  | .fail reason detail => ⟨action, self, (self.fail reason detail).1, false,
      (self.fail reason detail).2⟩
  | .fail_matching transaction_id reason detail =>
    ⟨action, self, (self.fail_matching transaction_id reason detail).1, false,
      (self.fail_matching transaction_id reason detail).2⟩
  | .interrupt_with_stop pending =>
    ⟨action, self, (self.interrupt_with_stop pending).1, false,
      (self.interrupt_with_stop pending).2⟩

/-- The calls of a run, in order. -/
def calls (self : RecoverySession) : List Action → List Call
  | [] => []
  | action :: actions => call self action :: calls (call self action).after actions

/-- The session after a run. -/
def last (self : RecoverySession) : List Action → RecoverySession
  | [] => self
  | action :: actions => last (call self action).after actions

/-! ## What is counted -/

def Call.installs (c : Call) : Bool :=
  match c.action with
  | .start _ => c.started
  | .interrupt_with_stop _ => true
  | _ => false

def Call.finishes (c : Call) : Bool := c.result.any (·.phase.is_final)

/-- A `cancel` that took the request away. -/
def Call.removes (c : Call) : Bool :=
  match c.action with
  | .cancel _ => c.before.pending.isSome && c.after.pending.isNone
  | _ => false

def waiting (self : RecoverySession) : Nat := self.pending.toList.length

/-- The calls that may not touch the session: for another request, or refused. -/
def Call.Foreign (c : Call) : Prop :=
  match c.action with
  | .start _ => c.started = false
  | .cancel transaction_id => ∀ pending, c.before.pending = some pending →
      transaction_id ≠ pending.transaction_id
  | .apply_status status => ∀ pending, c.before.pending = some pending →
      status.transfer_id ≠ pending.transaction_id ∨ status.source ≠ pending.source ∨
        status.opcode ≠ pending.opcode
  | .fail_matching transaction_id _ _ => ∀ pending, c.before.pending = some pending →
      transaction_id ≠ pending.transaction_id
  | .fail _ _ => False
  | .interrupt_with_stop _ => False

/-! ## One call -/

/-- What one call may do to the accounts. -/
structure Sound (c : Call) : Prop where
  balance : waiting c.before + c.installs.toNat =
    waiting c.after + c.finishes.toNat + c.removes.toNat
  answers : ∀ result, c.result = some result → ∃ pending, c.before.pending = some pending ∧
    result.transaction_id = pending.transaction_id ∧ result.command = pending.command
  foreign : c.Foreign → c.after = c.before ∧ c.result = none
  accepted : ∀ result, c.result = some result → result.phase = .Accepted → c.after = c.before

theorem start_sound (self : RecoverySession) (pending : PendingRecovery) :
    Sound (call self (.start pending)) := by
  obtain ⟨_ | old⟩ := self
  · constructor
    · rfl
    · nofun
    · intro h
      cases h
    · nofun
  · constructor
    · rfl
    · nofun
    · exact fun _ => ⟨rfl, rfl⟩
    · nofun

theorem cancel_sound (self : RecoverySession) (transaction_id : UInt8) :
    Sound (call self (.cancel transaction_id)) := by
  obtain ⟨_ | old⟩ := self
  · exact ⟨rfl, nofun, fun _ => ⟨rfl, rfl⟩, nofun⟩
  · by_cases h : old.transaction_id = transaction_id
    · have hafter : cancel ⟨some old⟩ transaction_id = ⟨none⟩ := by simp [cancel, h]
      constructor
      · simp [call, hafter, Call.installs, Call.finishes, Call.removes, waiting]
      · nofun
      · intro hforeign
        exact absurd h.symm (hforeign old rfl)
      · nofun
    · have hafter : cancel ⟨some old⟩ transaction_id = ⟨some old⟩ := by simp [cancel, h]
      constructor
      · simp [call, hafter, Call.installs, Call.finishes, Call.removes, waiting]
      · nofun
      · exact fun _ => ⟨hafter, rfl⟩
      · nofun

/-- A matching status finishes the request, unless it says `Dumping`. -/
theorem apply_status_matching {old : PendingRecovery} {status : RecoveryStatus}
    (h : ¬ (status.transfer_id ≠ old.transaction_id ∨ status.source ≠ old.source ∨
      status.opcode ≠ old.opcode)) :
    ∃ result, (apply_status ⟨some old⟩ status).2 = some result ∧
      result.transaction_id = old.transaction_id ∧ result.command = old.command ∧
      (apply_status ⟨some old⟩ status).1 = ⟨if result.phase.is_final then none else some old⟩ := by
  unfold apply_status
  dsimp only
  rw [if_neg h]
  refine ⟨_, rfl, rfl, rfl, ?_⟩
  cases status.status with
  | Aborted => by_cases hstop : old.opcode = .StopLogDump <;> simp [hstop, CommandPhase.is_final]
  | _ => rfl

theorem apply_status_sound (self : RecoverySession) (status : RecoveryStatus) :
    Sound (call self (.apply_status status)) := by
  obtain ⟨_ | old⟩ := self
  · exact ⟨rfl, nofun, fun _ => ⟨rfl, rfl⟩, nofun⟩
  · by_cases h : status.transfer_id ≠ old.transaction_id ∨ status.source ≠ old.source ∨
        status.opcode ≠ old.opcode
    · have hsame : apply_status ⟨some old⟩ status = (⟨some old⟩, none) := by
        unfold apply_status
        dsimp only
        rw [if_pos h]
      constructor
      · simp [call, hsame, Call.installs, Call.finishes, Call.removes, waiting]
      · simp [call, hsame]
      · simp [call, hsame]
      · simp [call, hsame]
    · obtain ⟨result, hresult, hid, hcommand, hafter⟩ := apply_status_matching h
      constructor
      · simp only [call, hresult, hafter, Call.installs, Call.finishes, Call.removes, waiting,
          Option.any_some]
        cases result.phase.is_final <;> rfl
      · intro result' h'
        cases hresult.symm.trans h'
        exact ⟨old, rfl, hid, hcommand⟩
      · intro hforeign
        exact absurd (hforeign old rfl) h
      · intro result' h' haccepted
        cases hresult.symm.trans h'
        rw [haccepted] at hafter
        exact hafter

theorem fail_sound (self : RecoverySession) (reason : CommandReason) (detail : UInt32) :
    Sound (call self (.fail reason detail)) := by
  obtain ⟨_ | old⟩ := self
  · exact ⟨rfl, nofun, nofun, nofun⟩
  · constructor
    · rfl
    · rintro result ⟨⟩
      exact ⟨old, rfl, rfl, rfl⟩
    · nofun
    · rintro result ⟨⟩
      nofun

theorem fail_matching_sound (self : RecoverySession) (transaction_id : UInt8)
    (reason : CommandReason) (detail : UInt32) :
    Sound (call self (.fail_matching transaction_id reason detail)) := by
  obtain ⟨_ | old⟩ := self
  · exact ⟨rfl, nofun, fun _ => ⟨rfl, rfl⟩, nofun⟩
  · by_cases h : old.transaction_id = transaction_id
    · have hfail : fail_matching ⟨some old⟩ transaction_id reason detail =
          fail ⟨some old⟩ reason detail := by simp [fail_matching, h]
      have hsound := fail_sound ⟨some old⟩ reason detail
      constructor
      · simpa [call, hfail, Call.installs, Call.finishes, Call.removes] using hsound.balance
      · simpa [call, hfail] using hsound.answers
      · intro hforeign
        exact absurd h.symm (hforeign old rfl)
      · simpa [call, hfail] using hsound.accepted
    · have hsame : fail_matching ⟨some old⟩ transaction_id reason detail =
          (⟨some old⟩, none) := by simp [fail_matching, h]
      constructor
      · simp [call, hsame, Call.installs, Call.finishes, Call.removes, waiting]
      · simp [call, hsame]
      · simp [call, hsame]
      · simp [call, hsame]

theorem interrupt_with_stop_sound (self : RecoverySession) (pending : PendingRecovery) :
    Sound (call self (.interrupt_with_stop pending)) := by
  obtain ⟨_ | old⟩ := self
  · exact ⟨rfl, nofun, nofun, nofun⟩
  · constructor
    · rfl
    · rintro result ⟨⟩
      exact ⟨old, rfl, rfl, rfl⟩
    · nofun
    · rintro result ⟨⟩
      nofun

theorem call_sound (self : RecoverySession) (action : Action) : Sound (call self action) := by
  cases action with
  | start pending => exact start_sound self pending
  | cancel transaction_id => exact cancel_sound self transaction_id
  | apply_status status => exact apply_status_sound self status
  | fail reason detail => exact fail_sound self reason detail
  | fail_matching transaction_id reason detail =>
    exact fail_matching_sound self transaction_id reason detail
  | interrupt_with_stop pending => exact interrupt_with_stop_sound self pending

/-! ## Whole runs -/

theorem mem_calls {self : RecoverySession} {actions : List Action} {c : Call}
    (h : c ∈ calls self actions) : Sound c := by
  induction actions generalizing self with
  | nil => cases h
  | cons action actions ih =>
    rcases List.mem_cons.mp h with rfl | h
    · exact call_sound self action
    · exact ih h

theorem calls_balance (self : RecoverySession) (actions : List Action) :
    waiting self + (calls self actions).countP (·.installs) =
      waiting (last self actions) + (calls self actions).countP (·.finishes) +
        (calls self actions).countP (·.removes) := by
  induction actions generalizing self with
  | nil => rfl
  | cons action actions ih =>
    have hcall := (call_sound self action).balance
    have hbefore : (call self action).before = self := by cases action <;> rfl
    have hrest := ih (call self action).after
    have hcount (b : Bool) : (if b = true then 1 else 0) = b.toNat := by cases b <;> rfl
    rw [hbefore] at hcall
    simp only [calls, last, List.countP_cons, hcount]
    omega

theorem waiting_le (self : RecoverySession) : waiting self ≤ 1 := by
  obtain ⟨_ | _⟩ := self
  · exact Nat.zero_le _
  · exact Nat.le_refl _

theorem waiting_zero {self : RecoverySession} : waiting self = 0 ↔ self.pending = none := by
  obtain ⟨_ | _⟩ := self <;> simp [waiting]

/-- With nothing pending, nothing is returned until the next install. -/
theorem idle_calls {self : RecoverySession} {actions : List Action} {between rest : List Call}
    {later : Call} (hidle : self.pending = none)
    (hcalls : calls self actions = between ++ later :: rest)
    (hbetween : ∀ c ∈ between, c.installs = false) : later.result = none := by
  induction between generalizing self actions with
  | nil =>
    cases actions with
    | nil => cases hcalls
    | cons action actions =>
      obtain ⟨rfl, -⟩ := List.cons.inj hcalls
      have hbefore : (call self action).before = self := by cases action <;> rfl
      cases hresult : (call self action).result with
      | none => rfl
      | some result =>
        obtain ⟨pending, hpending, -⟩ := (call_sound self action).answers result hresult
        rw [hbefore, hidle] at hpending
        cases hpending
  | cons c between ih =>
    cases actions with
    | nil => cases hcalls
    | cons action actions =>
      obtain ⟨rfl, hrest⟩ := List.cons.inj hcalls
      have hbalance := (call_sound self action).balance
      have hbefore : (call self action).before = self := by cases action <;> rfl
      have hinstalls := hbetween _ List.mem_cons_self
      rw [hbefore, waiting_zero.mpr hidle, hinstalls] at hbalance
      have hafter : waiting (call self action).after = 0 := by
        simp only [Bool.toNat_false] at hbalance
        omega
      exact ih (waiting_zero.mp hafter) hrest fun c hc => hbetween c (List.mem_cons_of_mem _ hc)

theorem after_final {self : RecoverySession} {actions : List Action}
    {earlier between rest : List Call} {c later : Call}
    (hcalls : calls self actions = earlier ++ c :: (between ++ later :: rest))
    (hfinal : c.finishes = true) (hbetween : ∀ d ∈ c :: between, d.installs = false) :
    later.result = none := by
  induction earlier generalizing self actions with
  | nil =>
    cases actions with
    | nil => cases hcalls
    | cons action actions =>
      obtain ⟨rfl, hrest⟩ := List.cons.inj hcalls
      have hbalance := (call_sound self action).balance
      have hle := waiting_le (call self action).before
      rw [hfinal, hbetween _ List.mem_cons_self] at hbalance
      have hafter : waiting (call self action).after = 0 := by
        simp only [Bool.toNat_false, Bool.toNat_true] at hbalance
        omega
      exact idle_calls (waiting_zero.mp hafter) hrest
        fun d hd => hbetween d (List.mem_cons_of_mem _ hd)
  | cons d earlier ih =>
    cases actions with
    | nil => cases hcalls
    | cons action actions => exact ih (List.cons.inj hcalls).2

/-- Over every run from `new`, each installed request ends once, each answer is for the pending
request, and calls for other requests change nothing. -/
theorem session_accounts (actions : List Action) :
    (calls new actions).countP (·.installs) =
      (calls new actions).countP (·.finishes) + (calls new actions).countP (·.removes) +
        (if (last new actions).pending.isSome then 1 else 0) ∧
    (∀ c ∈ calls new actions,
      (∀ result, c.result = some result → ∃ pending, c.before.pending = some pending ∧
        result.transaction_id = pending.transaction_id ∧ result.command = pending.command) ∧
      (c.Foreign → c.after = c.before ∧ c.result = none) ∧
      (∀ result, c.result = some result → result.phase = .Accepted →
        c.before.pending.isSome ∧ c.after = c.before)) ∧
    (∀ earlier c between later rest,
      calls new actions = earlier ++ c :: (between ++ later :: rest) → c.finishes = true →
      (∀ d ∈ c :: between, d.installs = false) → later.result = none) := by
  refine ⟨?_, ?_, ?_⟩
  · have hbalance := calls_balance new actions
    have hnew : waiting new = 0 := rfl
    have hlast : waiting (last new actions) =
        if (last new actions).pending.isSome then 1 else 0 := by
      unfold waiting
      cases (last new actions).pending <;> rfl
    omega
  · intro c hc
    have hsound := mem_calls hc
    refine ⟨hsound.answers, hsound.foreign, ?_⟩
    intro result hresult haccepted
    obtain ⟨pending, hpending, -⟩ := hsound.answers result hresult
    exact ⟨Option.isSome_of_eq_some hpending, hsound.accepted result hresult haccepted⟩
  · intro earlier c between later rest hcalls hfinal hbetween
    exact after_final hcalls hfinal hbetween

end Comboard.Session
