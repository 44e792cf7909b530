import Comboard.LoraSteps

/-!
# Recovery leaves the periodic packet its turn

`recovery_sent_since_periodic` is a fact about the history. While it holds, no Recovery envelope is
chosen when the periodic packet is due.
-/

namespace Comboard.Fairness

open Lib LoraTx LoraSteps

/-! ## The flag and the history -/

def fairnessAfter (sent : Bool) : LoraReport → Bool
  | .attempted e _ _ _ => update_recovery_fairness sent e.source
  | .periodic_build_failed => update_recovery_fairness sent .Periodic
  | _ => sent

/-- A Recovery was attempted, and since then the periodic packet had no turn. -/
def recoverySent (past : List LoraReport) : Bool := past.foldl fairnessAfter false

/-- The periodic packet was attempted, or it could not be built. -/
def periodicTurn : LoraReport → Bool
  | .attempted e _ _ _ => e.source = .Periodic
  | .periodic_build_failed => true
  | _ => false

theorem fairnessAfter_keeps {r : LoraReport} (h : periodicTurn r = false) :
    fairnessAfter true r = true := by
  cases r with
  | attempted e it choice ok =>
    have hperiodic : e.source ≠ .Periodic := by simpa [periodicTurn] using h
    simp only [fairnessAfter]
    cases hsource : e.source <;> first | rfl | exact absurd hsource hperiodic
  | periodic_build_failed => simp [periodicTurn] at h
  | _ => rfl

theorem foldl_keeps {reports : List LoraReport} (h : ∀ r ∈ reports, periodicTurn r = false) :
    reports.foldl fairnessAfter true = true := by
  induction reports with
  | nil => rfl
  | cons r reports ih =>
    rw [List.foldl_cons, fairnessAfter_keeps (h r List.mem_cons_self)]
    exact ih fun r' hr' => h r' (List.mem_cons_of_mem _ hr')

theorem recoverySent_between {before between : List LoraReport} {e : LoRaTxEnvelope}
    {it : Iteration} {choice : Choice} {ok : Bool} (he : e.source = .Recovery)
    (h : ∀ r ∈ between, periodicTurn r = false) :
    recoverySent (before ++ .attempted e it choice ok :: between) = true := by
  rw [recoverySent, List.foldl_append, List.foldl_cons]
  have hsent :
      fairnessAfter (before.foldl fairnessAfter false) (.attempted e it choice ok) = true := by
    simp [fairnessAfter, he, update_recovery_fairness]
  rw [hsent]
  exact foldl_keeps h

theorem Gets.fairness {s s' : LoraShared} {pending pending' : Option LoRaTxEnvelope}
    {source : LoRaTxSource} {e : LoRaTxEnvelope} {reports : List LoraReport}
    (h : Gets s pending source e s' pending' reports) (sent : Bool) :
    reports.foldl fairnessAfter sent = sent := by
  cases h <;> rfl

theorem turn_sent {now : Nat} {s s' : LoraShared} {h h' : HeldVars} {point point' : LoraPoint}
    {reports : List LoraReport} (turn : Turn now s h point s' h' point' reports) :
    h'.recovery_sent_since_periodic =
      reports.foldl fairnessAfter h.recovery_sent_since_periodic := by
  cases turn with
  | selected gets | put_back gets => exact (Gets.fairness gets _).symm
  | preempted _ gets =>
    rw [List.foldl_append, Gets.fairness gets]
    rfl
  | _ => rfl

/-! ## How a Recovery envelope is chosen -/

def ChosenFairly (h : HeldVars) : LoraPoint → Prop
  | .Prepare it e _ choice | .Transmit it e _ choice =>
    e.source = .Recovery → h.recovery_sent_since_periodic = true →
      ¬ due it choice.chosen_at ∧ choice.replaced ≠ some .Periodic
  | _ => True

theorem turn_chosen {now : Nat} {s s' : LoraShared} {h h' : HeldVars} {point point' : LoraPoint}
    {reports : List LoraReport} (placed : Placed s h) (hchosen : ChosenFairly h point)
    (turn : Turn now s h point s' h' point' reports) : ChosenFairly h' point' := by
  cases turn with
  | deferred _ allowed => exact fun hsource hsent => ⟨allowed hsource hsent, by simp⟩
  | selected gets allowed =>
    intro hsource hsent
    exact ⟨(allowed ((gets.source placed).symm.trans hsource) hsent).2, by simp⟩
  | built => intro hsource; simp [LoRaTxEnvelope.periodic] at hsource
  | kept => exact hchosen
  | preempted replaces gets =>
    intro hsource hsent
    exact absurd ((gets.source placed).symm.trans hsource) (replaces.not_recovery hsent)
  | transmitted _ hafter =>
    subst hafter
    split <;> trivial
  | _ => trivial

/-! ## Over a run -/

structure Fair (past : List LoraReport) (h : HeldVars) (point : LoraPoint) : Prop where
  sent : h.recovery_sent_since_periodic = recoverySent past
  chosen : ChosenFairly h point

theorem fair_step {past reports : List LoraReport} {w w' : LoraTx} {a : Action}
    (placed : Placed w.shared w.loop.toHeldVars) (fair : Fair past w.loop.toHeldVars w.point)
    (h : machine.step w a = some (w', reports)) :
    Fair (past ++ reports) w'.loop.toHeldVars w'.point := by
  cases step_stepped h with
  | other _ arrives hloop hpoint =>
    rw [hloop, hpoint]
    refine ⟨?_, fair.chosen⟩
    rw [recoverySent, List.foldl_append, fair.sent]
    cases arrives.cached <;> rfl
  | turn _ _ turn =>
    refine ⟨?_, turn_chosen placed fair.chosen turn⟩
    rw [recoverySent, List.foldl_append, turn_sent turn, fair.sent]
    rfl

theorem fair_run {ok : LoraTx → Action → Prop} {past : List LoraReport} {w : LoraTx}
    (run : Machine.Run machine ok past w) : Fair past w.loop.toHeldVars w.point := by
  refine run.invariant (I := fun past w => Fair past w.loop.toHeldVars w.point) ?_ ?_
  · rintro w ⟨started_at, now, -, -, rfl⟩
    exact ⟨rfl, trivial⟩
  · exact fun past w a w' reports run fair _ h => fair_step (placed_run run) fair h

/-! ## The iteration of an attempt -/

def iterationOf : LoraPoint → Option Iteration
  | .Top | .Clear _ => none
  | .Select it | .Snapshot it _ | .Build it _ _ _ | .Prepare it _ _ _ | .Transmit it _ _ _ => some it

theorem turn_iteration {now : Nat} {s s' : LoraShared} {h h' : HeldVars} {point point' : LoraPoint}
    {reports : List LoraReport} {it : Iteration} (turn : Turn now s h point s' h' point' reports)
    (hafter : iterationOf point' = some it) : point = .Top ∨ iterationOf point = some it := by
  cases turn with
  | deferred | waits => exact .inl rfl
  | transmitted _ hclear =>
    subst hclear
    split at hafter <;> cases hafter
  | put_back | no_event_packet | no_packet | prepare_failed | cleared => cases hafter
  | _ => exact .inr hafter

/-- At the top the iteration is computed from the loop and the clock. -/
theorem iteration_begins {w w' : LoraTx} {a : Action} {reports : List LoraReport} {it : Iteration}
    (h : machine.step w a = some (w', reports)) (hbefore : iterationOf w.point ≠ some it)
    (hafter : iterationOf w'.point = some it) :
    w.point = .Top ∧ ∃ now, a = .begin_iteration now ∧ it = w.loop.iteration now := by
  cases step_stepped h with
  | other _ _ _ hpoint =>
    rw [hpoint] at hafter
    exact absurd hafter hbefore
  | turn _ hstep turn =>
    have htop : w.point = .Top := (turn_iteration turn hafter).resolve_right hbefore
    refine ⟨htop, ?_⟩
    unfold step_loop at hstep
    simp only [htop] at hstep
    cases a with
    | begin_iteration now =>
      simp only [Option.some.injEq] at hstep
      unfold begin_iteration at hstep
      dsimp only at hstep
      split at hstep <;> obtain ⟨rfl, -⟩ := Prod.mk.inj hstep <;>
        exact ⟨now, rfl, (Option.some.inj hafter).symm⟩
    | _ => simp at hstep

/-- Where the iteration of `v` began: at the top, with these variables of the loop, and it has not
ended since. -/
structure Began (v : LoraTx) (it : Iteration) (past : List LoraReport) (top : LoraTx) (now : Nat) :
    Prop where
  at_top : top.point = .Top
  computed : it = top.loop.iteration now
  since : ∃ w reports before later, past = before ++ reports ++ later ∧
    Machine.Run machine Machine.anyStep before top ∧
    machine.step top (.begin_iteration now) = some (w, reports) ∧
    Machine.Run (machine.startingIn w) (fun w _ => iterationOf w.point = some it) later v

theorem began_run {past : List LoraReport} {v : LoraTx} {it : Iteration}
    (run : Machine.Run machine Machine.anyStep past v) (hit : iterationOf v.point = some it) :
    ∃ top now, Began v it past top now := by
  have hstart : ∀ w, machine.start w → ¬ iterationOf w.point = some it := by
    rintro w ⟨started_at, now, -, -, rfl⟩
    simp [iterationOf]
  obtain ⟨before, top, a, w, reports, later, rfl, run', hbefore, hstep, hafter, since⟩ :=
    run.began (P := fun w => iterationOf w.point = some it) hstart hit
  obtain ⟨htop, now, rfl, hcomputed⟩ := iteration_begins hstep hbefore hafter
  exact ⟨top, now, htop, hcomputed, w, reports, before, later, rfl, run', hstep,
    since.mono fun _ _ => And.left⟩

theorem iterationOf_attempting {e : LoRaTxEnvelope} {it : Iteration} {choice : Choice}
    {point : LoraPoint} (h : Attempting e it choice point) : iterationOf point = some it := by
  rcases h with ⟨regular, rfl⟩ | ⟨displaced, rfl⟩ <;> rfl

/-- Two Recovery attempts with no turn of the periodic packet between them. What the iteration of the
second one goes by comes from `next_tx_at`, `periodic_deadline_valid` and `periodic_retry_at`. -/
theorem second_recovery_not_due {past before between after : List LoraReport} {w : LoraTx}
    {e e' : LoRaTxEnvelope} {it it' : Iteration} {choice choice' : Choice} {ok ok' : Bool}
    (run : Machine.Run machine Machine.anyStep past w)
    (hpast : past =
      (before ++ .attempted e it choice ok :: between) ++ .attempted e' it' choice' ok' :: after)
    (he : e.source = .Recovery) (he' : e'.source = .Recovery)
    (hbetween : ∀ r ∈ between, periodicTurn r = false) :
    (it'.periodic_schedule_valid = false ∨ choice'.chosen_at < it'.scheduled_periodic_at) ∧
      choice'.replaced ≠ some .Periodic ∧
      ∃ v top now, Attempting e' it' choice' v.point ∧
        Began v it' (before ++ .attempted e it choice ok :: between) top now := by
  obtain ⟨v, run', hpoint⟩ := attempted_in_hand run hpast
  obtain ⟨top, now, began⟩ := began_run run' (iterationOf_attempting hpoint)
  have fair := fair_run run'
  have hsent : v.loop.recovery_sent_since_periodic = true := by
    rw [fair.sent, recoverySent_between he hbetween]
  have hchosen : ¬ due it' choice'.chosen_at ∧ choice'.replaced ≠ some .Periodic := by
    have := fair.chosen
    rcases hpoint with ⟨regular, hpoint⟩ | ⟨displaced, hpoint⟩ <;> rw [hpoint] at this <;>
      exact this he' hsent
  refine ⟨?_, hchosen.2, v, top, now, hpoint, began⟩
  have hdue := hchosen.1
  simp only [due, not_and_or, Bool.not_eq_true, Nat.not_le] at hdue
  exact hdue

/-! ## Two Recovery packets in front of the first deadline -/

def twoChunks : List Action :=
  [.queue_recovery_chunk (chunk 0), .queue_recovery_chunk (chunk 16),
    .begin_iteration 0, .select 0 0 0, .prepared 0, .transmitted true 100000 100000,
    .begin_iteration 100000, .select 300000 300000 300000, .prepared 300000,
    .transmitted true 400000 400000]

def recoveriesInARow : List LoraReport → Bool
  | [.received _, .attempted e _ _ _, .received _, .attempted e' _ _ _] =>
    e.source = .Recovery && e'.source = .Recovery
  | _ => false

theorem second_recovery_not_due_first :
    ∃ past w e it choice ok, Machine.Run machine Machine.anyStep past w ∧
      .attempted e it choice ok ∈ past ∧ e.source = .Recovery ∧
      (it.periodic_schedule_valid = false ∨ choice.chosen_at < it.scheduled_periodic_at) := by
  have hrun : ∃ past w, Machine.Run machine Machine.anyStep past w ∧ recoveriesInARow past :=
    Machine.exists_run (fun _ past => recoveriesInARow past) twoChunks entered_starts
      (fun _ _ _ => trivial) (by decide +kernel)
  obtain ⟨past, w, run, hpast⟩ := hrun
  unfold recoveriesInARow at hpast
  split at hpast
  · rename_i r e it choice ok r' e' it' choice' ok'
    simp only [Bool.and_eq_true, decide_eq_true_eq] at hpast
    have hsplit : [LoraReport.received r, .attempted e it choice ok, .received r',
        .attempted e' it' choice' ok'] =
        ([LoraReport.received r] ++ .attempted e it choice ok :: [.received r']) ++
          .attempted e' it' choice' ok' :: [] := rfl
    obtain ⟨hdue, -⟩ :=
      second_recovery_not_due run hsplit hpast.1 hpast.2 (by simp [periodicTurn])
    exact ⟨_, w, e', it', choice', ok', run, by simp, hpast.2, hdue⟩
  · simp at hpast

end Comboard.Fairness
