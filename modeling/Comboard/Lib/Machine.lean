import Mathlib.Init

/-!
# Machines that report what they do

`step s a` is `none` where the action `a` is not enabled in `s`. Otherwise it is the next state
and what the step reports.
-/

namespace Comboard.Lib

structure Machine (σ α ε : Type) where
  start : σ → Prop
  step : σ → α → Option (σ × List ε)

namespace Machine

variable {σ α ε : Type} {m : Machine σ α ε} {ok ok' : σ → α → Prop}

/-- A run whose every step met `ok`: what it has reported, and where it stands. -/
inductive Run (m : Machine σ α ε) (ok : σ → α → Prop) : List ε → σ → Prop where
  | start {s : σ} (h : m.start s) : Run m ok [] s
  | step {past new : List ε} {s s' : σ} {a : α} (run : Run m ok past s) (h : ok s a)
      (step : m.step s a = some (s', new)) : Run m ok (past ++ new) s'

def anyStep (_ : σ) (_ : α) : Prop := True

/-- The state after a list of actions, if each is enabled in its turn. -/
def exec (m : Machine σ α ε) : σ → List α → Option (σ × List ε)
  | s, [] => some (s, [])
  | s, a :: as =>
    match m.step s a with
    | none => none
    | some (s', new) => (exec m s' as).map fun (t, later) => (t, new ++ later)

/-! ## Invariants -/

theorem Run.invariant {I : List ε → σ → Prop} (hstart : ∀ s, m.start s → I [] s)
    (hstep : ∀ past s a s' new, Run m ok past s → I past s → ok s a →
      m.step s a = some (s', new) → I (past ++ new) s')
    {past : List ε} {s : σ} (h : Run m ok past s) : I past s := by
  induction h with
  | start h => exact hstart _ h
  | step run h step ih => exact hstep _ _ _ _ _ run ih h step

/-- An invariant of the states alone. -/
theorem Run.always {I : σ → Prop} (hstart : ∀ s, m.start s → I s)
    (hstep : ∀ s a s' new, I s → ok s a → m.step s a = some (s', new) → I s')
    {past : List ε} {s : σ} (h : Run m ok past s) : I s :=
  h.invariant (I := fun _ s => I s) hstart fun _ s a s' new _ hi => hstep s a s' new hi

theorem Run.mono (hok : ∀ s a, ok s a → ok' s a) {past : List ε} {s : σ}
    (h : Run m ok past s) : Run m ok' past s := by
  induction h with
  | start h => exact .start h
  | step _ h step ih => exact .step ih (hok _ _ h) step

/-- Where a report came from: the run up to the step that made it. -/
theorem Run.reported {past : List ε} {s : σ} (h : Run m ok past s) {before after : List ε} {r : ε}
    (hpast : past = before ++ r :: after) :
    ∃ past' s' a t new later, Run m ok past' s' ∧ m.step s' a = some (t, new ++ r :: later) ∧
      before = past' ++ new := by
  induction h generalizing after with
  | start => simp at hpast
  | @step past new s s' a run hok hstep ih =>
    rcases List.append_eq_append_iff.mp hpast with ⟨new', hbefore, hnew⟩ | ⟨later, hlater, hrest⟩
    · exact ⟨past, s, a, s', new', after, run, hnew ▸ hstep, hbefore⟩
    · cases later with
      | nil => exact ⟨past, s, a, s', [], after, run, by simpa [hrest] using hstep, by simp [hlater]⟩
      | cons r' later =>
        obtain ⟨rfl, -⟩ := List.cons.inj hrest
        exact ih hlater

/-! ## History variables -/

/-- The machine that starts in `s`. -/
def startingIn (m : Machine σ α ε) (s : σ) : Machine σ α ε := { m with start := (· = s) }

/-- The machine with a variable that looks on. -/
def watched {τ : Type} (m : Machine σ α ε) (init : τ) (next : τ → σ → σ → List ε → τ) :
    Machine (σ × τ) α ε where
  start s := m.start s.1 ∧ s.2 = init
  step s a := (m.step s.1 a).map fun (s', new) => ((s', next s.2 s.1 s' new), new)

theorem watched_step {τ : Type} {init : τ} {next : τ → σ → σ → List ε → τ} {s s' : σ} {t t' : τ}
    {a : α} {new : List ε}
    (h : (m.watched init next).step (s, t) a = some ((s', t'), new)) :
    m.step s a = some (s', new) ∧ t' = next t s s' new := by
  simp only [watched, Option.map_eq_some_iff, Prod.mk.injEq, Prod.exists] at h
  obtain ⟨_, _, hstep, ⟨rfl, rfl⟩, rfl⟩ := h
  exact ⟨hstep, rfl⟩

/-- Every run can be watched. -/
theorem Run.watched {τ : Type} (init : τ) (next : τ → σ → σ → List ε → τ) {past : List ε} {s : σ}
    (h : Run m ok past s) :
    ∃ t, Run (m.watched init next) (fun s a => ok s.1 a) past (s, t) := by
  induction h with
  | start h => exact ⟨init, .start ⟨h, rfl⟩⟩
  | @step past new s s' a run hok hstep ih =>
    obtain ⟨t, ih⟩ := ih
    exact ⟨next t s s' new, ih.step hok (by simp [Machine.watched, hstep])⟩

/-- What holds now and not at the start began with some step, and has held since. -/
theorem Run.began {P : σ → Prop} (hstart : ∀ s, m.start s → ¬ P s) {past : List ε} {s : σ}
    (h : Run m ok past s) (hs : P s) :
    ∃ before s₀ a s₁ new later, past = before ++ new ++ later ∧ Run m ok before s₀ ∧ ¬ P s₀ ∧
      m.step s₀ a = some (s₁, new) ∧ P s₁ ∧
      Run (m.startingIn s₁) (fun s a => P s ∧ ok s a) later s := by
  induction h with
  | start h => exact absurd hs (hstart _ h)
  | @step past new s s' a run hok hstep ih =>
    by_cases hbefore : P s
    · obtain ⟨before, s₀, a₀, s₁, new₀, later, rfl, hrun, hnot, hbegan, hafter, hsince⟩ := ih hbefore
      exact ⟨before, s₀, a₀, s₁, new₀, later ++ new, by rw [List.append_assoc], hrun, hnot, hbegan,
        hafter, hsince.step ⟨hbefore, hok⟩ hstep⟩
    · exact ⟨past, s, a, s', new, [], (List.append_nil _).symm, run, hbefore, hstep, hs, .start rfl⟩

/-! ## Other reports -/

/-- The machine that reports what `look` sees of a step. -/
def observed {ο : Type} (m : Machine σ α ε) (look : σ → α → List ο) : Machine σ α ο where
  start := m.start
  step s a := (m.step s a).map fun (s', _) => (s', look s a)

theorem observed_step {ο : Type} {look : σ → α → List ο} {s s' : σ} {a : α} {seen : List ο}
    (h : (m.observed look).step s a = some (s', seen)) :
    seen = look s a ∧ ∃ new, m.step s a = some (s', new) := by
  obtain ⟨⟨t, new⟩, hstep, heq⟩ := Option.map_eq_some_iff.mp h
  obtain ⟨rfl, rfl⟩ := Prod.mk.inj heq
  exact ⟨rfl, new, hstep⟩

theorem Run.of_observed {ο : Type} {look : σ → α → List ο} {seen : List ο} {s : σ}
    (h : Run (m.observed look) ok seen s) : ∃ past, Run m ok past s := by
  induction h with
  | start h => exact ⟨[], .start h⟩
  | step _ h hstep ih =>
    obtain ⟨past, ih⟩ := ih
    obtain ⟨-, new, hstep⟩ := observed_step hstep
    exact ⟨past ++ new, ih.step h hstep⟩

/-! ## Runs of another machine -/

/-- A run, as another machine sees it through `f` and `g`: each step is one of its own, or none. -/
theorem Run.simulates {τ β δ : Type} {n : Machine τ β δ} {good : τ → β → Prop} (f : σ → τ)
    (g : ε → List δ) (hstart : ∀ s, m.start s → n.start (f s))
    (hstep : ∀ past s a s' new, Run m ok past s → ok s a → m.step s a = some (s', new) →
      (f s' = f s ∧ new.flatMap g = []) ∨
        ∃ b, good (f s) b ∧ n.step (f s) b = some (f s', new.flatMap g))
    {past : List ε} {s : σ} (h : Run m ok past s) : Run n good (past.flatMap g) (f s) := by
  induction h with
  | start h => exact .start (hstart _ h)
  | step run hok hstep' ih =>
    rw [List.flatMap_append]
    rcases hstep _ _ _ _ _ run hok hstep' with ⟨hf, hg⟩ | ⟨b, hgood, hb⟩
    · rwa [hf, hg, List.append_nil]
    · exact ih.step hgood hb

/-! ## Reports that are passed on -/

section PassedOn

variable {β δ : Type} {new : List ε}

/-- Whoever looks behind the new name sees all of them. -/
theorem flatMap_passed_on (name : ε → β) (look : β → List ε)
    (h : ∀ r, look (name r) = [r] := by exact fun _ => rfl) : (new.map name).flatMap look = new := by
  rw [List.flatMap_map, funext h, List.flatMap_singleton']

theorem flatMap_passed_over (name : ε → β) (look : β → List δ)
    (h : ∀ r, look (name r) = [] := by exact fun _ => rfl) : (new.map name).flatMap look = [] := by
  rw [List.flatMap_map, List.flatMap_eq_nil_iff]
  exact fun r _ => h r

theorem filterMap_passed_over (name : ε → β) (look : β → Option δ)
    (h : ∀ r, look (name r) = none := by exact fun _ => rfl) :
    (new.map name).filterMap look = [] := by
  rw [List.filterMap_map, List.filterMap_eq_nil_iff]
  exact fun r _ => h r

/-- What follows reports that were passed on starts behind them, or later. -/
theorem split_passed_on {name : ε → β} {r r' : β} {new' later later' : List β}
    (hr : ∀ x, name x ≠ r) (h : new.map name ++ r' :: later' = new' ++ r :: later) :
    new' = new.map name ∧ r' = r ∨ r ∈ later' := by
  induction new generalizing new' with
  | nil =>
    cases new' with
    | nil => exact .inl ⟨rfl, (List.cons.inj h).1⟩
    | cons s new' => exact .inr ((List.cons.inj h).2 ▸ List.mem_append_right new' List.mem_cons_self)
  | cons x rest ih =>
    cases new' with
    | nil => exact absurd (List.cons.inj h).1 (hr x)
    | cons s new' =>
      obtain ⟨rfl, htail⟩ := List.cons.inj h
      exact (ih htail).imp_left fun ⟨hnew, hsame⟩ => ⟨congrArg (name x :: ·) hnew, hsame⟩

end PassedOn

/-! ## Executing a run -/

theorem Run.exec {past new : List ε} {s s' : σ} {as : List α} (h : Run m ok past s)
    (hok : ∀ a ∈ as, ∀ t, ok t a) (hexec : m.exec s as = some (s', new)) :
    Run m ok (past ++ new) s' := by
  induction as generalizing past s new with
  | nil =>
    simp only [Machine.exec, Option.some.injEq, Prod.mk.injEq] at hexec
    obtain ⟨rfl, rfl⟩ := hexec
    simpa using h
  | cons a as ih =>
    simp only [Machine.exec] at hexec
    split at hexec <;> rename_i hstep
    · simp at hexec
    · simp only [Option.map_eq_some_iff, Prod.mk.injEq] at hexec
      obtain ⟨⟨t, later⟩, ht, rfl, rfl⟩ := hexec
      rw [← List.append_assoc]
      exact ih (h.step (hok a (by simp) s) hstep) (fun b hb => hok b (by simp [hb])) ht

theorem startingIn_exec (s t : σ) (as : List α) : (m.startingIn s).exec t as = m.exec t as := by
  induction as generalizing t with
  | nil => rfl
  | cons a as ih =>
    simp only [Machine.exec, ih]
    rfl

/-- The machine that makes only the steps that pass a check. -/
def checked (m : Machine σ α ε) (check : σ → α → Bool) : Machine σ α ε where
  start := m.start
  step s a := if check s a then m.step s a else none

theorem Run.of_checked {check : σ → α → Bool} {past : List ε} {s : σ}
    (h : Run (m.checked check) anyStep past s) : Run m (fun s a => check s a = true) past s := by
  induction h with
  | start h => exact .start h
  | @step past new s s' a run _ hstep ih =>
    simp only [checked, Option.ite_none_right_eq_some] at hstep
    exact ih.step hstep.1 hstep.2

/-- A run to a state that satisfies `p`, from an execution that can be computed. -/
theorem exists_run (p : σ → List ε → Prop) [∀ s past, Decidable (p s past)] {s : σ} (as : List α)
    (hs : m.start s) (hok : ∀ a ∈ as, ∀ t, ok t a)
    (h : ((m.exec s as).any fun r => p r.1 r.2) = true) :
    ∃ past t, Run m ok past t ∧ p t past := by
  obtain ⟨⟨t, past⟩, hexec, hp⟩ := (Option.any_eq_true _ _).mp h
  exact ⟨past, t, by simpa using (Run.start hs).exec hok hexec, by simpa using hp⟩

/-- The same where what the steps meet can be decided. -/
theorem exists_checked_run [∀ s a, Decidable (ok s a)] (p : σ → List ε → Prop)
    [∀ s past, Decidable (p s past)] {s : σ} (as : List α) (hs : m.start s)
    (h : (((m.checked fun s a => decide (ok s a)).exec s as).any fun r => p r.1 r.2) = true) :
    ∃ past t, Run m ok past t ∧ p t past := by
  have hchecked : ∃ past t, Run (m.checked fun s a => decide (ok s a)) anyStep past t ∧ p t past :=
    exists_run p as hs (fun _ _ _ => trivial) h
  obtain ⟨past, t, run, hp⟩ := hchecked
  exact ⟨past, t, run.of_checked.mono fun _ _ => of_decide_eq_true, hp⟩

end Machine

end Comboard.Lib
