import Comboard.Code.RxGuard
import Mathlib.Data.Nat.Basic
import Mathlib.Order.Basic

/-!
# No transmission right after a reception

Earlier calls take the signal too, so a call that finds it empty relies on what they waited for.
-/

namespace Comboard.HalfDuplex

open Lib RxGuard

/-! ## What the guard has waited for -/

/-- Nothing newer is signalled: this activity is over, or the guard still waits for it. -/
def Settled (g : RxGuard) (at_us : Nat) : Prop :=
  match g.point with
  | .Idle | .Take | .Return => at_us + guard_duration ≤ g.now
  | .Loop last_rx => at_us ≤ last_rx
  | .Select deadline => at_us + guard_duration ≤ deadline

/-- The signal holds the newest activity, until it is taken. -/
structure Good (past : List RxGuard.Report) (g : RxGuard) : Prop where
  clock : ∀ at_us, .activity at_us ∈ past → at_us ≤ g.now
  newest : ∀ last_rx, g.lora_rx_activity_signal = some last_rx →
    ∀ at_us, .activity at_us ∈ past → at_us ≤ last_rx
  settled : g.lora_rx_activity_signal = none → ∀ at_us, .activity at_us ∈ past → Settled g at_us

/-- A step that only looks at the clock. -/
theorem Good.waits {past : List RxGuard.Report} {g g' : RxGuard} (good : Good past g)
    (hnow : g.now ≤ g'.now)
    (hsignal : g'.lora_rx_activity_signal = g.lora_rx_activity_signal)
    (hsettled : ∀ at_us, Settled g at_us → Settled g' at_us) : Good past g' where
  clock at_us hpast := (good.clock at_us hpast).trans hnow
  newest last_rx hlast := good.newest last_rx (hsignal ▸ hlast)
  settled hnone at_us hpast := hsettled at_us (good.settled (hsignal ▸ hnone) at_us hpast)

theorem Good.activity {past : List RxGuard.Report} {g : RxGuard} (good : Good past g) {now : Nat}
    (hnow : g.now ≤ now) :
    Good (past ++ [.activity now]) { g with now, lora_rx_activity_signal := some now } := by
  have hall (at_us : Nat) (hpast : RxGuard.Report.activity at_us ∈ past ++ [.activity now]) :
      at_us ≤ now := by
    rcases List.mem_append.mp hpast with hpast | hpast
    · exact (good.clock at_us hpast).trans hnow
    · exact (RxGuard.Report.activity.inj (List.mem_singleton.mp hpast)).le
  refine ⟨hall, fun last_rx hlast => ?_, fun hnone => by simp at hnone⟩
  rw [← Option.some.inj hlast]
  exact hall

/-- What was signalled is waited for next. -/
theorem Good.taken {past : List RxGuard.Report} {g : RxGuard} (good : Good past g) {last_rx : Nat}
    (hlast : g.lora_rx_activity_signal = some last_rx) :
    Good past { g with lora_rx_activity_signal := none, point := .Loop last_rx } where
  clock := good.clock
  newest _ h := by simp at h
  settled _ := good.newest last_rx hlast

theorem Good.try_take {past : List RxGuard.Report} {g : RxGuard} (good : Good past g)
    (hpoint : ∀ at_us, Settled g at_us → at_us + guard_duration ≤ g.now) : Good past g.try_take := by
  unfold RxGuard.try_take
  split
  · exact good.waits le_rfl rfl hpoint
  · rename_i last_rx hlast
    exact good.taken hlast

/-- A report that is no activity adds nothing to wait for. -/
theorem Good.reported {past : List RxGuard.Report} {g : RxGuard} {r : RxGuard.Report}
    (good : Good past g)
    (hr : ∀ at_us, .activity at_us ≠ r) : Good (past ++ [r]) g := by
  have hpast (at_us : Nat) (h : RxGuard.Report.activity at_us ∈ past ++ [r]) :
      RxGuard.Report.activity at_us ∈ past := by
    rcases List.mem_append.mp h with h | h
    · exact h
    · exact absurd (List.mem_singleton.mp h) (hr at_us)
  exact ⟨fun at_us h => good.clock at_us (hpast at_us h),
    fun last_rx hlast at_us h => good.newest last_rx hlast at_us (hpast at_us h),
    fun hnone at_us h => good.settled hnone at_us (hpast at_us h)⟩

theorem good_step {past new : List RxGuard.Report} {g g' : RxGuard} {a : Action} (good : Good past g)
    (h : machine.step g a = some (g', new)) : Good (past ++ new) g' := by
  unfold machine step at h
  dsimp only at h
  split at h
  case h_1 now =>
    simp only [Option.ite_none_right_eq_some, Option.some.injEq, Prod.mk.injEq] at h
    obtain ⟨hnow, rfl, rfl⟩ := h
    exact good.activity hnow
  case h_2 hpoint | h_4 hpoint =>
    obtain ⟨rfl, rfl⟩ := Prod.mk.inj (Option.some.inj h)
    refine (good.try_take fun at_us hsettled => ?_).reported (by simp)
    simpa only [Settled, hpoint] using hsettled
  case h_3 last_rx now hpoint =>
    simp only [Option.ite_none_right_eq_some, Option.map_eq_some_iff, Prod.mk.injEq] at h
    obtain ⟨hnow, deadline, hdeadline, rfl, rfl⟩ := h
    have hwait : deadline = last_rx + guard_duration := by
      unfold checked_add at hdeadline
      split at hdeadline <;> simp_all
    rw [List.append_nil]
    refine good.waits hnow rfl fun at_us hsettled => ?_
    simp only [Settled, hpoint] at hsettled
    split <;> simp only [Settled] <;> omega
  case h_5 hpoint =>
    split at h <;> rename_i hlast
    · simp at h
    · obtain ⟨rfl, rfl⟩ := Prod.mk.inj (Option.some.inj h)
      exact (good.taken hlast).reported (by simp)
  case h_6 deadline now hpoint =>
    simp only [Option.ite_none_right_eq_some, Option.some.injEq, Prod.mk.injEq] at h
    obtain ⟨⟨hnow, hdeadline⟩, rfl, rfl⟩ := h
    rw [List.append_nil]
    refine good.waits hnow rfl fun at_us hsettled => ?_
    simp only [Settled, hpoint] at hsettled ⊢
    exact hsettled.trans hdeadline
  case h_7 now hpoint =>
    simp only [Option.ite_none_right_eq_some, Option.some.injEq, Prod.mk.injEq] at h
    obtain ⟨hnow, rfl, rfl⟩ := h
    have hover : Good past { g with now, point := .Idle } := by
      refine good.waits hnow rfl fun at_us hsettled => ?_
      simp only [Settled, hpoint] at hsettled ⊢
      exact hsettled.trans hnow
    exact hover.reported (by simp)
  case h_8 => simp at h

theorem good_run {past : List RxGuard.Report} {g : RxGuard}
    (run : Machine.Run machine Machine.anyStep past g) : Good past g := by
  refine run.invariant ?_ fun _ _ _ _ _ _ good _ h => good_step good h
  rintro g ⟨hsignal, -⟩
  exact ⟨by simp, fun last_rx hlast => by simp [hsignal] at hlast, fun _ => by simp⟩

/-! ## The last look -/

/-- `g` is behind the look that ends the call. -/
def QuietAtLook (past : List RxGuard.Report) (g : RxGuard) : Prop :=
  g.point = .Return → ∀ before between, past = before ++ .looked :: between → .looked ∉ between →
    ∀ at_us, .activity at_us ∈ before → at_us + guard_duration ≤ g.now

/-- Before the last of the looks, if one more report is no look. -/
theorem before_last_look {past before between : List RxGuard.Report} {r : RxGuard.Report}
    (h : past ++ [r] = before ++ .looked :: between) (hlast : .looked ∉ between) (hr : r ≠ .looked) :
    ∃ between', past = before ++ .looked :: between' ∧ .looked ∉ between' := by
  rcases List.eq_nil_or_concat between with rfl | ⟨between', r', rfl⟩
  · obtain ⟨-, hlook⟩ := List.append_inj' h rfl
    exact absurd (List.singleton_inj.mp hlook) hr
  · rw [List.concat_eq_append, ← List.cons_append, ← List.append_assoc] at h
    obtain ⟨hpast, -⟩ := List.append_inj' h rfl
    refine ⟨between', hpast, fun hmem => hlast ?_⟩
    rw [List.concat_eq_append]
    exact List.mem_append_left _ hmem

theorem at_last_look {past before between : List RxGuard.Report}
    (h : past ++ [.looked] = before ++ .looked :: between) (hlast : .looked ∉ between) :
    before = past := by
  rcases List.eq_nil_or_concat between with rfl | ⟨between', r', rfl⟩
  · exact (List.append_inj' h rfl).1.symm
  · rw [List.concat_eq_append, ← List.cons_append, ← List.append_assoc] at h
    obtain ⟨-, hlook⟩ := List.append_inj' h rfl
    rw [← List.singleton_inj.mp hlook] at hlast
    simp at hlast

/-- The look that finds nothing comes when all that was signalled is over. -/
theorem quiet_try_take {past : List RxGuard.Report} {g : RxGuard} (good : Good past g)
    (hpoint : ∀ at_us, Settled g at_us → at_us + guard_duration ≤ g.now) :
    QuietAtLook (past ++ [.looked]) g.try_take := by
  intro hreturn before between hpast hlast at_us hbefore
  obtain rfl := at_last_look hpast hlast
  unfold RxGuard.try_take at hreturn ⊢
  split at hreturn <;> rename_i hsignal
  · rw [hsignal]
    exact hpoint at_us (good.settled hsignal at_us hbefore)
  · simp at hreturn

theorem quiet_step {past new : List RxGuard.Report} {g g' : RxGuard} {a : Action} (good : Good past g)
    (quiet : QuietAtLook past g) (h : machine.step g a = some (g', new)) :
    QuietAtLook (past ++ new) g' := by
  unfold machine step at h
  dsimp only at h
  split at h
  case h_1 now =>
    simp only [Option.ite_none_right_eq_some, Option.some.injEq, Prod.mk.injEq] at h
    obtain ⟨hnow, rfl, rfl⟩ := h
    intro hreturn before between hpast hlast at_us hbefore
    obtain ⟨between', hpast', hlast'⟩ := before_last_look hpast hlast (by simp)
    exact (quiet hreturn before between' hpast' hlast' at_us hbefore).trans hnow
  case h_2 hpoint | h_4 hpoint =>
    obtain ⟨rfl, rfl⟩ := Prod.mk.inj (Option.some.inj h)
    refine quiet_try_take good fun at_us hsettled => ?_
    simpa only [Settled, hpoint] using hsettled
  -- The other steps do not end the call.
  case h_3 =>
    simp only [Option.ite_none_right_eq_some, Option.map_eq_some_iff, Prod.mk.injEq] at h
    obtain ⟨-, deadline, -, rfl, -⟩ := h
    intro hreturn
    dsimp only at hreturn
    split at hreturn <;> simp at hreturn
  case h_5 =>
    split at h
    · simp at h
    · obtain ⟨rfl, -⟩ := Prod.mk.inj (Option.some.inj h)
      intro hreturn
      simp at hreturn
  case h_6 | h_7 =>
    simp only [Option.ite_none_right_eq_some, Option.some.injEq, Prod.mk.injEq] at h
    obtain ⟨-, rfl, -⟩ := h
    intro hreturn
    simp at hreturn
  case h_8 => simp at h

theorem quiet_run {past : List RxGuard.Report} {g : RxGuard}
    (run : Machine.Run machine Machine.anyStep past g) :
    QuietAtLook past g := by
  refine run.invariant (I := QuietAtLook) ?_ fun _ _ _ _ _ run quiet _ h =>
    quiet_step (good_run run) quiet h
  rintro g ⟨-, hpoint⟩ hreturn
  rw [hpoint] at hreturn
  simp at hreturn

/-! ## When the guard returns -/

theorem returned_at {g g' : RxGuard} {a : Action} {new later : List RxGuard.Report} {now : Nat}
    (h : machine.step g a = some (g', new ++ .returned now :: later)) :
    g.point = .Return ∧ new = [] ∧ g.now ≤ now := by
  unfold machine step at h
  dsimp only at h
  split at h
  case h_7 hpoint =>
    simp only [Option.ite_none_right_eq_some, Option.some.injEq, Prod.mk.injEq] at h
    obtain ⟨hnow, -, hreports⟩ := h
    cases new with
    | nil => exact ⟨hpoint, rfl, (RxGuard.Report.returned.inj (List.cons.inj hreports).1) ▸ hnow⟩
    | cons r new => simp at hreports
  case h_5 => split at h <;> simp [List.cons_eq_append_iff] at h
  all_goals simp [List.cons_eq_append_iff] at h

theorem returns_after_guard {past : List RxGuard.Report} {g : RxGuard}
    (run : Machine.Run machine Machine.anyStep past g) {before between after : List RxGuard.Report}
    {now : Nat}
    (hpast : past = before ++ .looked :: between ++ .returned now :: after)
    (hlast : .looked ∉ between) :
    ∀ at_us, .activity at_us ∈ before → at_us + LORA_RX_TX_GUARD_MS * 1000 ≤ now := by
  intro at_us hbefore
  obtain ⟨past', g', a, g'', new, later, run', hstep, hsplit⟩ := run.reported hpast
  obtain ⟨hpoint, rfl, hnow⟩ := returned_at hstep
  rw [List.append_nil] at hsplit
  exact (quiet_run run' hpoint before between hsplit.symm hlast at_us hbefore).trans hnow

/-- Bytes in the middle of the wait make it longer. -/
def interrupted : List Action :=
  [.activity 1000, .call, .compare 2000, .activity 50000, .timer 61000, .take, .compare 62000,
    .timer 110000, .take, .return_ 110500]

theorem returns_after_guard_interrupted : ∃ past g, Machine.Run machine Machine.anyStep past g ∧
    past = [.activity 1000, .looked, .activity 50000, .looked] ++ .looked :: [] ++ [.returned 110500] ∧
    50000 + LORA_RX_TX_GUARD_MS * 1000 ≤ 110500 := by
  obtain ⟨past, g, run, hpast⟩ : ∃ past g, Machine.Run machine Machine.anyStep past g ∧
      past = [.activity 1000, .looked, .activity 50000, .looked] ++ .looked :: [] ++ [.returned 110500] :=
    Machine.exists_run (fun _ past => past = _) (s := ⟨0, none, .Idle⟩) interrupted ⟨rfl, rfl⟩
      (fun _ _ _ => trivial) (by decide)
  exact ⟨past, g, run, hpast, returns_after_guard run hpast (by simp) 50000 (by simp)⟩

end Comboard.HalfDuplex
