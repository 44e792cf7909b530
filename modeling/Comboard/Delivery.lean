import Comboard.Lib.SameOrder
import Comboard.LoraSteps

/-!
# No envelope of a queue is lost, doubled or reordered

The one deferred slot is enough while an envelope that is no Periodic one is not preempted with the
slot occupied.
-/

namespace Comboard.Delivery

open Lib LoraTx LoraSteps

/-! ## The envelopes of the loop -/

def inHand : LoraPoint → List LoRaTxEnvelope
  | .Prepare _ e _ _ | .Transmit _ e _ _ => [e]
  | _ => []

/-- From the one received first to the one received last, as far as one source goes. -/
def held (h : HeldVars) (point : LoraPoint) : List LoRaTxEnvelope :=
  inHand point ++ (h.deferred_envelope.toList ++ h.pending_recovery.toList)

def received (past : List LoraReport) : List LoRaTxEnvelope :=
  past.filterMap fun
    | .received e => some e
    | _ => none

def attempted (past : List LoraReport) : List LoRaTxEnvelope :=
  past.filterMap fun
    | .attempted e _ _ _ => some e
    | _ => none

/-- The four sources with a queue. -/
def queued (source : LoRaTxSource) : Prop := source ≠ .Periodic

/-- The same envelopes, in the same order for each source with a queue. -/
abbrev SameBySource (l l' : List LoRaTxEnvelope) : Prop :=
  SameOrder LoRaTxEnvelope.source queued l l'

/-! ## Who is in the slots -/

/-- The deferred envelope in front of the one in hand. While it waits behind the selection, it is a
Recovery that fairness blocks. -/
def Deferred (h : HeldVars) (d : LoRaTxEnvelope) : LoraPoint → Prop
  | .Top | .Clear _ => True
  | .Select it =>
    d.source = .Recovery ∧ h.recovery_sent_since_periodic = true ∧ it.periodic_due = true
  | .Snapshot .. | .Build .. => d.source = .Recovery ∧ h.recovery_sent_since_periodic = true
  | .Prepare _ e _ _ =>
    d.source = .Recovery ∧ h.recovery_sent_since_periodic = true ∧ e.source ≠ .Recovery
  | .Transmit _ e _ _ => d.source ≠ e.source

structure Slots (h : HeldVars) (point : LoraPoint) : Prop where
  deferred : ∀ d, h.deferred_envelope = some d → d.source ≠ .Periodic ∧ Deferred h d point
  /-- Of the Recovery envelopes, one is held. -/
  single : ∀ e ∈ inHand point ++ h.deferred_envelope.toList, e.source = .Recovery →
    h.pending_recovery = none

theorem Slots.of_none {h : HeldVars} {point : LoraPoint} (hd : h.deferred_envelope = none)
    (hpoint : ∀ e ∈ inHand point, e.source = .Recovery → h.pending_recovery = none) :
    Slots h point :=
  ⟨by simp [hd], by simpa [hd] using hpoint⟩

/-- Recovery is not received while a deferred envelope is blocked. -/
theorem Slots.free {h : HeldVars} {it : Iteration} (slots : Slots h (.Select it))
    (hallowed : h.recovery_sent_since_periodic = true → it.periodic_due = false) :
    h.deferred_envelope = none := by
  cases hd : h.deferred_envelope with
  | none => rfl
  | some d =>
    obtain ⟨-, -, hsent, hdue⟩ := slots.deferred d hd
    rw [hallowed hsent] at hdue
    cases hdue

/-- Whoever takes the next Recovery envelope takes the pending one. -/
theorem single_gets {s s' : LoraShared} {h : HeldVars} {pending : Option LoRaTxEnvelope}
    {source : LoRaTxSource} {e : LoRaTxEnvelope} {reports : List LoraReport}
    {l : List LoRaTxEnvelope} (placed : Placed s h)
    (gets : Gets s h.pending_recovery source e s' pending reports)
    (hl : ∀ x ∈ l, x.source = .Recovery → h.pending_recovery = none) :
    ∀ x ∈ e :: l, x.source = .Recovery → pending = none := by
  intro x hx hrecovery
  rcases List.mem_cons.mp hx with rfl | hx
  · obtain rfl := (gets.source placed).symm.trans hrecovery
    exact gets.recovery_pending
  · exact gets.pending.elim id fun hp => hp.trans (hl x hx hrecovery)

theorem slots_preempted {now : Nat} {s s' : LoraShared} {h : HeldVars} {it : Iteration}
    {e e' : LoRaTxEnvelope} {regular displaced : Bool} {choice choice' : Choice}
    {source : LoRaTxSource} {pending : Option LoRaTxEnvelope} {reports : List LoraReport}
    (placed : Placed s h) (slots : Slots h (.Prepare it e regular choice))
    (replaces : Replaces s h it e.source now source e')
    (gets : Gets s h.pending_recovery source e' s' pending reports) :
    Slots
      { h with
        pending_recovery := pending
        deferred_envelope := if should_defer_preempted e.source then some e else h.deferred_envelope }
      (.Transmit it e' displaced choice') := by
  obtain ⟨hdeferred, hsingle⟩ := slots
  have hsource := gets.source placed
  by_cases hperiodic : e.source = .Periodic
  · have hdropped : should_defer_preempted e.source = false := by
      simp [should_defer_preempted, hperiodic]
    simp only [hdropped, Bool.false_eq_true, if_false]
    refine ⟨fun d hd => ?_,
      single_gets placed gets fun x hx => hsingle x (List.mem_append_right _ hx)⟩
    obtain ⟨hd', hd'', hsent, -⟩ := hdeferred d hd
    exact ⟨hd', fun h => replaces.not_recovery hsent (hsource.symm.trans (h.symm.trans hd''))⟩
  · have hkept : should_defer_preempted e.source = true := by
      simp [should_defer_preempted, hperiodic]
    simp only [hkept, if_true]
    refine ⟨fun d hd => ?_,
      single_gets placed gets fun x hx => hsingle x (List.mem_append_left _ hx)⟩
    obtain rfl := Option.some.inj hd
    exact ⟨hperiodic, (hsource ▸ higher_ne replaces.higher).symm⟩

theorem slots_turn {now : Nat} {s s' : LoraShared} {h h' : HeldVars} {point point' : LoraPoint}
    {reports : List LoraReport} (placed : Placed s h) (slots : Slots h point)
    (turn : Turn now s h point s' h' point' reports) : Slots h' point' := by
  have hdeferred := slots.deferred
  have hsingle := slots.single
  cases turn with
  | @deferred it e held =>
    exact .of_none rfl fun e' he' => hsingle e' (by simpa [inHand, held] using he')
  | waits hdue blocked =>
    exact ⟨fun d hd => ⟨(hdeferred d hd).1, blocked d hd⟩, hsingle⟩
  | selected gets allowed =>
    refine ⟨fun d hd => ?_, single_gets placed gets hsingle⟩
    obtain ⟨hd', hd'', hsent, hdue⟩ := hdeferred d hd
    refine ⟨hd', hd'', hsent, fun hrecovery => ?_⟩
    rw [(allowed ((gets.source placed).symm.trans hrecovery) hsent).1] at hdue
    cases hdue
  | put_back gets allowed =>
    exact .of_none (slots.free allowed) (by simp [inHand])
  | periodic | control_roll =>
    refine ⟨fun d hd => ?_, hsingle⟩
    obtain ⟨hd', hd'', hsent, -⟩ := hdeferred d hd
    exact ⟨hd', hd'', hsent⟩
  | snapshot => exact ⟨hdeferred, hsingle⟩
  | no_event_packet | no_packet | cleared =>
    exact ⟨fun d hd => ⟨(hdeferred d hd).1, trivial⟩, hsingle⟩
  | built =>
    refine ⟨fun d hd => ?_, fun e he hrecovery => ?_⟩
    · obtain ⟨hd', hd'', hsent⟩ := hdeferred d hd
      exact ⟨hd', hd'', hsent, by simp [LoRaTxEnvelope.periodic]⟩
    · rcases List.mem_cons.mp he with rfl | he
      · simp [LoRaTxEnvelope.periodic] at hrecovery
      · exact hsingle e he hrecovery
  | kept =>
    refine ⟨fun d hd => ?_, hsingle⟩
    obtain ⟨hd', hd'', hsent, he⟩ := hdeferred d hd
    exact ⟨hd', fun h => he (h.symm.trans hd'')⟩
  | preempted replaces gets =>
    exact slots_preempted placed slots replaces gets
  | prepare_failed =>
    exact ⟨fun d hd => ⟨(hdeferred d hd).1, trivial⟩,
      fun e he => hsingle e (List.mem_append_right _ (by simpa [inHand] using he))⟩
  | transmitted _ hafter =>
    subst hafter
    refine ⟨fun d hd => ⟨(hdeferred d hd).1, by split <;> trivial⟩,
      fun e he => hsingle e (List.mem_append_right _ ?_)⟩
    split at he <;> simpa [inHand] using he

theorem slots_run {ok : LoraTx → Action → Prop} {past : List LoraReport} {w : LoraTx}
    (run : Machine.Run machine ok past w) : Slots w.loop.toHeldVars w.point := by
  refine run.invariant (I := fun _ w => Slots w.loop.toHeldVars w.point) ?_ ?_
  · rintro w ⟨started_at, now, -, -, rfl⟩
    exact .of_none rfl (by simp [inHand])
  · intro past w a w' reports run slots _ h
    cases step_stepped h with
    | other _ _ hloop hpoint => rwa [hloop, hpoint]
    | turn _ _ turn => exact slots_turn (placed_run run) slots turn

/-! ## The condition -/

/-- Nothing preempts a prepared envelope, other than a Periodic one, while the slot is occupied. -/
def SlotFree (w : LoraTx) : Action → Prop
  | .prepared _ =>
    match w.point with
    | .Prepare _ e _ _ =>
      w.loop.deferred_envelope.isSome → e.source ≠ .Periodic →
        ∀ source, is_higher_priority source e.source = true → queue w.shared source = []
    | _ => True
  | _ => True

instance instDecidableSlotFree (w : LoraTx) (a : Action) : Decidable (SlotFree w a) := by
  unfold SlotFree
  split
  · split <;> infer_instance
  · infer_instance

/-- Only a reselection reports a preemption. -/
theorem preempted_prepared {w w' : LoraTx} {a : Action} {reports : List LoraReport}
    {it : Iteration} {e e' : LoRaTxEnvelope} {regular kept : Bool} {choice : Choice} {now : Nat}
    (hpoint : w.point = .Prepare it e regular choice)
    (h : step_loop { w with now } a = some (w', reports)) (hr : .preempted e' kept ∈ reports) :
    ∃ now, a = .prepared now := by
  unfold step_loop at h
  simp only [hpoint] at h
  cases a with
  | prepared now => exact ⟨now, rfl⟩
  | prepare_failed =>
    obtain ⟨-, rfl⟩ := Prod.mk.inj (Option.some.inj h)
    simp at hr
  | _ => simp at h

theorem preempted_replaces {now : Nat} {s s' : LoraShared} {h h' : HeldVars} {point' : LoraPoint}
    {reports : List LoraReport} {it : Iteration} {e e' : LoRaTxEnvelope} {regular kept : Bool}
    {choice : Choice} (turn : Turn now s h (.Prepare it e regular choice) s' h' point' reports)
    (hr : .preempted e' kept ∈ reports) :
    ∃ source e'', Replaces s h it e.source now source e'' := by
  cases turn with
  | preempted replaces => exact ⟨_, _, replaces⟩
  | kept | prepare_failed => simp at hr

/-- The slot is free when an envelope goes into it. -/
theorem SlotFree.free {w : LoraTx} {now now' : Nat} {it : Iteration} {e e' : LoRaTxEnvelope}
    {regular : Bool} {choice : Choice} {source : LoRaTxSource}
    (hok : SlotFree w (.prepared now)) (hpoint : w.point = .Prepare it e regular choice)
    (hperiodic : e.source ≠ .Periodic)
    (replaces : Replaces w.shared w.loop.toHeldVars it e.source now' source e') :
    w.loop.deferred_envelope = none := by
  rw [← Option.not_isSome_iff_eq_none]
  intro hsome
  simp only [SlotFree, hpoint] at hok
  have hempty := hok hsome hperiodic source replaces.higher
  have holdest := replaces.oldest
  cases source with
  | Recovery => exact hperiodic (recovery_higher replaces.higher)
  | _ => simp [waiting, hempty] at holdest

/-! ## Nothing is lost -/

theorem received_append (past reports : List LoraReport) :
    received (past ++ reports) = received past ++ received reports := List.filterMap_append

theorem attempted_append (past reports : List LoraReport) :
    attempted (past ++ reports) = attempted past ++ attempted reports := List.filterMap_append

theorem gets_attempts {s s' : LoraShared} {pending pending' : Option LoRaTxEnvelope}
    {source : LoRaTxSource} {e : LoRaTxEnvelope} {reports : List LoraReport}
    (gets : Gets s pending source e s' pending' reports) : attempted reports = [] := by
  cases gets <;> rfl

/-- What is pending, and what is received behind it, is what comes into hand. -/
theorem gets_accounts {s s' : LoraShared} {h : HeldVars} {pending : Option LoRaTxEnvelope}
    {source : LoRaTxSource} {e : LoRaTxEnvelope} {reports : List LoraReport} (placed : Placed s h)
    (gets : Gets s h.pending_recovery source e s' pending reports) :
    SameBySource (h.pending_recovery.toList ++ received reports) (e :: pending.toList) := by
  have hsource := gets.source placed
  cases gets with
  | held hpending =>
    rw [hpending]
    exact .refl [e]
  | queued _ hfree =>
    refine .pass fun p hp hsame => ?_
    rw [Option.mem_toList] at hp
    have hrecovery := placed.pending p hp
    rw [hfree (hsource.symm.trans (hsame.symm.trans hrecovery))] at hp
    cases hp

/-- It passes what is held of other sources. -/
theorem gets_in_front {s s' : LoraShared} {h : HeldVars} {pending : Option LoRaTxEnvelope}
    {source : LoRaTxSource} {e : LoRaTxEnvelope} {reports : List LoraReport}
    {l : List LoRaTxEnvelope} (placed : Placed s h)
    (gets : Gets s h.pending_recovery source e s' pending reports)
    (hl : ∀ d ∈ l, d.source ≠ e.source) :
    SameBySource (l ++ h.pending_recovery.toList ++ received reports)
      (e :: (l ++ pending.toList)) := by
  rw [List.append_assoc]
  calc SameBySource (l ++ (h.pending_recovery.toList ++ received reports))
        (l ++ e :: pending.toList) := (gets_accounts placed gets).append_left l
    SameBySource _ (e :: l ++ pending.toList) := by
        rw [List.append_cons]
        exact (SameOrder.pass hl).append_right _

/-- Every envelope that comes in stays in the loop until it is attempted. -/
def Accounts (h : HeldVars) (point : LoraPoint) (h' : HeldVars) (point' : LoraPoint)
    (reports : List LoraReport) : Prop :=
  SameBySource (held h point ++ received reports) (attempted reports ++ held h' point')

theorem Accounts.of_held {h h' : HeldVars} {point point' : LoraPoint} {reports : List LoraReport}
    (hr : received reports = [])
    (hheld : SameBySource (held h point) (attempted reports ++ held h' point')) :
    Accounts h point h' point' reports := by
  unfold Accounts
  rw [hr, List.append_nil]
  exact hheld

/-- A Periodic envelope is dropped. Another one moves into the slot, which is free. -/
theorem preempted_accounts {s s' : LoraShared} {h : HeldVars} {it : Iteration}
    {e e' : LoRaTxEnvelope} {regular displaced : Bool} {choice choice' : Choice}
    {source : LoRaTxSource} {pending : Option LoRaTxEnvelope} {reports : List LoraReport}
    (placed : Placed s h) (gets : Gets s h.pending_recovery source e' s' pending reports)
    (hafter : Slots
      { h with
        pending_recovery := pending
        deferred_envelope := if should_defer_preempted e.source then some e else h.deferred_envelope }
      (.Transmit it e' displaced choice'))
    (hfree : e.source ≠ .Periodic → h.deferred_envelope = none) :
    Accounts h (.Prepare it e regular choice)
      { h with
        pending_recovery := pending
        deferred_envelope := if should_defer_preempted e.source then some e else h.deferred_envelope }
      (.Transmit it e' displaced choice')
      (reports ++ [.preempted e (should_defer_preempted e.source)]) := by
  generalize hdeferred :
    (if should_defer_preempted e.source then some e else h.deferred_envelope) = deferred at hafter ⊢
  have hheld : SameBySource (held h (.Prepare it e regular choice))
      (deferred.toList ++ h.pending_recovery.toList) := by
    by_cases hperiodic : e.source = .Periodic
    · rw [← hdeferred, hperiodic]
      exact .ignore (by simp [queued, hperiodic]) _
    · have hkept : should_defer_preempted e.source = true := by
        simp [should_defer_preempted, hperiodic]
      rw [← hdeferred, if_pos hkept]
      simp only [held, hfree hperiodic]
      exact .refl _
  unfold Accounts
  rw [received_append, attempted_append, gets_attempts gets]
  calc SameBySource (held h (.Prepare it e regular choice) ++ (received reports ++ []))
        (deferred.toList ++ h.pending_recovery.toList ++ received reports) := by
        rw [List.append_nil]
        exact hheld.append_right _
    SameBySource _ (e' :: (deferred.toList ++ pending.toList)) :=
        gets_in_front placed gets fun d hd => (hafter.deferred d (Option.mem_toList.mp hd)).2

theorem accounts_turn {now : Nat} {s s' : LoraShared} {h h' : HeldVars} {point point' : LoraPoint}
    {reports : List LoraReport} (placed : Placed s h) (slots : Slots h point)
    (turn : Turn now s h point s' h' point' reports)
    (hfree : ∀ it e regular choice e' kept, point = .Prepare it e regular choice →
      .preempted e' kept ∈ reports → e.source ≠ .Periodic → h.deferred_envelope = none) :
    Accounts h point h' point' reports := by
  have hafter := slots_turn placed slots turn
  cases turn with
  | deferred hd =>
    refine .of_held rfl ?_
    simp only [held, inHand, hd]
    exact .refl _
  | waits | periodic | control_roll | snapshot | no_event_packet | no_packet | kept | cleared
  | prepare_failed => exact .of_held rfl (.refl _)
  | selected gets =>
    unfold Accounts
    rw [gets_attempts gets]
    refine gets_in_front placed gets fun d hd => ?_
    obtain ⟨-, hd', -, he⟩ := hafter.deferred d (Option.mem_toList.mp hd)
    exact fun h => he (h.symm.trans hd')
  | put_back gets allowed =>
    unfold Accounts
    rw [gets_attempts gets]
    have haccounts := gets_accounts placed gets
    rw [gets.recovery_pending] at haccounts
    simpa [held, inHand, slots.free allowed] using haccounts
  | built =>
    exact .of_held rfl (SameOrder.ignore (by simp [queued, LoRaTxEnvelope.periodic]) _).symm
  | preempted replaces gets =>
    exact preempted_accounts placed gets hafter
      (hfree _ _ _ _ _ _ rfl (List.mem_append_right _ List.mem_cons_self))
  | transmitted _ hpoint =>
    subst hpoint
    refine .of_held rfl ?_
    split <;> exact .refl _

/-! ## Over a run -/

theorem gets_received {s s' : LoraShared} {h : HeldVars} {pending : Option LoRaTxEnvelope}
    {source : LoRaTxSource} {e : LoRaTxEnvelope} {reports : List LoraReport} (placed : Placed s h)
    (gets : Gets s h.pending_recovery source e s' pending reports) :
    ∀ x ∈ received reports, queued x.source := by
  intro x hx
  have hperiodic := gets.not_periodic placed
  cases gets with
  | held => simp [received] at hx
  | queued =>
    obtain rfl : x = e := by simpa [received] using hx
    exact hperiodic

theorem turn_received {now : Nat} {s s' : LoraShared} {h h' : HeldVars} {point point' : LoraPoint}
    {reports : List LoraReport} (placed : Placed s h)
    (turn : Turn now s h point s' h' point' reports) : ∀ x ∈ received reports, queued x.source := by
  cases turn with
  | selected gets | put_back gets => exact gets_received placed gets
  | preempted _ gets =>
    intro x hx
    rw [received_append] at hx
    exact gets_received placed gets x (by simpa [received] using hx)
  | _ => simp [received]

/-- Only a Periodic envelope is dropped. -/
theorem turn_dropped {now : Nat} {s s' : LoraShared} {h h' : HeldVars} {point point' : LoraPoint}
    {reports : List LoraReport} (turn : Turn now s h point s' h' point' reports) :
    ∀ e, .preempted e false ∈ reports → e.source = .Periodic := by
  intro e he
  cases turn with
  | selected gets | put_back gets => cases gets <;> simp at he
  | preempted _ gets =>
    have hkept : should_defer_preempted e.source = false := by cases gets <;> simp_all
    simpa [should_defer_preempted] using hkept
  | _ => simp at he

theorem other_quiet {cache cache' : CanCache} {reports : List LoraReport}
    (cached : Cached cache cache' reports) : received reports = [] ∧ attempted reports = [] := by
  cases cached <;> exact ⟨rfl, rfl⟩

/-- What became of the envelopes that came out of their queues. -/
structure Delivered (past : List LoraReport) (w : LoraTx) : Prop where
  queued : ∀ e ∈ received past, e.source ≠ .Periodic
  /-- Each was attempted once, or is still held. The attempts are in the order of arrival. -/
  in_order : ∀ source, source ≠ .Periodic →
    (received past).filter (·.source = source) =
      (attempted past).filter (·.source = source) ++
        (held w.loop.toHeldVars w.point).filter (·.source = source)
  dropped : ∀ e, .preempted e false ∈ past → e.source = .Periodic

theorem sameBySource_iff {l l₁ l₂ : List LoRaTxEnvelope} :
    SameBySource l (l₁ ++ l₂) ↔ ∀ source, source ≠ .Periodic →
      l.filter (·.source = source) =
        l₁.filter (·.source = source) ++ l₂.filter (·.source = source) := by
  simp only [SameOrder, queued, List.filter_append]

theorem delivered_step {past reports : List LoraReport} {w w' : LoraTx} {a : Action}
    (run : Machine.Run machine SlotFree past w) (delivered : Delivered past w) (hok : SlotFree w a)
    (h : machine.step w a = some (w', reports)) : Delivered (past ++ reports) w' := by
  have placed := placed_run run
  have slots := slots_run run
  cases step_stepped h with
  | other _ arrives hloop hpoint =>
    obtain ⟨hreceived, hattempted⟩ := other_quiet arrives.cached
    refine ⟨?_, ?_, fun e he => ?_⟩
    · rw [received_append, hreceived, List.append_nil]
      exact delivered.queued
    · rw [received_append, attempted_append, hreceived, hattempted, hloop, hpoint, List.append_nil,
        List.append_nil]
      exact delivered.in_order
    · rcases List.mem_append.mp he with he | he
      · exact delivered.dropped e he
      · obtain ⟨flags, hflags⟩ := arrives.cached.mission _ he
        cases hflags
  | turn _ hstep turn =>
    have hfree : ∀ it e regular choice e' kept, w.point = .Prepare it e regular choice →
        .preempted e' kept ∈ reports → e.source ≠ .Periodic →
          w.loop.deferred_envelope = none := by
      intro it e regular choice e' kept hpoint hr hperiodic
      obtain ⟨now', rfl⟩ := preempted_prepared hpoint hstep hr
      obtain ⟨source, e'', replaces⟩ := preempted_replaces (hpoint ▸ turn) hr
      exact hok.free hpoint hperiodic replaces
    refine ⟨fun x hx => ?_, sameBySource_iff.mp ?_, fun e he => ?_⟩
    · rw [received_append] at hx
      exact (List.mem_append.mp hx).elim (delivered.queued x) (turn_received placed turn x)
    · rw [received_append, attempted_append]
      calc SameBySource (received past ++ received reports)
            (attempted past ++ (held w.loop.toHeldVars w.point ++ received reports)) := by
            rw [← List.append_assoc]
            exact (sameBySource_iff.mpr delivered.in_order).append_right _
        SameBySource _ (attempted past ++
            (attempted reports ++ held w'.loop.toHeldVars w'.point)) :=
            (accounts_turn placed slots turn hfree).append_left _
        SameBySource _ ((attempted past ++ attempted reports) ++
            held w'.loop.toHeldVars w'.point) := by
            rw [List.append_assoc]
            exact .refl _
    · exact (List.mem_append.mp he).elim (delivered.dropped e) (turn_dropped turn e)

theorem delivers {past : List LoraReport} {w : LoraTx}
    (run : Machine.Run machine SlotFree past w) : Delivered past w := by
  refine run.invariant (I := fun past w => Delivered past w) ?_ ?_
  · rintro w ⟨started_at, now, -, -, rfl⟩
    exact ⟨by simp [received], fun _ _ => rfl, by simp⟩
  · exact fun past w a w' reports run delivered hok h => delivered_step run delivered hok h

/-! ## The slot is overwritten

A Recovery envelope is deferred and blocked by fairness. A command result is selected, and an
emergency result preempts it too.
-/

/-- The second Recovery envelope is preempted and waits in the slot. The periodic slot comes due, and
a command result is selected. -/
def deferredRecovery : List Action :=
  [.queue_recovery_chunk (chunk 0), .begin_iteration 0, .select 10 20 30, .prepared 20000,
    .transmitted true 100000 100010, .begin_iteration 100020, .queue_recovery_chunk (chunk 16),
    .select 300000 300010 300020, .queue_emergency_result (result 1), .prepared 310000,
    .transmitted true 499980 499990, .begin_iteration 500000,
    .queue_command_result (result 2).packet, .select 500010 500020 500030]

def overwrite : List Action := deferredRecovery ++ [.queue_emergency_result (result 3), .prepared 510000]

/-- A Recovery envelope was received. It was not attempted, and it is not held. -/
abbrev RecoveryLost (past : List LoraReport) (w : LoraTx) : Prop :=
  (received past).filter (·.source = .Recovery) ≠
    (attempted past).filter (·.source = .Recovery) ++
      (held w.loop.toHeldVars w.point).filter (·.source = .Recovery)

theorem deferred_recovery_lost :
    ¬ ∀ past w, Machine.Run machine Machine.anyStep past w → Delivered past w := by
  intro h
  have hrun : ∃ past w, Machine.Run machine Machine.anyStep past w ∧ RecoveryLost past w :=
    Machine.exists_run (fun w past => RecoveryLost past w) overwrite entered_starts
      (fun _ _ _ => trivial) (by decide +kernel)
  obtain ⟨past, w, run, hlost⟩ := hrun
  exact hlost ((h past w run).in_order .Recovery (by decide))

/-- No emergency result comes, and the command result goes out in front of the deferred Recovery
envelope. -/
theorem delivers_behind_deferred : ∃ past w, Machine.Run machine SlotFree past w ∧
    (attempted past).map (·.source) = [.Recovery, .EmergencyResult, .CommandResult] ∧
      (held w.loop.toHeldVars w.point).map (·.source) = [.Recovery] ∧ Delivered past w := by
  have hrun : ∃ past w, Machine.Run machine SlotFree past w ∧
      (attempted past).map (·.source) = [.Recovery, .EmergencyResult, .CommandResult] ∧
        (held w.loop.toHeldVars w.point).map (·.source) = [.Recovery] :=
    Machine.exists_checked_run
      (fun w past =>
        (attempted past).map (·.source) = [.Recovery, .EmergencyResult, .CommandResult] ∧
          (held w.loop.toHeldVars w.point).map (·.source) = [.Recovery])
      (deferredRecovery ++ [.prepared 510000, .transmitted true 600000 600010]) entered_starts
      (by decide +kernel)
  obtain ⟨past, w, run, hattempted, hheld⟩ := hrun
  exact ⟨past, w, run, hattempted, hheld, delivers run⟩

end Comboard.Delivery
